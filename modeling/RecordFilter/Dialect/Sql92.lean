import RecordFilter.Dialect.Basic

/-!
# The SQL-92 dialect

The conditions of subscription filters. Only fields of the record itself can be named, and the only
functions are the string matches, which become patterns.
-/

namespace RecordFilter
namespace Dialect

/-- The symbol of a comparison. -/
def sqlComparison : Comparison → String
  | .eq => "="
  | .ne => "!="
  | .gt => ">"
  | .ge => ">="
  | .lt => "<"
  | .le => "<="

/-- An arithmetic expression. -/
def sqlArithmetic (op : Arithmetic) (left right : Text) : Text :=
  let infixed (symbol : Char) := left ++ ' ' :: symbol :: ' ' :: right
  match op with
  | .add => infixed '+'
  | .sub => infixed '-'
  | .mul => infixed '*'
  | .div => infixed '/'
  | .mod => "MOD(".toList ++ left ++ ", ".toList ++ right ++ [')']

/-- A property, which must be a field of the record itself. -/
def sqlProperty (path : PropertyPath) : Rendered :=
  match path.segments with
  | [name] => .ok name.toList
  | _ => .error (.navigation (path.join "."))

/-- A pattern condition. The quotes of the needle are dropped. -/
def sqlLike (function : Function) (arguments : List Text) (wanted : Bool) : Rendered :=
  let condition (haystack needle before after : Text) : Rendered :=
    let word := if wanted then " LIKE '" else " NOT LIKE '"
    .ok (haystack ++ word.toList ++ before ++ needle.filter (· != '\'') ++ after ++ ['\''])
  match function, arguments with
  | .substringOf, [needle, haystack] => condition haystack needle ['%'] ['%']
  | .endsWith, [haystack, needle] => condition haystack needle ['%'] []
  | .startsWith, [haystack, needle] => condition haystack needle [] ['%']
  | function, _ => .error (.function function.name)

/-- A function call. -/
def sqlCall (function : Function) (arguments : List Text) : Rendered :=
  if function.isStringMatch then sqlLike function arguments true
  else .error (.function function.name)

/-- The SQL-92 dialect. -/
def sql92 : Dialect where
  negation := "NOT".toList
  connective op := match op with
    | .and => "AND".toList
    | .or => "OR".toList
  comparison op := (sqlComparison op).toList
  arithmetic := sqlArithmetic
  literal := plainLiteral "TRUE" "FALSE"
  property := sqlProperty
  standaloneProperty t := t ++ " = TRUE".toList
  call function arguments _ := sqlCall function arguments
  stringMatch? function arguments wanted := some (sqlLike function arguments wanted)

end Dialect
end RecordFilter
