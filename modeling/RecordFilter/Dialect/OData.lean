import RecordFilter.Dialect.Basic

/-!
# The OData dialect

The filter language that the parser reads. Decimals end in `M`, the names of a path are separated by
slashes, and a string match that stands alone is compared with `true`.
-/

namespace RecordFilter
namespace Dialect

/-- A literal. -/
def odataLiteral : Value → Rendered
  | .decimal d => .ok (d.render ++ ['M'])
  | value => plainLiteral "true" "false" value

/-- A function call. -/
def odataCall (function : Function) (arguments : List Text) (inside : Bool) : Rendered :=
  let call := function.name.toList ++ '(' :: Text.join ", ".toList arguments ++ [')']
  .ok (if function.isStringMatch && !inside then call ++ " eq true".toList else call)

/-- The OData dialect. -/
def odata : Dialect where
  negation := "not".toList
  connective op := op.keyword.toList
  comparison op := op.keyword.toList
  arithmetic op left right := left ++ ' ' :: op.keyword.toList ++ ' ' :: right
  literal := odataLiteral
  property path := .ok path.render.toList
  standaloneProperty t := t
  call := odataCall
  stringMatch? _ _ _ := none

end Dialect
end RecordFilter
