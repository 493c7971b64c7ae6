import RecordFilter.Filter.SyntaxError
import RecordFilter.Text.Percent
import RecordFilter.Url.Basic

/-!
# Query options

A query asks for a filter, an order, a selection of fields and a window of the records. It is read
from pairs of a key and a value or from the query part of a URL, and written in the same form.
-/

namespace RecordFilter

/-- One key of an order. -/
structure SortKey where
  path : Text
  descending : Bool
deriving DecidableEq, Repr

/-- What a query asks for. -/
structure QueryOptions where
  filter : Option Text := none
  orderBy : List SortKey := []
  select : List Text := []
  skip : Option Nat := none
  top : Option Nat := none
deriving DecidableEq, Repr

/-- Why a query is rejected. -/
inductive QueryError where
  | filter (error : SyntaxError)
  | invalidValue (option value : Text)
  | unknownField (name : Text)
  | invalidOperator (key : Text)
  | notSupported (operator : String)

namespace QueryError

/-- The text of the error. -/
def message : QueryError → String
  | filter error => error.message
  | invalidValue option value =>
    s!"invalid value '{String.ofList value}' for query option '{String.ofList option}'"
  | unknownField name => s!"field '{String.ofList name}' does not exist on the record type"
  | invalidOperator key => s!"'{String.ofList key}' is not a valid query operator"
  | notSupported operator =>
    s!"The query operator '{operator}' is not supported for event streams"

end QueryError

namespace SortKey

/-- The key as it is written in a query. -/
def render (key : SortKey) : Text :=
  if key.descending then key.path ++ " desc".toList else key.path

/-- Reads a key: a path, and possibly the word `desc` after blanks. Blank text is no key. -/
def read? (t : Text) : Option SortKey :=
  match (Text.splitWhere Text.isBlankChar t).filter fun word => !word.isEmpty with
  | [] => none
  | path :: rest =>
    some ⟨path, rest.head?.any fun word => Text.eqIgnoreCase word "desc".toList⟩

end SortKey

namespace QueryOptions

/-! ## Reading -/

/-- Reads a count. A negative one counts as none. -/
def readCount (key value : Text) : Except QueryError (Option Nat) :=
  match Numeral.int64? (Text.trim value) with
  | none => .error (.invalidValue key value)
  | some n => .ok (if n.toInt < 0 then none else some n.toInt.toNat)

/-- The names in a list with commas; blank ones do not count. -/
def readNames (value : Text) : List Text :=
  ((Text.split ',' value).map Text.trim).filter fun name => !name.isEmpty

/-- A filter together with one that was there before. -/
def joinFilters (existing : Option Text) (value : Text) : Text :=
  match existing with
  | some existing => '(' :: existing ++ ") and (".toList ++ value ++ [')']
  | none => value

/-- Adds what a pair of a key and a value asks for. Keys that do not begin with a dollar sign are not
looked at. -/
def withPair (options : QueryOptions) (key value : Text) : Except QueryError QueryOptions :=
  let key := Text.trim key
  match key with
  | '$' :: operator =>
    match String.ofList operator with
    | "filter" => .ok { options with filter := some (joinFilters options.filter value) }
    | "orderby" =>
      .ok { options with
        orderBy := options.orderBy ++ (Text.split ',' value).filterMap SortKey.read? }
    | "select" => .ok { options with select := options.select ++ readNames value }
    | "skip" => (readCount key value).map fun skip => { options with skip }
    | "top" => (readCount key value).map fun top => { options with top }
    | _ => .error (.invalidOperator key)
  | _ => .ok options

/-- The options that pairs of a key and a value ask for. -/
def ofPairs (pairs : List (Text × Text)) : Except QueryError QueryOptions :=
  pairs.foldlM (fun options (key, value) => options.withPair key value) {}

/-- Decodes a key or a value of a query. -/
def decode (t : Text) : Except QueryError Text :=
  let t := Percent.plusToSpace t
  match Utf8.decode? (Percent.bytes t) with
  | some decoded => .ok decoded
  | none => .error (.invalidValue "query string".toList t)

/-- Decodes one part of a query. -/
def decodePart (part : Text) : Except QueryError (Text × Text) :=
  let (key, value) := (Text.cutAt? '=' part).getD (part, [])
  (decode key).bind fun key => (decode value).map (key, ·)

/-- Reads a query, possibly with question marks in front. -/
def read (t : Text) : Except QueryError QueryOptions :=
  let query := (Text.trim t).dropWhile (· == '?')
  (((Text.split '&' query).filter fun part => !part.isEmpty).mapM decodePart).bind ofPairs

/-! ## Writing -/

/-- A pair, if there is a value. -/
def part (key : String) (value : Option Text) : List (Text × Text) :=
  value.toList.map (key.toList, ·)

/-- The list with commas in between, if it is not empty. -/
def listed (pieces : List Text) : Option Text :=
  if pieces.isEmpty then none else some (Text.join [','] pieces)

/-- The pairs that ask for the options. A blank filter asks for nothing. -/
def pairs (options : QueryOptions) : List (Text × Text) :=
  part "$filter" (options.filter.filter fun filter => !Text.isBlank filter)
    ++ part "$orderby" (listed (options.orderBy.map SortKey.render))
    ++ part "$select" (listed options.select)
    ++ part "$skip" (options.skip.map Numeral.ofNat)
    ++ part "$top" (options.top.map Numeral.ofNat)

/-- A key and its value with an equals sign in between. -/
def equation (pair : Text × Text) : Text :=
  pair.1 ++ '=' :: pair.2

/-- The query that asks for the options, with encoded values. -/
def render (options : QueryOptions) : Text :=
  Text.join ['&'] (options.pairs.map fun (key, value) => equation (key, Percent.encode value))

/-- The URL with the options as its query. -/
def url (options : QueryOptions) (base : Url) : Url :=
  let query := options.render
  base.withQuery (if query.isEmpty then none else some query)

end QueryOptions
end RecordFilter
