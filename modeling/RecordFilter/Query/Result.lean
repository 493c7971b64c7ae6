import RecordFilter.Evaluation.Evaluator
import RecordFilter.Filter.Parser
import RecordFilter.Query.Selection

/-!
# Answers to queries

The records that a query asks for: those that the filter accepts, in the order that was asked for, of
these the window, and of each the selected fields.
-/

namespace RecordFilter

/-- A record as something to evaluate predicates on. -/
def Record.reader (record : Record) : FieldReader :=
  fun name => FieldMap.get? record name

namespace FilterParser

/-- A filter that is ready for records. -/
def compile (p : FilterParser) (newGuid : Guid) (filter : Text) : Except SyntaxError CompiledFilter :=
  (p.parse newGuid filter).map (⟨·, p.options.flagsMatch⟩)

end FilterParser

/-! ## Order -/

namespace SortKey

/-- The value of a record at a path. What is missing or cannot be reached is null. -/
def valueAt (record : Record) (path : PropertyPath) : Value :=
  path.segments.foldl (fun value name => (value.field? name).getD .null) (.object record)

/-- The order of two values: null comes first, and values that cannot be compared are equal. -/
def order (a b : Value) : Ordering :=
  match a.isNull, b.isNull with
  | true, true => .eq
  | true, false => .lt
  | false, true => .gt
  | false, false =>
    match a.compare b with
    | .ok order => order
    | .error _ => .eq

/-- The order of two lists of values, one for each direction. -/
def orderBy : List Bool → List Value → List Value → Ordering
  | descending :: rest, a :: as, b :: bs =>
    (if descending then order b a else order a b).then (orderBy rest as bs)
  | _, _, _ => .eq

/-- The keys of a query that lead to a property. Others do not count. -/
def resolve (schema : RecordType) (keys : List SortKey) : List (PropertyPath × Bool) :=
  keys.filterMap fun key => (schema.resolvePath? key.path).map fun (path, _) => (path, key.descending)

/-- Puts an item among sorted ones, which are given in reverse, before all that it is less than. -/
def insertSorted {α : Type} (order : α → α → Ordering) (item : α) : List α → List α
  | [] => [item]
  | last :: rest =>
    if order item last = .lt then last :: insertSorted order item rest else item :: last :: rest

/-- Sorts a list. Items that are equal stay in their order. -/
def sort {α : Type} (order : α → α → Ordering) (items : List α) : List α :=
  (items.foldl (fun sorted item => insertSorted order item sorted) []).reverse

end SortKey

/-- The records in the order of the keys. -/
def Record.sortBy (keys : List (PropertyPath × Bool)) (records : List Record) : List Record :=
  let decorated := records.map fun record =>
    (keys.map fun (path, _) => SortKey.valueAt record path, record)
  (SortKey.sort (fun a b => SortKey.orderBy (keys.map Prod.snd) a.1 b.1) decorated).map Prod.snd

/-- The items after the first `skip`, at most `top` of them. -/
def window {α : Type} (skip top : Option Nat) (items : List α) : List α :=
  let rest := items.drop (skip.getD 0)
  match top with
  | some top => rest.take top
  | none => rest

/-- What a query finds: whole records, or selected fields of them. -/
inductive QueryResult where
  | records (rows : List Record)
  | selected (rows : List Record)

namespace QueryResult

/-- The rows. -/
def rows : QueryResult → List Record
  | records rows | selected rows => rows

/-- The rows as JSON. -/
def toJson (result : QueryResult) : Json :=
  .array (result.rows.map fun row => .object (Value.fieldsToJson row))

end QueryResult

namespace QueryOptions

/-- Finds what the options ask for among the records. The filter is parsed anew, with a guid that is drawn
for this query. -/
def apply (options : QueryOptions) (p : FilterParser) (newGuid : Guid) (records : List Record) :
    Except QueryError QueryResult := do
  let filter ← (p.compile newGuid (options.filter.getD [])).mapError .filter
  let selection ←
    if options.select.isEmpty then .ok none
    else (Selection.resolve p.schema options.select).map some
  let accepted := records.filter fun record => filter.accepts record.reader
  let sorted := Record.sortBy (SortKey.resolve p.schema options.orderBy) accepted
  let rows := window options.skip options.top sorted
  match selection with
  | some selection => return .selected (rows.map selection.project)
  | none => return .records rows

end QueryOptions
end RecordFilter
