import RecordFilter.Dialect.OData
import RecordFilter.Dialect.Sql92
import RecordFilter.Lambda.Composition
import RecordFilter.Lambda.Lowering
import RecordFilter.Query.Options

/-!
# Queries from lambdas

A query over the records of a record type is narrowed by predicate lambdas and by a window, and
written as a filter or as query options.
-/

namespace RecordFilter

/-- Why a query cannot be built or written. -/
inductive BuilderError where
  | composition (error : CompositionError)
  | lowering (error : LoweringError)
  | render (error : RenderError)
deriving DecidableEq, Repr

/-- A query over the records of a record type. A count of zero asks for nothing. -/
structure LambdaQuery where
  schema : RecordType
  lambda : Option Lambda := none
  skip : Nat := 0
  top : Nat := 0

namespace LambdaQuery

/-- The query narrowed by a predicate lambda. -/
def filter (query : LambdaQuery) (lambda : Lambda) : Except BuilderError LambdaQuery :=
  let narrowed :=
    match query.lambda with
    | some existing => existing.conjunction lambda
    | none => lambda.parameter.map fun _ => lambda
  (narrowed.map fun narrowed => { query with lambda := some narrowed }).mapError .composition

/-- The predicate of the query. -/
def predicate (query : LambdaQuery) : Except LoweringError (Option Predicate) :=
  match query.lambda with
  | none => .ok none
  | some lambda => (lambda.toPredicate query.schema).map some

/-- The filter in a dialect. A query without a filter has no text. -/
def render (query : LambdaQuery) (d : Dialect) : Except BuilderError Text :=
  match query.predicate with
  | .error error => .error (.lowering error)
  | .ok none => .ok []
  | .ok (some p) => (d.render p).mapError .render

/-- A count, unless it is zero. -/
def positive (n : Nat) : Option Nat :=
  if n = 0 then none else some n

/-- The query options that ask for the same. -/
def options (query : LambdaQuery) : Except BuilderError QueryOptions :=
  (query.render .odata).map fun filter =>
    { filter := if Text.isBlank filter then none else some filter
      skip := positive query.skip
      top := positive query.top }

/-- The query as it is read by people, without encoded values. -/
def queryText (query : LambdaQuery) : Except BuilderError Text :=
  query.options.map fun options =>
    if options.pairs.isEmpty then []
    else '?' :: Text.join ['&'] (options.pairs.map QueryOptions.equation)

end LambdaQuery
end RecordFilter
