import RecordFilter.Query.Result

/-!
# Queries on event streams

A subscription asks for a filter and a window by the query of its URL. A stream that may never end is
neither sorted nor reduced to some fields.
-/

namespace RecordFilter

/-- What a subscription asks for. -/
structure Subscription where
  filter : CompiledFilter
  skip : Option Nat
  top : Option Nat

namespace Subscription

/-- The subscription for query options without an order and a selection. Its filter is parsed once, with a
guid that is drawn for the subscription. -/
def ofOptions (options : QueryOptions) (p : FilterParser) (newGuid : Guid) :
    Except QueryError Subscription :=
  if !options.orderBy.isEmpty then .error (.notSupported "orderby")
  else if !options.select.isEmpty then .error (.notSupported "select")
  else
    ((p.compile newGuid (options.filter.getD [])).mapError .filter).map fun filter =>
      ⟨filter, options.skip, options.top⟩

/-- The subscription of a URL. -/
def ofUrl (url : Url) (p : FilterParser) (newGuid : Guid) : Except QueryError Subscription :=
  (QueryOptions.ofPairs url.queryPairs).bind fun options => ofOptions options p newGuid

/-- The records of a stream that the subscription passes on. -/
def apply (subscription : Subscription) (records : List Record) : List Record :=
  window subscription.skip subscription.top
    (records.filter fun record => subscription.filter.accepts record.reader)

end Subscription
end RecordFilter
