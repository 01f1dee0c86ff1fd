import TradeWire.Event
/-! Lists of orders and disputes: the newest version of each, newest first. -/

namespace TradeWire

/-- Adds a version of an item. It replaces an older version in its place; of two versions of one
time the first stays. -/
def keepNewer {α : Type} (id : α → String) (time : α → Int) (kept : List α) (a : α) : List α :=
  match kept with
  | [] => [a]
  | b :: rest =>
      if id b = id a then (if time b < time a then a else b) :: rest
      else b :: keepNewer id time rest a

def newest {α : Type} (id : α → String) (time : α → Int) (versions : List α) : List α :=
  versions.foldl (keepNewer id time) []

/-- Later times first; items of one time keep their order. -/
def latestFirst {α : Type} (time : α → Int) (items : List α) : List α :=
  items.mergeSort fun a b => decide (time b ≤ time a)

namespace Order

structure Query where
  currencies : List String := []
  status : Option Status := none
  side : Option Side := none

def Query.accepts (query : Query) (order : Order) : Bool :=
  (query.status.isNone || decide (order.status = query.status)) &&
    (query.currencies.isEmpty || query.currencies.contains order.fiatCode) &&
    (query.side.isNone || decide (order.side = query.side))

/-- The order of an event, if its tags are an order with a side. -/
def ofEvent? (event : Event) : Option Order :=
  match ofTags false event.tags with
  | .ok order =>
      if order.side.isSome then some { order with createdAt := some event.createdAt } else none
  | .error _ => none

def list (query : Query) (events : List Event) : List Order :=
  latestFirst time ((newest id time (events.filterMap ofEvent?)).filter query.accepts)

end Order

namespace Dispute

def ofEvent? (event : Event) : Option Dispute :=
  match ofTags event.tags with
  | .ok dispute => some { dispute with createdAt := event.createdAt }
  | .error _ => none

def list (events : List Event) : List Dispute :=
  latestFirst createdAt (newest id createdAt (events.filterMap ofEvent?))

end Dispute

end TradeWire
