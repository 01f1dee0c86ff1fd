import TradeWire.Fault
import TradeWire.Json.Basic
import TradeWire.Number.Double
import TradeWire.Relay.Timed
/-! What relays deliver, and what is handed to them. -/

namespace TradeWire

inductive Delivery where
  | event (raw : Json)
  /-- An object from a text with an unpaired half, which no value here can hold. -/
  | unpaired
  /-- All stored events have been sent. -/
  | drained
  | closed
  | failed (fault : LinkFault)

/-- The deliveries of a subscription in order. What stands behind an end is never delivered;
without an end the subscription stays open and silent. -/
abbrev Feed := List (Timed Delivery)

/-- What a relay says of a publication; none if this has an unpaired half in it, so that no text
here can hold it. -/
abbrev Report := Option String

abbrev Publication := Timed (Except LinkFault Report)

inductive Traffic where
  | subscription (filters : Fields) (closeWhenDrained : Bool)
  | publication (event : Fields)
  | frame (frame : Json)

/-- A call of a relay: what comes of it, and what is handed over for it. -/
structure Call (α : Type) where
  outcome : α
  handed : List (Timed Traffic)
  /-- What is handed over at the end, by one who has taken everything that comes. -/
  closing : Option (Timed Traffic) := none

namespace Call

def handedBy {α : Type} (call : Call α) (finish : Option Rat) : List Traffic :=
  ((call.handed ++ call.closing.toList).filter fun traffic =>
    finish.all fun time => decide (traffic.time ≤ time)).map (·.item)

/-- The call for one who leaves before the end, even if at the same time. -/
def unclosed {α : Type} (call : Call α) : Call α := { call with closing := none }

def during (call : Call Feed) (waits : Rat → Bool) : Call Feed :=
  { call with
    outcome := call.outcome.takeWhile fun delivery => waits delivery.time
    closing := call.closing.filter fun traffic => waits traffic.time }

end Call

/-- A limit in seconds. What is no number leaves time for nothing that takes any. -/
def Number.Double.seconds : Number.Double → Limit
  | .nan => .atOnce
  | .infinite negative => if negative then .within 0 else .endless
  | limit => .within (limit.toRat?.getD 0)

/-- What comes of an operation, by its end if it has one. -/
def Fault.ofEnd {α : Type} : Option (Timed (Except Fault α)) → Except Fault α
  | some ending => ending.item
  | none => .error .endless

end TradeWire
