/-! Things with the time at which they happen, in seconds from the start of an operation. -/

namespace TradeWire

structure Timed (α : Type) where
  time : Rat
  item : α

namespace Timed

def later (a b : Rat) : Rat := if a ≤ b then b else a

/-- Nothing happens before what stands in front of it. -/
def inOrder {α : Type} (earliest : Rat) : List (Timed α) → List (Timed α)
  | [] => []
  | first :: rest =>
      let time := later earliest first.time
      ⟨time, first.item⟩ :: inOrder time rest

/-- Several sequences as one, by time. At one time an earlier sequence comes first. -/
def merge {α : Type} (sequences : List (List (Timed α))) : List (Timed α) :=
  sequences.flatten.mergeSort fun a b => decide (a.time ≤ b.time)

def latest (times : List Rat) : Rat := times.foldl later 0

end Timed

inductive Limit where
  | within (seconds : Rat)
  /-- For what takes no time. -/
  | atOnce
  | endless
  deriving DecidableEq, Repr

namespace Limit

def reaches : Limit → Rat → Bool
  | within seconds, time => decide (time < seconds)
  | atOnce, time => decide (time ≤ 0)
  | endless, _ => true

/-- Whether a time is left before the limit. What happens at the start takes no time and is never
late. -/
def inTime (limit : Limit) (time : Rat) : Bool := limit.reaches time || decide (time ≤ 0)

/-- Whether one who looks at the clock first does not wait at all. -/
def isOver : Limit → Bool
  | within seconds => decide (seconds ≤ 0)
  | atOnce | endless => false

def finish? : Limit → Option Rat
  | within seconds => some (Timed.later 0 seconds)
  | atOnce => some 0
  | endless => none

end Limit

end TradeWire
