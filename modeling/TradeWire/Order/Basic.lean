import TradeWire.Fault
/-! Trade orders and disputes. -/

namespace TradeWire

inductive Side where
  | buy | sell
  deriving DecidableEq, Repr

namespace Side

def name : Side → String
  | buy => "buy"
  | sell => "sell"

def ofName? (name : String) : Option Side := [buy, sell].find? (·.name == name)

end Side

inductive Status where
  | active | canceled | canceledByAdmin | settledByAdmin | completedByAdmin | dispute | expired
  | fiatSent | settledHoldInvoice | pending | success | waitingBuyerInvoice | waitingPayment
  | cooperativelyCanceled | inProgress
  deriving DecidableEq, Repr

namespace Status

def name : Status → String
  | active => "active"
  | canceled => "canceled"
  | canceledByAdmin => "canceled-by-admin"
  | settledByAdmin => "settled-by-admin"
  | completedByAdmin => "completed-by-admin"
  | dispute => "dispute"
  | expired => "expired"
  | fiatSent => "fiat-sent"
  | settledHoldInvoice => "settled-hold-invoice"
  | pending => "pending"
  | success => "success"
  | waitingBuyerInvoice => "waiting-buyer-invoice"
  | waitingPayment => "waiting-payment"
  | cooperativelyCanceled => "cooperatively-canceled"
  | inProgress => "in-progress"

def all : List Status := [active, canceled, canceledByAdmin, settledByAdmin, completedByAdmin,
  dispute, expired, fiatSent, settledHoldInvoice, pending, success, waitingBuyerInvoice,
  waitingPayment, cooperativelyCanceled, inProgress]

def ofName? (name : String) : Option Status := all.find? (·.name == name)

/-- An unknown status counts as pending. -/
def ofNameOrPending (name : String) : Status := (ofName? name).getD pending

end Status

inductive Fiat where
  | fixed (amount : Int)
  | range (low high : Int) (ordered : low ≤ high)
  deriving DecidableEq, Repr

namespace Fiat

/-- The bounds of a range come together, in order, and without a fixed amount. -/
def ofFields (fixedAmount low high : Option Int) : Except Refusal (Option Fiat) :=
  match low, high with
  | none, none => .ok (fixedAmount.map fixed)
  | some low, some high =>
      if fixedAmount.isSome then .error .amountAndRange
      else if ordered : low ≤ high then .ok (some (range low high ordered))
      else .error (.invertedRange low high)
  | _, _ => .error .halfRange

def amount? : Fiat → Option Int
  | fixed amount => some amount
  | range _ _ _ => none

def low? : Fiat → Option Int
  | fixed _ => none
  | range low _ _ => some low

def high? : Fiat → Option Int
  | fixed _ => none
  | range _ high _ => some high

end Fiat

/-- An offer to trade. An amount of zero leaves the price to the market. -/
structure Order where
  id : String
  side : Option Side
  fiatCode : String
  paymentMethod : String
  amount : Int := 0
  fiat : Option Fiat := none
  premium : Int := 0
  status : Option Status := none
  createdAt : Option Int := none
  deriving DecidableEq, Repr

namespace Order

def isMarketPrice (order : Order) : Bool := order.amount == 0

def sameTrade (a b : Order) : Bool :=
  decide ({ a with createdAt := none } = { b with createdAt := none })

/-- The time by which versions of an order are compared. -/
def time (order : Order) : Int := order.createdAt.getD 0

end Order

structure Dispute where
  id : String
  status : String
  createdAt : Int := 0
  deriving DecidableEq, Repr

end TradeWire
