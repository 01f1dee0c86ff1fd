import TradeWire.Message
import TradeWire.Order.Payload
/-! Requests to take an order, and what the daemon's replies say. -/

namespace TradeWire

structure Confirmation where
  order : Order
  invoice : Option String := none
  satAmount : Option Int := none

def Confirmation.paymentRequired (confirmation : Confirmation) : Bool :=
  confirmation.invoice.isSome

namespace Message

/-- A buy order is taken with an amount at most; a sell order with the buyer's invoice, if known. -/
def takePayload (side : Side) (amount : Option Int) (invoice : Option String) : Option Fields :=
  match side, invoice with
  | .buy, _ => amount.map fun amount => [("amount", .int amount)]
  | .sell, some invoice =>
      some [("payment_request", .arr [.null, .str invoice, Json.ofOption .int amount])]
  | .sell, none => some [("amount", .int (amount.getD 0))]

def takeAction : Side → String
  | .buy => "take-buy"
  | .sell => "take-sell"

def refuseUnless (message : Message) : Except Fault Unit :=
  if message.isRefusal then .error (.request (.rejected message.refusalReason)) else .ok ()

def requestName (message : Message) (orderId : Option String) : String :=
  match orderId.filter (· ≠ "") with
  | some id => id
  | none =>
      match message.requestId with
      | some id => toString id
      | none => "None"

def orderIn (message : Message) (orderId : Option String) (raw : Option Json) :
    Except Fault Order :=
  match raw with
  | some (.obj fields) =>
      match Order.ofPayload fields with
      | .error (.decode fault) => .error (.request (.unexpected (.invalidOrder fault)))
      | outcome => outcome
  | _ => .error (.request (.unexpected
      (.noOrder (message.requestName orderId) message.action)))

def orderReply (message : Message) (orderId : Option String) : Except Fault Order := do
  message.refuseUnless
  message.orderIn orderId ((message.payload.getD []).get? "order")

def invoiceIn (orderId : String) (raw : Option Json) : Except Fault (Option String) :=
  match Json.present? raw with
  | none => .ok none
  | some (.str invoice) => .ok (some invoice)
  | some _ => .error (.request (.unexpected (.invoice orderId)))

def amountIn (orderId : String) (raw : Option Json) : Except Fault (Option Int) :=
  match Json.present? raw with
  | none => .ok none
  | some value =>
      match value.toInt with
      | .ok n => .ok (some n)
      | .error .tooLarge => .error (.value .tooLarge)
      | .error _ => .error (.request (.unexpected (.amount orderId)))

/-- A payment request lists an order, an invoice and an amount; a reply with an order of its own is
read as a plain confirmation. -/
def confirmation (message : Message) (orderId : String) : Except Fault Confirmation :=
  let payload := message.payload.getD []
  match payload.has "order", payload.get? "payment_request" with
  | false, some (.arr parts) => do
      message.refuseUnless
      let order ← message.orderIn (some orderId) parts[0]?
      let invoice ← invoiceIn orderId parts[1]?
      let satAmount ← amountIn orderId parts[2]?
      return { order, invoice, satAmount }
  | _, _ => do
      return { order := ← message.orderReply (some orderId) }

end Message

end TradeWire
