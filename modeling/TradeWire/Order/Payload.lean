import TradeWire.Order.Basic
import TradeWire.Json.Integer
import TradeWire.Json.Writer
/-! Orders as JSON objects inside messages. -/

namespace TradeWire.Order

/-- An infinite number is the one value that is not reported as a fault of its field. -/
def optionalInt (fields : Fields) (key : String) : Except Fault (Option Int) :=
  match Json.present? (fields.get? key) with
  | none => .ok none
  | some value =>
      match value.toInt with
      | .ok n => .ok (some n)
      | .error .tooLarge => .error (.value .tooLarge)
      | .error _ => .error (.decode (.notInteger key value.describe))

def sideOf (fields : Fields) : Except Fault (Option Side) :=
  match Json.present? (fields.get? "kind") with
  | none => .ok none
  | some value =>
      let side? := match value with
        | .str name => Side.ofName? name
        | _ => none
      match side? with
      | some side => .ok (some side)
      | none => .error (.decode (.unknownValue "kind" value.describe))

def statusOf (fields : Fields) : Option Status :=
  (Json.present? (fields.get? "status")).map fun value =>
    match value with
    | .str name => Status.ofNameOrPending name
    | _ => .pending

/-- A field that counts as false is an empty text. -/
def textOf (fields : Fields) (key : String) : String :=
  match fields.get? key with
  | some value => if value.isTrue then value.describe else ""
  | none => ""

/-- Next to a range the fixed amount is ignored. -/
def fiatOf (amount low high : Option Int) : Except DecodeFault (Option Fiat) :=
  match low, high with
  | some low, some high =>
      if ordered : low ≤ high then .ok (some (.range low high ordered))
      else .error (.inverted "min_amount" low high)
  | some _, none => .error (.missing "max_amount")
  | none, some _ => .error (.missing "min_amount")
  | none, none => .ok (amount.map .fixed)

def ofPayload (fields : Fields) : Except Fault Order := do
  let side ← sideOf fields
  let id ← match fields.get? "id" with
    | some id => if id.isTrue then pure id.describe else .error (.decode (.missing "id"))
    | none => .error (.decode (.missing "id"))
  let amount ← optionalInt fields "amount"
  let premium ← optionalInt fields "premium"
  let createdAt ← optionalInt fields "created_at"
  let low ← optionalInt fields "min_amount"
  let high ← optionalInt fields "max_amount"
  let fiatAmount ← optionalInt fields "fiat_amount"
  let fiat ← (fiatOf fiatAmount low high).mapError Fault.decode
  return {
    id, side, fiat, createdAt
    fiatCode := textOf fields "fiat_code"
    paymentMethod := textOf fields "payment_method"
    amount := amount.getD 0
    premium := premium.getD 0
    status := statusOf fields }

def toPayload (order : Order) : Fields := [
  ("id", if order.id = "" then .null else .str order.id),
  ("kind", Json.ofOption (fun side => .str side.name) order.side),
  ("status", Json.ofOption (fun status => .str status.name) order.status),
  ("amount", .int order.amount),
  ("fiat_code", .str order.fiatCode),
  ("min_amount", Json.ofOption .int (order.fiat.bind Fiat.low?)),
  ("max_amount", Json.ofOption .int (order.fiat.bind Fiat.high?)),
  ("fiat_amount", .int ((order.fiat.bind Fiat.amount?).getD 0)),
  ("payment_method", .str order.paymentMethod),
  ("premium", .int order.premium)]

end TradeWire.Order
