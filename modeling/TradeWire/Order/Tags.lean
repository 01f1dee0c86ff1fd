import TradeWire.Order.Basic
import TradeWire.Number.Integer
/-! Orders and disputes as the tags of an event. -/

namespace TradeWire

abbrev Tag := List String

namespace Tag

def toInt (field value : String) : Except DecodeFault Int :=
  match Number.readDecimal? value.toList with
  | some n => .ok n
  | none => .error (.notInteger field value)

/-- One value is a fixed amount, two are the bounds of a range. -/
def toFiat : List String → Except DecodeFault Fiat
  | [] => .error (.missing "fa")
  | first :: rest =>
      if first = "" then .error (.missing "fa")
      else
        match rest with
        | [] => return .fixed (← toInt "fa" first)
        | second :: _ => do
            let low ← toInt "fa" first
            let high ← toInt "fa" second
            if ordered : low ≤ high then return .range low high ordered
            else .error (.inverted "fa" low high)

def lower (text : String) : String := String.ofList (text.toList.map Char.toLower)

end Tag

namespace Order

/-- What the tags read so far say; a text that no tag has given is empty. -/
structure Draft where
  id : String := ""
  side : Option Side := none
  fiatCode : String := ""
  paymentMethod : String := ""
  amount : Int := 0
  fiat : Option Fiat := none
  premium : Int := 0
  status : Option Status := none
  deriving DecidableEq, Repr

namespace Draft

/-- An unknown side is refused only when reading is strict. The sides have ASCII names, and no other
letter has one of theirs as its lower case. -/
def takeSide (strict : Bool) (draft : Draft) (value : String) : Except DecodeFault Draft :=
  match Side.ofName? (Tag.lower value) with
  | some side => .ok { draft with side := some side }
  | none => if strict then .error (.unknownValue "k" value) else .ok { draft with side := none }

def take (strict : Bool) (draft : Draft) : Tag → Except DecodeFault Draft
  | [] => .ok draft
  | name :: values =>
      let value := values.headD ""
      match name with
      | "d" => .ok { draft with id := value }
      | "k" => draft.takeSide strict value
      | "f" => .ok { draft with fiatCode := value }
      | "s" => .ok { draft with status := some (Status.ofNameOrPending value) }
      | "amt" => return { draft with amount := ← Tag.toInt "amt" value }
      | "fa" => return { draft with fiat := some (← Tag.toFiat values) }
      | "pm" => .ok { draft with paymentMethod := ",".intercalate (values.filter (· ≠ "")) }
      | "premium" => return { draft with premium := ← Tag.toInt "premium" value }
      | _ => .ok draft

/-- Only an order at market price may leave its fiat amount open. -/
def finish (draft : Draft) : Except DecodeFault Order :=
  if draft.id = "" then .error (.missing "d")
  else if draft.fiatCode = "" then .error (.missing "f")
  else if draft.paymentMethod = "" then .error (.missing "pm")
  else if draft.fiat = none ∧ draft.amount ≠ 0 then .error (.missing "fa")
  else .ok {
    id := draft.id
    side := draft.side
    fiatCode := draft.fiatCode
    paymentMethod := draft.paymentMethod
    amount := draft.amount
    fiat := draft.fiat
    premium := draft.premium
    status := draft.status }

end Draft

def ofTags (strict : Bool) (tags : List Tag) : Except DecodeFault Order :=
  tags.foldlM (Draft.take strict) {} >>= Draft.finish

def fiatTags : Option Fiat → List Tag
  | none => []
  | some (.fixed amount) => [["fa", toString amount]]
  | some (.range low high _) => [["fa", toString low, toString high]]

def toTags (order : Order) : List Tag :=
  [["d", order.id]] ++
    (order.side.map fun side => ["k", side.name]).toList ++
    [["f", order.fiatCode]] ++
    (order.status.map fun status => ["s", status.name]).toList ++
    [["amt", toString order.amount]] ++
    fiatTags order.fiat ++
    [["pm", order.paymentMethod], ["premium", toString order.premium]]

end Order

namespace Dispute

def lastValue (name : String) (tags : List Tag) : String :=
  tags.foldl
    (fun found tag =>
      match tag with
      | key :: value :: _ => if key = name then value else found
      | _ => found)
    ""

def ofTags (tags : List Tag) : Except DecodeFault Dispute :=
  let id := lastValue "d" tags
  if id = "" then .error (.missing "d") else .ok { id, status := lastValue "s" tags }

end Dispute

end TradeWire
