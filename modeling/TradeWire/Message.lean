import TradeWire.Json.Integer
import TradeWire.Json.Reader
import TradeWire.Json.Writer
/-! Messages between a client and the daemon: an object of one key, alone or signed in a list. -/

namespace TradeWire

/-- The action is free text, so that a reply with an unknown action can still be read. -/
structure Message where
  action : String
  id : Option String := none
  requestId : Option Int := none
  tradeIndex : Option Int := none
  payload : Option Fields := none
  kind : String := "order"
  version : Int := 1

namespace Message

def innerFields (message : Message) : Fields := [
  ("version", .int message.version),
  ("id", Json.ofOption .str message.id),
  ("request_id", Json.ofOption .int message.requestId),
  ("trade_index", Json.ofOption .int message.tradeIndex),
  ("action", .str message.action),
  ("payload", Json.ofOption .obj message.payload)]

def toJson (message : Message) : Json := .obj [(message.kind, .obj message.innerFields)]

/-- The text that is signed. Integers with too many digits cannot be written. -/
def body (message : Message) : Except ValueFault String :=
  if message.toJson.writable then .ok (message.toJson.render .compact) else .error .malformed

def signedText (body : String) (signature : Option String) : String :=
  "[" ++ body ++ "," ++ (Json.ofOption .str signature).render .compact ++ "]"

def text (message : Message) (signature : Option String) : Except ValueFault String := do
  return signedText (← message.body) signature

def optionalInt (fields : Fields) (key : String) : Except ValueFault (Option Int) :=
  match Json.present? (fields.get? key) with
  | none => .ok none
  | some value => value.toInt.map some

def unlist : Json → Except ValueFault Json
  | .arr [] => .error (.refused .emptyBody)
  | .arr (first :: _) => .ok first
  | value => .ok value

def oneKey : Json → Except ValueFault (String × Json)
  | .obj [field] => .ok field
  | _ => .error (.refused .notOneKey)

def payloadOf (fields : Fields) : Except ValueFault (Option Fields) :=
  match Json.present? (fields.get? "payload") with
  | none => .ok none
  | some (.obj payload) => .ok (some payload)
  | some _ => .error (.refused .payloadNotObject)

def ofInner (kind : String) (fields : Fields) : Except ValueFault Message := do
  let action ← match fields.get? "action" with
    | some (.str action) => pure action
    | _ => .error (.refused .noAction)
  let payload ← payloadOf fields
  let requestId ← optionalInt fields "request_id"
  let tradeIndex ← optionalInt fields "trade_index"
  let version ← ((fields.get? "version").getD (.int 1)).toInt
  return {
    action, requestId, tradeIndex, payload, kind, version
    id := (Json.present? (fields.get? "id")).map Json.describe }

def ofJson (value : Json) : Except ValueFault Message := do
  let (kind, inner) ← oneKey (← unlist value)
  match inner with
  | .obj fields => ofInner kind fields
  | _ => .error (.refused .noAction)

def parse (text : String) (room : Option Nat := none) : Except ValueFault Message :=
  match Json.parse text room with
  | .ok value => ofJson value
  | .error fault => .error fault.asValue

def refusalReason (message : Message) : Option String :=
  (Json.present? ((message.payload.getD []).get? "cant_do")).map Json.describe

def isRefusal (message : Message) : Bool :=
  message.action == "cant-do" || (message.payload.getD []).has "cant_do"

end Message

structure DirectMessage where
  eventId : String
  sender : String
  createdAt : Int
  message : Message

structure Correlation where
  orderId : Option String
  requestId : Option Int
  deriving DecidableEq, Repr

namespace Correlation

/-- Whether a known id and the id of a reply differ; a missing id differs from nothing. -/
def differs {α : Type} [DecidableEq α] (known found : Option α) : Bool :=
  known.isSome && found.isSome && decide (known ≠ found)

def agrees {α : Type} [DecidableEq α] (known found : Option α) : Bool :=
  known.isSome && decide (known = found)

/-- A reply matches when one id agrees and no id differs. -/
def accepts (known : Correlation) (message : Message) : Bool :=
  !differs known.orderId message.id && !differs known.requestId message.requestId &&
    (agrees known.orderId message.id || agrees known.requestId message.requestId)

end Correlation

end TradeWire
