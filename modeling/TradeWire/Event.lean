import TradeWire.Json.Integer
import TradeWire.Json.Writer
import TradeWire.Order.Tags
/-! Events: signed records that relays store and pass on. -/

namespace TradeWire

structure Event where
  id : String
  pubkey : String
  createdAt : Int
  kind : Int
  tags : List Tag
  content : String
  signature : String := ""
  deriving DecidableEq, Repr

namespace Event

def orderKind : Int := 38383
def disputeKind : Int := 38386
def giftWrapKind : Int := 1059
def sealKind : Int := 13
def rumorKind : Int := 1
def privateKind : Int := 14
def legacyKind : Int := 4

def letters (text : String) : List String := text.toList.map fun c => String.ofList [c]

/-- The values of a tag: a text stands for its letters, an object for its keys. -/
def tagOfJson : Json → Except ValueFault Tag
  | .arr items => .ok (items.map Json.describe)
  | .str text => .ok (letters text)
  | .obj fields => .ok (fields.map (·.1))
  | _ => .error .wrongType

def tagsOfJson : Json → Except ValueFault (List Tag)
  | .arr items => items.mapM tagOfJson
  | .str text => .ok ((letters text).map letters)
  | .obj fields => .ok (fields.map fun field => letters field.1)
  | _ => .error .wrongType

def textOf (fields : Fields) (key : String) : String :=
  ((fields.get? key).map Json.describe).getD ""

def ofFields (fields : Fields) : Except ValueFault Event := do
  let id ← match fields.get? "id" with
    | none => .error .missingKey
    | some (.str id) => if id = "" then .error (.refused .eventId) else pure id
    | some _ => .error (.refused .eventId)
  let createdAt ← ((fields.get? "created_at").getD (.int 0)).toInt
  let kind ← match fields.get? "kind" with
    | none => .error .missingKey
    | some kind => kind.toInt
  let tags ← tagsOfJson ((fields.get? "tags").getD (.arr []))
  return {
    id, createdAt, kind, tags
    pubkey := textOf fields "pubkey"
    content := textOf fields "content"
    signature := textOf fields "sig" }

def ofJson : Json → Except ValueFault Event
  | .obj fields => ofFields fields
  | _ => .error .wrongType

def tagsToJson (tags : List Tag) : Json := .arr (tags.map fun tag => .arr (tag.map .str))

def toFields (event : Event) : Fields := [
  ("id", .str event.id),
  ("pubkey", .str event.pubkey),
  ("created_at", .int event.createdAt),
  ("kind", .int event.kind),
  ("tags", tagsToJson event.tags),
  ("content", .str event.content),
  ("sig", .str event.signature)]

def toJson (event : Event) : Json := .obj event.toFields

def tagValues (event : Event) (name : String) : List String :=
  event.tags.filterMap fun
    | key :: value :: _ => if key = name then some value else none
    | _ => none

def firstTag? (event : Event) (name : String) : Option String := (event.tagValues name).head?

end Event

end TradeWire
