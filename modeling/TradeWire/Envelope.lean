import TradeWire.Keys
import TradeWire.Message
import TradeWire.Supply
/-! Gift wraps: a message inside a seal by its author, inside a wrap by a throwaway key. -/

namespace TradeWire

namespace Event

def unsignedFields (event : Event) : Fields := event.toFields.filter (·.1 ≠ "sig")

end Event

namespace Keys

def encrypt (keys : Keys) (text recipient : String) : Drawing String := do
  let key ← keys.conversationKey recipient
  let nonce ← Drawing.nonce
  Nip44.encrypt key nonce text

/-- Both times are moved into the past; the rumor keeps its own. -/
def wrap (keys : Keys) (recipient content : String) (createdAt : Option Int) : Drawing Event := do
  let createdAt := createdAt.getD (← Drawing.now)
  let rumor ← keys.rumor Event.rumorKind [] content createdAt
  let rumorText := Json.render .spaced (.obj rumor.unsignedFields)
  let sealContent ← keys.encrypt rumorText recipient
  let sealed ← keys.signEvent Event.sealKind [] sealContent (← Drawing.pastTime)
  let throwaway ← Keys.ofText (← Drawing.key)
  let wrapContent ← throwaway.encrypt (Json.render .spaced sealed.toJson) recipient
  throwaway.signEvent Event.giftWrapKind [["p", recipient]] wrapContent (← Drawing.pastTime)

def wrapMessage (keys : Keys) (recipient : String) (message : Message)
    (createdAt : Option Int) : Drawing Event := do
  let body ← message.body
  keys.wrap recipient (Message.signedText body (some (keys.signText body))) createdAt

def openInner (keys : Keys) (eventId content author : String) (room : Option Nat := none) :
    Except Fault Event :=
  match keys.decrypt content author with
  | .error fault =>
      .error (if fault.isContent then .parse eventId (.undecrypted fault) else .value fault)
  | .ok text =>
      let inner : Except ValueFault Event :=
        match Json.parse text room with
        | .ok value => Event.ofJson value
        | .error fault => .error fault.asValue
      match inner with
      | .ok event => .ok event
      | .error fault =>
          .error (if fault.isContentOrShape then .parse eventId (.content (.innerEvent fault))
            else .value fault)

def unwrap (keys : Keys) (event : Event) (room : Option Nat := none) :
    Except Fault (Event × String) := do
  let sealed ← keys.openInner event.id event.content event.pubkey room
  if sealed.kind ≠ Event.sealKind then
    .error (.parse event.id (.content (.sealKind sealed.kind)))
  else
    let rumor ← keys.openInner event.id sealed.content sealed.pubkey room
    if rumor.pubkey ≠ sealed.pubkey then .error (.parse event.id (.content .foreignRumor))
    else return (rumor, sealed.pubkey)

end Keys

end TradeWire
