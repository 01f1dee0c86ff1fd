import TradeWire.Envelope
/-! Direct messages for a key. -/

namespace TradeWire

/-- How many lists and objects may be open in a text, if that is bounded. The stack is not as deep
where a message is read as where an event inside another one is. -/
structure Room where
  inner : Option Nat := none
  body : Option Nat := none

structure Letter where
  sender : String
  createdAt : Int
  content : String

namespace Keys

def openContent (eventId : String) (outcome : Except ValueFault String) : Except Fault String :=
  match outcome with
  | .ok text => .ok text
  | .error fault =>
      .error (if fault.isContent then .parse eventId (.undecrypted fault) else .value fault)

/-- Opens an event of one of the kinds that carry direct messages. The time of a gift wrap is the
time of its rumor. -/
def openLetter (keys : Keys) (event : Event) (room : Option Nat := none) : Except Fault Letter := do
  if event.kind = Event.giftWrapKind then
    let (rumor, sender) ← keys.unwrap event room
    return ⟨sender, rumor.createdAt, rumor.content⟩
  else if event.kind = Event.privateKind then
    let content ← openContent event.id (keys.decrypt event.content event.pubkey)
    return ⟨event.pubkey, event.createdAt, content⟩
  else
    let content ← openContent event.id (keys.decryptLegacy event.content event.pubkey)
    return ⟨event.pubkey, event.createdAt, content⟩

def isDirect (kind : Int) : Bool :=
  kind == Event.giftWrapKind || kind == Event.privateKind || kind == Event.legacyKind

def checkAddress (keys : Keys) (event : Event) : Except Fault Unit :=
  if !isDirect event.kind then .error (.parse event.id (.notDirect event.kind))
  else if keys.publicKey ∉ event.tagValues "p" then .error (.parse event.id .notAddressed)
  else .ok ()

def readDirect (keys : Keys) (event : Event) (room : Room := {}) :
    Except Fault DirectMessage := do
  keys.checkAddress event
  let letter ← keys.openLetter event room.inner
  match Message.parse letter.content room.body with
  | .ok message =>
      return {
        eventId := event.id, sender := letter.sender, createdAt := letter.createdAt, message }
  | .error fault =>
      .error (if fault.isContentOrType then .parse event.id (.content (.body fault))
        else .value fault)

/-- Events that are no direct messages are passed over. -/
def readDirect? (keys : Keys) (event : Event) (room : Room := {}) :
    Except Fault (Option DirectMessage) :=
  match keys.readDirect event room with
  | .ok message => .ok (some message)
  | .error (.parse _ _) => .ok none
  | .error fault => .error fault

end Keys

def distinctEvents (events : List Event) : List Event :=
  (events.foldl
    (fun kept event => if kept.any (·.id == event.id) then kept else event :: kept) []).reverse

def reaches (since : Option Int) (message : DirectMessage) : Bool :=
  match since with
  | some time => decide (time ≤ message.createdAt)
  | none => true

def Keys.inbox (keys : Keys) (since : Option Int) (events : List Event) (room : Room := {}) :
    Except Fault (List DirectMessage) := do
  let messages ← (distinctEvents events).filterMapM fun event => keys.readDirect? event room
  return (messages.filter (reaches since)).mergeSort fun a b => decide (a.createdAt ≤ b.createdAt)

end TradeWire
