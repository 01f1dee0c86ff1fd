import TradeWire.Filter
import TradeWire.Inbox
import TradeWire.Relay.Network
/-! Waiting for the reply to a request. -/

namespace TradeWire

/-- What one who waits hears of: an event, an object that no value can hold, the end of a
subscription, the end of the publication. -/
inductive Tiding where
  | event (event : Event)
  | unpaired
  | ended (url : String) (fault : Option LinkFault)
  | published (outage : Option Outage)

/-- What a subscription tells. A fault of a value ends it without a word. -/
def Tiding.ofFeed (url : String) : Feed → List (Timed Tiding)
  | [] => []
  | ⟨time, .drained⟩ :: _ | ⟨time, .closed⟩ :: _ => [⟨time, .ended url none⟩]
  | ⟨time, .unpaired⟩ :: _ | ⟨time, .failed (.value .unpaired)⟩ :: _ => [⟨time, .unpaired⟩]
  | ⟨_, .failed (.value _)⟩ :: _ => []
  | ⟨time, .failed fault⟩ :: _ => [⟨time, .ended url (some fault)⟩]
  | ⟨time, .event raw⟩ :: rest =>
      match Event.ofJson raw with
      | .ok found => ⟨time, .event found⟩ :: ofFeed url rest
      | .error fault => if fault.isContentOrShape then ofFeed url rest else []

structure Await where
  keys : Keys
  wanted : Correlation
  sender : Option String
  listeners : Nat
  room : Room := {}

structure Await.Heard where
  seen : List String := []
  ended : ByUrl (Option LinkFault) := []

namespace Await

abbrev Outcome := Except Fault DirectMessage

def isFrom (await : Await) (message : DirectMessage) : Bool :=
  match await.sender with
  | some sender => message.sender == sender
  | none => true

def accepts (await : Await) (message : DirectMessage) : Bool :=
  await.isFrom message && await.wanted.accepts message.message

/-- What an event decides. One that is no direct message for the key decides nothing. -/
def judge (await : Await) (event : Event) : Option Outcome :=
  match await.keys.readDirect? event await.room with
  | .error fault => some (.error fault)
  | .ok none => none
  | .ok (some message) => if await.accepts message then some (.ok message) else none

def lost (ended : ByUrl (Option LinkFault)) : Option Outage :=
  match ended.filterMap fun (url, fault) => fault.map fun fault => (url, fault) with
  | [] => none
  | faults => some faults

def hear (await : Await) (heard : Heard) : Tiding → Option Outcome × Heard
  | .unpaired => (some (.error (.value .unpaired)), heard)
  | .published outage => (outage.map fun outage => .error (.wait (.notPublished outage)), heard)
  | .ended url fault =>
      let ended := heard.ended.put url fault
      (if ended.length = await.listeners then some (.error (.wait (.allEnded (lost ended))))
        else none, { heard with ended })
  | .event event =>
      if event.id ∈ heard.seen then (none, heard)
      else (await.judge event, { heard with seen := event.id :: heard.seen })

def decided? (await : Await) : Heard → List (Timed Tiding) → Option (Timed Outcome)
  | _, [] => none
  | heard, tiding :: rest =>
      match await.hear heard tiding.item with
      | (some outcome, _) => some ⟨tiding.time, outcome⟩
      | (none, heard) => decided? await heard rest

/-- The first decision before the limit, or the fault of waiting too long, if there is a limit. -/
def run (await : Await) (limit : Number.Double) (tidings : List (Timed Tiding)) :
    Option (Timed Outcome) :=
  let inTime := tidings.takeWhile fun tiding => limit.seconds.reaches tiding.time
  (await.decided? {} inTime).or <|
    limit.seconds.finish?.map fun time => ⟨time, .error (.wait (.timeout limit))⟩

end Await

namespace Network

/-- Subscribes to new messages for a key, publishes a request and waits for the reply. Without any
time nothing is handed to the relays. -/
def ask (keys : Keys) (request : Event) (wanted : Correlation) (sender : Option String)
    (limit : Number.Double) : StateM Network Await.Outcome := fun network =>
  if wanted.orderId.isNone && wanted.requestId.isNone then
    (.error (.refuse .noCorrelation), network)
  else if limit.seconds.isOver then (.error (.wait (.timeout limit)), network)
  else
    let (subscriptions, network) := network.subscribe (Filter.newWraps keys.publicKey) false
    let (publications, network) := network.publish request limit.seconds
    let published := (network.settled publications).map fun ending =>
      (⟨ending.time, .published (Publications.outage? ending.item)⟩ : Timed Tiding)
    let tidings := Timed.merge <|
      List.zipWith (fun relay call => Tiding.ofFeed relay.url call.outcome)
        network.relays subscriptions ++ [published.toList]
    let await : Await := { keys, wanted, sender, listeners := network.relays.length }
    let ending := await.run limit tidings
    let finish := ending.map (·.time)
    let network := network.keep (subscriptions.map (·.handedBy finish))
    let network := network.keep (publications.map (·.handedBy finish))
    (Fault.ofEnd ending, network.after finish)

end Network

end TradeWire
