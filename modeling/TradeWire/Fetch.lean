import TradeWire.Filter
import TradeWire.Inbox
import TradeWire.Order.Book
import TradeWire.Relay.Network
/-! Events from all relays, within a limit of time. -/

namespace TradeWire

/-- What one relay has brought: the events that can be read, whether it has answered at all, and how
it has ended, if it has. -/
structure Haul where
  events : List (Timed Event) := []
  answered : Bool := false
  ending : Option (Timed (Option LinkFault)) := none

namespace Haul

def fault? (haul : Haul) : Option LinkFault := haul.ending.bind (·.item)

/-- What the relay has been handed. One that is left for a fault is told no more. -/
def handed (haul : Haul) (call : Call Feed) (finish : Option Rat) : List Traffic :=
  match haul.ending with
  | some ⟨time, none⟩ => call.handedBy (some time)
  | some ⟨time, some _⟩ => call.unclosed.handedBy (some time)
  | none => call.handedBy finish

def putFirst (haul : Haul) (event : Timed Event) : Haul :=
  { haul with events := event :: haul.events, answered := true }

/-- An event that cannot be read costs itself only, unless a number in it is infinite. -/
def ofFeed : Feed → Haul
  | [] => {}
  | ⟨time, .drained⟩ :: _ | ⟨time, .closed⟩ :: _ =>
      { answered := true, ending := some ⟨time, none⟩ }
  | ⟨time, .failed fault⟩ :: _ => { ending := some ⟨time, some fault⟩ }
  | ⟨time, .unpaired⟩ :: _ =>
      { answered := true, ending := some ⟨time, some (.value .unpaired)⟩ }
  | ⟨time, .event raw⟩ :: rest =>
      match Event.ofJson raw with
      | .ok event => (ofFeed rest).putFirst ⟨time, event⟩
      | .error fault =>
          if fault.isContentOrShape then { ofFeed rest with answered := true }
          else { answered := true, ending := some ⟨time, some (.value fault)⟩ }

end Haul

abbrev Catch := List (String × Haul)

namespace Catch

/-- The first event of each id, latest first. -/
def events (hauls : Catch) : List Event :=
  latestFirst Event.createdAt
    (distinctEvents ((Timed.merge (hauls.map (·.2.events))).map (·.item)))

def answeredAt (hauls : Catch) (url : String) : Bool :=
  hauls.any fun haul => haul.1 == url && haul.2.answered

def silence? (hauls : Catch) (limit : Number.Double) (url : String) (haul : Haul) :
    Option LinkFault :=
  if haul.ending.isNone && !hauls.answeredAt url then some (.silent limit) else none

/-- The fault of each address: a relay has failed, or has not answered within the limit. -/
def faults (hauls : Catch) (limit : Number.Double) : Outage :=
  let failed := hauls.filterMap fun (url, haul) => haul.fault?.map fun fault => (url, fault)
  let silent := hauls.filterMap fun (url, haul) =>
    (silence? hauls limit url haul).map fun fault => (url, fault)
  ByUrl.ofList (failed ++ silent)

/-- The relays are unreachable when there are as many addresses with a fault as relays. -/
def outcome (hauls : Catch) (limit : Number.Double) : Except Outage (List Event) :=
  let faults := hauls.faults limit
  if faults.length = hauls.length then .error faults else .ok hauls.events

/-- No relay has brought anything that no value can hold. -/
def isHeld (hauls : Catch) : Bool :=
  hauls.all fun haul => haul.2.fault? != some (.value .unpaired)

/-- The last end, if every relay has ended, and else the limit, if there is one. -/
def finish? (hauls : Catch) (limit : Number.Double) : Option Rat :=
  match List.mapM (fun haul : String × Haul => haul.2.ending.map Timed.time) hauls with
  | some times => some (Timed.latest times)
  | none => limit.seconds.finish?

def ofCalls (relays : List Relay) (calls : List (Call Feed)) : Catch :=
  List.zipWith (fun relay call => (relay.url, Haul.ofFeed call.outcome)) relays calls

end Catch

namespace Network

def fetchFilter (filters : Fields) (limit : Number.Double) :
    StateM Network (Except Fault (List Event)) := fun network =>
  let (calls, network) := network.subscribe filters true
  let calls := calls.map fun call => call.during limit.seconds.inTime
  let hauls := Catch.ofCalls network.relays calls
  let finish := hauls.finish? limit
  let ending := finish.map fun time =>
    (⟨time, (hauls.outcome limit).mapError .outage⟩ : Timed (Except Fault (List Event)))
  let traffic := List.zipWith (fun call haul => haul.2.handed call finish) calls hauls
  (if hauls.isHeld then Fault.ofEnd ending else .error (.value .unpaired),
    (network.keep traffic).after finish)

def fetch (listing : Listing) (params : Filter.Params) (limit : Number.Double) :
    StateM Network (Except Fault (List Event)) :=
  match Filter.build listing params with
  | .ok filters => fetchFilter filters limit
  | .error why => return .error (.refuse why)

end Network

end TradeWire
