import TradeWire.Relay.Network
/-! One relay on its own: raw events and single publications. -/

namespace TradeWire

namespace Feed

def unfold : Feed → List Json × Option (Timed (Option LinkFault))
  | [] => ([], none)
  | ⟨time, .unpaired⟩ :: _ => ([], some ⟨time, some (.value .unpaired)⟩)
  | ⟨time, .drained⟩ :: _ | ⟨time, .closed⟩ :: _ => ([], some ⟨time, none⟩)
  | ⟨time, .failed fault⟩ :: _ => ([], some ⟨time, some fault⟩)
  | ⟨_, .event raw⟩ :: rest =>
      let (raws, ending) := unfold rest
      (raw :: raws, ending)

/-- All raw events, or the fault with which the feed ends. A feed without an end is left at a given
time, or never. -/
def gather (feed : Feed) (leftAt : Option Rat) : Option (Timed (Except Fault (List Json))) :=
  match feed.unfold with
  | (raws, none) => leftAt.map fun time => ⟨time, .ok raws⟩
  | (raws, some ⟨time, none⟩) => some ⟨time, .ok raws⟩
  | (_, some ⟨time, some fault⟩) => some ⟨time, .error (.link fault)⟩

end Feed

def Report.text : Except LinkFault Report → Except Fault String
  | .ok (some text) => .ok text
  | .ok none => .error (.value .unpaired)
  | .error fault => .error (.link fault)

namespace Network

/-- A subscription on one relay, read until a limit, or else as long as anything comes. -/
def onFeed (network : Network) (place : Fin network.relays.length) (filters : Fields)
    (closeWhenDrained : Bool) (limit : Option Limit) : Except Fault (List Json) × Network :=
  let ((call, relay), supply) :=
    network.relays[place].subscribe filters closeWhenDrained network.supply
  let call := limit.elim call fun limit => call.during limit.reaches
  let ending := call.outcome.gather <|
    limit.elim (some (Timed.latest (call.outcome.map (·.time)))) Limit.finish?
  let finish := ending.map (·.time)
  let relays := network.relays.set place (relay.keep (call.handedBy finish))
  (Fault.ofEnd ending, { network with relays, supply }.after finish)

/-- The raw events of one relay within a limit. Without any time the relay is not asked. -/
def query (network : Network) (place : Fin network.relays.length) (filters : Fields)
    (limit : Limit) : Except Fault (List Json) × Network :=
  if limit.isOver then (.ok [], network) else network.onFeed place filters true (some limit)

def follow (network : Network) (place : Fin network.relays.length) (filters : Fields)
    (closeWhenDrained : Bool) : Except Fault (List Json) × Network :=
  network.onFeed place filters closeWhenDrained none

def publishOn (network : Network) (place : Fin network.relays.length) (event : Fields)
    (limit : Limit) : Except Fault String × Network :=
  let (call, relay) := network.relays[place].publish event limit
  let ending := call.outcome.map fun publication =>
    (⟨publication.time, Report.text publication.item⟩ : Timed (Except Fault String))
  let finish := ending.map (·.time)
  let relays := network.relays.set place (relay.keep (call.handedBy finish))
  (Fault.ofEnd ending, { network with relays }.after finish)

end Network

end TradeWire
