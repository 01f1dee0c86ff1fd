import TradeWire.Event
import TradeWire.Relay.Basic
/-! All relays of a client together. -/

namespace TradeWire

/-- Values by address, in the order in which the addresses first come. -/
abbrev ByUrl (α : Type) := List (String × α)

namespace ByUrl

/-- An address that is present keeps its place and takes the new value. -/
def put {α : Type} (values : ByUrl α) (url : String) (value : α) : ByUrl α :=
  match values with
  | [] => [(url, value)]
  | (known, old) :: rest =>
      if known = url then (known, value) :: rest else (known, old) :: put rest url value

def ofList {α : Type} (pairs : List (String × α)) : ByUrl α :=
  pairs.foldl (fun values pair => put values pair.1 pair.2) []

end ByUrl

structure Network where
  relays : List Relay
  supply : Supply := {}
  elapsed : Rat := 0

abbrev Publications := List (String × Except LinkFault Report)

namespace Publications

def statuses (publications : Publications) : ByUrl Report :=
  ByUrl.ofList (publications.filterMap fun (url, outcome) => outcome.toOption.map fun status =>
    (url, status))

def fault? : Except LinkFault Report → Option LinkFault
  | .ok _ => none
  | .error fault => some fault

def faults (publications : Publications) : Outage :=
  ByUrl.ofList (publications.filterMap fun (url, outcome) => (fault? outcome).map fun fault =>
    (url, fault))

def outage? : Except Outage (ByUrl Report) → Option Outage
  | .ok _ => none
  | .error outage => some outage

/-- One relay with a status is enough. -/
def settle (publications : Publications) : Except Outage (ByUrl Report) :=
  if publications.statuses.isEmpty then .error publications.faults else .ok publications.statuses

end Publications

namespace Network

def subscribeEach (filters : Fields) (closeWhenDrained : Bool) (relays : List Relay) :
    StateM Supply (List (Call Feed × Relay)) :=
  relays.mapM fun relay => relay.subscribe filters closeWhenDrained

def subscribe (network : Network) (filters : Fields) (closeWhenDrained : Bool) :
    List (Call Feed) × Network :=
  let (pairs, supply) := subscribeEach filters closeWhenDrained network.relays network.supply
  (pairs.map (·.1), { network with relays := pairs.map (·.2), supply })

def publish (network : Network) (event : Event) (limit : Limit) :
    List (Call (Option Publication)) × Network :=
  let pairs := network.relays.map fun relay => relay.publish event.toFields limit
  (pairs.map (·.1), { network with relays := pairs.map (·.2) })

def keep (network : Network) (traffic : List (List Traffic)) : Network :=
  { network with relays := List.zipWith Relay.keep network.relays traffic }

def fresh (network : Network) : Network :=
  { network with
    elapsed := 0
    relays := network.relays.map fun relay => { relay with traffic := [] } }

/-- The seconds of an operation are counted if it ends. -/
def after (network : Network) (finish : Option Rat) : Network :=
  { network with elapsed := network.elapsed + finish.getD 0 }

/-- When the last publication ends, and what then has come of them, if all of them end. -/
def settled (network : Network) (calls : List (Call (Option Publication))) :
    Option (Timed (Except Outage (ByUrl Report))) :=
  (calls.mapM Call.outcome).map fun publications =>
    ⟨Timed.latest (publications.map (·.time)),
      Publications.settle (List.zipWith
        (fun relay publication => (relay.url, publication.item)) network.relays publications)⟩

def announce (event : Event) (limit : Limit) : StateM Network (Except Fault (ByUrl Report)) :=
  fun network =>
    let (calls, network) := network.publish event limit
    let ending := (network.settled calls).map fun ending =>
      (⟨ending.time, ending.item.mapError .outage⟩ : Timed (Except Fault (ByUrl Report)))
    let finish := ending.map (·.time)
    (Fault.ofEnd ending, (network.keep (calls.map (·.handedBy finish))).after finish)

end Network

end TradeWire
