import TradeWire.Relay.Connection
import TradeWire.Supply
/-! Relays, given by how they will behave. -/

namespace TradeWire

/-- One entry for each subscription, publication or connection that is to come. When none is left, a
subscription or a connection stays silent and a publication is accepted at once. -/
inductive Link where
  | direct (feeds : List Feed) (publications : List Publication)
  | socket (connections : List Connection)

structure Relay where
  url : String
  link : Link
  traffic : List Traffic := []

def subscriptionId (id : Nat) : String := String.ofList ((Text.fixedHex 32 id).take 12)

namespace Relay

def subscribe (relay : Relay) (filters : Fields) (closeWhenDrained : Bool) :
    StateM Supply (Call Feed × Relay) := do
  match relay.link with
  | .direct feeds publications =>
      let (feed, rest) := Supply.draw [] feeds
      let call : Call Feed := {
        outcome := Timed.inOrder 0 feed
        handed := [⟨0, .subscription filters closeWhenDrained⟩] }
      return (call, { relay with link := .direct rest publications })
  | .socket connections =>
      let id ← modifyGet Supply.takeId
      let (connection, rest) := Supply.draw {} connections
      return (connection.subscribe relay.url (subscriptionId id) filters closeWhenDrained,
        { relay with link := .socket rest })

/-- A direct publication ends when it ends; the limit is for those over a socket. -/
def publish (relay : Relay) (event : Fields) (limit : Limit) :
    Call (Option Publication) × Relay :=
  match relay.link with
  | .direct feeds publications =>
      let (publication, rest) := Supply.draw ⟨0, .ok (some "accepted")⟩ publications
      let call : Call (Option Publication) := {
        outcome := some ⟨Timed.later 0 publication.time, publication.item⟩
        handed := [⟨0, .publication event⟩] }
      (call, { relay with link := .direct feeds rest })
  | .socket connections =>
      let (connection, rest) := Supply.draw {} connections
      (connection.publish relay.url event limit, { relay with link := .socket rest })

def keep (relay : Relay) (traffic : List Traffic) : Relay :=
  { relay with traffic := relay.traffic ++ traffic }

end Relay

end TradeWire
