import TradeWire.Client.Basic
/-! What a client can list: the orders and disputes of the daemon, and its own messages. -/

namespace TradeWire.Acting

def fetch (listing : Listing) (params : Filter.Params) (limit : Option Number.Double) :
    Acting (List Event) := do
  let client ← get
  onNetwork id (Network.fetch listing params (limit.getD client.limit))

def orders (query : Order.Query) : Acting (List Order) := do
  let events ← fetch .orders { author := (← get).daemonKey } none
  return Order.list query events

def disputes : Acting (List Dispute) := do
  let events ← fetch .disputes { author := (← get).daemonKey } none
  return Dispute.list events

/-- The messages for the client from a time on. Wraps hide the times of their messages, so all wraps
are asked for. -/
def messages (since : Option Int) : Acting (List DirectMessage) := do
  let keys := (← get).keys
  let events ← fetch .directMessages { recipient := keys.publicKey, limit := none } none
  ofExcept (keys.inbox since events)

end TradeWire.Acting
