import TradeWire.Await
import TradeWire.Client.Basic
import TradeWire.Reply
/-! What a client asks of the daemon, and orders that it publishes itself. -/

namespace TradeWire

/-- Asks again after each silence, at most as often as allowed; every other outcome is final. -/
def persist {σ α : Type} (ask : StateM σ (Except Fault α)) (limit : Number.Double) :
    Nat → StateM σ (Except Fault α)
  | 0 => return .error (.request (.noResponse limit))
  | attempts + 1 => do
      match ← ask with
      | .ok reply => return .ok reply
      | .error (.wait (.timeout _)) => persist ask limit attempts
      | .error (.wait fault) => return .error (.request (.notSent fault))
      | .error fault => return .error fault

def attemptCount (attempts : Int) : Nat := max attempts.toNat 1

def requestNumber (id : Nat) : Int := (id % Nat.pow 2 64 : Nat)

namespace Acting

def nextRequestId : Acting Int := draw do return requestNumber (← modifyGet Supply.takeId)

/-- Sends a message to the daemon and waits for the reply. All attempts send the same event. -/
def exchange (message : Message) (wanted : Correlation) (keys : Keys)
    (limit : Option Number.Double) (attempts : Int) : Acting DirectMessage := do
  let client ← get
  let limit := limit.getD client.limit
  let request ← draw (keys.wrapMessage client.daemonKey message none)
  onNetwork id
    (persist (Network.ask keys request wanted (some client.daemonKey) limit) limit
      (attemptCount attempts))

def notAnnounced (orderId : String) : Fault → Fault
  | .outage outage => .request (.notAnnounced orderId outage)
  | fault => fault

def publishOrder (order : Order) : Acting Event := do
  advance order.id .created
  let client ← get
  let event ← ofExcept
    ((client.keys.signEvent Event.orderKind order.toTags "" client.network.supply.now).mapError
      .value)
  let _ ← onNetwork (notAnnounced order.id) (Network.announce event client.limit.seconds)
  advance order.id .published
  advance order.id .awaitingTaker
  return event

/-- The daemon gives a new order its id, so the reply is known by the request id alone. -/
def requestOrder (order : Order) (limit : Option Number.Double) : Acting Order := do
  let requestId ← nextRequestId
  let payload := order.toPayload.put "id" .null
  let message : Message := {
    action := "new-order", requestId := some requestId, payload := some [("order", .obj payload)] }
  let reply ← exchange message { orderId := none, requestId := some requestId } (← get).keys limit 1
  ofExcept (reply.message.orderReply none)

structure Taking where
  orderId : String
  side : Side
  amount : Option Int := none
  invoice : Option String := none
  keys : Option Keys := none
  limit : Option Number.Double := none
  attempts : Int := 1

def Taking.message (taking : Taking) (requestId : Int) : Message := {
  action := Message.takeAction taking.side
  id := some taking.orderId
  requestId := some requestId
  payload := Message.takePayload taking.side taking.amount taking.invoice }

/-- Only silence and a confirmation change the stage of the order. -/
def takeOrder (taking : Taking) : Acting Confirmation := do
  let requestId ← nextRequestId
  let keys := taking.keys.getD (← get).keys
  let wanted : Correlation := { orderId := some taking.orderId, requestId := some requestId }
  let reply ← tryCatch
    (exchange (taking.message requestId) wanted keys taking.limit taking.attempts)
    fun fault => do
      if let .request (.noResponse _) := fault then advance taking.orderId .timedOut
      throw fault
  let confirmation ← ofExcept (reply.message.confirmation taking.orderId)
  advance taking.orderId .takenConfirmed
  return confirmation

def acknowledged (orderId : String) (message : Message) : Except Fault Unit := do
  message.refuseUnless
  if message.action ≠ "waiting-seller-to-pay" then
    .error (.request (.unexpected (.otherAction orderId message.action)))

def addInvoice (orderId invoice : String) (keys : Option Keys) (limit : Option Number.Double) :
    Acting DirectMessage := do
  if invoice = "" then throw (.refuse .noInvoice)
  let requestId ← nextRequestId
  let message : Message := {
    action := "add-invoice", id := some orderId, requestId := some requestId
    payload := some [("payment_request", .arr [.null, .str invoice, .null])] }
  let wanted : Correlation := { orderId := some orderId, requestId := some requestId }
  let reply ← exchange message wanted (keys.getD (← get).keys) limit 1
  ofExcept (acknowledged orderId reply.message)
  return reply

end Acting

end TradeWire
