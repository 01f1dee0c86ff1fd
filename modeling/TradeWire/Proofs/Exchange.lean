import TradeWire.Client.Request
import TradeWire.Proofs.Acting
import TradeWire.Proofs.Inbox
import TradeWire.Proofs.Listening
/-! What comes of a request: a reply that belongs to it, or a fault of the way there. No fault of a
request is one that only a reply can give. -/

namespace TradeWire

structure IsReply (wanted : Correlation) (sender : Option String) (direct : DirectMessage) :
    Prop where
  accepted : wanted.accepts direct.message
  authored : ∀ author, sender = some author → direct.sender = author

inductive Heeded (wanted : Correlation) (sender : Option String) : Await.Outcome → Prop where
  | reply (direct : DirectMessage) (replies : IsReply wanted sender direct) :
      Heeded wanted sender (.ok direct)
  | wait (why : WaitFault) : Heeded wanted sender (.error (.wait why))
  | value (why : ValueFault) : Heeded wanted sender (.error (.value why))
  | endless : Heeded wanted sender (.error .endless)

namespace Await

theorem heeded_of_decides (await : Await) (before : List Tiding) (tiding : Tiding)
    (outcome : Outcome) (decides : await.Decides before tiding outcome) :
    Heeded await.wanted await.sender outcome := by
  cases decides with
  | notPublished outage => exact .wait _
  | unpaired => exact .value _
  | allEnded url fault all => exact .wait _
  | fault event fault fresh failed proper =>
      rcases Keys.readDirect_error await.keys await.room event fault failed with
        ⟨why, parse⟩ | ⟨why, rfl, _⟩
      · exact absurd parse (proper _ _)
      · exact .value why
  | reply event direct fresh read known accepted =>
      exact .reply direct ⟨accepted, isFrom_sender await direct known⟩

theorem heeded_run (await : Await) (limit : Number.Double) (tidings : List (Timed Tiding)) :
    Heeded await.wanted await.sender (Fault.ofEnd (await.run limit tidings)) := by
  cases found : await.decided? {} (inTime limit tidings) with
  | none =>
      rw [run_eq, found, Option.none_or]
      cases limit.seconds.finish? with
      | none => exact .endless
      | some time => exact .wait _
  | some decision =>
      obtain ⟨_, _, _, _, _, _, decides, _⟩ :=
        (decided?_inTime await limit tidings decision).mp found
      rw [run_eq, found]
      exact heeded_of_decides await _ _ _ decides

end Await

theorem Network.heeded_ask (keys : Keys) (request : Event) (wanted : Correlation)
    (sender : Option String) (limit : Number.Double) (network : Network) :
    Heeded wanted sender (ask keys request wanted sender limit network).1 := by
  by_cases known : wanted.orderId.isSome ∨ wanted.requestId.isSome
  · cases time : limit.seconds.isOver with
    | true =>
        rw [ask_late network keys request wanted sender limit known time]
        exact .wait _
    | false =>
        rw [ask_run network keys request wanted sender limit known time]
        exact (network.waiter keys wanted sender).heeded_run limit _
  · rw [ask_unknown network keys request wanted sender limit known]
    exact .value _

inductive OfWay : Fault → Prop where
  | noResponse (limit : Number.Double) : OfWay (.request (.noResponse limit))
  | notSent (why : WaitFault) : OfWay (.request (.notSent why))
  | value (why : ValueFault) : OfWay (.value why)
  | endless : OfWay .endless

/-- How a request can end. -/
inductive Exchanged (wanted : Correlation) (sender : Option String) : Await.Outcome → Prop where
  | reply (direct : DirectMessage) (replies : IsReply wanted sender direct) :
      Exchanged wanted sender (.ok direct)
  | fault (fault : Fault) (way : OfWay fault) : Exchanged wanted sender (.error fault)

theorem exchanged_persist {σ : Type} (wanted : Correlation) (sender : Option String)
    (ask : StateM σ Await.Outcome) (limit : Number.Double)
    (heeded : ∀ state, Heeded wanted sender (ask state).1) (attempts : Nat) (state : σ) :
    Exchanged wanted sender (persist ask limit attempts state).1 := by
  induction attempts generalizing state with
  | zero => exact .fault _ (.noResponse limit)
  | succ attempts ih =>
      have once := heeded state
      rcases asked : ask state with ⟨outcome, next⟩
      rw [asked] at once
      simp only [persist, bind, StateT.bind, asked]
      cases once with
      | reply direct replies => exact .reply direct replies
      | wait why =>
          cases why with
          | timeout _ => exact ih next
          | notPublished _ | allEnded _ => exact .fault _ (.notSent _)
      | value why => exact .fault _ (.value why)
      | endless => exact .fault _ .endless

namespace Acting

variable {α β : Type}

theorem run_draw (drawing : Drawing α) (client : Client) :
    (draw drawing).run.run client =
      ((drawing.run.run client.network.supply).1.mapError .value,
        { client with network :=
          { client.network with supply := (drawing.run.run client.network.supply).2 } }) := rfl

theorem run_onNetwork (operation : StateM Network (Except Fault α)) (client : Client) :
    (onNetwork id operation).run.run client =
      ((operation client.network).1, { client with network := (operation client.network).2 }) := by
  have ran : (onNetwork id operation).run.run client =
      ((operation client.network).1.mapError id,
        { client with network := (operation client.network).2 }) := rfl
  rw [ran]
  cases (operation client.network).1 <;> rfl

section Exchanging

variable (message : Message) (wanted : Correlation) (keys : Keys) (limit : Option Number.Double)
variable (attempts : Int) (client : Client) (supply : Supply)

theorem run_exchange_unsigned (why : ValueFault)
    (failed : (keys.wrapMessage client.daemonKey message none).run.run client.network.supply =
      (.error why, supply)) :
    (exchange message wanted keys limit attempts).run.run client =
      (.error (.value why), { client with network := { client.network with supply } }) := by
  have got : (get : Acting Client).run.run client = (.ok client, client) := rfl
  have drawn := run_draw (keys.wrapMessage client.daemonKey message none) client
  rw [failed] at drawn
  rw [exchange, run_bind_ok _ _ _ _ _ got]
  exact run_bind_error _ _ _ _ _ drawn

theorem run_exchange_signed (request : Event)
    (signed : (keys.wrapMessage client.daemonKey message none).run.run client.network.supply =
      (.ok request, supply)) :
    (exchange message wanted keys limit attempts).run.run client =
      let limit := limit.getD client.limit
      let ended := persist (Network.ask keys request wanted (some client.daemonKey) limit) limit
        (attemptCount attempts) { client.network with supply }
      (ended.1, { client with network := ended.2 }) := by
  have got : (get : Acting Client).run.run client = (.ok client, client) := rfl
  have drawn := run_draw (keys.wrapMessage client.daemonKey message none) client
  rw [signed] at drawn
  rw [exchange, run_bind_ok _ _ _ _ _ got]
  dsimp only
  rw [run_bind_ok _ _ _ _ _ drawn, run_onNetwork]

end Exchanging

theorem exchanged (message : Message) (wanted : Correlation) (keys : Keys)
    (limit : Option Number.Double) (attempts : Int) (client : Client) :
    Exchanged wanted (some client.daemonKey)
      ((exchange message wanted keys limit attempts).run.run client).1 := by
  rcases signed : (keys.wrapMessage client.daemonKey message none).run.run
    client.network.supply with ⟨why | request, supply⟩
  · rw [run_exchange_unsigned message wanted keys limit attempts client supply why signed]
    exact .fault _ (.value why)
  · rw [run_exchange_signed message wanted keys limit attempts client supply request signed]
    exact exchanged_persist wanted (some client.daemonKey) _ _
      (Network.heeded_ask keys request wanted (some client.daemonKey) _) _ _

theorem gives_exchange (message : Message) (wanted : Correlation) (keys : Keys)
    (limit : Option Number.Double) (attempts : Int) (client after : Client)
    (reply : DirectMessage)
    (given : (exchange message wanted keys limit attempts).Gives client reply after) :
    IsReply wanted (some client.daemonKey) reply := by
  have ended := exchanged message wanted keys limit attempts client
  rw [given] at ended
  cases ended with
  | reply _ replies => exact replies

theorem fails_exchange (message : Message) (wanted : Correlation) (keys : Keys)
    (limit : Option Number.Double) (attempts : Int) (client : Client) (fault : Fault)
    (failed : (exchange message wanted keys limit attempts).Fails client fault) : OfWay fault := by
  obtain ⟨after, ran⟩ := failed
  have ended := exchanged message wanted keys limit attempts client
  rw [ran] at ended
  cases ended with
  | fault _ way => exact way

def orTimedOut (orderId : String) (step : Acting α) : Acting α :=
  tryCatch step fun fault => do
    if let .request (.noResponse _) := fault then advance orderId .timedOut
    throw fault

theorem run_orTimedOut_ok (orderId : String) (step : Acting α) (client after : Client) (a : α)
    (ran : step.run.run client = (.ok a, after)) :
    (orTimedOut orderId step).run.run client = (.ok a, after) := by
  rw [orTimedOut, ExceptT.run_tryCatch, StateT.run_bind, ran]
  rfl

def silenced (orderId : String) : Fault → List (String × Stage)
  | .request (.noResponse _) => [(orderId, .timedOut)]
  | _ => []

theorem run_orTimedOut_error (orderId : String) (step : Acting α) (client after : Client)
    (fault : Fault) (ran : step.run.run client = (.error fault, after)) :
    (orTimedOut orderId step).run.run client =
      (.error fault, { after with stages := silenced orderId fault ++ after.stages }) := by
  rw [orTimedOut, ExceptT.run_tryCatch, StateT.run_bind, ran]
  cases fault with
  | request why => cases why <;> rfl
  | value _ | decode _ | parse _ _ | link _ | outage _ | wait _ | endless => rfl

theorem gives_nextRequestId (client after : Client) (requestId : Int)
    (given : nextRequestId.Gives client requestId after) :
    requestId = requestNumber client.network.supply.takeId.1 := by
  cases given
  rfl

theorem not_fails_nextRequestId (client : Client) (fault : Fault) :
    ¬nextRequestId.Fails client fault := by
  rintro ⟨after, impossible⟩
  cases impossible

def orderedReply (order : Order) (limit : Option Number.Double) : Acting DirectMessage := do
  let requestId ← nextRequestId
  let client ← get
  exchange {
      action := "new-order", requestId := some requestId
      payload := some [("order", .obj (order.toPayload.put "id" .null))] }
    { orderId := none, requestId := some requestId } client.keys limit 1

theorem requestOrder_eq (order : Order) (limit : Option Number.Double) :
    requestOrder order limit =
      orderedReply order limit >>= fun reply => ofExcept (reply.message.orderReply none) := by
  simp only [requestOrder, orderedReply, bind_assoc]

def takingReply (taking : Taking) : Acting DirectMessage := do
  let requestId ← nextRequestId
  let client ← get
  orTimedOut taking.orderId (exchange (taking.message requestId)
    { orderId := some taking.orderId, requestId := some requestId }
    (taking.keys.getD client.keys) taking.limit taking.attempts)

theorem takeOrder_eq (taking : Taking) :
    takeOrder taking = do
      let reply ← takingReply taking
      let confirmation ← ofExcept (reply.message.confirmation taking.orderId)
      advance taking.orderId .takenConfirmed
      return confirmation := by
  simp only [takingReply, bind_assoc]
  rfl

def invoicedReply (orderId invoice : String) (keys : Option Keys) (limit : Option Number.Double) :
    Acting DirectMessage :=
  if invoice = "" then throw (.refuse .noInvoice)
  else do
    let requestId ← nextRequestId
    let client ← get
    exchange {
        action := "add-invoice", id := some orderId, requestId := some requestId
        payload := some [("payment_request", .arr [.null, .str invoice, .null])] }
      { orderId := some orderId, requestId := some requestId } (keys.getD client.keys) limit 1

theorem addInvoice_eq (orderId invoice : String) (keys : Option Keys)
    (limit : Option Number.Double) :
    addInvoice orderId invoice keys limit = do
      let reply ← invoicedReply orderId invoice keys limit
      ofExcept (acknowledged orderId reply.message)
      return reply := by
  unfold addInvoice invoicedReply
  split
  · rfl
  · simp only [bind_assoc]

end Acting

end TradeWire
