import TradeWire.Client.Command
import TradeWire.Proofs.Attempts
import TradeWire.Proofs.Reply
/-! The stage of an order after any run of commands: what the last command that counts for it has
left. -/

namespace TradeWire

namespace Acting

variable {α β : Type}

def Keeps (step : Acting α) : Prop :=
  ∀ client, (step.run.run client).2.stages = client.stages

theorem keeps_pure (a : α) : Keeps (pure a) := fun _ => rfl

theorem keeps_get : Keeps (get : Acting Client) := fun _ => rfl

theorem keeps_throw (fault : Fault) : Keeps (throw fault : Acting α) := fun _ => rfl

theorem keeps_ofExcept (outcome : Except Fault α) : Keeps (ofExcept outcome) := fun _ => rfl

theorem keeps_onNetwork {ε : Type} (wrap : ε → Fault) (operation : StateM Network (Except ε α)) :
    Keeps (onNetwork wrap operation) := fun _ => rfl

theorem keeps_draw (drawing : Drawing α) : Keeps (draw drawing) := keeps_onNetwork _ _

theorem keeps_bind (first : Acting α) (next : α → Acting β) (one : Keeps first)
    (others : ∀ a, Keeps (next a)) : Keeps (first >>= next) := by
  intro client
  have kept := one client
  rcases ran : first.run.run client with ⟨_ | a, after⟩
  · rw [run_bind_error first next client after _ ran]
    rw [ran] at kept
    exact kept
  · rw [run_bind_ok first next client after a ran]
    rw [ran] at kept
    exact (others a after).trans kept

theorem keeps_exchange (message : Message) (wanted : Correlation) (keys : Keys)
    (limit : Option Number.Double) (attempts : Int) :
    Keeps (exchange message wanted keys limit attempts) := by
  apply keeps_bind _ _ keeps_get
  intro client
  apply keeps_bind _ _ (keeps_draw _)
  intro request
  exact keeps_onNetwork _ _

theorem keeps_requestOrder (order : Order) (limit : Option Number.Double) :
    Keeps (requestOrder order limit) := by
  apply keeps_bind _ _ (keeps_draw _)
  intro requestId
  apply keeps_bind _ _ keeps_get
  intro client
  apply keeps_bind _ _ (keeps_exchange _ _ _ _ _)
  intro reply
  exact keeps_ofExcept _

theorem keeps_addInvoice (orderId invoice : String) (keys : Option Keys)
    (limit : Option Number.Double) : Keeps (addInvoice orderId invoice keys limit) := by
  unfold addInvoice
  split
  · exact keeps_throw _
  · apply keeps_bind _ _ (keeps_draw _)
    intro requestId
    apply keeps_bind _ _ keeps_get
    intro client
    apply keeps_bind _ _ (keeps_exchange _ _ _ _ _)
    intro reply
    apply keeps_bind _ _ (keeps_ofExcept _)
    intro _
    exact keeps_pure _

theorem keeps_fetch (listing : Listing) (params : Filter.Params) (limit : Option Number.Double) :
    Keeps (fetch listing params limit) := by
  apply keeps_bind _ _ keeps_get
  intro client
  exact keeps_onNetwork _ _

theorem keeps_orders (query : Order.Query) : Keeps (orders query) := by
  apply keeps_bind _ _ keeps_get
  intro client
  apply keeps_bind _ _ (keeps_fetch _ _ _)
  intro events
  exact keeps_pure _

theorem keeps_disputes : Keeps disputes := by
  apply keeps_bind _ _ keeps_get
  intro client
  apply keeps_bind _ _ (keeps_fetch _ _ _)
  intro events
  exact keeps_pure _

theorem keeps_messages (since : Option Int) : Keeps (messages since) := by
  apply keeps_bind _ _ keeps_get
  intro client
  apply keeps_bind _ _ (keeps_fetch _ _ _)
  intro events
  exact keeps_ofExcept _

def sendOrder (order : Order) : Acting Event := do
  let client ← get
  let event ← ofExcept
    ((client.keys.signEvent Event.orderKind order.toTags "" client.network.supply.now).mapError
      .value)
  let _ ← onNetwork (notAnnounced order.id) (Network.announce event client.limit.seconds)
  return event

theorem keeps_sendOrder (order : Order) : Keeps (sendOrder order) := by
  apply keeps_bind _ _ keeps_get
  intro client
  apply keeps_bind _ _ (keeps_ofExcept _)
  intro event
  apply keeps_bind _ _ (keeps_onNetwork _ _)
  intro _
  exact keeps_pure _

theorem run_onNetwork_ok {ε : Type} (wrap : ε → Fault) (operation : StateM Network (Except ε α))
    (client : Client) (a : α) (network : Network)
    (given : operation client.network = (.ok a, network)) :
    (onNetwork wrap operation).run.run client = (.ok a, { client with network }) := by
  have ran : (onNetwork wrap operation).run.run client =
      ((operation client.network).1.mapError wrap,
        { client with network := (operation client.network).2 }) := rfl
  rw [ran, given]
  rfl

theorem run_sendOrder (order : Order) (client : Client) (event : Event) (network : Network)
    (statuses : ByUrl Report)
    (signed : client.keys.signEvent Event.orderKind order.toTags "" client.network.supply.now =
      .ok event)
    (announced : Network.announce event client.limit.seconds client.network =
      (.ok statuses, network)) :
    (sendOrder order).run.run client = (.ok event, { client with network }) := by
  have got : (get : Acting Client).run.run client = (.ok client, client) := rfl
  have sent := run_onNetwork_ok (notAnnounced order.id)
    (Network.announce event client.limit.seconds) client statuses network announced
  have made : (ofExcept ((client.keys.signEvent Event.orderKind order.toTags ""
      client.network.supply.now).mapError .value)).run.run client = (.ok event, client) := by
    rw [signed]
    rfl
  rw [sendOrder, run_bind_ok _ _ _ _ _ got, run_bind_ok _ _ _ _ _ made,
    run_bind_ok _ _ _ _ _ sent]
  rfl

theorem publishOrder_eq (order : Order) :
    publishOrder order = do
      advance order.id .created
      let event ← sendOrder order
      advance order.id .published
      advance order.id .awaitingTaker
      return event := by
  simp only [publishOrder, sendOrder, bind_assoc, pure_bind]

theorem stages_publishOrder (order : Order) (client : Client) :
    (∃ event after, (publishOrder order).run.run client = (.ok event, after) ∧
      after.stages = (order.id, .awaitingTaker) :: (order.id, .published) ::
        (order.id, .created) :: client.stages) ∨
    (∃ fault after, (publishOrder order).run.run client = (.error fault, after) ∧
      after.stages = (order.id, .created) :: client.stages) := by
  rw [publishOrder_eq, run_bind_ok _ _ _ _ _ (run_advance _ _ _)]
  have kept := keeps_sendOrder order { client with stages := (order.id, .created) :: client.stages }
  rcases sent : (sendOrder order).run.run
    { client with stages := (order.id, .created) :: client.stages } with ⟨fault | event, between⟩
  · rw [sent] at kept
    exact .inr ⟨fault, between, run_bind_error _ _ _ _ _ sent, kept⟩
  · rw [sent] at kept
    rw [run_bind_ok _ _ _ _ _ sent, run_bind_ok _ _ _ _ _ (run_advance _ _ _),
      run_bind_ok _ _ _ _ _ (run_advance _ _ _)]
    refine .inl ⟨event, _, rfl, ?_⟩
    exact congrArg (fun stages => (order.id, .awaitingTaker) :: (order.id, .published) :: stages)
      kept

/-- A reply that has come is never told as silence. -/
theorem silenced_of_confirmation (message : Message) (orderId : String) (fault : Fault)
    (failed : message.confirmation orderId = .error fault) : silenced orderId fault = [] := by
  cases Message.failsIn_confirmation message orderId fault failed with
  | rejected _ | unexpected _ | tooLarge => rfl

theorem run_nextRequestId (client : Client) :
    ∃ requestId drawn, nextRequestId.run.run client = (.ok requestId, drawn) ∧
      drawn.stages = client.stages := ⟨_, _, rfl, rfl⟩

theorem run_takingReply (taking : Taking) (client drawn : Client) (requestId : Int)
    (named : nextRequestId.run.run client = (.ok requestId, drawn)) :
    (takingReply taking).run.run client =
      (orTimedOut taking.orderId (exchange (taking.message requestId)
        { orderId := some taking.orderId, requestId := some requestId }
        (taking.keys.getD drawn.keys) taking.limit taking.attempts)).run.run drawn := by
  have got : (get : Acting Client).run.run drawn = (.ok drawn, drawn) := rfl
  rw [takingReply, run_bind_ok _ _ _ _ _ named, run_bind_ok _ _ _ _ _ got]

/-- The reply to a taking leaves all stages, and a fault in its place at most that of silence. -/
theorem stages_takingReply (taking : Taking) (client : Client) :
    (∃ reply after, (takingReply taking).run.run client = (.ok reply, after) ∧
      after.stages = client.stages) ∨
    (∃ fault after, (takingReply taking).run.run client = (.error fault, after) ∧
      after.stages = silenced taking.orderId fault ++ client.stages) := by
  rcases run_nextRequestId client with ⟨requestId, drawn, named, same⟩
  rw [run_takingReply taking client drawn requestId named, ← same]
  have kept := keeps_exchange (taking.message requestId)
    { orderId := some taking.orderId, requestId := some requestId }
    (taking.keys.getD drawn.keys) taking.limit taking.attempts drawn
  generalize exchange (taking.message requestId)
    { orderId := some taking.orderId, requestId := some requestId }
    (taking.keys.getD drawn.keys) taking.limit taking.attempts = asking at kept ⊢
  rcases answered : asking.run.run drawn with ⟨fault | reply, between⟩ <;> rw [answered] at kept
  · refine .inr ⟨fault, _, run_orTimedOut_error _ _ _ _ _ answered, ?_⟩
    exact congrArg (silenced taking.orderId fault ++ ·) kept
  · exact .inl ⟨reply, between, run_orTimedOut_ok _ _ _ _ _ answered, kept⟩

theorem run_takeOrder_confirmed (taking : Taking) (client between : Client) (reply : DirectMessage)
    (confirmation : Confirmation)
    (replied : (takingReply taking).run.run client = (.ok reply, between))
    (confirmed : reply.message.confirmation taking.orderId = .ok confirmation) :
    (takeOrder taking).run.run client = (.ok confirmation,
      { between with stages := (taking.orderId, .takenConfirmed) :: between.stages }) := by
  rw [takeOrder_eq, run_bind_ok _ _ _ _ _ replied, confirmed,
    run_bind_ok _ _ _ _ _ (run_ofExcept _ _), run_bind_ok _ _ _ _ _ (run_advance _ _ _)]
  rfl

theorem run_takeOrder_failed (taking : Taking) (client between : Client) (fault : Fault)
    (failed : (takingReply taking).run.run client = (.error fault, between)) :
    (takeOrder taking).run.run client = (.error fault, between) := by
  rw [takeOrder_eq]
  exact run_bind_error _ _ _ _ _ failed

theorem stages_takeOrder (taking : Taking) (client : Client) :
    (∃ confirmation after, (takeOrder taking).run.run client = (.ok confirmation, after) ∧
      after.stages = (taking.orderId, .takenConfirmed) :: client.stages) ∨
    (∃ fault after, (takeOrder taking).run.run client = (.error fault, after) ∧
      after.stages = silenced taking.orderId fault ++ client.stages) := by
  rcases stages_takingReply taking client with
    ⟨reply, between, replied, kept⟩ | ⟨fault, between, failed, stages⟩
  · cases confirmed : reply.message.confirmation taking.orderId with
    | error fault =>
        rw [takeOrder_eq, run_bind_ok _ _ _ _ _ replied]
        refine .inr ⟨fault, between, run_bind_error _ _ _ _ _ ?_, ?_⟩
        · rw [confirmed, run_ofExcept]
        · rw [silenced_of_confirmation _ _ _ confirmed]
          exact kept
    | ok confirmation =>
        refine .inl ⟨confirmation, _,
          run_takeOrder_confirmed taking client between reply confirmation replied confirmed, ?_⟩
        exact congrArg ((taking.orderId, Stage.takenConfirmed) :: ·) kept
  · exact .inr ⟨fault, between, run_takeOrder_failed taking client between fault failed, stages⟩

end Acting

structure Act where
  command : Command
  outcome : Except Fault Answer

namespace Act

def leaves : Act → Option (String × Stage)
  | ⟨.publishOrder order, .ok _⟩ => some (order.id, .awaitingTaker)
  | ⟨.publishOrder order, .error _⟩ => some (order.id, .created)
  | ⟨.takeOrder taking, .ok _⟩ => some (taking.orderId, .takenConfirmed)
  | ⟨.takeOrder taking, .error (.request (.noResponse _))⟩ => some (taking.orderId, .timedOut)
  | _ => none

/-- The call is done by a client, however the network behaves, and leaves the client as the next. -/
def Done (act : Act) (client next : Client) : Prop :=
  ∃ network, act.command.perform.run.run { client with network } = (act.outcome, next)

/-- A client has come to a stage of one order, perhaps by way of others, or to none at all. -/
def Reached (client next : Client) : Option (String × Stage) → Prop
  | none => next.stages = client.stages
  | some (orderId, stage) =>
      ∃ earlier : List Stage, next.stages =
        (stage :: earlier).map (orderId, ·) ++ client.stages

theorem reached_publishOrder (order : Order) (outcome : Except Fault Answer) (client next : Client)
    (done : Done ⟨.publishOrder order, outcome⟩ client next) :
    Reached client next (leaves ⟨.publishOrder order, outcome⟩) := by
  rcases done with ⟨network, ran⟩
  have ran := (Acting.run_wrap (Acting.publishOrder order) Answer.event _).symm.trans ran
  rcases Acting.stages_publishOrder order { client with network } with
    ⟨event, after, ended, stages⟩ | ⟨fault, after, ended, stages⟩
  · rw [ended] at ran
    cases ran
    exact ⟨[.published, .created], stages⟩
  · rw [ended] at ran
    cases ran
    exact ⟨[], stages⟩

theorem reached_silenced (taking : Acting.Taking) (fault : Fault) (client next : Client)
    (stages : next.stages = Acting.silenced taking.orderId fault ++ client.stages) :
    Reached client next (leaves ⟨.takeOrder taking, .error fault⟩) := by
  cases fault with
  | request why =>
      cases why with
      | noResponse _ => exact ⟨[], stages⟩
      | _ => exact stages
  | _ => exact stages

theorem reached_takeOrder (taking : Acting.Taking) (outcome : Except Fault Answer)
    (client next : Client) (done : Done ⟨.takeOrder taking, outcome⟩ client next) :
    Reached client next (leaves ⟨.takeOrder taking, outcome⟩) := by
  rcases done with ⟨network, ran⟩
  have ran := (Acting.run_wrap (Acting.takeOrder taking) Answer.confirmation _).symm.trans ran
  rcases Acting.stages_takeOrder taking { client with network } with
    ⟨confirmation, after, ended, stages⟩ | ⟨fault, after, ended, stages⟩
  · rw [ended] at ran
    cases ran
    exact ⟨[], stages⟩
  · rw [ended] at ran
    cases ran
    exact reached_silenced taking fault client after stages

theorem reached_of_keeps (act : Act) (client next : Client) (done : act.Done client next)
    (keeps : act.command.perform.Keeps) (none : act.leaves = none) :
    Reached client next act.leaves := by
  rcases done with ⟨network, ran⟩
  have kept := keeps { client with network }
  rw [ran] at kept
  rw [none]
  exact kept

theorem reached (act : Act) (client next : Client) (done : act.Done client next) :
    Reached client next act.leaves := by
  rcases act with ⟨command, outcome⟩
  have wrapped {α : Type} (step : Acting α) (wrap : α → Answer) (keeps : step.Keeps) :
      (do return wrap (← step) : Acting Answer).Keeps :=
    Acting.keeps_bind _ _ keeps fun _ => Acting.keeps_pure _
  cases command with
  | publishOrder order => exact reached_publishOrder order outcome client next done
  | takeOrder taking => exact reached_takeOrder taking outcome client next done
  | requestOrder order limit =>
      exact reached_of_keeps _ _ _ done (wrapped _ _ (Acting.keeps_requestOrder order limit)) rfl
  | addInvoice orderId invoice keys limit =>
      exact reached_of_keeps _ _ _ done
        (wrapped _ _ (Acting.keeps_addInvoice orderId invoice keys limit)) rfl
  | listOrders query =>
      exact reached_of_keeps _ _ _ done (wrapped _ _ (Acting.keeps_orders query)) rfl
  | listDisputes => exact reached_of_keeps _ _ _ done (wrapped _ _ Acting.keeps_disputes) rfl
  | readMessages since =>
      exact reached_of_keeps _ _ _ done (wrapped _ _ (Acting.keeps_messages since)) rfl

def stageFor (act : Act) (orderId : String) : Option Stage := act.leaves.toList.lookup orderId

theorem stageFor_eq_some (act : Act) (orderId : String) (stage : Stage) :
    act.stageFor orderId = some stage ↔ act.leaves = some (orderId, stage) := by
  rw [stageFor]
  rcases act.leaves with _ | ⟨other, left⟩
  · simp
  · by_cases same : orderId = other
    · simp [same]
    · have differs : (orderId == other) = false := beq_false_of_ne same
      simp [List.lookup_cons, differs, Ne.symm same]

theorem stageFor_eq_none (act : Act) (orderId : String) :
    act.stageFor orderId = none ↔ ∀ stage, act.leaves ≠ some (orderId, stage) := by
  rw [Option.eq_none_iff_forall_ne_some]
  exact forall_congr' fun stage => not_congr (stageFor_eq_some act orderId stage)

theorem lookup_marks (orderId other : String) (stage : Stage) (earlier : List Stage) :
    ((stage :: earlier).map (other, ·)).lookup orderId = [(other, stage)].lookup orderId := by
  by_cases same : orderId = other
  · simp [same]
  · rw [List.lookup_eq_none_iff.mpr (by simp [same]), List.lookup_eq_none_iff.mpr (by simp [same])]

theorem stageOf_done (act : Act) (client next : Client) (done : act.Done client next)
    (orderId : String) :
    next.stageOf orderId = (act.stageFor orderId).or (client.stageOf orderId) := by
  have reached := reached act client next done
  rw [Client.stageOf, Client.stageOf, stageFor]
  cases left : act.leaves with
  | none =>
      rw [left] at reached
      rw [show next.stages = client.stages from reached]
      rfl
  | some mark =>
      rcases mark with ⟨other, stage⟩
      rw [left] at reached
      rcases reached with ⟨earlier, stages⟩
      rw [stages, List.lookup_append, lookup_marks]
      rfl

end Act

namespace Client

inductive Does : Client → List Act → Client → Prop where
  | nothing (client : Client) : Does client [] client
  | next {client between last : Client} {act : Act} {acts : List Act}
      (done : act.Done client between) (rest : Does between acts last) :
      Does client (act :: acts) last

theorem stages_ofNetwork (network : Network) (privateKey daemonKey : String)
    (limit : Number.Double) (client : Client)
    (made : ofNetwork network privateKey daemonKey limit = .ok client) : client.stages = [] := by
  rw [ofNetwork] at made
  split at made
  · cases made
  · rcases (Except.bind_eq_ok _ _ _).mp made with ⟨keys, -, same⟩
    cases same
    rfl

theorem stageOf_does (start last : Client) (acts : List Act) (done : start.Does acts last)
    (orderId : String) :
    last.stageOf orderId =
      (acts.reverse.findSome? (·.stageFor orderId)).or (start.stageOf orderId) := by
  induction done with
  | nothing client => rfl
  | next first _ ih =>
      rw [ih, Act.stageOf_done _ _ _ first, List.reverse_cons, List.findSome?_append,
        Option.or_assoc]
      simp

theorem findSome?_reverse {α β : Type} (result? : α → Option β) (items : List α) (b : β) :
    items.reverse.findSome? result? = some b ↔
      ∃ earlier item later, items = earlier ++ item :: later ∧ result? item = some b ∧
        ∀ other ∈ later, result? other = none := by
  rw [List.findSome?_eq_some_iff]
  constructor
  · rintro ⟨later, item, earlier, split, gives, passed⟩
    refine ⟨earlier.reverse, item, later.reverse, ?_, gives, by simpa using passed⟩
    rw [← List.reverse_reverse items, split]
    simp
  · rintro ⟨earlier, item, later, rfl, gives, passed⟩
    exact ⟨later.reverse, item, earlier.reverse, by simp, gives, by simpa using passed⟩

/-- Of all the acts of a new client the last one that counts for an order decides the stage of that
order, and an act that counts for no order changes nothing. -/
theorem stages_of_acts (start last : Client) (acts : List Act) (fresh : start.stages = [])
    (done : start.Does acts last) :
    (∀ orderId stage, last.stageOf orderId = some stage ↔
      ∃ earlier act later, acts = earlier ++ act :: later ∧ act.leaves = some (orderId, stage) ∧
        ∀ other ∈ later, ∀ stage, other.leaves ≠ some (orderId, stage)) ∧
    (∀ orderId, last.stageOf orderId = none ↔
      ∀ act ∈ acts, ∀ stage, act.leaves ≠ some (orderId, stage)) ∧
    ∀ (act : Act) (before after : Client), act.Done before after →
      (act.leaves = none → after.stages = before.stages) ∧
      ∀ orderId, (∀ stage, act.leaves ≠ some (orderId, stage)) →
        after.stageOf orderId = before.stageOf orderId := by
  have decided (orderId : String) :
      last.stageOf orderId = acts.reverse.findSome? (·.stageFor orderId) := by
    rw [stageOf_does start last acts done, stageOf, fresh]
    exact Option.or_none
  refine ⟨fun orderId stage => ?_, fun orderId => ?_, fun act before after acted => ⟨?_, ?_⟩⟩
  · rw [decided, findSome?_reverse]
    simp only [Act.stageFor_eq_some, Act.stageFor_eq_none]
  · rw [decided, List.findSome?_eq_none_iff]
    simp only [List.mem_reverse, Act.stageFor_eq_none]
  · intro none
    have reached := Act.reached act before after acted
    rw [none] at reached
    exact reached
  · intro orderId passed
    rw [Act.stageOf_done act before after acted, (act.stageFor_eq_none orderId).mpr passed]
    exact Option.none_or

def trader (stages : List (String × Stage)) (network : Network) : Client where
  keys := .keysOne
  daemonKey := Keys.keysTwo.publicKey
  limit := .finite false 15 0
  network := network
  stages := stages

def sale : Order where
  id := "x"
  side := some .sell
  fiatCode := "EUR"
  paymentMethod := "cash"

def market (feeds : List Feed) (ids : List Nat) : Network :=
  .alone "wss://a.test" feeds [] { Keys.cancelSupply with ids } 0

theorem publishes_sale (stages : List (String × Stage)) : ∃ event network,
    (Acting.publishOrder sale).run.run (trader stages (market [] [])) = (.ok event,
      trader (("x", .awaitingTaker) :: ("x", .published) :: ("x", .created) :: stages)
        network) := by
  obtain ⟨event, signed, _⟩ := Keys.exists_signed .keysOne Event.orderKind Keys.cancelSupply.now
    sale.toTags "" (Number.fits_of_lt _ (by decide)) (Number.fits_of_lt _ (by decide))
  have sent := Acting.run_sendOrder sale (trader (("x", .created) :: stages) (market [] [])) event
    _ _ signed rfl
  rw [Acting.publishOrder_eq, Acting.run_bind_ok _ _ _ _ _ (Acting.run_advance _ _ _)]
  exact ⟨event, _, (Acting.run_bind_ok _ _ _ _ _ sent).trans rfl⟩

def buying (orderId : String) : Acting.Taking := { orderId, side := .buy }

def confirming (orderId : String) : Message where
  action := "waiting-seller-to-pay"
  id := some orderId
  requestId := some 7
  payload := some [("order", .obj [("id", .str orderId)])]

theorem draws_number (feeds : List Feed) (stages : List (String × Stage)) :
    Acting.nextRequestId.run.run (trader stages (market feeds [7])) =
      (.ok 7, trader stages (market feeds [])) := rfl

theorem run_buying (orderId : String) (feeds : List Feed) (stages : List (String × Stage))
    (short : (((buying orderId).message 7).toJson.render .compact).toList.length ≤ 3800)
    (writable : ((buying orderId).message 7).toJson.writable) :
    ∃ request supply, (Acting.exchange ((buying orderId).message 7)
        { orderId := some orderId, requestId := some 7 } .keysOne none 1).run.run
          (trader stages (market feeds [])) =
      let ended := persist (Network.ask .keysOne request
        { orderId := some orderId, requestId := some 7 } (some Keys.keysTwo.publicKey)
        (.finite false 15 0)) (.finite false 15 0) 1 (.alone "wss://a.test" feeds [] supply 0)
      (ended.1, trader stages ended.2) := by
  obtain ⟨request, supply, signed⟩ := Keys.exists_wrapped ((buying orderId).message 7) none
    (Number.fits_of_lt _ (by decide)) writable short
  exact ⟨request, supply, Acting.run_exchange_signed _ _ _ _ _ (trader stages (market feeds []))
    supply request signed⟩

theorem takes_confirmed (stages : List (String × Stage)) : ∃ feed confirmation network,
    (Acting.takeOrder (buying "y")).run.run (trader stages (market [feed] [7])) =
      (.ok confirmation, trader (("y", .takenConfirmed) :: stages) network) := by
  obtain ⟨content, read⟩ := Keys.exists_note (confirming "y") (by decide) (by decide +kernel)
    (by decide +kernel)
  let note := Keys.keysOne.noteTo Keys.keysTwo.publicKey content "reply" 5
  let direct : DirectMessage := ⟨"reply", Keys.keysTwo.publicKey, 5, confirming "y"⟩
  have judged : ({ keys := .keysOne, wanted := { orderId := some "y", requestId := some 7 }
                   sender := some Keys.keysTwo.publicKey, listeners := 1 } : Await).judge note =
      some (.ok direct) :=
    (Await.judge_ok _ _ _).mpr ⟨read "reply" 5, by simp [direct, Await.isFrom], by decide⟩
  obtain ⟨request, supply, ran⟩ := run_buying "y" [Feed.atOnce [.event note.toJson]] stages
    (by decide +kernel) (by decide +kernel)
  have answered := Network.ask_answered "wss://a.test" [] supply 0 .keysOne request
    { orderId := some "y", requestId := some 7 } (some Keys.keysTwo.publicKey) (.finite false 15 0)
    (.inl rfl) (by decide +kernel) note (by simp [note, Keys.noteTo, Keys.privateTo]) _ judged
  have told : Told (Network.ask .keysOne request { orderId := some "y", requestId := some 7 }
      (some Keys.keysTwo.publicKey) (.finite false 15 0)
        (.alone "wss://a.test" [Feed.atOnce [.event note.toJson]] [] supply 0)).1 (.ok direct) := by
    rw [answered]
    exact .reply direct
  rw [persist_of_told _ _ _ 0 _ told] at ran
  have replied := (Acting.run_takingReply (buying "y") _ _ 7 (draws_number _ stages)).trans
    (Acting.run_orTimedOut_ok "y" _ _ _ _ ran)
  exact ⟨_, _, _, Acting.run_takeOrder_confirmed (buying "y") _ _ direct _ replied rfl⟩

theorem takes_unanswered (stages : List (String × Stage)) : ∃ network,
    (Acting.takeOrder (buying "z")).run.run (trader stages (market [] [7])) =
      (.error (.request (.noResponse (.finite false 15 0))),
        trader (("z", .timedOut) :: stages) network) := by
  obtain ⟨request, supply, ran⟩ := run_buying "z" [] stages (by decide +kernel) (by decide +kernel)
  obtain ⟨kept, asked⟩ := Network.ask_silent "wss://a.test" [] supply 0 .keysOne request
    { orderId := some "z", requestId := some 7 } (some Keys.keysTwo.publicKey) (.finite false 15 0)
    (.inl rfl) (by decide +kernel) 15 (by decide +kernel)
  rw [persist_of_silence _ _ _ 0 (by rw [asked]; exact ⟨_, rfl⟩)] at ran
  have failed := (Acting.run_takingReply (buying "z") _ _ 7 (draws_number _ stages)).trans
    (Acting.run_orTimedOut_error "z" _ _ _ _ ran)
  exact ⟨_, Acting.run_takeOrder_failed (buying "z") _ _ _ failed⟩

theorem stages_of_acts_trading : ∃ event confirmation last,
    ofNetwork (market [] []) "01" Keys.keysTwo.publicKey (.finite false 15 0) =
      .ok (trader [] (market [] [])) ∧
    (trader [] (market [] [])).Does [
      ⟨.publishOrder sale, .ok (.event event)⟩,
      ⟨.takeOrder (buying "y"), .ok (.confirmation confirmation)⟩,
      ⟨.takeOrder (buying "z"), .error (.request (.noResponse (.finite false 15 0)))⟩,
      ⟨.addInvoice "w" "" none none, .error (.refuse .noInvoice)⟩] last ∧
    last.stageOf "x" = some .awaitingTaker ∧ last.stageOf "y" = some .takenConfirmed ∧
    last.stageOf "z" = some .timedOut ∧ last.stageOf "w" = none := by
  obtain ⟨event, one, published⟩ := publishes_sale []
  obtain ⟨feed, confirmation, two, confirmed⟩ :=
    takes_confirmed [("x", .awaitingTaker), ("x", .published), ("x", .created)]
  obtain ⟨three, unanswered⟩ := takes_unanswered
    [("y", .takenConfirmed), ("x", .awaitingTaker), ("x", .published), ("x", .created)]
  have wrapped {α : Type} (step : Acting α) (answer : α → Answer) (client after : Client)
      (outcome : Except Fault α) (ran : step.run.run client = (outcome, after)) :
      (do return answer (← step) : Acting Answer).run.run client =
        (outcome.map answer, after) := by
    rw [Acting.run_wrap, ran]
  have done : (trader [] (market [] [])).Does [
      ⟨.publishOrder sale, .ok (.event event)⟩,
      ⟨.takeOrder (buying "y"), .ok (.confirmation confirmation)⟩,
      ⟨.takeOrder (buying "z"), .error (.request (.noResponse (.finite false 15 0)))⟩,
      ⟨.addInvoice "w" "" none none, .error (.refuse .noInvoice)⟩] (trader _ three) :=
    .next ⟨market [] [], wrapped _ Answer.event _ _ _ published⟩ <|
    .next ⟨market [feed] [7], wrapped _ Answer.confirmation _ _ _ confirmed⟩ <|
    .next ⟨market [] [7], wrapped _ Answer.confirmation _ _ _ unanswered⟩ <|
    .next ⟨three, rfl⟩ (.nothing _)
  have ⟨decided, unset, _⟩ := stages_of_acts _ _ _ rfl done
  refine ⟨event, confirmation, _, ?_, done, (decided "x" _).mpr ⟨[], _, _, rfl, rfl, ?_⟩,
    (decided "y" _).mpr ⟨[_], _, _, rfl, rfl, ?_⟩, (decided "z" _).mpr ⟨[_, _], _, _, rfl, rfl, ?_⟩,
    (unset "w").mpr ?_⟩
  · have read : Keys.ofText "01" = .ok .keysOne := Keys.ofText_text .keysOne
    rw [ofNetwork, if_neg (by decide), read]
    rfl
  all_goals simp [Act.leaves, buying, sale]

end Client

end TradeWire
