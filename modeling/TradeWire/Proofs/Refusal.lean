import TradeWire.Proofs.Exchange
import TradeWire.Proofs.Reply
/-! A refusal by the daemon always wins: whatever else the reply says, each request is rejected,
with the reason that the reply gives, and nothing else rejects a request. -/

namespace TradeWire

open TradeWire.Except (FailsIn failsIn_ok failsIn_error)

namespace Message

theorem existsUnique_reason (message : Message) : ∃! reason, message.GivesReason reason := by
  simp only [givesReason_iff]
  exact existsUnique_eq'

theorem rejected_iff {α : Type} (message : Message) (next : Unit → Except Fault α)
    (reason : Option String) (content : FailsIn OfContent (next ())) :
    (message.refuseUnless >>= next) = .error (.request (.rejected reason)) ↔
      message.Refused ∧ message.GivesReason reason := by
  rw [refuseUnless_bind]
  constructor
  · rintro (⟨refused, found, gives, same⟩ | ⟨-, failed⟩)
    · cases same
      exact ⟨refused, gives⟩
    · cases content _ failed
  · rintro ⟨refused, gives⟩
    exact .inl ⟨refused, reason, gives, rfl⟩

theorem orderReply_rejected (message : Message) (orderId reason : Option String) :
    message.orderReply orderId = .error (.request (.rejected reason)) ↔
      message.Refused ∧ message.GivesReason reason :=
  rejected_iff message _ reason (failsIn_orderIn message orderId _)

theorem confirmation_rejected (message : Message) (orderId : String) (reason : Option String) :
    message.confirmation orderId = .error (.request (.rejected reason)) ↔
      message.Refused ∧ message.GivesReason reason := by
  by_cases asked : ∃ parts, message.AsksPayment parts
  · obtain ⟨parts, asks⟩ := asked
    rw [confirmation_asked message orderId parts asks]
    exact rejected_iff message _ reason (failsIn_paymentIn message orderId parts)
  · rw [confirmation_plain message orderId (not_exists.mp asked), Except.bind_eq_error,
      orderReply_rejected]
    simp [pure, Except.pure]

theorem acknowledged_rejected (message : Message) (orderId : String) (reason : Option String) :
    Acting.acknowledged orderId message = .error (.request (.rejected reason)) ↔
      message.Refused ∧ message.GivesReason reason := by
  apply rejected_iff message _ reason
  split
  · exact failsIn_error _ _ (.unexpected _)
  · exact failsIn_ok _ _

end Message

namespace Acting

variable {α β : Type}

theorem fails_orTimedOut (orderId : String) (step : Acting α) (client : Client) (fault : Fault)
    (failed : (orTimedOut orderId step).Fails client fault) : step.Fails client fault := by
  obtain ⟨after, ran⟩ := failed
  rcases inside : step.run.run client with ⟨other | a, middle⟩
  · rw [run_orTimedOut_error orderId step client middle other inside] at ran
    cases ran
    exact ⟨middle, inside⟩
  · rw [run_orTimedOut_ok orderId step client middle a inside] at ran
    cases ran

theorem fails_numbered (body : Int → Client → Acting α) (client : Client) (fault : Fault)
    (failed : (do
      let requestId ← nextRequestId
      let client ← get
      body requestId client : Acting α).Fails client fault) :
    ∃ requestId drawn, (body requestId drawn).Fails drawn fault := by
  obtain early | ⟨requestId, drawn, -, failed⟩ := (fails_bind _ _ _ _).mp failed
  · exact absurd early (not_fails_nextRequestId client fault)
  obtain early | ⟨found, middle, got, failed⟩ := (fails_bind _ _ _ _).mp failed
  · exact absurd early (not_fails_get drawn fault)
  obtain ⟨rfl, rfl⟩ := (gives_get drawn found middle).mp got
  exact ⟨requestId, _, failed⟩

theorem fails_orderedReply (order : Order) (limit : Option Number.Double) (client : Client)
    (fault : Fault) (failed : (orderedReply order limit).Fails client fault) : OfWay fault := by
  obtain ⟨_, _, failed⟩ := fails_numbered _ client fault failed
  exact fails_exchange _ _ _ _ _ _ fault failed

theorem fails_takingReply (taking : Taking) (client : Client) (fault : Fault)
    (failed : (takingReply taking).Fails client fault) : OfWay fault := by
  obtain ⟨_, _, failed⟩ := fails_numbered _ client fault failed
  exact fails_exchange _ _ _ _ _ _ fault (fails_orTimedOut _ _ _ _ failed)

theorem fails_invoicedReply (orderId invoice : String) (keys : Option Keys)
    (limit : Option Number.Double) (client : Client) (fault : Fault)
    (failed : (invoicedReply orderId invoice keys limit).Fails client fault) : OfWay fault := by
  unfold invoicedReply at failed
  split at failed
  · obtain ⟨after, thrown⟩ := failed
    cases thrown
    exact .value _
  · obtain ⟨_, _, failed⟩ := fails_numbered _ client fault failed
    exact fails_exchange _ _ _ _ _ _ fault failed

/-- A request is rejected by how its reply is read, if neither the way to the reply nor what is done
with the result can reject it. -/
theorem rejected_iff_read (asking : Acting DirectMessage) (read : DirectMessage → Except Fault α)
    (finish : DirectMessage → α → Acting β) (client : Client) (reason : Option String)
    (way : ∀ fault, asking.Fails client fault → OfWay fault)
    (finishes : ∀ reply a between fault, ¬(finish reply a).Fails between fault) :
    (do
      let reply ← asking
      let a ← ofExcept (read reply)
      finish reply a : Acting β).Fails client (.request (.rejected reason)) ↔
    ∃ reply after, asking.Gives client reply after ∧
      read reply = .error (.request (.rejected reason)) := by
  rw [fails_bind]
  constructor
  · rintro (early | ⟨reply, after, replied, failed⟩)
    · cases way _ early
    · rw [fails_bind, fails_ofExcept] at failed
      obtain rejected | ⟨a, between, -, late⟩ := failed
      · exact ⟨reply, after, replied, rejected⟩
      · exact absurd late (finishes reply a between _)
  · rintro ⟨reply, after, replied, rejected⟩
    refine .inr ⟨reply, after, replied, ?_⟩
    rw [fails_bind, fails_ofExcept]
    exact .inl rejected

theorem not_fails_pure (a : α) (client : Client) (fault : Fault) :
    ¬(pure a : Acting α).Fails client fault := by
  rintro ⟨after, impossible⟩
  cases impossible

theorem not_fails_advance (orderId : String) (stage : Stage) (client : Client) (fault : Fault) :
    ¬(advance orderId stage).Fails client fault := by
  rintro ⟨after, impossible⟩
  cases impossible

theorem not_fails_advanced (orderId : String) (stage : Stage) (a : α) (client : Client)
    (fault : Fault) : ¬(do advance orderId stage; return a : Acting α).Fails client fault := by
  rw [fails_bind]
  rintro (early | ⟨-, between, -, late⟩)
  · exact not_fails_advance orderId stage client fault early
  · exact not_fails_pure a between fault late

/-- Each of the three requests is rejected exactly if its reply is a refusal, with the one reason
that the reply gives. -/
theorem rejected_iff_refused (client : Client) (reason : Option String) :
    (∀ message : Message, ∃! given, message.GivesReason given) ∧
    (∀ order limit, (requestOrder order limit).Fails client (.request (.rejected reason)) ↔
      ∃ reply after, (orderedReply order limit).Gives client reply after ∧
        reply.message.Refused ∧ reply.message.GivesReason reason) ∧
    (∀ taking, (takeOrder taking).Fails client (.request (.rejected reason)) ↔
      ∃ reply after, (takingReply taking).Gives client reply after ∧
        reply.message.Refused ∧ reply.message.GivesReason reason) ∧
    ∀ orderId invoice keys limit,
      (addInvoice orderId invoice keys limit).Fails client (.request (.rejected reason)) ↔
        ∃ reply after, (invoicedReply orderId invoice keys limit).Gives client reply after ∧
          reply.message.Refused ∧ reply.message.GivesReason reason := by
  refine ⟨Message.existsUnique_reason, fun order limit => ?_, fun taking => ?_,
    fun orderId invoice keys limit => ?_⟩
  · have reads := rejected_iff_read (orderedReply order limit)
      (fun reply => reply.message.orderReply none) (fun _ order => pure order) client reason
      (fails_orderedReply order limit client) (fun _ _ => not_fails_pure _)
    simp only [bind_pure, Message.orderReply_rejected] at reads
    rw [requestOrder_eq]
    exact reads
  · have reads := rejected_iff_read (takingReply taking)
      (fun reply => reply.message.confirmation taking.orderId)
      (fun _ confirmation => do
        advance taking.orderId .takenConfirmed
        return confirmation) client reason (fails_takingReply taking client)
      (fun _ => not_fails_advanced taking.orderId .takenConfirmed)
    simp only [Message.confirmation_rejected] at reads
    rw [takeOrder_eq]
    exact reads
  · have reads := rejected_iff_read (invoicedReply orderId invoice keys limit)
      (fun reply => acknowledged orderId reply.message) (fun reply _ => pure reply) client reason
      (fails_invoicedReply orderId invoice keys limit client) (fun _ _ => not_fails_pure _)
    simp only [Message.acknowledged_rejected] at reads
    rw [addInvoice_eq]
    exact reads

end Acting

end TradeWire
