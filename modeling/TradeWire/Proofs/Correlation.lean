import TradeWire.Proofs.Exchange
/-! Replies do not cross: what two requests with numbers of their own both take for the reply has no
number, and names the order that both are about. -/

namespace TradeWire

namespace Correlation

theorem agrees_not_differs {α : Type} [DecidableEq α] (known found : Option α)
    (agreed : agrees known found) : differs known found = false := by
  obtain ⟨id, rfl, rfl⟩ := (agrees_iff known found).mp agreed
  simp [differs]

def About (known : Correlation) (message : Message) : Prop :=
  ∃ id, known.orderId = some id ∧ message.id = some id

theorem accepts_numbered (known : Correlation) (message : Message) (number : Int)
    (numbered : known.requestId = some number) :
    known.accepts message ↔
      (message.requestId = some number ∧ differs known.orderId message.id = false) ∨
      message.requestId = none ∧ known.About message := by
  rw [accepts_iff, numbered, About, ← agrees_iff]
  cases message.requestId with
  | none =>
      have unsaid : differs (some number) none = false ∧ agrees (some number) none = false :=
        ⟨rfl, rfl⟩
      simp only [unsaid, Bool.false_eq_true, or_false, true_and, reduceCtorEq, false_and, false_or]
      exact and_iff_right_of_imp (agrees_not_differs known.orderId message.id)
  | some found =>
      by_cases same : number = found
      · subst same
        simp [differs, agrees]
      · simp [differs, same, Ne.symm same]

theorem accepts_unordered (known : Correlation) (message : Message) (number : Int)
    (numbered : known.requestId = some number) (unordered : known.orderId = none) :
    known.accepts message ↔ message.requestId = some number := by
  rw [accepts_numbered known message number numbered, About, unordered]
  simp [differs]

/-- A message that no number tells apart, about the order of two requests. -/
structure Shared (first second : Correlation) (message : Message) : Prop where
  unnumbered : message.requestId = none
  order : ∃ id, first.orderId = some id ∧ second.orderId = some id ∧ message.id = some id

theorem shared_iff (first second : Correlation) (message : Message) :
    Shared first second message ↔
      message.requestId = none ∧ first.About message ∧ second.About message := by
  constructor
  · rintro ⟨unnumbered, id, one, other, found⟩
    exact ⟨unnumbered, ⟨id, one, found⟩, id, other, found⟩
  · rintro ⟨unnumbered, ⟨id, one, found⟩, _, other, same⟩
    cases found.symm.trans same
    exact ⟨unnumbered, id, one, other, found⟩

theorem accepts_both (first second : Correlation) (message : Message) (one other : Int)
    (firstNumber : first.requestId = some one) (secondNumber : second.requestId = some other)
    (apart : one ≠ other) :
    first.accepts message ∧ second.accepts message ↔ Shared first second message := by
  rw [accepts_numbered first message one firstNumber,
    accepts_numbered second message other secondNumber, shared_iff]
  constructor
  · rintro ⟨⟨numbered, -⟩ | ⟨unnumbered, about⟩, ⟨alsoNumbered, -⟩ | ⟨alsoUnnumbered, alsoAbout⟩⟩
    · cases numbered.symm.trans alsoNumbered
      exact absurd rfl apart
    · cases numbered.symm.trans alsoUnnumbered
    · cases unnumbered.symm.trans alsoNumbered
    · exact ⟨unnumbered, about, alsoAbout⟩
  · rintro ⟨unnumbered, about, alsoAbout⟩
    exact ⟨.inr ⟨unnumbered, about⟩, .inr ⟨unnumbered, alsoAbout⟩⟩

end Correlation

namespace Await

theorem accepts_of_run (await : Await) (limit : Number.Double) (tidings : List (Timed Tiding))
    (reply : DirectMessage) (ended : Fault.ofEnd (await.run limit tidings) = .ok reply) :
    await.wanted.accepts reply.message := by
  have heeded := await.heeded_run limit tidings
  rw [ended] at heeded
  cases heeded with
  | reply _ replies => exact replies.accepted

end Await

namespace Acting

theorem requestId_of_orderedReply (order : Order) (limit : Option Number.Double)
    (client after : Client) (reply : DirectMessage)
    (given : (orderedReply order limit).Gives client reply after) :
    reply.message.requestId = some (requestNumber client.network.supply.takeId.1) := by
  obtain ⟨requestId, drawn, numbered, given⟩ := (gives_bind _ _ _ _ _).mp given
  obtain ⟨found, middle, got, given⟩ := (gives_bind _ _ _ _ _).mp given
  have replies := gives_exchange _ _ _ _ _ _ _ _ given
  rw [gives_nextRequestId client drawn requestId numbered] at replies
  exact (Correlation.accepts_unordered _ _ _ rfl rfl).mp replies.accepted

end Acting

namespace Correlation

/-- Two waitings with numbers of their own take no message both, nor end with one, but a message
without a number that names the order of both. A request for a new order, which names no order, is
answered only under its number. -/
theorem replies_do_not_cross (first second : Correlation) (one other : Int)
    (firstNumber : first.requestId = some one) (secondNumber : second.requestId = some other)
    (apart : one ≠ other) :
    (∀ message, first.accepts message ∧ second.accepts message ↔ Shared first second message) ∧
    (∀ (await another : Await) (limit anotherLimit : Number.Double)
      (tidings otherTidings : List (Timed Tiding)) (reply otherReply : DirectMessage),
      await.wanted = first → another.wanted = second →
      Fault.ofEnd (await.run limit tidings) = .ok reply →
      Fault.ofEnd (another.run anotherLimit otherTidings) = .ok otherReply →
      reply.message = otherReply.message → Shared first second reply.message) ∧
    (first.orderId = none → ∀ message,
      first.accepts message ↔ message.requestId = some one) ∧
    ∀ client order limit reply after, (Acting.orderedReply order limit).Gives client reply after →
      reply.message.requestId = some (requestNumber client.network.supply.takeId.1) := by
  have both (message : Message) :=
    accepts_both first second message one other firstNumber secondNumber apart
  refine ⟨both, ?_, ?_, ?_⟩
  · rintro await another limit anotherLimit tidings otherTidings reply otherReply rfl rfl ended
      alsoEnded same
    have accepted := await.accepts_of_run limit tidings reply ended
    have alsoAccepted := another.accepts_of_run anotherLimit otherTidings otherReply alsoEnded
    rw [← same] at alsoAccepted
    exact (both reply.message).mp ⟨accepted, alsoAccepted⟩
  · intro unordered message
    exact accepts_unordered first message one firstNumber unordered
  · intro client order limit reply after given
    exact Acting.requestId_of_orderedReply order limit client after reply given

def cancelling (requestId : Int) : Correlation :=
  { orderId := some "o1", requestId := some requestId }

def canceled (requestId : Option Int) : Message :=
  { action := "canceled", id := some "o1", requestId }

/-- Of two requests about one order, both take what names it without a number, and only one takes
what has its number. -/
theorem replies_do_not_cross_canceled :
    ((cancelling 1).accepts (canceled none) ∧ (cancelling 2).accepts (canceled none)) ∧
      (cancelling 1).accepts (canceled (some 1)) ∧ ¬(cancelling 2).accepts (canceled (some 1)) := by
  have both := (replies_do_not_cross (cancelling 1) (cancelling 2) 1 2 rfl rfl (by decide)).1
  have own : (cancelling 1).accepts (canceled (some 1)) := by decide
  refine ⟨(both (canceled none)).mpr ⟨rfl, "o1", rfl, rfl, rfl⟩, own, ?_⟩
  intro taken
  exact absurd ((both (canceled (some 1))).mp ⟨own, taken⟩).unnumbered (by decide)

end Correlation

end TradeWire
