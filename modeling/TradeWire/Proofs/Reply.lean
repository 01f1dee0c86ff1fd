import TradeWire.Proofs.Order.Payload
import TradeWire.Reply
/-! What the daemon's replies are read as: refusals come first, and what is not as it was asked for
is told as such, unless an infinite number is met. -/

namespace TradeWire

open TradeWire.Except (FailsIn failsIn_ok failsIn_error failsIn_bind failsIn_mono)

theorem Fields.has_iff (fields : Fields) (key : String) :
    fields.has key ↔ ∃ value, fields.get? key = some value := by
  rw [← Option.isSome_iff_exists, get?, List.lookup_isSome_iff, has, List.any_eq_true]
  exact exists_congr fun field => and_congr_right fun _ => by rw [beq_iff_eq, beq_iff_eq, eq_comm]

namespace Message

def Says (message : Message) (key : String) (value : Json) : Prop :=
  ∃ payload, message.payload = some payload ∧ payload.get? key = some value

theorem get?_payload (message : Message) (key : String) (value : Json) :
    (message.payload.getD []).get? key = some value ↔ message.Says key value := by
  rw [Says]
  cases message.payload <;> simp [Fields.get?]

theorem has_payload (message : Message) (key : String) :
    (message.payload.getD []).has key ↔ ∃ value, message.Says key value := by
  simp only [Fields.has_iff, get?_payload]

def Refused (message : Message) : Prop :=
  message.action = "cant-do" ∨ ∃ value, message.Says "cant_do" value

/-- The reason of a refusal is the text of that field. Null gives no reason. -/
inductive GivesReason (message : Message) : Option String → Prop where
  | unsaid (null : ∀ value, message.Says "cant_do" value → value = .null) :
      GivesReason message none
  | said (value : Json) (stated : message.Says "cant_do" value) (proper : value ≠ .null) :
      GivesReason message (some value.describe)

theorem isRefusal_iff (message : Message) : message.isRefusal ↔ message.Refused := by
  rw [isRefusal, Bool.or_eq_true, beq_iff_eq, has_payload, Refused]

theorem givesReason_iff (message : Message) (reason : Option String) :
    message.GivesReason reason ↔ message.refusalReason = reason := by
  rw [refusalReason]
  cases shown : Json.present? ((message.payload.getD []).get? "cant_do") with
  | none =>
      simp only [Json.present?_eq_none, get?_payload] at shown
      constructor
      · intro gives
        cases gives with
        | unsaid _ => rfl
        | said value stated proper => exact absurd (shown value stated) proper
      · rintro rfl
        exact .unsaid shown
  | some value =>
      rw [Json.present?_eq_some, get?_payload] at shown
      have single (other : Json) (stated : message.Says "cant_do" other) : other = value := by
        rw [← get?_payload] at stated shown
        exact Option.some.inj (stated.symm.trans shown.1)
      constructor
      · intro gives
        cases gives with
        | unsaid null => exact absurd (null value shown.1) shown.2
        | said other stated _ =>
            rw [single other stated]
            rfl
      · rintro rfl
        exact .said value shown.1 shown.2

theorem refuseUnless_ok (message : Message) :
    message.refuseUnless = .ok () ↔ ¬message.Refused := by
  rw [refuseUnless, ← isRefusal_iff]
  cases message.isRefusal <;> simp

theorem refuseUnless_error (message : Message) (fault : Fault) :
    message.refuseUnless = .error fault ↔ message.Refused ∧
      ∃ reason, message.GivesReason reason ∧ fault = .request (.rejected reason) := by
  simp only [refuseUnless, ← isRefusal_iff, givesReason_iff, exists_eq_left']
  cases message.isRefusal <;> simp [eq_comm]

inductive OfContent : Fault → Prop where
  | unexpected (surprise : Surprise) : OfContent (.request (.unexpected surprise))
  | tooLarge : OfContent (.value .tooLarge)

inductive OfReply : Fault → Prop where
  | rejected (reason : Option String) : OfReply (.request (.rejected reason))
  | unexpected (surprise : Surprise) : OfReply (.request (.unexpected surprise))
  | tooLarge : OfReply (.value .tooLarge)

theorem OfContent.ofReply (fault : Fault) (content : OfContent fault) : OfReply fault := by
  cases content with
  | unexpected surprise => exact .unexpected surprise
  | tooLarge => exact .tooLarge

theorem failsIn_refuseUnless (message : Message) : FailsIn OfReply message.refuseUnless := by
  intro fault failed
  obtain ⟨-, reason, -, rfl⟩ := (refuseUnless_error message fault).mp failed
  exact .rejected reason

theorem failsIn_orderIn (message : Message) (orderId : Option String) (raw : Option Json) :
    FailsIn OfContent (message.orderIn orderId raw) := by
  unfold orderIn
  split
  · rename_i fields
    intro fault failed
    split at failed
    · cases failed
      exact .unexpected _
    · rename_i other
      cases Order.failsIn_ofPayload fields fault failed with
      | decode why => exact absurd failed (other why)
      | tooLarge => exact .tooLarge
  · exact failsIn_error _ _ (.unexpected _)

theorem failsIn_invoiceIn (orderId : String) (raw : Option Json) :
    FailsIn OfContent (invoiceIn orderId raw) := by
  rw [invoiceIn]
  split
  · exact failsIn_ok _ _
  · exact failsIn_ok _ _
  · exact failsIn_error _ _ (.unexpected _)

theorem failsIn_amountIn (orderId : String) (raw : Option Json) :
    FailsIn OfContent (amountIn orderId raw) := by
  rw [amountIn]
  split
  · exact failsIn_ok _ _
  · split
    · exact failsIn_ok _ _
    · exact failsIn_error _ _ .tooLarge
    · exact failsIn_error _ _ (.unexpected _)

def AsksPayment (message : Message) (parts : List Json) : Prop :=
  (¬∃ value, message.Says "order" value) ∧ message.Says "payment_request" (.arr parts)

def paymentIn (message : Message) (orderId : String) (parts : List Json) :
    Except Fault Confirmation := do
  let order ← message.orderIn (some orderId) parts[0]?
  let invoice ← invoiceIn orderId parts[1]?
  let satAmount ← amountIn orderId parts[2]?
  return { order, invoice, satAmount }

theorem failsIn_paymentIn (message : Message) (orderId : String) (parts : List Json) :
    FailsIn OfContent (message.paymentIn orderId parts) := by
  apply failsIn_bind _ _ _ (failsIn_orderIn message _ _)
  intro order
  apply failsIn_bind _ _ _ (failsIn_invoiceIn orderId _)
  intro invoice
  apply failsIn_bind _ _ _ (failsIn_amountIn orderId _)
  intro satAmount
  exact failsIn_ok _ _

theorem confirmation_asked (message : Message) (orderId : String) (parts : List Json)
    (asks : message.AsksPayment parts) :
    message.confirmation orderId =
      (do message.refuseUnless; message.paymentIn orderId parts) := by
  obtain ⟨unordered, asked⟩ := asks
  rw [← has_payload, Bool.not_eq_true] at unordered
  rw [← get?_payload] at asked
  simp only [confirmation, unordered, asked]
  rfl

theorem confirmation_plain (message : Message) (orderId : String)
    (plain : ∀ parts, ¬message.AsksPayment parts) :
    message.confirmation orderId = do
      return { order := ← message.orderReply (some orderId) } := by
  unfold confirmation
  dsimp only
  split
  · rename_i parts unordered asked
    rw [get?_payload] at asked
    rw [← Bool.not_eq_true, has_payload] at unordered
    exact absurd ⟨unordered, asked⟩ (plain parts)
  · rfl

theorem failsIn_orderReply (message : Message) (orderId : Option String) :
    FailsIn OfReply (message.orderReply orderId) := by
  apply failsIn_bind _ _ _ (failsIn_refuseUnless message)
  intro _
  exact failsIn_mono _ _ _ OfContent.ofReply (failsIn_orderIn message orderId _)

theorem failsIn_confirmation (message : Message) (orderId : String) :
    FailsIn OfReply (message.confirmation orderId) := by
  by_cases asked : ∃ parts, message.AsksPayment parts
  · obtain ⟨parts, asks⟩ := asked
    rw [confirmation_asked message orderId parts asks]
    apply failsIn_bind _ _ _ (failsIn_refuseUnless message)
    intro _
    exact failsIn_mono _ _ _ OfContent.ofReply (failsIn_paymentIn message orderId parts)
  · rw [confirmation_plain message orderId (not_exists.mp asked)]
    apply failsIn_bind _ _ _ (failsIn_orderReply message _)
    intro order
    exact failsIn_ok _ _

/-- Nothing of the content of a refusal is read. -/
theorem refuseUnless_bind {α : Type} (message : Message) (next : Unit → Except Fault α)
    (fault : Fault) :
    (message.refuseUnless >>= next) = .error fault ↔
      (message.Refused ∧ ∃ reason, message.GivesReason reason ∧
        fault = .request (.rejected reason)) ∨
      ¬message.Refused ∧ next () = .error fault := by
  have single : (∃ a, message.refuseUnless = .ok a ∧ next a = .error fault) ↔
      ¬message.Refused ∧ next () = .error fault := by
    rw [← refuseUnless_ok]
    exact ⟨fun ⟨(), passed⟩ => passed, fun passed => ⟨(), passed⟩⟩
  rw [Except.bind_eq_error, refuseUnless_error, single]

def OrderOverflows (raw : Option Json) : Prop :=
  ∃ fields, raw = some (.obj fields) ∧ Order.PayloadOverflows fields

theorem orderIn_tooLarge (message : Message) (orderId : Option String) (raw : Option Json) :
    message.orderIn orderId raw = .error (.value .tooLarge) ↔ OrderOverflows raw := by
  constructor
  · intro failed
    unfold orderIn at failed
    split at failed
    · rename_i fields
      split at failed
      · cases failed
      · exact ⟨fields, rfl, (Order.ofPayload_tooLarge fields).mp failed⟩
    · cases failed
  · rintro ⟨fields, rfl, overflows⟩
    simp only [orderIn, (Order.ofPayload_tooLarge fields).mpr overflows]

theorem orderIn_ok (message : Message) (orderId : Option String) (raw : Option Json)
    (order : Order) :
    message.orderIn orderId raw = .ok order ↔
      ∃ fields, raw = some (.obj fields) ∧ Order.ofPayload fields = .ok order := by
  constructor
  · intro read
    unfold orderIn at read
    split at read
    · rename_i fields
      split at read
      · cases read
      · exact ⟨fields, rfl, read⟩
    · cases read
  · rintro ⟨fields, rfl, read⟩
    simp only [orderIn, read]

def InvoiceKnown (raw : Option Json) : Prop :=
  ∀ value, raw = some value → value = .null ∨ ∃ invoice, value = .str invoice

theorem invoiceIn_ok (orderId : String) (raw : Option Json) :
    (∃ invoice, invoiceIn orderId raw = .ok invoice) ↔ InvoiceKnown raw := by
  rw [invoiceIn, InvoiceKnown]
  cases shown : Json.present? raw with
  | none =>
      have absent := (Json.present?_eq_none raw).mp shown
      exact iff_of_true ⟨none, rfl⟩ fun value found => .inl (absent value found)
  | some value =>
      obtain ⟨rfl, proper⟩ := (Json.present?_eq_some raw value).mp shown
      simp only [Option.some.injEq, forall_eq', proper, false_or]
      cases value <;> simp

theorem invoiceIn_tooLarge (orderId : String) (raw : Option Json) :
    invoiceIn orderId raw ≠ .error (.value .tooLarge) := by
  rw [invoiceIn]
  split <;> exact nofun

theorem amountIn_tooLarge (orderId : String) (raw : Option Json) :
    amountIn orderId raw = .error (.value .tooLarge) ↔
      ∃ negative, raw = some (.float (.infinite negative)) := by
  constructor
  · intro failed
    rw [amountIn] at failed
    split at failed
    · cases failed
    · rename_i value shown
      obtain ⟨rfl, -⟩ := (Json.present?_eq_some raw value).mp shown
      split at failed
      · cases failed
      · rename_i read
        obtain ⟨negative, rfl⟩ := (Json.toInt_tooLarge value).mp read
        exact ⟨negative, rfl⟩
      · cases failed
  · rintro ⟨negative, rfl⟩
    rfl

inductive PaymentOverflows (parts : List Json) : Prop where
  | order (overflows : OrderOverflows parts[0]?)
  | amount (fields : Fields) (order : Order) (negative : Bool)
      (first : parts[0]? = some (.obj fields)) (read : Order.ofPayload fields = .ok order)
      (invoice : InvoiceKnown parts[1]?)
      (infinite : parts[2]? = some (.float (.infinite negative)))

theorem paymentIn_tooLarge (message : Message) (orderId : String) (parts : List Json) :
    message.paymentIn orderId parts = .error (.value .tooLarge) ↔ PaymentOverflows parts := by
  rw [paymentIn]
  constructor
  · intro failed
    obtain first | ⟨order, read, failed⟩ := (Except.bind_eq_error _ _ _).mp failed
    · exact .order ((orderIn_tooLarge message _ _).mp first)
    obtain second | ⟨invoice, known, failed⟩ := (Except.bind_eq_error _ _ _).mp failed
    · exact absurd second (invoiceIn_tooLarge orderId _)
    obtain third | ⟨amount, counted, done⟩ := (Except.bind_eq_error _ _ _).mp failed
    · obtain ⟨fields, first, read⟩ := (orderIn_ok message _ _ order).mp read
      obtain ⟨negative, infinite⟩ := (amountIn_tooLarge orderId _).mp third
      exact .amount fields order negative first read
        ((invoiceIn_ok orderId _).mp ⟨invoice, known⟩) infinite
    · cases done
  · intro overflows
    cases overflows with
    | order overflows =>
        rw [(orderIn_tooLarge message _ _).mpr overflows]
        rfl
    | amount fields order negative first read invoice infinite =>
        obtain ⟨invoice, known⟩ := (invoiceIn_ok orderId _).mpr invoice
        rw [(orderIn_ok message _ _ order).mpr ⟨fields, first, read⟩, known,
          (amountIn_tooLarge orderId _).mpr ⟨negative, infinite⟩]
        rfl

def ReplyOverflows (message : Message) : Prop :=
  ¬message.Refused ∧ ∃ fields, message.Says "order" (.obj fields) ∧ Order.PayloadOverflows fields

inductive ConfirmationOverflows (message : Message) : Prop where
  | plain (plain : ∀ parts, ¬message.AsksPayment parts) (overflows : message.ReplyOverflows)
  | payment (parts : List Json) (asks : message.AsksPayment parts) (taken : ¬message.Refused)
      (overflows : PaymentOverflows parts)

theorem orderReply_tooLarge (message : Message) (orderId : Option String) :
    message.orderReply orderId = .error (.value .tooLarge) ↔ message.ReplyOverflows := by
  rw [orderReply, refuseUnless_bind, ReplyOverflows, orderIn_tooLarge]
  simp only [OrderOverflows, get?_payload, reduceCtorEq, and_false, exists_const,
    false_or]

theorem asksPayment_unique (message : Message) (parts others : List Json)
    (asks : message.AsksPayment parts) (alsoAsks : message.AsksPayment others) :
    parts = others := by
  have one := (get?_payload message _ _).mpr asks.2
  have other := (get?_payload message _ _).mpr alsoAsks.2
  cases one.symm.trans other
  rfl

theorem confirmation_tooLarge (message : Message) (orderId : String) :
    message.confirmation orderId = .error (.value .tooLarge) ↔ message.ConfirmationOverflows := by
  by_cases asked : ∃ parts, message.AsksPayment parts
  · obtain ⟨parts, asks⟩ := asked
    rw [confirmation_asked message orderId parts asks, refuseUnless_bind, paymentIn_tooLarge]
    constructor
    · rintro (⟨-, _, -, impossible⟩ | ⟨taken, overflows⟩)
      · cases impossible
      · exact .payment parts asks taken overflows
    · intro overflows
      cases overflows with
      | plain plain _ => exact absurd asks (plain parts)
      | payment others alsoAsks taken overflows =>
          cases asksPayment_unique message parts others asks alsoAsks
          exact .inr ⟨taken, overflows⟩
  · have plain := not_exists.mp asked
    have same : message.confirmation orderId = .error (.value .tooLarge) ↔
        message.orderReply (some orderId) = .error (.value .tooLarge) := by
      rw [confirmation_plain message orderId plain, Except.bind_eq_error]
      simp [pure, Except.pure]
    rw [same, orderReply_tooLarge]
    constructor
    · exact .plain plain
    · intro overflows
      cases overflows with
      | plain _ overflows => exact overflows
      | payment parts asks _ _ => exact absurd asks (plain parts)

inductive Told {α : Type} : Except Fault α → Prop where
  | result (a : α) : Told (.ok a)
  | rejected (reason : Option String) : Told (.error (.request (.rejected reason)))
  | unexpected (surprise : Surprise) : Told (.error (.request (.unexpected surprise)))

theorem told_iff {α : Type} (run : Except Fault α) (fails : FailsIn OfReply run) :
    Told run ↔ run ≠ .error (.value .tooLarge) := by
  cases run with
  | ok a => exact iff_of_true (.result a) nofun
  | error fault =>
      cases fails fault rfl with
      | rejected reason => exact iff_of_true (.rejected reason) nofun
      | unexpected surprise => exact iff_of_true (.unexpected surprise) nofun
      | tooLarge => exact iff_of_false nofun (· rfl)

def endlessRequest (orderId : String) (negative : Bool) : Message where
  action := "pay-invoice"
  payload := some [("payment_request",
    .arr [.obj [("id", .str orderId)], .null, .float (.infinite negative)])]

theorem endlessRequest_overflows (orderId : String) (named : orderId ≠ "") (negative : Bool) :
    (endlessRequest orderId negative).ConfirmationOverflows := by
  have read : Order.idOf [("id", .str orderId)] = .ok orderId := by
    simp [Order.idOf, Json.isTrue, Json.describe, named]
  have whole : ∃ order, Order.ofPayload [("id", .str orderId)] = .ok order := by
    rw [Order.ofPayload_eq, read]
    exact ⟨_, rfl⟩
  obtain ⟨order, ordered⟩ := whole
  refine .payment _ ⟨?_, _, rfl, rfl⟩ ?_ (.amount _ order negative rfl ordered ?_ rfl)
  · rintro ⟨value, payload, same, found⟩
    cases same
    cases found
  · rintro (acted | ⟨value, payload, same, found⟩)
    · exact absurd acted (by simp [endlessRequest])
    · cases same
      cases found
  · rintro value same
    cases same
    exact .inl rfl

/-- A reply is read as what was asked for, or told to be a refusal or something else, exactly if no
infinite number is met in it. -/
theorem told_iff_no_overflow (message : Message) (orderId : String) (asked : Option String) :
    (Told (message.confirmation orderId) ↔ ¬message.ConfirmationOverflows) ∧
    (message.confirmation orderId = .error (.value .tooLarge) ↔ message.ConfirmationOverflows) ∧
    (Told (message.orderReply asked) ↔ ¬message.ReplyOverflows) ∧
    (message.orderReply asked = .error (.value .tooLarge) ↔ message.ReplyOverflows) := by
  refine ⟨?_, confirmation_tooLarge message orderId, ?_, orderReply_tooLarge message asked⟩
  · rw [told_iff _ (failsIn_confirmation message orderId), ← confirmation_tooLarge message orderId]
  · rw [told_iff _ (failsIn_orderReply message asked), ← orderReply_tooLarge message asked]

end Message

end TradeWire
