import TradeWire.Proofs.Reply
/-! Which replies are read as the confirmation of a taken order, and when the taker has to pay. -/

namespace TradeWire.Message

inductive InvoiceSaid : Option Json → Option String → Prop where
  | absent : InvoiceSaid none none
  | null : InvoiceSaid (some .null) none
  | text (invoice : String) : InvoiceSaid (some (.str invoice)) (some invoice)

inductive AmountSaid : Option Json → Option Int → Prop where
  | absent : AmountSaid none none
  | null : AmountSaid (some .null) none
  | integer (value : Json) (n : Int) (read : value.toInt = .ok n) : AmountSaid (some value) (some n)

theorem invoiceIn_eq_ok (orderId : String) (raw : Option Json) (invoice : Option String) :
    invoiceIn orderId raw = .ok invoice ↔ InvoiceSaid raw invoice := by
  constructor
  · intro read
    rcases raw with _ | value
    · cases read
      exact .absent
    · cases value with
      | null =>
          cases read
          exact .null
      | str text =>
          cases read
          exact .text text
      | bool _ | int _ | float _ | arr _ | obj _ => cases read
  · intro said
    cases said <;> rfl

theorem amountIn_eq_ok (orderId : String) (raw : Option Json) (amount : Option Int) :
    amountIn orderId raw = .ok amount ↔ AmountSaid raw amount := by
  constructor
  · intro read
    rw [amountIn] at read
    split at read
    · rename_i shown
      have absent := (Json.present?_eq_none raw).mp shown
      cases read
      rcases raw with _ | value
      · exact .absent
      · cases absent value rfl
        exact .null
    · rename_i value shown
      obtain ⟨rfl, -⟩ := (Json.present?_eq_some raw value).mp shown
      split at read
      · rename_i n counted
        cases read
        exact .integer value n counted
      · cases read
      · cases read
  · intro said
    cases said with
    | absent | null => rfl
    | integer value n read =>
        have proper : value ≠ .null := by
          intro null
          rw [null] at read
          cases read
        have shown := (Json.present?_eq_some (some value) value).mpr ⟨rfl, proper⟩
        simp only [amountIn, shown, read]

structure Lists (parts : List Json) (result : Confirmation) : Prop where
  order : ∃ fields, parts[0]? = some (.obj fields) ∧ Order.ofPayload fields = .ok result.order
  invoice : InvoiceSaid parts[1]? result.invoice
  amount : AmountSaid parts[2]? result.satAmount

theorem paymentIn_ok (message : Message) (orderId : String) (parts : List Json)
    (result : Confirmation) :
    message.paymentIn orderId parts = .ok result ↔ Lists parts result := by
  simp only [paymentIn, Except.bind_eq_ok, orderIn_ok, invoiceIn_eq_ok, amountIn_eq_ok]
  constructor
  · intro read
    obtain ⟨order, ordered, invoice, invoiced, amount, counted, same⟩ := read
    cases same
    exact ⟨ordered, invoiced, counted⟩
  · intro lists
    exact ⟨_, lists.order, _, lists.invoice, _, lists.amount, rfl⟩

/-- What a reply confirms: the order of its own, or else what a payment request lists. -/
inductive Confirms (message : Message) : Confirmation → Prop where
  | plain (fields : Fields) (order : Order)
      (unlisted : (∃ value, message.Says "order" value) ∨
        ∀ parts, ¬message.Says "payment_request" (.arr parts))
      (ordered : message.Says "order" (.obj fields)) (read : Order.ofPayload fields = .ok order) :
      Confirms message { order }
  | payment (parts : List Json) (result : Confirmation) (asks : message.AsksPayment parts)
      (lists : Lists parts result) : Confirms message result

theorem confirms_asked (message : Message) (parts : List Json) (asks : message.AsksPayment parts)
    (result : Confirmation) : message.Confirms result ↔ Lists parts result := by
  constructor
  · intro confirms
    cases confirms with
    | plain fields order _ ordered _ => exact absurd ⟨_, ordered⟩ asks.1
    | payment others _ alsoAsks lists =>
        cases asksPayment_unique message parts others asks alsoAsks
        exact lists
  · exact .payment parts result asks

theorem refuseUnless_bind_ok {α : Type} (message : Message) (next : Unit → Except Fault α) (a : α) :
    (message.refuseUnless >>= next) = .ok a ↔ ¬message.Refused ∧ next () = .ok a := by
  rw [Except.bind_eq_ok, ← refuseUnless_ok]
  exact ⟨fun ⟨(), passed⟩ => passed, fun passed => ⟨(), passed⟩⟩

theorem orderReply_ok (message : Message) (orderId : Option String) (order : Order) :
    message.orderReply orderId = .ok order ↔ ¬message.Refused ∧
      ∃ fields, message.Says "order" (.obj fields) ∧ Order.ofPayload fields = .ok order := by
  simp only [orderReply, refuseUnless_bind_ok, orderIn_ok, get?_payload]

theorem confirmation_ok (message : Message) (orderId : String) (result : Confirmation) :
    message.confirmation orderId = .ok result ↔ ¬message.Refused ∧ message.Confirms result := by
  by_cases asked : ∃ parts, message.AsksPayment parts
  · obtain ⟨parts, asks⟩ := asked
    rw [confirmation_asked message orderId parts asks, refuseUnless_bind_ok, paymentIn_ok,
      confirms_asked message parts asks]
  · have plain := not_exists.mp asked
    have unlisted : (∃ value, message.Says "order" value) ∨
        ∀ parts, ¬message.Says "payment_request" (.arr parts) := by
      by_cases ordered : ∃ value, message.Says "order" value
      · exact .inl ordered
      · exact .inr fun parts asked => plain parts ⟨ordered, asked⟩
    rw [confirmation_plain message orderId plain, Except.bind_eq_ok]
    simp only [orderReply_ok]
    constructor
    · intro read
      obtain ⟨order, ⟨taken, fields, ordered, found⟩, same⟩ := read
      cases same
      exact ⟨taken, .plain fields order unlisted ordered found⟩
    · intro both
      obtain ⟨taken, confirms⟩ := both
      cases confirms with
      | plain fields order _ ordered found => exact ⟨order, ⟨taken, fields, ordered, found⟩, rfl⟩
      | payment parts _ asks _ => exact absurd asks (plain parts)

theorem invoiceSaid_some (raw : Option Json) (invoice : String) :
    InvoiceSaid raw (some invoice) ↔ raw = some (.str invoice) := by
  constructor
  · intro said
    cases said
    rfl
  · intro same
    rw [same]
    exact .text invoice

theorem paymentRequired_iff (message : Message) (result : Confirmation)
    (confirms : message.Confirms result) :
    result.paymentRequired ↔ ∃ parts invoice, message.AsksPayment parts ∧
      parts[1]? = some (.str invoice) ∧ result.invoice = some invoice := by
  rw [Confirmation.paymentRequired, Option.isSome_iff_exists]
  cases confirms with
  | plain fields order _ ordered _ =>
      constructor
      · intro required
        obtain ⟨invoice, stated⟩ := required
        cases stated
      · intro stated
        obtain ⟨parts, invoice, _, _, same⟩ := stated
        exact ⟨invoice, same⟩
  | payment parts _ asks lists =>
      constructor
      · intro required
        obtain ⟨invoice, stated⟩ := required
        have said := lists.invoice
        rw [stated, invoiceSaid_some] at said
        exact ⟨parts, invoice, asks, said, stated⟩
      · intro stated
        obtain ⟨_, invoice, _, _, same⟩ := stated
        exact ⟨invoice, same⟩

/-- Behind the third place nothing of a payment request is read. -/
theorem lists_congr (parts others : List Json) (same : parts.take 3 = others.take 3)
    (result : Confirmation) : Lists parts result ↔ Lists others result := by
  have place (i : Nat) (early : i < 3) : parts[i]? = others[i]? := by
    rw [← List.getElem?_take_of_lt early, same, List.getElem?_take_of_lt early]
  have order := place 0 (by decide)
  have invoice := place 1 (by decide)
  have amount := place 2 (by decide)
  constructor
  · intro lists
    exact ⟨order ▸ lists.order, invoice ▸ lists.invoice, amount ▸ lists.amount⟩
  · intro lists
    exact ⟨order ▸ lists.order, invoice ▸ lists.invoice, amount ▸ lists.amount⟩

/-- A reply is read as a confirmation exactly if it is no refusal and confirms something, and as
just that. The taker has to pay exactly if a payment request has an invoice, so never where the
reply has an order of its own, and further places of a payment request change nothing. -/
theorem confirmation_exact (message : Message) (orderId : String) :
    (∀ result, message.confirmation orderId = .ok result ↔
      ¬message.Refused ∧ message.Confirms result) ∧
    (∀ result, message.confirmation orderId = .ok result →
      (result.paymentRequired ↔ ∃ parts invoice, message.AsksPayment parts ∧
        parts[1]? = some (.str invoice) ∧ result.invoice = some invoice) ∧
      ((∃ value, message.Says "order" value) → ¬result.paymentRequired)) ∧
    ∀ (other : Message) (parts others : List Json), message.AsksPayment parts →
      other.AsksPayment others → parts.take 3 = others.take 3 → ¬message.Refused → ¬other.Refused →
      ∀ result, message.confirmation orderId = .ok result ↔
        other.confirmation orderId = .ok result := by
  refine ⟨message.confirmation_ok orderId, ?_, ?_⟩
  · intro result read
    have confirms := ((message.confirmation_ok orderId result).mp read).2
    have required := message.paymentRequired_iff result confirms
    refine ⟨required, ?_⟩
    intro ordered pays
    obtain ⟨parts, invoice, asks, -, -⟩ := required.mp pays
    exact asks.1 ordered
  · intro other parts others asks alsoAsks same taken alsoTaken result
    rw [confirmation_ok, confirmation_ok, confirms_asked message parts asks,
      confirms_asked other others alsoAsks, lists_congr parts others same]
    exact and_congr_left fun _ => iff_of_true taken alsoTaken

end TradeWire.Message
