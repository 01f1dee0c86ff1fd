import TradeWire.Proofs.Order.Payload
/-! An order is made with a check of its fiat fields. What a payload says is settled before, so that
the check never refuses an order that is read. -/

namespace TradeWire

structure FiatFields where
  amount : Option Int
  low : Option Int
  high : Option Int

namespace FiatFields

def make (fields : FiatFields) : Except Refusal (Option Fiat) :=
  Fiat.ofFields fields.amount fields.low fields.high

def settle (fields : FiatFields) : Except DecodeFault FiatFields :=
  match fields.low, fields.high with
  | some low, some high =>
      if low ≤ high then .ok { fields with amount := none }
      else .error (.inverted "min_amount" low high)
  | some _, none => .error (.missing "max_amount")
  | none, some _ => .error (.missing "min_amount")
  | none, none => .ok fields

inductive Unfit (fields : FiatFields) : Prop where
  | half (one : fields.low.isSome ≠ fields.high.isSome)
  | beside (low high amount : Int) (lowest : fields.low = some low)
      (highest : fields.high = some high) (fixed : fields.amount = some amount)
  | inverted (low high : Int) (lowest : fields.low = some low)
      (highest : fields.high = some high) (above : high < low)

theorem make_refuses (fields : FiatFields) : (∃ why, fields.make = .error why) ↔ fields.Unfit := by
  rcases fields with ⟨amount, low, high⟩
  constructor
  · intro refused
    rcases low with _ | low <;> rcases high with _ | high
    · simp [make, Fiat.ofFields] at refused
    · exact .half (by simp)
    · exact .half (by simp)
    · rcases amount with _ | amount
      · by_cases ordered : low ≤ high
        · simp [make, Fiat.ofFields, ordered] at refused
        · exact .inverted low high rfl rfl (Int.not_le.mp ordered)
      · exact .beside low high amount rfl rfl rfl
  · intro unfit
    cases unfit with
    | half one =>
        rcases low with _ | low <;> rcases high with _ | high
        · exact absurd rfl one
        · exact ⟨_, rfl⟩
        · exact ⟨_, rfl⟩
        · exact absurd rfl one
    | beside low high amount lowest highest fixed =>
        cases lowest
        cases highest
        cases fixed
        exact ⟨_, rfl⟩
    | inverted low high lowest highest above =>
        cases lowest
        cases highest
        rcases amount with _ | amount
        · exact ⟨.invertedRange low high, by simp [make, Fiat.ofFields, above]⟩
        · exact ⟨_, rfl⟩

theorem make_of_fit (fields : FiatFields) (fit : ¬fields.Unfit) :
    ∃ fiat, fields.make = .ok fiat := by
  cases made : fields.make with
  | ok fiat => exact ⟨fiat, rfl⟩
  | error why => exact absurd (fields.make_refuses.mp ⟨why, made⟩) fit

theorem fit_of_settle (fields kept : FiatFields) (settled : fields.settle = .ok kept) :
    ¬kept.Unfit := by
  intro unfit
  rcases fields with ⟨amount, _ | low, _ | high⟩
  · cases settled
    cases unfit with
    | half one => exact one rfl
    | beside _ _ _ lowest _ _ => cases lowest
    | inverted _ _ lowest _ _ => cases lowest
  · cases settled
  · cases settled
  · simp only [settle] at settled
    split at settled
    · rename_i ordered
      cases settled
      cases unfit with
      | half one => exact one rfl
      | beside _ _ _ _ _ fixed => cases fixed
      | inverted _ _ lowest highest above =>
          cases lowest
          cases highest
          exact absurd ordered (Int.not_le.mpr above)
    · cases settled

structure Settles (fields : FiatFields) : Prop where
  fit : ¬fields.Unfit → fields.settle = .ok fields
  noHigh : ∀ low, fields.low = some low → fields.high = none →
    fields.settle = .error (.missing "max_amount")
  noLow : ∀ high, fields.low = none → fields.high = some high →
    fields.settle = .error (.missing "min_amount")
  inverted : ∀ low high, fields.low = some low → fields.high = some high → high < low →
    fields.settle = .error (.inverted "min_amount" low high)
  beside : ∀ low high, fields.low = some low → fields.high = some high → low ≤ high →
    fields.settle = .ok { fields with amount := none }
  made : ∀ kept, fields.settle = .ok kept → ∃ fiat, kept.make = .ok fiat

theorem settles (fields : FiatFields) : fields.Settles where
  fit fit := by
    rcases fields with ⟨amount, _ | low, _ | high⟩
    · rfl
    · exact absurd (.half (by simp)) fit
    · exact absurd (.half (by simp)) fit
    · have free : amount = none := by
        cases amount with
        | none => rfl
        | some amount => exact absurd (.beside low high amount rfl rfl rfl) fit
      have ordered : low ≤ high :=
        Int.not_lt.mp fun above => fit (.inverted low high rfl rfl above)
      rw [free, settle]
      exact if_pos ordered
  noHigh low lowest unset := by rw [settle, lowest, unset]
  noLow high unset highest := by rw [settle, unset, highest]
  inverted low high lowest highest above := by
    rw [settle, lowest, highest]
    exact if_neg (Int.not_le.mpr above)
  beside low high lowest highest ordered := by
    rw [settle, lowest, highest]
    exact if_pos ordered
  made kept settled := kept.make_of_fit (fields.fit_of_settle kept settled)

end FiatFields

namespace Order

def Numbers.fiatFields (numbers : Numbers) : FiatFields where
  amount := numbers.fiatAmount
  low := numbers.low
  high := numbers.high

def ofPayloadChecked (fields : Fields) : Except Fault Order := do
  let side ← sideOf fields
  let id ← idOf fields
  let numbers ← numbersOf fields
  let kept ← numbers.fiatFields.settle.mapError Fault.decode
  let fiat ← kept.make.mapError Fault.refuse
  return {
    id, side, fiat
    createdAt := numbers.createdAt
    fiatCode := textOf fields "fiat_code"
    paymentMethod := textOf fields "payment_method"
    amount := numbers.amount.getD 0
    premium := numbers.premium.getD 0
    status := statusOf fields }

theorem fiatOf_eq (fields : FiatFields) :
    (fiatOf fields.amount fields.low fields.high).mapError Fault.decode =
      fields.settle.mapError Fault.decode >>= fun kept => kept.make.mapError Fault.refuse := by
  rcases fields with ⟨amount, _ | low, _ | high⟩
  · rfl
  · rfl
  · rfl
  · by_cases ordered : low ≤ high
    · have read : fiatOf amount (some low) (some high) = .ok (some (.range low high ordered)) :=
        dif_pos ordered
      have settled : FiatFields.settle ⟨amount, some low, some high⟩ =
          .ok ⟨none, some low, some high⟩ := if_pos ordered
      have made : FiatFields.make ⟨none, some low, some high⟩ =
          .ok (some (.range low high ordered)) := dif_pos ordered
      rw [read, settled]
      exact (congrArg (Except.mapError Fault.refuse) made).symm
    · have read : fiatOf amount (some low) (some high) =
          .error (.inverted "min_amount" low high) := dif_neg ordered
      have settled : FiatFields.settle ⟨amount, some low, some high⟩ =
          .error (.inverted "min_amount" low high) := if_neg ordered
      rw [read, settled]
      rfl

theorem ofPayload_eq_checked (fields : Fields) : ofPayload fields = ofPayloadChecked fields := by
  rw [ofPayload_eq, ofPayloadChecked]
  congr 1
  funext side
  congr 1
  funext id
  congr 1
  funext numbers
  rw [← bind_assoc]
  exact congrArg (· >>= _) (fiatOf_eq numbers.fiatFields)

/-- Reading ends with an order, or with a fault that is told of a field, or, exactly if an infinite
number is the first that cannot be read, with the one that is not. The check with which the order
is made refuses half a range, an inverted one and an amount next to a range, but nothing that is
left for it. -/
theorem ofPayload_told (fields : Fields) :
    ((∃ order, ofPayload fields = .ok order) ∨ (∃ why, ofPayload fields = .error (.decode why)) ∨
      ofPayload fields = .error (.value .tooLarge)) ∧
    (ofPayload fields = .error (.value .tooLarge) ↔ PayloadOverflows fields) ∧
    ofPayload fields = ofPayloadChecked fields ∧
    ∀ fiat : FiatFields, ((∃ why, fiat.make = .error why) ↔ fiat.Unfit) ∧ fiat.Settles := by
  refine ⟨?_, ofPayload_tooLarge fields, ofPayload_eq_checked fields, ?_⟩
  · cases read : ofPayload fields with
    | ok order => exact .inl ⟨order, rfl⟩
    | error fault =>
        cases failsIn_ofPayload fields fault read with
        | decode why => exact .inr (.inl ⟨why, rfl⟩)
        | tooLarge => exact .inr (.inr rfl)
  · intro fiat
    exact ⟨fiat.make_refuses, fiat.settles⟩

end Order

end TradeWire
