import TradeWire.Order.Tags
import TradeWire.Proofs.Number
import TradeWire.Proofs.Outcome
/-! Orders come back from their tags: which orders do, and that every order that is read does. -/

namespace TradeWire

theorem Side.ofName?_eq_some (name : String) (side : Side) :
    ofName? name = some side ↔ name = side.name := by
  constructor
  · intro found
    have same := List.find?_some found
    exact (beq_iff_eq.mp same).symm
  · rintro rfl
    cases side <;> rfl

theorem Side.ofName_lower (side : Side) : ofName? (Tag.lower side.name) = some side := by
  cases side <;> decide

theorem Status.ofNameOrPending_name (status : Status) : ofNameOrPending status.name = status := by
  cases status <;> decide

theorem Status.ofNameOrPending_unknown (name : String)
    (unknown : ∀ status : Status, name ≠ status.name) :
    ofNameOrPending name = pending := by
  have none : ofName? name = none := by
    rw [ofName?, List.find?_eq_none]
    intro status _ same
    exact unknown status (beq_iff_eq.mp same).symm
  rw [ofNameOrPending, none]
  rfl

def Fiat.numbers : Fiat → List Int
  | fixed amount => [amount]
  | range low high _ => [low, high]

namespace Tag

theorem toInt_toString (field : String) (n : Int) (fits : Number.fits n) :
    toInt field (toString n) = .ok n := by
  rw [toInt, Number.readDecimal_toString n fits]

theorem fits_of_toInt (field value : String) (n : Int) (read : toInt field value = .ok n) :
    Number.fits n := by
  rw [toInt] at read
  split at read
  · rename_i found
    cases read
    exact Number.fits_of_readDecimal _ _ found
  · cases read

theorem toString_ne_empty (n : Int) (fits : Number.fits n) : toString n ≠ "" := by
  intro empty
  have read := Number.readDecimal_toString n fits
  rw [empty] at read
  cases read

theorem toFiat_fixed (amount : Int) (fits : Number.fits amount) :
    toFiat [toString amount] = .ok (.fixed amount) := by
  rw [toFiat, if_neg (toString_ne_empty amount fits), toInt_toString "fa" amount fits]
  rfl

theorem toFiat_range (low high : Int) (ordered : low ≤ high) (lowFits : Number.fits low)
    (highFits : Number.fits high) :
    toFiat [toString low, toString high] = .ok (.range low high ordered) := by
  rw [toFiat, if_neg (toString_ne_empty low lowFits)]
  simp only [toInt_toString, lowFits, highFits, bind, Except.bind]
  exact dif_pos ordered

theorem fits_of_toFiat (values : List String) (fiat : Fiat) (read : toFiat values = .ok fiat) :
    ∀ n ∈ fiat.numbers, Number.fits n := by
  unfold toFiat at read
  split at read
  · cases read
  split at read
  · cases read
  split at read
  · rcases (Except.bind_eq_ok _ _ _).mp read with ⟨amount, found, same⟩
    cases same
    simpa [Fiat.numbers] using fits_of_toInt _ _ _ found
  · rcases (Except.bind_eq_ok _ _ _).mp read with ⟨low, lowFound, rest⟩
    rcases (Except.bind_eq_ok _ _ _).mp rest with ⟨high, highFound, bounds⟩
    split at bounds
    · cases bounds
      simpa [Fiat.numbers] using
        And.intro (fits_of_toInt _ _ _ lowFound) (fits_of_toInt _ _ _ highFound)
    · cases bounds

end Tag

namespace Order

structure Fits (order : Order) : Prop where
  amount : Number.fits order.amount
  premium : Number.fits order.premium
  fiat : ∀ fiat, order.fiat = some fiat → ∀ n ∈ fiat.numbers, Number.fits n

/-- The tags without which no order is read, in the order in which they are asked for, and whether
an order has what they tell. -/
def requirements (order : Order) : List (String × Bool) :=
  [("d", order.id ≠ ""), ("f", order.fiatCode ≠ ""), ("pm", order.paymentMethod ≠ ""),
    ("fa", order.fiat.isSome || order.amount == 0)]

def firstGap? (order : Order) : Option String :=
  (order.requirements.find? fun requirement => !requirement.2).map (·.1)

structure Complete (order : Order) : Prop where
  id : order.id ≠ ""
  fiatCode : order.fiatCode ≠ ""
  paymentMethod : order.paymentMethod ≠ ""
  fiat : order.fiat ≠ none ∨ order.amount = 0

theorem firstGap_eq_none (order : Order) : order.firstGap? = none ↔ order.Complete := by
  have parts : order.firstGap? = none ↔
      order.id ≠ "" ∧ order.fiatCode ≠ "" ∧ order.paymentMethod ≠ "" ∧
        (order.fiat ≠ none ∨ order.amount = 0) := by
    simp [firstGap?, requirements, Option.isSome_iff_ne_none]
  rw [parts]
  constructor
  · intro found
    exact ⟨found.1, found.2.1, found.2.2.1, found.2.2.2⟩
  · intro complete
    exact ⟨complete.id, complete.fiatCode, complete.paymentMethod, complete.fiat⟩

def toDraft (order : Order) : Draft where
  id := order.id
  side := order.side
  fiatCode := order.fiatCode
  paymentMethod := order.paymentMethod
  amount := order.amount
  fiat := order.fiat
  premium := order.premium
  status := order.status

namespace Draft

def toOrder (draft : Draft) : Order where
  id := draft.id
  side := draft.side
  fiatCode := draft.fiatCode
  paymentMethod := draft.paymentMethod
  amount := draft.amount
  fiat := draft.fiat
  premium := draft.premium
  status := draft.status

theorem finish_eq (draft : Draft) :
    draft.finish =
      match draft.toOrder.firstGap? with
      | some name => .error (.missing name)
      | none => .ok draft.toOrder := by
  unfold finish
  by_cases id : draft.id = ""
  · simp [id, firstGap?, requirements, toOrder]
  by_cases fiatCode : draft.fiatCode = ""
  · simp [id, fiatCode, firstGap?, requirements, toOrder]
  by_cases paymentMethod : draft.paymentMethod = ""
  · simp [id, fiatCode, paymentMethod, firstGap?, requirements, toOrder]
  by_cases lacking : draft.fiat = none ∧ draft.amount ≠ 0
  · simp [id, fiatCode, paymentMethod, lacking, firstGap?, requirements, toOrder]
  · have fiat : draft.fiat ≠ none ∨ draft.amount = 0 := by
      rwa [Decidable.not_and_iff_not_or_not, Decidable.not_not] at lacking
    have complete : draft.toOrder.Complete := ⟨id, fiatCode, paymentMethod, fiat⟩
    rw [if_neg id, if_neg fiatCode, if_neg paymentMethod, if_neg lacking,
      (firstGap_eq_none _).mpr complete]
    rfl

variable (strict : Bool) (draft : Draft)

theorem run_sideTags (side : Option Side) (unset : draft.side = none) :
    ((side.map fun side => ["k", side.name]).toList).foldlM (take strict) draft =
      .ok { draft with side } := by
  cases side with
  | none =>
      have same : { draft with side := none } = draft := by rw [← unset]
      rw [same]
      rfl
  | some side => simp [take, takeSide, Side.ofName_lower]

theorem run_statusTags (status : Option Status) (unset : draft.status = none) :
    ((status.map fun status => ["s", status.name]).toList).foldlM (take strict) draft =
      .ok { draft with status } := by
  cases status with
  | none =>
      have same : { draft with status := none } = draft := by rw [← unset]
      rw [same]
      rfl
  | some status => simp [take, Status.ofNameOrPending_name]

theorem take_fiatCode (value : String) :
    draft.take strict ["f", value] = .ok { draft with fiatCode := value } := rfl

theorem take_amount (n : Int) (fits : Number.fits n) :
    draft.take strict ["amt", toString n] = .ok { draft with amount := n } := by
  have read := Tag.toInt_toString "amt" n fits
  simp only [take, List.headD_cons, read]
  rfl

theorem take_premium (n : Int) (fits : Number.fits n) :
    draft.take strict ["premium", toString n] = .ok { draft with premium := n } := by
  have read := Tag.toInt_toString "premium" n fits
  simp only [take, List.headD_cons, read]
  rfl

theorem take_fiat (values : List String) (fiat : Fiat) (read : Tag.toFiat values = .ok fiat) :
    draft.take strict ("fa" :: values) = .ok { draft with fiat := some fiat } := by
  simp only [take, read]
  rfl

theorem take_paymentMethod (paymentMethod : String) :
    draft.take strict ["pm", paymentMethod] = .ok { draft with paymentMethod } := by
  have joined : ",".intercalate ([paymentMethod].filter (· ≠ "")) = paymentMethod := by
    by_cases empty : paymentMethod = ""
    · simp [empty]
    · simp [empty]
  simp only [take, joined]

theorem run_fiatTags (fiat : Option Fiat) (unset : draft.fiat = none)
    (fits : ∀ found, fiat = some found → ∀ n ∈ found.numbers, Number.fits n) :
    (fiatTags fiat).foldlM (take strict) draft = .ok { draft with fiat } := by
  cases fiat with
  | none =>
      have same : { draft with fiat := none } = draft := by rw [← unset]
      rw [same]
      rfl
  | some fiat =>
      have short := fits fiat rfl
      cases fiat with
      | fixed amount =>
          have read := Tag.toFiat_fixed amount (short amount (by simp [Fiat.numbers]))
          exact Except.foldlM_singleton_ok (take_fiat strict draft _ _ read)
      | range low high ordered =>
          have read := Tag.toFiat_range low high ordered (short low (by simp [Fiat.numbers]))
            (short high (by simp [Fiat.numbers]))
          exact Except.foldlM_singleton_ok (take_fiat strict draft _ _ read)

theorem run_lastTags (paymentMethod : String) (n : Int) (fits : Number.fits n) :
    [["pm", paymentMethod], ["premium", toString n]].foldlM (take strict) draft =
      .ok { draft with paymentMethod, premium := n } := by
  apply Except.foldlM_cons_ok (take_paymentMethod strict draft paymentMethod)
  exact Except.foldlM_singleton_ok (take_premium strict _ n fits)

theorem run_toTags (order : Order) (fits : order.Fits) :
    order.toTags.foldlM (take strict) {} = .ok order.toDraft := by
  have id : [["d", order.id]].foldlM (take strict) {} = .ok { id := order.id } := rfl
  have side := Except.foldlM_append_ok id (run_sideTags strict _ order.side rfl)
  have fiatCode := Except.foldlM_append_ok side
    (Except.foldlM_singleton_ok (take_fiatCode strict _ order.fiatCode))
  have status := Except.foldlM_append_ok fiatCode (run_statusTags strict _ order.status rfl)
  have amount := Except.foldlM_append_ok status
    (Except.foldlM_singleton_ok (take_amount strict _ order.amount fits.amount))
  have fiat := Except.foldlM_append_ok amount (run_fiatTags strict _ order.fiat rfl fits.fiat)
  exact Except.foldlM_append_ok fiat
    (run_lastTags strict _ order.paymentMethod order.premium fits.premium)

inductive Takes : Tag → Draft → Prop where
  | blank : Takes [] draft
  | id (values : List String) : Takes ("d" :: values) { draft with id := values.headD "" }
  | side (values : List String) (side : Side)
      (known : Side.ofName? (Tag.lower (values.headD "")) = some side) :
      Takes ("k" :: values) { draft with side := some side }
  | noSide (values : List String)
      (unknown : Side.ofName? (Tag.lower (values.headD "")) = none) (lenient : strict = false) :
      Takes ("k" :: values) { draft with side := none }
  | fiatCode (values : List String) :
      Takes ("f" :: values) { draft with fiatCode := values.headD "" }
  | status (values : List String) :
      Takes ("s" :: values) { draft with status := some (Status.ofNameOrPending (values.headD "")) }
  | amount (values : List String) (n : Int)
      (read : Tag.toInt "amt" (values.headD "") = .ok n) :
      Takes ("amt" :: values) { draft with amount := n }
  | fiat (values : List String) (fiat : Fiat) (read : Tag.toFiat values = .ok fiat) :
      Takes ("fa" :: values) { draft with fiat := some fiat }
  | paymentMethod (values : List String) :
      Takes ("pm" :: values)
        { draft with paymentMethod := ",".intercalate (values.filter (· ≠ "")) }
  | premium (values : List String) (n : Int)
      (read : Tag.toInt "premium" (values.headD "") = .ok n) :
      Takes ("premium" :: values) { draft with premium := n }
  | other (name : String) (values : List String)
      (foreign : name ∉ ["d", "k", "f", "s", "amt", "fa", "pm", "premium"]) :
      Takes (name :: values) draft

theorem takes_of_take (tag : Tag) (next : Draft) (taken : draft.take strict tag = .ok next) :
    Takes strict draft tag next := by
  unfold take at taken
  split at taken
  · cases taken
    exact .blank
  simp only [] at taken
  split at taken
  · cases taken
    exact .id _
  · unfold takeSide at taken
    split at taken
    · rename_i known
      cases taken
      exact .side _ _ known
    · rename_i unknown
      split at taken
      · cases taken
      · rename_i lenient
        cases taken
        exact .noSide _ unknown (Bool.not_eq_true _ ▸ lenient)
  · cases taken
    exact .fiatCode _
  · cases taken
    exact .status _
  · rcases (Except.bind_eq_ok _ _ _).mp taken with ⟨n, read, same⟩
    cases same
    exact .amount _ n read
  · rcases (Except.bind_eq_ok _ _ _).mp taken with ⟨fiat, read, same⟩
    cases same
    exact .fiat _ fiat read
  · cases taken
    exact .paymentMethod _
  · rcases (Except.bind_eq_ok _ _ _).mp taken with ⟨n, read, same⟩
    cases same
    exact .premium _ n read
  · cases taken
    exact .other _ _ (by simp_all)

theorem Takes.fits {tag : Tag} {next : Draft} (takes : Takes strict draft tag next)
    (fits : draft.toOrder.Fits) : next.toOrder.Fits := by
  cases takes with
  | blank | other => exact fits
  | id | side | noSide | fiatCode | status | paymentMethod =>
      exact ⟨fits.amount, fits.premium, fits.fiat⟩
  | amount values n read => exact ⟨Tag.fits_of_toInt _ _ _ read, fits.premium, fits.fiat⟩
  | premium values n read => exact ⟨fits.amount, Tag.fits_of_toInt _ _ _ read, fits.fiat⟩
  | fiat values fiat read =>
      refine ⟨fits.amount, fits.premium, ?_⟩
      intro found same
      cases same
      exact Tag.fits_of_toFiat _ _ read

end Draft

theorem ofTags_toTags (strict : Bool) (order : Order) (fits : order.Fits) :
    ofTags strict order.toTags =
      match order.firstGap? with
      | some name => .error (.missing name)
      | none => .ok { order with createdAt := none } := by
  rw [ofTags, Draft.run_toTags strict order fits]
  exact Draft.finish_eq order.toDraft

/-- Every order that is read is complete, and its integers can be written. -/
theorem complete_of_ofTags (strict : Bool) (tags : List Tag) (order : Order)
    (read : ofTags strict tags = .ok order) :
    order.Fits ∧ order.Complete ∧ order.createdAt = none := by
  rw [ofTags, Except.bind_eq_ok] at read
  rcases read with ⟨draft, run, finished⟩
  have start : (Draft.toOrder {}).Fits :=
    ⟨by decide +kernel, by decide +kernel, fun _ impossible => nomatch impossible⟩
  have step (state : Draft) (tag : Tag) (next : Draft) (fits : state.toOrder.Fits)
      (taken : state.take strict tag = .ok next) : next.toOrder.Fits :=
    (Draft.takes_of_take strict state tag next taken).fits strict state fits
  have fits := Except.foldlM_keeps (Draft.take strict) (fun draft => draft.toOrder.Fits) step tags
    {} draft start run
  rw [Draft.finish_eq] at finished
  split at finished
  · cases finished
  · rename_i complete
    cases finished
    exact ⟨fits, (firstGap_eq_none _).mp complete, rfl⟩

/-- An order comes back from its tags exactly if it is complete, and else the first tag is asked for
whose content it lacks. Every order that is read from tags comes back. -/
theorem ofTags_toTags_iff (strict again : Bool) :
    (∀ order : Order, order.Fits →
      ((∃ found, ofTags strict order.toTags = .ok found ∧ found.sameTrade order) ↔
        order.Complete) ∧
      (¬order.Complete → ∃ name, order.firstGap? = some name ∧
        ofTags strict order.toTags = .error (.missing name))) ∧
    ∀ tags order, ofTags strict tags = .ok order →
      order.Fits ∧ order.Complete ∧ ofTags again order.toTags = .ok order := by
  constructor
  · intro order fits
    have result := ofTags_toTags strict order fits
    rw [← firstGap_eq_none]
    cases gap : order.firstGap? with
    | none =>
        rw [gap] at result
        simp [result, sameTrade]
    | some name =>
        rw [gap] at result
        simp [result]
  · intro tags order read
    rcases complete_of_ofTags strict tags order read with ⟨fits, complete, untimed⟩
    have result := ofTags_toTags again order fits
    rw [(firstGap_eq_none order).mpr complete] at result
    refine ⟨fits, complete, result.trans ?_⟩
    rw [← untimed]

def rangeOffer : Order where
  id := "7f"
  side := some .sell
  fiatCode := "EUR"
  paymentMethod := "sepa,cash"
  fiat := some (.range 10 250 (by decide))
  premium := -3
  status := some .pending
  createdAt := some 1700000000

theorem ofTags_toTags_iff_rangeOffer : rangeOffer.Fits ∧ rangeOffer.Complete ∧
    ∃ found, ofTags true rangeOffer.toTags = .ok found ∧ found.sameTrade rangeOffer ∧
      ofTags false found.toTags = .ok found := by
  have fits : rangeOffer.Fits := by
    refine ⟨by decide +kernel, by decide +kernel, ?_⟩
    intro fiat same
    cases same
    decide +kernel
  have complete : rangeOffer.Complete :=
    ⟨by decide, by decide, by decide, Or.inl (by decide)⟩
  rcases ((ofTags_toTags_iff true false).1 rangeOffer fits).1.mpr complete with ⟨found, read, same⟩
  exact ⟨fits, complete, found, read, same,
    ((ofTags_toTags_iff true false).2 _ found read).2.2⟩

end Order

end TradeWire
