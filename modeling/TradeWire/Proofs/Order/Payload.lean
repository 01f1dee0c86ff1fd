import TradeWire.Order.Payload
import TradeWire.Proofs.Order.Tags
import TradeWire.Proofs.Outcome
import TradeWire.Proofs.Overflow
/-! With what faults the reading of an order from a payload can end, and which infinite number ends
it with a fault that no field is blamed for. -/

namespace TradeWire

open TradeWire.Except (FailsIn failsIn_ok failsIn_error failsIn_bind failsIn_mono)

def Fields.Countable (fields : Fields) (key : String) : Prop :=
  ∀ value, fields.get? key = some value → value = .null ∨ ∃ n, value.toInt = .ok n

namespace Order

def OfField (fault : Fault) : Prop := ∃ why, fault = .decode why

inductive OfPayload : Fault → Prop where
  | decode (why : DecodeFault) : OfPayload (.decode why)
  | tooLarge : OfPayload (.value .tooLarge)

theorem OfField.ofPayload (fault : Fault) (told : OfField fault) : OfPayload fault := by
  rcases told with ⟨why, rfl⟩
  exact .decode why

theorem failsIn_optionalInt (fields : Fields) (key : String) :
    FailsIn OfPayload (optionalInt fields key) := by
  rw [optionalInt]
  split
  · exact failsIn_ok _ _
  · split
    · exact failsIn_ok _ _
    · exact failsIn_error _ _ .tooLarge
    · exact failsIn_error _ _ (.decode _)

theorem optionalInt_ok (fields : Fields) (key : String) :
    (∃ number, optionalInt fields key = .ok number) ↔ fields.Countable key := by
  rw [optionalInt, Fields.Countable]
  cases shown : Json.present? (fields.get? key) with
  | none =>
      have absent := (Json.present?_eq_none _).mp shown
      exact iff_of_true ⟨none, rfl⟩ fun value found => .inl (absent value found)
  | some value =>
      obtain ⟨found, proper⟩ := (Json.present?_eq_some _ _).mp shown
      simp only [found, Option.some.injEq, forall_eq', proper, false_or]
      cases read : value.toInt with
      | ok n => simp
      | error fault => cases fault <;> simp

theorem optionalInt_tooLarge (fields : Fields) (key : String) :
    optionalInt fields key = .error (.value .tooLarge) ↔ fields.HasInfinite key := by
  rw [optionalInt]
  constructor
  · intro failed
    split at failed
    · cases failed
    · rename_i value shown
      obtain ⟨found, -⟩ := (Json.present?_eq_some _ _).mp shown
      split at failed
      · cases failed
      · rename_i read
        obtain ⟨negative, rfl⟩ := (Json.toInt_tooLarge value).mp read
        exact ⟨negative, found⟩
      · cases failed
  · rintro ⟨negative, found⟩
    rw [found]
    rfl

def SideKnown (fields : Fields) : Prop :=
  ∀ value, fields.get? "kind" = some value → value = .null ∨ ∃ side : Side, value = .str side.name

theorem failsIn_sideOf (fields : Fields) : FailsIn OfField (sideOf fields) := by
  rw [sideOf]
  split
  · exact failsIn_ok _ _
  · dsimp only
    split
    · exact failsIn_ok _ _
    · exact failsIn_error _ _ ⟨_, rfl⟩

theorem sideOf_ok (fields : Fields) :
    (∃ side, sideOf fields = .ok side) ↔ SideKnown fields := by
  rw [sideOf, SideKnown]
  cases shown : Json.present? (fields.get? "kind") with
  | none =>
      have absent := (Json.present?_eq_none _).mp shown
      exact iff_of_true ⟨none, rfl⟩ fun value found => .inl (absent value found)
  | some value =>
      obtain ⟨found, proper⟩ := (Json.present?_eq_some _ _).mp shown
      simp only [found, Option.some.injEq, forall_eq', proper, false_or]
      cases value with
      | str name =>
          simp only [Json.str.injEq, ← Side.ofName?_eq_some]
          cases Side.ofName? name <;> simp
      | null | bool _ | int _ | float _ | arr _ | obj _ => simp

def Named (fields : Fields) : Prop := ∃ id, fields.get? "id" = some id ∧ id.isTrue

def idOf (fields : Fields) : Except Fault String :=
  match fields.get? "id" with
  | some id => if id.isTrue then .ok id.describe else .error (.decode (.missing "id"))
  | none => .error (.decode (.missing "id"))

theorem failsIn_idOf (fields : Fields) : FailsIn OfField (idOf fields) := by
  rw [idOf]
  split
  · split
    · exact failsIn_ok _ _
    · exact failsIn_error _ _ ⟨_, rfl⟩
  · exact failsIn_error _ _ ⟨_, rfl⟩

theorem idOf_ok (fields : Fields) : (∃ id, idOf fields = .ok id) ↔ Named fields := by
  rw [idOf, Named]
  cases fields.get? "id" with
  | none => simp
  | some id => by_cases named : id.isTrue <;> simp [named]

structure Numbers where
  amount : Option Int
  premium : Option Int
  createdAt : Option Int
  low : Option Int
  high : Option Int
  fiatAmount : Option Int

def numberKeys : List String :=
  ["amount", "premium", "created_at", "min_amount", "max_amount", "fiat_amount"]

def numbersOf (fields : Fields) : Except Fault Numbers := do
  let amount ← optionalInt fields "amount"
  let premium ← optionalInt fields "premium"
  let createdAt ← optionalInt fields "created_at"
  let low ← optionalInt fields "min_amount"
  let high ← optionalInt fields "max_amount"
  let fiatAmount ← optionalInt fields "fiat_amount"
  return { amount, premium, createdAt, low, high, fiatAmount }

theorem mapM_numberKeys (fields : Fields) :
    numberKeys.mapM (optionalInt fields) = (fun numbers => [numbers.amount, numbers.premium,
      numbers.createdAt, numbers.low, numbers.high, numbers.fiatAmount]) <$> numbersOf fields := by
  simp only [numberKeys, numbersOf, List.mapM_cons, List.mapM_nil, map_bind, map_pure, bind_assoc,
    pure_bind]

theorem numbersOf_error (fields : Fields) (fault : Fault) :
    numbersOf fields = .error fault ↔
      ∃ before key after, numberKeys = before ++ key :: after ∧
        (∀ earlier ∈ before, ∃ number, optionalInt fields earlier = .ok number) ∧
        optionalInt fields key = .error fault := by
  rw [← Except.mapM_eq_error, mapM_numberKeys]
  cases numbersOf fields <;> simp [Functor.map, Except.map]

theorem failsIn_numbersOf (fields : Fields) : FailsIn OfPayload (numbersOf fields) := by
  intro fault failed
  obtain ⟨_, key, _, _, _, here⟩ := (numbersOf_error fields fault).mp failed
  exact failsIn_optionalInt fields key fault here

theorem failsIn_mapDecode {α : Type} (outcome : Except DecodeFault α) :
    FailsIn OfField (outcome.mapError Fault.decode) := by
  cases outcome with
  | ok a => exact failsIn_ok _ _
  | error why => exact failsIn_error _ _ ⟨why, rfl⟩

theorem ofPayload_eq (fields : Fields) :
    ofPayload fields = do
      let side ← sideOf fields
      let id ← idOf fields
      let numbers ← numbersOf fields
      let fiat ← (fiatOf numbers.fiatAmount numbers.low numbers.high).mapError Fault.decode
      return {
        id, side, fiat
        createdAt := numbers.createdAt
        fiatCode := textOf fields "fiat_code"
        paymentMethod := textOf fields "payment_method"
        amount := numbers.amount.getD 0
        premium := numbers.premium.getD 0
        status := statusOf fields } := by
  simp only [numbersOf, bind_assoc, pure_bind]
  unfold ofPayload idOf
  cases fields.get? "id" with
  | none => rfl
  | some id =>
      by_cases named : id.isTrue
      · simp only [if_pos named]
        rfl
      · simp only [if_neg named]

theorem failsIn_ofPayload (fields : Fields) : FailsIn OfPayload (ofPayload fields) := by
  rw [ofPayload_eq]
  apply failsIn_bind _ _ _ (failsIn_mono _ _ _ OfField.ofPayload (failsIn_sideOf fields))
  intro side
  apply failsIn_bind _ _ _ (failsIn_mono _ _ _ OfField.ofPayload (failsIn_idOf fields))
  intro id
  apply failsIn_bind _ _ _ (failsIn_numbersOf fields)
  intro numbers
  apply failsIn_bind _ _ _ (failsIn_mono _ _ _ OfField.ofPayload (failsIn_mapDecode _))
  intro fiat
  exact failsIn_ok _ _

def NumberOverflows (fields : Fields) : Prop :=
  ∃ before key after, numberKeys = before ++ key :: after ∧
    (∀ earlier ∈ before, fields.Countable earlier) ∧ fields.HasInfinite key

theorem numbersOf_tooLarge (fields : Fields) :
    numbersOf fields = .error (.value .tooLarge) ↔ NumberOverflows fields := by
  simp only [numbersOf_error, NumberOverflows, optionalInt_ok, optionalInt_tooLarge]

/-- A payload of which everything in front of the numbers can be read, and then an infinite number
is met. -/
structure PayloadOverflows (fields : Fields) : Prop where
  side : SideKnown fields
  id : Named fields
  number : NumberOverflows fields

theorem ofPayload_tooLarge (fields : Fields) :
    ofPayload fields = .error (.value .tooLarge) ↔ PayloadOverflows fields := by
  have untold {α : Type} (run : Except Fault α) (told : FailsIn OfField run) :
      run ≠ .error (.value .tooLarge) := by
    intro failed
    obtain ⟨why, same⟩ := told _ failed
    cases same
  rw [ofPayload_eq]
  constructor
  · intro failed
    obtain early | ⟨side, sided, failed⟩ := (Except.bind_eq_error _ _ _).mp failed
    · exact absurd early (untold _ (failsIn_sideOf fields))
    obtain early | ⟨id, named, failed⟩ := (Except.bind_eq_error _ _ _).mp failed
    · exact absurd early (untold _ (failsIn_idOf fields))
    obtain here | ⟨numbers, counted, failed⟩ := (Except.bind_eq_error _ _ _).mp failed
    · exact ⟨(sideOf_ok fields).mp ⟨side, sided⟩, (idOf_ok fields).mp ⟨id, named⟩,
        (numbersOf_tooLarge fields).mp here⟩
    obtain late | ⟨fiat, paid, done⟩ := (Except.bind_eq_error _ _ _).mp failed
    · exact absurd late (untold _ (failsIn_mapDecode _))
    · cases done
  · intro overflows
    obtain ⟨side, sided⟩ := (sideOf_ok fields).mpr overflows.side
    obtain ⟨id, named⟩ := (idOf_ok fields).mpr overflows.id
    rw [sided, named, (numbersOf_tooLarge fields).mpr overflows.number]
    rfl

end Order

end TradeWire
