import Mathlib.Data.List.Induction
import TradeWire.Proofs.Order.Tags
/-! What a list of tags says: the fault of the first tag that cannot be read, and else the order
that the last tag of each name tells. -/

namespace TradeWire

namespace Tag

def integer (text : String) : Int := (Number.readDecimal? text.toList).getD 0

def numberFault? (field value : String) : Option DecodeFault :=
  if (Number.readDecimal? value.toList).isSome then none else some (.notInteger field value)

theorem toInt_eq (field value : String) :
    toInt field value =
      match numberFault? field value with
      | some fault => .error fault
      | none => .ok (integer value) := by
  unfold toInt numberFault? integer
  cases Number.readDecimal? value.toList with
  | none => rfl
  | some n => rfl

theorem toInt_eq_error (field value : String) (fault : DecodeFault) :
    toInt field value = .error fault ↔ numberFault? field value = some fault := by
  rw [toInt_eq]
  cases numberFault? field value <;> simp

theorem integer_of_toInt (field value : String) (n : Int) (read : toInt field value = .ok n) :
    n = integer value := by
  rw [toInt_eq] at read
  split at read
  · cases read
  · exact (Except.ok.inj read).symm

def rangeFault? : List String → Option DecodeFault
  | low :: high :: _ =>
      if integer high < integer low then some (.inverted "fa" (integer low) (integer high))
      else none
  | _ => none

/-- No more than the first two values are looked at. -/
def fiatFault? (values : List String) : Option DecodeFault :=
  if values.headD "" = "" then some (.missing "fa")
  else ((values.take 2).findSome? (numberFault? "fa")).or (rangeFault? values)

def fiat? : List String → Option Fiat
  | [] => none
  | [amount] => some (.fixed (integer amount))
  | low :: high :: _ =>
      if ordered : integer low ≤ integer high then some (.range _ _ ordered) else none

theorem toFiat_eq (values : List String) :
    (toFiat values).map some =
      match fiatFault? values with
      | some fault => .error fault
      | none => .ok (fiat? values) := by
  match values with
  | [] => rfl
  | first :: rest =>
      by_cases empty : first = ""
      · simp [toFiat, fiatFault?, empty, Except.map]
      · rw [toFiat.eq_def, fiatFault?, List.headD_cons, if_neg empty]
        simp only [if_neg empty]
        cases rest with
        | nil =>
            simp only [toInt_eq, List.take_succ_cons, List.take_nil, List.findSome?_cons,
              List.findSome?_nil]
            cases numberFault? "fa" first with
            | some fault => rfl
            | none => rfl
        | cons second others =>
            simp only [toInt_eq, List.take_succ_cons, List.take_zero, List.findSome?_cons,
              List.findSome?_nil]
            cases numberFault? "fa" first with
            | some fault => rfl
            | none =>
                cases numberFault? "fa" second with
                | some fault => rfl
                | none =>
                    by_cases ordered : integer first ≤ integer second
                    · simp [rangeFault?, fiat?, ordered, Int.not_lt.mpr ordered, Except.map, bind,
                        Except.bind, pure, Except.pure]
                    · simp [rangeFault?, ordered, Int.not_le.mp ordered, Except.map, bind,
                        Except.bind]

theorem fiat_of_toFiat (values : List String) (fiat : Fiat) (read : toFiat values = .ok fiat) :
    some fiat = fiat? values := by
  have found := toFiat_eq values
  rw [read] at found
  split at found
  · cases found
  · exact Except.ok.inj found

theorem toFiat_eq_error (values : List String) (fault : DecodeFault) :
    toFiat values = .error fault ↔ fiatFault? values = some fault := by
  have found := toFiat_eq values
  cases read : toFiat values <;> cases faulty : fiatFault? values <;>
    simp_all [Except.map]

def sideFault? (strict : Bool) (value : String) : Option DecodeFault :=
  if strict && (Side.ofName? (lower value)).isNone then some (.unknownValue "k" value) else none

def fault? (strict : Bool) : Tag → Option DecodeFault
  | [] => none
  | name :: values =>
      match name with
      | "k" => sideFault? strict (values.headD "")
      | "amt" | "premium" => numberFault? name (values.headD "")
      | "fa" => fiatFault? values
      | _ => none

def lastValues? (name : String) (tags : List Tag) : Option (List String) :=
  (tags.reverse.find? fun tag => tag.head? = some name).map List.tail

def lastValues (name : String) (tags : List Tag) : List String := (lastValues? name tags).getD []

theorem lastValues?_append (name : String) (tags : List Tag) (tag : Tag) :
    lastValues? name (tags ++ [tag]) =
      if tag.head? = some name then some tag.tail else lastValues? name tags := by
  rw [lastValues?, List.reverse_append, List.reverse_singleton, List.singleton_append]
  by_cases named : tag.head? = some name
  · rw [if_pos named]
    simp [named]
  · rw [if_neg named]
    simp [lastValues?, named]

theorem mem_of_lastValues? (name : String) (tags : List Tag) (values : List String)
    (last : lastValues? name tags = some values) : name :: values ∈ tags := by
  rw [lastValues?, Option.map_eq_some_iff] at last
  rcases last with ⟨tag, found, rfl⟩
  have named : tag.head? = some name := by simpa using List.find?_some found
  rcases List.head?_eq_some_iff.mp named with ⟨values, rfl⟩
  exact List.mem_reverse.mp (List.mem_of_find?_eq_some found)

theorem lastValues?_eq_none (name : String) (tags : List Tag) :
    lastValues? name tags = none ↔ ∀ tag ∈ tags, tag.head? ≠ some name := by
  simp [lastValues?]

end Tag

namespace Order

open Tag in
def told (tags : List Tag) : Order where
  id := (lastValues "d" tags).headD ""
  side := (lastValues? "k" tags).bind fun values => Side.ofName? (lower (values.headD ""))
  fiatCode := (lastValues "f" tags).headD ""
  paymentMethod := ",".intercalate ((lastValues "pm" tags).filter (· ≠ ""))
  amount := integer ((lastValues "amt" tags).headD "")
  fiat := (lastValues? "fa" tags).bind fiat?
  premium := integer ((lastValues "premium" tags).headD "")
  status := (lastValues? "s" tags).map fun values => Status.ofNameOrPending (values.headD "")

variable (tags : List Tag) (tag : Tag)

theorem Draft.told_of_takes (strict : Bool) (next : Draft)
    (takes : Takes strict (told tags).toDraft tag next) :
    next = (told (tags ++ [tag])).toDraft := by
  cases takes with
  | blank | id | fiatCode | status | paymentMethod =>
      simp [told, toDraft, Tag.lastValues?_append, Tag.lastValues]
  | side values side known =>
      simpa [told, toDraft, Tag.lastValues?_append, Tag.lastValues] using known.symm
  | noSide values unknown lenient =>
      simpa [told, toDraft, Tag.lastValues?_append, Tag.lastValues] using unknown.symm
  | amount values n read | premium values n read =>
      simpa [told, toDraft, Tag.lastValues?_append, Tag.lastValues] using
        Tag.integer_of_toInt _ _ _ read
  | fiat values fiat read =>
      simpa [told, toDraft, Tag.lastValues?_append, Tag.lastValues] using
        Tag.fiat_of_toFiat values fiat read
  | other name values foreign =>
      simp only [List.mem_cons, List.not_mem_nil, or_false, not_or] at foreign
      simp [told, toDraft, Tag.lastValues?_append, Tag.lastValues, foreign]

theorem Draft.takeSide_eq_error (strict : Bool) (draft : Draft) (value : String)
    (fault : DecodeFault) :
    draft.takeSide strict value = .error fault ↔ Tag.sideFault? strict value = some fault := by
  unfold takeSide Tag.sideFault?
  cases Side.ofName? (Tag.lower value) <;> cases strict <;> simp

/-- A tag is refused for a fault of its own, whatever has been read before. -/
theorem Draft.take_eq_error (strict : Bool) (draft : Draft) (fault : DecodeFault) :
    draft.take strict tag = .error fault ↔ Tag.fault? strict tag = some fault := by
  unfold take
  split
  · simp [Tag.fault?]
  simp only []
  split
  · simp [Tag.fault?]
  · exact takeSide_eq_error strict draft _ fault
  · simp [Tag.fault?]
  · simp [Tag.fault?]
  · simpa [Except.bind_eq_error, pure, Except.pure, Tag.fault?] using
      Tag.toInt_eq_error "amt" _ fault
  · simpa [Except.bind_eq_error, pure, Except.pure, Tag.fault?] using
      Tag.toFiat_eq_error _ fault
  · simp [Tag.fault?]
  · simpa [Except.bind_eq_error, pure, Except.pure, Tag.fault?] using
      Tag.toInt_eq_error "premium" _ fault
  · simp_all [Tag.fault?]

theorem Draft.run_told (strict : Bool) :
    tags.foldlM (take strict) {} =
      match tags.findSome? (Tag.fault? strict) with
      | some fault => .error fault
      | none => .ok (told tags).toDraft := by
  induction tags using List.reverseRecOn with
  | nil => rfl
  | append_singleton tags tag ih =>
      rw [List.foldlM_append, ih, List.findSome?_append, List.findSome?_singleton]
      cases tags.findSome? (Tag.fault? strict) with
      | some fault => rfl
      | none =>
          simp only [Option.none_or]
          cases taken : (told tags).toDraft.take strict tag with
          | error fault =>
              rw [(take_eq_error tag strict _ fault).mp taken]
              simp [taken, bind, Except.bind]
          | ok next =>
              have sound : Tag.fault? strict tag = none := by
                rw [Option.eq_none_iff_forall_ne_some]
                intro fault faulty
                rw [(take_eq_error tag strict _ fault).mpr faulty] at taken
                cases taken
              rw [sound, ← told_of_takes tags tag strict next (takes_of_take _ _ _ _ taken)]
              exact Except.foldlM_singleton_ok taken

/-- The first tag that is lacking: one without content, or the fiat amount of an order that is not
at market price. -/
def lacking? (tags : List Tag) : Option String :=
  if (told tags).id = "" then some "d"
  else if (told tags).fiatCode = "" then some "f"
  else if (told tags).paymentMethod = "" then some "pm"
  else if (∀ tag ∈ tags, tag.head? ≠ some "fa") ∧ (told tags).amount ≠ 0 then some "fa"
  else none

theorem fiat_told (strict : Bool) (sound : tags.findSome? (Tag.fault? strict) = none) :
    (told tags).fiat = none ↔ ∀ tag ∈ tags, tag.head? ≠ some "fa" := by
  rw [← Tag.lastValues?_eq_none]
  cases last : Tag.lastValues? "fa" tags with
  | none => simp [told, last]
  | some values =>
      have member := Tag.mem_of_lastValues? "fa" tags values last
      have readable : Tag.fiatFault? values = none :=
        List.findSome?_eq_none_iff.mp sound _ member
      have read := Tag.toFiat_eq values
      rw [readable] at read
      cases fiat : Tag.fiat? values with
      | none =>
          rw [fiat] at read
          cases result : Tag.toFiat values <;> rw [result] at read <;> cases read
      | some fiat => simp [told, last, fiat]

theorem finish_told (strict : Bool) (sound : tags.findSome? (Tag.fault? strict) = none) :
    (told tags).toDraft.finish =
      match lacking? tags with
      | some name => .error (.missing name)
      | none => .ok (told tags) := by
  simp only [Draft.finish, toDraft, lacking?, fiat_told tags strict sound]
  split_ifs <;> rfl

/-- The outcome of reading, from the tags alone: the fault of the first tag that cannot be read,
else the first tag that is lacking, else what the last tags say. -/
theorem ofTags_eq (strict : Bool) :
    ofTags strict tags =
      match tags.findSome? (Tag.fault? strict) with
      | some fault => .error fault
      | none =>
          match lacking? tags with
          | some name => .error (.missing name)
          | none => .ok (told tags) := by
  rw [ofTags, Draft.run_told]
  cases sound : tags.findSome? (Tag.fault? strict) with
  | some fault => rfl
  | none => exact finish_told tags strict sound

theorem ofFields_fields (fiat : Option Fiat) :
    Fiat.ofFields (fiat.bind Fiat.amount?) (fiat.bind Fiat.low?) (fiat.bind Fiat.high?) =
      .ok fiat := by
  rcases fiat with _ | fiat
  · rfl
  · cases fiat with
    | fixed amount => rfl
    | range low high ordered => simp [Fiat.ofFields, Fiat.amount?, Fiat.low?, Fiat.high?, ordered]

/-- Known names give their side and status; an unknown side is none, and an unknown status is
pending. -/
theorem told_named (tags : List Tag) :
    (∀ side, (told tags).side = some side ↔ ∃ values,
      Tag.lastValues? "k" tags = some values ∧ Tag.lower (values.headD "") = side.name) ∧
    ((told tags).status = none ↔ Tag.lastValues? "s" tags = none) ∧
    ∀ values, Tag.lastValues? "s" tags = some values →
      (∀ status : Status, values.headD "" = status.name → (told tags).status = some status) ∧
      ((∀ status : Status, values.headD "" ≠ status.name) →
        (told tags).status = some .pending) := by
  refine ⟨fun side => ?_, Option.map_eq_none_iff, fun values last => ?_⟩
  · rw [told, Option.bind_eq_some_iff]
    simp only [Side.ofName?_eq_some]
  · have status : (told tags).status = some (Status.ofNameOrPending (values.headD "")) := by
      rw [told, last]
      rfl
    refine ⟨fun known same => ?_, fun unknown => ?_⟩
    · rw [status, same, Status.ofNameOrPending_name]
    · rw [status, Status.ofNameOrPending_unknown _ unknown]

/-- Lenient reading ends as the tags alone say, and what it returns can be made into an order. -/
theorem ofTags_lenient (tags : List Tag) :
    (ofTags false tags =
      match tags.findSome? (Tag.fault? false) with
      | some fault => .error fault
      | none =>
          match lacking? tags with
          | some name => .error (.missing name)
          | none => .ok (told tags)) ∧
    Fiat.ofFields ((told tags).fiat.bind Fiat.amount?) ((told tags).fiat.bind Fiat.low?)
      ((told tags).fiat.bind Fiat.high?) = .ok (told tags).fiat :=
  ⟨ofTags_eq tags false, ofFields_fields _⟩

end Order

end TradeWire
