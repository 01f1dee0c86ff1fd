import TradeWire.Json.Integer
import TradeWire.Proofs.Double
import TradeWire.Proofs.Json.RoundTrip
import TradeWire.Proofs.Outcome
/-! What is read holds small numbers only: the digits of an integer are counted, and a float has 53
bits and an exponent within the range. -/

namespace TradeWire.Json

def isBounded : Json → Bool
  | int n => Number.fits n
  | float x => x.isBounded
  | _ => true

theorem fits_toInt (value : Json) (bounded : value.everywhere isBounded) (n : Int)
    (read : value.toInt = .ok n) : Number.fits n := by
  cases value with
  | null | arr _ | obj _ => cases read
  | bool value =>
      cases read
      cases value <;> exact Number.fits_of_lt _ (by decide)
  | int _ =>
      cases read
      simpa only [everywhere, isBounded] using bounded
  | float x =>
      simp only [toInt, intOfDouble] at read
      split at read
      · cases read
      · cases read
      · split at read
        · rename_i whole
          cases read
          exact Number.Double.fits_truncate x bounded n whole
        · cases read
  | str text =>
      simp only [toInt, intOfText] at read
      split at read
      · rename_i found
        cases read
        exact Number.fits_of_readDecimal _ n found
      · cases read

namespace Token

theorem digitsOf_lt (chars : List Char) (allDigits : ∀ c ∈ chars, c.isDigit) :
    ∀ digit ∈ digitsOf chars, digit < 10 := by
  intro digit member
  obtain ⟨c, inside, rfl⟩ := List.mem_map.mp member
  have bounds := Text.isDigit_bounds c (allDigits c inside)
  omega

theorem number_bounded (negative : Bool) (whole rest more : List Char) (value : Json)
    (allDigits : ∀ c ∈ whole, c.isDigit)
    (found : number negative whole rest = (scalar value, more)) : value.everywhere isBounded := by
  unfold number at found
  simp only [] at found
  split at found
  · split at found
    · rename_i short
      cases found
      simp only [everywhere, isBounded]
      rw [Number.fits_iff, Number.natAbs_withSign]
      calc
        Number.ofDigits 10 (digitsOf whole) < 10 ^ (digitsOf whole).length :=
          Number.ofDigits_lt 10 _ (digitsOf_lt whole allDigits)
        _ = 10 ^ whole.length := by rw [digitsOf, List.length_map]
        _ ≤ 10 ^ Number.maxDigits := Nat.pow_le_pow_right (by decide) short
    · cases found
  · cases found
    exact Number.Double.ofDecimal_bounded ..

theorem word_scalar (name : String) (known value : Json) (chars more : List Char)
    (found : word name known chars = (scalar value, more)) : value = known := by
  unfold word at found
  split at found
  · cases found
    rfl
  · cases found

theorem scanNumber_bounded (negative : Bool) (chars more : List Char) (value : Json)
    (found : scanNumber negative chars = (scalar value, more)) : value.everywhere isBounded := by
  unfold scanNumber at found
  split at found
  · exact number_bounded negative ['0'] _ more value (by simp) found
  · rename_i c rest _
    split at found
    · rename_i digit
      refine number_bounded negative _ _ more value ?_ found
      rw [List.forall_mem_cons]
      exact ⟨digit, List.all_eq_true.mp List.all_takeWhile⟩
    · split at found
      · rw [word_scalar _ _ value _ more found]
        rfl
      · cases found
  · cases found

theorem quotedText_ne_scalar (chars more : List Char) (value : Json) :
    quotedText chars ≠ (scalar value, more) := by
  unfold quotedText
  split
  · simp
  · split <;> simp

theorem next_bounded (c : Char) (rest more : List Char) (value : Json)
    (found : next c rest = (scalar value, more)) : value.everywhere isBounded := by
  unfold next at found
  split at found
  case h_7 => exact absurd found (quotedText_ne_scalar rest more value)
  case h_13 | h_14 => exact scanNumber_bounded _ _ more value found
  case h_8 | h_9 | h_10 | h_11 | h_12 =>
    rw [word_scalar _ _ value _ more found]
    rfl
  all_goals cases found

end Token

theorem tokens_bounded (chars : List Char) (value : Json)
    (member : .scalar value ∈ tokens chars) : value.everywhere isBounded := by
  fun_induction tokens chars with
  | case1 => cases member
  | case2 c rest blank ih => exact ih member
  | case3 c rest visible more found => simp at member
  | case4 c rest visible token more proper found shorter ih =>
      rcases List.mem_cons.mp member with same | later
      · subst same
        exact Token.next_bounded c rest more value found
      · exact ih later

theorem everyItem_iff (test : Json → Bool) (items : List Json) :
    everyItem test items ↔ ∀ item ∈ items, item.everywhere test := by
  induction items with
  | nil => simp [everyItem]
  | cons item items ih => simp [everyItem, ih]

theorem everyField_iff (test : Json → Bool) (fields : List (String × Json)) :
    everyField test fields ↔ ∀ field ∈ fields, field.2.everywhere test := by
  induction fields with
  | nil => simp [everyField]
  | cons field fields ih => simp [everyField, ih]

theorem everywhere_get (test : Json → Bool) (fields : Fields) (key : String) (value : Json)
    (found : fields.get? key = some value) (all : everyField test fields) :
    value.everywhere test := by
  obtain ⟨before, after, split, _⟩ := List.lookup_eq_some_iff.mp found
  apply (everyField_iff test fields).mp all (key, value)
  rw [split]
  exact List.mem_append_right before List.mem_cons_self

theorem forall_mem_put (holds : Json → Prop) (fields : Fields) (key : String) (value : Json)
    (old : ∀ field ∈ fields, holds field.2) (new : holds value) :
    ∀ field ∈ fields.put key value, holds field.2 := by
  induction fields with
  | nil => simpa [Fields.put] using new
  | cons field fields ih =>
      rw [List.forall_mem_cons] at old
      rw [Fields.put]
      split
      · rw [List.forall_mem_cons]
        exact ⟨new, old.2⟩
      · rw [List.forall_mem_cons]
        exact ⟨old.1, ih old.2⟩

section Reading

variable (test : Json → Bool)

def Level.Holds : Level → Prop
  | list items => ∀ item ∈ items, item.everywhere test
  | object fields _ => ∀ field ∈ fields, field.2.everywhere test

def Expecting.Holds : Expecting → Prop
  | needValue outer | itemOrClose outer | keyOrClose outer => ∀ level ∈ outer, level.Holds test
  | afterItem items outer =>
      (∀ item ∈ items, item.everywhere test) ∧ ∀ level ∈ outer, level.Holds test
  | needKey fields outer | needColon fields _ outer | afterField fields outer =>
      (∀ field ∈ fields, field.2.everywhere test) ∧ ∀ level ∈ outer, level.Holds test
  | finished value => value.everywhere test

structure Covers : Prop where
  texts : ∀ text, test (.str text)
  lists : ∀ items, test (.arr items)
  objects : ∀ fields, test (.obj fields)

namespace Expecting

theorem holds_deliver (value : Json) (outer : List Level) (new : value.everywhere test)
    (old : ∀ level ∈ outer, level.Holds test) : (deliver value outer).Holds test := by
  cases outer with
  | nil => exact new
  | cons level outer =>
      rw [List.forall_mem_cons] at old
      cases level with
      | list items => exact ⟨List.forall_mem_cons.mpr ⟨new, old.1⟩, old.2⟩
      | object fields key =>
          exact ⟨forall_mem_put (·.everywhere test) fields key value old.1 new, old.2⟩

variable (covers : Covers test)

include covers

theorem holds_closeList (items : List Json) (outer : List Level)
    (old : (∀ item ∈ items, item.everywhere test) ∧ ∀ level ∈ outer, level.Holds test) :
    (deliver (.arr items.reverse) outer).Holds test := by
  apply holds_deliver test _ outer _ old.2
  rw [everywhere, covers.lists, Bool.true_and, everyItem_iff]
  intro item member
  exact old.1 item (List.mem_reverse.mp member)

theorem holds_closeObject (fields : Fields) (outer : List Level)
    (old : (∀ field ∈ fields, field.2.everywhere test) ∧ ∀ level ∈ outer, level.Holds test) :
    (deliver (.obj fields) outer).Holds test := by
  apply holds_deliver test _ outer _ old.2
  rw [everywhere, covers.objects, Bool.true_and, everyField_iff]
  exact old.1

variable (token : Token) (scalar : ∀ value, token = .scalar value → value.everywhere test)

include scalar

theorem holds_start (outer : List Level) (next : Expecting) (started : start token outer = .ok next)
    (old : ∀ level ∈ outer, level.Holds test) : next.Holds test := by
  cases token with
  | openList | openObject =>
      cases started
      exact old
  | scalar value =>
      cases started
      exact holds_deliver test value outer (scalar value rfl) old
  | text content =>
      cases started
      exact holds_deliver test _ outer (covers.texts content) old
  | closeList | closeObject | comma | colon | halved | tooLong | junk => cases started

/-- What holds of all that has been read and of a token that follows holds of both. -/
theorem holds_step (state next : Expecting) (stepped : state.step token = .ok next)
    (old : state.Holds test) : next.Holds test := by
  unfold step at stepped
  -- one case for each rule of the machine, in the order in which they stand there
  split at stepped
  case h_1 => exact holds_start test covers _ scalar _ next stepped old
  case h_2 outer =>
    cases stepped
    exact holds_closeList test covers [] outer ⟨by simp, old⟩
  case h_3 =>
    apply holds_start test covers _ scalar _ next stepped
    exact List.forall_mem_cons.mpr ⟨by simp [Level.Holds], old⟩
  case h_4 items outer =>
    cases stepped
    exact List.forall_mem_cons.mpr old
  case h_5 items outer =>
    cases stepped
    exact holds_closeList test covers items outer old
  case h_6 outer =>
    cases stepped
    exact holds_closeObject test covers [] outer ⟨by simp, old⟩
  case h_7 outer key =>
    cases stepped
    exact ⟨by simp, old⟩
  case h_8 fields outer key =>
    cases stepped
    exact old
  case h_9 fields key outer =>
    cases stepped
    exact List.forall_mem_cons.mpr old
  case h_10 fields outer =>
    cases stepped
    exact old
  case h_11 fields outer =>
    cases stepped
    exact holds_closeObject test covers fields outer old
  case h_12 => cases stepped

end Expecting

theorem parse_everywhere (covers : Covers test) (text : String) (value : Json)
    (scalars : ∀ atom, .scalar atom ∈ tokens text.toList → atom.everywhere test)
    (read : parse text = .ok value) : value.everywhere test := by
  obtain ⟨_, last, ran, ended⟩ := (read_none_eq_ok _ _).mp read
  have holds : last.Holds test := by
    apply Except.foldlM_keeps_of_mem Expecting.step (Expecting.Holds test) _ _ _ last _ ran
    · intro token member state next old stepped
      refine Expecting.holds_step test covers token ?_ state next stepped old
      intro atom same
      exact scalars atom (same ▸ member)
    · simp [Expecting.Holds]
  cases last with
  | finished other =>
      cases ended
      exact holds
  | _ => cases ended

end Reading

theorem parse_bounded (text : String) (value : Json) (read : parse text = .ok value) :
    value.everywhere isBounded :=
  parse_everywhere isBounded ⟨fun _ => rfl, fun _ => rfl, fun _ => rfl⟩ text value
    (tokens_bounded text.toList) read

end TradeWire.Json
