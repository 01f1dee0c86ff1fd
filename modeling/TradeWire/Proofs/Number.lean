import Mathlib.Data.List.Induction
import TradeWire.Number.Integer
import TradeWire.Proofs.Blank
import TradeWire.Proofs.Json.Scan
/-! Integers come back from their decimal text, and none is read that is too long to be written. -/

namespace TradeWire

theorem Text.decimalDigit_lt (c : Char) (digit : Nat) (found : decimalDigit? c = some digit) :
    digit < 10 := by
  rw [decimalDigit?, Option.map_eq_some_iff] at found
  rcases found with ⟨first, place, rfl⟩
  have inside := List.find?_some place
  simp only [Bool.and_eq_true, decide_eq_true_eq] at inside
  omega

theorem Text.isDigit_bounds (c : Char) (digit : c.isDigit) : 48 ≤ c.toNat ∧ c.toNat ≤ 57 := by
  simpa [Char.isDigit, UInt32.le_iff_toNat_le] using digit

theorem Text.decimalDigit_of_isDigit (c : Char) (digit : c.isDigit) :
    decimalDigit? c = some (c.toNat - 48) := by
  have bounds := isDigit_bounds c digit
  have first : digitZeros.find?
      (fun first => decide (first ≤ c.toNat) && decide (c.toNat < first + 10)) = some 0x30 := by
    apply List.find?_cons_of_pos
    simp only [Bool.and_eq_true, decide_eq_true_eq]
    omega
  rw [decimalDigit?, first]
  rfl

namespace Number

theorem map_of_digitRun (digit? : Char → Option Nat) (unmarked : digit? '_' = none)
    (chars : List Char) (digits : List Nat) (read : digitRun digit? chars = some digits) :
    (chars.filter (· ≠ '_')).map digit? = digits.map some := by
  have noMark (c : Char) (digit : Nat) (found : digit? c = some digit) : c ≠ '_' := by
    rintro rfl
    rw [unmarked] at found
    cases found
  fun_induction digitRun digit? chars generalizing digits with
  | case1 => cases read
  | case2 c =>
      rcases Option.map_eq_some_iff.mp read with ⟨digit, found, rfl⟩
      simp [found, noMark c digit found]
  | case3 c rest ih =>
      simp only [Option.bind_eq_bind, Option.bind_eq_some_iff] at read
      rcases read with ⟨digit, found, others, ran, same⟩
      cases same
      simpa [found, noMark c digit found] using ih others ran
  | case4 c rest noEnd noUnderscore ih =>
      simp only [Option.bind_eq_bind, Option.bind_eq_some_iff] at read
      rcases read with ⟨digit, found, others, ran, same⟩
      cases same
      simpa [found, noMark c digit found] using ih others ran

theorem digitRun_lt (chars : List Char) (digits : List Nat)
    (read : digitRun Text.decimalDigit? chars = some digits) : ∀ digit ∈ digits, digit < 10 := by
  intro digit member
  have told : some digit ∈ digits.map some := List.mem_map_of_mem member
  rw [← map_of_digitRun Text.decimalDigit? (by decide) chars digits read] at told
  rcases List.mem_map.mp told with ⟨c, _, found⟩
  exact Text.decimalDigit_lt c digit found

theorem ofDigits_lt (base : Nat) (digits : List Nat) (small : ∀ digit ∈ digits, digit < base) :
    ofDigits base digits < base ^ digits.length := by
  induction digits using List.reverseRecOn with
  | nil => simp [ofDigits]
  | append_singleton digits last ih =>
      have front := ih fun digit member => small digit (List.mem_append_left _ member)
      have back := small last (by simp)
      calc
        ofDigits base (digits ++ [last]) = ofDigits base digits * base + last := by
          simp [ofDigits]
        _ < ofDigits base digits * base + base := Nat.add_lt_add_left back _
        _ = (ofDigits base digits + 1) * base := (Nat.succ_mul _ _).symm
        _ ≤ base ^ digits.length * base := Nat.mul_le_mul_right base front
        _ = base ^ (digits ++ [last]).length := by simp [Nat.pow_succ]

theorem natAbs_withSign (negative : Bool) (magnitude : Nat) :
    (withSign negative magnitude).natAbs = magnitude := by
  cases negative <;> simp [withSign]

theorem fits_of_readDecimal (chars : List Char) (n : Int) (read : readDecimal? chars = some n) :
    fits n := by
  simp only [readDecimal?, Option.bind_eq_bind, Option.bind_eq_some_iff] at read
  rcases read with ⟨digits, found, value⟩
  split at value
  · rename_i short
    cases value
    rw [fits_iff, natAbs_withSign]
    calc
      ofDigits 10 digits < 10 ^ digits.length := ofDigits_lt 10 digits (digitRun_lt _ _ found)
      _ ≤ 10 ^ maxDigits := Nat.pow_le_pow_right (by decide) short
  · cases value

theorem digitRun_eq_map (digit? : Char → Option Nat) (value : Char → Nat)
    (unmarked : digit? '_' = none) (chars : List Char) (nonempty : chars ≠ [])
    (read : ∀ c ∈ chars, digit? c = some (value c)) :
    digitRun digit? chars = some (chars.map value) := by
  induction chars with
  | nil => exact absurd rfl nonempty
  | cons c chars ih =>
      have first := read c (by simp)
      cases chars with
      | nil => simp [digitRun, first]
      | cons d chars =>
          have others := ih (by simp) fun e member => read e (List.mem_cons_of_mem _ member)
          have noMark : d ≠ '_' := by
            intro same
            have marked := read d (by simp)
            rw [same, unmarked] at marked
            cases marked
          rw [digitRun]
          · rw [first, others]
            rfl
          · simp
          · simp [noMark]

theorem digitRun_digits (chars : List Char) (nonempty : chars ≠ [])
    (allDigits : ∀ c ∈ chars, c.isDigit) :
    digitRun Text.decimalDigit? chars = some (Json.Token.digitsOf chars) :=
  digitRun_eq_map Text.decimalDigit? _ (by decide) chars nonempty fun c member =>
    Text.decimalDigit_of_isDigit c (allDigits c member)

theorem isMargin_of_isDigit (c : Char) (digit : c.isDigit) : isMargin c = false := by
  have bounds := Text.isDigit_bounds c digit
  simp only [isMargin, Text.isAsciiBlank, Bool.or_eq_false_iff, Bool.and_eq_false_iff,
    decide_eq_false_iff_not, beq_eq_false_iff_ne]
  omega

theorem splitSign_of_ne (c : Char) (chars : List Char) (noMinus : c ≠ '-') (noPlus : c ≠ '+') :
    splitSign (c :: chars) = (false, c :: chars) := by
  unfold splitSign
  split
  · rename_i same
    cases same
    exact absurd rfl noMinus
  · rename_i same
    cases same
    exact absurd rfl noPlus
  · rfl

theorem splitSign_of_isDigit (c : Char) (chars : List Char) (digit : c.isDigit) :
    splitSign (c :: chars) = (false, c :: chars) := by
  apply splitSign_of_ne
  · rintro rfl
    exact absurd digit (by decide)
  · rintro rfl
    exact absurd digit (by decide)

theorem readDecimal_signed (negative : Bool) (n : Nat) (short : n < 10 ^ maxDigits)
    (chars : List Char) (clean : ∀ c ∈ chars, isMargin c = false)
    (split : splitSign chars = (negative, Nat.toDigits 10 n)) :
    readDecimal? chars = some (withSign negative n) := by
  have size : (Nat.toDigits 10 n).length ≤ maxDigits :=
    (Nat.length_toDigits_le_iff (by decide) (by decide)).mpr short
  have digits := digitRun_digits (Nat.toDigits 10 n) Nat.toDigits_ne_nil
    (Json.Token.isDigit_toDigits n)
  have value := Json.Token.ofDigits_toDigits n
  simp only [readDecimal?, Text.trimBoth_eq_self isMargin chars clean, split, digits,
    Option.bind_eq_bind, Option.bind_some, value]
  rw [if_pos (by simpa [Json.Token.digitsOf] using size)]

theorem readDecimal_toString (n : Int) (short : fits n) :
    readDecimal? (toString n).toList = some n := by
  rw [fits_iff] at short
  have clean (n : Nat) : ∀ c ∈ Nat.toDigits 10 n, isMargin c = false := fun c member =>
    isMargin_of_isDigit c (Json.Token.isDigit_toDigits n c member)
  rw [Int.toString_eq_repr]
  cases n with
  | ofNat n =>
      have unsigned : splitSign (Nat.toDigits 10 n) = (false, Nat.toDigits 10 n) := by
        rcases Json.Token.exists_toDigits n with ⟨c, digits, written, digit⟩
        rw [written, splitSign_of_isDigit c digits digit]
      rw [Json.Token.toList_ofNat]
      exact readDecimal_signed false n short _ (clean n) unsigned
  | negSucc n =>
      rw [Json.Token.toList_negSucc]
      refine readDecimal_signed true (n + 1) short _ ?_ rfl
      rw [List.forall_mem_cons]
      exact ⟨rfl, clean (n + 1)⟩

end Number

end TradeWire
