import TradeWire.Number.Double
import TradeWire.Proofs.Number
/-! A double that is made of digits has a mantissa of 53 bits and an exponent within the range, so
its integer part is short enough to be written. -/

namespace TradeWire.Number

theorem divNearest_le (a b : Nat) : divNearest a b ≤ a / b + 1 := by
  unfold divNearest
  simp only []
  repeat' split
  all_goals omega

theorem fits_of_bits (n : Int) (bits : Nat) (enough : bits ≤ maxDigits)
    (small : n.natAbs < 2 ^ bits) : fits n := by
  rw [fits_iff]
  calc
    n.natAbs < 2 ^ bits := small
    _ ≤ 10 ^ bits := Nat.pow_le_pow_left (by decide) bits
    _ ≤ 10 ^ maxDigits := Nat.pow_le_pow_right (by decide) enough

namespace Double

def isBounded : Double → Bool
  | finite _ mantissa exponent => decide (mantissa < 2 ^ 53 ∧ exponent ≤ greatestExponent)
  | _ => true

theorem scaleBy_lt (n d : Nat) (nonzero : d ≠ 0) (exponent : Int)
    (enough : (n.log2 : Int) - d.log2 - 52 ≤ exponent) :
    (scaleBy n d exponent).1 / (scaleBy n d exponent).2 < 2 ^ 53 := by
  have above : n < 2 ^ (n.log2 + 1) := Nat.lt_log2_self
  have below : 2 ^ d.log2 ≤ d := Nat.log2_self_le nonzero
  rw [scaleBy]
  split
  · apply Nat.div_lt_of_lt_mul
    calc
      n < 2 ^ (n.log2 + 1) := above
      _ ≤ 2 ^ (d.log2 + exponent.toNat + 53) := Nat.pow_le_pow_right (by decide) (by omega)
      _ = 2 ^ d.log2 * 2 ^ exponent.toNat * 2 ^ 53 := by rw [Nat.pow_add, Nat.pow_add]
      _ ≤ d * 2 ^ exponent.toNat * 2 ^ 53 :=
        Nat.mul_le_mul_right _ (Nat.mul_le_mul_right _ below)
  · apply Nat.div_lt_of_lt_mul
    calc
      n * 2 ^ (-exponent).toNat < 2 ^ (n.log2 + 1) * 2 ^ (-exponent).toNat :=
        Nat.mul_lt_mul_of_pos_right above (Nat.two_pow_pos _)
      _ = 2 ^ (n.log2 + 1 + (-exponent).toNat) := (Nat.pow_add ..).symm
      _ ≤ 2 ^ (d.log2 + 53) := Nat.pow_le_pow_right (by decide) (by omega)
      _ = 2 ^ d.log2 * 2 ^ 53 := Nat.pow_add ..
      _ ≤ d * 2 ^ 53 := Nat.mul_le_mul_right _ below

theorem exponentOf_lt (n d : Nat) (nonzero : d ≠ 0) :
    (scaleBy n d (exponentOf n d)).1 / (scaleBy n d (exponentOf n d)).2 < 2 ^ 53 := by
  unfold exponentOf
  simp only [Nat.pow_eq]
  split
  · rename_i small
    -- at the guess itself the quotient has been looked at
    by_cases least : leastExponent ≤ (n.log2 : Int) - d.log2 - 53
    · rwa [Int.max_eq_left least]
    · rw [Int.max_eq_right (by omega)]
      exact scaleBy_lt n d nonzero _ (by omega)
  · exact scaleBy_lt n d nonzero _ (by omega)

theorem normal_bounded (negative : Bool) (mantissa : Nat) (exponent : Int)
    (small : mantissa ≤ 2 ^ 53) : (normal negative mantissa exponent).isBounded := by
  have inRange (mantissa : Nat) (exponent : Int) (small : mantissa < 2 ^ 53) :
      (if exponent > greatestExponent then infinite negative
        else finite negative mantissa exponent).isBounded := by
    split
    · rfl
    · simp only [isBounded, decide_eq_true_eq]
      omega
  unfold normal
  simp only [Nat.pow_eq]
  split
  · exact inRange (2 ^ 52) _ (by decide)
  · exact inRange mantissa _ (by omega)

theorem roundRatio_bounded (negative : Bool) (n d : Nat) (nonzero : d ≠ 0) :
    (roundRatio negative n d).isBounded := by
  unfold roundRatio
  split
  · rfl
  · have quotient := exponentOf_lt n d nonzero
    have nearest := divNearest_le (scaleBy n d (exponentOf n d)).1 (scaleBy n d (exponentOf n d)).2
    have small := Nat.le_trans nearest (Nat.succ_le_of_lt quotient)
    exact normal_bounded negative _ _ small

theorem ofDecimal_bounded (negative : Bool) (digits : Nat) (exponent : Int) :
    (ofDecimal negative digits exponent).isBounded := by
  have positive : 0 < Nat.pow 10 (-exponent).toNat := Nat.pow_pos (by decide)
  unfold ofDecimal
  simp only []
  split
  · rfl
  split
  · rfl
  split
  · exact roundRatio_bounded _ _ _ Nat.one_ne_zero
  · exact roundRatio_bounded _ _ _ (Nat.ne_of_gt positive)

theorem fits_truncate (x : Double) (bounded : x.isBounded) (n : Int)
    (whole : x.truncate? = some n) : fits n := by
  cases x with
  | nan | infinite _ => cases whole
  | finite negative mantissa exponent =>
      have bounds : mantissa < 2 ^ 53 ∧ exponent ≤ 971 := of_decide_eq_true bounded
      have enough : 53 + exponent.toNat ≤ maxDigits := by
        rw [maxDigits]
        omega
      apply fits_of_bits n _ enough
      simp only [truncate?, ratio?] at whole
      split at whole
      · cases whole
        rw [natAbs_withSign, Nat.div_one, Nat.pow_add]
        exact Nat.mul_lt_mul_of_pos_right bounds.1 (Nat.two_pow_pos _)
      · cases whole
        rw [natAbs_withSign]
        calc
          mantissa / Nat.pow 2 (-exponent).toNat ≤ mantissa := Nat.div_le_self ..
          _ < 2 ^ 53 := bounds.1
          _ ≤ 2 ^ (53 + exponent.toNat) := Nat.pow_le_pow_right (by decide) (Nat.le_add_right ..)

end Double

end TradeWire.Number
