import Mathlib.AlgebraicGeometry.EllipticCurve.Affine.Point
import Mathlib.FieldTheory.Finite.Basic
import Mathlib.GroupTheory.OrderOfElement
import TradeWire.Proofs.Curve.Primality
/-! The points as they are added and multiplied are the group of the curve, in which the generator
has the order that private keys stay below. -/

namespace TradeWire.Curve

abbrev Coordinate : Type := ZMod prime

section Coordinates

theorem prime_pos : 0 < prime := prime_prime.pos

theorem eq_val (n : Nat) (z : Coordinate) (small : n < prime) (same : (n : Coordinate) = z) :
    n = z.val := by
  rw [← same, ZMod.val_natCast_of_lt small]

theorem subMod_lt (a b : Nat) : subMod a b < prime := Nat.mod_lt _ prime_pos

theorem cast_subMod (a b : Nat) : (subMod a b : Coordinate) = a - b := by
  have below := Nat.le_of_lt (Nat.mod_lt b prime_pos)
  rw [subMod, ZMod.natCast_mod, Nat.cast_add, Nat.cast_sub below, ZMod.natCast_self,
    ZMod.natCast_mod, zero_sub, sub_eq_add_neg]

theorem subMod_eq_val (a b : Nat) : subMod a b = ((a : Coordinate) - b).val :=
  eq_val _ _ (subMod_lt a b) (cast_subMod a b)

theorem powMod_lt (base exponent : Nat) : powMod prime base exponent < prime := by
  rw [powMod_eq]
  exact Nat.mod_lt _ prime_pos

theorem cast_powMod (base exponent : Nat) :
    (powMod prime base exponent : Coordinate) = (base : Coordinate) ^ exponent := by
  rw [powMod_eq, ZMod.natCast_mod, Nat.cast_pow]

theorem cast_inverseMod (a : Nat) : (inverseMod a : Coordinate) = (a : Coordinate)⁻¹ := by
  rw [inverseMod, cast_powMod]
  by_cases zero : (a : Coordinate) = 0
  · rw [zero, inv_zero, zero_pow (by decide)]
  · apply eq_inv_of_mul_eq_one_left
    rw [← pow_succ]
    exact ZMod.pow_card_sub_one_eq_one zero

theorem cast_divMod (a b : Nat) : (divMod a b : Coordinate) = a / b := by
  rw [divMod, ZMod.natCast_mod, Nat.cast_mul, cast_inverseMod, div_eq_mul_inv]

theorem cast_cubic (x : Nat) : (cubic x : Coordinate) = (x : Coordinate) ^ 3 + 7 := by
  rw [cubic, ZMod.natCast_mod]
  push_cast
  ring

theorem onCurve_iff (x y : Nat) :
    onCurve x y ↔ (y : Coordinate) ^ 2 = (x : Coordinate) ^ 3 + 7 := by
  have reduced : cubic x % prime = cubic x := Nat.mod_eq_of_lt (Nat.mod_lt _ prime_pos)
  rw [onCurve, beq_iff_eq, ← reduced, ← ZMod.natCast_eq_natCast_iff', cast_cubic, Nat.cast_mul,
    pow_two]

end Coordinates

def curve : WeierstrassCurve.Affine Coordinate where
  a₁ := 0
  a₂ := 0
  a₃ := 0
  a₄ := 0
  a₆ := 7

theorem discriminant_ne_zero : curve.Δ ≠ 0 := by
  have value : curve.Δ = ((prime - 21168 : Nat) : Coordinate) := by
    rw [Nat.cast_sub (by decide), ZMod.natCast_self]
    simp only [WeierstrassCurve.Δ, WeierstrassCurve.b₂, WeierstrassCurve.b₄, WeierstrassCurve.b₆,
      WeierstrassCurve.b₈, curve]
    norm_num
  rw [value, ne_eq, ZMod.natCast_eq_zero_iff]
  decide

theorem nonsingular_iff (x y : Coordinate) : curve.Nonsingular x y ↔ y ^ 2 = x ^ 3 + 7 := by
  rw [← curve.equation_iff_nonsingular_of_Δ_ne_zero discriminant_ne_zero,
    WeierstrassCurve.Affine.equation_iff]
  simp [curve]

theorem negY_eq (x y : Coordinate) : curve.negY x y = -y := by
  simp [WeierstrassCurve.Affine.negY, curve]

namespace Point

def ofGroup : curve.Point → Point
  | .zero => infinity
  | .some x y _ => affine x.val y.val

theorem ofGroup_zero : ofGroup 0 = infinity := rfl

theorem ofGroup_some (x y : Coordinate) (on : curve.Nonsingular x y) :
    ofGroup (.some x y on) = affine x.val y.val := rfl

theorem ofGroup_eq_infinity (P : curve.Point) : ofGroup P = infinity ↔ P = 0 := by
  cases P with
  | zero => exact ⟨fun _ => rfl, fun _ => rfl⟩
  | some x y on => simp [ofGroup]

theorem x?_neg (P : curve.Point) : (ofGroup (-P)).x? = (ofGroup P).x? := by
  cases P with
  | zero => rfl
  | some x y on => rfl

theorem alongLine_val (slope : Nat) (x₁ y₁ x₂ : Coordinate) :
    alongLine slope x₁.val y₁.val x₂.val =
      affine (curve.addX x₁ x₂ slope).val (curve.addY x₁ x₂ y₁ slope).val := by
  have third : subMod (subMod (slope * slope) x₁.val) x₂.val = (curve.addX x₁ x₂ slope).val := by
    rw [subMod_eq_val, cast_subMod]
    simp [curve, pow_two]
  rw [alongLine, third, subMod_eq_val, Nat.cast_mul, cast_subMod]
  simp only [ZMod.natCast_val, ZMod.cast_id]
  congr 2
  simp only [WeierstrassCurve.Affine.addY, WeierstrassCurve.Affine.negAddY, negY_eq]
  ring

theorem opposite_iff (y₁ y₂ : Coordinate) : (y₁.val + y₂.val) % prime = 0 ↔ y₁ = -y₂ := by
  rw [← Nat.dvd_iff_mod_eq_zero, ← ZMod.natCast_eq_zero_iff, Nat.cast_add, ZMod.natCast_val,
    ZMod.natCast_val, ZMod.cast_id, ZMod.cast_id, eq_neg_iff_add_eq_zero]

theorem add_ofGroup (P Q : curve.Point) : add (ofGroup P) (ofGroup Q) = ofGroup (P + Q) := by
  cases P with
  | zero => exact congrArg ofGroup (zero_add Q).symm
  | some x₁ y₁ first =>
      cases Q with
      | zero => exact congrArg ofGroup (add_zero (.some x₁ y₁ first : curve.Point)).symm
      | some x₂ y₂ second =>
          have sameX : x₁.val = x₂.val ↔ x₁ = x₂ := (ZMod.val_injective prime).eq_iff
          rw [ofGroup_some, ofGroup_some]
          simp only [add, sameX, opposite_iff]
          by_cases vertical : x₁ = x₂
          · rw [if_pos vertical]
            by_cases opposite : y₁ = -y₂
            · have negated : y₁ = curve.negY x₂ y₂ := opposite.trans (negY_eq x₂ y₂).symm
              rw [if_pos opposite, WeierstrassCurve.Affine.Point.add_of_Y_eq vertical negated,
                ofGroup_zero]
            · have doubled : y₁ ≠ curve.negY x₂ y₂ := by rwa [negY_eq]
              have tangent : (divMod (3 * x₁.val * x₁.val) (2 * y₁.val) : Coordinate) =
                  curve.slope x₁ x₂ y₁ y₂ := by
                rw [WeierstrassCurve.Affine.slope_of_Y_ne vertical doubled, cast_divMod, negY_eq]
                push_cast
                simp only [ZMod.natCast_val, ZMod.cast_id, curve]
                ring
              rw [if_neg opposite, alongLine_val, tangent,
                WeierstrassCurve.Affine.Point.add_of_Y_ne doubled,
                ofGroup_some]
          · have chord : (divMod (subMod y₂.val y₁.val) (subMod x₂.val x₁.val) : Coordinate) =
                curve.slope x₁ x₂ y₁ y₂ := by
              rw [WeierstrassCurve.Affine.slope_of_X_ne vertical, cast_divMod, cast_subMod,
                cast_subMod]
              simp only [ZMod.natCast_val, ZMod.cast_id]
              rw [← neg_sub y₁ y₂, ← neg_sub x₁ x₂, neg_div_neg_eq]
            rw [if_neg vertical, alongLine_val, chord,
              WeierstrassCurve.Affine.Point.add_of_X_ne vertical, ofGroup_some]

theorem times_ofGroup (n : Nat) (P : curve.Point) : times n (ofGroup P) = ofGroup (n • P) := by
  induction n using Nat.strongRecOn generalizing P with
  | ind n ih =>
      rw [times]
      by_cases zero : n = 0
      · rw [if_pos zero, zero, zero_nsmul, ofGroup_zero]
      · have half := ih (n / 2) (by omega) (P + P)
        rw [if_neg zero, add_ofGroup, half, ← two_nsmul, smul_smul]
        by_cases odd : n % 2 = 1
        · have parts : n = 1 + n / 2 * 2 := by omega
          rw [if_pos odd, add_ofGroup]
          nth_rewrite 1 [← one_nsmul P]
          rw [← add_nsmul, ← parts]
        · have parts : n / 2 * 2 = n := by omega
          rw [if_neg odd, parts]

end Point

def base : curve.Point :=
  .some (0x79be667ef9dcbbac55a06295ce870b07029bfcdb2dce28d959f2815b16f81798 : Nat)
    (0x483ada7726a3c4655da4fbfc0e1108a8fd17b448a68554199c47d08ffb10d4b8 : Nat)
    ((nonsingular_iff _ _).mpr ((onCurve_iff _ _).mp (by decide +kernel)))

theorem ofGroup_base : Point.ofGroup base = generator := by
  simp only [Point.ofGroup, base, generator]
  rw [ZMod.val_natCast_of_lt (by decide +kernel), ZMod.val_natCast_of_lt (by decide +kernel)]

theorem times_generator (n : Nat) : Point.times n generator = Point.ofGroup (n • base) := by
  rw [← ofGroup_base, Point.times_ofGroup]

set_option maxRecDepth 100000 in
theorem times_order : Point.times order generator = .infinity := by
  decide +kernel

theorem addOrderOf_base : addOrderOf base = order := by
  have : Fact order.Prime := ⟨order_prime⟩
  have annihilated : order • base = 0 := by
    rw [← Point.ofGroup_eq_infinity, ← times_generator, times_order]
  exact addOrderOf_eq_prime annihilated (WeierstrassCurve.Affine.Point.some_ne_zero _)

theorem smul_base_eq_zero (n : Nat) : n • base = 0 ↔ order ∣ n := by
  rw [← addOrderOf_dvd_iff_nsmul_eq_zero, addOrderOf_base]

/-- The square root that a power gives: twice the exponent is one more than half of the order of the
units, and a square to that half is one. -/
theorem root_sq (y : Coordinate) : ((y ^ 2) ^ ((prime + 1) / 4)) ^ 2 = y ^ 2 := by
  have exponent : 2 * ((prime + 1) / 4 * 2) = prime + 1 := by decide
  rw [← pow_mul, ← pow_mul, exponent]
  have frobenius : y ^ prime = y := ZMod.pow_card y
  rw [pow_succ, frobenius, pow_two]

theorem evenRoot_lt (x : Nat) : evenRoot x < prime := by
  have small := powMod_lt (cubic x) ((prime + 1) / 4)
  rw [evenRoot]
  split
  · exact small
  · omega

theorem evenRoot_sq (x : Nat) (y : Coordinate) (square : y ^ 2 = (x : Coordinate) ^ 3 + 7) :
    (evenRoot x : Coordinate) ^ 2 = y ^ 2 := by
  have root : (powMod prime (cubic x) ((prime + 1) / 4) : Coordinate) ^ 2 = y ^ 2 := by
    rw [cast_powMod, cast_cubic, ← square, root_sq]
  have small := Nat.le_of_lt (powMod_lt (cubic x) ((prime + 1) / 4))
  rw [evenRoot]
  split
  · exact root
  · rw [Nat.cast_sub small, ZMod.natCast_self, zero_sub, neg_sq]
    exact root

theorem residue_of_lt (x : Nat) (small : x < prime) : residue x = x := by
  rw [residue, ← Int.natCast_emod, Int.toNat_natCast, Nat.mod_eq_of_lt small]

/-- The point that is found for an x coordinate is the one that had it, or its negative. -/
theorem lift_x (P : curve.Point) (x : Nat) (found : (Point.ofGroup P).x? = some x) :
    ∃ Q, lift? x = some (Point.ofGroup Q) ∧ (Q = P ∨ Q = -P) := by
  cases P with
  | zero => cases found
  | some a b on =>
      cases found
      have square := (nonsingular_iff a b).mp on
      have root : (evenRoot a.val : Coordinate) ^ 2 = b ^ 2 := by
        apply evenRoot_sq
        simpa using square
      have lifted : curve.Nonsingular a (evenRoot a.val) :=
        (nonsingular_iff _ _).mpr (root.trans square)
      have onCurve : onCurve a.val (evenRoot a.val) := by
        rw [onCurve_iff, root]
        simpa using square
      refine ⟨.some a (evenRoot a.val) lifted, ?_, ?_⟩
      · rw [lift?, residue_of_lt _ a.val_lt, if_pos onCurve, Point.ofGroup,
          ZMod.val_natCast_of_lt (evenRoot_lt a.val)]
      · exact WeierstrassCurve.Affine.Point.X_eq_iff.mp rfl

end TradeWire.Curve
