import Mathlib.GroupTheory.Perm.Cycle.Type
import TradeWire.Proofs.Curve.Group
/-! Every point of the curve but zero has the order of the generator. A point is known by its x
coordinate and the parity of its y coordinate, so that there are fewer points than three times the
order; and no point is its own negative, so that their number is odd. -/

namespace TradeWire.Curve

theorem neg_parity (y : Coordinate) (nonzero : y ≠ 0) : (-y).val % 2 ≠ y.val % 2 := by
  have odd : prime % 2 = 1 := by decide
  have below := y.val_lt
  rw [ZMod.neg_val, if_neg nonzero]
  omega

/-- At no x coordinate the curve meets the axis: minus seven is not a cube. -/
theorem cubic_ne_zero (x : Coordinate) : x ^ 3 + 7 ≠ 0 := by
  intro zero
  have cube : x ^ 3 = ((prime - 7 : Nat) : Coordinate) := by
    rw [Nat.cast_sub (by decide), ZMod.natCast_self, zero_sub]
    exact eq_neg_of_add_eq_zero_left zero
  have nonzero : x ≠ 0 := by
    intro none
    rw [none, zero_pow (by decide), zero_add] at zero
    exact absurd zero (by decide)
  have exponent : 3 * ((prime - 1) / 3) = prime - 1 := by decide
  have power : (powMod prime (prime - 7) ((prime - 1) / 3) : Coordinate) = (1 : Nat) := by
    rw [cast_powMod, ← cube, ← pow_mul, exponent, ZMod.pow_card_sub_one_eq_one nonzero,
      Nat.cast_one]
  have other : powMod prime (prime - 7) ((prime - 1) / 3) % prime ≠ 1 % prime := by
    decide +kernel
  exact other ((ZMod.natCast_eq_natCast_iff' _ _ _).mp power)

theorem neg_ne_self (P : curve.Point) (nonzero : P ≠ 0) : -P ≠ P := by
  cases P with
  | zero => exact absurd rfl nonzero
  | some x y on =>
      have above : y ≠ 0 := by
        intro axis
        apply cubic_ne_zero x
        rw [← (nonsingular_iff x y).mp on, axis, zero_pow (by decide)]
      intro same
      rw [WeierstrassCurve.Affine.Point.neg_some] at same
      injection same with _ turned
      rw [negY_eq] at turned
      exact neg_parity y above (by rw [turned])

def compressed : curve.Point → Option (Coordinate × Fin 2)
  | .zero => none
  | .some x y _ => some (x, Fin.ofNat 2 y.val)

theorem compressed_injective : Function.Injective compressed := by
  intro P Q same
  cases P with
  | zero =>
      cases Q with
      | zero => rfl
      | some x y on => cases same
  | some x₁ y₁ first =>
      cases Q with
      | zero => cases same
      | some x₂ y₂ second =>
          have parts := Prod.mk.inj (Option.some.inj same)
          have parity : y₁.val % 2 = y₂.val % 2 := congrArg Fin.val parts.2
          rcases WeierstrassCurve.Affine.Point.X_eq_iff.mp parts.1 with equal | turned
          · exact equal
          · rw [WeierstrassCurve.Affine.Point.neg_some] at turned
            injection turned with _ negated
            rw [negY_eq] at negated
            by_cases axis : y₂ = 0
            · rw [WeierstrassCurve.Affine.Point.some.injEq]
              exact ⟨parts.1, by rw [negated, axis, neg_zero]⟩
            · rw [negated] at parity
              exact absurd parity (neg_parity y₂ axis)

instance : Finite curve.Point := Finite.of_injective compressed compressed_injective

theorem card_points_le : Nat.card curve.Point ≤ 2 * prime + 1 := by
  have count := Nat.card_le_card_of_injective compressed compressed_injective
  rwa [Finite.card_option, Nat.card_prod, Nat.card_zmod, Nat.card_fin, Nat.mul_comm] at count

/-- An even number of points would have one of order two. -/
theorem card_points_odd : ¬2 ∣ Nat.card curve.Point := by
  intro even
  have : Fact (Nat.Prime 2) := ⟨Nat.prime_two⟩
  obtain ⟨P, two⟩ := exists_prime_addOrderOf_dvd_card' 2 even
  have nonzero : P ≠ 0 := by
    intro zero
    rw [zero, addOrderOf_zero] at two
    cases two
  have doubled : P + P = 0 := by
    rw [← two_nsmul, ← two, addOrderOf_nsmul_eq_zero]
  exact neg_ne_self P nonzero (neg_eq_of_add_eq_zero_left doubled)

theorem card_points : Nat.card curve.Point = order := by
  obtain ⟨copies, count⟩ : order ∣ Nat.card curve.Point := by
    rw [← addOrderOf_base]
    exact addOrderOf_dvd_natCard base
  have few : order * copies < order * 3 := by
    calc order * copies = Nat.card curve.Point := count.symm
      _ ≤ 2 * prime + 1 := card_points_le
      _ < order * 3 := by decide
  have below : copies < 3 := Nat.lt_of_mul_lt_mul_left few
  have some : copies ≠ 0 := by
    intro none
    rw [none, Nat.mul_zero] at count
    exact absurd count Nat.card_pos.ne'
  have odd : copies ≠ 2 := by
    intro two
    apply card_points_odd
    rw [count, two]
    exact Nat.dvd_mul_left 2 order
  have one : copies = 1 := by omega
  rw [count, one, Nat.mul_one]

theorem smul_eq_zero_iff (n : Nat) (P : curve.Point) (nonzero : P ≠ 0) :
    n • P = 0 ↔ order ∣ n := by
  have divides : addOrderOf P ∣ order := card_points ▸ addOrderOf_dvd_natCard P
  rcases (Nat.dvd_prime order_prime).mp divides with one | whole
  · exact absurd (AddMonoid.addOrderOf_eq_one_iff.mp one) nonzero
  · rw [← addOrderOf_dvd_iff_nsmul_eq_zero, whole]

end TradeWire.Curve
