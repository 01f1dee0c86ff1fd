import Mathlib.Data.List.Prime
import Mathlib.NumberTheory.LucasPrimality
import Mathlib.Tactic.NormNum.Prime
import TradeWire.Curve.Point
/-! The modulus of the coordinates and the order of the generator are primes, by Lucas's test: a
base whose powers tell it, and the prime factors of one less, each tested in the same way. -/

namespace TradeWire.Curve

theorem powMod_eq (modulus base exponent : Nat) :
    powMod modulus base exponent = base ^ exponent % modulus := by
  fun_induction powMod modulus base exponent with
  | case1 base => rw [Nat.pow_zero]
  | case2 base exponent positive half odd ih =>
      have split : exponent = 2 * (exponent / 2) + 1 := by omega
      have squared : half = base ^ (2 * (exponent / 2)) % modulus := by
        rw [Nat.pow_mul, Nat.pow_two, Nat.pow_mod]
        exact ih
      rw [squared, Nat.mod_mul_mod, ← Nat.pow_succ, Nat.succ_eq_add_one, ← split]
  | case3 base exponent positive half even ih =>
      have split : 2 * (exponent / 2) = exponent := by omega
      have squared : half = base ^ (2 * (exponent / 2)) % modulus := by
        rw [Nat.pow_mul, Nat.pow_two, Nat.pow_mod]
        exact ih
      rw [squared, split]

/-- A number, a base, and the prime factors of the number before it. -/
structure Certificate where
  number : Nat
  base : Nat
  factors : List Nat

namespace Certificate

def passes (known : List Nat) (certificate : Certificate) : Bool :=
  let before := certificate.number - 1
  certificate.factors.prod + 1 == certificate.number &&
    powMod certificate.number certificate.base before == 1 &&
    certificate.factors.all fun factor =>
      known.contains factor && powMod certificate.number certificate.base (before / factor) != 1

def allPass : List Nat → List Certificate → Bool
  | _, [] => true
  | known, first :: rest => first.passes known && allPass (first.number :: known) rest

theorem cast_pow_eq_one (n base exponent : Nat) (large : 1 < n) :
    (base : ZMod n) ^ exponent = 1 ↔ powMod n base exponent = 1 := by
  rw [powMod_eq, ← Nat.cast_pow, ← Nat.cast_one, ZMod.natCast_eq_natCast_iff',
    Nat.mod_eq_of_lt large]

theorem prime_of_passes (known : List Nat) (certificate : Certificate)
    (primes : ∀ q ∈ known, q.Prime) (passed : certificate.passes known) :
    certificate.number.Prime := by
  simp only [passes, Bool.and_eq_true, beq_iff_eq, List.all_eq_true, List.contains_iff_mem,
    bne_iff_ne] at passed
  rcases passed with ⟨⟨product, full⟩, parts⟩
  have factorsPrime : ∀ q ∈ certificate.factors, q.Prime :=
    fun q member => primes q (parts q member).1
  have large : 1 < certificate.number := by
    have positive : 0 < certificate.factors.prod :=
      List.prod_pos fun q member => (factorsPrime q member).pos
    omega
  apply lucas_primality certificate.number (certificate.base : ZMod certificate.number)
  · exact (cast_pow_eq_one _ _ _ large).mpr full
  · intro q prime divides
    have known : q ∈ certificate.factors := by
      apply (mem_list_primes_of_dvd_prod prime.prime ?_ ?_)
      · exact fun factor member => (factorsPrime factor member).prime
      · rwa [← product, Nat.add_sub_cancel] at divides
    rw [ne_eq, cast_pow_eq_one _ _ _ large]
    exact (parts q known).2

theorem prime_of_allPass (known : List Nat) (certificates : List Certificate)
    (primes : ∀ q ∈ known, q.Prime) (passed : allPass known certificates) :
    ∀ certificate ∈ certificates, certificate.number.Prime := by
  induction certificates generalizing known with
  | nil => simp
  | cons first rest ih =>
      rw [allPass, Bool.and_eq_true] at passed
      have prime := prime_of_passes known first primes passed.1
      rw [List.forall_mem_cons]
      refine ⟨prime, ih _ ?_ passed.2⟩
      rw [List.forall_mem_cons]
      exact ⟨prime, primes⟩

end Certificate

def smallFactors : List Nat := [2, 3, 5, 7, 11, 13, 17, 23, 29, 31, 41, 53, 59, 109, 149, 293, 461,
  631, 797, 971, 1373, 1627, 2621, 2657, 4051, 4423, 5323, 7723, 9349, 13441, 16699, 24809, 28181,
  41201, 85831, 96557, 120233, 305873, 1627771, 4681609, 7240687]

def primeCertificate : Certificate :=
  ⟨prime, 3, [2, 3, 7, 13441,
    205115282021455665897114700593932402728804164701536103180137503955397371]⟩

def orderCertificate : Certificate :=
  ⟨order, 7, [2, 2, 2, 2, 2, 2, 3, 149, 631, 107361793816595537, 174723607534414371449,
    341948486974166000522343609283189]⟩

def certificates : List Certificate := [
  ⟨13331831, 13, [2, 5, 971, 1373]⟩,
  ⟨173378833005251801, 6, [2, 2, 2, 5, 5, 2621, 24809, 13331831]⟩,
  ⟨22149492674086928081353, 5, [2, 2, 2, 3, 5323, 173378833005251801]⟩,
  ⟨132896956044521568488119, 6, [2, 3, 22149492674086928081353]⟩,
  ⟨107590001, 3, [2, 2, 2, 2, 5, 5, 5, 5, 7, 29, 53]⟩,
  ⟨255515944373312847190720520512484175977, 3,
    [2, 2, 2, 7, 7, 11, 1627, 2657, 4423, 41201, 96557, 7240687, 107590001]⟩,
  ⟨205115282021455665897114700593932402728804164701536103180137503955397371, 10,
    [2, 3, 5, 29, 29, 31, 7723, 132896956044521568488119,
      255515944373312847190720520512484175977]⟩,
  primeCertificate,
  ⟨107361793816595537, 3, [2, 2, 2, 2, 16699, 85831, 4681609]⟩,
  ⟨44706919, 6, [2, 3, 797, 9349]⟩,
  ⟨174723607534414371449, 3, [2, 2, 2, 17, 59, 4051, 120233, 44706919]⟩,
  ⟨545358713, 5, [2, 2, 2, 41, 59, 28181]⟩,
  ⟨297159362677, 2, [2, 2, 3, 3, 11, 461, 1627771]⟩,
  ⟨29047611873442575647497758179, 2, [2, 293, 305873, 545358713, 297159362677]⟩,
  ⟨341948486974166000522343609283189, 2, [2, 2, 3, 3, 3, 109, 29047611873442575647497758179]⟩,
  orderCertificate]

theorem smallFactors_prime : ∀ q ∈ smallFactors, q.Prime := by
  simp only [smallFactors, List.forall_mem_cons]
  norm_num

theorem certificates_pass : Certificate.allPass smallFactors certificates := by
  decide +kernel

theorem certificates_prime : ∀ certificate ∈ certificates, certificate.number.Prime :=
  Certificate.prime_of_allPass smallFactors certificates smallFactors_prime certificates_pass

theorem prime_prime : prime.Prime :=
  certificates_prime primeCertificate (by simp [certificates])

theorem order_prime : order.Prime :=
  certificates_prime orderCertificate (by simp [certificates])

instance : Fact prime.Prime := ⟨prime_prime⟩

end TradeWire.Curve
