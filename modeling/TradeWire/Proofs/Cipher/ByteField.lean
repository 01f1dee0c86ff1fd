import Mathlib.Algebra.GroupWithZero.Nat
import Mathlib.Logic.Function.Iterate
import TradeWire.Cipher.Aes
/-! The bytes as the field in which the block cipher calculates: sums are exclusive or. Maps that
keep sums agree if they agree on single bits, so that the laws of the product need few cases. The
power with exponent 256 is one of these maps, and leaves every byte as it is. -/

namespace TradeWire.Aes

theorem forall_byte (P : UInt8 → Prop) (all : ∀ n < 256, P (UInt8.ofNat n)) (x : UInt8) : P x := by
  have found := all x.toNat x.toNat_lt
  rwa [UInt8.ofNat_toNat] at found

theorem and_xor (x y mask : UInt8) : (x ^^^ y) &&& mask = (x &&& mask) ^^^ (y &&& mask) := by
  apply UInt8.toNat_inj.mp
  simp only [UInt8.toNat_and, UInt8.toNat_xor, Nat.and_xor_distrib_right]

def KeepsSums (f : UInt8 → UInt8) : Prop := ∀ x y, f (x ^^^ y) = f x ^^^ f y

def bits : List UInt8 := [1, 2, 4, 8, 16, 32, 64, 128]

theorem sum_bits : ∀ x, (bits.map (x &&& ·)).foldr (· ^^^ ·) 0 = x :=
  forall_byte _ (by decide +kernel)

theorem and_bit : ∀ x, ∀ bit ∈ bits, x &&& bit = 0 ∨ x &&& bit = bit :=
  forall_byte _ (by decide +kernel)

namespace KeepsSums

theorem const_zero : KeepsSums fun _ => 0 := fun _ _ => (UInt8.xor_self).symm

theorem id : KeepsSums fun x => x := fun _ _ => rfl

theorem pick (bit : UInt8) (single : bit ∈ bits) (value : UInt8) :
    KeepsSums fun x => if x &&& bit = bit then value else 0 := by
  have nonzero : (0 : UInt8) ≠ bit := by
    intro zero
    subst zero
    exact absurd single (by decide)
  intro x y
  simp only [and_xor]
  rcases and_bit x bit single with noneX | setX <;> rcases and_bit y bit single with noneY | setY
  · simp [noneX, noneY, nonzero]
  · simp [noneX, setY, nonzero]
  · simp [setX, noneY, nonzero]
  · simp [setX, setY, nonzero]

variable {f g : UInt8 → UInt8} (keeps : KeepsSums f) (alsoKeeps : KeepsSums g)

include keeps

theorem zero : f 0 = 0 := by
  have doubled := keeps 0 0
  rwa [UInt8.xor_self, UInt8.xor_self] at doubled

theorem sum (terms : List UInt8) :
    f (terms.foldr (· ^^^ ·) 0) = (terms.map f).foldr (· ^^^ ·) 0 := by
  induction terms with
  | nil => exact keeps.zero
  | cons term terms ih => rw [List.foldr_cons, keeps, ih, List.map_cons, List.foldr_cons]

include alsoKeeps

theorem comp : KeepsSums fun x => f (g x) :=
  fun x y => (congrArg f (alsoKeeps x y)).trans (keeps (g x) (g y))

theorem add : KeepsSums fun x => f x ^^^ g x := by
  intro x y
  simp only [keeps x y, alsoKeeps x y]
  ac_rfl

theorem eq_of_bits (same : ∀ bit ∈ bits, f bit = g bit) (x : UInt8) : f x = g x := by
  have parts : (bits.map (x &&& ·)).map f = (bits.map (x &&& ·)).map g := by
    rw [List.map_map, List.map_map]
    apply List.map_congr_left
    intro bit member
    rcases and_bit x bit member with none | set
    · simp only [Function.comp_apply, none, keeps.zero, alsoKeeps.zero]
    · simp only [Function.comp_apply, set, same bit member]
  calc
    f x = f ((bits.map (x &&& ·)).foldr (· ^^^ ·) 0) := by rw [sum_bits]
    _ = g ((bits.map (x &&& ·)).foldr (· ^^^ ·) 0) := by rw [keeps.sum, alsoKeeps.sum, parts]
    _ = g x := by rw [sum_bits]

end KeepsSums

theorem double_eq (x : UInt8) : double x = x <<< 1 ^^^ if x &&& 128 = 128 then 27 else 0 := by
  rw [double]
  rcases and_bit x 128 (by decide) with none | set
  · simp [none]
  · simp [set]

theorem keepsSums_double : KeepsSums double := by
  have shifts : KeepsSums (· <<< 1) := fun _ _ => UInt8.shiftLeft_xor
  rw [funext double_eq]
  exact shifts.add (.pick 128 (by decide) 27)

theorem keepsSums_mulBits (count : Nat) (y : UInt8) : KeepsSums (mulBits count · y) := by
  induction count generalizing y with
  | zero => exact .const_zero
  | succ count ih =>
      have first : KeepsSums fun x => if y &&& 1 = 1 then x else 0 := by
        split
        · exact .id
        · exact .const_zero
      exact first.add ((ih (y >>> 1)).comp keepsSums_double)

theorem keepsSums_mulBits_right (count : Nat) (x : UInt8) : KeepsSums (mulBits count x) := by
  induction count generalizing x with
  | zero => exact .const_zero
  | succ count ih =>
      have shifts : KeepsSums (· >>> 1) := fun _ _ => UInt8.shiftRight_xor
      exact (KeepsSums.pick 1 (by decide) x).add ((ih (double x)).comp shifts)

theorem double_mulBits (count : Nat) (x y : UInt8) :
    double (mulBits count x y) = mulBits count (double x) y := by
  induction count generalizing x y with
  | zero => exact keepsSums_double.zero
  | succ count ih =>
      rw [mulBits, mulBits, keepsSums_double, ih]
      split
      · rfl
      · rw [keepsSums_double.zero]

theorem forall_bits (P : UInt8 → Prop) (one : P 1) (doubles : ∀ x, P x → P (double x)) :
    ∀ bit ∈ bits, P bit := by
  have powers : bits = (List.range 8).map fun place => double^[place] 1 := rfl
  have all (place : Nat) : P (double^[place] 1) := by
    induction place with
    | zero => exact one
    | succ place ih =>
        rw [Function.iterate_succ_apply']
        exact doubles _ ih
  intro bit member
  rw [powers, List.mem_map] at member
  obtain ⟨place, -, rfl⟩ := member
  exact all place

section Product

variable (x y z : UInt8)

theorem keepsSums_mul : KeepsSums (mul · y) := keepsSums_mulBits 8 y

theorem keepsSums_mul_right : KeepsSums (mul x) := keepsSums_mulBits_right 8 x

theorem add_mul : mul (x ^^^ y) z = mul x z ^^^ mul y z := keepsSums_mul z x y

theorem mul_add : mul x (y ^^^ z) = mul x y ^^^ mul x z := keepsSums_mul_right x y z

theorem double_mul : double (mul x y) = mul (double x) y := double_mulBits 8 x y

theorem mul_one : mul x 1 = x := by
  rw [mul, mulBits, if_pos (by decide), show (1 : UInt8) >>> 1 = 0 from rfl,
    (keepsSums_mulBits_right 7 _).zero, UInt8.xor_zero]

theorem mul_double : mul x (double y) = double (mul x y) := by
  apply ((keepsSums_mul_right x).comp keepsSums_double).eq_of_bits
    (keepsSums_double.comp (keepsSums_mul_right x))
  intro bit member
  apply ((keepsSums_mul (double bit))).eq_of_bits (keepsSums_double.comp (keepsSums_mul bit))
  -- Both sides double with the other factor, so that one is the only one left to be tried.
  apply forall_bits
  · simp only [bits, List.mem_cons, List.not_mem_nil, or_false] at member
    rcases member with rfl | rfl | rfl | rfl | rfl | rfl | rfl | rfl <;> rfl
  · intro x same
    rw [← double_mul, same, ← double_mul]

theorem one_mul : mul 1 x = x := by
  apply (keepsSums_mul_right 1).eq_of_bits .id
  apply forall_bits
  · exact mul_one 1
  · intro x same
    rw [mul_double, same]

theorem mul_comm : mul x y = mul y x := by
  apply (keepsSums_mul_right x).eq_of_bits (keepsSums_mul x)
  apply forall_bits
  · rw [mul_one, one_mul]
  · intro y same
    rw [mul_double, same, double_mul]

theorem mul_assoc : mul (mul x y) z = mul x (mul y z) := by
  apply (keepsSums_mul_right _).eq_of_bits ((keepsSums_mul_right x).comp (keepsSums_mul_right y))
  apply forall_bits
  · rw [mul_one, mul_one]
  · intro z same
    rw [mul_double, same, mul_double, mul_double]

end Product

def power (x : UInt8) : Nat → UInt8
  | 0 => 1
  | exponent + 1 => mul x (power x exponent)

theorem power_one (x : UInt8) : power x 1 = x := mul_one x

theorem power_add (x : UInt8) (m n : Nat) : power x (m + n) = mul (power x m) (power x n) := by
  induction m with
  | zero => rw [Nat.zero_add, power, one_mul]
  | succ m ih => rw [Nat.succ_add, power, ih, power, mul_assoc]

theorem power_mul (x : UInt8) (m n : Nat) : power (power x m) n = power x (m * n) := by
  induction n with
  | zero => rfl
  | succ n ih => rw [power, ih, ← power_add, Nat.mul_succ, Nat.add_comm]

theorem square_power (x : UInt8) (n : Nat) : square (power x n) = power x (n + n) := by
  rw [square, power_add]

theorem inverse_eq (x : UInt8) : inverse x = power x 254 := by
  have squared : square x = power x 2 := by
    rw [← square_power x 1, power_one]
  simp only [inverse, squared, square_power, ← power_add]

/-- In a sum that is squared the mixed products cancel. -/
theorem keepsSums_square : KeepsSums square := by
  intro x y
  calc
    mul (x ^^^ y) (x ^^^ y) = mul x x ^^^ mul x y ^^^ (mul y x ^^^ mul y y) := by
      rw [add_mul, mul_add, mul_add]
    _ = mul x x ^^^ mul y y ^^^ (mul x y ^^^ mul x y) := by
      rw [mul_comm y x]
      ac_rfl
    _ = square x ^^^ square y := by rw [UInt8.xor_self, UInt8.xor_zero, square, square]

theorem keepsSums_squares (count : Nat) : KeepsSums square^[count] := by
  induction count with
  | zero => exact .id
  | succ count ih => exact ih.comp keepsSums_square

theorem squares_eq (count : Nat) (x : UInt8) : square^[count] x = power x (2 ^ count) := by
  induction count with
  | zero => exact (power_one x).symm
  | succ count ih =>
      rw [Function.iterate_succ_apply', ih, square_power, Nat.pow_succ, Nat.mul_two]

theorem power_size (x : UInt8) : power x 256 = x := by
  have same : ∀ bit ∈ bits, square^[8] bit = bit := by decide +kernel
  calc
    power x 256 = square^[8] x := (squares_eq 8 x).symm
    _ = x := (keepsSums_squares 8).eq_of_bits KeepsSums.id same x

theorem power_period (x : UInt8) (turns : Nat) : power x (1 + 255 * turns) = x := by
  induction turns with
  | zero => exact power_one x
  | succ turns ih =>
      calc
        power x (1 + 255 * (turns + 1)) = mul (power x (1 + 255 * turns)) (power x 255) := by
          rw [← power_add, Nat.mul_succ, Nat.add_assoc]
        _ = power x 256 := by rw [ih]; rfl
        _ = x := power_size x

theorem inverse_inverse (x : UInt8) : inverse (inverse x) = x := by
  rw [inverse_eq, inverse_eq, power_mul]
  exact power_period x 253

end TradeWire.Aes
