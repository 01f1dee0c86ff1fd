import Mathlib.Algebra.GroupWithZero.Nat
import Mathlib.Order.Bounds.Basic
import TradeWire.Cipher.Nip44
/-! The lengths of padded texts: one to eight chunks, each of 32 bytes doubled some number of times.
A text is padded to the least of them that holds it; from this come how lengths grow with texts and
what a second padding does. How much of a padded text is filling depends on the chunks. -/

namespace TradeWire.Nip44

def chunkSize (size : Nat) : Nat :=
  if 2 ^ bitLength (size - 1) ≤ 256 then 32 else 2 ^ bitLength (size - 1) / 8

/-- One to eight chunks, each of 32 bytes doubled some number of times. -/
def IsPaddedLength (length : Nat) : Prop :=
  ∃ chunks doublings, 1 ≤ chunks ∧ chunks ≤ 8 ∧ length = 32 * 2 ^ doublings * chunks

theorem bitLength_le_iff (n width : Nat) : bitLength n ≤ width ↔ n < 2 ^ width := by
  rw [bitLength]
  split
  · subst n
    exact iff_of_true (Nat.zero_le width) (Nat.two_pow_pos width)
  · rename_i positive
    exact Nat.succ_le_iff.trans (Nat.log2_lt positive)

/-- Chunks are doubled until eight of them hold the text: eight do, and if there was a doubling,
eight of half the size do not. -/
theorem chunkSize_eq (size : Nat) :
    ∃ doublings, chunkSize size = 32 * 2 ^ doublings ∧ size ≤ 8 * chunkSize size ∧
      (doublings = 0 ∨ 4 * chunkSize size < size) := by
  have below := (bitLength_le_iff (size - 1) _).mp (Nat.le_refl _)
  by_cases small : 2 ^ bitLength (size - 1) ≤ 256
  · have chunk : chunkSize size = 32 := if_pos small
    exact ⟨0, by rw [chunk]; rfl, by omega, Or.inl rfl⟩
  -- The power of two above the size is 512 or more: an eighth of it is 32 bytes, doubled.
  · have wide : 9 ≤ bitLength (size - 1) := by
      apply Nat.lt_of_not_le
      intro narrow
      exact small (Nat.pow_le_pow_right (by decide) narrow)
    rcases Nat.exists_eq_add_of_le wide with ⟨more, same⟩
    have above := mt (bitLength_le_iff (size - 1) (8 + more)).mpr (by omega)
    have chunk : chunkSize size = 32 * 2 ^ (more + 1) := by
      rw [chunkSize, if_neg small, same, Nat.pow_add, Nat.pow_succ]
      omega
    rw [same, Nat.pow_add] at below
    rw [Nat.pow_add] at above
    rw [Nat.pow_succ] at chunk
    exact ⟨more + 1, by rw [chunk, Nat.pow_succ], by omega, by omega⟩

theorem chunkSize_pos (size : Nat) : 0 < chunkSize size := by
  rcases chunkSize_eq size with ⟨doublings, chunk, _, _⟩
  have := Nat.two_pow_pos doublings
  omega

theorem paddedLength_eq (size : Nat) :
    paddedLength size = chunkSize size * ((size - 1) / chunkSize size + 1) := by
  by_cases small : size ≤ 32
  · have narrow : bitLength (size - 1) ≤ 8 := (bitLength_le_iff _ _).mpr (by omega)
    have chunk : chunkSize size = 32 := if_pos (Nat.pow_le_pow_right (by decide) narrow)
    have one : (size - 1) / 32 = 0 := Nat.div_eq_of_lt (by omega)
    rw [paddedLength, if_pos small, chunk, one]
  · simp [paddedLength, chunkSize, small]

theorem le_paddedLength (size : Nat) : size ≤ paddedLength size := by
  have below := Nat.lt_mul_div_succ (size - 1) (chunkSize_pos size)
  rw [paddedLength_eq]
  omega

theorem paddedLength_le_chunk (size : Nat) : paddedLength size ≤ size - 1 + chunkSize size := by
  have whole := Nat.mul_div_le (size - 1) (chunkSize size)
  rw [paddedLength_eq, Nat.mul_succ]
  exact Nat.add_le_add_right whole _

theorem isPaddedLength_paddedLength (size : Nat) : IsPaddedLength (paddedLength size) := by
  rcases chunkSize_eq size with ⟨doublings, chunk, enough, _⟩
  have positive := chunkSize_pos size
  have eighths : (size - 1) / chunkSize size < 8 := Nat.div_lt_of_lt_mul (by omega)
  refine ⟨(size - 1) / chunkSize size + 1, doublings, Nat.le_add_left _ _, eighths, ?_⟩
  rw [← chunk, ← paddedLength_eq]

theorem IsPaddedLength.pos {length : Nat} (padded : IsPaddedLength length) : 0 < length := by
  rcases padded with ⟨chunks, doublings, some, _, rfl⟩
  exact Nat.mul_pos (Nat.mul_pos (by decide) (Nat.two_pow_pos doublings)) some

theorem IsPaddedLength.dvd {length : Nat} (padded : IsPaddedLength length) : 32 ∣ length := by
  rcases padded with ⟨chunks, doublings, _, _, rfl⟩
  rw [Nat.mul_assoc]
  exact Nat.dvd_mul_right 32 _

theorem paddedLength_le_of_dvd (size length : Nat) (positive : 0 < length) (holds : size ≤ length)
    (whole : chunkSize size ∣ length) : paddedLength size ≤ length := by
  rcases whole with ⟨count, rfl⟩
  have fewer : (size - 1) / chunkSize size < count := Nat.div_lt_of_lt_mul (by omega)
  rw [paddedLength_eq]
  exact Nat.mul_le_mul_left _ fewer

/-- A text is padded to the least length that holds it. Lengths of smaller chunks are no choice:
eight of those do not hold the text. -/
theorem paddedLength_isLeast (size : Nat) :
    IsLeast {length | IsPaddedLength length ∧ size ≤ length} (paddedLength size) := by
  refine ⟨⟨isPaddedLength_paddedLength size, le_paddedLength size⟩, ?_⟩
  rintro length ⟨padded, holds⟩
  apply paddedLength_le_of_dvd size length padded.pos holds
  rcases padded with ⟨chunks, doublings, _, few, rfl⟩
  rcases chunkSize_eq size with ⟨needed, chunk, _, filled⟩
  by_cases coarse : needed ≤ doublings
  · rw [chunk]
    exact Nat.dvd_mul_right_of_dvd (Nat.mul_dvd_mul_left 32 (Nat.pow_dvd_pow 2 coarse)) chunks
  · have doubled : 2 ^ (doublings + 1) ≤ 2 ^ needed := Nat.pow_le_pow_right (by decide) (by omega)
    have most : 32 * 2 ^ doublings * chunks ≤ 32 * 2 ^ doublings * 8 := Nat.mul_le_mul_left _ few
    rw [Nat.pow_succ] at doubled
    omega

theorem paddedLength_monotone : Monotone paddedLength := by
  intro small large below
  refine (paddedLength_isLeast large).mono (paddedLength_isLeast small) ?_
  rintro length ⟨padded, holds⟩
  exact ⟨padded, Nat.le_trans below holds⟩

theorem paddedLength_of_padded {length : Nat} (padded : IsPaddedLength length) :
    paddedLength length = length :=
  Nat.le_antisymm ((paddedLength_isLeast length).2 ⟨padded, Nat.le_refl _⟩) (le_paddedLength length)

/-- Less than 32 bytes are filling, or less than a quarter of the size. -/
theorem filling_lt (size : Nat) (positive : 1 ≤ size) :
    4 * (paddedLength size - size) < max 128 size := by
  have filling := paddedLength_le_chunk size
  rcases chunkSize_eq size with ⟨doublings, chunk, _, rfl | filled⟩ <;> omega

theorem min_le_paddedLength (size : Nat) : 32 ≤ paddedLength size :=
  Nat.le_of_dvd (isPaddedLength_paddedLength size).pos (isPaddedLength_paddedLength size).dvd

theorem isPaddedLength_largest : IsPaddedLength 65536 := ⟨8, 8, by decide, by decide, rfl⟩

theorem paddedLength_le (size : Nat) (fits : size ≤ maxPlaintext) : paddedLength size ≤ 65536 :=
  (paddedLength_isLeast size).2 ⟨isPaddedLength_largest, Nat.le_succ_of_le fits⟩

theorem chunkSize_le (size : Nat) (fits : size ≤ maxPlaintext) : chunkSize size ≤ 8192 := by
  rw [maxPlaintext] at fits
  rcases chunkSize_eq size with ⟨doublings, chunk, _, rfl | filled⟩
  · omega
  · have small : 2 ^ doublings < 2 ^ 9 := by omega
    have few := (Nat.pow_lt_pow_iff_right (by decide)).mp small
    have : 2 ^ doublings ≤ 2 ^ 8 := Nat.pow_le_pow_right (by decide) (by omega)
    omega

theorem paddedLength_le_add (size : Nat) (fits : size ≤ maxPlaintext) :
    paddedLength size ≤ size + 8192 := by
  have filling := paddedLength_le_chunk size
  have chunk := chunkSize_le size fits
  omega

/-- Every text is padded to the least padded length that holds it. This is a multiple of 32, it
grows with the text and a second padding keeps it; no text that may be encrypted comes to more than
65536 bytes, and less than 32 bytes, or less than a quarter of the text, are filling. -/
theorem paddedLength_exact :
    Monotone paddedLength ∧
      ∀ size, IsLeast {length | IsPaddedLength length ∧ size ≤ length} (paddedLength size) ∧
        32 ∣ paddedLength size ∧ size ≤ paddedLength size ∧
        paddedLength (paddedLength size) = paddedLength size ∧
        (size ≤ 65535 → paddedLength size ≤ 65536) ∧
        (1 ≤ size → 4 * (paddedLength size - size) < max 128 size) := by
  refine ⟨paddedLength_monotone, fun size => ?_⟩
  have padded := isPaddedLength_paddedLength size
  exact ⟨paddedLength_isLeast size, padded.dvd, le_paddedLength size, paddedLength_of_padded padded,
    paddedLength_le size, filling_lt size⟩

/-- The first text for which a chunk grows to 256 bytes. -/
theorem paddedLength_exact_afterDoubling :
    paddedLength 1025 = 1280 ∧ 1024 ≤ 1025 ∧ paddedLength 1024 ≤ paddedLength 1025 ∧
      1025 ≤ 65535 ∧ paddedLength 1025 ≤ 65536 ∧
      1 ≤ 1025 ∧ 4 * (paddedLength 1025 - 1025) < max 128 1025 := by
  rcases paddedLength_exact.2 1025 with ⟨_, _, _, _, bounded, filling⟩
  have grows : 1024 ≤ 1025 := by decide
  exact ⟨by decide, grows, paddedLength_exact.1 grows, by decide, bounded (by decide), by decide,
    filling (by decide)⟩

example : [1, 32, 33, 65, 100, 200, 320, 515, 1020].map paddedLength =
    [32, 32, 64, 96, 128, 224, 320, 640, 1024] := by decide

end TradeWire.Nip44
