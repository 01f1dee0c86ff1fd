import TradeWire.Bytes.Hex
import TradeWire.Proofs.Number
/-! Hex texts: bytes come back from theirs, and a run of hex digits says one number, whether it is
read as bytes or as a number. -/

namespace TradeWire

namespace Bytes

def IsHexRun (chars : List Char) : Prop := ∀ c ∈ chars, (nibble? c).isSome

instance (chars : List Char) : Decidable (IsHexRun chars) :=
  decidable_of_iff (chars.all fun c => (nibble? c).isSome) List.all_eq_true

def nibble (c : Char) : Nat := (nibble? c).getD 0

theorem nibble?_of_isSome (c : Char) (digit : (nibble? c).isSome) :
    nibble? c = some (nibble c) := by
  rcases Option.isSome_iff_exists.mp digit with ⟨value, found⟩
  rw [nibble, found, Option.getD_some]

theorem nibble_bounds (c : Char) (value : Nat) (found : nibble? c = some value) :
    48 ≤ c.toNat ∧ c.toNat ≤ 57 ∧ value = c.toNat - 48 ∨
      97 ≤ c.toNat ∧ c.toNat ≤ 102 ∧ value = c.toNat - 87 ∨
        65 ≤ c.toNat ∧ c.toNat ≤ 70 ∧ value = c.toNat - 55 := by
  simp only [nibble?] at found
  split at found
  · cases found
    omega
  split at found
  · cases found
    omega
  split at found
  · cases found
    omega
  · cases found

theorem nibble_hexDigit (d : Nat) (small : d < 16) : nibble? (Text.hexDigit d) = some d := by
  revert d
  decide

theorem isAsciiBlank_of_nibble (c : Char) (value : Nat) (found : nibble? c = some value) :
    Text.isAsciiBlank c = false := by
  have bounds := nibble_bounds c value found
  simp only [Text.isAsciiBlank, Bool.or_eq_false_iff, Bool.and_eq_false_iff,
    decide_eq_false_iff_not, beq_eq_false_iff_ne]
  omega

theorem readHex_cons (c d : Char) (high low : Nat) (rest : List Char)
    (first : nibble? c = some high) (second : nibble? d = some low) :
    readHex? (c :: d :: rest) = (readHex? rest).map (UInt8.ofNat (high * 16 + low) :: ·) := by
  rw [readHex?, isAsciiBlank_of_nibble c high first, if_neg Bool.false_ne_true]
  simp only [first, second, Option.bind_eq_bind, Option.bind_some]
  cases readHex? rest <;> rfl

theorem readHex_toHex (bytes : Bytes) : readHex? bytes.toHex.toList = some bytes := by
  rw [toHex, String.toList_ofList]
  induction bytes with
  | nil => rfl
  | cons byte bytes ih =>
      have small := byte.toNat_lt
      have high := nibble_hexDigit (byte.toNat / 16 % 16) (Nat.mod_lt _ (by decide))
      have low := nibble_hexDigit (byte.toNat % 16) (Nat.mod_lt _ (by decide))
      have whole : byte.toNat / 16 % 16 * 16 + byte.toNat % 16 = byte.toNat := by omega
      have digits : Text.fixedHex 2 byte.toNat =
          [Text.hexDigit (byte.toNat / 16 % 16), Text.hexDigit (byte.toNat % 16)] := rfl
      rw [List.flatMap_cons, digits, List.cons_append, List.cons_append, List.nil_append,
        readHex_cons _ _ _ _ _ high low, ih, whole, UInt8.ofNat_toNat]
      rfl

theorem isHexRun_toHex (bytes : Bytes) : IsHexRun bytes.toHex.toList := by
  intro c member
  rw [toHex, String.toList_ofList, List.mem_flatMap] at member
  rcases member with ⟨byte, _, digit⟩
  simp only [Text.fixedHex, List.nil_append, List.mem_append, List.mem_singleton] at digit
  rcases digit with rfl | rfl
  · rw [nibble_hexDigit _ (Nat.mod_lt _ (by decide))]
    rfl
  · rw [nibble_hexDigit _ (Nat.mod_lt _ (by decide))]
    rfl

theorem toNat_append_byte (bytes : Bytes) (byte : UInt8) :
    toNat (bytes ++ [byte]) = toNat bytes * 256 + byte.toNat := by
  rw [toNat, List.foldl_append]
  rfl

theorem toNat_ofNat (width n : Nat) (small : n < 256 ^ width) : toNat (ofNat width n) = n := by
  induction width generalizing n with
  | zero =>
      rw [Nat.pow_zero] at small
      rw [Nat.lt_one_iff.mp small]
      rfl
  | succ width ih =>
      have front : n / 256 < 256 ^ width := by
        rw [Nat.pow_succ] at small
        exact Nat.div_lt_of_lt_mul (Nat.mul_comm _ _ ▸ small)
      have last : (UInt8.ofNat (n % 256)).toNat = n % 256 := by
        rw [UInt8.toNat_ofNat', Nat.mod_mod]
      rw [ofNat, toNat_append_byte, ih _ front, last]
      omega

theorem toNat_two_nibbles (c d : Char) (high low : Nat) (first : nibble? c = some high)
    (second : nibble? d = some low) : (UInt8.ofNat (high * 16 + low)).toNat = high * 16 + low := by
  have highBounds := nibble_bounds c high first
  have lowBounds := nibble_bounds d low second
  rw [UInt8.toNat_ofNat', Nat.mod_eq_of_lt (by omega)]

/-- In a run of hex digits no blank is skipped: two digits are one byte. The value of what stands in
front is carried along. -/
theorem foldl_of_readHex (chars : List Char) (run : IsHexRun chars) (bytes : Bytes)
    (read : readHex? chars = some bytes) (front : Nat) :
    chars.length = 2 * bytes.length ∧
      (chars.map nibble).foldl (fun value digit => value * 16 + digit) front =
        bytes.foldl (fun value byte => value * 256 + byte.toNat) front := by
  induction chars using List.twoStepInduction generalizing bytes front with
  | nil =>
      cases read
      exact ⟨rfl, rfl⟩
  | singleton c =>
      have digit := nibble?_of_isSome c (run c List.mem_cons_self)
      rw [readHex?, isAsciiBlank_of_nibble c _ digit, if_neg Bool.false_ne_true] at read
      cases read
  | cons_cons c d rest ih _ =>
      have high := nibble?_of_isSome c (run c (by simp))
      have low := nibble?_of_isSome d (run d (by simp))
      rw [readHex_cons _ _ _ _ rest high low, Option.map_eq_some_iff] at read
      rcases read with ⟨more, read, rfl⟩
      have others := ih (fun e member => run e (by simp [member])) more read
        ((front * 16 + nibble c) * 16 + nibble d)
      have byte := toNat_two_nibbles c d _ _ high low
      have value : front * 256 + (nibble c * 16 + nibble d) =
          (front * 16 + nibble c) * 16 + nibble d := by omega
      constructor
      · rw [List.length_cons, List.length_cons, others.1, List.length_cons]
        omega
      · rw [List.map_cons, List.map_cons, List.foldl_cons, List.foldl_cons, List.foldl_cons, byte,
          value, others.2]

end Bytes

namespace Number

open Bytes (nibble nibble? IsHexRun)

theorem hexDigit_of_nibble (c : Char) (value : Nat) (found : nibble? c = some value) :
    hexDigit? c = some value := by
  simp only [hexDigit?]
  rcases Bytes.nibble_bounds c value found with
    ⟨low, high, rfl⟩ | ⟨low, high, rfl⟩ | ⟨low, high, rfl⟩
  · have digit : c.isDigit := by
      simp only [Char.isDigit, Bool.and_eq_true, decide_eq_true_eq, UInt32.le_iff_toNat_le]
      exact ⟨low, high⟩
    rw [if_neg (by omega), if_neg (by omega)]
    exact Text.decimalDigit_of_isDigit c digit
  · rw [if_pos ⟨low, high⟩]
  · rw [if_neg (by omega), if_pos ⟨low, high⟩]

theorem isMargin_of_nibble (c : Char) (value : Nat) (found : nibble? c = some value) :
    isMargin c = false := by
  have bounds := Bytes.nibble_bounds c value found
  simp only [isMargin, Text.isAsciiBlank, Bool.or_eq_false_iff, Bool.and_eq_false_iff,
    decide_eq_false_iff_not, beq_eq_false_iff_ne]
  omega

theorem dropHexMark_of_run (chars : List Char) (run : IsHexRun chars) :
    dropHexMark chars = chars := by
  match chars, run with
  | [], _ => rfl
  | [_], _ => rfl
  | zero :: mark :: rest, run =>
      have digit : (nibble? mark).isSome := run mark (by simp)
      have noMark : ¬(Text.decimalDigit? zero = some 0 ∧ (mark = 'x' ∨ mark = 'X')) := by
        rintro ⟨_, rfl | rfl⟩
        · exact absurd digit (by decide)
        · exact absurd digit (by decide)
      simp only [dropHexMark, if_neg noMark]

theorem splitSign_of_run (chars : List Char) (run : IsHexRun chars) :
    splitSign chars = (false, chars) := by
  cases chars with
  | nil => rfl
  | cons c chars =>
      have digit : (nibble? c).isSome := run c (by simp)
      apply splitSign_of_ne
      · rintro rfl
        exact absurd digit (by decide)
      · rintro rfl
        exact absurd digit (by decide)

theorem readHex_of_run (chars : List Char) (nonempty : chars ≠ []) (run : IsHexRun chars) :
    readHex? chars = some ((ofDigits 16 (chars.map nibble) : Nat) : Int) := by
  have digit : ∀ c ∈ chars, nibble? c = some (nibble c) :=
    fun c member => Bytes.nibble?_of_isSome c (run c member)
  have trimmed : Text.trimBoth isMargin chars = chars := by
    apply Text.trimBoth_eq_self
    exact fun c member => isMargin_of_nibble c _ (digit c member)
  have digits : digitRun hexDigit? chars = some (chars.map nibble) := by
    apply digitRun_eq_map hexDigit? nibble (by decide) chars nonempty
    exact fun c member => hexDigit_of_nibble c _ (digit c member)
  simp only [readHex?, trimmed, splitSign_of_run chars run, dropHexMark_of_run chars run, digits]
  rfl

theorem readHex_of_bytes (chars : List Char) (run : IsHexRun chars) (bytes : Bytes)
    (nonempty : bytes ≠ []) (read : Bytes.readHex? chars = some bytes) :
    readHex? chars = some (bytes.toNat : Int) := by
  have same := (Bytes.foldl_of_readHex chars run bytes read 0).2
  have digits : chars ≠ [] := by
    rintro rfl
    cases read
    exact nonempty rfl
  rw [readHex_of_run chars digits run, ofDigits, same]
  rfl

end Number

end TradeWire
