import TradeWire.Bytes.Base64
import TradeWire.Bytes.Utf8
/-! Texts come back from their bytes, and bytes from their base64 text. -/

namespace TradeWire.Bytes

theorem toByteArray_ofText (text : String) : (ofText text).toByteArray = text.toByteArray := by
  apply ByteArray.ext
  simp [ofText, List.data_toByteArray]

theorem toText_ofText (text : String) : (ofText text).toText? = some text := by
  rw [toText?, toByteArray_ofText, String.fromUTF8?, dif_pos text.isValidUTF8]
  rfl

theorem ofText_toText (bytes : Bytes) (text : String) (read : bytes.toText? = some text) :
    bytes = ofText text := by
  rw [toText?, String.fromUTF8?] at read
  split at read
  · cases read
    simp [ofText, String.fromUTF8, List.data_toByteArray]
  · cases read

theorem ofText_eq (text : String) : ofText text = text.toList.flatMap String.utf8EncodeChar := by
  have encoded : text.toByteArray = text.toList.utf8Encode := String.utf8Encode_toList.symm
  rw [ofText, String.toUTF8_eq_toByteArray, encoded, List.utf8Encode, List.data_toByteArray]

theorem ofNat_eq (byte : UInt8) (n : Nat) (same : n = byte.toNat) : UInt8.ofNat n = byte := by
  rw [same, UInt8.ofNat_toNat]

theorem length_ofNat (width n : Nat) : (ofNat width n).length = width := by
  induction width generalizing n with
  | zero => rfl
  | succ width ih => rw [ofNat, List.length_append, ih, List.length_singleton]

theorem ofNat_two (n : Nat) :
    ofNat 2 n = [UInt8.ofNat (n / 256 % 256), UInt8.ofNat (n % 256)] := rfl

theorem ofNat_two_toNat (high low : UInt8) :
    ofNat 2 (high.toNat * 256 + low.toNat) = [high, low] := by
  have := low.toNat_lt
  have := high.toNat_lt
  have first : (high.toNat * 256 + low.toNat) / 256 % 256 = high.toNat := by omega
  have second : (high.toNat * 256 + low.toNat) % 256 = low.toNat := by omega
  rw [ofNat_two, first, second, UInt8.ofNat_toNat, UInt8.ofNat_toNat]

theorem xor_xor (data stream : Bytes) (long : data.length ≤ stream.length) :
    (data.xor stream).xor stream = data := by
  induction data generalizing stream with
  | nil => rfl
  | cons byte data ih =>
      cases stream with
      | nil => cases long
      | cons mask stream =>
          have others := ih stream (by simpa using long)
          simp only [xor, List.zipWith_cons_cons] at others ⊢
          rw [others, UInt8.xor_assoc, UInt8.xor_self, UInt8.xor_zero]

theorem length_xor (one other : Bytes) (count : Nat) (oneLong : one.length = count)
    (otherLong : other.length = count) : (one.xor other).length = count := by
  rw [xor, List.length_zipWith, oneLong, otherLong, Nat.min_self]

section Pieces

variable (size : Nat)

theorem length_pieces (count : Nat) (bytes : Bytes) (enough : size * count ≤ bytes.length) :
    (pieces size count bytes).length = count ∧
      ∀ piece ∈ pieces size count bytes, piece.length = size := by
  induction count generalizing bytes with
  | zero => simp [pieces]
  | succ count ih =>
      rw [Nat.mul_succ] at enough
      have others := ih (bytes.drop size) (by rw [List.length_drop]; omega)
      rw [pieces, List.length_cons, others.1, List.forall_mem_cons]
      exact ⟨rfl, List.length_take_of_le (by omega), others.2⟩

theorem flatten_pieces (count : Nat) (bytes : Bytes) (whole : bytes.length = size * count) :
    (pieces size count bytes).flatten = bytes := by
  induction count generalizing bytes with
  | zero => exact (List.length_eq_zero_iff.mp whole).symm
  | succ count ih =>
      rw [Nat.mul_succ] at whole
      rw [pieces, List.flatten_cons, ih _ (by rw [List.length_drop]; omega), List.take_append_drop]

theorem split_eq (count : Nat) (bytes : Bytes) (positive : 0 < size)
    (whole : bytes.length = size * count) : bytes.split size = pieces size count bytes := by
  have rounded : (bytes.length + size - 1) / size = count := by
    rw [whole, Nat.add_sub_assoc positive, Nat.mul_add_div positive,
      Nat.div_eq_of_lt (Nat.sub_lt positive Nat.one_pos), Nat.add_zero]
  rw [split, rounded]

end Pieces

namespace Base64

theorem value_symbol (n : Nat) (small : n < 64) : value? (symbol n) = some n := by
  revert n
  decide

theorem symbol_ne_fill (n : Nat) (small : n < 64) : symbol n ≠ '=' := by
  revert n
  decide

def sextets : Bytes → List Nat
  | [] => []
  | [a] => [a.toNat / 4, a.toNat % 4 * 16]
  | [a, b] => [a.toNat / 4, a.toNat % 4 * 16 + b.toNat / 16, b.toNat % 16 * 4]
  | a :: b :: c :: rest =>
      a.toNat / 4 :: (a.toNat % 4 * 16 + b.toNat / 16) :: (b.toNat % 16 * 4 + c.toNat / 64) ::
        c.toNat % 64 :: sextets rest

def fillOf (bytes : Bytes) : Nat := (3 - bytes.length % 3) % 3

theorem encode_eq (bytes : Bytes) :
    encode bytes = (sextets bytes).map symbol ++ List.replicate (fillOf bytes) '=' := by
  fun_induction encode bytes with
  | case1 => rfl
  | case2 a => rfl
  | case3 a b => rfl
  | case4 a b c rest ih =>
      have same : fillOf (a :: b :: c :: rest) = fillOf rest := by
        simp only [fillOf, List.length_cons]
        omega
      rw [ih, same]
      rfl

theorem sextets_lt (bytes : Bytes) : ∀ n ∈ sextets bytes, n < 64 := by
  fun_induction sextets bytes with
  | case1 => simp
  | case2 a =>
      have := a.toNat_lt
      simp
      omega
  | case3 a b =>
      have := a.toNat_lt
      have := b.toNat_lt
      simp
      omega
  | case4 a b c rest ih =>
      have := a.toNat_lt
      have := b.toNat_lt
      have := c.toNat_lt
      simp only [List.forall_mem_cons]
      exact ⟨by omega, by omega, by omega, by omega, ih⟩

theorem length_sextets (bytes : Bytes) : (sextets bytes).length = (4 * bytes.length + 2) / 3 := by
  fun_induction sextets bytes with
  | case1 => rfl
  | case2 a => simp
  | case3 a b => simp
  | case4 a b c rest ih =>
      simp only [List.length_cons, ih]
      omega

theorem regroup_sextets (bytes : Bytes) : regroup (sextets bytes) = bytes := by
  fun_induction sextets bytes with
  | case1 => rfl
  | case2 a =>
      have first : a.toNat / 4 * 4 + a.toNat % 4 * 16 / 16 = a.toNat := by omega
      rw [regroup, ofNat_eq a _ first]
  | case3 a b =>
      have := b.toNat_lt
      have first : a.toNat / 4 * 4 + (a.toNat % 4 * 16 + b.toNat / 16) / 16 = a.toNat := by omega
      have second : (a.toNat % 4 * 16 + b.toNat / 16) % 16 * 16 + b.toNat % 16 * 4 / 4 =
          b.toNat := by omega
      rw [regroup, ofNat_eq a _ first, ofNat_eq b _ second]
  | case4 a b c rest ih =>
      have := b.toNat_lt
      have := c.toNat_lt
      have first : a.toNat / 4 * 4 + (a.toNat % 4 * 16 + b.toNat / 16) / 16 = a.toNat := by omega
      have second : (a.toNat % 4 * 16 + b.toNat / 16) % 16 * 16 +
          (b.toNat % 16 * 4 + c.toNat / 64) / 4 = b.toNat := by omega
      have third : (b.toNat % 16 * 4 + c.toNat / 64) % 4 * 64 + c.toNat % 64 = c.toNat := by omega
      rw [regroup, ofNat_eq a _ first, ofNat_eq b _ second, ofNat_eq c _ third, ih]

theorem mapM_value (values : List Nat) (small : ∀ n ∈ values, n < 64) :
    (values.map symbol).mapM value? = some values := by
  induction values with
  | nil => rfl
  | cons n values ih =>
      rw [List.forall_mem_cons] at small
      simp [value_symbol n small.1, ih small.2]

theorem fillOk_fillOf (bytes : Bytes) : fillOk (sextets bytes).length (fillOf bytes) := by
  rw [length_sextets, fillOf]
  have remainder : bytes.length % 3 = 0 ∨ bytes.length % 3 = 1 ∨ bytes.length % 3 = 2 := by omega
  rcases remainder with none | one | two
  · have whole : (4 * bytes.length + 2) / 3 % 4 = 0 := by omega
    simp [fillOk, whole, none]
  · have short : (4 * bytes.length + 2) / 3 % 4 = 2 := by omega
    simp [fillOk, short, one]
  · have short : (4 * bytes.length + 2) / 3 % 4 = 3 := by omega
    simp [fillOk, short, two]

theorem decode_symbols (bytes : Bytes) (fill : Nat)
    (accepted : fillOk (sextets bytes).length fill) :
    decode? ((sextets bytes).map symbol ++ List.replicate fill '=') = some bytes := by
  have symbols : ∀ c ∈ (sextets bytes).map symbol, c ≠ '=' := by
    intro c member
    rcases List.mem_map.mp member with ⟨n, inside, rfl⟩
    exact symbol_ne_fill n (sextets_lt bytes n inside)
  have front : ((sextets bytes).map symbol ++ List.replicate fill '=').takeWhile (· ≠ '=') =
      (sextets bytes).map symbol := by
    rw [List.takeWhile_append_of_pos (by simpa using symbols)]
    simp
  have back : ((sextets bytes).map symbol ++ List.replicate fill '=').dropWhile (· ≠ '=') =
      List.replicate fill '=' := by
    rw [List.dropWhile_append_of_pos (by simpa using symbols)]
    simp
  have fillAccepted : fillOk ((sextets bytes).map symbol).length
      (List.replicate fill '=').length := by
    simpa using accepted
  simp only [decode?, front, back, fillAccepted, mapM_value _ (sextets_lt bytes),
    Option.map_some, regroup_sextets]
  simp

theorem decode_encode (bytes : Bytes) : decode? (encode bytes) = some bytes := by
  rw [encode_eq]
  exact decode_symbols bytes _ (fillOk_fillOf bytes)

theorem decode_encode_fill (bytes : Bytes) (fill : Nat) (groups : bytes.length % 3 = 0)
    (nonempty : bytes ≠ []) : decode? (encode bytes ++ List.replicate fill '=') = some bytes := by
  have none : fillOf bytes = 0 := by
    rw [fillOf]
    omega
  have positive := List.length_pos_iff.mpr nonempty
  have whole : (4 * bytes.length + 2) / 3 % 4 = 0 := by omega
  have some : (4 * bytes.length + 2) / 3 ≠ 0 := by omega
  rw [encode_eq, none, List.replicate_zero, List.append_nil]
  apply decode_symbols
  simp [fillOk, length_sextets, whole, some]

theorem length_encode (bytes : Bytes) : (encode bytes).length = 4 * ((bytes.length + 2) / 3) := by
  rw [encode_eq]
  simp only [List.length_append, List.length_map, List.length_replicate, length_sextets, fillOf]
  omega

end Base64

end TradeWire.Bytes
