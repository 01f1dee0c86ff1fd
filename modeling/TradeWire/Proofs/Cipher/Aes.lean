import Mathlib.Data.List.Basic
import Mathlib.Data.List.Induction
import TradeWire.Proofs.Bytes
import TradeWire.Proofs.Cipher.ByteField
/-! Blocks, and data that are chained block by block, come back from their encrypted form. -/

namespace TradeWire

namespace Aes

section Bytewise

/-- The turned sums of a byte and of its turned sum undo each other. -/
theorem turned_sums : ∀ y : UInt8,
    let sum :=
      y ^^^ rotateByte y 1 ^^^ rotateByte y 2 ^^^ rotateByte y 3 ^^^ rotateByte y 4 ^^^ 0x63
    rotateByte sum 1 ^^^ rotateByte sum 3 ^^^ rotateByte sum 6 ^^^ 0x05 = y :=
  forall_byte _ (by decide +kernel)

theorem unsubstitute_substitute (x : UInt8) : unsubstitute (substitute x) = x :=
  (congrArg inverse (turned_sums (inverse x))).trans (inverse_inverse x)

theorem substituteByte_eq (x : UInt8) : substituteByte x = substitute x := by
  have inside : x.toNat < 256 := x.toNat_lt
  simp [substituteByte, substitutes, Array.getD, inside]

theorem unsubstituteByte_eq (x : UInt8) : unsubstituteByte x = unsubstitute x := by
  have inside : x.toNat < 256 := x.toNat_lt
  simp [unsubstituteByte, unsubstitutes, Array.getD, inside]

theorem unsubstitute_block (block : Bytes) :
    (block.map substituteByte).map unsubstituteByte = block := by
  rw [List.map_map]
  apply List.map_id''
  intro x
  rw [Function.comp_apply, substituteByte_eq, unsubstituteByte_eq, unsubstitute_substitute]

end Bytewise

section Columns

variable (a b c d : UInt8)

/-- The first byte of a column that is mixed and mixed back: the weights of the other three bytes
cancel. -/
theorem unmix_first :
    mul (mul a 2 ^^^ mul b 3 ^^^ mul c 1 ^^^ mul d 1) 14 ^^^
      mul (mul a 1 ^^^ mul b 2 ^^^ mul c 3 ^^^ mul d 1) 11 ^^^
      mul (mul a 1 ^^^ mul b 1 ^^^ mul c 2 ^^^ mul d 3) 13 ^^^
      mul (mul a 3 ^^^ mul b 1 ^^^ mul c 1 ^^^ mul d 2) 9 = a := by
  have one : mul 2 14 ^^^ mul 1 11 ^^^ mul 1 13 ^^^ mul 3 9 = 1 := rfl
  have second : mul 3 14 ^^^ mul 2 11 ^^^ mul 1 13 ^^^ mul 1 9 = 0 := rfl
  have third : mul 1 14 ^^^ mul 3 11 ^^^ mul 2 13 ^^^ mul 1 9 = 0 := rfl
  have fourth : mul 1 14 ^^^ mul 1 11 ^^^ mul 3 13 ^^^ mul 2 9 = 0 := rfl
  calc
    _ = mul a (mul 2 14 ^^^ mul 1 11 ^^^ mul 1 13 ^^^ mul 3 9) ^^^
        mul b (mul 3 14 ^^^ mul 2 11 ^^^ mul 1 13 ^^^ mul 1 9) ^^^
        mul c (mul 1 14 ^^^ mul 3 11 ^^^ mul 2 13 ^^^ mul 1 9) ^^^
        mul d (mul 1 14 ^^^ mul 1 11 ^^^ mul 3 13 ^^^ mul 2 9) := by
      simp only [add_mul, mul_add, mul_assoc]
      ac_rfl
    _ = a := by
      simp only [one, second, third, fourth, mul_one, (keepsSums_mul_right _).zero, UInt8.xor_zero]

end Columns

theorem unmixColumns_mixColumns : (block : Bytes) → block.length % 4 = 0 →
    unmixColumns (mixColumns block) = block
  | [] => fun _ => rfl
  | [_] | [_, _] | [_, _, _] => fun whole => by cases whole
  | a :: b :: c :: d :: rest => by
      intro whole
      have others := unmixColumns_mixColumns rest (by simp only [List.length_cons] at whole; omega)
      simp only [mixColumns, unmixColumns, mixWith] at others ⊢
      -- Behind the first byte the column is turned.
      congr 1
      · exact unmix_first a b c d
      congr 1
      · refine Eq.trans ?_ (unmix_first b c d a)
        ac_rfl
      congr 1
      · refine Eq.trans ?_ (unmix_first c d a b)
        ac_rfl
      congr 1
      refine Eq.trans ?_ (unmix_first d a b c)
      ac_rfl

theorem length_mixColumns : (block : Bytes) → block.length % 4 = 0 →
    (mixColumns block).length = block.length
  | [] => fun _ => rfl
  | [_] | [_, _] | [_, _, _] => fun whole => by cases whole
  | a :: b :: c :: d :: rest => by
      intro whole
      have others := length_mixColumns rest (by simp only [List.length_cons] at whole; omega)
      rw [mixColumns, mixWith, List.length_cons, List.length_cons, List.length_cons,
        List.length_cons]
      exact congrArg (· + 4) others

section Places

theorem permute_permute (outer inner : List Nat) (block : Bytes)
    (inside : ∀ place ∈ outer, place < inner.length) :
    permute outer (permute inner block) = permute (outer.map (inner.getD · 0)) block := by
  rw [permute, permute, permute, List.map_map]
  apply List.map_congr_left
  intro place member
  have bound := inside place member
  simp [List.getD_eq_getElem?_getD, bound]

theorem permute_range (block : Bytes) : permute (List.range block.length) block = block := by
  apply List.ext_getElem
  · simp [permute]
  · intro place _ inside
    simp [permute, inside]

theorem unshiftRows_shiftRows (block : Bytes) (whole : block.length = 16) :
    unshiftRows (shiftRows block) = block := by
  have same := permute_range block
  rw [whole] at same
  calc
    unshiftRows (shiftRows block) = permute (List.range 16) block :=
      permute_permute _ _ block (by decide)
    _ = block := same

theorem length_shiftRows (block : Bytes) : (shiftRows block).length = 16 := by
  rw [shiftRows, permute, List.length_map]
  rfl

end Places

def IsBlock (bytes : Bytes) : Prop := bytes.length = 16

def turn (block : Bytes) : Bytes := shiftRows (block.map substituteByte)

def unturn (block : Bytes) : Bytes := (unshiftRows block).map unsubstituteByte

theorem isBlock_turn (block : Bytes) : IsBlock (turn block) := length_shiftRows _

theorem unturn_turn (block : Bytes) (whole : IsBlock block) : unturn (turn block) = block := by
  have substituted : (block.map substituteByte).length = 16 := by rw [List.length_map, whole]
  rw [turn, unturn, unshiftRows_shiftRows _ substituted, unsubstitute_block]

theorem isBlock_xor (block key : Bytes) (whole : IsBlock block) (keyed : IsBlock key) :
    IsBlock (block.xor key) :=
  Bytes.length_xor block key 16 whole keyed

theorem xor_xor (block key : Bytes) (whole : IsBlock block) (keyed : IsBlock key) :
    (block.xor key).xor key = block :=
  Bytes.xor_xor block key (Nat.le_of_eq (whole.trans keyed.symm))

theorem isBlock_mixed (block : Bytes) (whole : IsBlock block) : IsBlock (mixColumns block) := by
  rw [IsBlock, length_mixColumns block (by rw [whole]), whole]

def round (block key : Bytes) : Bytes := (mixColumns (turn block)).xor key

theorem isBlock_round (block key : Bytes) (keyed : IsBlock key) : IsBlock (round block key) :=
  isBlock_xor _ _ (isBlock_mixed _ (isBlock_turn block)) keyed

theorem encryptRounds_eq (keys : List Bytes) (last block : Bytes) :
    encryptRounds block (keys ++ [last]) = (turn (keys.foldl round block)).xor last := by
  induction keys generalizing block with
  | nil => rfl
  | cons key keys ih =>
      rw [List.cons_append, encryptRounds, ih]
      · rfl
      · simp

theorem decryptRounds_cons (key block : Bytes) (keys : List Bytes) (more : keys ≠ []) :
    decryptRounds block (key :: keys) =
      decryptRounds (unmixColumns ((unturn block).xor key)) keys := by
  rw [decryptRounds]
  · rfl
  · exact more

theorem decryptRounds_rounds (keys : List Bytes) (first block : Bytes) (whole : IsBlock block)
    (keyed : ∀ key ∈ keys, IsBlock key) :
    decryptRounds (turn (keys.foldl round block)) (keys.reverse ++ [first]) =
      block.xor first := by
  induction keys using List.reverseRecOn with
  | nil => exact congrArg (Bytes.xor · first) (unturn_turn block whole)
  | append_singleton keys key ih =>
      rw [List.forall_mem_append, List.forall_mem_singleton] at keyed
      obtain ⟨others, lastKeyed⟩ := keyed
      have turned := isBlock_turn (keys.foldl round block)
      have mixed := isBlock_mixed _ turned
      rw [List.foldl_append, List.reverse_append, List.reverse_singleton, List.singleton_append,
        List.cons_append, decryptRounds_cons _ _ _ (by simp), List.foldl_cons, List.foldl_nil,
        unturn_turn _ (isBlock_round _ _ lastKeyed), round, xor_xor _ _ mixed lastKeyed,
        unmixColumns_mixColumns _ (by rw [turned])]
      exact ih others

structure IsKeying (keys : List Bytes) : Prop where
  parts : 2 ≤ keys.length
  blocks : ∀ key ∈ keys, IsBlock key

namespace IsKeying

variable (keys : List Bytes) (keying : IsKeying keys)

include keying

theorem exists_parts : ∃ first between last, keys = first :: (between ++ [last]) ∧
    IsBlock first ∧ (∀ key ∈ between, IsBlock key) ∧ IsBlock last := by
  obtain ⟨parts, blocks⟩ := keying
  match keys with
  | first :: others =>
      obtain rfl | ⟨between, last, rfl⟩ := List.eq_nil_or_concat' others
      · simp at parts
      · simp only [List.forall_mem_cons, List.forall_mem_append] at blocks
        exact ⟨first, between, last, rfl, blocks.1, blocks.2.1, blocks.2.2.1⟩

theorem isBlock_encryptBlock (block : Bytes) : IsBlock (encryptBlock keys block) := by
  obtain ⟨first, between, last, rfl, -, -, keyed⟩ := keying.exists_parts
  rw [encryptBlock, List.tail_cons, encryptRounds_eq]
  exact isBlock_xor _ _ (isBlock_turn _) keyed

theorem decryptBlock_encryptBlock (block : Bytes) (whole : IsBlock block) :
    decryptBlock keys (encryptBlock keys block) = block := by
  obtain ⟨first, between, last, rfl, firstKeyed, betweenKeyed, lastKeyed⟩ := keying.exists_parts
  have entered := isBlock_xor block first whole firstKeyed
  have backward :
      (first :: (between ++ [last])).reverse = last :: (between.reverse ++ [first]) := by
    simp
  rw [decryptBlock, backward, List.headD_cons, List.tail_cons, encryptBlock, List.headD_cons,
    List.tail_cons, encryptRounds_eq, xor_xor _ _ (isBlock_turn _) lastKeyed,
    decryptRounds_rounds _ _ _ entered betweenKeyed, xor_xor block first whole firstKeyed]

theorem length_chainEncrypt (before : Bytes) (blocks : List Bytes) :
    (chainEncrypt keys before blocks).length = 16 * blocks.length := by
  induction blocks generalizing before with
  | nil => rfl
  | cons block blocks ih =>
      have encrypted := keying.isBlock_encryptBlock keys (block.xor before)
      rw [chainEncrypt, List.length_append, encrypted, ih, List.length_cons, Nat.mul_succ,
        Nat.add_comm]

theorem chainDecrypt_chainEncrypt (before : Bytes) (blocks : List Bytes)
    (start : IsBlock before) (whole : ∀ block ∈ blocks, IsBlock block) :
    chainDecrypt keys before (Bytes.pieces 16 blocks.length (chainEncrypt keys before blocks)) =
      blocks.flatten := by
  induction blocks generalizing before with
  | nil => rfl
  | cons block blocks ih =>
      rw [List.forall_mem_cons] at whole
      have encrypted := keying.isBlock_encryptBlock keys (block.xor before)
      have opened :=
        keying.decryptBlock_encryptBlock keys _ (isBlock_xor block before whole.1 start)
      rw [chainEncrypt, List.length_cons, Bytes.pieces, List.take_left' encrypted,
        List.drop_left' encrypted, chainDecrypt, opened, xor_xor block before whole.1 start,
        ih _ encrypted whole.2, List.flatten_cons]

end IsKeying

section Schedule

structure IsSchedule (words : Array Bytes) (count : Nat) : Prop where
  size : words.size = count
  even : ∀ word ∈ words.toList, word.length = 4

theorem IsSchedule.length_getD (words : Array Bytes) (count index : Nat)
    (regular : IsSchedule words count) (inside : index < count) :
    (words.getD index []).length = 4 := by
  have bound : index < words.size := regular.size ▸ inside
  rw [Array.getD, dif_pos bound]
  exact regular.even _ (Array.getElem_mem_toList bound)

theorem length_nextWord (words : Array Bytes) (count : Nat) (mark : UInt8)
    (regular : IsSchedule words count) (enough : 8 ≤ count) :
    (nextWord words mark).length = 4 := by
  have before := regular.length_getD words count (count - 1) (by omega)
  have early := regular.length_getD words count (count - 8) (by omega)
  rw [nextWord]
  simp only [regular.size]
  apply Bytes.length_xor _ _ _ early
  split
  · apply Bytes.length_xor
    · simp only [List.length_map, List.length_append, List.length_drop, List.length_take, before]
      rfl
    · rfl
  split
  · rw [List.length_map, before]
  · exact before

theorem IsSchedule.push (words : Array Bytes) (count : Nat) (mark : UInt8)
    (regular : IsSchedule words count) (enough : 8 ≤ count) :
    IsSchedule (words.push (nextWord words mark)) (count + 1) where
  size := by rw [Array.size_push, regular.size]
  even := by
    rw [Array.toList_push, List.forall_mem_append, List.forall_mem_singleton]
    exact ⟨regular.even, length_nextWord words count mark regular enough⟩

def extend (state : Array Bytes × UInt8) : Array Bytes × UInt8 :=
  (state.1.push (nextWord state.1 state.2),
    if state.1.size % 8 = 0 then double state.2 else state.2)

theorem isSchedule_extend (start : Array Bytes × UInt8) (regular : IsSchedule start.1 8)
    (more : Nat) :
    IsSchedule ((List.range more).foldl (fun state _ => extend state) start).1 (8 + more) := by
  induction more with
  | zero => exact regular
  | succ more ih =>
      rw [List.range_succ, List.foldl_append, List.foldl_cons, List.foldl_nil]
      exact ih.push _ _ _ (Nat.le_add_right 8 more)

theorem isSchedule_schedule (key : Bytes) (whole : key.length = 32) :
    IsSchedule (schedule key) 60 := by
  obtain ⟨count, even⟩ := Bytes.length_pieces 4 8 key (Nat.le_of_eq whole.symm)
  have start : IsSchedule (Bytes.pieces 4 8 key).toArray 8 := ⟨count, even⟩
  exact isSchedule_extend ((Bytes.pieces 4 8 key).toArray, 1) start 52

theorem isKeying_roundKeys (key : Bytes) (whole : key.length = 32) : IsKeying (roundKeys key) := by
  have regular := isSchedule_schedule key whole
  have lengths : (schedule key).toList.map List.length = List.replicate 60 4 := by
    apply List.eq_replicate_iff.mpr
    simpa [regular.size] using regular.even
  have total : (schedule key).toList.flatten.length = 240 := by
    rw [List.length_flatten, lengths]
    rfl
  obtain ⟨count, even⟩ := Bytes.length_pieces 16 15 _ (Nat.le_of_eq total.symm)
  refine ⟨?_, even⟩
  rw [roundKeys, count]
  decide

end Schedule

section Fill

theorem length_fill (data : Bytes) : (fill data).length = 16 * (data.length / 16 + 1) := by
  simp only [fill, List.length_append, List.length_replicate]
  omega

theorem unfill_fill (data : Bytes) : unfill? (fill data) = some data := by
  have bounds : 1 ≤ 16 - data.length % 16 ∧ 16 - data.length % 16 ≤ 16 := by omega
  generalize counted : 16 - data.length % 16 = count at bounds
  have filled : fill data = data ++ List.replicate count (UInt8.ofNat count) := by
    rw [← counted, fill]
  have number : (UInt8.ofNat count).toNat = count := by
    rw [UInt8.toNat_ofNat']
    omega
  have ending : (fill data).getLastD 0 = UInt8.ofNat count := by
    have some : count ≠ 0 := Nat.pos_iff_ne_zero.mp bounds.1
    rw [filled, List.getLastD_eq_getLast?, List.getLast?_append, List.getLast?_replicate,
      if_neg some]
    rfl
  have tail : (fill data).last count = List.replicate count (UInt8.ofNat count) := by
    rw [filled, Bytes.last]
    exact List.drop_left' (by simp)
  have front : (fill data).take ((fill data).length - count) = data := by
    rw [filled]
    exact List.take_left' (by simp)
  have accepted : 1 ≤ count ∧ count ≤ 16 ∧ count ≤ (fill data).length ∧
      ((fill data).last count).all fun byte => byte.toNat == count := by
    refine ⟨bounds.1, bounds.2, ?_, ?_⟩
    · rw [filled, List.length_append, List.length_replicate]
      exact Nat.le_add_left _ _
    · rw [tail]
      simp [number]
  simp only [unfill?, ending, number]
  rw [if_pos accepted, front]

end Fill

theorem exists_encrypted (key iv data : Bytes) (whole : key.length = 32) (start : iv.length = 16) :
    ∃ encrypted, encrypt? key iv data = some encrypted ∧ decrypt? key iv encrypted = some data := by
  have keying := isKeying_roundKeys key whole
  have length := length_fill data
  let blocks := Bytes.pieces 16 (data.length / 16 + 1) (fill data)
  have split : (fill data).split 16 = blocks := Bytes.split_eq 16 _ _ (by decide) length
  obtain ⟨count, even⟩ := Bytes.length_pieces 16 _ (fill data) (Nat.le_of_eq length.symm)
  have joined := Bytes.flatten_pieces 16 _ (fill data) length
  have size := keying.length_chainEncrypt _ iv blocks
  have divided := Bytes.split_eq 16 _ _ (by decide) size
  refine ⟨chainEncrypt (roundKeys key) iv blocks, ?_, ?_⟩
  · rw [encrypt?, if_pos start, split]
  · rw [decrypt?, if_pos ⟨start, by rw [size, Nat.mul_mod_right]⟩, divided,
      keying.chainDecrypt_chainEncrypt _ iv blocks start even, joined, unfill_fill]

end Aes

end TradeWire
