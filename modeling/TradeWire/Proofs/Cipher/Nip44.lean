import TradeWire.Proofs.Bytes
import TradeWire.Proofs.Cipher.Padding
/-! Encrypted texts come back, and only payloads with a right hash are opened. -/

namespace TradeWire

theorem Sha256.length_hash (message : Bytes) : (hash message).length = 32 := rfl

theorem Hmac.length_mac (key message : Bytes) : (mac key message).length = 32 := rfl

namespace ChaCha20

theorem length_flatMap_const {α β : Type} (items : List α) (pieces : α → List β) (size : Nat)
    (even : ∀ item ∈ items, (pieces item).length = size) :
    (items.flatMap pieces).length = items.length * size := by
  induction items with
  | nil => simp
  | cons item items ih =>
      rw [List.forall_mem_cons] at even
      rw [List.flatMap_cons, List.length_append, even.1, ih even.2, List.length_cons,
        Nat.succ_mul, Nat.add_comm]

theorem length_block (key nonce : Bytes) (counter : Nat) :
    (block key nonce counter).length = 64 := by
  rw [block, length_flatMap_const _ _ 4 (fun _ _ => rfl), Vector.length_toList]

theorem length_keystream (key nonce : Bytes) (size : Nat) :
    (keystream key nonce size).length = size := by
  rw [keystream, List.length_take,
    length_flatMap_const _ _ 64 (fun counter _ => length_block key nonce counter),
    List.length_range]
  omega

theorem length_combine (key nonce data : Bytes) :
    (combine key nonce data).length = data.length := by
  simp [combine, Bytes.xor, length_keystream]

theorem combine_combine (key nonce data : Bytes) :
    combine key nonce (combine key nonce data) = data := by
  have same := length_combine key nonce data
  rw [combine, same, combine]
  exact Bytes.xor_xor data _ (Nat.le_of_eq (length_keystream _ _ _).symm)

end ChaCha20

namespace Nip44

def macOf (key nonce encrypted : Bytes) : Bytes :=
  Hmac.mac (messageKeys key nonce).hashKey (nonce ++ encrypted)

theorem length_macOf (key nonce encrypted : Bytes) : (macOf key nonce encrypted).length = 32 :=
  Hmac.length_mac _ _

def cipherOf (key nonce data : Bytes) : Bytes :=
  ChaCha20.combine (messageKeys key nonce).cipherKey (messageKeys key nonce).cipherNonce data

theorem lock_eq (key nonce padded : Bytes) :
    lock key nonce padded = 2 :: (nonce ++ (cipherOf key nonce padded ++
      macOf key nonce (cipherOf key nonce padded))) := by
  simp [lock, cipherOf, macOf]

theorem unlock_parts (key nonce encrypted mac : Bytes) (whole : nonce.length = 32)
    (hashed : mac.length = 32) :
    unlock key (2 :: (nonce ++ (encrypted ++ mac))) =
      if mac ≠ macOf key nonce encrypted then .error (.refused .wrongMac)
      else unpad (cipherOf key nonce encrypted) := by
  have front : ((2 :: (nonce ++ (encrypted ++ mac))).drop 1).take 32 = nonce := by
    rw [List.drop_one, List.tail_cons, ← whole, List.take_left]
  have length : (2 :: (nonce ++ (encrypted ++ mac))).length = 33 + encrypted.length + 32 := by
    simp only [List.length_cons, List.length_append, whole, hashed]
    omega
  have parts : 2 :: (nonce ++ (encrypted ++ mac)) = (2 :: nonce) ++ encrypted ++ mac := by
    simp
  have back : Bytes.last 32 (2 :: (nonce ++ (encrypted ++ mac))) = mac := by
    rw [Bytes.last, length, Nat.add_sub_cancel, parts]
    exact List.drop_left' (by simp [whole]; omega)
  have middle : Bytes.between 33 32 (2 :: (nonce ++ (encrypted ++ mac))) = encrypted := by
    rw [Bytes.between, length, Nat.add_sub_cancel, parts,
      List.take_left' (by simp [whole]; omega)]
    exact List.drop_left' (by simp [whole])
  simp only [unlock, front, back, middle]
  rfl

theorem two_le_of_unpad (padded text : Bytes) (opened : unpad padded = .ok text) :
    2 ≤ padded.length := by
  match padded, opened with
  | [], opened => cases opened
  | [_], opened => cases opened
  | _ :: _ :: rest, _ => simp

theorem unlock_whole (key data text : Bytes) (opened : unlock key data = .ok text) :
    ∃ nonce encrypted, nonce.length = 32 ∧
      data = 2 :: (nonce ++ (encrypted ++ macOf key nonce encrypted)) ∧
        unpad (cipherOf key nonce encrypted) = .ok text := by
  simp only [unlock] at opened
  split at opened
  · cases opened
  rename_i version
  split at opened
  · cases opened
  rename_i hashed
  have length := two_le_of_unpad _ _ opened
  rw [ChaCha20.length_combine, Bytes.between, List.length_drop, List.length_take] at length
  cases data with
  | nil => cases length
  | cons first rest =>
      have first : first = 2 := UInt8.toNat_inj.mp (Decidable.of_not_not version)
      subst first
      rw [List.drop_one, List.tail_cons] at hashed opened
      rw [List.length_cons] at length
      refine ⟨rest.take 32, Bytes.between 33 32 (2 :: rest), ?_, ?_, opened⟩
      · rw [List.length_take]
        omega
      · have mac : macOf key (rest.take 32) (Bytes.between 33 32 (2 :: rest)) =
            rest.drop (rest.length - 32) := by
          rw [macOf, ← Decidable.of_not_not hashed, Bytes.last, List.length_cons,
            Nat.succ_sub (by omega), List.drop_succ_cons]
        have middle : Bytes.between 33 32 (2 :: rest) =
            (rest.take (rest.length - 32)).drop 32 := by
          rw [Bytes.between, List.length_cons, Nat.succ_sub (by omega), List.take_succ_cons,
            List.drop_succ_cons]
        have front : rest.take 32 = (rest.take (rest.length - 32)).take 32 := by
          rw [List.take_take, Nat.min_eq_left (by omega)]
        rw [mac, middle, front, ← List.append_assoc, List.take_append_drop,
          List.take_append_drop]

/-- A payload that a text has been locked in: its hash is right under the key. -/
def Holds (key : Bytes) (payload text : String) : Prop :=
  ∃ nonce encrypted, nonce.length = 32 ∧
    Bytes.Base64.decode? payload.toList =
      some (2 :: (nonce ++ (encrypted ++ macOf key nonce encrypted))) ∧
    unpad (cipherOf key nonce encrypted) = .ok (Bytes.ofText text)

theorem holds_of_decrypt (key : Bytes) (payload text : String)
    (opened : decrypt key payload = .ok text) : Holds key payload text := by
  simp only [decrypt] at opened
  split at opened
  · cases opened
  split at opened
  · cases opened
  split at opened
  · cases opened
  rename_i data decoded
  cases unlocked : unlock key data with
  | error fault =>
      rw [unlocked] at opened
      cases opened
  | ok bytes =>
      rw [unlocked] at opened
      simp only [bind, Except.bind] at opened
      split at opened
      · rename_i found read
        cases opened
        have same := Bytes.ofText_toText bytes text read
        subst same
        rcases unlock_whole key data _ unlocked with ⟨nonce, encrypted, whole, parts, unpadded⟩
        exact ⟨nonce, encrypted, whole, parts ▸ decoded, unpadded⟩
      · cases opened

theorem decode_hash (rest : List Char) : Bytes.Base64.decode? ('#' :: rest) = none := by
  have unknown : Bytes.Base64.value? '#' = none := rfl
  simp [Bytes.Base64.decode?, unknown]

def readText (bytes : Bytes) : Except ValueFault String :=
  match bytes.toText? with
  | some text => .ok text
  | none => .error .malformed

theorem decrypt_of_decode (key data : Bytes) (payload : String)
    (enough : 132 ≤ payload.toList.length) (fits : payload.toList.length ≤ 87472)
    (decoded : Bytes.Base64.decode? payload.toList = some data) :
    decrypt key payload = unlock key data >>= readText := by
  have marked : ¬(payload.toList.isEmpty || payload.toList.head? == some '#') := by
    cases symbols : payload.toList with
    | nil =>
        rw [symbols] at enough
        cases enough
    | cons c rest =>
        have noHash : c ≠ '#' := by
          intro same
          subst same
          rw [symbols, decode_hash] at decoded
          cases decoded
        simp [noHash]
  unfold decrypt
  simp only []
  rw [if_neg marked, if_neg (by omega), decoded]
  rfl

theorem decrypt_of_holds (key : Bytes) (payload text : String) (holds : Holds key payload text)
    (enough : 132 ≤ payload.toList.length) (fits : payload.toList.length ≤ 87472) :
    decrypt key payload = .ok text := by
  rcases holds with ⟨nonce, encrypted, whole, decoded, unpadded⟩
  have unlocked := unlock_parts key nonce encrypted _ whole (length_macOf key nonce encrypted)
  rw [if_neg (by simp), unpadded] at unlocked
  rw [decrypt_of_decode key _ payload enough fits decoded, unlocked]
  simp only [bind, Except.bind, readText, Bytes.toText_ofText]

theorem encrypt_eq_ok (key nonce : Bytes) (text payload : String)
    (done : encrypt key nonce text = .ok payload) :
    ∃ padded, pad (Bytes.ofText text) = .ok padded ∧
      payload = String.ofList (Bytes.Base64.encode (lock key nonce padded)) := by
  rw [encrypt] at done
  cases padded : pad (Bytes.ofText text) with
  | error fault =>
      rw [padded] at done
      cases done
  | ok bytes =>
      rw [padded] at done
      cases done
      exact ⟨bytes, rfl, rfl⟩

theorem encrypt_of_fits (key nonce : Bytes) (text : String)
    (filled : 1 ≤ (Bytes.ofText text).length)
    (fits : (Bytes.ofText text).length ≤ maxPlaintext) :
    ∃ padded, pad (Bytes.ofText text) = .ok padded ∧
      encrypt key nonce text =
        .ok (String.ofList (Bytes.Base64.encode (lock key nonce padded))) := by
  have padded := pad_eq _ filled fits
  refine ⟨_, padded, ?_⟩
  rw [encrypt, padded]
  rfl

theorem length_lock (key nonce padded : Bytes) (whole : nonce.length = 32) :
    (lock key nonce padded).length = 65 + padded.length := by
  rw [lock_eq, cipherOf]
  simp only [List.length_cons, List.length_append, whole, ChaCha20.length_combine,
    length_macOf]
  omega

theorem decrypt_encrypt (key nonce : Bytes) (text payload : String) (whole : nonce.length = 32)
    (done : encrypt key nonce text = .ok payload) : decrypt key payload = .ok text := by
  rcases encrypt_eq_ok key nonce text payload done with ⟨padded, filled, rfl⟩
  have size := pad_size _ _ filled
  have length : (Bytes.Base64.encode (lock key nonce padded)).length =
      4 * ((67 + paddedLength (Bytes.ofText text).length + 2) / 3) := by
    rw [Bytes.Base64.length_encode, length_lock key nonce padded whole, length_pad _ _ filled]
    omega
  have least := min_le_paddedLength (Bytes.ofText text).length
  have most := paddedLength_le _ size.2
  apply decrypt_of_holds
  · refine ⟨nonce, cipherOf key nonce padded, whole, ?_, ?_⟩
    · rw [String.toList_ofList, Bytes.Base64.decode_encode, lock_eq]
    · rw [cipherOf, cipherOf, ChaCha20.combine_combine]
      exact unpad_pad _ _ filled
  · rw [String.toList_ofList, length]
    omega
  · rw [String.toList_ofList, length]
    omega

theorem exists_payload (key : Bytes) (text : String) (nonempty : 1 ≤ (Bytes.ofText text).length)
    (fits : (Bytes.ofText text).length ≤ maxPlaintext) :
    ∃ payload, decrypt key payload = .ok text := by
  obtain ⟨padded, _, encrypted⟩ :=
    encrypt_of_fits key (List.replicate 32 0) text nonempty fits
  exact ⟨_, decrypt_encrypt key _ _ _ List.length_replicate encrypted⟩

end Nip44

end TradeWire
