import TradeWire.Cipher.Nip04
import TradeWire.Proofs.Cipher.Nip44
import TradeWire.Proofs.Outcome
/-! The faults with which decrypting ends: those of a content, and one of a payload cut short. -/

namespace TradeWire

theorem Curve.sharedSecret_error (privateKey publicKey : String) (fault : ValueFault)
    (failed : sharedSecret privateKey publicKey = .error fault) : fault = .malformed := by
  rw [sharedSecret] at failed
  split at failed
  · cases failed
  · cases failed
    rfl

namespace Nip44

theorem conversationKey_error (privateKey publicKey : String) (fault : ValueFault)
    (failed : conversationKey privateKey publicKey = .error fault) : fault = .malformed := by
  rw [conversationKey, Except.bind_eq_error] at failed
  rcases failed with unshared | ⟨_, _, impossible⟩
  · exact Curve.sharedSecret_error _ _ _ unshared
  · cases impossible

theorem unpad_error (padded : Bytes) (fault : ValueFault) (failed : unpad padded = .error fault) :
    fault = .refused .padding ∨ fault = .cutShort ∧ padded.length < 2 := by
  unfold unpad at failed
  split at failed
  · simp only [] at failed
    split at failed
    · cases failed
      exact Or.inl rfl
    · cases failed
  · rename_i short
    cases failed
    right
    match padded, short with
    | [], _ => simp
    | [_], _ => simp
    | high :: low :: rest, short => exact absurd rfl (short high low rest)

theorem unpad_short (padded : Bytes) (short : padded.length < 2) :
    unpad padded = .error .cutShort := by
  match padded, short with
  | [], _ => rfl
  | [_], _ => rfl

/-- A payload of an accepted length whose hash is right, with no place for the size of a text. -/
def CutShort (key : Bytes) (payload : String) : Prop :=
  132 ≤ payload.toList.length ∧ payload.toList.length ≤ 87472 ∧
    ∃ data, Bytes.Base64.decode? payload.toList = some data ∧ data.headD 0 = 2 ∧
      data.length < 67 ∧ data.last 32 = macOf key ((data.drop 1).take 32) (data.between 33 32)

theorem unlock_error (key data : Bytes) (fault : ValueFault)
    (failed : unlock key data = .error fault) :
    fault.isContent ∨ fault = .cutShort ∧ data.headD 0 = 2 ∧ data.length < 67 ∧
      data.last 32 = macOf key ((data.drop 1).take 32) (data.between 33 32) := by
  simp only [unlock] at failed
  split at failed
  · cases failed
    exact Or.inl rfl
  rename_i version
  split at failed
  · cases failed
    exact Or.inl rfl
  rename_i hashed
  rcases unpad_error _ _ failed with rfl | ⟨rfl, short⟩
  · exact Or.inl rfl
  · right
    rw [ChaCha20.length_combine, Bytes.between, List.length_drop, List.length_take] at short
    refine ⟨rfl, UInt8.toNat_inj.mp (Decidable.of_not_not version), ?_,
      Decidable.of_not_not hashed⟩
    omega

theorem unlock_short (key data : Bytes) (version : data.headD 0 = 2) (short : data.length < 67)
    (hashed : data.last 32 = macOf key ((data.drop 1).take 32) (data.between 33 32)) :
    unlock key data = .error .cutShort := by
  have few : (data.between 33 32).length < 2 := by
    rw [Bytes.between, List.length_drop, List.length_take]
    omega
  rw [macOf] at hashed
  simp only [unlock, version, hashed]
  rw [if_neg (by decide), if_neg (by simp)]
  exact unpad_short _ (by rw [ChaCha20.length_combine]; exact few)

theorem decrypt_error (key : Bytes) (payload : String) (fault : ValueFault)
    (failed : decrypt key payload = .error fault) :
    fault.isContent ∨ fault = .cutShort ∧ CutShort key payload := by
  simp only [decrypt] at failed
  split at failed
  · cases failed
    exact Or.inl rfl
  split at failed
  · cases failed
    exact Or.inl rfl
  rename_i accepted
  split at failed
  · cases failed
    exact Or.inl rfl
  rename_i data decoded
  rcases (Except.bind_eq_error _ _ _).mp failed with locked | ⟨bytes, _, unread⟩
  · rcases unlock_error key data fault locked with content | ⟨rfl, version, short, hashed⟩
    · exact Or.inl content
    · exact Or.inr ⟨rfl, by omega, by omega, data, decoded, version, short, hashed⟩
  · split at unread
    · cases unread
    · cases unread
      exact Or.inl rfl

theorem decrypt_cutShort (key : Bytes) (payload : String) :
    decrypt key payload = .error .cutShort ↔ CutShort key payload := by
  constructor
  · intro failed
    rcases decrypt_error key payload _ failed with content | ⟨_, short⟩
    · cases content
    · exact short
  · intro found
    rcases found with ⟨enough, fits, data, decoded, version, short, hashed⟩
    rw [decrypt_of_decode key data payload enough fits decoded,
      unlock_short key data version short hashed]
    rfl

/-- Whoever knows a key can make a payload that is cut short under it: one encrypted byte, and
equals signs up to the least length. -/
theorem exists_cutShort (key : Bytes) : ∃ payload, CutShort key payload := by
  let nonce : Bytes := List.replicate 32 0
  let data : Bytes := 2 :: (nonce ++ ([0] ++ macOf key nonce [0]))
  have length : data.length = 66 := by
    simp only [data, nonce, List.length_cons, List.length_append, List.length_replicate,
      length_macOf, List.length_nil]
  let symbols := Bytes.Base64.encode data ++ List.replicate 44 '='
  have size : symbols.length = 132 := by
    rw [List.length_append, Bytes.Base64.length_encode, length, List.length_replicate]
  have decoded : Bytes.Base64.decode? symbols = some data :=
    Bytes.Base64.decode_encode_fill data 44 (by rw [length]) (List.cons_ne_nil _ _)
  have unlocked : unlock key data = .error .cutShort := by
    rw [unlock_parts key nonce [0] _ (List.length_replicate) (length_macOf _ _ _),
      if_neg (by simp)]
    exact unpad_short _ (by rw [cipherOf, ChaCha20.length_combine]; decide)
  refine ⟨String.ofList symbols, (decrypt_cutShort key _).mp ?_⟩
  rw [decrypt_of_decode key data _ (by simp [size]) (by simp [size]) (by simpa using decoded),
    unlocked]
  rfl

/-- A payload is opened, or has a fault of its content, exactly if it is not cut short. One that is
cut short has a fault of its own, and whoever knows a key can make one. -/
theorem decrypt_settled_iff (key : Bytes) (payload : String) :
    ((∃ text, decrypt key payload = .ok text) ∨
      (∃ fault, decrypt key payload = .error fault ∧ fault.isContent) ↔ ¬CutShort key payload) ∧
    (decrypt key payload = .error .cutShort ↔ CutShort key payload) ∧
    ∃ made, CutShort key made := by
  have short := decrypt_cutShort key payload
  refine ⟨?_, short, exists_cutShort key⟩
  rw [← short]
  cases decrypted : decrypt key payload with
  | ok text => simp
  | error fault =>
      rcases decrypt_error key payload fault decrypted with content | ⟨rfl, _⟩
      · have other : fault ≠ .cutShort := by
          intro same
          subst same
          cases content
        simp [content, other]
      · simp [ValueFault.isContent]

end Nip44

theorem Nip04.decrypt_error (privateKey publicKey content : String) (fault : ValueFault)
    (failed : decrypt privateKey publicKey content = .error fault) : fault.isContent := by
  rw [decrypt, decryptWith] at failed
  split at failed
  · cases failed
    rfl
  · rcases (Except.bind_eq_error _ _ _).mp failed with unshared | ⟨secret, _, unread⟩
    · rw [Curve.sharedSecret_error _ _ _ unshared]
      rfl
    · simp only [] at unread
      split at unread
      · cases unread
      · cases unread
        rfl

end TradeWire
