import TradeWire.Proofs.Cipher.Nip44
/-! The form of encrypted texts: which texts can be encrypted, and which payloads are opened. -/

namespace TradeWire.Nip44

theorem length_of_decrypt (key : Bytes) (payload text : String)
    (opened : decrypt key payload = .ok text) :
    132 ≤ payload.length ∧ payload.length ≤ 87472 := by
  simp only [decrypt] at opened
  split at opened
  · cases opened
  split at opened
  · cases opened
  rename_i accepted
  rw [← String.length_toList]
  omega

/-- A payload is opened exactly if it has the form of one: base64 of an accepted length, of the
version, a nonce, an encrypted text and their right hash, where the encrypted text is a size, a text
of that size, and anything up to the padded length. -/
theorem decrypt_ok_iff (key : Bytes) (payload text : String) :
    decrypt key payload = .ok text ↔
      132 ≤ payload.length ∧ payload.length ≤ 87472 ∧
        ∃ nonce encrypted mac fill : Bytes, ∃ size : Nat,
          nonce.length = 32 ∧
          Bytes.Base64.decode? payload.toList = some ([2] ++ nonce ++ encrypted ++ mac) ∧
          mac = Hmac.mac (messageKeys key nonce).hashKey (nonce ++ encrypted) ∧
          ChaCha20.combine (messageKeys key nonce).cipherKey (messageKeys key nonce).cipherNonce
              encrypted = Bytes.ofNat 2 size ++ Bytes.ofText text ++ fill ∧
          1 ≤ size ∧ size < 65536 ∧ (Bytes.ofText text).length = size ∧
          fill.length = paddedLength size - size := by
  constructor
  · intro opened
    rcases length_of_decrypt key payload text opened with ⟨enough, fits⟩
    rcases holds_of_decrypt key payload text opened with
      ⟨nonce, encrypted, whole, decoded, unpadded⟩
    rcases frames_of_unpad _ _ unpadded with ⟨nonempty, small, fill, framed, filled⟩
    refine ⟨enough, fits, nonce, encrypted, macOf key nonce encrypted, fill, _, whole, ?_, rfl,
      framed, nonempty, Nat.lt_succ_of_le small, rfl, filled⟩
    simpa using decoded
  · intro form
    rcases form with ⟨enough, fits, nonce, encrypted, mac, fill, size, whole, decoded, hashed,
      framed, nonempty, small, rfl, filled⟩
    rw [← String.length_toList] at enough fits
    subst hashed
    have unpadded : unpad (cipherOf key nonce encrypted) = .ok (Bytes.ofText text) :=
      unpad_of_frames _ _ ⟨nonempty, Nat.le_of_lt_succ small, fill, framed, filled⟩
    refine decrypt_of_holds key payload text ⟨nonce, encrypted, whole, ?_, unpadded⟩ enough fits
    simpa [macOf] using decoded

theorem encrypt_of_misfit (key nonce : Bytes) (text : String)
    (misfit : ¬(1 ≤ (Bytes.ofText text).length ∧ (Bytes.ofText text).length ≤ maxPlaintext)) :
    encrypt key nonce text = .error (.refused (.plaintextSize (Bytes.ofText text).length)) := by
  have refused : pad (Bytes.ofText text) =
      .error (.refused (.plaintextSize (Bytes.ofText text).length)) := by
    simp only [pad]
    exact if_neg misfit
  rw [encrypt, refused]
  rfl

/-- A text is encrypted exactly if its bytes have a size that is accepted, and then it comes back:
its payload has an accepted length, and its padding is right. -/
theorem encrypt_ok_iff (key nonce : Bytes) (text : String) (whole : nonce.length = 32) :
    ((∃ payload, encrypt key nonce text = .ok payload) ↔
      1 ≤ (Bytes.ofText text).length ∧ (Bytes.ofText text).length ≤ 65535) ∧
    (¬(1 ≤ (Bytes.ofText text).length ∧ (Bytes.ofText text).length ≤ 65535) →
      encrypt key nonce text = .error (.refused (.plaintextSize (Bytes.ofText text).length))) ∧
    ∀ payload, encrypt key nonce text = .ok payload →
      decrypt key payload = .ok text ∧ 132 ≤ payload.length ∧ payload.length ≤ 87472 ∧
        ∃ padded, Bytes.Base64.decode? payload.toList = some (lock key nonce padded) ∧
          unpad padded = .ok (Bytes.ofText text) := by
  refine ⟨?_, encrypt_of_misfit key nonce text, ?_⟩
  · constructor
    · intro encrypted
      rcases encrypted with ⟨payload, done⟩
      rcases encrypt_eq_ok key nonce text payload done with ⟨padded, filled, _⟩
      exact pad_size _ _ filled
    · intro size
      rcases encrypt_of_fits key nonce text size.1 size.2 with ⟨padded, _, done⟩
      exact ⟨_, done⟩
  · intro payload done
    have opened := decrypt_encrypt key nonce text payload whole done
    rcases length_of_decrypt key payload text opened with ⟨enough, most⟩
    rcases encrypt_eq_ok key nonce text payload done with ⟨padded, filled, rfl⟩
    refine ⟨opened, enough, most, padded, ?_, unpad_pad _ _ filled⟩
    rw [String.toList_ofList, Bytes.Base64.decode_encode]

theorem encrypt_ok_iff_euro :
    (List.replicate 32 (1 : UInt8)).length = 32 ∧
      ∃ payload, encrypt (List.replicate 32 7) (List.replicate 32 1) "20 €" = .ok payload ∧
        decrypt (List.replicate 32 7) payload = .ok "20 €" := by
  refine ⟨List.length_replicate, ?_⟩
  obtain ⟨fits, _, back⟩ := encrypt_ok_iff (List.replicate 32 7) (List.replicate 32 1) "20 €"
    List.length_replicate
  rcases fits.mpr (by decide +kernel) with ⟨payload, done⟩
  exact ⟨payload, done, (back payload done).1⟩

end TradeWire.Nip44
