import TradeWire.Proofs.Cipher.Aes
import TradeWire.Proofs.Curve.Secret
/-! Legacy encrypted texts come back where both parties have one secret, and two key pairs of
ordinary length do. -/

namespace TradeWire

namespace Bytes.Base64

theorem mark_notMem_encode (bytes : Bytes) : '?' ∉ encode bytes := by
  have symbols : ∀ n < 64, symbol n ≠ '?' := by decide
  intro member
  rw [encode_eq, List.mem_append] at member
  rcases member with written | filled
  · obtain ⟨n, inside, same⟩ := List.mem_map.mp written
    exact symbols n (sextets_lt bytes n inside) same
  · exact absurd (List.eq_of_mem_replicate filled) (by decide)

end Bytes.Base64

namespace Nip04

theorem splitMark_append (front back : List Char) (unmarked : '?' ∉ front) :
    splitMark? (front ++ mark ++ back) = some (front, back) := by
  induction front with
  | nil => rfl
  | cons c front ih =>
      rw [List.mem_cons, not_or] at unmarked
      have other : mark.isPrefixOf (c :: (front ++ mark ++ back)) ≠ true := by
        intro same
        have first := (List.cons_prefix_cons.mp (List.isPrefixOf_iff_prefix.mp same)).1
        exact unmarked.1 first
      rw [List.cons_append, List.cons_append, splitMark?, if_neg other, ih unmarked.2]
      rfl

theorem exists_content (secret iv : Bytes) (text : String) (shared : secret.length = 32)
    (start : iv.length = 16) : ∃ content, encryptWith secret iv text = .ok content ∧
      decryptWith (.ok secret) content = .ok text := by
  obtain ⟨data, encrypted, decrypted⟩ := Aes.exists_encrypted secret iv (Bytes.ofText text) shared
    start
  refine ⟨_, by rw [encryptWith, encrypted], ?_⟩
  have parts := splitMark_append (Bytes.Base64.encode data) (Bytes.Base64.encode iv)
    (Bytes.Base64.mark_notMem_encode data)
  simp only [decryptWith, String.toList_ofList, parts]
  simp only [Bytes.Base64.decode_encode, Option.bind_some, decrypted, Bytes.toText_ofText, bind,
    Except.bind]

end Nip04

theorem Curve.length_of_sharedSecret (privateKey publicKey : String) (secret : Bytes)
    (shared : sharedSecret privateKey publicKey = .ok secret) : secret.length = 32 := by
  rw [sharedSecret] at shared
  split at shared
  · rename_i found
    cases shared
    simp only [sharedSecret?, Option.bind_eq_bind, Option.bind_eq_some_iff] at found
    obtain ⟨_, _, _, _, x, _, written⟩ := found
    rw [← Option.some.inj written, Bytes.length_ofNat]
  · cases shared

namespace Keys

theorem sharedSecret_publicKey (a b : Keys) (aRun : Bytes.IsHexRun a.text.toList)
    (bRun : Bytes.IsHexRun b.text.toList) (bShort : b.text.toList.length ≤ 64) :
    Curve.sharedSecret a.text b.publicKey =
      .ok (Bytes.ofNat 32 (Curve.publicX (a.number * b.number))) := by
  have finite := Curve.not_dvd_of_range _
    (Curve.scalarOfNumber_range _ _ (scalarOfNumber_number b bRun))
  rw [Curve.sharedSecret, b.derived, ← number_eq_scalar b bRun bShort,
    Curve.sharedSecret_publicHex _ _ _ (scalarOfNumber_number a aRun) finite]

/-- A text that one party encrypts is read by the other, whatever the text and the start block are,
if both come to one secret; key pairs of no more than 64 hex digits do. -/
theorem decryptLegacy_encrypted (a b : Keys) :
    (∀ iv secret text, iv.length = 16 → Curve.sharedSecret a.text b.publicKey = .ok secret →
      Curve.sharedSecret b.text a.publicKey = .ok secret →
        ∃ content, Nip04.encrypt a.text b.publicKey iv text = .ok content ∧
          b.decryptLegacy content a.publicKey = .ok text) ∧
    (Bytes.IsHexRun a.text.toList → Bytes.IsHexRun b.text.toList → a.text.toList.length ≤ 64 →
      b.text.toList.length ≤ 64 → ∃ secret, Curve.sharedSecret a.text b.publicKey = .ok secret ∧
        Curve.sharedSecret b.text a.publicKey = .ok secret) := by
  constructor
  · intro iv secret text start here there
    obtain ⟨content, encrypted, decrypted⟩ := Nip04.exists_content secret iv text
      (Curve.length_of_sharedSecret _ _ _ here) start
    refine ⟨content, ?_, ?_⟩
    · rw [Nip04.encrypt, here, ← encrypted]
      rfl
    · rw [decryptLegacy, Nip04.decrypt, there, decrypted]
  · intro aRun bRun aShort bShort
    refine ⟨_, sharedSecret_publicKey a b aRun bRun bShort, ?_⟩
    rw [sharedSecret_publicKey b a bRun aRun aShort, Nat.mul_comm]

theorem decryptLegacy_encrypted_odd :
    (∃ content, Nip04.encrypt keysSix.text keysNine.publicKey (List.replicate 16 7) "" =
      .ok content ∧ keysNine.decryptLegacy content keysSix.publicKey = .ok "") ∧
    ∃ content, Nip04.encrypt keysSix.text keysNine.publicKey (List.replicate 16 7)
      "?iv= \x7bö🦀\x7d" = .ok content ∧
        keysNine.decryptLegacy content keysSix.publicKey = .ok "?iv= \x7bö🦀\x7d" := by
  obtain ⟨secret, here, there⟩ := (decryptLegacy_encrypted keysSix keysNine).2 (by decide)
    (by decide) (by decide) (by decide)
  exact ⟨(decryptLegacy_encrypted keysSix keysNine).1 _ secret _ (by decide) here there,
    (decryptLegacy_encrypted keysSix keysNine).1 _ secret _ (by decide) here there⟩

end Keys

end TradeWire
