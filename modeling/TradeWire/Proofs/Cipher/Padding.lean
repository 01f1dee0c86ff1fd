import TradeWire.Proofs.Bytes
import TradeWire.Proofs.Cipher.PaddedLength
/-! Texts come back from their padding. -/

namespace TradeWire.Nip44

theorem pad_eq (text : Bytes) (enough : 1 ≤ text.length) (fits : text.length ≤ maxPlaintext) :
    pad text = .ok (Bytes.ofNat 2 text.length ++ text ++
      List.replicate (paddedLength text.length - text.length) 0) := by
  simp only [pad]
  exact if_pos ⟨enough, fits⟩

theorem pad_size (text padded : Bytes) (done : pad text = .ok padded) :
    1 ≤ text.length ∧ text.length ≤ maxPlaintext := by
  simp only [pad] at done
  split at done
  · assumption
  · cases done

/-- The size of a text in two bytes, the text, and as many bytes behind it as its padded length asks
for, whatever they are. -/
def Frames (padded text : Bytes) : Prop :=
  1 ≤ text.length ∧ text.length ≤ maxPlaintext ∧
    ∃ fill, padded = Bytes.ofNat 2 text.length ++ text ++ fill ∧
      fill.length = paddedLength text.length - text.length

theorem frames_of_pad (text padded : Bytes) (done : pad text = .ok padded) :
    Frames padded text := by
  rcases pad_size text padded done with ⟨enough, fits⟩
  rw [pad_eq text enough fits] at done
  cases done
  exact ⟨enough, fits, _, rfl, List.length_replicate⟩

theorem frames_of_unpad (padded text : Bytes) (opened : unpad padded = .ok text) :
    Frames padded text := by
  match padded, opened with
  | [], opened => cases opened
  | [_], opened => cases opened
  | high :: low :: rest, opened =>
      simp only [unpad] at opened
      split at opened
      · cases opened
      rename_i accepted
      simp only [not_or, Decidable.not_not, Nat.not_lt] at accepted
      rcases accepted with ⟨nonempty, enough, whole⟩
      cases opened
      have length : (rest.take (high.toNat * 256 + low.toNat)).length =
          high.toNat * 256 + low.toNat := by
        rw [List.length_take, Nat.min_eq_left enough]
      have := high.toNat_lt
      have := low.toNat_lt
      refine ⟨?_, ?_, rest.drop (high.toNat * 256 + low.toNat), ?_, ?_⟩
      · omega
      · rw [length, maxPlaintext]
        omega
      · rw [length, Bytes.ofNat_two_toNat, List.append_assoc, List.take_append_drop]
        rfl
      · rw [length, List.length_drop, whole]

theorem unpad_of_frames (padded text : Bytes) (frames : Frames padded text) :
    unpad padded = .ok text := by
  rcases frames with ⟨nonempty, fits, fill, rfl, filled⟩
  rw [maxPlaintext] at fits
  have wide := le_paddedLength text.length
  have size : (UInt8.ofNat (text.length / 256 % 256)).toNat * 256 +
      (UInt8.ofNat (text.length % 256)).toNat = text.length := by
    simp only [UInt8.toNat_ofNat']
    omega
  rw [Bytes.ofNat_two]
  simp only [List.cons_append, List.nil_append, unpad, size]
  rw [if_neg]
  · rw [List.take_left]
  · rw [List.length_append]
    omega

theorem length_pad (text padded : Bytes) (done : pad text = .ok padded) :
    padded.length = 2 + paddedLength text.length := by
  rcases frames_of_pad text padded done with ⟨_, _, fill, rfl, filled⟩
  have := le_paddedLength text.length
  rw [List.length_append, List.length_append, filled, Bytes.ofNat_two]
  simp only [List.length_cons, List.length_nil]
  omega

theorem unpad_pad (text padded : Bytes) (done : pad text = .ok padded) :
    unpad padded = .ok text :=
  unpad_of_frames padded text (frames_of_pad text padded done)

end TradeWire.Nip44
