import TradeWire.Keys
import TradeWire.Proofs.Curve.Secret
/-! Key pairs that share a secret. -/

namespace TradeWire.Keys

def keysOne : Keys := ⟨"01", 1, Curve.publicHex 1, by decide, rfl⟩
def keysTwo : Keys := ⟨"02", 2, Curve.publicHex 2, by decide, rfl⟩
def keysThree : Keys := ⟨"03", 3, Curve.publicHex 3, by decide, rfl⟩

/-- The secret of two key pairs is the point of the product of their numbers. -/
def Meet (keys peer : Keys) : Prop :=
  Curve.sharedSecret? keys.text peer.publicKey =
    some (Bytes.ofNat 32 (Curve.publicX (keys.scalar * peer.scalar)))

theorem conversationKey_of_meet (keys peer : Keys) (meet : keys.Meet peer) :
    keys.conversationKey peer.publicKey = .ok
      (Hmac.mac Nip44.salt (Bytes.ofNat 32 (Curve.publicX (keys.scalar * peer.scalar)))) := by
  rw [conversationKey, Nip44.conversationKey, Curve.sharedSecret, meet]
  rfl

theorem agree_of_meet (keys peer : Keys) (here : keys.Meet peer) (there : peer.Meet keys) :
    keys.conversationKey peer.publicKey = peer.conversationKey keys.publicKey := by
  rw [conversationKey_of_meet keys peer here, conversationKey_of_meet peer keys there,
    Nat.mul_comm]

theorem keys_meet : keysOne.Meet keysTwo ∧ keysTwo.Meet keysOne ∧ keysThree.Meet keysTwo ∧
    keysTwo.Meet keysThree :=
  ⟨Curve.sharedSecret_publicHex _ 1 2 (by decide) (by decide),
    Curve.sharedSecret_publicHex _ 2 1 (by decide) (by decide),
    Curve.sharedSecret_publicHex _ 3 2 (by decide) (by decide),
    Curve.sharedSecret_publicHex _ 2 3 (by decide) (by decide)⟩

end TradeWire.Keys
