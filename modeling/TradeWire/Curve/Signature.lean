import TradeWire.Curve.Secret
import TradeWire.Hash.Sha256
/-! Schnorr signatures, with zeros as auxiliary randomness. -/

namespace TradeWire.Curve

def taggedHash (tag : List UInt8) (message : Bytes) : Bytes :=
  let prefixed := Sha256.hash tag
  Sha256.hash (prefixed ++ prefixed ++ message)

def ascii (text : String) : Bytes := text.toList.map fun c => UInt8.ofNat c.toNat

/-- The scalar or its negative, whichever has a point with an even y coordinate. -/
def evenScalar (scalar : Nat) : Point → Nat
  | .affine _ y => if y % 2 = 0 then scalar else order - scalar
  | .infinity => scalar

def sign (scalar : Nat) (digest : Bytes) : Bytes :=
  let point := Point.times scalar generator
  let key := evenScalar scalar point
  let publicBytes := Bytes.ofNat 32 (point.x?.getD 0)
  let masked := (Bytes.ofNat 32 key).xor
    (taggedHash (ascii "BIP0340/aux") (List.replicate 32 0))
  let nonce := (taggedHash (ascii "BIP0340/nonce") (masked ++ publicBytes ++ digest)).toNat % order
  let once := Point.times nonce generator
  let onceBytes := Bytes.ofNat 32 (once.x?.getD 0)
  let challenge :=
    (taggedHash (ascii "BIP0340/challenge") (onceBytes ++ publicBytes ++ digest)).toNat % order
  onceBytes ++ Bytes.ofNat 32 ((evenScalar nonce once + challenge * key) % order)

def sign? (scalar : Nat) (digest : Bytes) : Option Bytes :=
  if digest.length = 32 then some (sign scalar digest) else none

end TradeWire.Curve
