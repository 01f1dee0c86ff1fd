import TradeWire.Bytes.Hex
import TradeWire.Curve.Point
import TradeWire.Fault
import TradeWire.Number.Integer
/-! Private keys, and the secret that two key pairs share. -/

namespace TradeWire.Curve

/-- The scalar of a private key: the number of its bytes, from one up to the order. Of a longer
string the number of the first 32 bytes counts as well. -/
def scalarOfBytes? (bytes : Bytes) : Option Nat :=
  let whole := bytes.toNat
  let scalar := Bytes.toNat (bytes.take 32)
  if 0 < whole ∧ whole < order ∧ 0 < scalar then some scalar else none

def scalarOfHex? (text : String) : Option Nat := (Bytes.ofHex? text).bind scalarOfBytes?

def scalarOfNumber? (text : String) : Option Nat := do
  let n ← Number.readHex? text.toList
  if 0 < n ∧ n < order then some n.toNat else none

def publicX (scalar : Nat) : Nat := ((Point.times scalar generator).x?).getD 0

def publicHex (scalar : Nat) : String := (Bytes.ofNat 32 (publicX scalar)).toHex

/-- The point of a public key: an x coordinate of at most 256 bits, written as a number in hex. -/
def peerPoint? (text : String) : Option Point := do
  let x ← Number.readHex? text.toList
  if 0 ≤ x ∧ x.toNat < Nat.pow 2 256 then lift? x else none

def sharedSecret? (privateKey publicKey : String) : Option Bytes := do
  let scalar ← scalarOfNumber? privateKey
  let peer ← peerPoint? publicKey
  let x ← (Point.times scalar peer).x?
  return Bytes.ofNat 32 x

def sharedSecret (privateKey publicKey : String) : Except ValueFault Bytes :=
  match sharedSecret? privateKey publicKey with
  | some secret => .ok secret
  | none => .error .malformed

end TradeWire.Curve
