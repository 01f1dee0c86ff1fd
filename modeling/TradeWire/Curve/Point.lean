import TradeWire.Curve.Field
/-! Points of the curve `y ^ 2 = x ^ 3 + 7`. -/

namespace TradeWire.Curve

inductive Point where
  | infinity
  | affine (x y : Nat)
  deriving DecidableEq, Repr

def order : Nat := 0xfffffffffffffffffffffffffffffffebaaedce6af48a03bbfd25e8cd0364141

def generator : Point := .affine
  0x79be667ef9dcbbac55a06295ce870b07029bfcdb2dce28d959f2815b16f81798
  0x483ada7726a3c4655da4fbfc0e1108a8fd17b448a68554199c47d08ffb10d4b8

def cubic (x : Nat) : Nat := (x * x * x + 7) % prime

def onCurve (x y : Nat) : Bool := y * y % prime == cubic x

namespace Point

/-- The third point on a line through two points, turned over; the slope is that of the line. -/
def alongLine (slope x₁ y₁ x₂ : Nat) : Point :=
  let x₃ := subMod (subMod (slope * slope) x₁) x₂
  affine x₃ (subMod (slope * subMod x₁ x₃) y₁)

def add : Point → Point → Point
  | infinity, q => q
  | p, infinity => p
  | affine x₁ y₁, affine x₂ y₂ =>
      if x₁ = x₂ then
        if (y₁ + y₂) % prime = 0 then infinity
        else alongLine (divMod (3 * x₁ * x₁) (2 * y₁)) x₁ y₁ x₂
      else alongLine (divMod (subMod y₂ y₁) (subMod x₂ x₁)) x₁ y₁ x₂

def times (n : Nat) (p : Point) : Point :=
  if n = 0 then infinity
  else
    let rest := times (n / 2) (add p p)
    if n % 2 = 1 then add p rest else rest
  termination_by n

def x? : Point → Option Nat
  | infinity => none
  | affine x _ => some x

end Point

/-- A root of the cubic at `x`, if there is one, and of the two roots the even one. The prime is
three modulo four, so the power is a root of every square. -/
def evenRoot (x : Nat) : Nat :=
  let root := powMod prime (cubic x) ((prime + 1) / 4)
  if root % 2 = 0 then root else prime - root

def residue (x : Int) : Nat := (x % (prime : Int)).toNat

def lift? (x : Int) : Option Point :=
  let x := residue x
  if onCurve x (evenRoot x) then some (.affine x (evenRoot x)) else none

end TradeWire.Curve
