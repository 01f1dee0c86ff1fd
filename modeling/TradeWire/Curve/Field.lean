/-! Arithmetic modulo the prime of the curve. -/

namespace TradeWire.Curve

def prime : Nat := 0xfffffffffffffffffffffffffffffffffffffffffffffffffffffffefffffc2f

def powMod (modulus base exponent : Nat) : Nat :=
  if exponent = 0 then 1 % modulus
  else
    let half := powMod modulus (base * base % modulus) (exponent / 2)
    if exponent % 2 = 1 then half * base % modulus else half
  termination_by exponent

def subMod (a b : Nat) : Nat := (a + (prime - b % prime)) % prime

def inverseMod (a : Nat) : Nat := powMod prime a (prime - 2)

def divMod (a b : Nat) : Nat := a * inverseMod b % prime

end TradeWire.Curve
