import TradeWire.Number.Integer
/-! Binary floating point of 64 bits, as exact values. -/

namespace TradeWire.Number

/-- A finite number is `mantissa * 2 ^ exponent`; `Double.roundRatio` builds the canonical pair,
with `mantissa < 2 ^ 53`, and `2 ^ 52 ≤ mantissa` unless the exponent is the least one. -/
inductive Double where
  | nan
  | infinite (negative : Bool)
  | finite (negative : Bool) (mantissa : Nat) (exponent : Int)
  deriving DecidableEq, Repr

namespace Double

def leastExponent : Int := -1074
def greatestExponent : Int := 971

def zero (negative : Bool) : Double := .finite negative 0 leastExponent

/-- `2 ^ exponent * mantissa` after a carry out of the 53 bits or the range of exponents. -/
def normal (negative : Bool) (mantissa : Nat) (exponent : Int) : Double :=
  let (mantissa, exponent) :=
    if mantissa = Nat.pow 2 53 then (Nat.pow 2 52, exponent + 1) else (mantissa, exponent)
  if exponent > greatestExponent then .infinite negative else .finite negative mantissa exponent

def scaleBy (numerator denominator : Nat) (exponent : Int) : Nat × Nat :=
  if 0 ≤ exponent then (numerator, denominator * Nat.pow 2 exponent.toNat)
  else (numerator * Nat.pow 2 (-exponent).toNat, denominator)

def exponentOf (numerator denominator : Nat) : Int :=
  let guess : Int := (numerator.log2 : Int) - denominator.log2 - 53
  let (a, b) := scaleBy numerator denominator guess
  max (if a / b < Nat.pow 2 53 then guess else guess + 1) leastExponent

/-- The double nearest to a quotient; a half goes to the even mantissa. -/
def roundRatio (negative : Bool) (numerator denominator : Nat) : Double :=
  if numerator = 0 then zero negative
  else
    let exponent := exponentOf numerator denominator
    let (a, b) := scaleBy numerator denominator exponent
    normal negative (divNearest a b) exponent

def ofInt (n : Int) : Double := roundRatio (n < 0) n.natAbs 1

/-- `digits * 10 ^ exponent`. Far outside the range of doubles the powers are not computed. -/
def ofDecimal (negative : Bool) (digits : Nat) (exponent : Int) : Double :=
  let magnitude : Int := (Nat.toDigits 10 digits).length + exponent
  if digits = 0 ∨ magnitude < -330 then zero negative
  else if magnitude > 310 then .infinite negative
  else if 0 ≤ exponent then roundRatio negative (digits * Nat.pow 10 exponent.toNat) 1
  else roundRatio negative digits (Nat.pow 10 (-exponent).toNat)

def isZero : Double → Bool
  | finite _ mantissa _ => mantissa == 0
  | _ => false

def isNegative : Double → Bool
  | nan => false
  | infinite negative => negative
  | finite negative _ _ => negative

def ratio? : Double → Option (Nat × Nat)
  | finite _ mantissa exponent =>
      if 0 ≤ exponent then some (mantissa * Nat.pow 2 exponent.toNat, 1)
      else some (mantissa, Nat.pow 2 (-exponent).toNat)
  | _ => none

def truncate? (x : Double) : Option Int :=
  x.ratio?.map fun (a, b) => withSign x.isNegative (a / b)

def toRat? (x : Double) : Option Rat :=
  x.ratio?.map fun (a, b) => (withSign x.isNegative a : Rat) / (b : Rat)

def ofWritten (negative : Bool) (whole fraction : List Nat) (power : Int) : Double :=
  ofDecimal negative (ofDigits 10 (whole ++ fraction)) (power - fraction.length)

end Double

end TradeWire.Number
