import TradeWire.Number.Double
/-! Decimal texts of doubles: the fewest digits that read back, and six significant digits. -/

namespace TradeWire.Number

structure Decimal where
  digits : Nat
  power : Int
  deriving DecidableEq, Repr

namespace Decimal

def tenTo (power : Int) : Nat × Nat :=
  if 0 ≤ power then (Nat.pow 10 power.toNat, 1) else (1, Nat.pow 10 (-power).toNat)

def inUnits (a b : Nat) (power : Int) : Nat × Nat :=
  let (up, down) := tenTo power
  (a * down, b * up)

def atLeast (a b : Nat) (power : Int) : Bool :=
  let (x, y) := inUnits a b power
  y ≤ x

/-- The greatest power of ten that is at most `a / b`, for a positive quotient: the binary
logarithm gives it up to one. -/
def leadingPower (a b : Nat) : Int :=
  let bits : Int := (a.log2 : Int) - b.log2
  let guess := Int.fdiv (bits * 30103) 100000
  if atLeast a b (guess + 1) then guess + 1
  else if atLeast a b guess then guess
  else guess - 1

/-- The neighbour on the grid of `10 ^ power` that reads back as `x`, the nearer one of two. -/
def neighbour? (x : Double) (a b : Nat) (power : Int) : Option Decimal :=
  let (u, v) := inUnits a b power
  let below := u / v
  let nearer := divNearest u v
  let further := if nearer = below then below + 1 else below
  [nearer, further].findSome? fun digits =>
    if Double.ofDecimal x.isNegative digits power = x then some ⟨digits, power⟩ else none

/-- The shortest decimal that reads back; seventeen digits always do. -/
def shortest (x : Double) (a b : Nat) : Decimal :=
  let lead := leadingPower a b
  let grids := (List.range 17).map fun (n : Nat) => lead - (n : Int)
  (grids.findSome? (neighbour? x a b)).getD ⟨a / b, 0⟩

def sixDigits (a b : Nat) : Decimal :=
  let power := leadingPower a b - 5
  let (u, v) := inUnits a b power
  ⟨divNearest u v, power⟩

def dropTrailingZeros : List Char → List Char
  | chars => ((chars.reverse).dropWhile (· = '0')).reverse

structure Layout where
  /-- The point stands after this many digits at most before an exponent is used. -/
  lastPoint : Int
  /-- Whether a whole number is marked by `.0`. -/
  marksWhole : Bool

def exponentText (power : Int) : List Char :=
  let digits := (toString power.natAbs).toList
  'e' :: (if power < 0 then '-' else '+') :: (if digits.length < 2 then '0' :: digits else digits)

/-- Positional from `0.0001` up to the layout's last point, else one digit and an exponent of at
least two digits. -/
def layOut (layout : Layout) (value : Decimal) : List Char :=
  let written := (toString value.digits).toList
  let point : Int := written.length + value.power
  let digits := dropTrailingZeros written
  let count : Int := digits.length
  if -4 < point ∧ point ≤ layout.lastPoint then
    if point ≤ 0 then '0' :: '.' :: (List.replicate (-point).toNat '0' ++ digits)
    else if count ≤ point then
      digits ++ List.replicate (point - count).toNat '0' ++
        (if layout.marksWhole then ['.', '0'] else [])
    else digits.take point.toNat ++ '.' :: digits.drop point.toNat
  else
    match digits with
    | [] => ['0']
    | digit :: [] => digit :: exponentText (point - 1)
    | digit :: rest => digit :: '.' :: (rest ++ exponentText (point - 1))

end Decimal

namespace Double

def textWith (layout : Decimal.Layout) (choose : Nat → Nat → Decimal) (zeroText : List Char)
    (x : Double) : String :=
  match x with
  | nan => "nan"
  | infinite negative => if negative then "-inf" else "inf"
  | finite negative _ _ =>
      let sign := if negative then ['-'] else []
      match x.ratio? with
      | some (a, b) =>
          if a = 0 then String.ofList (sign ++ zeroText)
          else String.ofList (sign ++ Decimal.layOut layout (choose a b))
      | none => ""

def text (x : Double) : String :=
  textWith ⟨16, true⟩ (Decimal.shortest x) ['0', '.', '0'] x

def shortText (x : Double) : String :=
  textWith ⟨6, false⟩ Decimal.sixDigits ['0'] x

end Double

end TradeWire.Number
