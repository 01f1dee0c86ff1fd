import TradeWire.Text.Blank
import TradeWire.Text.Digit
/-! Integers written as text. -/

namespace TradeWire.Number

def maxDigits : Nat := 4300

/-- Blanks that may surround a number. The information separators are no such blanks. -/
def isMargin (c : Char) : Bool :=
  Text.isAsciiBlank c || (127 ≤ c.toNat && Text.isBlank c)

/-- Digits, with at most one underscore between two of them. -/
def digitRun (digit? : Char → Option Nat) : List Char → Option (List Nat)
  | [] => none
  | [c] => (digit? c).map ([·])
  | c :: '_' :: rest => do
      let digit ← digit? c
      return digit :: (← digitRun digit? rest)
  | c :: rest => do
      let digit ← digit? c
      return digit :: (← digitRun digit? rest)

def ofDigits (base : Nat) (digits : List Nat) : Nat :=
  digits.foldl (fun value digit => value * base + digit) 0

def splitSign : List Char → Bool × List Char
  | '-' :: rest => (true, rest)
  | '+' :: rest => (false, rest)
  | chars => (false, chars)

def withSign (negative : Bool) (magnitude : Nat) : Int :=
  if negative then -(magnitude : Int) else magnitude

/-- Reads an integer: margins, a sign, and decimal digits of any script. -/
def readDecimal? (chars : List Char) : Option Int := do
  let (negative, body) := splitSign (Text.trimBoth isMargin chars)
  let digits ← digitRun Text.decimalDigit? body
  if digits.length ≤ maxDigits then some (withSign negative (ofDigits 10 digits)) else none

def hexDigit? (c : Char) : Option Nat :=
  let n := c.toNat
  if 97 ≤ n ∧ n ≤ 102 then some (n - 87)
  else if 65 ≤ n ∧ n ≤ 70 then some (n - 55)
  else Text.decimalDigit? c

def dropHexMark : List Char → List Char
  | zero :: mark :: rest =>
      if Text.decimalDigit? zero = some 0 ∧ (mark = 'x' ∨ mark = 'X') then
        match rest with
        | '_' :: rest => rest
        | rest => rest
      else zero :: mark :: rest
  | chars => chars

/-- Reads an integer in base sixteen; the mark `0x` is optional and the length is free. -/
def readHex? (chars : List Char) : Option Int := do
  let (negative, body) := splitSign (Text.trimBoth isMargin chars)
  let digits ← digitRun hexDigit? (dropHexMark body)
  return withSign negative (ofDigits 16 digits)

def fits (n : Int) : Bool := n.natAbs < Nat.pow 10 maxDigits

/-- Division with the nearest quotient; a half goes to the even neighbour. -/
def divNearest (a b : Nat) : Nat :=
  let quotient := a / b
  let remainder := a % b
  if 2 * remainder < b then quotient
  else if b < 2 * remainder then quotient + 1
  else if quotient % 2 = 0 then quotient
  else quotient + 1

end TradeWire.Number
