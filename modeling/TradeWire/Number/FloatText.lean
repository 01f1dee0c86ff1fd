import TradeWire.Number.Double
/-! Doubles written as text. -/

namespace TradeWire.Number

def cutAt (isCut : Char → Bool) (chars : List Char) : List Char × Option (List Char) :=
  match chars.dropWhile (!isCut ·) with
  | [] => (chars, none)
  | _ :: behind => (chars.takeWhile (!isCut ·), some behind)

def optionalRun : List Char → Option (List Nat)
  | [] => some []
  | chars => digitRun Text.decimalDigit? chars

def readPower? : Option (List Char) → Option Int
  | none => some 0
  | some chars => do
      let (negative, body) := splitSign chars
      return withSign negative (ofDigits 10 (← digitRun Text.decimalDigit? body))

def readFinite? (negative : Bool) (body : List Char) : Option Double := do
  let (mantissa, power) := cutAt (fun c => c = 'e' || c = 'E') body
  let (before, behind) := cutAt (· = '.') mantissa
  let whole ← optionalRun before
  let fraction ← optionalRun (behind.getD [])
  let power ← readPower? power
  if whole.isEmpty && fraction.isEmpty then none
  else some (Double.ofWritten negative whole fraction power)

/-- Reads a double; the names of infinity and of no number are accepted in any case. -/
def readDouble? (chars : List Char) : Option Double :=
  let (negative, body) := splitSign (Text.trimBoth isMargin chars)
  let name := String.ofList (body.map Char.toLower)
  if name = "inf" ∨ name = "infinity" then some (.infinite negative)
  else if name = "nan" then some .nan
  else readFinite? negative body

end TradeWire.Number
