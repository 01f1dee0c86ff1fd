import TradeWire.Fault
import TradeWire.Json.Reader
/-! Integers taken from JSON values, and the faults of reading as faults of values. -/

namespace TradeWire.Json

open Number (Double)

def ReadFault.asValue : ReadFault → ValueFault
  | syntaxError | tooLong | undecodable => .malformed
  | tooDeep => .tooDeep
  | unpaired => .unpaired

def intOfDouble (value : Double) : Except ValueFault Int :=
  match value with
  | .nan => .error .malformed
  | .infinite _ => .error .tooLarge
  | x => match x.truncate? with
    | some n => .ok n
    | none => .error .malformed

def intOfText (text : String) : Except ValueFault Int :=
  match Number.readDecimal? text.toList with
  | some n => .ok n
  | none => .error .malformed

/-- Numbers lose their fraction, truth values count as one and zero, texts are read. -/
def toInt : Json → Except ValueFault Int
  | bool value => .ok (if value then 1 else 0)
  | int value => .ok value
  | float value => intOfDouble value
  | str text => intOfText text
  | null | arr _ | obj _ => .error .wrongType

end TradeWire.Json
