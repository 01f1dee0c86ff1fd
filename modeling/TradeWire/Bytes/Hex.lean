import TradeWire.Bytes.Basic
import TradeWire.Text.Blank
import TradeWire.Text.Quoted
/-! Bytes as hex text. -/

namespace TradeWire.Bytes

def toHex (bytes : Bytes) : String :=
  String.ofList (bytes.flatMap fun byte => Text.fixedHex 2 byte.toNat)

def nibble? (c : Char) : Option Nat :=
  let n := c.toNat
  if 48 ≤ n ∧ n ≤ 57 then some (n - 48)
  else if 97 ≤ n ∧ n ≤ 102 then some (n - 87)
  else if 65 ≤ n ∧ n ≤ 70 then some (n - 55)
  else none

/-- Reads bytes of two hex digits each; blanks may stand between bytes, and around them. -/
def readHex? : List Char → Option Bytes
  | [] => some []
  | c :: rest =>
      if Text.isAsciiBlank c then readHex? rest
      else
        match rest with
        | [] => none
        | d :: more => do
            let high ← nibble? c
            let low ← nibble? d
            return UInt8.ofNat (high * 16 + low) :: (← readHex? more)

def ofHex? (text : String) : Option Bytes := readHex? text.toList

end TradeWire.Bytes
