import TradeWire.Bytes.Utf8
import TradeWire.Json.Reader
/-! Reading JSON from bytes: the encoding is told by a mark in front, or by the zeros among the
first bytes. -/

namespace TradeWire.Json

/-- In units of several bytes the lowest byte stands first or last. -/
inductive Encoding where
  | utf8
  | utf16 (lowFirst : Bool)
  | utf32 (lowFirst : Bool)
  deriving DecidableEq, Repr

namespace Encoding

def marks : List (Bytes × Encoding) := [
  ([0x00, 0x00, 0xFE, 0xFF], utf32 false),
  ([0xFF, 0xFE, 0x00, 0x00], utf32 true),
  ([0xFE, 0xFF], utf16 false),
  ([0xFF, 0xFE], utf16 true),
  ([0xEF, 0xBB, 0xBF], utf8)]

/-- The first two characters of a JSON text are taken to be of ASCII. -/
def ofZeros : Bytes → Encoding
  | a :: b :: c :: d :: _ =>
      if a = 0 then (if b = 0 then utf32 false else utf16 false)
      else if b = 0 then (if c = 0 ∧ d = 0 then utf32 true else utf16 true)
      else utf8
  | [a, b] => if a = 0 then utf16 false else if b = 0 then utf16 true else utf8
  | _ => utf8

def detect (bytes : Bytes) : Encoding × Bytes :=
  match marks.find? fun mark => mark.1.isPrefixOf bytes with
  | some (mark, encoding) => (encoding, bytes.drop mark.length)
  | none => (ofZeros bytes, bytes)

def units (size : Nat) (lowFirst : Bool) (bytes : Bytes) : List Nat :=
  (Bytes.split size bytes).map fun piece =>
    Bytes.toNat (if lowFirst then piece.reverse else piece)

def isHalf (unit : Nat) : Bool := Token.isHighHalf unit || Token.isLowHalf unit

/-- The characters of units of two bytes, behind a high half if one is given; none for a half that
stands alone. -/
def pairUp : Option Nat → List Nat → List (Option Char)
  | none, [] => []
  | some _, [] => [none]
  | none, unit :: rest =>
      if Token.isHighHalf unit then pairUp (some unit) rest
      else (if Token.isLowHalf unit then none else some (Char.ofNat unit)) :: pairUp none rest
  | some high, unit :: rest =>
      if Token.isLowHalf unit then some (Token.pairChar high unit) :: pairUp none rest
      else if Token.isHighHalf unit then none :: pairUp (some unit) rest
      else none :: some (Char.ofNat unit) :: pairUp none rest

def fill (filler : Char) (chars : List (Option Char)) : List Char := chars.map (·.getD filler)

/-- The same in UTF-8, where a half is written in three bytes like a character. -/
def fillHalves (filler : Char) : Bytes → Bytes
  | 0xED :: b :: c :: rest =>
      if 0xA0 ≤ b ∧ b ≤ 0xBF ∧ 0x80 ≤ c ∧ c ≤ 0xBF then
        Bytes.ofText (String.singleton filler) ++ fillHalves filler rest
      else 0xED :: fillHalves filler (b :: c :: rest)
  | b :: rest => b :: fillHalves filler rest
  | [] => []

/-- The characters, with another one for each half that stands alone. -/
def decode (filler : Char) : Encoding → Bytes → Except ReadFault (List Char)
  | utf8, bytes =>
      match (Bytes.toText? bytes).or (Bytes.toText? (fillHalves filler bytes)) with
      | some text => .ok text.toList
      | none => .error .undecodable
  | utf16 lowFirst, bytes =>
      if bytes.length % 2 ≠ 0 then .error .undecodable
      else .ok (fill filler (pairUp none (units 2 lowFirst bytes)))
  | utf32 lowFirst, bytes =>
      let codes := units 4 lowFirst bytes
      if bytes.length % 4 ≠ 0 ∨ codes.any (0x10FFFF < ·) then .error .undecodable
      else .ok (fill filler (codes.map fun code =>
        if isHalf code then none else some (Char.ofNat code)))

end Encoding

/-- A text that changes with the character that stands for a half has one. -/
def Token.holding : Token → Token → Token
  | text content, text other => if content = other then text content else halved
  | token, _ => token

/-- Halves alone are let through in the bytes as they are in escapes. -/
def skimBytes (bytes : Bytes) (room : Option Nat) : Except ReadFault (Json × Bool) := do
  let (encoding, rest) := Encoding.detect bytes
  let chars ← encoding.decode '\uFFFD' rest
  let others ← encoding.decode '\uFFFE' rest
  skimTokens (List.zipWith Token.holding (tokens chars) (tokens others)) room

end TradeWire.Json
