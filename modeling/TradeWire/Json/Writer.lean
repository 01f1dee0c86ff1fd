import TradeWire.Json.Basic
import TradeWire.Text.Quoted
/-! Writing JSON, and the text of a value in messages. -/

namespace TradeWire.Json

open Number (Double)

structure Style where
  comma : List Char
  colon : List Char
  /-- Whether every character outside the printable ones of ASCII is escaped. -/
  asciiOnly : Bool

def Style.compact : Style := ⟨[','], [':'], true⟩

/-- Without blanks; only quotes, backslashes and control characters are escaped. -/
def Style.literal : Style := ⟨[','], [':'], false⟩

def Style.spaced : Style := ⟨[',', ' '], [':', ' '], false⟩

def unitEscape (unit : Nat) : List Char := '\\' :: 'u' :: Text.fixedHex 4 unit

def pairEscape (n : Nat) : List Char :=
  unitEscape (0xD800 + (n - 0x10000) / 0x400) ++ unitEscape (0xDC00 + (n - 0x10000) % 0x400)

def escapeChar (asciiOnly : Bool) (c : Char) : List Char :=
  if c = '"' then ['\\', '"']
  else if c = '\\' then ['\\', '\\']
  else if c = '\n' then ['\\', 'n']
  else if c = '\r' then ['\\', 'r']
  else if c = '\t' then ['\\', 't']
  else if c = '\x08' then ['\\', 'b']
  else if c = '\x0c' then ['\\', 'f']
  else if c.toNat < 32 then unitEscape c.toNat
  else if asciiOnly ∧ 126 < c.toNat then
    if c.toNat < 0x10000 then unitEscape c.toNat else pairEscape c.toNat
  else [c]

def writeText (asciiOnly : Bool) (text : String) : List Char :=
  '"' :: text.toList.flatMap (escapeChar asciiOnly) ++ ['"']

def writeDouble : Double → List Char
  | .nan => "NaN".toList
  | .infinite negative => (if negative then "-Infinity" else "Infinity").toList
  | x => x.text.toList

mutual

def write (style : Style) : Json → List Char
  | null => "null".toList
  | bool value => (if value then "true" else "false").toList
  | int value => (toString value).toList
  | float value => writeDouble value
  | str text => writeText style.asciiOnly text
  | arr [] => ['[', ']']
  | arr (item :: items) => '[' :: (write style item ++ writeItems style items)
  | obj [] => ['\x7b', '\x7d']
  | obj ((key, value) :: fields) =>
      '\x7b' :: (writeText style.asciiOnly key ++ style.colon ++ write style value ++
        writeFields style fields)

def writeItems (style : Style) : List Json → List Char
  | [] => [']']
  | item :: items => style.comma ++ write style item ++ writeItems style items

def writeFields (style : Style) : List (String × Json) → List Char
  | [] => ['\x7d']
  | (key, value) :: fields =>
      style.comma ++ writeText style.asciiOnly key ++ style.colon ++ write style value ++
        writeFields style fields

end

def render (style : Style) (value : Json) : String := String.ofList (write style value)

mutual

/-- Whether every integer in a value has few enough digits to be written. -/
def writable : Json → Bool
  | int value => Number.fits value
  | arr items => writableItems items
  | obj fields => writableFields fields
  | _ => true

def writableItems : List Json → Bool
  | [] => true
  | item :: items => writable item && writableItems items

def writableFields : List (String × Json) → Bool
  | [] => true
  | (_, value) :: fields => writable value && writableFields fields

end

mutual

/-- The form of a value inside a list or an object of a message: texts are quoted. -/
def inner : Json → List Char
  | null => "None".toList
  | bool value => (if value then "True" else "False").toList
  | int value => (toString value).toList
  | float value => value.text.toList
  | str text => (Text.quoted text).toList
  | arr [] => ['[', ']']
  | arr (item :: items) => '[' :: (inner item ++ innerItems items)
  | obj [] => ['\x7b', '\x7d']
  | obj ((key, value) :: fields) =>
      '\x7b' :: ((Text.quoted key).toList ++ ": ".toList ++ inner value ++ innerFields fields)

def innerItems : List Json → List Char
  | [] => [']']
  | item :: items => ", ".toList ++ inner item ++ innerItems items

def innerFields : List (String × Json) → List Char
  | [] => ['\x7d']
  | (key, value) :: fields =>
      ", ".toList ++ (Text.quoted key).toList ++ ": ".toList ++ inner value ++ innerFields fields

end

/-- The text of a value in a message; a text stands for itself. -/
def describe : Json → String
  | str text => text
  | value => String.ofList (inner value)

end TradeWire.Json
