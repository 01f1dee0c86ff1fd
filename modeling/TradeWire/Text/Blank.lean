/-! Blank characters and trimming. -/

namespace TradeWire.Text

/-- White space and the four information separators. -/
def isBlank (c : Char) : Bool :=
  let n := c.toNat
  (9 ≤ n && n ≤ 13) || (28 ≤ n && n ≤ 32) || n == 0x85 || n == 0xA0 || n == 0x1680 ||
    (0x2000 ≤ n && n ≤ 0x200A) || n == 0x2028 || n == 0x2029 || n == 0x202F || n == 0x205F ||
    n == 0x3000

def isAsciiBlank (c : Char) : Bool :=
  let n := c.toNat
  (9 ≤ n && n ≤ 13) || n == 32

def trimBoth (blank : Char → Bool) (chars : List Char) : List Char :=
  (((chars.dropWhile blank).reverse).dropWhile blank).reverse

def trim (text : String) : String :=
  String.ofList (trimBoth isBlank text.toList)

def splitAt (separator : Char) (chars : List Char) : List (List Char) :=
  chars.foldr
    (fun c pieces =>
      if c = separator then [] :: pieces
      else
        match pieces with
        | piece :: rest => (c :: piece) :: rest
        | [] => [[c]])
    [[]]

end TradeWire.Text
