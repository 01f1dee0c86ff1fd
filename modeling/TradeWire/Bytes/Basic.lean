/-! Byte strings as lists: numbers, pieces and hex text. -/

namespace TradeWire

abbrev Bytes := List UInt8

namespace Bytes

def toNat (bytes : Bytes) : Nat := bytes.foldl (fun value byte => value * 256 + byte.toNat) 0

def ofNat : (width : Nat) → Nat → Bytes
  | 0, _ => []
  | width + 1, n => ofNat width (n / 256) ++ [UInt8.ofNat (n % 256)]

def ofNatLow : (width : Nat) → Nat → Bytes
  | 0, _ => []
  | width + 1, n => UInt8.ofNat (n % 256) :: ofNatLow width (n / 256)

def xor (a b : Bytes) : Bytes := List.zipWith (· ^^^ ·) a b

def between (first tail : Nat) (bytes : Bytes) : Bytes :=
  (bytes.take (bytes.length - tail)).drop first

def last (count : Nat) (bytes : Bytes) : Bytes := bytes.drop (bytes.length - count)

def pieces (size : Nat) : (count : Nat) → Bytes → List Bytes
  | 0, _ => []
  | count + 1, bytes => bytes.take size :: pieces size count (bytes.drop size)

def split (size : Nat) (bytes : Bytes) : List Bytes :=
  pieces size ((bytes.length + size - 1) / size) bytes

def highWords : Bytes → List UInt32
  | a :: b :: c :: d :: rest =>
      (a.toUInt32 <<< 24 ||| b.toUInt32 <<< 16 ||| c.toUInt32 <<< 8 ||| d.toUInt32) ::
        highWords rest
  | _ => []

def lowWords : Bytes → List UInt32
  | a :: b :: c :: d :: rest =>
      (d.toUInt32 <<< 24 ||| c.toUInt32 <<< 16 ||| b.toUInt32 <<< 8 ||| a.toUInt32) ::
        lowWords rest
  | _ => []

def ofHighWord (word : UInt32) : Bytes :=
  [(word >>> 24).toUInt8, (word >>> 16).toUInt8, (word >>> 8).toUInt8, word.toUInt8]

def ofLowWord (word : UInt32) : Bytes :=
  [word.toUInt8, (word >>> 8).toUInt8, (word >>> 16).toUInt8, (word >>> 24).toUInt8]

end Bytes

end TradeWire
