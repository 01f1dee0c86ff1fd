import TradeWire.Hash.Sha256
/-! Keyed hashes and keys derived from them. -/

namespace TradeWire.Hmac

def blockSize : Nat := 64

/-- A long key is hashed; a short key is filled up with zeros. -/
def fitKey (key : Bytes) : Bytes :=
  let short := if key.length > blockSize then Sha256.hash key else key
  short ++ List.replicate (blockSize - short.length) 0

def mac (key message : Bytes) : Bytes :=
  let fitted := fitKey key
  Sha256.hash (fitted.map (· ^^^ 0x5c) ++ Sha256.hash (fitted.map (· ^^^ 0x36) ++ message))

/-- The blocks of key material: each one covers the one before it, the purpose and its number. -/
def expandFrom (key purpose before : Bytes) : (number count : Nat) → Bytes
  | _, 0 => []
  | number, count + 1 =>
      let block := mac key (before ++ purpose ++ [UInt8.ofNat number])
      block ++ expandFrom key purpose block (number + 1) count

def expand (key purpose : Bytes) (size : Nat) : Bytes :=
  (expandFrom key purpose [] 1 ((size + 31) / 32)).take size

end TradeWire.Hmac
