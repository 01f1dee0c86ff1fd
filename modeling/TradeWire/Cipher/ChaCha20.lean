import TradeWire.Bytes.Basic
/-! The stream cipher ChaCha20, with a block counter that starts at zero. -/

namespace TradeWire.ChaCha20

abbrev State := Vector UInt32 16

def rotateLeft (word amount : UInt32) : UInt32 := word <<< amount ||| word >>> (32 - amount)

def quarter (s : State) (a b c d : Fin 16) : State :=
  let s := s.set a (s[a] + s[b])
  let s := s.set d (rotateLeft (s[d] ^^^ s[a]) 16)
  let s := s.set c (s[c] + s[d])
  let s := s.set b (rotateLeft (s[b] ^^^ s[c]) 12)
  let s := s.set a (s[a] + s[b])
  let s := s.set d (rotateLeft (s[d] ^^^ s[a]) 8)
  let s := s.set c (s[c] + s[d])
  s.set b (rotateLeft (s[b] ^^^ s[c]) 7)

def doubleRound (s : State) : State :=
  let s := quarter s 0 4 8 12
  let s := quarter s 1 5 9 13
  let s := quarter s 2 6 10 14
  let s := quarter s 3 7 11 15
  let s := quarter s 0 5 10 15
  let s := quarter s 1 6 11 12
  let s := quarter s 2 7 8 13
  quarter s 3 4 9 14

def constants : List UInt32 := [0x61707865, 0x3320646e, 0x79622d32, 0x6b206574]

def initial (key nonce : Bytes) (counter : Nat) : State :=
  let words := constants ++ key.lowWords ++ [UInt32.ofNat counter] ++ nonce.lowWords
  Vector.ofFn fun i => words.getD i 0

def block (key nonce : Bytes) (counter : Nat) : Bytes :=
  let start := initial key nonce counter
  let mixed := (List.range 10).foldl (fun s _ => doubleRound s) start
  (start.zipWith (· + ·) mixed).toList.flatMap Bytes.ofLowWord

def keystream (key nonce : Bytes) (size : Nat) : Bytes :=
  ((List.range ((size + 63) / 64)).flatMap (block key nonce)).take size

def combine (key nonce data : Bytes) : Bytes := data.xor (keystream key nonce data.length)

def combine? (key nonce data : Bytes) : Option Bytes :=
  if key.length = 32 ∧ nonce.length = 12 then some (combine key nonce data) else none

end TradeWire.ChaCha20
