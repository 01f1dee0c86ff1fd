import TradeWire.Bytes.Basic
/-! The block cipher AES with keys of 256 bits, chained block by block, with filled up ends. -/

namespace TradeWire.Aes

def double (x : UInt8) : UInt8 := if x &&& 0x80 = 0 then x <<< 1 else (x <<< 1) ^^^ 0x1b

def mulBits : (bits : Nat) → UInt8 → UInt8 → UInt8
  | 0, _, _ => 0
  | bits + 1, x, y => (if y &&& 1 = 1 then x else 0) ^^^ mulBits bits (double x) (y >>> 1)

def mul (x y : UInt8) : UInt8 := mulBits 8 x y

def square (x : UInt8) : UInt8 := mul x x

/-- The inverse is the power with exponent 254; zero has zero. -/
def inverse (x : UInt8) : UInt8 :=
  let x2 := square x
  let x4 := square x2
  let x8 := square x4
  let x16 := square x8
  let x32 := square x16
  let x64 := square x32
  let x128 := square x64
  mul x2 (mul x4 (mul x8 (mul x16 (mul x32 (mul x64 x128)))))

def rotateByte (x amount : UInt8) : UInt8 := x <<< amount ||| x >>> (8 - amount)

def substitute (x : UInt8) : UInt8 :=
  let y := inverse x
  y ^^^ rotateByte y 1 ^^^ rotateByte y 2 ^^^ rotateByte y 3 ^^^ rotateByte y 4 ^^^ 0x63

def unsubstitute (x : UInt8) : UInt8 :=
  inverse (rotateByte x 1 ^^^ rotateByte x 3 ^^^ rotateByte x 6 ^^^ 0x05)

def substitutes : Array UInt8 := Array.ofFn fun i : Fin 256 => substitute (UInt8.ofNat i)
def unsubstitutes : Array UInt8 := Array.ofFn fun i : Fin 256 => unsubstitute (UInt8.ofNat i)

def substituteByte (x : UInt8) : UInt8 := substitutes.getD x.toNat 0
def unsubstituteByte (x : UInt8) : UInt8 := unsubstitutes.getD x.toNat 0

def permute (places : List Nat) (block : Bytes) : Bytes := places.map (block.getD · 0)

def shiftRows : Bytes → Bytes := permute [0, 5, 10, 15, 4, 9, 14, 3, 8, 13, 2, 7, 12, 1, 6, 11]
def unshiftRows : Bytes → Bytes := permute [0, 13, 10, 7, 4, 1, 14, 11, 8, 5, 2, 15, 12, 9, 6, 3]

def mixWith (w x y z : UInt8) : Bytes → Bytes
  | a :: b :: c :: d :: rest =>
      (mul a w ^^^ mul b x ^^^ mul c y ^^^ mul d z) ::
        (mul a z ^^^ mul b w ^^^ mul c x ^^^ mul d y) ::
        (mul a y ^^^ mul b z ^^^ mul c w ^^^ mul d x) ::
        (mul a x ^^^ mul b y ^^^ mul c z ^^^ mul d w) :: mixWith w x y z rest
  | _ => []

def mixColumns : Bytes → Bytes := mixWith 2 3 1 1
def unmixColumns : Bytes → Bytes := mixWith 14 11 13 9

/-- The next word of the schedule: every eighth word is turned and marked, every fourth one in
between is substituted. -/
def nextWord (words : Array Bytes) (mark : UInt8) : Bytes :=
  let index := words.size
  let before := words.getD (index - 1) []
  let changed :=
    if index % 8 = 0 then
      Bytes.xor ((before.drop 1 ++ before.take 1).map substituteByte) [mark, 0, 0, 0]
    else if index % 8 = 4 then before.map substituteByte
    else before
  Bytes.xor (words.getD (index - 8) []) changed

def schedule (key : Bytes) : Array Bytes :=
  ((List.range 52).foldl
    (fun (words, mark) _ =>
      (words.push (nextWord words mark), if words.size % 8 = 0 then double mark else mark))
    ((Bytes.pieces 4 8 key).toArray, (1 : UInt8))).1

def roundKeys (key : Bytes) : List Bytes := Bytes.pieces 16 15 ((schedule key).toList.flatten)

def encryptRounds (block : Bytes) : List Bytes → Bytes
  | [] => block
  | [last] => (shiftRows (block.map substituteByte)).xor last
  | key :: keys => encryptRounds ((mixColumns (shiftRows (block.map substituteByte))).xor key) keys

def encryptBlock (keys : List Bytes) (block : Bytes) : Bytes :=
  encryptRounds (block.xor (keys.headD [])) keys.tail

def decryptRounds (block : Bytes) : List Bytes → Bytes
  | [] => block
  | [first] => Bytes.xor ((unshiftRows block).map unsubstituteByte) first
  | key :: keys =>
      decryptRounds (unmixColumns (Bytes.xor ((unshiftRows block).map unsubstituteByte) key)) keys

def decryptBlock (keys : List Bytes) (block : Bytes) : Bytes :=
  let backward := keys.reverse
  decryptRounds (block.xor (backward.headD [])) backward.tail

def chainEncrypt (keys : List Bytes) (before : Bytes) : List Bytes → Bytes
  | [] => []
  | block :: blocks =>
      let encrypted := encryptBlock keys (block.xor before)
      encrypted ++ chainEncrypt keys encrypted blocks

def chainDecrypt (keys : List Bytes) (before : Bytes) : List Bytes → Bytes
  | [] => []
  | block :: blocks =>
      (decryptBlock keys block).xor before ++ chainDecrypt keys block blocks

def fill (data : Bytes) : Bytes :=
  let count := 16 - data.length % 16
  data ++ List.replicate count (UInt8.ofNat count)

def unfill? (data : Bytes) : Option Bytes :=
  let count := (data.getLastD 0).toNat
  if 1 ≤ count ∧ count ≤ 16 ∧ count ≤ data.length ∧
      (data.last count).all (fun byte => byte.toNat == count) then
    some (data.take (data.length - count))
  else none

def encrypt? (key iv data : Bytes) : Option Bytes :=
  if iv.length = 16 then some (chainEncrypt (roundKeys key) iv ((fill data).split 16)) else none

def decrypt? (key iv data : Bytes) : Option Bytes :=
  if iv.length = 16 ∧ data.length % 16 = 0 then
    unfill? (chainDecrypt (roundKeys key) iv (data.split 16))
  else none

end TradeWire.Aes
