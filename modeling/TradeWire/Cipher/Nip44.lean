import TradeWire.Bytes.Base64
import TradeWire.Bytes.Utf8
import TradeWire.Cipher.ChaCha20
import TradeWire.Curve.Secret
import TradeWire.Hash.Hmac
/-! Encrypted texts, version two: base64 of a version, a nonce, the encrypted padded text and a
keyed hash. -/

namespace TradeWire.Nip44

def maxPlaintext : Nat := 65535

def salt : Bytes := [0x6e, 0x69, 0x70, 0x34, 0x34, 0x2d, 0x76, 0x32]

def conversationKey (privateKey publicKey : String) : Except ValueFault Bytes := do
  return Hmac.mac salt (← Curve.sharedSecret privateKey publicKey)

structure MessageKeys where
  cipherKey : Bytes
  cipherNonce : Bytes
  hashKey : Bytes

def messageKeys (key nonce : Bytes) : MessageKeys :=
  let material := Hmac.expand key nonce 76
  ⟨material.take 32, (material.drop 32).take 12, material.drop 44⟩

def bitLength (n : Nat) : Nat := if n = 0 then 0 else n.log2 + 1

/-- The length to which a text is padded: whole chunks of 32 bytes, or of an eighth of the next
power of two. -/
def paddedLength (size : Nat) : Nat :=
  if size ≤ 32 then 32
  else
    let power := Nat.pow 2 (bitLength (size - 1))
    let chunk := if power ≤ 256 then 32 else power / 8
    chunk * ((size - 1) / chunk + 1)

def pad (text : Bytes) : Except ValueFault Bytes :=
  let size := text.length
  if 1 ≤ size ∧ size ≤ maxPlaintext then
    .ok (Bytes.ofNat 2 size ++ text ++ List.replicate (paddedLength size - size) 0)
  else .error (.refused (.plaintextSize size))

/-- What is behind the text is not looked at, only its length is. -/
def unpad : Bytes → Except ValueFault Bytes
  | high :: low :: rest =>
      let size := high.toNat * 256 + low.toNat
      if size = 0 ∨ rest.length < size ∨ rest.length ≠ paddedLength size then
        .error (.refused .padding)
      else .ok (rest.take size)
  | _ => .error .cutShort

def lock (key nonce padded : Bytes) : Bytes :=
  let keys := messageKeys key nonce
  let encrypted := ChaCha20.combine keys.cipherKey keys.cipherNonce padded
  [2] ++ nonce ++ encrypted ++ Hmac.mac keys.hashKey (nonce ++ encrypted)

def encrypt (key nonce : Bytes) (text : String) : Except ValueFault String := do
  let padded ← pad (Bytes.ofText text)
  return String.ofList (Bytes.Base64.encode (lock key nonce padded))

/-- Opens the bytes of a payload. In a short payload the parts overlap, and the hash is wrong. -/
def unlock (key data : Bytes) : Except ValueFault Bytes :=
  let version := (data.headD 0).toNat
  if version ≠ 2 then .error (.refused (.version version))
  else
    let nonce := (data.drop 1).take 32
    let encrypted := data.between 33 32
    let keys := messageKeys key nonce
    if data.last 32 ≠ Hmac.mac keys.hashKey (nonce ++ encrypted) then
      .error (.refused .wrongMac)
    else unpad (ChaCha20.combine keys.cipherKey keys.cipherNonce encrypted)

def decrypt (key : Bytes) (payload : String) : Except ValueFault String := do
  let symbols := payload.toList
  let length := symbols.length
  if symbols.isEmpty || symbols.head? == some '#' then .error (.refused .encoding)
  else if length < 132 ∨ 87472 < length then .error (.refused (.payloadLength length))
  else
    match Bytes.Base64.decode? symbols with
    | none => .error .malformed
    | some data =>
        match (← unlock key data).toText? with
        | some text => .ok text
        | none => .error .malformed

end TradeWire.Nip44
