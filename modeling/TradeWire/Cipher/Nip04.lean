import TradeWire.Bytes.Base64
import TradeWire.Bytes.Utf8
import TradeWire.Cipher.Aes
import TradeWire.Curve.Secret
/-! Legacy encrypted texts: base64 of the data, a mark, and base64 of the start block. -/

namespace TradeWire.Nip04

def mark : List Char := "?iv=".toList

def splitMark? : List Char → Option (List Char × List Char)
  | [] => none
  | c :: rest =>
      if mark.isPrefixOf (c :: rest) then some ([], (c :: rest).drop mark.length)
      else (splitMark? rest).map fun (before, behind) => (c :: before, behind)

def encryptWith (secret iv : Bytes) (text : String) : Except ValueFault String :=
  match Aes.encrypt? secret iv (Bytes.ofText text) with
  | some data =>
      .ok (String.ofList (Bytes.Base64.encode data ++ mark ++ Bytes.Base64.encode iv))
  | none => .error .malformed

/-- Any fault behind the mark is a malformed content. -/
def decryptWith (secret : Except ValueFault Bytes) (content : String) : Except ValueFault String :=
  match splitMark? content.toList with
  | none => .error (.refused .noSeparator)
  | some (data, start) => do
      let secret ← secret
      let text? : Option String := do
        let data ← Bytes.Base64.decode? data
        let iv ← Bytes.Base64.decode? start
        (← Aes.decrypt? secret iv data).toText?
      match text? with
      | some text => .ok text
      | none => .error .malformed

def encrypt (privateKey publicKey : String) (iv : Bytes) (text : String) :
    Except ValueFault String := do
  encryptWith (← Curve.sharedSecret privateKey publicKey) iv text

def decrypt (privateKey publicKey content : String) : Except ValueFault String :=
  decryptWith (Curve.sharedSecret privateKey publicKey) content

end TradeWire.Nip04
