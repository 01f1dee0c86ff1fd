import TradeWire.Cipher.Nip04
import TradeWire.Cipher.Nip44
import TradeWire.Curve.Signature
import TradeWire.Event
/-! Key pairs: signing events and messages, encrypting and decrypting for another key. -/

namespace TradeWire

namespace Event

def commitment (pubkey : String) (createdAt kind : Int) (tags : List Tag) (content : String) :
    Json :=
  .arr [.int 0, .str pubkey, .int createdAt, .int kind, tagsToJson tags, .str content]

def commitmentText (pubkey : String) (createdAt kind : Int) (tags : List Tag)
    (content : String) : String :=
  (commitment pubkey createdAt kind tags content).render .literal

/-- The hash of the commitment, unless a number in it cannot be written. -/
def digest (pubkey : String) (createdAt kind : Int) (tags : List Tag) (content : String) :
    Except ValueFault Bytes :=
  if Number.fits createdAt && Number.fits kind then
    .ok (Sha256.hash (Bytes.ofText (commitmentText pubkey createdAt kind tags content)))
  else .error .malformed

end Event

/-- A private key as written, its scalar, and its public key in hex. -/
structure Keys where
  text : String
  scalar : Nat
  publicKey : String
  reads : Curve.scalarOfHex? text = some scalar
  derived : publicKey = Curve.publicHex scalar

namespace Keys

def ofText (text : String) : Except ValueFault Keys :=
  match reads : Curve.scalarOfHex? text with
  | some scalar => .ok { text, scalar, publicKey := Curve.publicHex scalar, reads, derived := rfl }
  | none => .error .malformed

def describe (keys : Keys) : String :=
  "Keys(public_key=" ++ Text.quoted keys.publicKey ++ ")"

def rumor (keys : Keys) (kind : Int) (tags : List Tag) (content : String) (createdAt : Int) :
    Except ValueFault Event := do
  let digest ← Event.digest keys.publicKey createdAt kind tags content
  return { id := digest.toHex, pubkey := keys.publicKey, createdAt, kind, tags, content }

def signEvent (keys : Keys) (kind : Int) (tags : List Tag) (content : String)
    (createdAt : Int) : Except ValueFault Event := do
  let digest ← Event.digest keys.publicKey createdAt kind tags content
  return {
    id := digest.toHex, pubkey := keys.publicKey, createdAt, kind, tags, content
    signature := (Curve.sign keys.scalar digest).toHex }

def signText (keys : Keys) (text : String) : String :=
  (Curve.sign keys.scalar (Sha256.hash (Bytes.ofText text))).toHex

def conversationKey (keys : Keys) (peer : String) : Except ValueFault Bytes :=
  Nip44.conversationKey keys.text peer

def decrypt (keys : Keys) (content sender : String) : Except ValueFault String := do
  Nip44.decrypt (← keys.conversationKey sender) content

def decryptLegacy (keys : Keys) (content sender : String) : Except ValueFault String :=
  Nip04.decrypt keys.text sender content

end Keys

end TradeWire
