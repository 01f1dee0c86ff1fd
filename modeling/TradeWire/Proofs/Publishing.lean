import TradeWire.Proofs.Address
import TradeWire.Proofs.Drawing
import TradeWire.Proofs.Frames
import TradeWire.Proofs.Listening
/-! How a publication ends on each relay, by the first frame with an answer, and what all relays
together tell of it. -/

namespace TradeWire

namespace Frame

inductive Answers (room : Option Nat) (url : String) (eventId : Json) (frame : Frame) :
    Except LinkFault Report → Prop where
  | accepted (found verdict : Json) (rest : List Json) (halved : Bool)
      (said : frame.Lists room (.str "OK" :: found :: verdict :: rest) halved)
      (own : found.same eventId) (good : verdict.isTrue) :
      Answers room url eventId frame (.ok (some "accepted"))
  | rejected (found verdict : Json) (rest : List Json)
      (said : frame.Lists room (.str "OK" :: found :: verdict :: rest) false)
      (own : found.same eventId) (bad : ¬verdict.isTrue) :
      Answers room url eventId frame
        (.ok (some ("rejected: " ++ (rest.head?.getD (.str "")).describe)))
  | unpaired (found verdict : Json) (rest : List Json)
      (said : frame.Lists room (.str "OK" :: found :: verdict :: rest) true)
      (own : found.same eventId) (bad : ¬verdict.isTrue) :
      Answers room url eventId frame (.ok none)
  | unreadable (fault : Json.ReadFault) (failed : frame.reading? room = some (.error fault))
      (grave : fault ≠ .syntaxError) :
      Answers room url eventId frame (.error (.value fault.asValue))
  | broken (reason : String) (breaks : frame = .broken reason) :
      Answers room url eventId frame (.error (brokenLink url reason))

variable (room : Option Nat) (url : String) (eventId : Json) (frame : Frame)

end Frame

namespace Publication

variable (room : Option Nat) (url : String) (eventId : Json)

end Publication

namespace Connection

variable (connection : Connection) (url : String) (eventId : Json) (limit : Limit)

def heeded : List (Timed Frame) :=
  connection.taken.takeWhile fun frame => limit.reaches (frame.time - connection.opensAt)

end Connection

namespace Relay

def publication (relay : Relay) (event : Event) (limit : Limit) : Option Publication :=
  (relay.publish event.toFields limit).1.outcome

def Reports (relay : Relay) (event : Event) (limit : Limit) (url : String) (status : Report) :
    Prop :=
  relay.url = url ∧ ∃ time, relay.publication event limit = some ⟨time, .ok status⟩

end Relay

namespace Publications

variable (publications : Publications)

end Publications

namespace Network

variable (network : Network) (event : Event) (limit : Limit)

def ended : Publications :=
  network.relays.filterMap fun relay => (relay.publication event limit).map fun publication =>
    (relay.url, publication.item)

def outcomes : Option (List Publication) :=
  network.relays.mapM fun relay : Relay => relay.publication event limit

def note : Event :=
  { id := "e1", pubkey := "", createdAt := 0, kind := 1, tags := [], content := "" }

def answering (frame : Frame) : Connection where
  frames := [
    ⟨1, .text (Connection.listing [.str "OK", .str "e2", .bool true, .str ""])⟩,
    ⟨2, frame⟩]
  closing := 1

/-- Two relays of one address, of which the later one rejects what the other accepts, and between
them one that cannot be reached. -/
def twins : Network where
  relays := [
    ⟨"wss://a.test", .socket [answering (.text
      (Connection.listing [.str "OK", .str "e1", .bool true, .str ""]))], []⟩,
    ⟨"wss://b.test", .socket [{ refusal := some "down" }], []⟩,
    ⟨"wss://a.test", .socket [answering (.binary (Bytes.ofText
      (Connection.listing [.str "OK", .str "e1", .bool false, .str "full"])))], []⟩]

end Network

end TradeWire
