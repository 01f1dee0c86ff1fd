import TradeWire.Json.Binary
import TradeWire.Json.Integer
import TradeWire.Json.Writer
import TradeWire.Relay.Feed
/-! Subscriptions and publications over a socket, by the frames that come back. -/

namespace TradeWire

inductive Frame where
  | text (content : String)
  | binary (bytes : Bytes)
  | broken (reason : String)

/-- A connection as it goes: it opens or is refused, one send may fail, and frames arrive until it
is silent. -/
structure Connection where
  opening : Rat := 0
  refusal : Option String := none
  failingSend : Option Nat := none
  frames : List (Timed Frame) := []
  /-- The seconds between one's own wish to close and the end. -/
  closing : Rat := 0
  /-- How many lists and objects may be open in a frame, if that is bounded. -/
  room : Option Nat := none

inductive Notice where
  | nothing
  | event (fields : Fields)
  | unpaired
  | drained
  | closed
  | failed (fault : LinkFault)

/-- The fault with which a reading ends a loop over frames. A syntax error ends none. -/
def Json.ReadFault.grave? : Json.ReadFault → Option ValueFault
  | syntaxError => none
  | fault => some fault.asValue

namespace Notice

def ofParts (kind : String) (rest : List Json) (halved : Bool) : Notice :=
  match kind, rest with
  | "EVENT", .obj fields :: _ => if halved then unpaired else event fields
  | "EOSE", _ => drained
  | "CLOSED", _ => closed
  | _, _ => nothing

/-- A frame for another subscription says nothing, and neither does one that is no JSON. -/
def ofReading (id : String) : Except Json.ReadFault (Json × Bool) → Notice
  | .ok (.arr (.str kind :: .str found :: rest), halved) =>
      if found = id then ofParts kind rest halved else nothing
  | .ok _ => nothing
  | .error fault =>
      match fault.grave? with
      | some fault => failed (.value fault)
      | none => nothing

end Notice

def brokenLink (url reason : String) : LinkFault :=
  .connection ("Cannot connect to relay " ++ url ++ ": " ++ reason)

def Frame.notice (url id : String) (room : Option Nat) : Frame → Notice
  | text content => Notice.ofReading id (Json.skim content.toList room)
  | binary bytes => Notice.ofReading id (Json.skimBytes bytes room)
  | broken reason => .failed (brokenLink url reason)

namespace Feed

def ofFrames (url id : String) (closeWhenDrained : Bool) (room : Option Nat) :
    List (Timed Frame) → Feed
  | [] => []
  | ⟨time, frame⟩ :: rest =>
      match frame.notice url id room with
      | .nothing => ofFrames url id closeWhenDrained room rest
      | .event fields => ⟨time, .event (.obj fields)⟩ :: ofFrames url id closeWhenDrained room rest
      | .unpaired => ⟨time, .unpaired⟩ :: ofFrames url id closeWhenDrained room rest
      | .drained =>
          if closeWhenDrained then [⟨time, .drained⟩]
          else ofFrames url id closeWhenDrained room rest
      | .closed => [⟨time, .closed⟩]
      | .failed fault => [⟨time, .failed fault⟩]

def drainedAt? : Feed → Option Rat
  | [] => none
  | ⟨time, .drained⟩ :: _ => some time
  | _ :: rest => drainedAt? rest

end Feed

/-- Whether one closes the connection oneself, and tells the end when that is done. -/
def Delivery.closes : Delivery → Bool
  | event _ | unpaired | failed (.connection _) | failed (.silent _) => false
  | drained | closed | failed (.value _) => true

def Feed.closedAfter (seconds : Rat) (feed : Feed) : Feed :=
  feed.map fun delivery =>
    if delivery.item.closes then { delivery with time := delivery.time + seconds } else delivery

def requestFrame (id : String) (filters : Fields) : Json := .arr [.str "REQ", .str id, .obj filters]

def closeFrame (id : String) : Json := .arr [.str "CLOSE", .str id]

def eventFrame (event : Fields) : Json := .arr [.str "EVENT", .obj event]

namespace Frame

def verdictIn? (eventId : Json) :
    Except Json.ReadFault (Json × Bool) → Option (Except LinkFault Report)
  | .ok (.arr (.str "OK" :: found :: accepted :: rest), halved) =>
      if found.same eventId then
        some (.ok (
          if accepted.isTrue then some "accepted"
          else if halved then none
          else some ("rejected: " ++ (rest.head?.getD (.str "")).describe)))
      else none
  | .ok _ => none
  | .error fault => fault.grave?.map fun fault => .error (.value fault)

def verdict? (url : String) (eventId : Json) (room : Option Nat) :
    Frame → Option (Except LinkFault Report)
  | text content => verdictIn? eventId (Json.skim content.toList room)
  | binary bytes => verdictIn? eventId (Json.skimBytes bytes room)
  | broken reason => some (.error (brokenLink url reason))

end Frame

namespace Publication

def ofFrames? (url : String) (eventId : Json) (room : Option Nat) (frames : List (Timed Frame)) :
    Option Publication :=
  frames.findSome? fun frame => (frame.item.verdict? url eventId room).map fun verdict =>
    ⟨frame.time, verdict⟩

/-- Whoever does not find the link broken closes it, and tells the end when that is done. -/
def closedAfter (seconds : Rat) (publication : Publication) : Publication :=
  match publication.item with
  | .error (.connection _) => publication
  | _ => { publication with time := publication.time + seconds }

end Publication

def unacknowledged : String := "timeout - relay did not acknowledge"

namespace Connection

/-- Nothing opens before the start. -/
def opensAt (connection : Connection) : Rat := Timed.later 0 connection.opening

def refusal? (connection : Connection) : Option String :=
  match connection.refusal with
  | some reason => some reason
  | none => if connection.failingSend = some 0 then some "send failed" else none

def taken (connection : Connection) : List (Timed Frame) :=
  Timed.inOrder connection.opensAt connection.frames

def closingTime (connection : Connection) : Rat := Timed.later 0 connection.closing

def subscribe (connection : Connection) (url id : String) (filters : Fields)
    (closeWhenDrained : Bool) : Call Feed :=
  match connection.refusal? with
  | some reason =>
      { outcome := [⟨connection.opensAt, .failed (brokenLink url reason)⟩], handed := [] }
  | none =>
      let feed := Feed.ofFrames url id closeWhenDrained connection.room connection.taken
      let closingAt := if connection.failingSend = some 1 then none else feed.drainedAt?
      { outcome := feed.closedAfter connection.closingTime
        handed := [⟨connection.opensAt, .frame (requestFrame id filters)⟩]
        closing := closingAt.map fun time => ⟨time, .frame (closeFrame id)⟩ }

/-- Without a verdict a publication ends at its limit, which counts from the opening, or never. -/
def publish (connection : Connection) (url : String) (event : Fields) (limit : Limit) :
    Call (Option Publication) :=
  match connection.refusal? with
  | some reason =>
      { outcome := some ⟨connection.opensAt, .error (brokenLink url reason)⟩, handed := [] }
  | none =>
      let heeded := connection.taken.takeWhile fun frame =>
        limit.reaches (frame.time - connection.opensAt)
      let eventId := (event.get? "id").getD .null
      let givenUp := limit.finish?.map fun seconds =>
        (⟨connection.opensAt + seconds, .ok (some unacknowledged)⟩ : Publication)
      let ending := (Publication.ofFrames? url eventId connection.room heeded).or givenUp
      { outcome := ending.map (Publication.closedAfter connection.closingTime)
        handed := [⟨connection.opensAt, .frame (eventFrame event)⟩] }

end Connection

end TradeWire
