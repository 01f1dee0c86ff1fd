import TradeWire.Proofs.Interleaving
/-! What a subscription brings of the frames that it receives, and how it ends. -/

namespace TradeWire

namespace Frame

def reading? (room : Option Nat) : Frame → Option (Except Json.ReadFault (Json × Bool))
  | text content => some (Json.skim content.toList room)
  | binary bytes => some (Json.skimBytes bytes room)
  | broken _ => none

def Lists (room : Option Nat) (frame : Frame) (items : List Json) (halved : Bool) : Prop :=
  frame.reading? room = some (.ok (.arr items, halved))

inductive Brings (room : Option Nat) (id : String) (frame : Frame) : Delivery → Prop where
  | object (fields : Fields) (rest : List Json)
      (said : frame.Lists room (.str "EVENT" :: .str id :: .obj fields :: rest) false) :
      Brings room id frame (.event (.obj fields))
  | unpaired (fields : Fields) (rest : List Json)
      (said : frame.Lists room (.str "EVENT" :: .str id :: .obj fields :: rest) true) :
      Brings room id frame .unpaired

inductive Ends (room : Option Nat) (url id : String) (closeWhenDrained : Bool) (frame : Frame) :
    Delivery → Prop where
  | drained (rest : List Json) (halved : Bool) (closes : closeWhenDrained)
      (said : frame.Lists room (.str "EOSE" :: .str id :: rest) halved) :
      Ends room url id closeWhenDrained frame .drained
  | closed (rest : List Json) (halved : Bool)
      (said : frame.Lists room (.str "CLOSED" :: .str id :: rest) halved) :
      Ends room url id closeWhenDrained frame .closed
  | unreadable (fault : Json.ReadFault) (failed : frame.reading? room = some (.error fault))
      (grave : fault ≠ .syntaxError) :
      Ends room url id closeWhenDrained frame (.failed (.value fault.asValue))
  | broken (reason : String) (breaks : frame = .broken reason) :
      Ends room url id closeWhenDrained frame (.failed (brokenLink url reason))

end Frame

namespace Notice

def object? : Notice → Option Delivery
  | event fields => some (.event (.obj fields))
  | unpaired => some .unpaired
  | nothing | drained | closed | failed _ => none

end Notice

namespace Frame

variable (room : Option Nat) (url id : String) (closeWhenDrained : Bool) (frame : Frame)

def object? : Option Delivery := (frame.notice "" id room).object?

end Frame

namespace Feed

section Steps

variable (room : Option Nat) (url id : String) (closeWhenDrained : Bool) (time : Rat)
variable (frame : Frame) (rest : List (Timed Frame))

end Steps

def objects (room : Option Nat) (id : String) (frames : List (Timed Frame)) : Feed :=
  frames.filterMap fun frame => (frame.item.object? room id).map fun delivery =>
    ⟨frame.time, delivery⟩

section Runs

variable (room : Option Nat) (url id : String) (closeWhenDrained : Bool)
variable (front : List (Timed Frame))

end Runs

end Feed

namespace Connection

variable (connection : Connection) (url id : String) (filters : Fields) (closeWhenDrained : Bool)

def listing (parts : List Json) : String := (Json.arr parts).render .compact

end Connection

end TradeWire
