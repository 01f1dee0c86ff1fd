import TradeWire.Json.Token
/-! Reading JSON: a machine takes one token at a time and keeps the open lists and objects. -/

namespace TradeWire.Json

inductive ReadFault where
  | syntaxError
  | tooLong
  | tooDeep
  | undecodable
  /-- A text has an unpaired half in it, so no value here can hold it. -/
  | unpaired
  deriving DecidableEq, Repr

/-- A list or an object that is still open; the items of a list are kept in reverse. -/
inductive Level where
  | list (items : List Json)
  | object (fields : Fields) (key : String)

inductive Expecting where
  | needValue (outer : List Level)
  | itemOrClose (outer : List Level)
  | afterItem (items : List Json) (outer : List Level)
  | keyOrClose (outer : List Level)
  | needKey (fields : Fields) (outer : List Level)
  | needColon (fields : Fields) (key : String) (outer : List Level)
  | afterField (fields : Fields) (outer : List Level)
  | finished (value : Json)

namespace Expecting

def deliver (value : Json) : List Level → Expecting
  | [] => finished value
  | .list items :: outer => afterItem (value :: items) outer
  | .object fields key :: outer => afterField (fields.put key value) outer

def start (token : Token) (outer : List Level) : Except ReadFault Expecting :=
  match token with
  | .openList => .ok (itemOrClose outer)
  | .openObject => .ok (keyOrClose outer)
  | .scalar value => .ok (deliver value outer)
  | .text content => .ok (deliver (.str content) outer)
  | .tooLong => .error .tooLong
  | _ => .error .syntaxError

def step : Expecting → Token → Except ReadFault Expecting
  | needValue outer, token => start token outer
  | itemOrClose outer, .closeList => .ok (deliver (.arr []) outer)
  | itemOrClose outer, token => start token (.list [] :: outer)
  | afterItem items outer, .comma => .ok (needValue (.list items :: outer))
  | afterItem items outer, .closeList => .ok (deliver (.arr items.reverse) outer)
  | keyOrClose outer, .closeObject => .ok (deliver (.obj []) outer)
  | keyOrClose outer, .text key => .ok (needColon [] key outer)
  | needKey fields outer, .text key => .ok (needColon fields key outer)
  | needColon fields key outer, .colon => .ok (needValue (.object fields key :: outer))
  | afterField fields outer, .comma => .ok (needKey fields outer)
  | afterField fields outer, .closeObject => .ok (deliver (.obj fields) outer)
  | _, _ => .error .syntaxError

def finish : Expecting → Except ReadFault Json
  | finished value => .ok value
  | _ => .error .syntaxError

def depth : Expecting → Nat
  | needValue outer => outer.length
  | itemOrClose outer | afterItem _ outer | keyOrClose outer => outer.length + 1
  | needKey _ outer | needColon _ _ outer | afterField _ outer => outer.length + 1
  | finished _ => 0

/-- What is taken for a text with an unpaired half: a value that equals nothing and counts as true,
or an empty key. -/
def standIn : Expecting → Token → Token
  | keyOrClose _, .halved | needKey _ _, .halved => .text ""
  | _, .halved => .scalar (.float .nan)
  | _, token => token

def stepIn (room : Option Nat) (state : Expecting) (token : Token) :
    Except ReadFault Expecting := do
  let next ← state.step (state.standIn token)
  if room.any (· < next.depth) then .error .tooDeep else return next

end Expecting

def Token.isHalved : Token → Bool
  | halved => true
  | _ => false

/-- Reads on over texts with an unpaired half; the flag tells whether there was one. -/
def skimTokens (found : List Token) (room : Option Nat) : Except ReadFault (Json × Bool) := do
  let last ← found.foldlM (Expecting.stepIn room) (.needValue [])
  return (← last.finish, found.any Token.isHalved)

def skim (chars : List Char) (room : Option Nat) : Except ReadFault (Json × Bool) :=
  skimTokens (tokens chars) room

def read (chars : List Char) (room : Option Nat := none) : Except ReadFault Json := do
  let (value, halved) ← skim chars room
  if halved then .error .unpaired else return value

def parse (text : String) (room : Option Nat := none) : Except ReadFault Json :=
  read text.toList room

end TradeWire.Json
