import TradeWire.Bytes.Basic
import TradeWire.Fault
/-! What a client draws from outside: the time and random values. -/

namespace TradeWire

/-- The clock, and for each purpose the random values in the order in which they are drawn. An empty
queue gives zero, or an empty value. -/
structure Supply where
  now : Int := 1700000000
  ids : List Nat := []
  nonces : List Bytes := []
  /-- Seconds by which a time is moved into the past. -/
  offsets : List Nat := []
  throwaway : List String := []

namespace Supply

def draw {α : Type} (default : α) : List α → α × List α
  | [] => (default, [])
  | a :: rest => (a, rest)

def takeId (supply : Supply) : Nat × Supply :=
  let (id, rest) := draw 0 supply.ids
  (id, { supply with ids := rest })

def takeNonce (supply : Supply) : Bytes × Supply :=
  let (nonce, rest) := draw [] supply.nonces
  (nonce, { supply with nonces := rest })

def takeOffset (supply : Supply) : Nat × Supply :=
  let (offset, rest) := draw 0 supply.offsets
  (offset, { supply with offsets := rest })

def takeKey (supply : Supply) : String × Supply :=
  let (key, rest) := draw "" supply.throwaway
  (key, { supply with throwaway := rest })

end Supply

/-- A computation that draws from a supply; what it has drawn stays drawn when it fails. -/
abbrev Drawing := ExceptT ValueFault (StateM Supply)

namespace Drawing

def now : Drawing Int := do return (← get).now

def nonce : Drawing Bytes := modifyGet Supply.takeNonce

def key : Drawing String := modifyGet Supply.takeKey

def pastTime : Drawing Int := do
  let offset ← modifyGet Supply.takeOffset
  return (← get).now - offset

end Drawing

def groupedId (id : Nat) : String :=
  let digits := Text.fixedHex 32 id
  let part (first count : Nat) := (digits.drop first).take count
  String.ofList (part 0 8 ++ '-' :: part 8 4 ++ '-' :: part 12 4 ++ '-' :: part 16 4 ++
    '-' :: part 20 12)

end TradeWire
