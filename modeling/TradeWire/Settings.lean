import TradeWire.Keys
import TradeWire.Number.FloatText
/-! The settings of a client: a configuration first, then variables, then defaults. -/

namespace TradeWire

structure Settings where
  urls : List String
  daemonKey : Json
  keys : Keys
  timeout : Number.Double

namespace Settings

def defaultRelay : String := "wss://relay.mostro.network"

def defaultTimeout : Number.Double := Number.Double.ofInt 15

/-- The addresses in a text with commas, in a list, or among the keys of an object. Blanks around an
address are dropped, and so are values that count as false. -/
def relayUrls (value : Json) : Except ValueFault (List String) := do
  let candidates ← match value with
    | .str text =>
        .ok ((Text.splitAt ',' text.toList).map fun piece => Json.str (String.ofList piece))
    | .arr items => .ok items
    | .obj fields => .ok (fields.map fun field => Json.str field.1)
    | _ => .error .wrongType
  let urls ← candidates.filterMapM fun
    | .str url => .ok (some (Text.trim url))
    | other => if other.isTrue then .error .notText else .ok none
  return urls.filter (· ≠ "")

def toDouble : Json → Except ValueFault Number.Double
  | .bool value => .ok (Number.Double.ofInt (if value then 1 else 0))
  | .int value =>
      match Number.Double.ofInt value with
      | .infinite _ => .error .tooLarge
      | x => .ok x
  | .float x => .ok x
  | .str text =>
      match Number.readDouble? text.toList with
      | some x => .ok x
      | none => .error .malformed
  | _ => .error .wrongType

def choose (config : Fields) (env : String → Option String) (key name : String) :
    Option Json :=
  match config.get? key with
  | some value => if value.isTrue then some value else (env name).map .str
  | none => (env name).map .str

def chooseTrue (config : Fields) (env : String → Option String) (key name : String) :
    Option Json :=
  (choose config env key name).filter Json.isTrue

def keysOf : Json → Except ValueFault Keys
  | .str text => Keys.ofText text
  | _ => .error .wrongType

def resolve (config : Fields) (env : String → Option String) : Except ValueFault Settings := do
  let urls ← relayUrls ((choose config env "relays" "MOSTRO_RELAYS").getD (.str defaultRelay))
  if urls.isEmpty then .error (.refused .noRelayUrl)
  match chooseTrue config env "mostro_pubkey" "MOSTRO_PUBKEY" with
  | none => .error (.refused .noDaemonKey)
  | some daemonKey =>
      match chooseTrue config env "private_key" "MOSTRO_PRIVKEY" with
      | none => .error (.refused .noPrivateKey)
      | some privateKey => do
          let timeout ← match choose config env "timeout" "MOSTRO_TIMEOUT" with
            | some value => toDouble value
            | none => .ok defaultTimeout
          return { urls, daemonKey, timeout, keys := ← keysOf privateKey }

end Settings

end TradeWire
