import TradeWire.Envelope
import TradeWire.Fetch
/-! A client of the daemon, with the stage of each order it has dealt with. -/

namespace TradeWire

inductive Stage where
  | created | published | awaitingTaker | takenConfirmed | timedOut
  deriving DecidableEq, Repr

def Stage.name : Stage → String
  | created => "created"
  | published => "published"
  | awaitingTaker => "awaiting-taker"
  | takenConfirmed => "taken-confirmed"
  | timedOut => "timed-out"

structure Client where
  keys : Keys
  daemonKey : String
  limit : Number.Double
  network : Network
  /-- The stages that orders have reached, the latest first. -/
  stages : List (String × Stage) := []

/-- A step of a client. What it has done stays done when it fails. -/
abbrev Acting := ExceptT Fault (StateM Client)

namespace Client

def ofNetwork (network : Network) (privateKey daemonKey : String) (limit : Number.Double) :
    Except ValueFault Client :=
  if network.relays.isEmpty then .error (.refused .noRelay)
  else return { network, daemonKey, limit, keys := ← Keys.ofText privateKey }

def stageOf (client : Client) (orderId : String) : Option Stage := client.stages.lookup orderId

end Client

namespace Acting

def ofExcept {α : Type} (outcome : Except Fault α) : Acting α := ExceptT.mk (pure outcome)

def onNetwork {ε α : Type} (wrap : ε → Fault) (operation : StateM Network (Except ε α)) :
    Acting α :=
  ExceptT.mk fun client =>
    let (outcome, network) := operation client.network
    (outcome.mapError wrap, { client with network })

def draw {α : Type} (drawing : Drawing α) : Acting α :=
  onNetwork .value fun network =>
    let (outcome, supply) := drawing network.supply
    (outcome, { network with supply })

def advance (orderId : String) (stage : Stage) : Acting Unit :=
  modify fun client => { client with stages := (orderId, stage) :: client.stages }

end Acting

end TradeWire
