import TradeWire.Number.Decimal
import TradeWire.Text.Quoted
/-! What can go wrong, and how each fault is worded. -/

namespace TradeWire

open Number (Double)

inductive Refusal where
  | eventId
  | emptyBody
  | notOneKey
  | noAction
  | payloadNotObject
  | halfRange
  | amountAndRange
  | invertedRange (low high : Int)
  | noSeparator
  | plaintextSize (size : Nat)
  | padding
  | encoding
  | payloadLength (length : Nat)
  | version (found : Nat)
  | wrongMac
  | noRecipient
  | noAuthor (listing : String)
  | noRelay
  | noRelayUrl
  | noDaemonKey
  | noPrivateKey
  | noCorrelation
  | noInvoice
  deriving DecidableEq, Repr

def Refusal.message : Refusal → String
  | eventId => "event id must be a non-empty string"
  | emptyBody => "empty message array"
  | notOneKey => "message must be a single-key object"
  | noAction => "message has no action"
  | payloadNotObject => "message payload must be an object"
  | halfRange => "min_amount and max_amount must be set together"
  | amountAndRange => "fiat_amount and a fiat range are mutually exclusive"
  | invertedRange low high =>
      "min_amount " ++ toString low ++ " exceeds max_amount " ++ toString high
  | noSeparator => "NIP-04 content has no '?iv=' separator"
  | plaintextSize size => "NIP-44 plaintext must be 1..65535 bytes, got " ++ toString size
  | padding => "NIP-44 padding is invalid"
  | encoding => "NIP-44 payload has an unsupported encoding"
  | payloadLength length => "NIP-44 payload has invalid length " ++ toString length
  | version found => "Unknown NIP-44 version " ++ toString found
  | wrongMac => "NIP-44 MAC does not match"
  | noRecipient => "Direct-message fetch needs a recipient pubkey"
  | noAuthor listing => listing ++ " fetch needs the Mostro pubkey as author"
  | noRelay => "At least one relay is required"
  | noRelayUrl => "At least one relay URL is required (config: relays or env: MOSTRO_RELAYS)"
  | noDaemonKey => "Mostro pubkey is required (config: mostro_pubkey or env: MOSTRO_PUBKEY)"
  | noPrivateKey => "Private key is required (config: private_key or env: MOSTRO_PRIVKEY)"
  | noCorrelation => "Need a correlation_id or a request_id to match replies"
  | noInvoice => "An invoice is required"

inductive ValueFault where
  | refused (why : Refusal)
  | malformed
  | wrongType
  | missingKey
  /-- An infinite number where an integer is asked for. -/
  | tooLarge
  /-- A value that is no text where a text is asked for. -/
  | notText
  /-- Fewer bytes than a fixed field needs. -/
  | cutShort
  | tooDeep
  /-- A text with an unpaired half in it, which no value here can hold. What is made of such a text
  is left open: where this fault is given, there may be a value or another fault. -/
  | unpaired
  deriving DecidableEq, Repr

namespace ValueFault

/-- A value of the right type with a content that is not accepted. -/
def isContent : ValueFault → Bool
  | refused _ | malformed => true
  | _ => false

def isContentOrType : ValueFault → Bool
  | wrongType => true
  | fault => fault.isContent

def isContentOrShape : ValueFault → Bool
  | missingKey => true
  | fault => fault.isContentOrType

def message? : ValueFault → Option String
  | refused why => some why.message
  | _ => none

/-- The reason inside a longer message; a star stands for a fault without one. -/
def reason (fault : ValueFault) : String := fault.message?.getD "*"

end ValueFault

inductive DecodeFault where
  | missing (field : String)
  | notInteger (field value : String)
  | unknownValue (field value : String)
  | inverted (field : String) (low high : Int)
  deriving DecidableEq, Repr

namespace DecodeFault

def field : DecodeFault → String
  | missing field | notInteger field _ | unknownValue field _ | inverted field _ _ => field

def message : DecodeFault → String
  | missing field => "Missing required tag '" ++ field ++ "'"
  | notInteger field value => "Tag '" ++ field ++ "' is not an integer: " ++ Text.quoted value
  | unknownValue field value => "Tag '" ++ field ++ "' has unknown value " ++ Text.quoted value
  | inverted field low high =>
      "Tag '" ++ field ++ "' range is inverted: " ++ toString low ++ " > " ++ toString high

end DecodeFault

inductive ContentFault where
  | body (fault : ValueFault)
  | innerEvent (fault : ValueFault)
  | sealKind (kind : Int)
  | foreignRumor
  deriving DecidableEq, Repr

def ContentFault.reason : ContentFault → String
  | body fault => fault.reason
  | innerEvent fault => "inner event is invalid: " ++ fault.reason
  | sealKind kind => "seal has kind " ++ toString kind
  | foreignRumor => "rumor author does not match seal author"

inductive ParseFault where
  | notDirect (kind : Int)
  | notAddressed
  | undecrypted (fault : ValueFault)
  | content (fault : ContentFault)
  deriving DecidableEq, Repr

def ParseFault.message (eventId : String) : ParseFault → String
  | notDirect kind => "Event " ++ eventId ++ " has kind " ++ toString kind ++ ", not a DM"
  | notAddressed => "Event " ++ eventId ++ " is not addressed to this key"
  | undecrypted fault => "Could not decrypt event " ++ eventId ++ ": " ++ fault.reason
  | content fault => "Could not parse message in event " ++ eventId ++ ": " ++ fault.reason

inductive LinkFault where
  | connection (text : String)
  | silent (timeout : Double)
  | value (fault : ValueFault)
  deriving DecidableEq, Repr

def LinkFault.reason : LinkFault → String
  | connection text => text
  | silent timeout => "no response within " ++ timeout.shortText ++ "s"
  | value fault => fault.reason

/-- The fault of each relay, by its address, when none is left. -/
abbrev Outage := List (String × LinkFault)

def Outage.message (outage : Outage) : String :=
  "No relay could be reached (" ++
    "; ".intercalate (outage.map fun (url, fault) => url ++ ": " ++ fault.reason) ++ ")"

inductive WaitFault where
  | timeout (limit : Double)
  | notPublished (outage : Outage)
  | allEnded (outage : Option Outage)
  deriving DecidableEq, Repr

def WaitFault.message : WaitFault → String
  | timeout limit => "No response within " ++ limit.shortText ++ "s"
  | notPublished _ => "Request was not published"
  | allEnded _ => "Every relay subscription ended"

inductive Surprise where
  | noOrder (request action : String)
  | invalidOrder (fault : DecodeFault)
  | invoice (orderId : String)
  | amount (orderId : String)
  | otherAction (orderId found : String)
  deriving DecidableEq, Repr

def Surprise.message : Surprise → String
  | noOrder request action => "Reply to " ++ request ++ " (" ++ action ++ ") carries no order"
  | invalidOrder fault => "Reply carries an invalid order: " ++ fault.message
  | invoice orderId => "Payment request for " ++ orderId ++ " has an invalid invoice"
  | amount orderId => "Payment request for " ++ orderId ++ " has an invalid amount"
  | otherAction orderId found =>
      "Expected waiting-seller-to-pay for order " ++ orderId ++ ", got " ++ found

def refusalTexts : List (String × String) := [
  ("invalid_signature", "Invalid signature - authentication failed"),
  ("invalid_trade_index", "Invalid trade index - please try again"),
  ("invalid_amount", "Invalid amount - check your order values"),
  ("invalid_invoice", "Invalid invoice - please provide a valid lightning invoice"),
  ("invalid_payment_request", "Invalid payment request"),
  ("invalid_peer", "Invalid peer information"),
  ("invalid_rating", "Invalid rating value"),
  ("invalid_text_message", "Invalid text message"),
  ("invalid_order_kind", "Invalid order kind - must be 'buy' or 'sell'"),
  ("invalid_order_status", "Invalid order status"),
  ("invalid_pubkey", "Invalid public key"),
  ("invalid_parameters", "Invalid parameters - check your order details"),
  ("order_already_canceled", "Order is already canceled"),
  ("cant_create_user", "Cannot create user - please contact support"),
  ("is_not_your_order", "This is not your order"),
  ("not_allowed_by_status", "Action not allowed - order status prevents this operation"),
  ("out_of_range_fiat_amount", "Fiat amount is out of acceptable range"),
  ("out_of_range_sats_amount", "Satoshis amount is out of acceptable range"),
  ("is_not_your_dispute", "This is not your dispute"),
  ("dispute_taken_by_admin", "Dispute has been taken over by an administrator"),
  ("dispute_creation_error", "Cannot create dispute for this order"),
  ("not_found", "Resource not found"),
  ("invalid_dispute_status", "Invalid dispute status"),
  ("invalid_action", "Invalid action for current state"),
  ("pending_order_exists",
    "You already have a pending order - please complete or cancel it first"),
  ("invalid_fiat_currency",
    "Invalid fiat currency - currency not supported or specify a fixed rate"),
  ("too_many_requests", "Too many requests - please wait and try again")]

def refusalText : Option String → String
  | none => "Unknown error - Mostro couldn't process your request"
  | some reason => (refusalTexts.lookup reason).getD ("Request refused: " ++ reason)

inductive RequestFault where
  | noResponse (timeout : Double)
  | notSent (fault : WaitFault)
  | notAnnounced (orderId : String) (outage : Outage)
  | rejected (reason : Option String)
  | unexpected (surprise : Surprise)
  deriving DecidableEq, Repr

def RequestFault.message : RequestFault → String
  | noResponse timeout => "Mostro did not respond within " ++ timeout.shortText ++ "s"
  | notSent fault => fault.message
  | notAnnounced orderId outage => "Order " ++ orderId ++ " was not published: " ++ outage.message
  | rejected reason => refusalText reason
  | unexpected surprise => surprise.message

/-- Every fault that an operation can end with, and that it does not end. -/
inductive Fault where
  | value (fault : ValueFault)
  | decode (fault : DecodeFault)
  | parse (eventId : String) (fault : ParseFault)
  | link (fault : LinkFault)
  | outage (outage : Outage)
  | wait (fault : WaitFault)
  | request (fault : RequestFault)
  | endless
  deriving DecidableEq, Repr

def Fault.refuse (why : Refusal) : Fault := .value (.refused why)

end TradeWire
