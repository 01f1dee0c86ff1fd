import TradeWire.Event
/-! Filters: what a relay is asked for. -/

namespace TradeWire

inductive Listing where
  | orders | disputes | directMessages
  deriving DecidableEq, Repr

namespace Listing

def name : Listing → String
  | orders => "orders"
  | disputes => "disputes"
  | directMessages => "direct-messages"

def eventKind : Listing → Int
  | orders => Event.orderKind
  | disputes => Event.disputeKind
  | directMessages => Event.giftWrapKind

end Listing

/-- Orders and disputes are asked for by author, direct messages by recipient. -/
structure Filter.Params where
  author : Option String := none
  recipient : Option String := none
  since : Option Int := none
  limit : Option Int := some 50

namespace Filter

def named (text : Option String) : Option String := text.filter (· ≠ "")

def party (listing : Listing) (params : Params) : Except Refusal (String × Json) :=
  match listing with
  | .directMessages =>
      match named params.recipient with
      | some recipient => .ok ("#p", .arr [.str recipient])
      | none => .error .noRecipient
  | listing =>
      match named params.author with
      | some author => .ok ("authors", .arr [.str author])
      | none => .error (.noAuthor listing.name)

def build (listing : Listing) (params : Params) : Except Refusal Fields := do
  let party ← party listing params
  return [("kinds", .arr [.int listing.eventKind]), party] ++
    (params.since.map fun since => ("since", .int since)).toList ++
    (params.limit.map fun limit => ("limit", .int limit)).toList

/-- New gift wraps for a recipient. Their times are moved into the past, so stored events are
excluded by the limit and not by time. -/
def newWraps (recipient : String) : Fields := [
  ("kinds", .arr [.int Event.giftWrapKind]),
  ("#p", .arr [.str recipient]),
  ("limit", .int 0)]

end Filter

end TradeWire
