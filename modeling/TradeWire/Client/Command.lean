import TradeWire.Client.Listing
import TradeWire.Client.Request
/-! Everything that a client can be told to do. -/

namespace TradeWire

inductive Command where
  | publishOrder (order : Order)
  | requestOrder (order : Order) (limit : Option Number.Double)
  | takeOrder (taking : Acting.Taking)
  | addInvoice (orderId invoice : String) (keys : Option Keys) (limit : Option Number.Double)
  | listOrders (query : Order.Query)
  | listDisputes
  | readMessages (since : Option Int)

inductive Answer where
  | event (event : Event)
  | order (order : Order)
  | confirmation (confirmation : Confirmation)
  | message (message : DirectMessage)
  | orders (orders : List Order)
  | disputes (disputes : List Dispute)
  | messages (messages : List DirectMessage)

namespace Command

def perform : Command → Acting Answer
  | publishOrder order => return .event (← Acting.publishOrder order)
  | requestOrder order limit => return .order (← Acting.requestOrder order limit)
  | takeOrder taking => return .confirmation (← Acting.takeOrder taking)
  | addInvoice orderId invoice keys limit =>
      return .message (← Acting.addInvoice orderId invoice keys limit)
  | listOrders query => return .orders (← Acting.orders query)
  | listDisputes => return .disputes (← Acting.disputes)
  | readMessages since => return .messages (← Acting.messages since)

end Command

end TradeWire
