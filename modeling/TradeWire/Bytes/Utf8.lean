import TradeWire.Bytes.Basic
/-! Text as UTF-8. -/

namespace TradeWire.Bytes

def ofText (text : String) : Bytes := text.toUTF8.data.toList

/-- Every text has one form; any other byte string is refused. -/
def toText? (bytes : Bytes) : Option String := String.fromUTF8? bytes.toByteArray

end TradeWire.Bytes
