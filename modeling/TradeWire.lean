import TradeWire.Client.Command
import TradeWire.Proofs.Bytes
import TradeWire.Proofs.Cipher.Nip44
import TradeWire.Proofs.Json.RoundTrip
import TradeWire.Relay.Single
import TradeWire.Settings
import TradeWire.Proofs.Event
import TradeWire.Proofs.Drawing
import TradeWire.Proofs.Message
import TradeWire.Proofs.Envelope.Layers
import TradeWire.Proofs.Envelope.Size
import TradeWire.Proofs.Envelope.RoundTrip
import TradeWire.Proofs.Cipher.Faults
import TradeWire.Proofs.Overflow
import TradeWire.Proofs.Envelope.Opening
import TradeWire.Proofs.Inbox
import TradeWire.Proofs.Await
import TradeWire.Proofs.Envelope.Sender
import TradeWire.Proofs.Cipher.Format
import TradeWire.Proofs.Number
import TradeWire.Proofs.Order.Tags
import TradeWire.Proofs.Fetch
import TradeWire.Proofs.Feed
import TradeWire.Proofs.Collection
import TradeWire.Proofs.Order.Book
import TradeWire.Proofs.Order.Payload
import TradeWire.Proofs.Listing
import TradeWire.Proofs.Reply
import TradeWire.Proofs.Stages
import TradeWire.Proofs.Refusal
import TradeWire.Proofs.Correlation
import TradeWire.Proofs.Listening
import TradeWire.Proofs.Lost
import TradeWire.Proofs.Curve.Primality
import TradeWire.Proofs.Curve.Group
import TradeWire.Proofs.Hex
import TradeWire.Proofs.Curve.Secret
import TradeWire.Proofs.Envelope.Exposure
import TradeWire.Proofs.Order.Reading
import TradeWire.Proofs.Order.Newest
import TradeWire.Proofs.Arrangement
import TradeWire.Proofs.Distinct
import TradeWire.Proofs.Merging
import TradeWire.Proofs.InboxOrder
import TradeWire.Proofs.Attempts
import TradeWire.Proofs.Order.Making
import TradeWire.Proofs.Order.RoundTrip
import TradeWire.Proofs.Confirmation
import TradeWire.Proofs.Frames
import TradeWire.Proofs.Order.Rearranging
import TradeWire.Proofs.Order.Strictness
import TradeWire.Proofs.Json.Delimited
import TradeWire.Proofs.Commitment
import TradeWire.Proofs.Publishing
import TradeWire.Proofs.Order.Disputes
import TradeWire.Proofs.Cipher.Nip04
import TradeWire.Proofs.Curve.Lifting
import TradeWire.Proofs.Rereading
import TradeWire.Proofs.PrivateKey
