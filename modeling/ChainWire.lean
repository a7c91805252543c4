import ChainWire.Logging.Basic
import ChainWire.Proofs.Attempt.Basic
import ChainWire.Proofs.Attempt.ItemType
import ChainWire.Proofs.Attempt.Packet
import ChainWire.Proofs.Catalog
import ChainWire.Proofs.Chain.Block
import ChainWire.Proofs.Chain.Envelope
import ChainWire.Proofs.Chain.Receipt
import ChainWire.Proofs.Chain.Transaction
import ChainWire.Proofs.Codec.Basic
import ChainWire.Proofs.Codec.Counting
import ChainWire.Proofs.Codec.Faults
import ChainWire.Proofs.Codec.Primitive
import ChainWire.Proofs.Codec.Record
import ChainWire.Proofs.Digits
import ChainWire.Proofs.Header
import ChainWire.Proofs.Header.RoundTrip
import ChainWire.Proofs.Item
import ChainWire.Proofs.ItemType
import ChainWire.Proofs.Layout.Basic
import ChainWire.Proofs.Layout.Writing
import ChainWire.Proofs.Message.Body
import ChainWire.Proofs.Message.Faults
import ChainWire.Proofs.Message.Forwarding
import ChainWire.Proofs.Message.Framing
import ChainWire.Proofs.Message.Keeping
import ChainWire.Proofs.Message.Prewriting
import ChainWire.Proofs.Message.Refusals
import ChainWire.Proofs.Message.Relay
import ChainWire.Proofs.Message.Resending
import ChainWire.Proofs.Message.RoundTrip
import ChainWire.Proofs.Message.Versions
import ChainWire.Proofs.RawItem
import ChainWire.Proofs.Reading
import ChainWire.Proofs.Reading.FirstItem
import ChainWire.Proofs.Reading.Rounds
import ChainWire.Proofs.RecordType
import ChainWire.Proofs.RecordType.FieldCount
import ChainWire.Proofs.Session.Accounting
import ChainWire.Proofs.Session.Basic
import ChainWire.Proofs.Session.Delivery
import ChainWire.Proofs.Session.Dispatching
import ChainWire.Proofs.Session.Exchange
import ChainWire.Proofs.Session.Link
import ChainWire.Proofs.Session.Sending
import ChainWire.Proofs.Session.Service
import ChainWire.Proofs.Shape.Basic
import ChainWire.Proofs.Shape.Chain
import ChainWire.Proofs.Shape.Message
import ChainWire.Proofs.Shape.Reading
import ChainWire.Proofs.Uint
import ChainWire.Proofs.Uint.Octets
import ChainWire.Proofs.Value.Basic
import ChainWire.Proofs.Value.Canonical
import ChainWire.Proofs.Value.Injective
import ChainWire.Proofs.Value.RoundTrip
import ChainWire.Proofs.Value.Size
import ChainWire.Proofs.Value.Writing
import ChainWire.Proofs.Writer.Appending
import ChainWire.Proofs.Writer.Basic
import ChainWire.Proofs.Writer.Builder
import ChainWire.Proofs.Writer.ReadBack
import ChainWire.Session.Dialogue
import ChainWire.Settings.Document
import ChainWire.Settings.Environment
