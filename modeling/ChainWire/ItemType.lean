import ChainWire.Message.Body

/-!
# The types of items

Every type that travels as one item, as data.  Lists are of items of one type,
and the body of a message is an item as well.  A reference to an item, or a box
around it, travels as the item, so it is no type of its own.
-/

namespace ChainWire

inductive ItemType where
  | uint (width : Nat)
  | bool
  | bytes
  | octets (width : Nat)
  | value
  | raw
  | list (items : ItemType)
  | blockRef
  | legacyTransaction
  | transaction
  | log
  | receiptStatus
  | receipt
  | blockHeader
  | blockBody
  | block
  | voteData
  | vote
  | forkId
  | blockAnnouncement
  | body (kind : Kind)
deriving DecidableEq, Repr

namespace ItemType

abbrev Carrier : ItemType -> Type
  | uint width => Uint width
  | bool => Bool
  | bytes => Bytes
  | octets width => Octets width
  | value => Value
  | raw => RawItem
  | list items => List items.Carrier
  | blockRef => BlockRef
  | legacyTransaction => LegacyTransaction
  | transaction => Transaction
  | log => Log
  | receiptStatus => ReceiptStatus
  | receipt => Receipt
  | blockHeader => BlockHeader
  | blockBody => BlockBody
  | block => Block
  | voteData => VoteData
  | vote => Vote
  | forkId => ForkId
  | blockAnnouncement => BlockAnnouncement
  | body kind => kind.Body

def codec : (t : ItemType) -> Codec t.Carrier
  | uint width => .uint width
  | bool => .bool
  | bytes => .bytes
  | octets width => .octets width
  | value => .value
  | raw => .raw
  | list items => .list items.codec
  | blockRef => .blockRef
  | legacyTransaction => .legacyTransaction
  | transaction => .transaction
  | log => .log
  | receiptStatus => .receiptStatus
  | receipt => .receipt
  | blockHeader => .blockHeader
  | blockBody => .blockBody
  | block => .block
  | voteData => .voteData
  | vote => .vote
  | forkId => .forkId
  | blockAnnouncement => .blockAnnouncement
  | body kind => kind.codec

end ItemType
end ChainWire
