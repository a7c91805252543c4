/-!
# Message kinds

The closed set of messages that peers exchange, and what is fixed about each:
its wire code, its role, and which request it answers.

Three responses have a raw form, which keeps the received items unread so that
they can be passed on.  A raw kind shares the code of its materialized kind;
which of the two a receiver reads is a local choice.
-/

namespace ChainWire

inductive Role where
  | request
  | response
  | notification
deriving DecidableEq, Repr

def Role.name : Role -> String
  | .request => "Request"
  | .response => "Response"
  | .notification => "Notification"

inductive Kind where
  | status
  | newBlockHashes
  | transactions
  | getBlockHeaders
  | blockHeaders
  | getBlockBodies
  | blockBodies
  | blockBodiesRaw
  | newBlock
  | newPooledTransactionHashes
  | getPooledTransactions
  | pooledTransactions
  | pooledTransactionsRaw
  | getNodeData
  | nodeData
  | getReceipts
  | receipts
  | receiptsRaw
  | votes
deriving DecidableEq, Repr, Inhabited

namespace Kind

def all : List Kind :=
  [status, newBlockHashes, transactions, getBlockHeaders, blockHeaders, getBlockBodies,
    blockBodies, blockBodiesRaw, newBlock, newPooledTransactionHashes, getPooledTransactions,
    pooledTransactions, pooledTransactionsRaw, getNodeData, nodeData, getReceipts, receipts,
    receiptsRaw, votes]

theorem mem_all (k : Kind) : k ∈ all := by
  cases k <;> decide

def name : Kind -> String
  | status => "Status"
  | newBlockHashes => "NewBlockHashes"
  | transactions => "Transactions"
  | getBlockHeaders => "GetBlockHeaders"
  | blockHeaders => "BlockHeaders"
  | getBlockBodies => "GetBlockBodies"
  | blockBodies => "BlockBodies"
  | blockBodiesRaw => "BlockBodiesRaw"
  | newBlock => "NewBlock"
  | newPooledTransactionHashes => "NewPooledTransactionHashes"
  | getPooledTransactions => "GetPooledTransactions"
  | pooledTransactions => "PooledTransactions"
  | pooledTransactionsRaw => "PooledTransactionsRaw"
  | getNodeData => "GetNodeData"
  | nodeData => "NodeData"
  | getReceipts => "GetReceipts"
  | receipts => "Receipts"
  | receiptsRaw => "ReceiptsRaw"
  | votes => "Votes"

def ofName? (s : String) : Option Kind :=
  all.find? fun k => k.name == s

def code : Kind -> Nat
  | status => 0x00
  | newBlockHashes => 0x01
  | transactions => 0x02
  | getBlockHeaders => 0x03
  | blockHeaders => 0x04
  | getBlockBodies => 0x05
  | blockBodies | blockBodiesRaw => 0x06
  | newBlock => 0x07
  | newPooledTransactionHashes => 0x08
  | getPooledTransactions => 0x09
  | pooledTransactions | pooledTransactionsRaw => 0x0a
  | getNodeData => 0x0d
  | nodeData => 0x0e
  | getReceipts => 0x0f
  | receipts | receiptsRaw => 0x10
  | votes => 0x11

def role : Kind -> Role
  | getBlockHeaders | getBlockBodies | getPooledTransactions | getNodeData | getReceipts =>
      .request
  | blockHeaders | blockBodies | blockBodiesRaw | pooledTransactions | pooledTransactionsRaw
  | nodeData | receipts | receiptsRaw => .response
  | status | newBlockHashes | transactions | newBlock | newPooledTransactionHashes | votes =>
      .notification

/-- Whether the items of the message stay unread. -/
def isRaw : Kind -> Bool
  | blockBodiesRaw | pooledTransactionsRaw | receiptsRaw => true
  | _ => false

/-- The kind to read when a message will only be passed on. -/
def relayed : Kind -> Kind
  | blockBodies => blockBodiesRaw
  | pooledTransactions => pooledTransactionsRaw
  | receipts => receiptsRaw
  | k => k

def materialized : Kind -> Kind
  | blockBodiesRaw => blockBodies
  | pooledTransactionsRaw => pooledTransactions
  | receiptsRaw => receipts
  | k => k

def ofCode? (c : Nat) : Option Kind :=
  all.find? fun k => !k.isRaw && k.code == c

def answer? : Kind -> Option Kind
  | getBlockHeaders => some blockHeaders
  | getBlockBodies => some blockBodies
  | getPooledTransactions => some pooledTransactions
  | getNodeData => some nodeData
  | getReceipts => some receipts
  | _ => none

/-- Whether a message of kind `response`, in either form, answers this kind. -/
def isAnsweredBy (k response : Kind) : Bool :=
  k.answer? == some response.materialized

def index (k : Kind) : Nat :=
  all.idxOf k

theorem code_relayed (k : Kind) : k.relayed.code = k.code := by
  cases k <;> rfl

theorem code_materialized (k : Kind) : k.materialized.code = k.code := by
  cases k <;> rfl

theorem ofCode?_code (k : Kind) : ofCode? k.code = some k.materialized := by
  cases k <;> rfl

end Kind
end ChainWire
