import ChainWire.Chain.Transaction

/-!
# Blocks

Block headers, bodies and whole blocks.  The base fee was added to headers
later and is the only optional field.
-/

namespace ChainWire

structure BlockHeader where
  parentHash : Hash
  uncleHash : Hash
  coinbase : Address
  stateRoot : Hash
  transactionsRoot : Hash
  receiptsRoot : Hash
  logsBloom : Bloom
  difficulty : Uint 32
  number : Uint 32
  gasLimit : Uint 8
  gasUsed : Uint 8
  timestamp : Uint 8
  extraData : Bytes
  mixHash : Hash
  nonce : BlockNonce
  baseFee : Option (Uint 32)
deriving DecidableEq, Inhabited

structure BlockBody where
  transactions : List Transaction
  uncles : List BlockHeader
deriving DecidableEq, Inhabited

structure Block where
  header : BlockHeader
  transactions : List Transaction
  uncles : List BlockHeader
deriving DecidableEq, Inhabited

namespace Codec

def blockHeader : Codec BlockHeader :=
  (record "block header"
    (.cons (octets 32) <| .cons (octets 32) <| .cons (octets 20) <| .cons (octets 32) <|
      .cons (octets 32) <| .cons (octets 32) <| .cons (octets 256) <| .cons (uint 32) <|
      .cons (uint 32) <| .cons (uint 8) <| .cons (uint 8) <| .cons (uint 8) <|
      .cons bytes <| .cons (octets 32) <| .cons (octets 8) <|
      .optional (uint 32))).through
    (fun h =>
      (h.parentHash, h.uncleHash, h.coinbase, h.stateRoot, h.transactionsRoot,
        h.receiptsRoot, h.logsBloom, h.difficulty, h.number, h.gasLimit, h.gasUsed,
        h.timestamp, h.extraData, h.mixHash, h.nonce, h.baseFee))
    (fun (parentHash, uncleHash, coinbase, stateRoot, transactionsRoot, receiptsRoot,
        logsBloom, difficulty, number, gasLimit, gasUsed, timestamp, extraData, mixHash,
        nonce, baseFee) =>
      { parentHash, uncleHash, coinbase, stateRoot, transactionsRoot, receiptsRoot,
        logsBloom, difficulty, number, gasLimit, gasUsed, timestamp, extraData, mixHash,
        nonce, baseFee })

def blockBody : Codec BlockBody :=
  (record "block body" (.cons (list transaction) <| .one (list blockHeader))).through
    (fun b => (b.transactions, b.uncles))
    (fun (transactions, uncles) => { transactions, uncles })

def block : Codec Block :=
  (record "block"
    (.cons blockHeader <| .cons (list transaction) <| .one (list blockHeader))).through
    (fun b => (b.header, b.transactions, b.uncles))
    (fun (header, transactions, uncles) => { header, transactions, uncles })

end Codec
end ChainWire
