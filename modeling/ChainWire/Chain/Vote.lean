import ChainWire.Codec.Record

/-!
# Votes

Signed votes of validators on the finality of blocks.
-/

namespace ChainWire

/-- The two blocks that a vote links. -/
structure VoteData where
  sourceNumber : Uint 8
  sourceHash : Hash
  targetNumber : Uint 8
  targetHash : Hash
deriving DecidableEq, Inhabited

structure Vote where
  address : VoteKey
  signature : VoteSignature
  data : VoteData
deriving DecidableEq, Inhabited

namespace Codec

def voteData : Codec VoteData :=
  (record "vote data"
    (.cons (uint 8) <| .cons (octets 32) <| .cons (uint 8) <| .one (octets 32))).through
    (fun d => (d.sourceNumber, d.sourceHash, d.targetNumber, d.targetHash))
    (fun (sourceNumber, sourceHash, targetNumber, targetHash) =>
      { sourceNumber, sourceHash, targetNumber, targetHash })

def vote : Codec Vote :=
  (record "vote envelope"
    (.cons (octets 48) <| .cons (octets 96) <| .one voteData)).through
    (fun v => (v.address, v.signature, v.data))
    (fun (address, signature, data) => { address, signature, data })

end Codec
end ChainWire
