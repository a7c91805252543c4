import ChainWire.Chain.Block
import ChainWire.Proofs.Chain.Transaction

/-!
# Blocks

Blocks are records of strict fields, and the base fee at the end of a header is
told from its absence by the end of the record.
-/

namespace ChainWire
namespace Codec

theorem blockHeader_strict : blockHeader.Strict := by
  apply Strict.through
  · exact .record <| .cons (octets_strict 32) <| .cons (octets_strict 32) <|
      .cons (octets_strict 20) <| .cons (octets_strict 32) <| .cons (octets_strict 32) <|
      .cons (octets_strict 32) <| .cons (octets_strict 256) <| .cons (uint_strict 32) <|
      .cons (uint_strict 32) <| .cons (uint_strict 8) <| .cons (uint_strict 8) <|
      .cons (uint_strict 8) <| .cons bytes_strict <| .cons (octets_strict 32) <|
      .cons (octets_strict 8) <| .optional (uint_strict 32)
  · intro h
    rfl
  · intro fields
    rfl

theorem blockBody_strict : blockBody.Strict := by
  apply Strict.through
  · exact .record <| .cons transaction_strict.list <| .one blockHeader_strict.list
  · intro b
    rfl
  · intro fields
    rfl

theorem block_strict : block.Strict := by
  apply Strict.through
  · exact .record <| .cons blockHeader_strict <| .cons transaction_strict.list <|
      .one blockHeader_strict.list
  · intro b
    rfl
  · intro fields
    rfl

end Codec
end ChainWire
