import ChainWire.Chain.Envelope
import ChainWire.Proofs.Codec.Basic

/-!
# Typed envelopes

An envelope is a byte string that starts with a type byte below `0x80`.  It is
read and written as this byte string, so its payload can be anything.
-/

namespace ChainWire
namespace TypedEnvelope

theorem decode_itemWise : decode.ItemWise := by
  apply Decoder.ItemWise.string.andThen
  intro data
  cases data with
  | nil =>
      exact .fail
  | cons type payload =>
      exact .ite .fail .ok

theorem encode_eq_ok_iff {type : UInt8} {payload e : Bytes} :
    encode type payload = .ok e <->
      isReserved type = false ∧ e = Item.ofString (type :: payload) := by
  unfold encode
  cases isReserved type with
  | false =>
      simp [eq_comm]
  | true =>
      simp

theorem decode_ofString {type : UInt8} {payload : Bytes} (htype : isReserved type = false)
    (hlimit : (type :: payload).length < Header.payloadLimit) :
    decode (Item.ofString (type :: payload)) = .ok (type, payload) [] := by
  unfold decode
  rw [Item.string_ofString hlimit]
  simp [htype]

theorem string_of_decode {b rest payload : Bytes} {type : UInt8}
    (h : decode b = .ok (type, payload) rest) :
    isReserved type = false ∧ Item.string b = .ok (type :: payload) rest := by
  rcases Read.andThen_eq_ok h with ⟨data, left, hstring, hread⟩
  cases data with
  | nil =>
      cases hread
  | cons first tail =>
      cases htype : isReserved first with
      | true =>
          simp [htype] at hread
      | false =>
          simp only [htype, Bool.false_eq_true, if_false] at hread
          cases hread
          exact ⟨htype, hstring⟩

theorem eq_ofString_of_decode {b rest payload : Bytes} {type : UInt8}
    (h : decode b = .ok (type, payload) rest) :
    b = Item.ofString (type :: payload) ++ rest :=
  (Item.eq_ofString_of_string (string_of_decode h).2).1

end TypedEnvelope
end ChainWire
