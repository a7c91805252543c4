import ChainWire.Bytes.Hex
import ChainWire.Kind
import ChainWire.Version

/-!
# Faults

Why writing or reading a message failed.  Each fault is a cause; its wording
is given once, by `message`.
-/

namespace ChainWire

inductive EncodeFault where
  | ambiguousUnion
  | emptyUnion
  /-- More bytes were given than the field is wide, or not as many as it needs. -/
  | widthExceeded (expected got : Nat)
  | unsupportedKind (version : Version) (kind : Kind)
  | missingRequestId (kind : Kind)
  /-- The type byte of a typed transaction or receipt is not below `0x80`. -/
  | invalidEnvelopeType (type : UInt8)
  | unexpectedRequestId (kind : Kind)
deriving DecidableEq, Repr

namespace EncodeFault

def message : EncodeFault -> String
  | ambiguousUnion => "ambiguous union field: both hash and number are set"
  | emptyUnion => "empty union field: neither hash nor number is set"
  | widthExceeded expected got => s!"value is {got} bytes wide, adapter allows {expected}"
  | unsupportedKind version kind =>
      s!"message {kind.name} is not supported by {version.name}"
  | missingRequestId kind =>
      s!"message {kind.name} requires a request id in this protocol version"
  | invalidEnvelopeType type =>
      s!"typed envelope type {Hex.ofNat type.toNat} must be below 0x80"
  | unexpectedRequestId kind =>
      s!"message {kind.name} does not carry a request id in this protocol version"

end EncodeFault

/-- Ways for input to be readable without being in its one canonical form. -/
inductive NonCanonicalForm where
  | singleBytePrefixed
  | lengthLeadingZero
  | longFormShortPayload
  | integerLeadingZero
deriving DecidableEq, Repr

def NonCanonicalForm.message : NonCanonicalForm -> String
  | .singleBytePrefixed => "single byte below 0x80 carries a string prefix"
  | .lengthLeadingZero => "length prefix has a leading zero byte"
  | .longFormShortPayload => "long length form used for a payload of 55 bytes or less"
  | .integerLeadingZero => "integer has a leading zero byte"

inductive Malformation where
  | lengthTooWide
  | nestingTooDeep
  | invalidBool
  | invalidReceiptStatus
  | emptyTypedEnvelope
  | invalidEnvelopeType
deriving DecidableEq, Repr

def Malformation.message : Malformation -> String
  | .lengthTooWide => "length of length exceeds 4 bytes"
  | .nestingTooDeep => "list nesting exceeds the decoder depth bound"
  | .invalidBool => "boolean must encode as 0x80 or 0x01"
  | .invalidReceiptStatus => "receipt status must be empty, 0x01 or a 32-byte root"
  | .emptyTypedEnvelope => "typed envelope is empty"
  | .invalidEnvelopeType => "typed envelope type byte must be below 0x80"

inductive DecodeFault where
  | truncated (expected available : Nat)
  | nonCanonical (form : NonCanonicalForm)
  | trailingData (count : Nat)
  | malformed (cause : Malformation)
  | unsupportedKind (version : Version) (code : Nat)
  /-- A record has too few or too many fields. -/
  | fieldCountMismatch (item : String)
  | unexpectedList
  | unexpectedString
  | unexpectedLength (expected got : Nat)
  | overflow (max got : Nat)
deriving DecidableEq, Repr

namespace DecodeFault

def message : DecodeFault -> String
  | truncated expected available =>
      s!"input truncated: need {expected} bytes, {available} available"
  | nonCanonical form => s!"non-canonical encoding: {form.message}"
  | trailingData count => s!"{count} trailing bytes after top-level item"
  | malformed cause => s!"malformed input: {cause.message}"
  | unsupportedKind version code =>
      s!"message code {Hex.ofNat code} is not supported by {version.name}"
  | fieldCountMismatch item => s!"wrong number of fields for {item}"
  | unexpectedList => "expected byte string, found list"
  | unexpectedString => "expected list, found byte string"
  | unexpectedLength expected got => s!"expected {expected} bytes, found {got}"
  | overflow max got => s!"integer of {got} bytes overflows a {max}-byte target"

end DecodeFault
end ChainWire
