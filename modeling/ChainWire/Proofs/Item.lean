import ChainWire.Proofs.Header

/-!
# Items and their payloads

An item is a form, byte string or list, around a payload.  Reading the header
of a written item leaves its payload next, and every header that can be read
announces a written item.  A whole item is one whose payload is short enough to
be received; it is the unit in which all decoders move.
-/

namespace ChainWire
namespace Item

open Header (payloadLimit startsBare redundant)

def wrap (isList : Bool) (payload : Bytes) : Bytes :=
  if isList then ofPayload payload else ofString payload

@[simp] theorem wrap_false (payload : Bytes) : wrap false payload = ofString payload := rfl

@[simp] theorem wrap_true (payload : Bytes) : wrap true payload = ofPayload payload := rfl

/-- Exactly one item, with a payload that can be received. -/
def IsWhole (b : Bytes) : Prop :=
  exists (isList : Bool) (payload : Bytes),
    b = wrap isList payload ∧ payload.length < payloadLimit

/-- Exactly one list item, and the given items are its parts. -/
def IsListOf (parts : List Bytes) (b : Bytes) : Prop :=
  b = ofPayload parts.flatten ∧ parts.flatten.length < payloadLimit ∧
    forall e, e ∈ parts -> IsWhole e

theorem isWhole_wrap {isList : Bool} {payload : Bytes} (h : payload.length < payloadLimit) :
    IsWhole (wrap isList payload) :=
  ⟨isList, payload, rfl, h⟩

theorem IsListOf.isWhole {parts : List Bytes} {b : Bytes} (h : IsListOf parts b) :
    IsWhole b :=
  ⟨true, parts.flatten, h.1, h.2.1⟩

/-!
## Written forms
-/

theorem startsBare_cons (x : UInt8) (rest : Bytes) :
    startsBare (x :: rest) = decide (x.toNat < Header.stringBase) := rfl

theorem ofString_cases (data : Bytes) :
    (exists x : UInt8, x.toNat < Header.stringBase ∧ data = [x] ∧ ofString data = [x]) ∨
      (ofString data = (Header.string data.length).encode ++ data ∧
        forall rest, redundant (Header.string data.length) (data ++ rest) = false) := by
  match data with
  | [] =>
      exact Or.inr ⟨rfl, fun _ => rfl⟩
  | [x] =>
      by_cases hx : x.toNat < Header.stringBase
      · exact Or.inl ⟨x, hx, rfl, if_pos hx⟩
      · refine Or.inr ⟨if_neg hx, fun rest => ?_⟩
        simp [redundant, startsBare_cons, hx]
  | x :: y :: tail =>
      refine Or.inr ⟨rfl, fun rest => ?_⟩
      simp [redundant, Header.string]

theorem ofString_of_not_redundant {data : Bytes}
    (h : redundant (Header.string data.length) data = false) :
    ofString data = (Header.string data.length).encode ++ data := by
  rcases ofString_cases data with ⟨x, hx, rfl, _⟩ | ⟨hwritten, _⟩
  · simp [redundant, startsBare_cons, hx] at h
  · exact hwritten

theorem wrap_of_not_redundant {isList : Bool} {payload : Bytes}
    (h : redundant ⟨isList, payload.length⟩ payload = false) :
    wrap isList payload = (Header.mk isList payload.length).encode ++ payload := by
  cases isList with
  | false =>
      exact ofString_of_not_redundant h
  | true =>
      rfl

theorem length_payload_le_length_wrap (isList : Bool) (payload : Bytes) :
    payload.length <= (wrap isList payload).length := by
  cases isList with
  | false =>
      rcases ofString_cases payload with ⟨x, _, rfl, hbare⟩ | ⟨hwritten, _⟩
      · simp [hbare]
      · simp [hwritten]
  | true =>
      simp [ofPayload]

theorem length_wrap_le {isList : Bool} {payload : Bytes}
    (h : payload.length < BigEndian.bound 8) :
    (wrap isList payload).length <= payload.length + 9 := by
  have hheader := Header.length_encode_le (h := ⟨isList, payload.length⟩) h
  cases isList with
  | false =>
      rcases ofString_cases payload with ⟨x, _, rfl, hbare⟩ | ⟨hwritten, _⟩
      · simp [hbare]
      · rw [wrap_false, hwritten, List.length_append, Header.string]
        omega
  | true =>
      rw [wrap_true, ofPayload, List.length_append, Header.list]
      omega

/-!
## Reading headers of items
-/

theorem header_wrap_append {isList : Bool} {payload : Bytes}
    (h : payload.length < payloadLimit) (rest : Bytes) :
    Header.decode (wrap isList payload ++ rest) =
      .ok ⟨isList, payload.length⟩ (payload ++ rest) := by
  have hle : payload.length <= (payload ++ rest).length := by
    simp
  cases isList with
  | false =>
      rcases ofString_cases payload with ⟨x, hx, rfl, hbare⟩ | ⟨hwritten, hneeded⟩
      · rw [wrap_false, hbare, List.singleton_append, Header.decode_cons_bare hx]
        rfl
      · rw [wrap_false, hwritten, List.append_assoc,
          Header.decode_encode_append (h := Header.string payload.length) h (hneeded rest),
          Header.present_of_le (h := Header.string payload.length) hle]
        rfl
  | true =>
      rw [wrap_true, ofPayload, List.append_assoc,
        Header.decode_encode_append (h := Header.list payload.length) h rfl,
        Header.present_of_le (h := Header.list payload.length) hle]
      rfl

theorem header_wrap {isList : Bool} {payload : Bytes} (h : payload.length < payloadLimit) :
    Header.decode (wrap isList payload) = .ok ⟨isList, payload.length⟩ payload := by
  rw [← List.append_nil (wrap isList payload), header_wrap_append h, List.append_nil]

theorem header_eq_ok {b tail : Bytes} {h : Header} (hd : Header.decode b = .ok h tail) :
    exists payload rest,
      b = wrap h.isList payload ++ rest ∧ payload.length < payloadLimit ∧
        h.payloadLength = payload.length ∧ tail = payload ++ rest := by
  rcases Header.decode_eq_ok hd with ⟨hle, hform⟩
  have hlength : h.payloadLength = (tail.take h.payloadLength).length := by
    rw [List.length_take, Nat.min_eq_left hle]
  refine ⟨tail.take h.payloadLength, tail.drop h.payloadLength, ?_⟩
  rcases hform with ⟨hbare, rfl, rfl⟩ | ⟨rfl, hlimit, hneeded⟩
  · cases tail with
    | nil =>
        cases hbare
    | cons x tail =>
        have hx : x.toNat < Header.stringBase := by
          simpa [startsBare_cons] using hbare
        have hshort : 1 < payloadLimit := by
          decide
        exact ⟨by simp [Header.string, ofString, hx], hshort, hlength,
          (List.take_append_drop _ _).symm⟩
  · have hneeded' : redundant ⟨h.isList, (tail.take h.payloadLength).length⟩
        (tail.take h.payloadLength) = false := by
      rw [← hlength, Header.redundant_take, hneeded]
    rw [wrap_of_not_redundant hneeded', ← hlength]
    exact ⟨by rw [List.append_assoc, List.take_append_drop], hlimit, rfl,
      (List.take_append_drop _ _).symm⟩

theorem header_fail_of_limit_le {isList : Bool} {payload : Bytes}
    (hlimit : payloadLimit <= payload.length) (hlength : payload.length < BigEndian.bound 8)
    (rest : Bytes) :
    (Header.decode (wrap isList payload ++ rest)).result =
      .error (.malformed .lengthTooWide) := by
  have hmany : payload.length ≠ 1 := by
    have hlimitPos : 1 < payloadLimit := by decide
    omega
  have hneeded : redundant ⟨isList, payload.length⟩ payload = false := by
    simp [redundant, Header.string, hmany]
  rw [wrap_of_not_redundant hneeded, List.append_assoc,
    Header.decode_encode_append_of_limit_le hlimit hlength]
  rfl

theorem wrap_ne_nil (isList : Bool) (payload : Bytes) : wrap isList payload ≠ [] := by
  have hheader (h : Header) : h.encode ++ payload ≠ [] := by
    unfold Header.encode
    split <;> simp
  cases isList with
  | false =>
      rcases ofString_cases payload with ⟨x, _, _, hbare⟩ | ⟨hwritten, _⟩
      · simp [hbare]
      · rw [wrap_false, hwritten]
        exact hheader _
  | true =>
      exact hheader _

theorem IsWhole.ne_nil {b : Bytes} (h : IsWhole b) : b ≠ [] := by
  rcases h with ⟨isList, payload, rfl, _⟩
  exact wrap_ne_nil isList payload

theorem IsWhole.length_pos {b : Bytes} (h : IsWhole b) : 0 < b.length :=
  List.length_pos_iff.mpr h.ne_nil

theorem isWhole_of_length_lt {isList : Bool} {payload : Bytes}
    (h : (wrap isList payload).length < payloadLimit) : payload.length < payloadLimit :=
  Nat.lt_of_le_of_lt (length_payload_le_length_wrap isList payload) h

theorem isWhole_wrap_iff {isList : Bool} {payload : Bytes} :
    IsWhole (wrap isList payload) <-> payload.length < payloadLimit := by
  constructor
  · rintro ⟨isList', payload', heq, hlimit'⟩
    apply Nat.lt_of_not_le
    intro hlimit
    -- Two forms of one item differ in length by their headers only, far less than the limits do.
    have hroom : payloadLimit + 9 <= BigEndian.bound 8 := by
      decide
    have hle := length_payload_le_length_wrap isList payload
    have hle' : (wrap isList' payload').length <= payload'.length + 9 :=
      length_wrap_le (by omega)
    have hlength : payload.length < BigEndian.bound 8 := by
      rw [heq] at hle
      omega
    have hfail : (Header.decode (wrap isList payload ++ [])).result = _ :=
      header_fail_of_limit_le hlimit hlength []
    rw [heq, header_wrap_append hlimit'] at hfail
    cases hfail
  · exact isWhole_wrap

/-!
## Items are told apart
-/

theorem wrap_cases (isList : Bool) (payload : Bytes) :
    (isList = false ∧ exists x : UInt8, x.toNat < Header.stringBase ∧ payload = [x] ∧
        wrap isList payload = [x]) ∨
      wrap isList payload = (Header.mk isList payload.length).encode ++ payload := by
  cases isList with
  | false =>
      rcases ofString_cases payload with ⟨x, hx, hpayload, hbare⟩ | ⟨hwritten, _⟩
      · exact Or.inl ⟨rfl, x, hx, hpayload, hbare⟩
      · exact Or.inr hwritten
  | true =>
      exact Or.inr rfl

theorem bare_ne_header_append {x : UInt8} (hx : x.toNat < Header.stringBase) {h : Header}
    (hlength : h.payloadLength < BigEndian.bound 8) (r s : Bytes) :
    [x] ++ r ≠ h.encode ++ s := by
  intro heq
  have hheader := Header.not_startsBare_encode_append hlength s
  rw [← heq, List.singleton_append, startsBare_cons, decide_eq_false_iff_not] at hheader
  exact hheader hx

/-- No item is the front of another one, and its form and payload can be told from it. -/
theorem wrap_append_inj {isList isList' : Bool} {payload payload' : Bytes}
    (hlength : payload.length < BigEndian.bound 8)
    (hlength' : payload'.length < BigEndian.bound 8) {r s : Bytes}
    (heq : wrap isList payload ++ r = wrap isList' payload' ++ s) :
    isList = isList' ∧ payload = payload' ∧ r = s := by
  rcases wrap_cases isList payload with ⟨rfl, x, hx, rfl, hbare⟩ | hwritten
  · rcases wrap_cases isList' payload' with ⟨rfl, y, _, rfl, hbare'⟩ | hwritten'
    · rw [hbare, hbare'] at heq
      rcases List.cons.inj heq with ⟨rfl, htail⟩
      exact ⟨rfl, rfl, htail⟩
    · rw [hbare, hwritten', List.append_assoc] at heq
      exact absurd heq (bare_ne_header_append hx hlength' r _)
  · rcases wrap_cases isList' payload' with ⟨rfl, y, hy, rfl, hbare'⟩ | hwritten'
    · rw [hwritten, hbare', List.append_assoc] at heq
      exact absurd heq.symm (bare_ne_header_append hy hlength s _)
    · rw [hwritten, hwritten', List.append_assoc, List.append_assoc] at heq
      rcases Header.encode_append_inj hlength hlength' heq with ⟨hheader, hrest⟩
      rcases Header.mk.inj hheader with ⟨hform, hlengths⟩
      rcases List.append_inj hrest hlengths with ⟨hpayload, htail⟩
      exact ⟨hform, hpayload, htail⟩

/-!
## Reading payloads
-/

theorem string_ofString_append {data : Bytes} (h : data.length < payloadLimit) (rest : Bytes) :
    string (ofString data ++ rest) = .ok data rest := by
  rw [string, ← wrap_false, header_wrap_append h]
  simp [take]

theorem string_ofString {data : Bytes} (h : data.length < payloadLimit) :
    string (ofString data) = .ok data [] := by
  simpa using string_ofString_append h []

theorem payload_ofPayload_append {data : Bytes} (h : data.length < payloadLimit)
    (rest : Bytes) : payload (ofPayload data ++ rest) = .ok data rest := by
  rw [payload, ← wrap_true, header_wrap_append h]
  simp [take]

theorem string_ofPayload_append {data : Bytes} (h : data.length < payloadLimit)
    (rest : Bytes) : string (ofPayload data ++ rest) = .fail .unexpectedList (data ++ rest) := by
  rw [string, ← wrap_true, header_wrap_append h]
  rfl

theorem payload_ofString_append {data : Bytes} (h : data.length < payloadLimit)
    (rest : Bytes) : payload (ofString data ++ rest) = .fail .unexpectedString (data ++ rest) := by
  rw [payload, ← wrap_false, header_wrap_append h]
  rfl

theorem eq_ofString_of_string {b data rest : Bytes} (h : string b = .ok data rest) :
    b = ofString data ++ rest ∧ data.length < payloadLimit := by
  rw [string] at h
  rcases hheader : Header.decode b with ⟨header, tail⟩ | ⟨e, tail⟩
  · rcases header_eq_ok hheader with ⟨payload, left, rfl, hlimit, hlength, rfl⟩
    rw [hheader] at h
    cases hlist : header.isList with
    | false =>
        simp only [Read.andThen_ok, hlist, Bool.false_eq_true, if_false, take, hlength,
          List.take_left, List.drop_left] at h
        cases h
        exact ⟨rfl, hlimit⟩
    | true =>
        simp [hlist] at h
  · rw [hheader] at h
    cases h

theorem eq_ofPayload_of_payload {b data rest : Bytes} (h : payload b = .ok data rest) :
    b = ofPayload data ++ rest ∧ data.length < payloadLimit := by
  rw [payload] at h
  rcases hheader : Header.decode b with ⟨header, tail⟩ | ⟨e, tail⟩
  · rcases header_eq_ok hheader with ⟨payload, left, rfl, hlimit, hlength, rfl⟩
    rw [hheader] at h
    cases hlist : header.isList with
    | false =>
        simp [hlist] at h
    | true =>
        simp only [Read.andThen_ok, hlist, if_true, take, hlength,
          List.take_left, List.drop_left] at h
        cases h
        exact ⟨rfl, hlimit⟩
  · rw [hheader] at h
    cases h

theorem isWhole_of_string {b data : Bytes} (h : string b = .ok data []) : IsWhole b := by
  rcases eq_ofString_of_string h with ⟨hb, hlimit⟩
  rw [List.append_nil] at hb
  exact ⟨false, data, hb, hlimit⟩

theorem isListOf_of_payload {parts : List Bytes} {b : Bytes}
    (h : payload b = .ok parts.flatten []) (hparts : forall e, e ∈ parts -> IsWhole e) :
    IsListOf parts b := by
  rcases eq_ofPayload_of_payload h with ⟨hb, hlimit⟩
  rw [List.append_nil] at hb
  exact ⟨hb, hlimit, hparts⟩

end Item
end ChainWire
