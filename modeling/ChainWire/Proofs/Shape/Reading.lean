import ChainWire.Proofs.Codec.Primitive
import ChainWire.Proofs.Codec.Record
import ChainWire.Proofs.Shape.Basic
import ChainWire.Proofs.Value.Canonical
import ChainWire.Proofs.Value.RoundTrip

/-!
# Reading by shape

A codec reads by a shape if the items it accepts are the encodings of the
values that stand for something, and it makes of each what the value stands
for.  Such a codec never sees more than the reader of untyped values does, for
the nesting of a shape is bounded.  Lists, records and codecs that look at what
another codec has read pass the property on.
-/

namespace ChainWire

open Header (payloadLimit)

namespace Value

theorem isWhole_encode {v : Value} (h : v.payload.length < payloadLimit) :
    Item.IsWhole v.encode := by
  rw [encode_eq_wrap]
  exact Item.isWhole_wrap h

theorem payload_lt_of_isWhole {v : Value} (h : Item.IsWhole v.encode) :
    v.payload.length < payloadLimit := by
  rw [encode_eq_wrap] at h
  exact Item.isWhole_wrap_iff.mp h

theorem peek_encode_bytes {data : Bytes} (h : (bytes data).payload.length < payloadLimit) :
    Header.peek (bytes data).encode = .ok ⟨false, data.length⟩ (bytes data).encode := by
  rw [encode_eq_wrap]
  exact Header.peek_wrap h

theorem peek_encode_list {items : List Value} (h : (list items).payload.length < payloadLimit) :
    Header.peek (list items).encode =
      .ok ⟨true, (list items).payload.length⟩ (list items).encode := by
  rw [encode_eq_wrap]
  exact Header.peek_wrap h

theorem fitsIn_bytes (data : Bytes) (levels : Nat) : (bytes data).FitsIn (levels + 1) := by
  intro m hm
  rw [nodes_bytes, List.mem_singleton] at hm
  rw [hm]
  exact Nat.succ_pos levels

theorem FitsIn.mono {v : Value} {m n : Nat} (h : v.FitsIn m) (hle : m <= n) : v.FitsIn n :=
  fun node hnode => Nat.lt_of_lt_of_le (h node hnode) hle

end Value

/-- What is read is what the shape says of the value, in which `levels - 1` lists may be nested. -/
structure Codec.Reads {α : Type} (c : Codec α) (S : Shape α) (levels : Nat) : Prop where
  itemWise : c.decode.ItemWise
  exists_value : forall {e : Bytes} {x : α}, c.decode e = .ok x [] ->
    exists v, e = v.encode ∧ v.FitsIn levels ∧ S x v
  decode_encode : forall {x : α} {v : Value}, v.payload.length < payloadLimit -> S x v ->
    c.decode v.encode = .ok x []

/-- Fields are read by shapes, each from an item of its own, until the record ends. -/
structure Fields.Reads {α : Type} (f : Fields α) (S : α -> List (Value -> Prop))
    (levels : Nat) : Prop where
  exists_values : forall {item : String} {b : Bytes} {x : α}, f.decode item b = .ok x [] ->
    exists vs : List Value, b = vs.flatMap Value.encode ∧
      (forall v, v ∈ vs -> v.FitsIn levels) ∧ Shape.Fields (S x) vs
  decode_encode : forall (item : String) {x : α} {vs : List Value},
    (vs.flatMap Value.encode).length < payloadLimit -> Shape.Fields (S x) vs ->
      f.decode item (vs.flatMap Value.encode) = .ok x []

namespace Codec
namespace Reads

variable {α β : Type} {c : Codec α} {S : Shape α} {levels : Nat}

theorem decode_eq_ok_iff (hc : c.Reads S levels) (hlevels : levels <= Value.maxDepth + 1)
    {b : Bytes} {x : α} :
    c.decode b = .ok x [] <-> exists v, Decoder.exact Value.decode b = .ok v ∧ S x v := by
  constructor
  · intro h
    have hwhole := hc.itemWise.isWhole_of_eq_ok h
    rcases hc.exists_value h with ⟨v, rfl, hfits, hshape⟩
    refine ⟨v, Decoder.exact_eq_ok_iff.mpr ?_, hshape⟩
    have hread := Value.decodeWithin_encode_append (Value.payload_lt_of_isWhole hwhole)
      (hfits.mono hlevels) []
    rwa [List.append_nil] at hread
  · rintro ⟨v, hv, hshape⟩
    rcases Value.decodeWithin_eq_ok (Decoder.exact_eq_ok_iff.mp hv) with ⟨rfl, hlimit, _⟩
    rw [List.append_nil]
    exact hc.decode_encode hlimit hshape

theorem exists_decode_eq_ok (hc : c.Reads S levels) (hlevels : levels <= Value.maxDepth + 1)
    {b rest : Bytes} {x : α} (h : c.decode b = .ok x rest) :
    exists v, Value.decode b = .ok v rest := by
  rcases hc.itemWise.split h with ⟨e, hwhole, rfl, he⟩
  rcases (hc.decode_eq_ok_iff hlevels).mp he with ⟨v, hv, _⟩
  have hvalue := Decoder.exact_eq_ok_iff.mp hv
  exact ⟨v, (Value.decodeWithin_itemWise _).append_of_eq_ok hwhole hvalue rest⟩

/-!
## Going through another type
-/

theorem through (hc : c.Reads S levels) {T : Shape β} {view : β -> α} {build : α -> β}
    (hbuild : forall y, build (view y) = y) (hview : forall x, view (build x) = x)
    (hshape : forall y v, T y v <-> S (view y) v) : (c.through view build).Reads T levels where
  itemWise := hc.itemWise.map build
  exists_value := by
    intro e y h
    rcases Read.map_eq_ok h with ⟨x, hx, rfl⟩
    rcases hc.exists_value hx with ⟨v, he, hfits, hv⟩
    refine ⟨v, he, hfits, (hshape _ v).mpr ?_⟩
    rwa [hview]
  decode_encode := by
    intro y v hlimit hv
    show (c.decode v.encode).map build = _
    rw [hc.decode_encode hlimit ((hshape y v).mp hv), Read.map_ok, hbuild]

/-!
## Single byte strings
-/

theorem of_strict_string (hc : c.Strict) (view : α -> Bytes)
    (hencode : forall x, c.encode x = .ok (Item.ofString (view x)))
    (hshape : forall x v, S x v <-> v = .bytes (view x)) (levels : Nat) :
    c.Reads S (levels + 1) where
  itemWise := hc.itemWise
  exists_value := by
    intro e x h
    have he := hc.canonical e x h
    rw [hencode] at he
    cases he
    exact ⟨.bytes (view x), (Value.encode_bytes _).symm, Value.fitsIn_bytes _ levels,
      (hshape x _).mpr rfl⟩
  decode_encode := by
    intro x v hlimit hv
    have hwhole := Value.isWhole_encode hlimit
    rw [(hshape x v).mp hv, Value.encode_bytes] at hwhole ⊢
    exact (hc.roundTrips x).decode_eq_ok (hencode x) hwhole

/-!
## Lists
-/

theorem exists_values_of_run (hc : c.Reads S levels) {b : Bytes} {xs : List α}
    (h : Decoder.Run c.decode b xs) :
    exists vs : List Value, b = vs.flatMap Value.encode ∧
      (forall v, v ∈ vs -> v.FitsIn levels) ∧ List.Forall₂ S xs vs := by
  induction h with
  | nil =>
      exact ⟨[], rfl, by simp, .nil⟩
  | cons hread _ ih =>
      rcases hc.itemWise.split hread with ⟨e, _, rfl, he⟩
      rcases hc.exists_value he with ⟨v, rfl, hfits, hshape⟩
      rcases ih with ⟨vs, rfl, hall, hshapes⟩
      exact ⟨v :: vs, rfl, List.forall_mem_cons.mpr ⟨hfits, hall⟩, .cons hshape hshapes⟩

theorem run_flatMap_encode (hc : c.Reads S levels) {xs : List α} {vs : List Value}
    (hlimit : (vs.flatMap Value.encode).length < payloadLimit) (h : List.Forall₂ S xs vs) :
    Decoder.Run c.decode (vs.flatMap Value.encode) xs := by
  induction h with
  | nil =>
      exact .nil
  | @cons x v xs vs hshape _ ih =>
      -- What bounds the whole payload bounds the item in front and the items after it.
      rw [List.flatMap_cons, List.length_append] at hlimit
      have hpayload : v.payload.length < payloadLimit :=
        Value.length_payload_lt_of_encode (Nat.lt_of_le_of_lt (Nat.le_add_right _ _) hlimit)
      apply Decoder.Run.cons
      · exact hc.itemWise.append_of_eq_ok (Value.isWhole_encode hpayload)
          (hc.decode_encode hpayload hshape) _
      · exact ih (Nat.lt_of_le_of_lt (Nat.le_add_left _ _) hlimit)

theorem list (hc : c.Reads S levels) : (list c).Reads (Shape.sequence S) (levels + 1) where
  itemWise := list_itemWise c
  exists_value := by
    intro e xs h
    rcases (list_decode_eq_ok_iff hc.itemWise).mp h with ⟨payload, rfl, _, hrun⟩
    rcases hc.exists_values_of_run hrun with ⟨vs, rfl, hfits, hshapes⟩
    refine ⟨.list vs, ?_, (Value.fitsIn_list_succ levels vs).mpr hfits, vs, rfl, hshapes⟩
    rw [List.append_nil, Value.encode_list]
    rfl
  decode_encode := by
    rintro xs v hlimit ⟨vs, rfl, hshapes⟩
    apply (list_decode_eq_ok_iff hc.itemWise).mpr
    refine ⟨vs.flatMap Value.encode, ?_, hlimit, hc.run_flatMap_encode hlimit hshapes⟩
    rw [List.append_nil, Value.encode_list]
    rfl

end Reads
end Codec

/-!
## Records
-/

namespace Fields
namespace Reads

variable {α β : Type} {c : Codec α} {S : Shape α} {g : Fields β}
  {T : β -> List (Value -> Prop)} {levels : Nat}

theorem one (hc : c.Reads S levels) : (one c).Reads (fun x => [S x]) levels where
  exists_values := by
    intro item b x h
    rcases hc.exists_value ((Decoder.field_eq_ok_iff item).mp h).2 with ⟨v, rfl, hfits, hshape⟩
    exact ⟨[v], by simp, by simpa using hfits, .cons hshape .nil⟩
  decode_encode := by
    intro item x vs hlimit hshapes
    cases hshapes with
    | @cons _ v _ _ hshape hnil =>
        cases hnil
        rw [List.flatMap_singleton] at hlimit ⊢
        apply (Decoder.field_eq_ok_iff item).mpr
        exact ⟨Value.encode_ne_nil v,
          hc.decode_encode (Value.length_payload_lt_of_encode hlimit) hshape⟩

theorem optional (hc : c.Reads S levels) :
    (optional c).Reads (fun x => x.toList.map S) levels where
  exists_values := by
    intro item b x h
    cases b with
    | nil =>
        cases h
        exact ⟨[], rfl, by simp, .nil⟩
    | cons y ys =>
        rcases Read.map_eq_ok h with ⟨z, hz, rfl⟩
        rcases hc.exists_value hz with ⟨v, hv, hfits, hshape⟩
        exact ⟨[v], by simpa using hv, by simpa using hfits, .cons hshape .nil⟩
  decode_encode := by
    intro item x vs hlimit hshapes
    cases x with
    | none =>
        cases hshapes
        rfl
    | some x =>
        cases hshapes with
        | @cons _ v _ _ hshape hnil =>
            cases hnil
            rw [List.flatMap_singleton] at hlimit ⊢
            have hread := hc.decode_encode (Value.length_payload_lt_of_encode hlimit) hshape
            simp [Fields.optional, Decoder.optionalField, Value.encode_ne_nil, hread]

theorem cons (hc : c.Reads S levels) (hg : g.Reads T levels) :
    (cons c g).Reads (fun p => S p.1 :: T p.2) levels where
  exists_values := by
    intro item b p h
    rcases Read.andThen_eq_ok h with ⟨x, rest, hfirst, hrest⟩
    rcases Read.map_eq_ok hrest with ⟨y, hsecond, rfl⟩
    rcases hc.itemWise.field_split hfirst with ⟨e, _, rfl, he⟩
    rcases hc.exists_value he with ⟨v, rfl, hfits, hshape⟩
    rcases hg.exists_values hsecond with ⟨vs, rfl, hall, hshapes⟩
    exact ⟨v :: vs, rfl, List.forall_mem_cons.mpr ⟨hfits, hall⟩, .cons hshape hshapes⟩
  decode_encode := by
    rintro item ⟨x, y⟩ vs hlimit hshapes
    cases hshapes with
    | @cons _ v _ vs hshape hshapes =>
        rw [List.flatMap_cons, List.length_append] at hlimit
        have hpayload : v.payload.length < payloadLimit :=
          Value.length_payload_lt_of_encode (Nat.lt_of_le_of_lt (Nat.le_add_right _ _) hlimit)
        have hfield := hc.itemWise.field_append item (Value.isWhole_encode hpayload)
          (hc.decode_encode hpayload hshape) (vs.flatMap Value.encode)
        have htail := hg.decode_encode item
          (Nat.lt_of_le_of_lt (Nat.le_add_left _ _) hlimit) hshapes
        rw [List.flatMap_cons]
        show (Decoder.field item c.decode _).andThen _ = _
        rw [hfield, Read.andThen_ok, htail, Read.map_ok]

end Reads
end Fields

/-- The list around the fields is one level more. -/
theorem Codec.Reads.record {α : Type} {f : Fields α} {S : α -> List (Value -> Prop)}
    {item : String} {levels : Nat} (hf : f.Reads S levels) :
    (record item f).Reads (fun x => Shape.record (S x)) (levels + 1) where
  itemWise := Decoder.record_itemWise item _
  exists_value := by
    intro e x h
    rcases Decoder.record_eq_ok h with ⟨payload, rfl, _, hfields⟩
    rcases hf.exists_values hfields with ⟨vs, rfl, hfits, hshapes⟩
    refine ⟨.list vs, ?_, (Value.fitsIn_list_succ levels vs).mpr hfits, vs, rfl, hshapes⟩
    rw [List.append_nil, Value.encode_list]
    rfl
  decode_encode := by
    rintro x v hlimit ⟨vs, rfl, hshapes⟩
    have hread := Decoder.record_ofPayload_append item hlimit
      (hf.decode_encode item hlimit hshapes) []
    rw [List.append_nil] at hread
    rw [Value.encode_list]
    exact hread

/-!
## Single fields
-/

theorem Shape.uint_iff {width : Nat} {n : Uint width} {v : Value} :
    Shape.uint n v <-> v = .bytes n.trimmed := by
  constructor
  · rintro ⟨digits, rfl, hhead, _, hn⟩
    rw [Uint.trimmed, hn, BigEndian.encode_decode hhead]
  · rintro rfl
    exact ⟨n.trimmed, rfl, BigEndian.head?_encode _, n.length_trimmed_le,
      (BigEndian.decode_encode _).symm⟩

theorem Shape.bool_iff {b : Bool} {v : Value} :
    Shape.bool b v <-> v = .bytes (if b then [1] else []) := by
  have hdigits : BigEndian.encode b.toNat = if b then [1] else [] := by
    cases b with
    | false =>
        exact BigEndian.encode_zero
    | true =>
        exact BigEndian.encode_of_lt (by decide) (by decide)
  have hlt : b.toNat < BigEndian.bound 1 :=
    Nat.lt_of_le_of_lt b.toNat_le (by decide)
  rw [← hdigits]
  constructor
  · rintro ⟨n, hn, heq⟩
    rw [Shape.uint_iff.mp hn, Uint.trimmed, heq]
  · rintro rfl
    exact ⟨⟨b.toNat, hlt⟩, Shape.uint_iff.mpr rfl, rfl⟩

namespace Codec

theorem uint_reads (width levels : Nat) : (uint width).Reads Shape.uint (levels + 1) :=
  .of_strict_string (uint_strict width) Uint.trimmed (fun _ => rfl)
    (fun _ _ => Shape.uint_iff) levels

theorem bool_reads (levels : Nat) : bool.Reads Shape.bool (levels + 1) :=
  .of_strict_string bool_strict (fun b => if b then [1] else []) (fun _ => rfl)
    (fun _ _ => Shape.bool_iff) levels

theorem octets_reads (width levels : Nat) : (octets width).Reads Shape.octets (levels + 1) :=
  .of_strict_string (octets_strict width) Octets.bytes (fun _ => rfl)
    (fun _ _ => Iff.rfl) levels

theorem bytes_reads (levels : Nat) : bytes.Reads Shape.bytes (levels + 1) :=
  .of_strict_string bytes_strict id (fun _ => rfl) (fun _ _ => Iff.rfl) levels

end Codec
end ChainWire
