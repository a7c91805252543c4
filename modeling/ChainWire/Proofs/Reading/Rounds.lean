import ChainWire.Proofs.ItemType
import ChainWire.Proofs.Value.Size

/-!
# The loop over the items of a payload

`Decoder.items` has a budget, so it always comes to an end.  The loop that it
stands for has none: as long as there are bytes it reads another item, and only
a fault or the end of the payload stops it.  Its rounds are given here without
a budget.  They come to an end wherever reads take bytes, and the outcome is
that of `Decoder.items`; so the budget never decides anything.

Reads of all types take bytes.  What they make of them is bounded by what they
took, whatever lengths the headers tell.
-/

namespace ChainWire
namespace Decoder

variable {α : Type} {d : Decoder α} {m : Nat} {b rest : Bytes} {x : α} {e : DecodeFault}
  {r : Except DecodeFault (List α)}

/-- The rounds of the loop, and its outcome: an item or a fault is read in each of them. -/
inductive Rounds (d : Decoder α) : Nat -> Bytes -> Except DecodeFault (List α) -> Prop where
  | done : Rounds d 0 [] (.ok [])
  | fault {b rest : Bytes} {e : DecodeFault} :
      b ≠ [] -> d b = .fail e rest -> Rounds d 1 b (.error e)
  | next {n : Nat} {b rest : Bytes} {x : α} {r : Except DecodeFault (List α)} :
      b ≠ [] -> d b = .ok x rest -> Rounds d n rest r ->
        Rounds d (n + 1) b (r.map fun xs => x :: xs)

/--
The loop comes to an end on every payload, after at most one round for each
byte, and there is just one outcome.
-/
def LoopEnds (d : Decoder α) : Prop :=
  forall b, exists n, n <= b.length ∧
    forall m r, Rounds d m b r <-> m = n ∧ r = (items d b).result

/-!
## Rounds by what is read first
-/

theorem rounds_nil_iff : Rounds d m [] r <-> m = 0 ∧ r = .ok [] := by
  constructor
  · intro h
    cases h with
    | done =>
        exact ⟨rfl, rfl⟩
    | fault hb _ | next hb _ _ =>
        exact absurd rfl hb
  · rintro ⟨rfl, rfl⟩
    exact .done

theorem rounds_fault_iff (hb : b ≠ []) (hread : d b = .fail e rest) :
    Rounds d m b r <-> m = 1 ∧ r = .error e := by
  constructor
  · intro h
    cases h with
    | done =>
        exact absurd rfl hb
    | fault _ hread' =>
        rw [hread] at hread'
        cases hread'
        exact ⟨rfl, rfl⟩
    | next _ hread' _ =>
        rw [hread] at hread'
        cases hread'
  · rintro ⟨rfl, rfl⟩
    exact .fault hb hread

theorem rounds_next_iff (hb : b ≠ []) (hread : d b = .ok x rest) :
    Rounds d m b r <->
      exists n r', Rounds d n rest r' ∧ m = n + 1 ∧ r = r'.map fun xs => x :: xs := by
  constructor
  · intro h
    cases h with
    | done =>
        exact absurd rfl hb
    | fault _ hread' =>
        rw [hread] at hread'
        cases hread'
    | next _ hread' hrounds =>
        rw [hread] at hread'
        cases hread'
        exact ⟨_, _, hrounds, rfl, rfl⟩
  · rintro ⟨n, r', hrounds, rfl, rfl⟩
    exact .next hb hread hrounds

/-!
## The end of the loop
-/

/-- Each round takes a byte at least, so fewer rounds are left than bytes were. -/
theorem Progresses.loopEnds (hd : d.Progresses) : d.LoopEnds := by
  intro b
  induction hlength : b.length using Nat.strongRecOn generalizing b with
  | ind length ih =>
      subst hlength
      by_cases hb : b = []
      · subst hb
        exact ⟨0, Nat.le_refl 0, fun m r => rounds_nil_iff⟩
      have hpos : 1 <= b.length := List.length_pos_iff.mpr hb
      cases hread : d b with
      | fail e rest =>
          refine ⟨1, hpos, fun m r => ?_⟩
          rw [items_fault hb hread]
          exact rounds_fault_iff hb hread
      | ok x rest =>
          have hshorter : rest.length < b.length := hd hread
          rcases ih rest.length hshorter rest rfl with ⟨n, hn, hrest⟩
          refine ⟨n + 1, Nat.lt_of_le_of_lt hn hshorter, fun m r => ?_⟩
          have hresult : (items d b).result = (items d rest).result.map fun xs => x :: xs := by
            rw [items_cons hd hread]
            cases items d rest <;> rfl
          rw [rounds_next_iff hb hread, hresult]
          simp [hrest]

theorem Run.length_le (hd : d.Progresses) {xs : List α} (h : Run d b xs) :
    xs.length <= b.length := by
  induction h with
  | nil =>
      exact Nat.le_refl 0
  | cons hread _ ih =>
      exact Nat.lt_of_le_of_lt ih (hd hread)

end Decoder

theorem Codec.length_le_of_list {α : Type} {c : Codec α} (hc : c.decode.ItemWise) {b rest : Bytes}
    {xs : List α} (h : (list c).decode b = .ok xs rest) :
    exists payload, Item.payload b = .ok payload rest ∧ xs.length <= payload.length := by
  rcases (list_decode_eq_ok_iff hc).mp h with ⟨payload, rfl, hlimit, hrun⟩
  exact ⟨payload, Item.payload_ofPayload_append hlimit rest, hrun.length_le hc.progresses⟩

namespace ItemType

/--
A read of any type takes at least one byte.  So the loops over the items of a
list and of a value come to an end on every payload; a list has no more items
than its payload has bytes; and a value has no more nodes, and no more bytes in
its strings, than were taken for it.
-/
theorem reads_progress :
    (forall (t : ItemType) {b rest : Bytes} {x : t.Carrier}, t.codec.decode b = .ok x rest ->
      exists taken, b = taken ++ rest ∧ 1 <= taken.length) ∧
    (forall t : ItemType, t.codec.decode.LoopEnds) ∧
    (forall levels, (Value.decodeWithin levels).LoopEnds) ∧
    (forall (t : ItemType) {b rest : Bytes} {xs : List t.Carrier},
      t.list.codec.decode b = .ok xs rest ->
        exists payload, Item.payload b = .ok payload rest ∧ xs.length <= payload.length) ∧
    (forall {b rest : Bytes} {v : Value}, Value.decode b = .ok v rest ->
      v.nodes.length <= b.length - rest.length ∧
        v.strings.flatten.length <= b.length - rest.length) := by
  refine ⟨?taken, ?items, ?values, ?lists, Value.size_le_of_decodeWithin⟩
  case taken =>
    intro t b rest x h
    rcases t.codec_itemWise.split h with ⟨taken, hwhole, hb, _⟩
    exact ⟨taken, hb, hwhole.length_pos⟩
  case items =>
    intro t
    exact Decoder.Progresses.loopEnds t.codec_itemWise.progresses
  case values =>
    intro levels
    exact Decoder.Progresses.loopEnds (Value.decodeWithin_progresses levels)
  case lists =>
    intro t b rest xs h
    exact Codec.length_le_of_list t.codec_itemWise h

/--
Octets of no width, a list of two flags, and a value of three nodes and two
bytes in strings, each with one byte behind it.
-/
theorem reads_progress_shortInputs :
    ((octets 0).codec.decode [0x80, 9] = .ok ⟨[], rfl⟩ [9] ∧
      exists taken, [0x80, 9] = taken ++ ([9] : Bytes) ∧ 1 <= taken.length) ∧
    (bool.list.codec.decode [0xC2, 0x01, 0x80, 9] = .ok [true, false] [9] ∧
      exists payload, Item.payload [0xC2, 0x01, 0x80, 9] = .ok payload [9] ∧
        2 <= payload.length) ∧
    (Value.decode [0xC4, 0x82, 0x05, 0x06, 0xC0, 9] =
        .ok (.list [.bytes [5, 6], .list []]) [9] ∧
      (Value.list [.bytes [5, 6], .list []]).nodes.length <= 5 ∧
      (Value.list [.bytes [5, 6], .list []]).strings.flatten.length <= 5) := by
  rcases reads_progress with ⟨htaken, -, -, hlist, hvalue⟩
  have hoctets : (octets 0).codec.decode [0x80, 9] = .ok ⟨[], rfl⟩ [9] := rfl
  have hflags : bool.list.codec.decode [0xC2, 0x01, 0x80, 9] = .ok [true, false] [9] := rfl
  have hread : Value.decode [0xC4, 0x82, 0x05, 0x06, 0xC0, 9] =
      .ok (.list [.bytes [5, 6], .list []]) [9] := rfl
  exact ⟨⟨hoctets, htaken _ hoctets⟩, ⟨hflags, hlist _ hflags⟩, hread, hvalue hread⟩

end ItemType
end ChainWire
