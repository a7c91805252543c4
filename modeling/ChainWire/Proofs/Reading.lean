import ChainWire.Proofs.Item

/-!
# Reading item by item

Every decoder of the library takes one item: it fails where the header fails,
it makes the same of an item whatever follows, and where it succeeds it has
taken the whole item.  These three laws hold of byte strings and payloads, and
they pass on to everything that is put together from decoders.

A list is read by reading items until nothing is left.  `Decoder.Run` is the
trace of such a loop, free of the budget and of the accumulator that the loop
carries.
-/

namespace ChainWire

namespace Read

def extend {α : Type} (more : Bytes) : Read α -> Read α
  | ok x rest => ok x (rest ++ more)
  | fail e rest => fail e (rest ++ more)

theorem extend_nil {α : Type} (r : Read α) : r.extend [] = r := by
  cases r <;> simp [extend]

theorem extend_eq_ok {α : Type} {r : Read α} {more rest : Bytes} {x : α}
    (h : r.extend more = .ok x rest) : exists left, r = .ok x left ∧ rest = left ++ more := by
  cases r with
  | ok y left =>
      cases h
      exact ⟨left, rfl, rfl⟩
  | fail e left =>
      cases h

theorem map_eq_ok {α β : Type} {f : α -> β} {r : Read α} {y : β} {rest : Bytes}
    (h : r.map f = .ok y rest) : exists x, r = .ok x rest ∧ y = f x := by
  cases r with
  | ok x left =>
      cases h
      exact ⟨x, rfl, rfl⟩
  | fail e left =>
      cases h

theorem andThen_eq_ok {α β : Type} {r : Read α} {f : α -> Bytes -> Read β} {y : β}
    {rest : Bytes} (h : r.andThen f = .ok y rest) :
    exists x left, r = .ok x left ∧ f x left = .ok y rest := by
  cases r with
  | ok x left =>
      exact ⟨x, left, rfl, h⟩
  | fail e left =>
      cases h

theorem map_map {α β γ : Type} (f : α -> β) (g : β -> γ) (r : Read α) :
    (r.map f).map g = r.map (fun x => g (f x)) := by
  cases r <;> rfl

/-!
## Steps that leave the input alone
-/

/-- Success or failure, decided without the bytes that are left. -/
def Uniform {α : Type} (f : Bytes -> Read α) : Prop :=
  (exists x, forall rest, f rest = .ok x rest) ∨ (exists e, forall rest, f rest = .fail e rest)

namespace Uniform

variable {α : Type}

theorem ok {x : α} : Uniform (fun rest => .ok x rest) :=
  Or.inl ⟨x, fun _ => rfl⟩

theorem fail {e : DecodeFault} : Uniform (α := α) (fun rest => .fail e rest) :=
  Or.inr ⟨e, fun _ => rfl⟩

theorem ite {c : Prop} [Decidable c] {f g : Bytes -> Read α} (hf : Uniform f)
    (hg : Uniform g) : Uniform (fun rest => if c then f rest else g rest) := by
  by_cases hc : c
  · simpa [hc] using hf
  · simpa [hc] using hg

theorem dite {c : Prop} [Decidable c] {f : c -> Bytes -> Read α} {g : ¬ c -> Bytes -> Read α}
    (hf : forall hc, Uniform (f hc)) (hg : forall hc, Uniform (g hc)) :
    Uniform (fun rest => if hc : c then f hc rest else g hc rest) := by
  by_cases hc : c
  · simpa [hc] using hf hc
  · simpa [hc] using hg hc

theorem apply_append {f : Bytes -> Read α} (hf : Uniform f) (rest more : Bytes) :
    f (rest ++ more) = (f rest).extend more := by
  rcases hf with ⟨x, hok⟩ | ⟨e, hfail⟩
  · rw [hok, hok]
    rfl
  · rw [hfail, hfail]
    rfl

theorem eq_ok {f : Bytes -> Read α} (hf : Uniform f) {b rest : Bytes} {x : α}
    (h : f b = .ok x rest) : rest = b := by
  rcases hf with ⟨y, hok⟩ | ⟨e, hfail⟩
  · rw [hok] at h
    cases h
    rfl
  · rw [hfail] at h
    cases h

end Uniform
end Read

namespace Header

theorem peek_wrap_append {isList : Bool} {payload : Bytes} (h : payload.length < payloadLimit)
    (rest : Bytes) :
    peek (Item.wrap isList payload ++ rest) =
      .ok ⟨isList, payload.length⟩ (Item.wrap isList payload ++ rest) := by
  rw [peek, Item.header_wrap_append h]

theorem peek_wrap {isList : Bool} {payload : Bytes} (h : payload.length < payloadLimit) :
    peek (Item.wrap isList payload) = .ok ⟨isList, payload.length⟩ (Item.wrap isList payload) := by
  rw [peek, Item.header_wrap h]

theorem eq_of_peek_eq_ok {b left : Bytes} {h : Header} (hpeek : peek b = .ok h left) :
    left = b := by
  unfold peek at hpeek
  cases hheader : decode b with
  | ok header tail =>
      rw [hheader] at hpeek
      cases hpeek
      rfl
  | fail e tail =>
      rw [hheader] at hpeek
      cases hpeek

end Header

namespace Decoder

open Item (IsWhole)

/-!
## Decoders of one item
-/

/-- The decoder takes one item, and no other byte has a say in what it makes of it. -/
structure ItemWise {α : Type} (d : Decoder α) : Prop where
  fault : forall {b rest : Bytes} {e : DecodeFault},
    Header.decode b = .fail e rest -> (d b).result = .error e
  append : forall {b : Bytes}, IsWhole b -> forall more, d (b ++ more) = (d b).extend more
  exhausts : forall {b rest : Bytes} {x : α}, IsWhole b -> d b = .ok x rest -> rest = []

namespace ItemWise

variable {α β : Type} {d : Decoder α}

theorem of_wrap
    (hfault : forall {b rest : Bytes} {e : DecodeFault},
      Header.decode b = .fail e rest -> (d b).result = .error e)
    (hwrap : forall isList payload, payload.length < Header.payloadLimit ->
      exists r : Read α, (forall x left, r = .ok x left -> left = []) ∧
        forall more, d (Item.wrap isList payload ++ more) = r.extend more) : d.ItemWise where
  fault := hfault
  append := by
    rintro b ⟨isList, payload, rfl, hlimit⟩ more
    rcases hwrap isList payload hlimit with ⟨r, _, hread⟩
    have halone := hread []
    rw [List.append_nil, Read.extend_nil] at halone
    rw [hread, halone]
  exhausts := by
    rintro b rest x ⟨isList, payload, rfl, hlimit⟩ h
    rcases hwrap isList payload hlimit with ⟨r, hr, hread⟩
    have halone := hread []
    rw [List.append_nil, Read.extend_nil] at halone
    exact hr x rest (halone.symm.trans h)

theorem string : ItemWise Item.string := by
  apply of_wrap
  · intro b rest e h
    rw [Item.string, h]
    rfl
  · intro isList payload hlimit
    cases isList with
    | false =>
        refine ⟨.ok payload [], ?_, Item.string_ofString_append hlimit⟩
        intro x left h
        cases h
        rfl
    | true =>
        refine ⟨.fail .unexpectedList payload, ?_, Item.string_ofPayload_append hlimit⟩
        intro x left h
        cases h

theorem payload : ItemWise Item.payload := by
  apply of_wrap
  · intro b rest e h
    rw [Item.payload, h]
    rfl
  · intro isList payload hlimit
    cases isList with
    | false =>
        refine ⟨.fail .unexpectedString payload, ?_, Item.payload_ofString_append hlimit⟩
        intro x left h
        cases h
    | true =>
        refine ⟨.ok payload [], ?_, Item.payload_ofPayload_append hlimit⟩
        intro x left h
        cases h
        rfl

theorem andThen (hd : d.ItemWise) {f : α -> Bytes -> Read β}
    (hf : forall x, Read.Uniform (f x)) : ItemWise (fun b => (d b).andThen f) where
  fault := by
    intro b rest e h
    have hfault := hd.fault h
    cases hb : d b with
    | ok x left =>
        rw [hb] at hfault
        cases hfault
    | fail e' left =>
        rw [hb] at hfault
        cases hfault
        rfl
  append := by
    intro b hb more
    show (d (b ++ more)).andThen f = _
    rw [hd.append hb]
    cases d b with
    | ok x left =>
        exact (hf x).apply_append left more
    | fail e left =>
        rfl
  exhausts := by
    intro b rest y hb h
    rcases Read.andThen_eq_ok h with ⟨x, left, hx, hy⟩
    rw [(hf x).eq_ok hy]
    exact hd.exhausts hb hx

theorem map (hd : d.ItemWise) (f : α -> β) : ItemWise (d.map f) :=
  hd.andThen fun _ => .ok

/-- Looking at the header first is no reading: the item is taken by what comes after. -/
theorem peek {f : Header -> Decoder α}
    (hf : forall h, (f h).ItemWise ∨ exists e, forall b, f h b = .fail e b) :
    ItemWise (fun b => (Header.peek b).andThen f) := by
  apply of_wrap
  · intro b rest e h
    simp [Header.peek, h, Read.result]
  · intro isList payload hlimit
    have hwhole : IsWhole (Item.wrap isList payload) := Item.isWhole_wrap hlimit
    refine ⟨f ⟨isList, payload.length⟩ (Item.wrap isList payload), ?_, ?_⟩
    · intro x left h
      rcases hf ⟨isList, payload.length⟩ with hitem | ⟨e, hfail⟩
      · exact hitem.exhausts hwhole h
      · rw [hfail] at h
        cases h
    · intro more
      rw [Header.peek_wrap_append hlimit, Read.andThen_ok]
      rcases hf ⟨isList, payload.length⟩ with hitem | ⟨e, hfail⟩
      · exact hitem.append hwhole more
      · rw [hfail, hfail]
        rfl

theorem split (hd : d.ItemWise) {b rest : Bytes} {x : α} (h : d b = .ok x rest) :
    exists e, IsWhole e ∧ b = e ++ rest ∧ d e = .ok x [] := by
  cases hheader : Header.decode b with
  | fail e tail =>
      have hfault := hd.fault hheader
      rw [h] at hfault
      cases hfault
  | ok header tail =>
      rcases Item.header_eq_ok hheader with ⟨payload, left, rfl, hlimit, _, rfl⟩
      have hwhole : IsWhole (Item.wrap header.isList payload) := Item.isWhole_wrap hlimit
      rw [hd.append hwhole] at h
      rcases Read.extend_eq_ok h with ⟨none, hok, rfl⟩
      have hnone := hd.exhausts hwhole hok
      subst hnone
      exact ⟨_, hwhole, by simp, hok⟩

theorem isWhole_of_eq_ok (hd : d.ItemWise) {e : Bytes} {x : α} (h : d e = .ok x []) :
    IsWhole e := by
  rcases hd.split h with ⟨e', hwhole, he, _⟩
  rw [List.append_nil] at he
  rwa [he]

theorem append_of_eq_ok (hd : d.ItemWise) {e : Bytes} {x : α} (he : IsWhole e)
    (h : d e = .ok x []) (rest : Bytes) : d (e ++ rest) = .ok x rest := by
  rw [hd.append he, h]
  rfl

end ItemWise

theorem exact_eq_ok_iff {α : Type} {d : Decoder α} {b : Bytes} {x : α} :
    d.exact b = .ok x <-> d b = .ok x [] := by
  unfold exact
  cases d b with
  | fail e rest =>
      simp
  | ok y rest =>
      cases rest <;> simp

theorem exact_map {α β : Type} (f : α -> β) (d : Decoder α) (b : Bytes) :
    (d.map f).exact b = (d.exact b).map f := by
  unfold exact map
  cases d b with
  | fail e rest =>
      rfl
  | ok x rest =>
      cases rest <;> rfl

/-!
## Progress
-/

def Progresses {α : Type} (d : Decoder α) : Prop :=
  forall {b rest : Bytes} {x : α}, d b = .ok x rest -> rest.length < b.length

theorem ItemWise.progresses {α : Type} {d : Decoder α} (hd : d.ItemWise) : d.Progresses := by
  intro b rest x h
  rcases hd.split h with ⟨e, he, rfl, _⟩
  have hpos := he.length_pos
  simp only [List.length_append]
  omega

section Items

variable {α : Type} {d : Decoder α}

/-- Any budget that covers the input gives what the length of the input gives. -/
theorem itemsFrom_eq (hd : d.Progresses) (budget : Nat) :
    forall (acc : List α) (b : Bytes), b.length <= budget ->
      itemsFrom d budget acc b = (items d b).map (fun xs => acc.reverse ++ xs) := by
  induction budget using Nat.strongRecOn with
  | ind budget ih =>
      intro acc b hb
      cases b with
      | nil =>
          cases budget <;> simp [items, itemsFrom]
      | cons y ys =>
          cases budget with
          | zero =>
              cases hb
          | succ budget =>
              have hys : ys.length <= budget := Nat.le_of_succ_le_succ hb
              simp only [items, List.length_cons, itemsFrom]
              cases hread : d (y :: ys) with
              | fail e rest =>
                  rfl
              | ok x rest =>
                  have hrest : rest.length <= ys.length := Nat.le_of_lt_succ (hd hread)
                  simp only [Read.andThen_ok]
                  rw [ih budget (Nat.lt_succ_self _) _ _ (Nat.le_trans hrest hys),
                    ih ys.length (Nat.lt_succ_of_le hys) _ _ hrest, Read.map_map]
                  simp

theorem items_cons (hd : d.Progresses) {b rest : Bytes} {x : α} (h : d b = .ok x rest) :
    items d b = (items d rest).map (fun xs => x :: xs) := by
  have hlt := hd h
  cases b with
  | nil =>
      cases hlt
  | cons y ys =>
      simp only [items, List.length_cons, itemsFrom, h, Read.andThen_ok]
      rw [itemsFrom_eq hd ys.length _ _ (Nat.le_of_lt_succ hlt)]
      rfl

theorem items_fault {b rest : Bytes} {e : DecodeFault} (hb : b ≠ [])
    (h : d b = .fail e rest) : items d b = .fail e rest := by
  cases b with
  | nil =>
      exact absurd rfl hb
  | cons y ys =>
      simp only [items, List.length_cons, itemsFrom, h, Read.andThen_fail]

/-- The reads that take a payload apart from front to end. -/
inductive Run (d : Decoder α) : Bytes -> List α -> Prop where
  | nil : Run d [] []
  | cons {b rest : Bytes} {x : α} {xs : List α} :
      d b = .ok x rest -> Run d rest xs -> Run d b (x :: xs)

theorem Run.items_eq_ok (hd : d.Progresses) {b : Bytes} {xs : List α} (h : Run d b xs) :
    items d b = .ok xs [] := by
  induction h with
  | nil =>
      rfl
  | cons hread _ ih =>
      rw [items_cons hd hread, ih]
      rfl

theorem run_of_items_eq_ok (hd : d.Progresses) {b left : Bytes} {xs : List α}
    (h : items d b = .ok xs left) : Run d b xs := by
  -- The list read so far is the tail of the list read before, so the list is what shrinks.
  induction xs generalizing b with
  | nil =>
      cases b with
      | nil =>
          exact Run.nil
      | cons y ys =>
          cases hread : d (y :: ys) with
          | fail e rest =>
              rw [items_fault (by simp) hread] at h
              cases h
          | ok x rest =>
              rw [items_cons hd hread] at h
              rcases Read.map_eq_ok h with ⟨zs, _, hzs⟩
              cases hzs
  | cons x xs ih =>
      cases b with
      | nil =>
          cases h
      | cons y ys =>
          cases hread : d (y :: ys) with
          | fail e rest =>
              rw [items_fault (by simp) hread] at h
              cases h
          | ok z rest =>
              rw [items_cons hd hread] at h
              rcases Read.map_eq_ok h with ⟨zs, htail, hzs⟩
              cases hzs
              exact Run.cons hread (ih htail)

/-!
## Runs over concatenated encodings
-/

variable {f : α -> Bytes} {xs : List α}

theorem Run.of_flatMap (h : forall x, x ∈ xs -> forall rest, d (f x ++ rest) = .ok x rest) :
    Run d (xs.flatMap f) xs := by
  induction xs with
  | nil =>
      exact Run.nil
  | cons x xs ih =>
      rw [List.flatMap_cons]
      exact Run.cons (h x (by simp) _) (ih fun y hy => h y (by simp [hy]))

theorem Run.eq_flatMap {b : Bytes} {P : α -> Prop}
    (h : forall {b rest x}, d b = .ok x rest -> b = f x ++ rest ∧ P x) (hrun : Run d b xs) :
    b = xs.flatMap f ∧ forall x, x ∈ xs -> P x := by
  induction hrun with
  | nil =>
      exact ⟨rfl, fun x hx => by cases hx⟩
  | cons hread _ ih =>
      rcases h hread with ⟨rfl, hx⟩
      rcases ih with ⟨rfl, hxs⟩
      exact ⟨rfl, List.forall_mem_cons.mpr ⟨hx, hxs⟩⟩

theorem items_flatMap_fault (hd : d.Progresses) {e : DecodeFault} {P : α -> Prop}
    (hok : forall x, x ∈ xs -> P x -> forall rest, d (f x ++ rest) = .ok x rest)
    (hfail : forall x, x ∈ xs -> ¬ P x ->
      f x ≠ [] ∧ forall rest, (d (f x ++ rest)).result = .error e)
    (hsome : exists x, x ∈ xs ∧ ¬ P x) : (items d (xs.flatMap f)).result = .error e := by
  induction xs with
  | nil =>
      rcases hsome with ⟨x, hx, _⟩
      cases hx
  | cons x xs ih =>
      rw [List.flatMap_cons]
      by_cases hx : P x
      · have htail : exists y, y ∈ xs ∧ ¬ P y := by
          rcases hsome with ⟨y, hy, hbad⟩
          rcases List.mem_cons.mp hy with rfl | hmem
          · exact absurd hx hbad
          · exact ⟨y, hmem, hbad⟩
        have hresult := ih (fun y hy => hok y (by simp [hy]))
          (fun y hy => hfail y (by simp [hy])) htail
        rw [items_cons hd (hok x (by simp) hx _)]
        cases hitems : items d (xs.flatMap f) with
        | ok ys left =>
            rw [hitems] at hresult
            cases hresult
        | fail e' left =>
            rw [hitems] at hresult
            exact hresult
      · rcases hfail x (by simp) hx with ⟨hne, hresult⟩
        have hread := hresult (xs.flatMap f)
        cases hb : d (f x ++ xs.flatMap f) with
        | ok y left =>
            rw [hb] at hread
            cases hread
        | fail e' left =>
            rw [hb] at hread
            rw [items_fault (by simp [hne]) hb]
            cases hread
            rfl

end Items
end Decoder
end ChainWire
