import ChainWire.Catalog
import Mathlib.Data.List.Sort

/-!
# Settling on a version

A peer looks through the versions that it offers, newest first, for one that
the other peer offers too.  The two peers look through different lists, and
find the same version.
-/

namespace ChainWire
namespace Capabilities

/-!
## Searching an ascending list from the back
-/

section Ascending

variable {α : Type} {rank : α -> Nat} {xs : List α} {p : α -> Bool} {x : α}

theorem rank_lt_iff_mem_after {before after : List α}
    (hascending : (before ++ x :: after).Pairwise fun y z => rank y < rank z) {y : α}
    (hy : y ∈ before ++ x :: after) : rank x < rank y <-> y ∈ after := by
  rcases List.pairwise_append.mp hascending with ⟨_, htail, hbefore⟩
  have hafter := (List.pairwise_cons.mp htail).1
  constructor
  · intro hlt
    rcases List.mem_append.mp hy with hmem | hmem
    · exact absurd (hbefore y hmem x List.mem_cons_self) (Nat.not_lt_of_lt hlt)
    · rcases List.mem_cons.mp hmem with rfl | hmem
      · exact absurd hlt (Nat.lt_irrefl _)
      · exact hmem
  · exact hafter y

/-- In an ascending list, what is found from the back is the greatest that can be found. -/
theorem find?_reverse_eq_some_iff (hascending : xs.Pairwise fun y z => rank y < rank z) :
    xs.reverse.find? p = some x <->
      x ∈ xs ∧ p x = true ∧ forall y, y ∈ xs -> p y = true -> rank y <= rank x := by
  rw [List.find?_eq_some_iff_append]
  constructor
  · rintro ⟨hx, after, before, hsplit, hafter⟩
    have hxs : xs = before.reverse ++ x :: after.reverse := by
      rw [← List.reverse_reverse xs, hsplit]
      simp
    rw [hxs] at hascending ⊢
    refine ⟨by simp, hx, ?_⟩
    -- A greater element stands behind the hit, where nothing was found.
    intro y hy hfound
    apply Nat.not_lt.mp
    intro hlt
    have hmem := (rank_lt_iff_mem_after hascending hy).mp hlt
    simpa [hfound] using hafter y (List.mem_reverse.mp hmem)
  · rintro ⟨hmem, hx, hgreatest⟩
    rcases List.append_of_mem hmem with ⟨before, after, rfl⟩
    refine ⟨hx, after.reverse, before.reverse, by simp, ?_⟩
    intro y hy
    have hafter := List.mem_reverse.mp hy
    have hy' : y ∈ before ++ x :: after := by
      simp [hafter]
    have hlt := (rank_lt_iff_mem_after hascending hy').mpr hafter
    rw [Bool.not_eq_true']
    apply Bool.eq_false_iff.mpr
    intro hfound
    exact absurd hlt (Nat.not_lt.mpr (hgreatest y hy' hfound))

end Ascending

/-!
## The version that both peers offer
-/

variable {c c' : Capabilities} {theirs theirs' : List Version} {v : Version}

theorem mem_versions : v ∈ c.versions <-> v ∈ c.offered := by
  simp [versions, Version.mem_all]

theorem pairwise_versions (c : Capabilities) :
    c.versions.Pairwise fun v w => v.number < w.number := by
  have hall : Version.all.Pairwise fun v w => v.number < w.number := by decide
  exact hall.filter _

/-- A table that is ordered by version has the same keys, in whatever way it was filled. -/
theorem eq_versions_of_pairwise {keys : List Version}
    (hascending : keys.Pairwise fun v w => v.number < w.number)
    (hkeys : forall v, v ∈ keys <-> v ∈ c.offered) : keys = c.versions := by
  have : Std.Irrefl fun v w : Version => v.number < w.number :=
    ⟨fun v => Nat.lt_irrefl v.number⟩
  have : Std.Antisymm fun v w : Version => v.number < w.number :=
    ⟨fun v w hlt hgt => absurd hgt (Nat.lt_asymm hlt)⟩
  apply hascending.eq_of_mem_iff c.pairwise_versions
  intro v
  rw [hkeys, mem_versions]

theorem negotiate_eq_some_iff :
    c.negotiate theirs = some v <->
      v ∈ c.offered ∧ v ∈ theirs ∧
        forall w, w ∈ c.offered -> w ∈ theirs -> w.number <= v.number := by
  rw [negotiate, find?_reverse_eq_some_iff c.pairwise_versions]
  simp only [mem_versions, List.contains_iff_mem]

theorem negotiate_eq_none_iff :
    c.negotiate theirs = none <-> forall v, v ∈ c.offered -> v ∉ theirs := by
  rw [negotiate, List.find?_eq_none]
  simp only [List.mem_reverse, mem_versions, List.contains_iff_mem]

theorem negotiate_congr (hours : forall v, v ∈ c.offered <-> v ∈ c'.offered)
    (htheirs : forall v, v ∈ theirs <-> v ∈ theirs') :
    c.negotiate theirs = c'.negotiate theirs' := by
  apply Option.ext
  intro v
  rw [negotiate_eq_some_iff, negotiate_eq_some_iff]
  simp only [hours, htheirs]

theorem negotiate_comm (ours theirs : List Version) :
    negotiate ⟨ours⟩ theirs = negotiate ⟨theirs⟩ ours := by
  apply Option.ext
  intro v
  rw [negotiate_eq_some_iff, negotiate_eq_some_iff]
  constructor
  · rintro ⟨hours, htheirs, hgreatest⟩
    exact ⟨htheirs, hours, fun w htheirs hours => hgreatest w hours htheirs⟩
  · rintro ⟨htheirs, hours, hgreatest⟩
    exact ⟨hours, htheirs, fun w hours htheirs => hgreatest w htheirs hours⟩

/--
Two peers settle on the same version, whichever of them looks for it in what the
other one offers.  It is the newest that both offer, and they settle on none only
if they have none in common; in which order and how often a version is offered
does not matter, and neither does in which way a table of them was filled.
-/
theorem negotiate_newest_common (ours theirs : List Version) :
    negotiate ⟨ours⟩ theirs = negotiate ⟨theirs⟩ ours ∧
    (forall v, negotiate ⟨ours⟩ theirs = some v <->
      v ∈ ours ∧ v ∈ theirs ∧ forall w, w ∈ ours -> w ∈ theirs -> w.number <= v.number) ∧
    (negotiate ⟨ours⟩ theirs = none <-> forall v, v ∈ ours -> v ∉ theirs) ∧
    (forall ours' theirs' : List Version, (forall v, v ∈ ours' <-> v ∈ ours) ->
      (forall v, v ∈ theirs' <-> v ∈ theirs) ->
        negotiate ⟨ours'⟩ theirs' = negotiate ⟨ours⟩ theirs) ∧
    (forall keys : List Version, (keys.Pairwise fun v w => v.number < w.number) ->
      (forall v, v ∈ keys <-> v ∈ ours) ->
        keys.reverse.find? (fun v => theirs.contains v) = negotiate ⟨ours⟩ theirs) := by
  refine ⟨negotiate_comm ours theirs, ?_, negotiate_eq_none_iff, ?_, ?_⟩
  · intro v
    exact negotiate_eq_some_iff
  · intro ours' theirs' hours htheirs
    exact negotiate_congr hours htheirs
  · intro keys hascending hkeys
    rw [eq_versions_of_pairwise (c := ⟨ours⟩) hascending hkeys, negotiate]

/-- The newest of each side is unknown to the other, and one side repeats itself. -/
theorem negotiate_newest_common_crossing :
    negotiate ⟨[.eth68, .eth65, .eth66]⟩ [.eth67, .eth66, .eth65] = some .eth66 ∧
    negotiate ⟨[.eth65, .eth66, .eth65, .eth68, .eth66]⟩ [.eth65, .eth66, .eth67] =
      negotiate ⟨[.eth68, .eth65, .eth66]⟩ [.eth67, .eth66, .eth65] ∧
    [Version.eth68, .eth66, .eth65].find? (fun v => [.eth67, .eth66, .eth65].contains v) =
      negotiate ⟨[.eth68, .eth65, .eth66]⟩ [.eth67, .eth66, .eth65] := by
  rcases negotiate_newest_common [.eth68, .eth65, .eth66] [.eth67, .eth66, .eth65] with
    ⟨_, hnewest, _, hmembers, hkeys⟩
  refine ⟨(hnewest .eth66).mpr (by decide), hmembers _ _ ?_ ?_,
    hkeys [.eth65, .eth66, .eth68] (by decide) ?_⟩
  all_goals
    intro v
    cases v <;> decide

end Capabilities
end ChainWire
