import Mathlib.Data.List.AList
import Mathlib.Data.List.Nodup

namespace DocumentStore

/-!
# Keyed stores read by group

A store maps keys to values, and every key belongs to a group: a document to its collection, a
row to its table.  Reading a group returns exactly the keys of the group with their values,
in no particular order.

A key belongs to one group only, since the group is a function `f` of the key; so two groups never
share an entry, and what is written under the keys of one group cannot be read in another.

* `Store` — a finite map, as a list of entries with different keys;
* `group` — the entries whose key belongs to a group;
* `mem_group` — what a group holds;
* `group_perm` — a list of different keys with the same contents is the group, up to order.

Two stores with the same entries may list them in different orders, so what is said about a group
is said up to a permutation, never as an equation between lists.
-/

variable {κ ν γ : Type*} [DecidableEq κ] [DecidableEq γ]

/-- A map from keys to values, as a list of entries with different keys. -/
abbrev Store (κ ν : Type*) := AList fun _ : κ => ν

/-- The entries whose key belongs to the group `c`. -/
def group (f : κ → γ) (c : γ) (s : Store κ ν) : List (κ × ν) :=
  (s.entries.filter fun e => decide (f e.1 = c)).map fun e => (e.1, e.2)

/-- A group holds the keys that belong to it, with the values the store has for them. -/
theorem mem_group {f : κ → γ} {c : γ} {s : Store κ ν} {k : κ} {v : ν} :
    (k, v) ∈ group f c s ↔ f k = c ∧ s.lookup k = some v := by
  unfold group
  rw [List.mem_map]
  constructor
  · rintro ⟨e, he, heq⟩
    obtain ⟨hmem, hgroup⟩ := List.mem_filter.mp he
    obtain ⟨rfl, rfl⟩ := Prod.mk.inj heq
    exact ⟨of_decide_eq_true hgroup, AList.mem_lookup_iff.mpr hmem⟩
  · rintro ⟨hgroup, hlookup⟩
    have hmem : (⟨k, v⟩ : Sigma fun _ : κ => ν) ∈ s.entries := AList.mem_lookup_iff.mp hlookup
    exact ⟨⟨k, v⟩, List.mem_filter.mpr ⟨hmem, decide_eq_true hgroup⟩, rfl⟩

omit [DecidableEq κ] in
/-- The keys of a group are different. -/
theorem nodup_keys_group (f : κ → γ) (c : γ) (s : Store κ ν) :
    ((group f c s).map Prod.fst).Nodup := by
  unfold group
  rw [List.map_map]
  show ((s.entries.filter fun e => decide (f e.1 = c)).map Sigma.fst).Nodup
  exact List.Nodup.sublist (List.Sublist.map _ List.filter_sublist) s.keys_nodup

/-- **Reading a group.**  A list of different keys that has, of the keys of the group, exactly
    those of the store with their values, is the group up to order. -/
theorem group_perm {f : κ → γ} {c : γ} {s : Store κ ν} {l : List (κ × ν)}
    (hnodup : (l.map Prod.fst).Nodup)
    (hmem : ∀ k v, (k, v) ∈ l ↔ f k = c ∧ s.lookup k = some v) : (group f c s).Perm l := by
  -- Both lists have no repetitions, so it is enough that they have the same members.
  apply (List.perm_ext_iff_of_nodup (nodup_keys_group f c s).of_map hnodup.of_map).mpr
  rintro ⟨k, v⟩
  rw [mem_group, hmem]

end DocumentStore
