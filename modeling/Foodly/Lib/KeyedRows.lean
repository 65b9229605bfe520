import Mathlib.Data.List.Basic
import Mathlib.Logic.Function.Basic

namespace KeyedRows

/-!
# Rows under keys

A list of rows whose rows come and go: the row of a key is `f k`, or `none` once it has gone, and
the rows that are left are listed in the order of their keys.  An edit of the row of one key is an
edit of the list at the position that the key then has.

The list is what a screen displays and edits by index; the function `f` is what it is about.  The
index of a key changes whenever a row in front of it goes, and so edits by index do not commute,
while edits of different keys do.

* `rows`, `keysLeft` — the rows and the keys that are left;
* `keysLeft_replace` — a row that is replaced leaves every key where it is;
* `exists_row` — where the row of a key is, and what replacing or removing it does to the list.
-/

variable {κ β : Type*}

/-- The rows that are left. -/
def rows (f : κ → Option β) (keys : List κ) : List β := keys.filterMap f

/-- The keys that still have a row. -/
def keysLeft (f : κ → Option β) (keys : List κ) : List κ := keys.filter fun k => (f k).isSome

theorem keysLeft_congr {f g : κ → Option β} {keys : List κ} (h : ∀ k ∈ keys, f k = g k) :
    keysLeft f keys = keysLeft g keys :=
  List.filter_congr fun k hk => by rw [h k hk]

variable [DecidableEq κ]

/-- What a key's row is replaced by does not concern the other keys. -/
theorem update_of_not_mem {f : κ → Option β} {keys : List κ} {k : κ} (hk : k ∉ keys)
    (row : Option β) : ∀ k' ∈ keys, Function.update f k row k' = f k' := by
  intro k' hk'
  refine Function.update_of_ne ?_ _ _
  rintro rfl
  exact hk hk'

/-- A row that is replaced leaves the same keys. -/
theorem keysLeft_replace {f : κ → Option β} {k : κ} {b : β} (hb : f k = some b) (b' : β)
    (keys : List κ) : keysLeft (Function.update f k (some b')) keys = keysLeft f keys := by
  refine List.filter_congr fun k' _ => ?_
  by_cases hk : k' = k
  · rw [hk, Function.update_self, hb, Option.isSome_some, Option.isSome_some]
  · rw [Function.update_of_ne hk]

/-- **Rows.**  The row of a key is at the position of the key among those left; there the list
    changes when the row is replaced, and there it loses an entry when the row is removed. -/
theorem exists_row {f : κ → Option β} {keys : List κ} (hnodup : keys.Nodup) {k : κ} (hk : k ∈ keys)
    {b : β} (hb : f k = some b) :
    ∃ row, (keysLeft f keys).idxOf? k = some row ∧ (rows f keys)[row]? = some b ∧
      (∀ b', rows (Function.update f k (some b')) keys = (rows f keys).set row b') ∧
      rows (Function.update f k none) keys = (rows f keys).eraseIdx row ∧
      keysLeft (Function.update f k none) keys = (keysLeft f keys).eraseIdx row := by
  induction keys with
  | nil => cases hk
  | cons key keys ih =>
    obtain ⟨hnew, hnodup⟩ := List.nodup_cons.mp hnodup
    by_cases hkey : key = k
    · -- The key is the first that is left.
      subst hkey
      have hother := fun row => update_of_not_mem (f := f) hnew row
      refine ⟨0, ?_, ?_, fun b' => ?_, ?_, ?_⟩
      · simp [keysLeft, hb, List.idxOf?_cons]
      · simp [rows, hb]
      · simp only [rows, List.filterMap_cons, Function.update_self, hb, List.set_cons_zero]
        rw [List.filterMap_congr (hother _)]
      · simp only [rows, List.filterMap_cons, Function.update_self, hb, List.eraseIdx_cons_zero]
        exact List.filterMap_congr (hother _)
      · have hfilter := keysLeft_congr (hother none)
        simpa [keysLeft, hb] using hfilter
    · -- Its row is further down, one place later when the first key still has a row.
      have hmem : k ∈ keys := (List.mem_cons.mp hk).resolve_left (Ne.symm hkey)
      obtain ⟨row, hrow, hget, hset, herase, hkeys⟩ := ih hnodup hmem
      have hsame : ∀ row, Function.update f k row key = f key := fun row =>
        Function.update_of_ne hkey _ _
      cases hf : f key with
      | none =>
        refine ⟨row, ?_, ?_, fun b' => ?_, ?_, ?_⟩
        · simpa [keysLeft, hf] using hrow
        · simpa [rows, hf] using hget
        · simpa [rows, hf, hsame] using hset b'
        · simpa [rows, hf, hsame] using herase
        · simpa [keysLeft, hf, hsame] using hkeys
      | some b₀ =>
        refine ⟨row + 1, ?_, ?_, fun b' => ?_, ?_, ?_⟩
        · simp only [keysLeft] at hrow
          simp [keysLeft, hf, List.idxOf?_cons, hkey, hrow]
        · simpa [rows, hf] using hget
        · simpa [rows, hf, hsame] using hset b'
        · simpa [rows, hf, hsame] using herase
        · simpa [keysLeft, hf, hsame] using hkeys

end KeyedRows
