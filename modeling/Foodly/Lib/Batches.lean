import Mathlib.Data.List.Induction

namespace Batches

/-!
# Batches delivered item by item

Batches of items are numbered in the order they come in, and their items are handled one at a
time, first in, first out.  Whoever handles an item adds it to the items seen of its batch and
shows these.  So while a batch is being handled, more and more of it is shown; and a batch without
items is never shown at all.

* `tagged batches` — all items in the order they are handled, each with the number of its batch;
* `ofBatch i items` — the items of batch `i` among those handled;
* `shown items` — what the handler of the last item shows;
* `lastNonempty` — the last batch that has items.

The results are about a queue that has been handled in part, and about one that is empty:

* `tagged_concat` — a new batch goes behind the earlier ones;
* `pairwise_tagged`, `shown_of_next` — items are handled batch by batch, so what is shown is of the
  same batch as the next item, once some of that batch has been handled;
* `shown_tagged` — once everything has been handled, the last batch that has any items is on show;
* `lastNonempty_eq_last_iff` — when that is the last batch.
-/

variable {α : Type*}

/-- The items of all batches in order, each with the number of its batch. -/
def tagged (batches : List (List α)) : List (ℕ × α) :=
  batches.zipIdx.flatMap fun numbered => numbered.1.map fun item => (numbered.2, item)

/-- The items of one batch. -/
def ofBatch (i : ℕ) (items : List (ℕ × α)) : List α :=
  (items.filter fun item => item.1 == i).map (·.2)

/-- What the last handled item shows: all items of its batch so far. -/
def shown (items : List (ℕ × α)) : List α :=
  match items.getLast? with
  | none => []
  | some last => ofBatch last.1 items

/-- The last batch that has items, or nothing. -/
def lastNonempty (batches : List (List α)) : List α :=
  batches.foldl (fun before batch => if batch.isEmpty then before else batch) []

/-! ### Lemmas beside the definitions -/

@[simp] theorem tagged_nil : tagged ([] : List (List α)) = [] := rfl

@[simp] theorem ofBatch_nil (i : ℕ) : ofBatch i ([] : List (ℕ × α)) = [] := rfl

/-- A new batch goes behind the earlier ones, under the next number. -/
theorem tagged_concat (batches : List (List α)) (batch : List α) :
    tagged (batches ++ [batch])
      = tagged batches ++ batch.map fun item => (batches.length, item) := by
  rw [tagged, List.zipIdx_append, List.flatMap_append, tagged]
  simp

theorem ofBatch_append (i : ℕ) (items items' : List (ℕ × α)) :
    ofBatch i (items ++ items') = ofBatch i items ++ ofBatch i items' := by
  rw [ofBatch, List.filter_append, List.map_append, ofBatch, ofBatch]

theorem ofBatch_concat (i : ℕ) (items : List (ℕ × α)) (item : ℕ × α) :
    ofBatch i (items ++ [item]) = ofBatch i items ++ if item.1 = i then [item.2] else [] := by
  rw [ofBatch_append]
  congr 1
  by_cases h : item.1 = i <;> simp [ofBatch, h]

/-- The items of a batch under its own number are the batch. -/
theorem ofBatch_map (i : ℕ) (batch : List α) :
    ofBatch i (batch.map fun item => (i, item)) = batch := by
  induction batch with
  | nil => rfl
  | cons item batch ih => simpa [ofBatch] using ih

/-- No item has a number that has not been given out. -/
theorem lt_of_mem_tagged {batches : List (List α)} {item : ℕ × α} (h : item ∈ tagged batches) :
    item.1 < batches.length := by
  obtain ⟨numbered, hmem, hitem⟩ := List.mem_flatMap.mp h
  obtain ⟨_, -, rfl⟩ := List.mem_map.mp hitem
  have hbound := (List.mem_zipIdx hmem).2.1
  omega

theorem ofBatch_of_lt {items : List (ℕ × α)} {i : ℕ} (h : ∀ item ∈ items, item.1 < i) :
    ofBatch i items = [] := by
  have hnone : ∀ item ∈ items, ¬(item.1 == i) = true := by
    intro item hitem
    have hlt := h item hitem
    simp only [beq_iff_eq]
    omega
  rw [ofBatch, List.filter_eq_nil_iff.mpr hnone, List.map_nil]

theorem shown_concat (items : List (ℕ × α)) (item : ℕ × α) :
    shown (items ++ [item]) = ofBatch item.1 items ++ [item.2] := by
  rw [shown, List.getLast?_concat]
  simp only [ofBatch_concat, if_true]

theorem lastNonempty_concat (batches : List (List α)) (batch : List α) :
    lastNonempty (batches ++ [batch])
      = if batch.isEmpty then lastNonempty batches else batch := by
  rw [lastNonempty, List.foldl_append, List.foldl_cons, List.foldl_nil, lastNonempty]

/-! ### Everything handled -/

/-- **All handled.**  Once every item has been handled, the last nonempty batch is on show. -/
theorem shown_tagged (batches : List (List α)) : shown (tagged batches) = lastNonempty batches := by
  induction batches using List.reverseRecOn with
  | nil => rfl
  | append_singleton batches batch ih =>
    rw [tagged_concat, lastNonempty_concat]
    rcases List.eq_nil_or_concat batch with rfl | ⟨init, last, rfl⟩
    · -- A batch without items shows nothing of its own.
      rw [List.map_nil, List.append_nil, ih]
      rfl
    · have hnew : ofBatch batches.length (tagged batches) = [] :=
        ofBatch_of_lt fun _ => lt_of_mem_tagged
      rw [List.concat_eq_append, List.map_append, List.map_singleton, ← List.append_assoc,
        shown_concat, ofBatch_append, hnew, ofBatch_map, List.nil_append]
      simp

theorem lastNonempty_eq_nil_iff (batches : List (List α)) :
    lastNonempty batches = [] ↔ ∀ batch ∈ batches, batch = [] := by
  induction batches using List.reverseRecOn with
  | nil => exact iff_of_true rfl nofun
  | append_singleton batches batch ih =>
    rw [lastNonempty_concat, List.forall_mem_append, ← ih]
    cases batch with
    | nil => simp
    | cons item batch => simp

/-- The last nonempty batch is the last batch when that has items, or when no batch has any. -/
theorem lastNonempty_eq_last_iff (batches : List (List α)) {last : List α}
    (hlast : batches.getLast? = some last) :
    lastNonempty batches = last ↔ last ≠ [] ∨ ∀ batch ∈ batches, batch = [] := by
  obtain ⟨init, rfl⟩ := List.getLast?_eq_some_iff.mp hlast
  by_cases hempty : last = []
  · subst hempty
    rw [lastNonempty_eq_nil_iff]
    simp
  · rw [lastNonempty_concat, List.isEmpty_eq_false_iff.mpr hempty]
    exact iff_of_true rfl (Or.inl hempty)

/-! ### The batch that is being handled -/

/-- Items are handled batch by batch. -/
theorem pairwise_tagged (batches : List (List α)) :
    (tagged batches).Pairwise fun item later => item.1 ≤ later.1 := by
  induction batches using List.reverseRecOn with
  | nil => exact List.Pairwise.nil
  | append_singleton batches batch ih =>
    rw [tagged_concat, List.pairwise_append]
    refine ⟨ih, ?_, fun item hitem later hlater => ?_⟩
    · rw [List.pairwise_map]
      exact List.pairwise_of_forall fun _ _ => Nat.le_refl _
    · obtain ⟨_, -, rfl⟩ := List.mem_map.mp hlater
      exact Nat.le_of_lt (lt_of_mem_tagged hitem)

/-- When items of the batch of the next item have been handled, they are what is shown. -/
theorem shown_of_next {batches : List (List α)} {handled rest : List (ℕ × α)} {next : ℕ × α}
    (h : tagged batches = handled ++ next :: rest) (hne : ofBatch next.1 handled ≠ []) :
    shown handled = ofBatch next.1 handled := by
  rcases List.eq_nil_or_concat handled with rfl | ⟨init, last, rfl⟩
  · exact absurd rfl hne
  rw [List.concat_eq_append] at *
  have hpairwise := pairwise_tagged batches
  rw [h] at hpairwise
  obtain ⟨hhandled, -, hlater⟩ := List.pairwise_append.mp hpairwise
  -- The last item is of no earlier batch than that one, and of no later batch than the next.
  have hupper : last.1 ≤ next.1 := hlater last (by simp) next (by simp)
  have hlower : next.1 ≤ last.1 := by
    by_contra hlt
    refine hne (ofBatch_of_lt fun item hitem => ?_)
    rcases List.mem_append.mp hitem with hinit | hlast
    · have hle := (List.pairwise_append.mp hhandled).2.2 item hinit last (by simp)
      omega
    · rw [List.mem_singleton.mp hlast]
      omega
  rw [shown, List.getLast?_concat]
  show ofBatch last.1 (init ++ [last]) = _
  rw [Nat.le_antisymm hupper hlower]

end Batches
