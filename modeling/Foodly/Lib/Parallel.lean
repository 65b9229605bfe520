import Mathlib.Data.List.Forall2
import Mathlib.Data.List.InsertIdx
import Mathlib.Data.List.Nodup
import Mathlib.Data.List.Perm.Basic

namespace Parallel

/-!
# Parallel columns and first-occurrence removal

A table kept as parallel columns has one list per field.  `removeFirst x col` takes the
first entry equal to `x` out of a column, as `remove(at: firstIndex(of: x)!)` does.
Equality is a boolean `==` that is only assumed symmetric and transitive: an entry need
not be equal to itself, and equal entries need not be the same.

What a removal does to one column, whatever the others do:

* `countP_removeFirst` — whatever entry is picked, the column loses one entry equal to
  `x`, so `SameCounts` with a list of rows is kept (`SameCounts.removeFirst`);
* `SameCounts.isSome_removeFirst` — an entry that the counts promise is found.

What it does to the table:

* `Lists` — the column lists one field of the rows, in their order and up to `==`;
* `Unbroken` — the entries from the first match of `x` up to a position `k` all equal `x`;
* `lists_removeFirst` — then removing the first match is the same, up to `==`, as
  removing the entry at `k`, so a column that lists the rows in order lists the rows
  without row `k` in order;
* `lists_removeFirst_replace` — the same for rows under names, where the row that goes and the row
  that was asked for may be two, and change names.

A table whose columns are searched one by one therefore stays a table as long as the removals can
be taken at one position, and keeps the right counts in any case.
-/

variable {α β : Type*} [BEq α]

/-- Index of the first entry equal to `x`. -/
def firstIndex (x : α) (col : List α) : Option ℕ := col.findIdx? (· == x)

/-- Remove the entry at `i`; `none` when `i` is out of range. -/
def removeAt {γ : Type*} (col : List γ) (i : ℕ) : Option (List γ) :=
  if i < col.length then some (col.eraseIdx i) else none

/-- Remove the first entry equal to `x`; `none` when there is none. -/
def removeFirst (x : α) (col : List α) : Option (List α) :=
  (firstIndex x col).bind (removeAt col)

/-! ### Reading by index -/

/-- Reading a whole list by index gives the list. -/
theorem mapM_getElem? {γ : Type*} (l : List γ) :
    (List.range l.length).mapM (fun i => l[i]?) = some l := by
  induction l with
  | nil => rfl
  | cons a l ih =>
    -- Index zero reads the head, and the later indices read the tail.
    rw [List.length_cons, List.range_succ_eq_map, List.mapM_cons, List.mapM_map]
    simp only [List.getElem?_cons_zero, Function.comp_def, Nat.succ_eq_add_one,
      List.getElem?_cons_succ, ih]
    rfl

/-! ### First-occurrence removal, entry by entry -/

theorem removeAt_of_lt {γ : Type*} {col : List γ} {i : ℕ} (h : i < col.length) :
    removeAt col i = some (col.eraseIdx i) := if_pos h

/-- What is removed was there. -/
theorem removeAt_eq_some_iff {γ : Type*} {col col' : List γ} {i : ℕ} :
    removeAt col i = some col' ↔ i < col.length ∧ col.eraseIdx i = col' := by
  rw [removeAt, Option.ite_none_right_eq_some, Option.some.injEq]

/-- A list is the entry at a position and the entries that are left without it. -/
theorem perm_of_getElem? {γ : Type*} {l : List γ} {i : ℕ} {a : γ} (ha : l[i]? = some a) :
    (a :: l.eraseIdx i).Perm l := by
  obtain ⟨hi, rfl⟩ := List.getElem?_eq_some_iff.mp ha
  exact List.getElem_cons_eraseIdx_perm hi

/-- Putting `b` at a position takes the entry there out. -/
theorem perm_set {γ : Type*} {l : List γ} {i : ℕ} {a : γ} (ha : l[i]? = some a) (b : γ) :
    (b :: l).Perm (a :: l.set i b) := by
  have hb : (l.set i b)[i]? = some b :=
    List.getElem?_set_self (List.getElem?_eq_some_iff.mp ha).1
  have hset := perm_of_getElem? hb
  rw [List.eraseIdx_set_eq] at hset
  calc (b :: l).Perm (b :: a :: l.eraseIdx i) := (perm_of_getElem? ha).symm.cons b
    _ |>.Perm (a :: b :: l.eraseIdx i) := .swap a b _
    _ |>.Perm (a :: l.set i b) := hset.cons a

/-- The first match is removed where it is found. -/
theorem removeFirst_eq_some_iff {x : α} {col col' : List α} : removeFirst x col = some col' ↔
    ∃ i, firstIndex x col = some i ∧ i < col.length ∧ col.eraseIdx i = col' := by
  simp only [removeFirst, Option.bind_eq_some_iff, removeAt_eq_some_iff]

/-- A removal takes one entry. -/
theorem length_of_removeFirst {x : α} {col col' : List α} (h : removeFirst x col = some col') :
    col.length = col'.length + 1 := by
  obtain ⟨i, -, hi, rfl⟩ := removeFirst_eq_some_iff.mp h
  exact (List.length_eraseIdx_add_one hi).symm

/-- The entry found is equal to the one looked for. -/
theorem getElem?_of_firstIndex {x : α} {col : List α} {i : ℕ} (h : firstIndex x col = some i) :
    ∃ y, col[i]? = some y ∧ (y == x) = true := by
  obtain ⟨hi, hy, -⟩ := List.findIdx?_eq_some_iff_getElem.mp h
  exact ⟨col[i], List.getElem?_eq_getElem hi, hy⟩

@[simp] theorem removeFirst_nil (x : α) : removeFirst x [] = none := rfl

/-- The first match is the head of the column, or the first match in its tail. -/
theorem removeFirst_cons (x y : α) (col : List α) :
    removeFirst x (y :: col)
      = if y == x then some col else (removeFirst x col).map (y :: ·) := by
  simp only [removeFirst, firstIndex, List.findIdx?_cons]
  by_cases hyx : (y == x) = true
  · simp [hyx, removeAt]
  · rw [if_neg hyx, if_neg hyx]
    cases col.findIdx? (· == x) with
    | none => rfl
    | some p =>
      simp only [Option.map_some, Option.bind_some, removeAt, List.length_cons,
        Nat.add_lt_add_iff_right, List.eraseIdx_cons_succ]
      split <;> rfl

/-- There is something to remove exactly when some entry equals `x`. -/
theorem isSome_removeFirst (x : α) (col : List α) :
    (removeFirst x col).isSome = col.any (· == x) := by
  induction col with
  | nil => rfl
  | cons y col ih =>
    rw [removeFirst_cons, List.any_cons]
    by_cases hyx : (y == x) = true
    · simp [hyx]
    · simp [hyx, ih]

/-- In a column of equal entries, the first one goes. -/
theorem removeFirst_replicate [ReflBEq α] (x : α) (n : ℕ) :
    removeFirst x (List.replicate (n + 1) x) = some (List.replicate n x) := by
  rw [List.replicate_succ, removeFirst_cons, if_pos BEq.rfl]

/-! ### Counting entries -/

/-- Both columns have as many entries equal to `z`, for every `z`. -/
def SameCounts (col col' : List α) : Prop :=
  ∀ z, col.countP (· == z) = col'.countP (· == z)

section
variable [PartialEquivBEq α]

/-- Equal entries are equal to the same things. -/
theorem beq_left_congr {x y : α} (h : (y == x) = true) (z : α) : (y == z) = (x == z) := by
  rw [Bool.eq_iff_iff]
  exact ⟨fun hyz => BEq.trans (BEq.symm h) hyz, fun hxz => BEq.trans h hxz⟩

/-- Equal values have the same first match. -/
theorem removeFirst_congr {x y : α} (h : (x == y) = true) (col : List α) :
    removeFirst x col = removeFirst y col := by
  have hsame : (fun z : α => z == x) = fun z => z == y := by
    funext z
    rw [Bool.eq_iff_iff]
    exact ⟨fun hz => BEq.trans hz h, fun hz => BEq.trans hz (BEq.symm h)⟩
  rw [removeFirst, removeFirst, firstIndex, firstIndex, hsame]

/-- Whatever entry is picked, a removal of `x` takes out one entry equal to `x`. -/
theorem countP_removeFirst {x : α} {col col' : List α} (h : removeFirst x col = some col')
    (z : α) : col.countP (· == z) = col'.countP (· == z) + if x == z then 1 else 0 := by
  induction col generalizing col' with
  | nil => simp at h
  | cons y col ih =>
    rw [removeFirst_cons] at h
    split at h
    · rename_i hyx
      rw [Option.some.injEq] at h
      -- The head goes, and it is equal to whatever `x` is equal to.
      rw [List.countP_cons, h, beq_left_congr hyx z]
    · obtain ⟨rest, hrest, rfl⟩ := Option.map_eq_some_iff.mp h
      -- The head stays, and so does what it counts for.
      rw [List.countP_cons, List.countP_cons, ih hrest]
      omega

/-- A value that is found is equal to itself. -/
theorem beq_self_of_removeFirst {x : α} {col col' : List α} (h : removeFirst x col = some col') :
    (x == x) = true := by
  have hfound := isSome_removeFirst x col
  rw [h, Option.isSome_some, eq_comm, List.any_eq_true] at hfound
  obtain ⟨z, -, hz⟩ := hfound
  exact BEq.trans (BEq.symm hz) hz

/-- Values whose removals leave the same column are equal. -/
theorem beq_of_removeFirst {x y : α} {col col' : List α} (hx : removeFirst x col = some col')
    (hy : removeFirst y col = some col') : (x == y) = true := by
  have hcount := (countP_removeFirst hx x).symm.trans (countP_removeFirst hy x)
  rw [if_pos (beq_self_of_removeFirst hx), Nat.add_left_cancel_iff] at hcount
  -- The column without `y` has one entry equal to `x` less as well.
  by_contra hne
  have hyx : ¬(y == x) = true := fun h => hne (BEq.symm h)
  rw [if_neg hyx] at hcount
  exact absurd hcount Nat.one_ne_zero

/-- Removing `x` on one side and any entry equal to `x` on the other keeps the counts. -/
theorem SameCounts.removeFirst {x y : α} {col col' rows : List α}
    (hcol : SameCounts col (y :: rows)) (hyx : (y == x) = true)
    (h : Parallel.removeFirst x col = some col') : SameCounts col' rows := by
  intro z
  have hz := hcol z
  rw [countP_removeFirst h z, List.countP_cons, beq_left_congr hyx z] at hz
  omega

end

/-- An entry equal to itself that the counts promise is found. -/
theorem SameCounts.isSome_removeFirst {x : α} {col rows : List α} (hcol : SameCounts col rows)
    (hx : x ∈ rows) (hrefl : (x == x) = true) : (Parallel.removeFirst x col).isSome := by
  rw [Parallel.isSome_removeFirst, List.any_eq_true]
  have hpos : 0 < col.countP (· == x) := by
    rw [hcol x]
    exact List.countP_pos_iff.mpr ⟨x, hx, hrefl⟩
  exact List.countP_pos_iff.mp hpos

/-- A reordering of what the column counts, when only equal entries are `==`. -/
theorem SameCounts.perm_of_lawful [LawfulBEq α] {col rows : List α} (h : SameCounts col rows) :
    col.Perm rows := List.perm_iff_count.mpr h

/-- Adding equal entries at the end keeps the counts. -/
theorem SameCounts.concat {col rows : List α} (h : SameCounts col rows) (x : α) :
    SameCounts (col ++ [x]) (x :: rows) := by
  intro z
  rw [List.countP_append, h z, List.countP_cons, List.countP_cons, List.countP_nil, Nat.zero_add]

/-- A reordering has the same counts. -/
theorem SameCounts.perm {col rows rows' : List α} (h : SameCounts col rows)
    (hperm : rows.Perm rows') : SameCounts col rows' :=
  fun z => (h z).trans (hperm.countP_eq _)

/-- Columns with the same counts have as many entries, when every value is equal to itself. -/
theorem SameCounts.length_eq [EquivBEq α] {col rows : List α} (h : SameCounts col rows) :
    col.length = rows.length := by
  induction rows generalizing col with
  | nil =>
    cases col with
    | nil => rfl
    | cons x col =>
      have hx := h x
      rw [List.countP_cons, if_pos BEq.rfl, List.countP_nil] at hx
      exact absurd hx (Nat.succ_ne_zero _)
  | cons x rows ih =>
    obtain ⟨col', hcol'⟩ := Option.isSome_iff_exists.mp
      (h.isSome_removeFirst List.mem_cons_self BEq.rfl)
    rw [length_of_removeFirst hcol', ih (h.removeFirst BEq.rfl hcol'), List.length_cons]

/-- A reordering of the values of `f` on a list is the values of `f` on a reordering of it. -/
theorem exists_map_of_perm {γ δ : Type*} {f : γ → δ} {col : List δ} {rows : List γ}
    (h : col.Perm (rows.map f)) : ∃ rows' : List γ, rows'.Perm rows ∧ col = rows'.map f := by
  have hmap : List.Forall₂ (fun a b => a = f b) (rows.map f) rows := by
    rw [List.forall₂_map_left_iff]
    exact List.forall₂_same.mpr fun _ _ => rfl
  obtain ⟨rows', hrows', hperm⟩ := List.perm_comp_forall₂ h hmap
  refine ⟨rows', hperm, ?_⟩
  rwa [← List.forall₂_eq_eq_eq, List.forall₂_map_right_iff]

/-- Lists that are related entry by entry stay so when an entry is replaced by one that is related
    to the entry opposite. -/
theorem forall₂_set {γ δ : Type*} {R : γ → δ → Prop} {l : List γ} {l' : List δ}
    (h : List.Forall₂ R l l') {i : ℕ} {a : γ} (ha : ∀ b ∈ l'[i]?, R a b) :
    List.Forall₂ R (l.set i a) l' := by
  induction h generalizing i with
  | nil => exact .nil
  | cons hhead htail ih =>
    cases i with
    | zero => exact .cons (ha _ rfl) htail
    | succ i => exact .cons hhead (ih ha)

/-- Opposite entries may be removed. -/
theorem forall₂_eraseIdx {γ δ : Type*} {R : γ → δ → Prop} {l : List γ} {l' : List δ}
    (h : List.Forall₂ R l l') (i : ℕ) : List.Forall₂ R (l.eraseIdx i) (l'.eraseIdx i) := by
  induction h generalizing i with
  | nil => exact .nil
  | cons hhead htail ih =>
    cases i with
    | zero => exact htail
    | succ i => exact .cons hhead (ih i)

/-- The entries at one index are related. -/
theorem forall₂_getElem? {γ δ : Type*} {R : γ → δ → Prop} {l : List γ} {l' : List δ}
    (h : List.Forall₂ R l l') {i : ℕ} {b : δ} (hb : l'[i]? = some b) :
    ∃ a, l[i]? = some a ∧ R a b := by
  obtain ⟨hi, rfl⟩ := List.getElem?_eq_some_iff.mp hb
  have hi' : i < l.length := h.length_eq ▸ hi
  exact ⟨l[i], List.getElem?_eq_getElem hi', h.get hi' hi⟩

/-! ### Columns that list the rows in order -/

/-- The column lists the field `f` of the rows, in their order and up to `==`. -/
def Lists (f : β → α) (col : List α) (rows : List β) : Prop :=
  List.Forall₂ (fun a b => (a == f b) = true) col rows

/-- Position `k` holds `x`, and so does every position between the first match of `x` and
    `k`: which of these entries is removed makes no difference. -/
def Unbroken (x : α) (col : List α) (k : ℕ) : Prop :=
  (col[k]?.any (· == x)) = true ∧
    ((col.take (k + 1)).dropWhile (fun y => !(y == x))).all (· == x) = true

instance (x : α) (col : List α) (k : ℕ) : Decidable (Unbroken x col k) :=
  inferInstanceAs (Decidable (_ ∧ _))

/-- Past a head that differs from `x`, the position moves down by one. -/
theorem unbroken_cons {x y : α} {col : List α} {k : ℕ} (hyx : (y == x) = false)
    (h : Unbroken x (y :: col) k) : ∃ j, k = j + 1 ∧ Unbroken x col j := by
  cases k with
  | zero => simp [Unbroken, hyx] at h
  | succ j =>
    refine ⟨j, rfl, ?_⟩
    simpa [Unbroken, hyx] using h

/-- From a head that equals `x`, every entry up to the position equals `x`. -/
theorem Unbroken.all_take {x y : α} {col : List α} {k : ℕ} (hyx : (y == x) = true)
    (h : Unbroken x (y :: col) k) :
    k < (y :: col).length ∧ ∀ z ∈ (y :: col).take (k + 1), (z == x) = true := by
  obtain ⟨hk, hall⟩ := h
  constructor
  · by_contra hlen
    rw [List.getElem?_eq_none (Nat.not_lt.mp hlen)] at hk
    simp at hk
  · rw [List.take_succ_cons, List.dropWhile_cons_of_neg (by simp [hyx])] at hall
    simpa [List.all_eq_true] using hall

section
variable [PartialEquivBEq α] {f : β → α}

/-- Dropping the head of a run of equal entries shifts the others into its place. -/
theorem lists_shift {x y : α} {col : List α} {rows : List β} {k : ℕ}
    (hcol : Lists f (y :: col) rows) (hk : k < (y :: col).length)
    (hall : ∀ z ∈ (y :: col).take (k + 1), (z == x) = true) :
    Lists f col (rows.eraseIdx k) := by
  induction k generalizing y col rows with
  | zero =>
    cases hcol with
    | cons _ htail => exact htail
  | succ k ih =>
    cases hcol with
    | @cons _ b _ rows hyb htail =>
      cases col with
      | nil => simp at hk
      | cons z col =>
        rw [List.eraseIdx_cons_succ]
        have hy : (y == x) = true := hall y (by simp)
        have hz : (z == x) = true := hall z (by simp)
        -- The second entry takes the place of the first: both are equal to `x`.
        have hzb : (z == f b) = true := BEq.trans hz (BEq.trans (BEq.symm hy) hyb)
        refine List.Forall₂.cons hzb (ih htail (by simpa using hk) fun w hw => ?_)
        exact hall w (by rw [List.take_succ_cons]; exact List.mem_cons_of_mem _ hw)

/-- **Removal in place.**  When the entries from the first match of `x` up to `k` all equal
    `x`, removing the first match leaves the column listing the rows without row `k`. -/
theorem lists_removeFirst {x : α} {col col' : List α} {rows : List β} {k : ℕ}
    (hcol : Lists f col rows) (hk : Unbroken x col k) (h : removeFirst x col = some col') :
    Lists f col' (rows.eraseIdx k) := by
  induction col generalizing col' rows k with
  | nil => simp at h
  | cons y col ih =>
    rw [removeFirst_cons] at h
    split at h
    · rename_i hyx
      rw [Option.some.injEq] at h
      subst h
      -- The first match is the head, and all entries up to `k` are equal to it.
      obtain ⟨hlen, hall⟩ := hk.all_take hyx
      exact lists_shift hcol hlen hall
    · rename_i hyx
      obtain ⟨rest, hrest, rfl⟩ := Option.map_eq_some_iff.mp h
      -- The head does not match: it stays, and the position moves down by one.
      obtain ⟨j, rfl, hj⟩ := unbroken_cons (eq_false_of_ne_true hyx) hk
      cases hcol with
      | cons hyb htail => exact List.Forall₂.cons hyb (ih htail hj hrest)

end

/-- A new row at the end of the table goes to the end of the column. -/
theorem Lists.concat {f : β → α} {col : List α} {rows : List β} (h : Lists f col rows)
    {x : α} {b : β} (hx : (x == f b) = true) : Lists f (col ++ [x]) (rows ++ [b]) :=
  List.rel_append h (List.Forall₂.cons hx List.Forall₂.nil)

/-- Row `k` may be replaced by a row with an equal field. -/
theorem Lists.map [PartialEquivBEq α] {f : β → α} {col : List α} {rows : List β}
    (h : Lists f col rows) {g : β → β} (hg : ∀ b ∈ rows, (f b == f (g b)) = true) :
    Lists f col (rows.map g) := by
  induction h with
  | nil => exact List.Forall₂.nil
  | @cons a b col rows hab _ ih =>
    exact List.Forall₂.cons (BEq.trans hab (hg b (by simp)))
      (ih fun c hc => hg c (List.mem_cons_of_mem _ hc))

theorem Lists.length_eq {f : β → α} {col : List α} {rows : List β} (h : Lists f col rows) :
    col.length = rows.length := List.Forall₂.length_eq h

/-- An in-range position that holds `x` lists a row whose field equals `x`. -/
theorem Lists.beq_of_unbroken [PartialEquivBEq α] {f : β → α} {col : List α} {rows : List β}
    (h : Lists f col rows) {x : α} {k : ℕ} (hk : Unbroken x col k) :
    ∃ b, rows[k]? = some b ∧ (x == f b) = true := by
  have hany := hk.1
  rw [Option.any_eq_true] at hany
  obtain ⟨a, ha, hax⟩ := hany
  obtain ⟨hlen, rfl⟩ := List.getElem?_eq_some_iff.mp ha
  have hlen' : k < rows.length := h.length_eq ▸ hlen
  refine ⟨rows[k], List.getElem?_eq_getElem hlen', BEq.trans (BEq.symm hax) ?_⟩
  exact List.Forall₂.get h hlen hlen'

/-- A listed field is equal to itself. -/
theorem Lists.beq_self [PartialEquivBEq α] {f : β → α} {col : List α} {rows : List β}
    (h : Lists f col rows) {b : β} (hb : b ∈ rows) : (f b == f b) = true := by
  obtain ⟨i, hi, rfl⟩ := List.getElem_of_mem hb
  have hcol := List.Forall₂.get h (h.length_eq ▸ hi) hi
  exact BEq.trans (BEq.symm hcol) hcol

/-- In a column that lists the rows, the entry at a position is that of the row there. -/
theorem Lists.getElem? {f : β → α} {col : List α} {rows : List β} (h : Lists f col rows)
    {i : ℕ} {b : β} (hb : rows[i]? = some b) : ∃ a, col[i]? = some a ∧ (a == f b) = true :=
  forall₂_getElem? h hb

/-- The row at the common position goes, and the rows that `sel` selects, whose field is the
    removed entry, are listed as that row instead. -/
theorem lists_removeFirst_replace [PartialEquivBEq α] {f : β → α} {x : α} {col col' : List α}
    {rows : List β} {k : ℕ} {b : β} (sel : β → Prop) [DecidablePred sel] (hcol : Lists f col rows)
    (hk : Unbroken x col k) (h : removeFirst x col = some col') (hb : rows[k]? = some b)
    (hsel : ∀ r ∈ rows, sel r → f r = x) :
    Lists f col' ((rows.eraseIdx k).map fun r => if sel r then b else r) := by
  obtain ⟨b', hb', hx⟩ := hcol.beq_of_unbroken hk
  obtain rfl : b' = b := Option.some.inj (hb'.symm.trans hb)
  refine (lists_removeFirst hcol hk h).map fun r hr => ?_
  have hr' : r ∈ rows := List.mem_of_mem_eraseIdx hr
  split
  · rename_i hselr
    rw [hsel r hr' hselr]
    exact hx
  · exact hcol.beq_self hr'

/-! ### Relabelling -/

section
variable {γ : Type*} [DecidableEq γ]

/-- The name `r` goes to the place of `m`. -/
def relabel (r m x : γ) : γ := if x = r then m else x

/-- Taking the entry `m` out of a list of different names and giving its name to `r` takes
    the name `r` out. -/
theorem mem_relabel {names : List γ} (h : names.Nodup) {k : ℕ} {m r : γ}
    (hm : names[k]? = some m) (hr : r ∈ names) (x : γ) :
    x ∈ (names.eraseIdx k).map (relabel r m) ↔ x ∈ names ∧ x ≠ r := by
  obtain ⟨hk, rfl⟩ := List.getElem?_eq_some_iff.mp hm
  rw [← h.erase_getElem k hk, List.mem_map]
  simp only [h.mem_erase_iff, relabel]
  constructor
  · rintro ⟨y, ⟨hne, hy⟩, rfl⟩
    split
    · -- The name `m` comes from the entry that was named `r`.
      rename_i hyr
      exact ⟨List.getElem_mem hk, fun heq => hne (hyr.trans heq.symm)⟩
    · -- Any other name was there before.
      rename_i hyr
      exact ⟨hy, hyr⟩
  · rintro ⟨hx, hxr⟩
    by_cases hxm : x = names[k]
    · exact ⟨r, ⟨fun heq => hxr (hxm.trans heq.symm), hr⟩, by rw [if_pos rfl, hxm]⟩
    · exact ⟨x, ⟨hxm, hx⟩, if_neg hxr⟩

/-- Replacing the rows named `r` by the row `b` gives them the name of `b`. -/
theorem map_fst_replace {δ : Type*} (rows : List (γ × δ)) (k : ℕ) (r : γ) (b : γ × δ) :
    ((rows.eraseIdx k).map fun x => if x.1 = r then b else x).map Prod.fst
      = ((rows.map Prod.fst).eraseIdx k).map (relabel r b.1) := by
  rw [List.map_map, List.eraseIdx_map, List.map_map]
  refine List.map_congr_left fun x _ => ?_
  show (if x.1 = r then b else x).1 = relabel r b.1 x.1
  unfold relabel
  split <;> rfl

theorem nodup_relabel {names : List γ} (h : names.Nodup) {k : ℕ} {m : γ}
    (hm : names[k]? = some m) (r : γ) : ((names.eraseIdx k).map (relabel r m)).Nodup := by
  obtain ⟨hk, rfl⟩ := List.getElem?_eq_some_iff.mp hm
  rw [← h.erase_getElem k hk]
  refine List.Nodup.map_on (fun x hx y hy hxy => ?_) (h.erase _)
  rw [h.mem_erase_iff] at hx hy
  simp only [relabel] at hxy
  split at hxy <;> split at hxy
  · rename_i hxr hyr
    exact hxr.trans hyr.symm
  · -- The entry `m` has gone, so no other entry has that name.
    exact absurd hxy.symm hy.1
  · exact absurd hxy hx.1
  · exact hxy

end

end Parallel
