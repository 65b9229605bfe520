import Foodly.Details.Entries
import Foodly.Lib.Runs

namespace Foodly

open Swift Runs

/-!
# Recycled cells

Whether a meal is in the cart is read from the label of its cell, and `setup` leaves that
label as the previous row had it.  The table binds cells of a pool to rows, in any order and
at any time.  A tap on a cell adds or removes by what the label says, so that a label that is wrong
makes the tap do the wrong thing, or trap.

* `PooledCell`, `TableState` — the pool, and the rows that have been added and not removed since;
* `TableEvent`, `TableState.step` — cells are made, bound to a row, taken back and tapped, and the
  table is reloaded;
* `LabelsAgree` — the law: every bound cell tells whether its row is added;
* `KeepsLabels` — the condition on an event: a cell is bound to a row that agrees with the label it
  was left with; a tapped cell is the only one bound to its row, and a price that goes into the cart
  is a number;
* `keepsLabels_bind_iff_left` — the condition on a bind by the history of the cell: the row it is
  bound to is added now just as the row it was last bound to was when it left it;
* `TableInvariant` — what every event keeps, whether the labels are true or not: the columns count
  the added rows, and the cells show the meals of their rows;
* `TableState.step_bind`, `TableState.step_tap` — one event of each kind;
* `labels_agree_iff` — in which runs the labels tell the truth and no tap that removes traps;
* `recycled_cell_traps` — a cell that is recycled for a meal that is not in the cart.
-/

section
variable {F Image : Type} [SwiftFloat F] [BEq String] [BEq Image]

/-- A cell of the pool, and the row it is bound to. -/
structure PooledCell (Image : Type) where
  cell : DetailsTableViewCell Image := {}
  row : Option ℕ := none

/-- The screen, its pool of cells, and the rows that have been added and not removed since. -/
structure TableState (F Image : Type) where
  screen : DetailsViewController F Image
  cells : List (PooledCell Image) := []
  added : Finset ℕ := ∅

/-- What happens to the table. -/
inductive TableEvent
  | bindNew (row : ℕ)
  | bind (cell row : ℕ)
  | recycle (cell : ℕ)
  | reloadData
  | tap (cell : ℕ)
  deriving DecidableEq, Repr

/-- `tableView(_:cellForRowAt:)` on the cell that the table dequeues. -/
def DetailsViewController.cellForRowAt (s : DetailsViewController F Image)
    (cell : DetailsTableViewCell Image) (row : ℕ) : Option (DetailsTableViewCell Image) :=
  s.detailViewModel.mealList[row]?.map cell.setup

/-- One event; a cell is dequeued only while it is bound to no row, and tapped only while it
    is bound to one. -/
def TableState.step (p : TableState F Image) : TableEvent → Option (TableState F Image)
  | .bindNew row => do
    let cell ← p.screen.cellForRowAt {} row
    return { p with cells := p.cells ++ [{ cell, row := some row }] }
  | .bind i row => do
    let c ← p.cells[i]?
    if c.row = none then
      let cell ← p.screen.cellForRowAt c.cell row
      return { p with cells := p.cells.set i { cell, row := some row } }
    else none
  | .recycle i => do
    let c ← p.cells[i]?
    return { p with cells := p.cells.set i { c with row := none } }
  | .reloadData => some { p with cells := p.cells.map fun c => { c with row := none } }
  | .tap i => do
    let c ← p.cells[i]?
    let row ← c.row
    let (cell, screen) ← c.cell.addButtonPressed p.screen
    return {
      screen
      cells := p.cells.set i { cell, row := some row }
      added := if c.cell.addLabel = "Add" then insert row p.added else p.added.erase row }

/-! ### The law and its condition -/

/-- The label tells whether the row of the cell is added. -/
def PooledCell.Tells (added : Finset ℕ) (c : PooledCell Image) : Prop :=
  ∀ row ∈ c.row, (c.cell.addLabel = "Added" ↔ row ∈ added)

/-- Every bound cell tells the truth; so a tap that removes is on an added meal, and it does
    not trap. -/
structure LabelsAgree (p : TableState F Image) : Prop where
  label : ∀ c ∈ p.cells, c.Tells p.added
  removal : ∀ c ∈ p.cells, ∀ row ∈ c.row, c.cell.addLabel ≠ "Add" →
    row ∈ p.added ∧ (c.cell.addButtonPressed p.screen).isSome = true

/-- A cell is bound to a row that agrees with the label it was left with; a tapped cell is the
    only one bound to its row, and a price that goes into the cart is a number. -/
def KeepsLabels (p : TableState F Image) : TableEvent → Prop
  | .bindNew row => row ∉ p.added
  | .bind i row => ∀ c ∈ p.cells[i]?, (c.cell.addLabel = "Added" ↔ row ∈ p.added)
  | .tap i => ∀ c ∈ p.cells[i]?, ∀ row ∈ c.row,
      (∀ j, j < p.cells.length → p.cells[j]?.bind (·.row) = some row → j = i) ∧
        (c.cell.addLabel = "Add" → IsNumber F c.cell.foodAmountLabel)
  | .recycle _ | .reloadData => True

instance (p : TableState F Image) : (event : TableEvent) → Decidable (KeepsLabels p event)
  | .bindNew row => inferInstanceAs (Decidable (row ∉ p.added))
  | .bind i row => inferInstanceAs (Decidable (∀ c ∈ p.cells[i]?,
      (c.cell.addLabel = "Added" ↔ row ∈ p.added)))
  | .tap i => inferInstanceAs (Decidable (∀ c ∈ p.cells[i]?, ∀ row ∈ c.row,
      (∀ j, j < p.cells.length → p.cells[j]?.bind (·.row) = some row → j = i) ∧
        (c.cell.addLabel = "Add" → IsNumber F c.cell.foodAmountLabel)))
  | .recycle _ | .reloadData => inferInstanceAs (Decidable True)

omit [BEq String] [BEq Image] in
@[simp] theorem PooledCell.tells_bound (added : Finset ℕ) (cell : DetailsTableViewCell Image)
    (row : ℕ) : PooledCell.Tells added { cell, row := some row } ↔
      (cell.addLabel = "Added" ↔ row ∈ added) := by
  simp [PooledCell.Tells]

omit [BEq String] [BEq Image] in
@[simp] theorem PooledCell.tells_unbound (added : Finset ℕ) (cell : DetailsTableViewCell Image) :
    PooledCell.Tells added { cell, row := none } := by
  simp [PooledCell.Tells]

/-! ### What every run keeps -/

/-- The cell has been set up with the meal of its row. -/
def PooledCell.ShowsMeal (menu : List (MealsModel Image)) (c : PooledCell Image) : Prop :=
  ∀ row ∈ c.row, ∃ meal, menu[row]? = some meal ∧ c.cell.myImageView = meal.mealImage ∧
    c.cell.foodTypeLabel = meal.mealRecipe ∧ c.cell.foodAmountLabel = meal.mealPrice

/-- The cell has one of the two labels, and the quantity of its nib. -/
def PooledCell.FromNib (c : PooledCell Image) : Prop :=
  (c.cell.addLabel = "Add" ∨ c.cell.addLabel = "Added") ∧ c.cell.foodQuantity = "1"

/-- The columns count the added rows of the menu, and the cells show its meals. -/
structure TableInvariant (menu : List (MealsModel Image)) (p : TableState F Image) : Prop where
  mealList : p.screen.detailViewModel.mealList = menu
  nib : ∀ c ∈ p.cells, c.FromNib
  shows : ∀ c ∈ p.cells, c.ShowsMeal menu
  columns : ∃ rows, CountsRows p.screen.detailViewModel rows ∧
    (rows.map Prod.fst).toFinset = p.added

omit [BEq String] in
/-- Every element of an updated list has a property that all elements had before, exactly when
    the new one has it. -/
theorem forall_mem_set {α : Type} {Q : α → Prop} {l : List α} {i : ℕ} {a b : α}
    (ha : l[i]? = some a) (h : ∀ x ∈ l, Q x) : (∀ x ∈ l.set i b, Q x) ↔ Q b := by
  have hi : i < l.length := (List.getElem?_eq_some_iff.mp ha).1
  constructor
  · intro hset
    exact hset b (List.mem_of_getElem? (List.getElem?_set_self hi))
  · intro hb x hx
    rcases List.mem_or_eq_of_mem_set hx with hx | rfl
    · exact h x hx
    · exact hb

/-! ### Taps -/

/-- A tap on an added meal does not trap, and takes it out of the columns. -/
theorem addButtonPressed_remove [PartialEquivBEq F] [EquivBEq String] [EquivBEq Image]
    {menu : List (MealsModel Image)} {p : TableState F Image} (h : TableInvariant menu p)
    {c : PooledCell Image} (hc : c ∈ p.cells) {row : ℕ} (hrow : c.row = some row)
    (hlabel : c.cell.addLabel ≠ "Add") (hadded : row ∈ p.added) :
    ∃ t, c.cell.addButtonPressed p.screen = some ({ c.cell with addLabel := "Add" }, t) ∧
      t.detailViewModel.mealList = menu ∧ ∃ rows, CountsRows t.detailViewModel rows ∧
        (rows.map Prod.fst).toFinset = p.added.erase row := by
  obtain ⟨rows, hrows, hset⟩ := h.columns
  obtain ⟨meal, hmeal, himage, htitle, hprice⟩ := h.shows c hc row hrow
  -- The cell shows the meal of one of the counted rows.
  rw [← hset, List.mem_toFinset] at hadded
  obtain ⟨⟨row, e⟩, hmem, rfl⟩ := List.mem_map.mp hadded
  have he : meal.entry = some e := by
    have hentry := hrows.menu _ hmem
    rwa [h.mealList, entryAt, hmeal, Option.bind_some] at hentry
  obtain ⟨t, rows', ht, hrows', hperm⟩ := hrows.didTapRemoveBtn he hmem
  refine ⟨t, ?_, (didTapRemoveBtn_columns ht).1.trans h.mealList, rows', hrows', ?_⟩
  · rw [(MealsModel.of_entry he).1] at himage
    simp only [DetailsTableViewCell.addButtonPressed, himage, htitle, hprice, (h.nib c hc).2, ht,
      hlabel, if_false, Option.bind_eq_bind, Option.bind_some, Option.pure_def]
  · have hnames := hperm.map Prod.fst
    have hnodup := hnames.nodup_iff.mp hrows.nodup
    rw [List.map_cons, List.nodup_cons] at hnodup
    rw [← hset, List.toFinset_eq_of_perm _ _ hnames, List.map_cons, List.toFinset_cons,
      Finset.erase_insert (fun hmem => hnodup.1 (List.mem_toFinset.mp hmem))]

/-- A tap on a meal that is not added, at a price that is a number, puts it into the columns. -/
theorem addButtonPressed_add [EquivBEq String] [EquivBEq Image] {menu : List (MealsModel Image)}
    {p : TableState F Image} (h : TableInvariant menu p) {c : PooledCell Image} (hc : c ∈ p.cells)
    {row : ℕ} (hrow : c.row = some row) (hlabel : c.cell.addLabel = "Add")
    (hnew : row ∉ p.added) {cell : DetailsTableViewCell Image} {t : DetailsViewController F Image}
    (ht : c.cell.addButtonPressed p.screen = some (cell, t)) :
    cell = { c.cell with addLabel := "Added" } ∧ t.detailViewModel.mealList = menu ∧
      (IsNumber F c.cell.foodAmountLabel → ∃ rows, CountsRows t.detailViewModel rows ∧
        (rows.map Prod.fst).toFinset = insert row p.added) := by
  obtain ⟨image, himage, ht⟩ := Option.bind_eq_some_iff.mp ht
  rw [if_pos hlabel, Option.pure_def, Option.some.injEq, Prod.mk.injEq] at ht
  obtain ⟨rfl, rfl⟩ := ht
  refine ⟨rfl, h.mealList, fun hnumber => ?_⟩
  obtain ⟨rows, hrows, hset⟩ := h.columns
  obtain ⟨meal, hmeal, himage', htitle, hprice⟩ := h.shows c hc row hrow
  rw [hprice] at hnumber
  -- With a number for its price the meal has an entry, which the tap puts into the columns.
  obtain ⟨e, he, rfl, hself⟩ := hnumber.entry (himage'.symm.trans himage)
  have hnew' : row ∉ rows.map Prod.fst := fun hmem => hnew (hset ▸ List.mem_toFinset.mpr hmem)
  refine ⟨(row, e) :: rows, ?_, by rw [List.map_cons, List.toFinset_cons, hset]⟩
  rw [htitle, hprice, (h.nib c hc).2]
  exact hrows.didTapAddBtn (h.mealList ▸ hmeal) he hself hnew'

/-- A removal that does not trap is at a price that is a number. -/
theorem isNumber_of_remove [PartialEquivBEq F] (cell : DetailsTableViewCell Image)
    {s : DetailsViewController F Image} (hlabel : cell.addLabel ≠ "Add")
    (h : (cell.addButtonPressed s).isSome = true) : IsNumber F cell.foodAmountLabel := by
  obtain ⟨⟨cell', t⟩, ht⟩ := Option.isSome_iff_exists.mp h
  obtain ⟨image, -, ht⟩ := Option.bind_eq_some_iff.mp ht
  rw [if_neg hlabel] at ht
  obtain ⟨t', ht', -⟩ := Option.bind_eq_some_iff.mp ht
  obtain ⟨-, -, ⟨price, hprice, hremove⟩, -⟩ := didTapRemoveBtn_columns ht'
  show (SwiftFloat.ofText cell.foodAmountLabel : Option F).any (fun x => x == x) = true
  rw [hprice]
  exact Parallel.beq_self_of_removeFirst hremove

/-! ### One event -/

/-- An event that leaves the screen and the added rows alone keeps the invariant when every cell
    is a cell of the nib that shows its meal. -/
theorem TableInvariant.withCells {menu : List (MealsModel Image)} {p : TableState F Image}
    (h : TableInvariant menu p) {cells : List (PooledCell Image)}
    (hnib : ∀ c ∈ cells, c.FromNib) (hshows : ∀ c ∈ cells, c.ShowsMeal menu) :
    TableInvariant menu { p with cells } :=
  { mealList := h.mealList, nib := hnib, shows := hshows, columns := h.columns }

/-- Replacing one cell of the pool by a cell of the nib that shows its meal. -/
theorem TableInvariant.setCell {menu : List (MealsModel Image)} {p : TableState F Image}
    (h : TableInvariant menu p) {i : ℕ} {c c' : PooledCell Image} (hc : p.cells[i]? = some c)
    (hnib : c'.FromNib) (hshows : c'.ShowsMeal menu) :
    TableInvariant menu { p with cells := p.cells.set i c' } :=
  h.withCells ((forall_mem_set hc h.nib).mpr hnib) ((forall_mem_set hc h.shows).mpr hshows)

/-- Taking all cells back: each keeps its label, and shows the meal of no row. -/
theorem TableInvariant.unbound {menu : List (MealsModel Image)} {p : TableState F Image}
    (h : TableInvariant menu p) :
    TableInvariant menu { p with cells := p.cells.map fun c => { c with row := none } } := by
  refine h.withCells (fun c hc => ?_) (fun c hc r hr => ?_)
  · obtain ⟨c', hc', rfl⟩ := List.mem_map.mp hc
    exact h.nib c' hc'
  · obtain ⟨c', -, rfl⟩ := List.mem_map.mp hc
    cases hr

omit [SwiftFloat F] [BEq String] [BEq Image] in
/-- A cell that `cellForRowAt` gives back shows the meal of the row, under its old label. -/
theorem cellForRowAt_spec {menu : List (MealsModel Image)} {s : DetailsViewController F Image}
    (hs : s.detailViewModel.mealList = menu) {cell cell' : DetailsTableViewCell Image} {row : ℕ}
    (h : s.cellForRowAt cell row = some cell') :
    cell'.addLabel = cell.addLabel ∧ cell'.foodQuantity = cell.foodQuantity ∧
      PooledCell.ShowsMeal menu { cell := cell', row := some row } := by
  obtain ⟨meal, hmeal, rfl⟩ := Option.map_eq_some_iff.mp h
  refine ⟨rfl, rfl, fun r hr => ?_⟩
  obtain rfl := Option.some.inj hr
  exact ⟨meal, hs ▸ hmeal, rfl, rfl, rfl⟩

/-- When the labels tell the truth, taps that remove do not trap. -/
theorem LabelsAgree.of_tells [PartialEquivBEq F] [EquivBEq String] [EquivBEq Image]
    {menu : List (MealsModel Image)} {p : TableState F Image} (h : TableInvariant menu p)
    (htells : ∀ c ∈ p.cells, c.Tells p.added) : LabelsAgree p := by
  refine ⟨htells, fun c hc row hrow hlabel => ?_⟩
  have hadded : row ∈ p.added :=
    (htells c hc row hrow).mp ((h.nib c hc).1.resolve_left hlabel)
  obtain ⟨t, ht, -⟩ := addButtonPressed_remove h hc hrow hlabel hadded
  exact ⟨hadded, by rw [ht, Option.isSome_some]⟩

omit [BEq String] [BEq Image] in
/-- After a tap has changed whether `row` is added, the labels tell the truth exactly when the
    tapped cell is the only one bound to the row. -/
theorem tells_after_tap {cells : List (PooledCell Image)} {i : ℕ} (row : ℕ)
    {c c' : PooledCell Image} {added added' : Finset ℕ} (hc : cells[i]? = some c)
    (htells : ∀ d ∈ cells, d.Tells added)
    (hrow : row ∈ added' ↔ row ∉ added) (hother : ∀ r, r ≠ row → (r ∈ added' ↔ r ∈ added))
    (hc' : c'.Tells added') :
    (∀ d ∈ cells.set i c', d.Tells added') ↔
      ∀ j d, cells[j]? = some d → d.row = some row → j = i := by
  have hi : i < cells.length := (List.getElem?_eq_some_iff.mp hc).1
  constructor
  · intro hall j d hd hdrow
    by_contra hne
    -- Another cell bound to the row kept its label while the row changed.
    have hd' : (cells.set i c')[j]? = some d := by
      rw [List.getElem?_set_ne (Ne.symm hne), hd]
    have hnow := hall d (List.mem_of_getElem? hd') row hdrow
    have hbefore := htells d (List.mem_of_getElem? hd) row hdrow
    rw [hnow, hrow] at hbefore
    exact iff_not_self hbefore.symm
  · intro honly d hd r hr
    obtain ⟨j, hj⟩ := List.mem_iff_getElem?.mp hd
    by_cases hji : j = i
    · rw [hji, List.getElem?_set_self hi, Option.some.injEq] at hj
      subst hj
      exact hc' r hr
    · rw [List.getElem?_set_ne (Ne.symm hji)] at hj
      have hne : r ≠ row := by
        rintro rfl
        exact hji (honly j d hj hr)
      rw [hother r hne]
      exact htells d (List.mem_of_getElem? hj) r hr

omit [BEq String] [BEq Image] in
/-- What the condition on a tap says about the pool and the tapped cell. -/
theorem keepsLabels_tap_iff {p : TableState F Image} {i row : ℕ} {c : PooledCell Image}
    (hc : p.cells[i]? = some c) (hrow : c.row = some row) : KeepsLabels p (.tap i) ↔
      (∀ j d, p.cells[j]? = some d → d.row = some row → j = i) ∧
        (c.cell.addLabel = "Add" → IsNumber F c.cell.foodAmountLabel) := by
  constructor
  · intro hkeeps
    obtain ⟨honly, hnumber⟩ := hkeeps c hc row hrow
    refine ⟨fun j d hd hdrow => ?_, hnumber⟩
    exact honly j (List.getElem?_eq_some_iff.mp hd).1 (by rw [hd, Option.bind_some, hdrow])
  · rintro ⟨honly, hnumber⟩ c' hc' row' hrow'
    obtain rfl : c = c' := Option.some.inj (hc.symm.trans hc')
    obtain rfl : row = row' := Option.some.inj (hrow.symm.trans hrow')
    refine ⟨fun j _ hj => ?_, hnumber⟩
    obtain ⟨d, hd, hdrow⟩ := Option.bind_eq_some_iff.mp hj
    exact honly j d hd hdrow

/-- The tapped cell is the same up to its label, so it still shows its meal. -/
theorem TableInvariant.relabelled {menu : List (MealsModel Image)} {p : TableState F Image}
    (h : TableInvariant menu p) {i row : ℕ} {c : PooledCell Image} (hc : p.cells[i]? = some c)
    (hrow : c.row = some row) {label : String} (hlabel : label = "Add" ∨ label = "Added") :
    (∀ d ∈ p.cells.set i { cell := { c.cell with addLabel := label }, row := some row },
      d.FromNib) ∧
    ∀ d ∈ p.cells.set i { cell := { c.cell with addLabel := label }, row := some row },
      d.ShowsMeal menu := by
  have hmem : c ∈ p.cells := List.mem_of_getElem? hc
  rw [forall_mem_set hc h.nib, forall_mem_set hc h.shows]
  refine ⟨⟨hlabel, (h.nib c hmem).2⟩, fun r hr => ?_⟩
  exact h.shows c hmem r (hrow.trans hr)

/-- A tap that adds keeps the law exactly when it meets the condition, and then the invariant. -/
theorem TableState.step_tap_add [PartialEquivBEq F] [EquivBEq String] [EquivBEq Image]
    {menu : List (MealsModel Image)} {p : TableState F Image} {i row : ℕ} {c : PooledCell Image}
    (h : TableInvariant menu p) (hlaw : LabelsAgree p) (hc : p.cells[i]? = some c)
    (hrow : c.row = some row) (hlabel : c.cell.addLabel = "Add")
    {cell : DetailsTableViewCell Image} {t : DetailsViewController F Image}
    (ht : c.cell.addButtonPressed p.screen = some (cell, t)) :
    let q : TableState F Image :=
      { screen := t, cells := p.cells.set i { cell, row := some row }, added := insert row p.added }
    (KeepsLabels p (.tap i) → TableInvariant menu q) ∧
      (LabelsAgree q ↔ KeepsLabels p (.tap i)) := by
  intro q
  have hi : i < p.cells.length := (List.getElem?_eq_some_iff.mp hc).1
  have hmem : c ∈ p.cells := List.mem_of_getElem? hc
  have hnew : row ∉ p.added := by
    rw [← hlaw.label c hmem row hrow, hlabel]
    decide
  obtain ⟨rfl, hlist, hcolumns⟩ := addButtonPressed_add h hmem hrow hlabel hnew ht
  obtain ⟨hnib, hshows⟩ := h.relabelled hc hrow (Or.inr (rfl : "Added" = "Added"))
  have htells' := tells_after_tap row hc hlaw.label (by simp [hnew]) (fun r hr => by simp [hr])
    (show PooledCell.Tells (insert row p.added)
      { cell := { c.cell with addLabel := "Added" }, row := some row } by simp)
  rw [keepsLabels_tap_iff hc hrow]
  refine ⟨fun hkeeps => ⟨hlist, hnib, hshows, hcolumns (hkeeps.2 hlabel)⟩, fun hq => ?_,
    fun hkeeps => ?_⟩
  · -- The next tap on this cell removes, so it must find the price.
    have hread : "Added" ≠ "Add" := by decide
    have hnext := hq.removal _ (List.mem_of_getElem? (List.getElem?_set_self hi)) row rfl hread
    exact ⟨htells'.mp hq.label, fun _ =>
      isNumber_of_remove { c.cell with addLabel := "Added" } hread hnext.2⟩
  · exact LabelsAgree.of_tells ⟨hlist, hnib, hshows, hcolumns (hkeeps.2 hlabel)⟩
      (htells'.mpr hkeeps.1)

/-- A tap that removes keeps the invariant, and the law exactly when it meets the condition. -/
theorem TableState.step_tap_remove [PartialEquivBEq F] [EquivBEq String] [EquivBEq Image]
    {menu : List (MealsModel Image)} {p : TableState F Image} {i row : ℕ} {c : PooledCell Image}
    (h : TableInvariant menu p) (hlaw : LabelsAgree p) (hc : p.cells[i]? = some c)
    (hrow : c.row = some row) (hlabel : c.cell.addLabel ≠ "Add")
    {cell : DetailsTableViewCell Image} {t : DetailsViewController F Image}
    (ht : c.cell.addButtonPressed p.screen = some (cell, t)) :
    let q : TableState F Image :=
      { screen := t, cells := p.cells.set i { cell, row := some row }, added := p.added.erase row }
    TableInvariant menu q ∧ (LabelsAgree q ↔ KeepsLabels p (.tap i)) := by
  intro q
  have hmem : c ∈ p.cells := List.mem_of_getElem? hc
  have hadded : row ∈ p.added :=
    (hlaw.label c hmem row hrow).mp ((h.nib c hmem).1.resolve_left hlabel)
  obtain ⟨t', ht', hlist, hcolumns⟩ := addButtonPressed_remove h hmem hrow hlabel hadded
  obtain ⟨rfl, rfl⟩ := Prod.mk.inj (Option.some.inj (ht.symm.trans ht'))
  obtain ⟨hnib, hshows⟩ := h.relabelled hc hrow (Or.inl (rfl : "Add" = "Add"))
  have htells' := tells_after_tap row hc hlaw.label (by simp [hadded]) (fun r hr => by simp [hr])
    (show PooledCell.Tells (p.added.erase row)
      { cell := { c.cell with addLabel := "Add" }, row := some row } by simp)
  have hinv : TableInvariant menu q := ⟨hlist, hnib, hshows, hcolumns⟩
  rw [keepsLabels_tap_iff hc hrow]
  refine ⟨hinv, fun hq => ?_, fun hkeeps => ?_⟩
  · -- The next tap adds again, and the price was read for the removal.
    exact ⟨htells'.mp hq.label, fun hadd => absurd hadd hlabel⟩
  · exact LabelsAgree.of_tells hinv (htells'.mpr hkeeps.1)

/-- A tap keeps the law exactly when it meets the condition, and then it keeps the invariant. -/
theorem TableState.step_tap [PartialEquivBEq F] [EquivBEq String] [EquivBEq Image]
    {menu : List (MealsModel Image)} {p q : TableState F Image} {i : ℕ}
    (h : TableInvariant menu p) (hlaw : LabelsAgree p) (hq : p.step (.tap i) = some q) :
    (KeepsLabels p (.tap i) → TableInvariant menu q) ∧
      (LabelsAgree q ↔ KeepsLabels p (.tap i)) := by
  obtain ⟨c, hc, hq⟩ := Option.bind_eq_some_iff.mp hq
  obtain ⟨row, hrow, hq⟩ := Option.bind_eq_some_iff.mp hq
  obtain ⟨⟨cell, t⟩, ht, hq⟩ := Option.bind_eq_some_iff.mp hq
  rw [Option.pure_def, Option.some.injEq] at hq
  by_cases hlabel : c.cell.addLabel = "Add"
  · rw [if_pos hlabel] at hq
    subst hq
    exact step_tap_add h hlaw hc hrow hlabel ht
  · rw [if_neg hlabel] at hq
    subst hq
    obtain ⟨hinv, hagree⟩ := step_tap_remove h hlaw hc hrow hlabel ht
    exact ⟨fun _ => hinv, hagree⟩

/-- An event that is not a tap keeps the invariant, and keeps the labels true exactly when it
    meets the condition. -/
theorem TableState.step_bind {menu : List (MealsModel Image)} {p q : TableState F Image}
    {event : TableEvent} (hevent : ∀ i, event ≠ .tap i) (h : TableInvariant menu p)
    (hlaw : LabelsAgree p) (hq : p.step event = some q) :
    TableInvariant menu q ∧ ((∀ c ∈ q.cells, c.Tells q.added) ↔ KeepsLabels p event) := by
  cases event with
  | bindNew row =>
    obtain ⟨cell, hcell, hq⟩ := Option.bind_eq_some_iff.mp hq
    obtain rfl : _ = q := Option.some.inj hq
    obtain ⟨hlabel, hquantity, hshows⟩ := cellForRowAt_spec h.mealList hcell
    have hnib : PooledCell.FromNib { cell, row := some row } := ⟨Or.inl hlabel, hquantity⟩
    refine ⟨h.withCells (List.forall_mem_append.mpr ⟨h.nib, List.forall_mem_singleton.mpr hnib⟩)
      (List.forall_mem_append.mpr ⟨h.shows, List.forall_mem_singleton.mpr hshows⟩), ?_⟩
    -- A cell of the nib reads "Add".
    rw [List.forall_mem_append, and_iff_right hlaw.label, List.forall_mem_singleton,
      PooledCell.tells_bound, hlabel]
    show ("Add" = "Added" ↔ row ∈ p.added) ↔ row ∉ p.added
    simp
  | bind i row =>
    obtain ⟨c, hc, hq⟩ := Option.bind_eq_some_iff.mp hq
    have hmem : c ∈ p.cells := List.mem_of_getElem? hc
    split at hq
    · obtain ⟨cell, hcell, hq⟩ := Option.bind_eq_some_iff.mp hq
      obtain rfl : _ = q := Option.some.inj hq
      obtain ⟨hlabel, hquantity, hshows⟩ := cellForRowAt_spec h.mealList hcell
      have hnib : PooledCell.FromNib { cell, row := some row } :=
        ⟨hlabel ▸ (h.nib c hmem).1, hquantity.trans (h.nib c hmem).2⟩
      refine ⟨h.setCell hc hnib hshows, ?_⟩
      rw [forall_mem_set hc hlaw.label, PooledCell.tells_bound, hlabel]
      constructor
      · intro htells c' hc'
        obtain rfl := Option.some.inj (hc.symm.trans hc')
        exact htells
      · intro hkeeps
        exact hkeeps c hc
    · cases hq
  | recycle i =>
    obtain ⟨c, hc, hq⟩ := Option.bind_eq_some_iff.mp hq
    obtain rfl : _ = q := Option.some.inj hq
    have hmem : c ∈ p.cells := List.mem_of_getElem? hc
    refine ⟨h.setCell hc (h.nib c hmem) nofun, ?_⟩
    rw [forall_mem_set hc hlaw.label]
    exact iff_of_true (PooledCell.tells_unbound _ _) trivial
  | reloadData =>
    obtain rfl : _ = q := Option.some.inj hq
    refine ⟨h.unbound, iff_of_true (fun c hc => ?_) trivial⟩
    obtain ⟨c', -, rfl⟩ := List.mem_map.mp hc
    exact PooledCell.tells_unbound _ _
  | tap i => exact absurd rfl (hevent i)

/-- **One event.**  It keeps the law exactly when it meets the condition, and then it keeps the
    invariant. -/
theorem TableState.step_labels [PartialEquivBEq F] [EquivBEq String] [EquivBEq Image]
    {menu : List (MealsModel Image)} {p q : TableState F Image} {event : TableEvent}
    (h : TableInvariant menu p) (hlaw : LabelsAgree p) (hq : p.step event = some q) :
    (KeepsLabels p event → TableInvariant menu q) ∧ (LabelsAgree q ↔ KeepsLabels p event) := by
  by_cases htap : ∃ i, event = .tap i
  · obtain ⟨i, rfl⟩ := htap
    exact step_tap h hlaw hq
  · obtain ⟨hinv, htells⟩ := step_bind (fun i hi => htap ⟨i, hi⟩) h hlaw hq
    rw [← htells]
    exact ⟨fun _ => hinv, fun h => h.label, fun h => LabelsAgree.of_tells hinv h⟩

/-! ### The label that a cell was left with -/

/-- Only a tap on a cell changes its label. -/
theorem TableState.addLabel_step {p q : TableState F Image} {event : TableEvent} {i : ℕ}
    (hevent : event ≠ .tap i) (hq : p.step event = some q) {c : PooledCell Image}
    (hc : p.cells[i]? = some c) :
    ∃ d, q.cells[i]? = some d ∧ d.cell.addLabel = c.cell.addLabel := by
  have hi : i < p.cells.length := (List.getElem?_eq_some_iff.mp hc).1
  -- An event on a cell of the pool either is on this one or leaves it alone.
  have hset {j : ℕ} {c' d : PooledCell Image} (hc' : p.cells[j]? = some c')
      (hd : d.cell.addLabel = c'.cell.addLabel ∨ j ≠ i) :
      ∃ d', (p.cells.set j d)[i]? = some d' ∧ d'.cell.addLabel = c.cell.addLabel := by
    by_cases hj : j = i
    · subst hj
      obtain rfl := Option.some.inj (hc.symm.trans hc')
      exact ⟨d, List.getElem?_set_self hi, hd.resolve_right fun hne => hne rfl⟩
    · exact ⟨c, by rw [List.getElem?_set_ne hj, hc], rfl⟩
  cases event with
  | bindNew row =>
    obtain ⟨cell, -, hq⟩ := Option.bind_eq_some_iff.mp hq
    obtain rfl : _ = q := Option.some.inj hq
    exact ⟨c, by rw [List.getElem?_append_left hi, hc], rfl⟩
  | bind j row =>
    obtain ⟨c', hc', hq⟩ := Option.bind_eq_some_iff.mp hq
    split at hq
    · obtain ⟨cell, hcell, hq⟩ := Option.bind_eq_some_iff.mp hq
      obtain rfl : _ = q := Option.some.inj hq
      obtain ⟨meal, -, rfl⟩ := Option.map_eq_some_iff.mp hcell
      -- `setup(with:)` does not touch the label.
      exact hset hc' (Or.inl rfl)
    · cases hq
  | recycle j =>
    obtain ⟨c', hc', hq⟩ := Option.bind_eq_some_iff.mp hq
    obtain rfl : _ = q := Option.some.inj hq
    exact hset hc' (Or.inl rfl)
  | reloadData =>
    obtain rfl : _ = q := Option.some.inj hq
    exact ⟨{ c with row := none }, by rw [List.getElem?_map, hc, Option.map_some], rfl⟩
  | tap j =>
    obtain ⟨c', hc', hq⟩ := Option.bind_eq_some_iff.mp hq
    obtain ⟨row, -, hq⟩ := Option.bind_eq_some_iff.mp hq
    obtain ⟨⟨cell, t⟩, -, hq⟩ := Option.bind_eq_some_iff.mp hq
    obtain rfl : _ = q := Option.some.inj hq
    exact hset hc' (Or.inr fun hj => hevent (hj ▸ rfl))

/-- **The condition by the history of the cell.**  A cell that was bound to a row while the labels
    told the truth, and has not been tapped since, may be bound to another row exactly when that
    row is added now just as its last one was then. -/
theorem keepsLabels_bind_iff_left {p q : TableState F Image} {events : List TableEvent}
    {i last row : ℕ} {c : PooledCell Image} (hlaw : LabelsAgree p) (hc : p.cells[i]? = some c)
    (hlast : c.row = some last) (hevents : ∀ event ∈ events, event ≠ .tap i)
    (hq : run TableState.step p events = some q) :
    KeepsLabels q (.bind i row) ↔ (last ∈ p.added ↔ row ∈ q.added) := by
  -- The label is still the one it was left with, since only a tap on the cell changes it.
  have hleft := run_history
    (P := fun before q => (∀ event ∈ before, event ≠ .tap i) →
      ∃ d, q.cells[i]? = some d ∧ d.cell.addLabel = c.cell.addLabel)
    (fun before u event v h hv hbefore => by
      rw [List.forall_mem_append, List.forall_mem_singleton] at hbefore
      obtain ⟨d, hd, hlabel⟩ := h hbefore.1
      obtain ⟨d', hd', hlabel'⟩ := TableState.addLabel_step hbefore.2 hv hd
      exact ⟨d', hd', hlabel'.trans hlabel⟩)
    (fun _ => ⟨c, hc, rfl⟩) hq
  obtain ⟨d, hd, hlabel⟩ := hleft hevents
  have htold := hlaw.label c (List.mem_of_getElem? hc) last hlast
  rw [KeepsLabels, hd, ← htold, ← hlabel]
  simp

/-! ### Runs -/

/-- The screen on a menu, with no cell made and nothing added. -/
def TableState.opened (F : Type) [SwiftFloat F] (menu : List (MealsModel Image)) :
    TableState F Image :=
  { screen := { detailViewModel := { mealList := menu } } }

/-- **Recycled cells.**  On any menu, the labels tell the truth throughout a run and no tap that
    removes traps, exactly when every bind is of a cell whose label agrees with the row, every
    tapped cell is the only one bound to its row, and every price added is a number. -/
theorem labels_agree_iff [PartialEquivBEq F] [EquivBEq String] [EquivBEq Image]
    (menu : List (MealsModel Image)) (events : List TableEvent) :
    Always TableState.step LabelsAgree (TableState.opened F menu) events ↔
      Guarded TableState.step KeepsLabels (TableState.opened F menu) events := by
  have hopened : TableInvariant menu (TableState.opened F menu) := by
    refine ⟨rfl, fun c hc => ?_, fun c hc => ?_, [], ⟨List.nodup_nil, fun r hr => ?_, fun _ => rfl,
      fun _ => rfl, fun _ => rfl, rfl, fun r hr => ?_⟩, rfl⟩
    · cases hc
    · cases hc
    · cases hr
    · cases hr
  have hlaw : LabelsAgree (TableState.opened F menu) :=
    LabelsAgree.of_tells hopened fun c hc => by cases hc
  apply always_iff_guarded (E := fun _ _ => True) ?_ ?_ hopened hlaw
    (allowed_of_forall_mem fun _ _ => trivial)
  · intro p event q hp hlaw _ hkeeps hq
    exact (TableState.step_labels hp hlaw hq).1 hkeeps
  · intro p event q hp hlaw _ hq
    exact (TableState.step_labels hp hlaw hq).2

end

/-- A meal is added, and removed again from another cell that shows it after a reload. -/
theorem labels_agree_iff_undo :
    Always TableState.step LabelsAgree (TableState.opened ℚ threeMeals)
      [.bindNew 0, .tap 0, .reloadData, .bind 0 0, .tap 0] :=
  (labels_agree_iff threeMeals _).mpr (by decide +kernel)

/-- The cell of an added meal is recycled for a meal that is not in the cart: it still reads
    "Added", and a tap on it traps. -/
theorem recycled_cell_traps :
    run TableState.step (TableState.opened ℚ threeMeals)
        [.bindNew 0, .tap 0, .recycle 0, .bind 0 1, .tap 0] = none ∧
      ¬ ∀ events : List TableEvent,
        Always TableState.step LabelsAgree (TableState.opened ℚ threeMeals) events := by
  constructor
  · exact Option.isNone_iff_eq_none.mp (by decide +kernel)
  · intro h
    have hvalues : (run TableState.step (TableState.opened ℚ threeMeals)
        [.bindNew 0, .tap 0, .recycle 0, .bind 0 1]).map (fun p =>
          (p.cells.map fun c => (c.cell.addLabel, c.row), p.added))
        = some ([("Added", some 1)], {0}) := by
      decide +kernel
    obtain ⟨p, hp, hp'⟩ := Option.map_eq_some_iff.mp hvalues
    obtain ⟨hcells, hadded⟩ := Prod.mk.inj hp'
    obtain ⟨c, hc, hc'⟩ := List.map_eq_singleton_iff.mp hcells
    obtain ⟨hlabel, hrow⟩ := Prod.mk.inj hc'
    -- The label was left by row 0, and row 1 has not been added.
    have htells := ((h _).last hp).label c (hc ▸ List.mem_singleton_self c) 1 hrow
    have hmem := htells.mp hlabel
    rw [hadded] at hmem
    exact absurd hmem (by decide)

end Foodly
