import Foodly.Details.Alignment
import Mathlib.Algebra.BigOperators.Group.Multiset.Basic

namespace Foodly

open Runs Swift

/-!
# The summary bar

The bar under the menu shows how many meals are in the cart and what they cost, and it is hidden
while there are none.  A removal may take an equal price of another row out of the amounts, but
the columns still hold the entries of the added rows in some order, so the count and the exact sum
are theirs.

* `SummaryState` — the screen, and the rows that have been added and not removed since, each as
  often as it has been added;
* `SummaryState.OnAddedRow`, `SummaryState.OnNewRow` — where the taps are made;
* `DetailsViewController.BarFollows` — the bar tells what is in the columns, whatever that is;
* `SummaryState.CountsAdded` — what the taps keep: the columns count the added rows, and the bar
  follows the columns;
* `SummaryState.BarAgrees` — the law: no removal of an added row traps, and the bar shows the number
  of the added rows and the sum of their prices;
* `summary_bar_agrees` — the law for runs.

A row that is added while it is added counts once more: the added rows are a multiset, and the
set of them as long as no Add tap is on an added row.
-/

/-! ### The bar and the columns -/

section
variable {F Image : Type} [SwiftFloat F]

/-- The bar tells what is in the columns. -/
structure DetailsViewController.BarFollows (s : DetailsViewController F Image) : Prop where
  hidden : s.cartViewHidden = true ↔ s.detailViewModel.titleArray.length = 0
  numberOfItems : s.detailViewModel.titleArray.length ≠ 0 →
    s.numberOfItems = countText s.detailViewModel.titleArray.length
  totalAmount : s.detailViewModel.titleArray.length ≠ 0 →
    s.totalAmount = totalText s.detailViewModel.amountArray

namespace DetailsViewController.BarFollows

theorem didTapAddBtn (s : DetailsViewController F Image) (title amount : String) (image : Image)
    (number : String) : (s.didTapAddBtn title amount image number).BarFollows where
  hidden := iff_of_false Bool.false_ne_true (by simp [DetailsViewController.didTapAddBtn])
  numberOfItems _ := rfl
  totalAmount _ := rfl

theorem didTapRemoveBtn [BEq String] [BEq Image] {s t : DetailsViewController F Image}
    (h : s.BarFollows) {title amount : String} {image : Image} {number : String}
    (ht : s.didTapRemoveBtn title amount image number = some t) : t.BarFollows := by
  obtain ⟨titles, htitles, ht⟩ := Option.bind_eq_some_iff.mp ht
  obtain ⟨price, -, ht⟩ := Option.bind_eq_some_iff.mp ht
  obtain ⟨amounts, -, ht⟩ := Option.bind_eq_some_iff.mp ht
  obtain ⟨images, -, ht⟩ := Option.bind_eq_some_iff.mp ht
  obtain ⟨numbers, -, ht⟩ := Option.bind_eq_some_iff.mp ht
  obtain rfl := Option.some.inj ht
  -- The column was not empty, so the bar was visible.
  have hlength := Parallel.length_of_removeFirst htitles
  have hvisible : ¬s.cartViewHidden = true := by
    rw [h.hidden]
    omega
  by_cases hempty : titles.length = 0
  · exact
      { hidden := iff_of_true (if_pos hempty) hempty
        numberOfItems := fun hne => absurd hempty hne
        totalAmount := fun _ => rfl }
  · exact
      { hidden := by
          show (if titles.length = 0 then true else s.cartViewHidden) = true ↔ _
          rw [if_neg hempty]
          exact iff_of_false hvisible hempty
        numberOfItems := fun _ => if_neg hempty
        totalAmount := fun _ => rfl }

end DetailsViewController.BarFollows

end

/-! ### Taps -/

section
variable {Image : Type} [BEq String] [BEq Image]

/-- The screen, and the rows that have been added and not removed since, each as often as it has
    been added. -/
structure SummaryState (Image : Type) where
  selection : SelectionState ℚ Image
  rows : Multiset ℕ := 0

def SummaryState.step (p : SummaryState Image) (tap : RowTap) : Option (SummaryState Image) := do
  let selection ← p.selection.step tap
  return {
    selection
    rows := match tap with
      | .add row => row ::ₘ p.rows
      | .remove row => p.rows.erase row }

/-- The screen on a menu, with nothing added. -/
def SummaryState.opened (menu : List (MealsModel Image))
    (passRestaurantName passRestaurantDiscount : String) : SummaryState Image :=
  { selection := .opened ℚ menu passRestaurantName passRestaurantDiscount }

/-- A Remove tap is made on an added row only. -/
def SummaryState.OnAddedRow (p : SummaryState Image) : RowTap → Prop
  | .add _ => True
  | .remove row => row ∈ p.rows

/-- An Add tap is made only on a row that is not added. -/
def SummaryState.OnNewRow (p : SummaryState Image) : RowTap → Prop
  | .add row => row ∉ p.rows
  | .remove _ => True

instance (p : SummaryState Image) : (tap : RowTap) → Decidable (p.OnAddedRow tap)
  | .add _ => inferInstanceAs (Decidable True)
  | .remove row => inferInstanceAs (Decidable (row ∈ p.rows))

/-! ### The law -/

/-- The price of a row of the menu. -/
def rowPrice (menu : List (MealsModel Image)) (row : ℕ) : ℚ :=
  (menu[row]?.bind fun meal => SwiftFloat.ofText meal.mealPrice).getD 0

/-- The text for a number of rows, in the singular or in the plural. -/
def itemsText (count : ℕ) : String := toString count ++ if count = 1 then " item" else " items"

/-- No removal of an added row traps, and the bar shows the number of the added rows and the sum of
    their prices, and is hidden when there are none. -/
structure SummaryState.BarAgrees (p : SummaryState Image) : Prop where
  removal : ∀ row ∈ p.rows, (p.step (.remove row)).isSome = true
  hidden : p.selection.screen.cartViewHidden = true ↔ p.rows = 0
  numberOfItems : p.rows ≠ 0 → p.selection.screen.numberOfItems = itemsText p.rows.card
  totalAmount : p.rows ≠ 0 → p.selection.screen.totalAmount =
    "$" ++ description (p.rows.map (rowPrice p.selection.screen.detailViewModel.mealList)).sum

/-! ### What every run keeps -/

/-- The columns count the entries of the added rows, and the bar follows the columns. -/
structure SummaryState.CountsAdded (menu : List (MealsModel Image)) (p : SummaryState Image) :
    Prop where
  mealList : p.selection.screen.detailViewModel.mealList = menu
  columns : ∃ taken : List (ℕ × Entry ℚ Image),
    CountsEntries p.selection.screen.detailViewModel (taken.map Prod.snd) ∧
      (∀ r ∈ taken, entryAt menu r.1 = some r.2) ∧ (taken.map Prod.fst : Multiset ℕ) = p.rows
  bar : p.selection.screen.BarFollows

omit [BEq String] [BEq Image] in
theorem rowPrice_of_entryAt {menu : List (MealsModel Image)} {row : ℕ} {e : Entry ℚ Image}
    (h : entryAt menu row = some e) : rowPrice menu row = e.amount := by
  obtain ⟨meal, hmeal, he⟩ := Option.bind_eq_some_iff.mp h
  rw [rowPrice, hmeal, Option.bind_some, (MealsModel.of_entry he).2.1, Option.getD_some]

omit [BEq String] in
/-- The exact sum of the amounts does not depend on their order. -/
theorem totalText_eq {amounts prices : List ℚ} (h : Parallel.SameCounts amounts prices) :
    DetailsViewController.totalText amounts = "$" ++ description prices.sum := by
  have hsum : amounts.foldl (· + ·) 0 = prices.sum := by
    rw [← List.sum_eq_foldl]
    exact h.perm_of_lawful.sum_eq
  rw [← hsum]
  rfl

omit [BEq String] in
theorem countText_eq (count : ℕ) : DetailsViewController.countText count = itemsText count := by
  unfold DetailsViewController.countText itemsText
  split <;> rfl

/-- What the columns count is what the bar shows. -/
theorem SummaryState.CountsAdded.length_titleArray [EquivBEq String]
    {menu : List (MealsModel Image)} {p : SummaryState Image} (h : p.CountsAdded menu) :
    p.selection.screen.detailViewModel.titleArray.length = p.rows.card := by
  obtain ⟨taken, hcolumns, -, hrows⟩ := h.columns
  rw [hcolumns.titles.length_eq, ← hrows, Multiset.coe_card, List.length_map,
    List.length_map, List.length_map]

/-! ### One tap -/

/-- **Add.**  The row counts once more. -/
theorem SummaryState.CountsAdded.add {menu : List (MealsModel Image)}
    (hmenu : ∀ meal ∈ menu, IsNumber ℚ meal.mealPrice) {p q : SummaryState Image}
    (h : p.CountsAdded menu) {row : ℕ} (hq : p.step (.add row) = some q) : q.CountsAdded menu := by
  obtain ⟨taken, hcolumns, htaken, hrows⟩ := h.columns
  obtain ⟨selection, hselection, hq⟩ := Option.bind_eq_some_iff.mp hq
  obtain rfl : _ = q := Option.some.inj hq
  obtain ⟨meal, image, hmeal, himage, rfl⟩ := SelectionState.of_add hselection
  rw [h.mealList] at hmeal
  obtain ⟨e, he, rfl, hself⟩ := (hmenu meal (List.mem_of_getElem? hmeal)).entry himage
  have hentry : entryAt menu row = some e := by
    -- On a menu with numbers for prices every row that shows a picture has an entry.
    rw [entryAt, hmeal, Option.bind_some, he]
  exact
    { mealList := h.mealList
      columns := ⟨(row, e) :: taken, hcolumns.didTapAddBtn he hself,
        List.forall_mem_cons.mpr ⟨hentry, htaken⟩, by rw [List.map_cons, ← hrows]; rfl⟩
      bar := .didTapAddBtn _ _ _ _ _ }

/-- **Remove.**  A removal of an added row does not trap, and the row counts once less. -/
theorem SummaryState.CountsAdded.remove [EquivBEq String] [EquivBEq Image]
    {menu : List (MealsModel Image)} {p : SummaryState Image} (h : p.CountsAdded menu) {row : ℕ}
    (hrow : row ∈ p.rows) :
    ∃ q, p.step (.remove row) = some q ∧ q.CountsAdded menu := by
  obtain ⟨taken, hcolumns, htaken, hrows⟩ := h.columns
  rw [← hrows, Multiset.mem_coe] at hrow
  obtain ⟨⟨row, e⟩, hmem, rfl⟩ := List.mem_map.mp hrow
  obtain ⟨before, after, rfl⟩ := List.append_of_mem hmem
  -- Which of the entries of this row goes does not matter for what is counted.
  have hperm : (before ++ (row, e) :: after).Perm ((row, e) :: (before ++ after)) :=
    List.perm_middle
  obtain ⟨meal, hmeal, he⟩ := Option.bind_eq_some_iff.mp (htaken _ hmem)
  obtain ⟨t, ht, hcolumns'⟩ := hcolumns.didTapRemoveBtn he (hperm.map Prod.snd)
  have hstep : p.step (.remove row)
      = some ⟨⟨t, p.selection.added.erase row⟩, p.rows.erase row⟩ := by
    simp [SummaryState.step, SelectionState.step, h.mealList, hmeal, (MealsModel.of_entry he).1, ht]
  have hleft : ((before ++ after).map Prod.fst : Multiset ℕ) = p.rows.erase row := by
    rw [← hrows, Multiset.coe_eq_coe.mpr (hperm.map Prod.fst), List.map_cons, ← Multiset.cons_coe,
      Multiset.erase_cons_head]
  exact ⟨_, hstep,
    { mealList := (didTapRemoveBtn_columns ht).1.trans h.mealList
      columns := ⟨before ++ after, hcolumns',
        fun r hr => htaken r (hperm.mem_iff.mpr (List.mem_cons_of_mem _ hr)), hleft⟩
      bar := h.bar.didTapRemoveBtn ht }⟩

theorem SummaryState.CountsAdded.step [EquivBEq String] [EquivBEq Image]
    {menu : List (MealsModel Image)} (hmenu : ∀ meal ∈ menu, IsNumber ℚ meal.mealPrice)
    {p q : SummaryState Image} (h : p.CountsAdded menu) {tap : RowTap} (htap : p.OnAddedRow tap)
    (hq : p.step tap = some q) : q.CountsAdded menu := by
  cases tap with
  | add row => exact h.add hmenu hq
  | remove row =>
    obtain ⟨q', hq', hcounts⟩ := h.remove htap
    obtain rfl : q' = q := Option.some.inj (hq'.symm.trans hq)
    exact hcounts

/-- A bar that follows columns of the added rows agrees with them. -/
theorem SummaryState.CountsAdded.barAgrees [EquivBEq String] [EquivBEq Image]
    {menu : List (MealsModel Image)} {p : SummaryState Image} (h : p.CountsAdded menu) :
    p.BarAgrees := by
  have hlength := h.length_titleArray
  have hempty : p.selection.screen.detailViewModel.titleArray.length = 0 ↔ p.rows = 0 := by
    rw [hlength, Multiset.card_eq_zero]
  obtain ⟨taken, hcolumns, htaken, hrows⟩ := h.columns
  -- What an entry costs is the price of its row on the menu.
  have hprices :
      (taken.map Prod.snd).map (·.amount) = (taken.map Prod.fst).map (rowPrice menu) := by
    rw [List.map_map, List.map_map]
    exact List.map_congr_left fun r hr => (rowPrice_of_entryAt (htaken r hr)).symm
  constructor
  · intro row hrow
    obtain ⟨q, hq, -⟩ := h.remove hrow
    rw [hq, Option.isSome_some]
  · rw [h.bar.hidden, hempty]
  · intro hne
    rw [h.bar.numberOfItems (hempty.not.mpr hne), hlength, countText_eq]
  · intro hne
    rw [h.bar.totalAmount (hempty.not.mpr hne), totalText_eq hcolumns.amounts, hprices, h.mealList,
      ← hrows, Multiset.map_coe, Multiset.sum_coe]

/-- As long as every Add tap is on a row that is not added, no row counts twice. -/
theorem SummaryState.rows_step {p q : SummaryState Image} (h : p.rows = p.selection.added.val)
    {tap : RowTap} (htap : p.OnNewRow tap) (hq : p.step tap = some q) :
    q.rows = q.selection.added.val := by
  obtain ⟨selection, hselection, hq⟩ := Option.bind_eq_some_iff.mp hq
  obtain rfl : _ = q := Option.some.inj hq
  -- On a new row an insertion into the set is one into the multiset.
  cases tap with
  | add row =>
    obtain ⟨-, -, -, -, rfl⟩ := SelectionState.of_add hselection
    have hnew : row ∉ p.selection.added := fun hmem => htap (h ▸ hmem)
    show row ::ₘ p.rows = (insert row p.selection.added).val
    rw [Finset.insert_val_of_notMem hnew, h]
  | remove row =>
    obtain ⟨-, -, screen, -, -, -, rfl⟩ := SelectionState.of_remove hselection
    show p.rows.erase row = (p.selection.added.erase row).val
    rw [Finset.erase_val, h]

/-! ### Runs -/

/-- **Summary bar.**  On a menu whose prices are numbers, as long as Remove taps are on added rows,
    none of them traps, and after every tap the bar agrees with the added rows; they are a set as
    long as Add taps are on rows that are not added. -/
theorem summary_bar_agrees [EquivBEq String] [EquivBEq Image] {menu : List (MealsModel Image)}
    (hmenu : ∀ meal ∈ menu, IsNumber ℚ meal.mealPrice)
    (passRestaurantName passRestaurantDiscount : String) {taps : List RowTap}
    (htaps : Allowed SummaryState.step SummaryState.OnAddedRow
      (.opened menu passRestaurantName passRestaurantDiscount) taps) :
    Always SummaryState.step SummaryState.BarAgrees
        (.opened menu passRestaurantName passRestaurantDiscount) taps ∧
      (Allowed SummaryState.step SummaryState.OnNewRow
          (.opened menu passRestaurantName passRestaurantDiscount) taps →
        Always SummaryState.step (fun p => p.rows = p.selection.added.val)
          (.opened menu passRestaurantName passRestaurantDiscount) taps) := by
  have hopened : (SummaryState.opened menu passRestaurantName
      passRestaurantDiscount).CountsAdded menu :=
    { mealList := rfl
      columns := ⟨[], ⟨fun _ => rfl, fun _ => rfl, fun _ => rfl, rfl, nofun⟩, nofun, rfl⟩
      bar := ⟨iff_of_true rfl rfl, fun hne => absurd rfl hne, fun hne => absurd rfl hne⟩ }
  -- The bar agrees in every run; the added rows are a set only while Add taps are on new rows.
  constructor
  · have hcounts := always_of_allowed (fun p tap q hp htap hq => hp.step hmenu htap hq) hopened
      htaps
    exact hcounts.imp fun p hp => hp.barAgrees
  · exact always_of_allowed (fun p tap q hp htap hq => SummaryState.rows_step hp htap hq) rfl

end

/-- Two meals of one price are added, and the second is taken back. -/
theorem summary_bar_agrees_undo :
    Always SummaryState.step SummaryState.BarAgrees (.opened threeMeals "Mr Biggs" "10")
        [.add 0, .add 2, .remove 2] ∧
      (Allowed SummaryState.step SummaryState.OnNewRow (.opened threeMeals "Mr Biggs" "10")
          [.add 0, .add 2, .remove 2] →
        Always SummaryState.step (fun p => p.rows = p.selection.added.val)
          (.opened threeMeals "Mr Biggs" "10") [.add 0, .add 2, .remove 2]) :=
  summary_bar_agrees isNumber_threeMeals "Mr Biggs" "10" (by decide +kernel)

/-- A row that is added twice, as a recycled cell allows, is one row in the set of added rows, and
    two items. -/
theorem row_added_twice : ¬ ∀ taps : List RowTap,
    Allowed SelectionState.step OnAddedRow (.opened ℚ threeMeals "Mr Biggs" "10") taps →
    Always SelectionState.step
      (fun p => SummaryState.BarAgrees { selection := p, rows := p.added.val })
      (.opened ℚ threeMeals "Mr Biggs" "10") taps := by
  intro h
  have hvalues : (run SelectionState.step (.opened ℚ threeMeals "Mr Biggs" "10")
      [.add 0, .add 0]).map (fun p => (p.added, p.screen.numberOfItems))
        = some ({0}, "2 items") := by
    decide +kernel
  obtain ⟨p, hp, hp'⟩ := Option.map_eq_some_iff.mp hvalues
  obtain ⟨hadded, hitems⟩ := Prod.mk.inj hp'
  have hagrees := (h _ (by decide +kernel)).last hp
  have hlaw : p.added.val ≠ 0 → p.screen.numberOfItems = itemsText p.added.val.card :=
    hagrees.numberOfItems
  rw [hadded, hitems] at hlaw
  exact absurd (hlaw (by decide)) (by decide)

end Foodly
