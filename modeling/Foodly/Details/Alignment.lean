import Foodly.Details.Entries
import Foodly.Lib.Runs

namespace Foodly

open Swift Runs Parallel

/-!
# Alignment of the four arrays

The cart of the details screen is a table of the added meals kept as four columns.  A removal takes
the first match out of each column on its own, so a table stays one only when those matches can be
taken at one position.

* `RowTap`, `SelectionState` — taps on the buttons of rows, and the rows added and not removed;
* `FromRow`, `Aligned` — a position of the columns holds the meal of a row, and the columns have one
  position for each added row;
* `RemovesInPlace` — the first matches of the row's title, price and picture can be taken at one
  position;
* `KeepsAlignment` — the condition on a tap: an Add is on a row that is not added, and a Remove
  removes in place;
* `ListsRows` — what the taps keep: the columns list the entries of the added rows, in order;
* `ListsRows.didTapRemoveBtn` — a removal in place, whatever row stands at the common position;
* `columns_stay_aligned` — the columns list the added rows throughout a run, and so does the cart
  that is handed over;
* `removal_misaligns` — three meals, two of one price, and a removal that takes the wrong one.

Prices, titles and pictures are compared by the equality of their types, under which a value need
not be the only one that equals it; so a position holds a row up to that equality.
-/

section
variable {F Image : Type} [SwiftFloat F] [BEq String] [BEq Image]

/-! ### Taps -/

/-- A tap on the button of a row. -/
inductive RowTap
  | add (row : ℕ)
  | remove (row : ℕ)
  deriving DecidableEq, Repr

/-- The screen, and the rows that have been added and not removed since. -/
structure SelectionState (F Image : Type) where
  screen : DetailsViewController F Image
  added : Finset ℕ := ∅

/-- The delegate call that the cell of the row makes on each tap. -/
def SelectionState.step (p : SelectionState F Image) : RowTap → Option (SelectionState F Image)
  | .add row => do
    let meal ← p.screen.detailViewModel.mealList[row]?
    let image ← meal.mealImage
    return { screen := p.screen.didTapAddBtn meal.mealRecipe meal.mealPrice image "1"
             added := insert row p.added }
  | .remove row => do
    let meal ← p.screen.detailViewModel.mealList[row]?
    let image ← meal.mealImage
    let screen ← p.screen.didTapRemoveBtn meal.mealRecipe meal.mealPrice image "1"
    return { screen, added := p.added.erase row }

/-- A Remove tap is made on an added row only. -/
def OnAddedRow (p : SelectionState F Image) : RowTap → Prop
  | .add _ => True
  | .remove row => row ∈ p.added

/-- What an Add tap does. -/
theorem SelectionState.of_add {p q : SelectionState F Image} {row : ℕ}
    (hq : p.step (.add row) = some q) : ∃ meal image,
      p.screen.detailViewModel.mealList[row]? = some meal ∧ meal.mealImage = some image ∧
        q = { screen := p.screen.didTapAddBtn meal.mealRecipe meal.mealPrice image "1"
              added := insert row p.added } := by
  obtain ⟨meal, hmeal, hq⟩ := Option.bind_eq_some_iff.mp hq
  obtain ⟨image, himage, hq⟩ := Option.bind_eq_some_iff.mp hq
  exact ⟨meal, image, hmeal, himage, (Option.some.inj hq).symm⟩

/-- What a Remove tap does. -/
theorem SelectionState.of_remove {p q : SelectionState F Image} {row : ℕ}
    (hq : p.step (.remove row) = some q) : ∃ meal image screen,
      p.screen.detailViewModel.mealList[row]? = some meal ∧ meal.mealImage = some image ∧
        p.screen.didTapRemoveBtn meal.mealRecipe meal.mealPrice image "1" = some screen ∧
          q = { screen, added := p.added.erase row } := by
  obtain ⟨meal, hmeal, hq⟩ := Option.bind_eq_some_iff.mp hq
  obtain ⟨image, himage, hq⟩ := Option.bind_eq_some_iff.mp hq
  obtain ⟨screen, hscreen, hq⟩ := Option.bind_eq_some_iff.mp hq
  exact ⟨meal, image, screen, hmeal, himage, hscreen, (Option.some.inj hq).symm⟩

/-! ### The law and its condition -/

/-- Position `i` of the four columns holds the meal of a row. -/
def FromRow (s : DetailsViewModel F Image) (i row : ℕ) : Prop :=
  ∃ e : Entry F Image, entryAt s.mealList row = some e ∧
    (∃ title, s.titleArray[i]? = some title ∧ (title == e.title) = true) ∧
    (∃ amount, s.amountArray[i]? = some amount ∧ (amount == e.amount) = true) ∧
    (∃ image, s.imageArray[i]? = some image ∧ (image == e.image) = true) ∧
    s.quantityOfItems[i]? = some "1"

/-- The four columns have one position for each added row. -/
def Aligned (p : SelectionState F Image) : Prop :=
  ∃ rows : List ℕ, rows.Nodup ∧ rows.toFinset = p.added ∧
    p.screen.detailViewModel.titleArray.length = rows.length ∧
    p.screen.detailViewModel.amountArray.length = rows.length ∧
    p.screen.detailViewModel.imageArray.length = rows.length ∧
    p.screen.detailViewModel.quantityOfItems.length = rows.length ∧
    ∀ i row, rows[i]? = some row → FromRow p.screen.detailViewModel i row

/-- The first matches of the row's title, price and picture can be taken at one position. -/
def RemovesInPlace (s : DetailsViewModel F Image) (row : ℕ) : Prop :=
  ∀ e ∈ (entryAt s.mealList row : Option (Entry F Image)), ∃ k, k < s.titleArray.length ∧
    Unbroken e.title s.titleArray k ∧ Unbroken e.amount s.amountArray k ∧
      Unbroken e.image s.imageArray k

instance (s : DetailsViewModel F Image) (row : ℕ) : Decidable (RemovesInPlace s row) :=
  inferInstanceAs (Decidable (∀ e ∈ _, ∃ k, k < _ ∧ _))

/-- An Add tap is on a row that is not added, and a Remove tap removes in place. -/
def KeepsAlignment (p : SelectionState F Image) : RowTap → Prop
  | .add row => row ∉ p.added
  | .remove row => RemovesInPlace p.screen.detailViewModel row

instance (p : SelectionState F Image) : (tap : RowTap) → Decidable (OnAddedRow p tap)
  | .add _ => inferInstanceAs (Decidable True)
  | .remove row => inferInstanceAs (Decidable (row ∈ p.added))

instance (p : SelectionState F Image) : (tap : RowTap) → Decidable (KeepsAlignment p tap)
  | .add row => inferInstanceAs (Decidable (row ∉ p.added))
  | .remove row => inferInstanceAs (Decidable (RemovesInPlace p.screen.detailViewModel row))

/-! ### Columns of entries -/

/-- The columns list the entries of these rows, in order. -/
structure ListsRows (s : DetailsViewModel F Image) (rows : List (ℕ × Entry F Image)) : Prop where
  nodup : (rows.map Prod.fst).Nodup
  menu : ∀ r ∈ rows, entryAt s.mealList r.1 = some r.2
  titles : Lists (fun r : ℕ × Entry F Image => r.2.title) s.titleArray rows
  amounts : Lists (fun r : ℕ × Entry F Image => r.2.amount) s.amountArray rows
  images : Lists (fun r : ℕ × Entry F Image => r.2.image) s.imageArray rows
  quantities : s.quantityOfItems = List.replicate rows.length "1"

/-- Columns that list the added rows are aligned. -/
theorem ListsRows.aligned {p : SelectionState F Image} {rows : List (ℕ × Entry F Image)}
    (h : ListsRows p.screen.detailViewModel rows)
    (hadded : (rows.map Prod.fst).toFinset = p.added) : Aligned p := by
  refine ⟨rows.map Prod.fst, h.nodup, hadded, ?_, ?_, ?_, ?_, fun i row hrow => ?_⟩
  · rw [h.titles.length_eq, List.length_map]
  · rw [h.amounts.length_eq, List.length_map]
  · rw [h.images.length_eq, List.length_map]
  · rw [h.quantities, List.length_replicate, List.length_map]
  · rw [List.getElem?_map] at hrow
    obtain ⟨r, hr, rfl⟩ := Option.map_eq_some_iff.mp hrow
    have hlt : i < rows.length := (List.getElem?_eq_some_iff.mp hr).1
    refine ⟨r.2, h.menu r (List.mem_of_getElem? hr), h.titles.getElem? hr, h.amounts.getElem? hr,
      h.images.getElem? hr, ?_⟩
    rw [h.quantities, List.getElem?_replicate, if_pos hlt]

/-! ### Add -/

section
variable [EquivBEq String] [EquivBEq Image]

/-- An added row goes to the end of the columns. -/
theorem ListsRows.didTapAddBtn {s : DetailsViewController F Image}
    {rows : List (ℕ × Entry F Image)} (h : ListsRows s.detailViewModel rows) {row : ℕ}
    {meal : MealsModel Image} {e : Entry F Image}
    (hmeal : s.detailViewModel.mealList[row]? = some meal) (he : meal.entry = some e)
    (hself : (e.amount == e.amount) = true) (hnew : row ∉ rows.map Prod.fst) :
    ListsRows (s.didTapAddBtn meal.mealRecipe meal.mealPrice e.image "1").detailViewModel
      (rows ++ [(row, e)]) := by
  obtain ⟨-, -, htitle⟩ := MealsModel.of_entry he
  have hprice := MealsModel.getD_ofText he
  refine
    { nodup := ?_
      menu := ?_
      titles := h.titles.concat (by rw [htitle]; exact BEq.rfl)
      amounts := h.amounts.concat (by rw [hprice]; exact hself)
      images := h.images.concat BEq.rfl
      quantities := ?_ }
  · -- The row is new, so the rows stay different from each other.
    rw [List.map_append, List.map_cons, List.map_nil]
    refine List.nodup_append.mpr ⟨h.nodup, List.nodup_singleton _, fun a ha b hb hab => ?_⟩
    rw [List.mem_singleton] at hb
    exact hnew (by rwa [hab, hb] at ha)
  · intro r hr
    rcases List.mem_append.mp hr with hr | hr
    · exact h.menu r hr
    · obtain rfl := List.mem_singleton.mp hr
      simp only [entryAt, DetailsViewController.didTapAddBtn, hmeal, Option.bind_some]
      exact he
  · simp only [DetailsViewController.didTapAddBtn, h.quantities, List.length_append,
      List.length_singleton, List.replicate_succ']

/-! ### Remove -/

/-- A removal in place leaves the columns listing the other rows: the row at the common
    position goes, and its place among the added rows is taken by the removed row's. -/
theorem ListsRows.didTapRemoveBtn [PartialEquivBEq F] {s t : DetailsViewController F Image}
    {rows : List (ℕ × Entry F Image)} (h : ListsRows s.detailViewModel rows) {row : ℕ}
    {meal : MealsModel Image} {e : Entry F Image}
    (hmeal : s.detailViewModel.mealList[row]? = some meal) (he : meal.entry = some e)
    (hrow : row ∈ rows.map Prod.fst) (hplace : RemovesInPlace s.detailViewModel row)
    (ht : s.didTapRemoveBtn meal.mealRecipe meal.mealPrice e.image "1" = some t) :
    ∃ rows', ListsRows t.detailViewModel rows' ∧
      (rows'.map Prod.fst).toFinset = (rows.map Prod.fst).toFinset.erase row := by
  obtain ⟨hlist, htitles, ⟨price, hprice, hamounts⟩, himages, hnumbers⟩ :=
    didTapRemoveBtn_columns ht
  have hentry : entryAt s.detailViewModel.mealList row = some e := by
    rw [entryAt, hmeal, Option.bind_some, he]
  -- The row `b` at the common position goes from every column; `b` and the removed row have
  -- equal values, so from now on `b` stands where the removed row stood.
  obtain ⟨k, -, hktitle, hkamount, hkimage⟩ := hplace e hentry
  obtain ⟨b, hb, -⟩ := h.titles.beq_of_unbroken hktitle
  obtain ⟨-, hamount, htitle'⟩ := MealsModel.of_entry he
  have hprice' : price = e.amount := Option.some.inj (hprice.symm.trans hamount)
  have hsame : ∀ r ∈ rows, r.1 = row → r.2 = e := by
    rintro r hr rfl
    exact Option.some.inj ((h.menu r hr).symm.trans hentry)
  have hlen : rows.length = (rows.eraseIdx k).length + 1 := by
    rw [List.length_eraseIdx_of_lt (List.getElem?_eq_some_iff.mp hb).1]
    have hpos := (List.getElem?_eq_some_iff.mp hb).1
    omega
  have hnames := map_fst_replace rows k row b
  have hbname : (rows.map Prod.fst)[k]? = some b.1 := by
    rw [List.getElem?_map, hb, Option.map_some]
  refine ⟨(rows.eraseIdx k).map fun r => if r.1 = row then b else r, ?_, ?_⟩
  · refine
      { nodup := hnames ▸ nodup_relabel h.nodup hbname row
        menu := ?_
        titles := lists_removeFirst_replace (fun r => r.1 = row) h.titles hktitle
          (htitle' ▸ htitles) hb fun r hr hrow => by rw [hsame r hr hrow]
        amounts := lists_removeFirst_replace (fun r => r.1 = row) h.amounts hkamount
          (hprice' ▸ hamounts) hb fun r hr hrow => by rw [hsame r hr hrow]
        images := lists_removeFirst_replace (fun r => r.1 = row) h.images hkimage
          himages hb fun r hr hrow => by rw [hsame r hr hrow]
        quantities := ?_ }
    · intro r hr
      rw [hlist]
      obtain ⟨r', hr', rfl⟩ := List.mem_map.mp hr
      split
      · exact h.menu b (List.mem_of_getElem? hb)
      · exact h.menu r' (List.mem_of_mem_eraseIdx hr')
    · rw [h.quantities, hlen, removeFirst_replicate, Option.some.injEq] at hnumbers
      rw [List.length_map, hnumbers]
  · rw [hnames]
    ext x
    rw [List.mem_toFinset, mem_relabel h.nodup hbname hrow, Finset.mem_erase, List.mem_toFinset,
      and_comm]

end

/-! ### Runs -/

/-- The screen on a menu, with nothing added. -/
def SelectionState.opened (F : Type) [SwiftFloat F] (menu : List (MealsModel Image))
    (passRestaurantName passRestaurantDiscount : String) : SelectionState F Image :=
  { screen := { detailViewModel :=
      { mealList := menu, passRestaurantName, passRestaurantDiscount } } }

/-- Each row of the cart that `viewCartButton` hands over has the name, the price and the
    picture of one added meal. -/
def HandsOver (p : SelectionState F Image) : Prop :=
  ∀ (i : ℕ) (title : String), p.screen.viewCartButton.viewModel.cartTitles[i]? = some title →
    ∃ row ∈ p.added, ∃ e : Entry F Image,
      entryAt p.screen.detailViewModel.mealList row = some e ∧ (title == e.title) = true ∧
      (∃ amount : F, (amount == e.amount) = true ∧
        p.screen.viewCartButton.viewModel.cartPrice[i]? = some (SwiftFloat.value amount)) ∧
      ∃ image : Image, (image == e.image) = true ∧
        p.screen.viewCartButton.viewModel.cartImage[i]? = some image

/-- Aligned columns are handed over aligned. -/
theorem Aligned.handsOver {p : SelectionState F Image} (h : Aligned p) : HandsOver p := by
  obtain ⟨rows, -, hadded, hlen, -, -, -, hrows⟩ := h
  intro i title htitle
  have htitle' : p.screen.detailViewModel.titleArray[i]? = some title := htitle
  have hi : i < rows.length := hlen ▸ (List.getElem?_eq_some_iff.mp htitle').1
  have hrow := List.getElem?_eq_getElem hi
  obtain ⟨e, he, ⟨title', hlisted, hsame⟩, ⟨amount, hamount, hamount'⟩, ⟨image, himage, himage'⟩,
    -⟩ := hrows i rows[i] hrow
  obtain rfl : title = title' := Option.some.inj (htitle'.symm.trans hlisted)
  refine ⟨rows[i], hadded ▸ List.mem_toFinset.mpr (List.getElem_mem hi), e, he, hsame,
    ⟨amount, hamount', ?_⟩, image, himage', himage⟩
  -- `viewCartButton` hands over the amounts as values, at the same positions.
  show (p.screen.detailViewModel.amountArray.map SwiftFloat.value)[i]? = _
  rw [List.getElem?_map, hamount, Option.map_some]

/-- What the taps keep on a menu: the columns list the added rows. -/
def ListsAdded (menu : List (MealsModel Image)) (p : SelectionState F Image) : Prop :=
  p.screen.detailViewModel.mealList = menu ∧
    ∃ rows, ListsRows p.screen.detailViewModel rows ∧ (rows.map Prod.fst).toFinset = p.added

/-- One tap that keeps the alignment. -/
theorem ListsAdded.step [PartialEquivBEq F] [EquivBEq String] [EquivBEq Image]
    {menu : List (MealsModel Image)} (hmenu : ∀ meal ∈ menu, IsNumber F meal.mealPrice)
    {p q : SelectionState F Image} {tap : RowTap} (hp : ListsAdded menu p)
    (htap : OnAddedRow p tap) (hkeeps : KeepsAlignment p tap) (hq : p.step tap = some q) :
    ListsAdded menu q := by
  obtain ⟨hlist, rows, hrows, hadded⟩ := hp
  cases tap with
  | add row =>
    obtain ⟨meal, image, hmeal, himage, rfl⟩ := SelectionState.of_add hq
    obtain ⟨e, he, rfl, hself⟩ := (hmenu meal (hlist ▸ List.mem_of_getElem? hmeal)).entry himage
    -- The guard says that the row is new.
    have hnew : row ∉ rows.map Prod.fst := fun hmem =>
      hkeeps (hadded ▸ List.mem_toFinset.mpr hmem)
    refine ⟨hlist, rows ++ [(row, e)], hrows.didTapAddBtn hmeal he hself hnew, ?_⟩
    ext x
    rw [Finset.mem_insert, ← hadded, List.map_append, List.mem_toFinset, List.mem_append,
      List.mem_toFinset, List.map_singleton, List.mem_singleton, or_comm]
  | remove row =>
    obtain ⟨meal, image, t, hmeal, himage, ht, rfl⟩ := SelectionState.of_remove hq
    obtain ⟨e, he, rfl, -⟩ := (hmenu meal (hlist ▸ List.mem_of_getElem? hmeal)).entry himage
    have hrow : row ∈ rows.map Prod.fst := List.mem_toFinset.mp (hadded.symm ▸ htap)
    obtain ⟨rows', hrows', hadded'⟩ := hrows.didTapRemoveBtn hmeal he hrow hkeeps ht
    refine ⟨(didTapRemoveBtn_columns ht).1.trans hlist, rows', hrows', ?_⟩
    rw [hadded', hadded]

/-- **Alignment.**  On a menu whose prices are numbers, as long as Add taps are on rows that are
    not added and Remove taps remove in place, the four columns list the added rows, each once,
    and so does the cart that is handed over. -/
theorem columns_stay_aligned [PartialEquivBEq F] [EquivBEq String] [EquivBEq Image]
    {menu : List (MealsModel Image)} (hmenu : ∀ meal ∈ menu, IsNumber F meal.mealPrice)
    (passRestaurantName passRestaurantDiscount : String) {taps : List RowTap}
    (htaps : Allowed SelectionState.step OnAddedRow
      (.opened F menu passRestaurantName passRestaurantDiscount) taps)
    (hkeeps : Guarded SelectionState.step KeepsAlignment
      (.opened F menu passRestaurantName passRestaurantDiscount) taps) :
    Always SelectionState.step (fun p => Aligned p ∧ HandsOver p)
      (.opened F menu passRestaurantName passRestaurantDiscount) taps := by
  have hopened : ListsAdded menu
      (SelectionState.opened F menu passRestaurantName passRestaurantDiscount) := by
    refine ⟨rfl, [], ⟨List.nodup_nil, fun r hr => ?_, .nil, .nil, .nil, rfl⟩, rfl⟩
    cases hr
  -- What the taps keep says more than the law: the order of the columns is that of the rows.
  have halways := always_of_guarded (fun p tap q hp htap hkeeps hq => hp.step hmenu htap hkeeps hq)
    hopened htaps hkeeps
  refine halways.imp fun p hp => ?_
  obtain ⟨-, rows, hrows, hadded⟩ := hp
  have haligned := hrows.aligned hadded
  exact ⟨haligned, haligned.handsOver⟩

end

/-- Adding a meal and taking it back is in place. -/
theorem columns_stay_aligned_undo :
    Always SelectionState.step (fun p => Aligned p ∧ HandsOver p)
      (.opened ℚ threeMeals "Mr Biggs" "10") [.add 0, .remove 0] := by
  exact columns_stay_aligned isNumber_threeMeals "Mr Biggs" "10" (by decide +kernel)
    (by decide +kernel)

/-- All three meals are added and the last one is removed: the price that goes is the first. -/
theorem removal_misaligns : ¬ ∀ taps : List RowTap,
    Allowed SelectionState.step OnAddedRow (.opened ℚ threeMeals "Mr Biggs" "10") taps →
    Always SelectionState.step Aligned (.opened ℚ threeMeals "Mr Biggs" "10") taps := by
  intro h
  have hvalues : (run SelectionState.step (.opened ℚ threeMeals "Mr Biggs" "10")
      [.add 0, .add 1, .add 2, .remove 2]).map (fun p => (p.screen.detailViewModel.mealList,
        p.screen.detailViewModel.titleArray, p.screen.detailViewModel.amountArray))
      = some (threeMeals, ["Jollof", "Egusi"], [7, 5]) := by
    decide +kernel
  obtain ⟨p, hp, hp'⟩ := Option.map_eq_some_iff.mp hvalues
  simp only [Prod.mk.injEq] at hp'
  obtain ⟨hlist, htitles, hamounts⟩ := hp'
  obtain ⟨rows, -, -, hlen, -, -, -, hrows⟩ := (h _ (by decide +kernel)).last hp
  rw [htitles] at hlen
  have hfirst : 0 < rows.length := by
    rw [← hlen]
    decide
  obtain ⟨e, he, ⟨title, htitle, hname⟩, ⟨amount, hamount, hsame⟩, -⟩ :=
    hrows 0 rows[0] (List.getElem?_eq_getElem hfirst)
  rw [htitles] at htitle
  rw [hamounts] at hamount
  rw [hlist] at he
  -- No row of the menu has the first title at the second price.
  have hmenu : ∀ row < 3, ∀ e ∈ (entryAt threeMeals row : Option (Entry ℚ String)),
      ¬(("Jollof" == e.title) = true ∧ (7 == e.amount) = true) := by
    decide +kernel
  have hrow : rows[0] < 3 := by
    obtain ⟨meal, hmeal, -⟩ := Option.bind_eq_some_iff.mp he
    exact (List.getElem?_eq_some_iff.mp hmeal).1
  have hseven : amount = 7 := (Option.some.inj hamount).symm
  have hjollof : title = "Jollof" := (Option.some.inj htitle).symm
  exact hmenu rows[0] hrow e he ⟨hjollof ▸ hname, hseven ▸ hsame⟩

end Foodly
