import Foodly.Details.Controller
import Mathlib.Data.Finset.Basic
import Mathlib.Data.Finset.Dedup

namespace Foodly

open Swift Parallel

/-!
# Entries of the four columns

An entry is what one meal puts into the columns of the details screen.  Whatever the columns'
order, they hold as many values equal to any given one as the added entries do, so a removal of an
added meal always finds what it looks for, even though it may find it at another meal.

* `Entry`, `MealsModel.entry`, `entryAt` — the entry of a meal, and of a row of the menu: there is
  one when the picture is there and the price is a number;
* `IsNumber` — a price that is a number equal to itself, which is what a removal needs;
* `CountsEntries` — the columns have the values of some entries, in any order;
* `CountsRows` — the columns have the values of the entries of some rows of the menu;
* `didTapRemoveBtn_columns` — a removal takes one value out of every column, and traps when one of
  the four is not found;
* `CountsEntries.didTapRemoveBtn`, `CountsRows.didTapRemoveBtn` — removing what was added never
  fails, and leaves the columns counting the others.

Counting is all that the summary bar and the cells need; that the columns list the meals row by row
is another matter.
-/

section
variable {F Image : Type} [SwiftFloat F] [BEq String] [BEq Image]

/-- What a meal puts into the columns. -/
structure Entry (F Image : Type) where
  title : String
  amount : F
  image : Image
  deriving DecidableEq

/-- The entry of a meal whose picture is there and whose price is a number. -/
def MealsModel.entry (meal : MealsModel Image) : Option (Entry F Image) := do
  let image ← meal.mealImage
  let amount ← SwiftFloat.ofText meal.mealPrice
  return { title := meal.mealRecipe, amount, image }

omit [BEq String] [BEq Image] in
theorem MealsModel.of_entry {meal : MealsModel Image} {e : Entry F Image}
    (h : meal.entry = some e) : meal.mealImage = some e.image ∧
      SwiftFloat.ofText meal.mealPrice = some e.amount ∧ meal.mealRecipe = e.title := by
  obtain ⟨image, himage, h⟩ := Option.bind_eq_some_iff.mp h
  obtain ⟨amount, hamount, h⟩ := Option.bind_eq_some_iff.mp h
  obtain rfl : _ = e := Option.some.inj h
  exact ⟨himage, hamount, rfl⟩

/-- The entry of a row of the menu. -/
def entryAt (menu : List (MealsModel Image)) (row : ℕ) : Option (Entry F Image) :=
  menu[row]?.bind MealsModel.entry

/-- The text is that of a number that is equal to itself. -/
def IsNumber (F : Type) [SwiftFloat F] (text : String) : Prop :=
  (SwiftFloat.ofText text : Option F).any (fun x => x == x) = true

instance (F : Type) [SwiftFloat F] (text : String) : Decidable (IsNumber F text) :=
  inferInstanceAs (Decidable (_ = true))

omit [BEq String] [BEq Image] in
/-- A meal with a picture and with a number for a price has an entry. -/
theorem IsNumber.entry {meal : MealsModel Image} (h : IsNumber F meal.mealPrice) {image : Image}
    (himage : meal.mealImage = some image) :
    ∃ e : Entry F Image, meal.entry = some e ∧ e.image = image ∧ (e.amount == e.amount) = true := by
  unfold IsNumber at h
  rw [Option.any_eq_true] at h
  obtain ⟨amount, hamount, hself⟩ := h
  refine ⟨⟨meal.mealRecipe, amount, image⟩, ?_, rfl, hself⟩
  simp [MealsModel.entry, himage, hamount]

/-! ### Inversion of a removal -/

/-- What a removal does to the columns. -/
theorem didTapRemoveBtn_columns {s t : DetailsViewController F Image} {title amount number : String}
    {image : Image} (h : s.didTapRemoveBtn title amount image number = some t) :
    t.detailViewModel.mealList = s.detailViewModel.mealList ∧
    removeFirst title s.detailViewModel.titleArray = some t.detailViewModel.titleArray ∧
    (∃ price, SwiftFloat.ofText amount = some price ∧
      removeFirst price s.detailViewModel.amountArray = some t.detailViewModel.amountArray) ∧
    removeFirst image s.detailViewModel.imageArray = some t.detailViewModel.imageArray ∧
    removeFirst number s.detailViewModel.quantityOfItems
      = some t.detailViewModel.quantityOfItems := by
  obtain ⟨titles, htitles, h⟩ := Option.bind_eq_some_iff.mp h
  obtain ⟨price, hprice, h⟩ := Option.bind_eq_some_iff.mp h
  obtain ⟨amounts, hamounts, h⟩ := Option.bind_eq_some_iff.mp h
  obtain ⟨images, himages, h⟩ := Option.bind_eq_some_iff.mp h
  obtain ⟨numbers, hnumbers, h⟩ := Option.bind_eq_some_iff.mp h
  obtain rfl := Option.some.inj h
  exact ⟨rfl, htitles, ⟨price, hprice, hamounts⟩, himages, hnumbers⟩

/-! ### Counting the columns -/

/-- The columns have the values of these entries, in any order. -/
structure CountsEntries (s : DetailsViewModel F Image) (entries : List (Entry F Image)) : Prop where
  titles : SameCounts s.titleArray (entries.map (·.title))
  amounts : SameCounts s.amountArray (entries.map (·.amount))
  images : SameCounts s.imageArray (entries.map (·.image))
  quantities : s.quantityOfItems = List.replicate entries.length "1"
  numbers : ∀ e ∈ entries, (e.amount == e.amount) = true

/-- The columns have the values of these rows' entries, in any order. -/
structure CountsRows (s : DetailsViewModel F Image) (rows : List (ℕ × Entry F Image)) : Prop where
  nodup : (rows.map Prod.fst).Nodup
  menu : ∀ r ∈ rows, entryAt s.mealList r.1 = some r.2
  titles : SameCounts s.titleArray (rows.map fun r => r.2.title)
  amounts : SameCounts s.amountArray (rows.map fun r => r.2.amount)
  images : SameCounts s.imageArray (rows.map fun r => r.2.image)
  quantities : s.quantityOfItems = List.replicate rows.length "1"
  numbers : ∀ r ∈ rows, (r.2.amount == r.2.amount) = true

theorem CountsRows.of_entries {s : DetailsViewModel F Image} {rows : List (ℕ × Entry F Image)}
    (hnodup : (rows.map Prod.fst).Nodup) (hmenu : ∀ r ∈ rows, entryAt s.mealList r.1 = some r.2)
    (h : CountsEntries s (rows.map Prod.snd)) : CountsRows s rows where
  nodup := hnodup
  menu := hmenu
  titles := by simpa [Function.comp_def] using h.titles
  amounts := by simpa [Function.comp_def] using h.amounts
  images := by simpa [Function.comp_def] using h.images
  quantities := by simpa using h.quantities
  numbers := fun r hr => h.numbers r.2 (List.mem_map_of_mem hr)

theorem CountsRows.entries {s : DetailsViewModel F Image} {rows : List (ℕ × Entry F Image)}
    (h : CountsRows s rows) : CountsEntries s (rows.map Prod.snd) where
  titles := by simpa [Function.comp_def] using h.titles
  amounts := by simpa [Function.comp_def] using h.amounts
  images := by simpa [Function.comp_def] using h.images
  quantities := by simpa using h.quantities
  numbers := List.forall_mem_map.mpr h.numbers

omit [BEq String] [BEq Image] in
/-- The delegate is called with the values of the meal's entry. -/
theorem MealsModel.getD_ofText {meal : MealsModel Image} {e : Entry F Image}
    (h : meal.entry = some e) :
    (SwiftFloat.ofText meal.mealPrice : Option F).getD 0 = e.amount := by
  rw [(MealsModel.of_entry h).2.1, Option.getD_some]

/-- An added meal adds the values of its entry. -/
theorem CountsEntries.didTapAddBtn {s : DetailsViewController F Image}
    {entries : List (Entry F Image)} (h : CountsEntries s.detailViewModel entries)
    {meal : MealsModel Image} {e : Entry F Image} (he : meal.entry = some e)
    (hself : (e.amount == e.amount) = true) :
    CountsEntries (s.didTapAddBtn meal.mealRecipe meal.mealPrice e.image "1").detailViewModel
      (e :: entries) := by
  refine
    { titles := ?_
      amounts := ?_
      images := h.images.concat e.image
      quantities := ?_
      numbers := List.forall_mem_cons.mpr ⟨hself, h.numbers⟩ }
  · rw [List.map_cons, ← (MealsModel.of_entry he).2.2]
    exact h.titles.concat meal.mealRecipe
  · -- The price is parsed again by the handler, with the value that it has in the entry.
    rw [List.map_cons, ← MealsModel.getD_ofText he]
    exact h.amounts.concat _
  · show s.detailViewModel.quantityOfItems ++ ["1"] = _
    rw [h.quantities, List.length_cons, List.replicate_succ']

/-- **Removal.**  Removing an added meal never fails, and takes the values of its entry out. -/
theorem CountsEntries.didTapRemoveBtn [PartialEquivBEq F] [EquivBEq String] [EquivBEq Image]
    {s : DetailsViewController F Image} {entries entries' : List (Entry F Image)}
    (h : CountsEntries s.detailViewModel entries) {meal : MealsModel Image} {e : Entry F Image}
    (he : meal.entry = some e) (hperm : entries.Perm (e :: entries')) :
    ∃ t, s.didTapRemoveBtn meal.mealRecipe meal.mealPrice e.image "1" = some t ∧
      CountsEntries t.detailViewModel entries' := by
  obtain ⟨-, hamount, htitle⟩ := MealsModel.of_entry he
  have hself := h.numbers e (hperm.mem_iff.mpr List.mem_cons_self)
  -- The counts promise an entry equal to each of the removed values.
  have htitles := h.titles.perm (hperm.map _)
  have hamounts := h.amounts.perm (hperm.map _)
  have himages := h.images.perm (hperm.map _)
  obtain ⟨titles, htitles'⟩ := Option.isSome_iff_exists.mp
    (htitles.isSome_removeFirst (x := e.title) (by simp) BEq.rfl)
  obtain ⟨amounts, hamounts'⟩ := Option.isSome_iff_exists.mp
    (hamounts.isSome_removeFirst (x := e.amount) (by simp) hself)
  obtain ⟨images, himages'⟩ := Option.isSome_iff_exists.mp
    (himages.isSome_removeFirst (x := e.image) (by simp) BEq.rfl)
  -- All quantities are alike, so any of them may go.
  have hnumbers : removeFirst "1" s.detailViewModel.quantityOfItems
      = some (List.replicate entries'.length "1") := by
    rw [h.quantities, hperm.length_eq, List.length_cons, removeFirst_replicate]
  obtain ⟨t, ht⟩ : ∃ t, s.didTapRemoveBtn meal.mealRecipe meal.mealPrice e.image "1" = some t := by
    simp [DetailsViewController.didTapRemoveBtn, htitle, htitles', hamount, hamounts', himages',
      hnumbers]
  refine ⟨t, ht, ?_⟩
  obtain ⟨-, ht1, ⟨price, hprice, ht2⟩, ht3, ht4⟩ := didTapRemoveBtn_columns ht
  obtain rfl : price = e.amount := Option.some.inj (hprice.symm.trans hamount)
  rw [htitle] at ht1
  rw [List.map_cons] at htitles hamounts himages
  exact
    { titles := htitles.removeFirst BEq.rfl ht1
      amounts := hamounts.removeFirst hself ht2
      images := himages.removeFirst BEq.rfl ht3
      quantities := Option.some.inj (ht4.symm.trans hnumbers)
      numbers := fun x hx => h.numbers x (hperm.mem_iff.mpr (List.mem_cons_of_mem _ hx)) }

/-- An added row adds the values of its entry. -/
theorem CountsRows.didTapAddBtn {s : DetailsViewController F Image}
    {rows : List (ℕ × Entry F Image)} (h : CountsRows s.detailViewModel rows) {row : ℕ}
    {meal : MealsModel Image} {e : Entry F Image}
    (hmeal : s.detailViewModel.mealList[row]? = some meal) (he : meal.entry = some e)
    (hself : (e.amount == e.amount) = true) (hnew : row ∉ rows.map Prod.fst) :
    CountsRows (s.didTapAddBtn meal.mealRecipe meal.mealPrice e.image "1").detailViewModel
      ((row, e) :: rows) := by
  have hentry : entryAt s.detailViewModel.mealList row = some e := by
    rw [entryAt, hmeal, Option.bind_some, he]
  exact .of_entries (List.nodup_cons.mpr ⟨hnew, h.nodup⟩)
    (List.forall_mem_cons.mpr ⟨hentry, h.menu⟩) (h.entries.didTapAddBtn he hself)

/-- Removing an added row never fails, and leaves the others. -/
theorem CountsRows.didTapRemoveBtn [PartialEquivBEq F] [EquivBEq String] [EquivBEq Image]
    {s : DetailsViewController F Image} {rows : List (ℕ × Entry F Image)}
    (h : CountsRows s.detailViewModel rows) {row : ℕ} {meal : MealsModel Image} {e : Entry F Image}
    (he : meal.entry = some e) (hmem : (row, e) ∈ rows) :
    ∃ t rows', s.didTapRemoveBtn meal.mealRecipe meal.mealPrice e.image "1" = some t ∧
      CountsRows t.detailViewModel rows' ∧ rows.Perm ((row, e) :: rows') := by
  obtain ⟨before, after, rfl⟩ := List.append_of_mem hmem
  have hperm : (before ++ (row, e) :: after).Perm ((row, e) :: (before ++ after)) :=
    List.perm_middle
  obtain ⟨t, ht, hentries⟩ := h.entries.didTapRemoveBtn he (hperm.map Prod.snd)
  have hlist := (didTapRemoveBtn_columns ht).1
  exact ⟨t, before ++ after, ht,
    .of_entries (List.nodup_cons.mp ((hperm.map Prod.fst).nodup_iff.mp h.nodup)).2
      (fun r hr => hlist ▸ h.menu r (hperm.mem_iff.mpr (List.mem_cons_of_mem _ hr))) hentries,
    hperm⟩

end

/-! ### A menu -/

/-- Three meals, the first and the last of one price. -/
def threeMeals : List (MealsModel String) :=
  [{ mealName := "Rice", mealImage := some "rice", mealPrice := "5.0", mealRecipe := "Jollof" },
   { mealName := "Soup", mealImage := some "soup", mealPrice := "7.0", mealRecipe := "Egusi" },
   { mealName := "Beans", mealImage := some "beans", mealPrice := "5.0", mealRecipe := "Porridge" }]

theorem isNumber_threeMeals : ∀ meal ∈ threeMeals, IsNumber ℚ meal.mealPrice := by
  decide +kernel

end Foodly
