import Foodly.Cart.Lines
import Foodly.Details.Alignment

namespace Foodly

open Swift Decimal Runs Parallel

/-!
# Going back and forth between menu and cart

`viewCartButton` copies the four arrays into a new cart screen, and nothing is copied back: the
quantities on the details screen stay `"1"`, and a meal taken out of the cart stays selected.

* `SelectedMeal` — a selected meal, with the number that it was last left with in the cart;
* `RoundTrip` — the details screen, the selected meals, and the cart while it is open;
* `detailsTapped`, `viewCart`, `cartTapped` — what the user does, with the meals kept beside the
  screens; the cart is on top while it is open, and the menu is not tapped then;
* `EditsKept` — what a user expects of a cart that is opened again: every meal with the number it
  was last left with, and none that was taken out;
* `NothingToKeep` — the condition on an opening: every selected meal was last left with `"1"`;
* `ListsSelected`, `Consistent` — what the steps keep: the arrays have an entry for each selected
  meal, and an open cart a line for each position kept with it;
* `editsKept_viewCart`, `editsKept_step` — one opening, and one event;
* `edits_kept_iff` — in which runs the edits are kept;
* `cart_edit_lost` — a meal that is taken twice, and is there once when the cart is opened again.

A meal that is taken off the menu may leave the arrays at the place of another one of the same
name, and the meals are then listed in each other's places (`removeSelected`).
-/

section
variable {F Image : Type} [SwiftFloat F] [BEq String] [BEq Image] (R : Nearest)

/-! ### The two screens -/

/-- A selected meal: its row on the menu, and the number that it was last left with in the cart,
    `"0"` when it was taken out there. -/
structure SelectedMeal where
  row : ℕ
  number : String := "1"
  deriving DecidableEq, Repr

/-- The meals that stay selected when a Remove tap on `row` takes the title at `index` out: the
    meal of the row goes, and the meal listed at `index` is listed in its place. -/
def removeSelected (selected : List SelectedMeal) (index row : ℕ) : List SelectedMeal :=
  match selected[index]? with
  | none => selected
  | some meal =>
    let rest := selected.eraseIdx index
    match rest.findIdx? (·.row == row) with
    | some i => if meal.row = row then rest else rest.set i meal
    | none => rest

/-- The details screen; the selected meals, in the order of `titleArray`; the cart screen while
    it is open, with the position among them of the meal on each of its rows; and whether it was
    opened just now. -/
structure RoundTrip (F Image : Type) where
  details : SelectionState F Image
  selected : List SelectedMeal := []
  cart : Option (CartsViewController Image) := none
  cartMeals : List ℕ := []
  opened : Bool := false

/-- What the user does. -/
inductive RoundTripEvent
  | details (tap : RowTap)
  | viewCart
  | cart (row : ℕ) (plus : Bool)
  | back
  deriving DecidableEq, Repr

namespace RoundTrip

/-- A tap on the menu. -/
def detailsTapped (p : RoundTrip F Image) (tap : RowTap) : Option (RoundTrip F Image) := do
  let details ← p.details.step tap
  match tap with
  | .add row => return { p with details, selected := p.selected ++ [{ row }] }
  | .remove row =>
    let meal ← p.details.screen.detailViewModel.mealList[row]?
    let index ← firstIndex meal.mealRecipe p.details.screen.detailViewModel.titleArray
    return { p with details, selected := removeSelected p.selected index row }

/-- The cart is opened, with one row for each entry of the arrays. -/
def viewCart (p : RoundTrip F Image) : Option (RoundTrip F Image) := do
  let cart ← p.details.screen.viewCartButton.viewDidLoad R
  let cart ← cart.viewDidAppear R
  return { p with cart := some cart, cartMeals := List.range p.selected.length, opened := true }

/-- A tap in the cart: its meal is left with the number displayed afterwards, or its row goes. -/
def cartTapped (p : RoundTrip F Image) (row : ℕ) (plus : Bool) :
    Option (RoundTrip F Image) := do
  let before ← p.cart
  let cart ← before.addBtnTapped R row plus
  let position ← p.cartMeals[row]?
  let meal ← p.selected[position]?
  if cart.viewModel.cartItems.length < before.viewModel.cartItems.length then
    let selected := p.selected.set position { meal with number := "0" }
    return { p with selected, cart := some cart, cartMeals := p.cartMeals.eraseIdx row,
                    opened := false }
  else
    let item ← cart.viewModel.cartItems[row]?
    let selected := p.selected.set position { meal with number := item.itemNumber }
    return { p with selected, cart := some cart, opened := false }

/-- The screens take turns. -/
def step (p : RoundTrip F Image) : RoundTripEvent → Option (RoundTrip F Image)
  | .details tap => if p.cart.isSome then none else p.detailsTapped tap
  | .viewCart => if p.cart.isSome then none else p.viewCart R
  | .cart row plus => p.cartTapped R row plus
  | .back =>
    if p.cart.isSome then some { p with cart := none, cartMeals := [], opened := false } else none

end RoundTrip

/-! ### The law and its condition -/

/-- The name of a row of the menu. -/
def titleAt (menu : List (MealsModel Image)) (row : ℕ) : Option String :=
  menu[row]?.map (·.mealRecipe)

/-- The text is the name of the meal. -/
def SelectedMeal.Named (menu : List (MealsModel Image)) (meal : SelectedMeal) (title : String) :
    Prop :=
  ∃ name ∈ titleAt menu meal.row, (title == name) = true

/-- The row of a cart shows the meal by its name, with the number it was last left with. -/
def SelectedMeal.ShownBy (menu : List (MealsModel Image)) (item : CartModel Image)
    (meal : SelectedMeal) : Prop :=
  meal.Named menu item.itemName ∧ item.itemNumber = meal.number

/-- In a cart that was opened just now, every selected meal has the number it was last left with,
    `"1"` when it is new, and no meal that was taken out is selected or listed. -/
def EditsKept (p : RoundTrip F Image) : Prop :=
  p.opened = true → ∀ cart ∈ p.cart, (∀ meal ∈ p.selected, meal.number ≠ "0") ∧
    ∃ meals, meals.Perm p.selected ∧
      List.Forall₂ (SelectedMeal.ShownBy p.details.screen.detailViewModel.mealList)
        cart.viewModel.cartItems meals

/-- A cart is only opened while every selected meal was last left with `"1"`. -/
def NothingToKeep (p : RoundTrip F Image) : RoundTripEvent → Prop
  | .viewCart => ∀ meal ∈ p.selected, meal.number = "1"
  | .details _ | .cart _ _ | .back => True

instance (p : RoundTrip F Image) : (event : RoundTripEvent) → Decidable (NothingToKeep p event)
  | .viewCart => inferInstanceAs (Decidable (∀ meal ∈ p.selected, meal.number = "1"))
  | .details _ | .cart _ _ | .back => inferInstanceAs (Decidable True)

/-! ### Removed meals -/

omit [BEq String] in
/-- The entry that a search finds has the row looked for. -/
theorem row_of_findIdx? {meals : List SelectedMeal} {row i : ℕ}
    (h : meals.findIdx? (·.row == row) = some i) :
    ∃ meal, meals[i]? = some meal ∧ meal.row = row := by
  obtain ⟨hi, hrow, -⟩ := List.findIdx?_eq_some_iff_getElem.mp h
  exact ⟨meals[i], List.getElem?_eq_getElem hi, by simpa using hrow⟩

omit [BEq String] in
/-- A Remove tap on a selected row takes one meal of that row out. -/
theorem perm_removeSelected {selected : List SelectedMeal} {index row : ℕ}
    {listed : SelectedMeal} (hlisted : selected[index]? = some listed)
    (hrow : ∃ meal ∈ selected, meal.row = row) :
    ∃ meal, meal.row = row ∧ selected.Perm (meal :: removeSelected selected index row) := by
  have hperm := perm_of_getElem? hlisted
  simp only [removeSelected, hlisted]
  by_cases hsame : listed.row = row
  · refine ⟨listed, hsame, hperm.symm.trans (.of_eq ?_)⟩
    cases (selected.eraseIdx index).findIdx? (·.row == row) <;> simp [hsame]
  · -- The meal of the row is among the others, and the one listed at the index takes its place.
    obtain ⟨meal₀, hmem, hrow₀⟩ := hrow
    have hrest : meal₀ ∈ selected.eraseIdx index := by
      rcases List.mem_cons.mp (hperm.mem_iff.mpr hmem) with rfl | hrest
      · exact absurd hrow₀ hsame
      · exact hrest
    cases hfind : (selected.eraseIdx index).findIdx? (·.row == row) with
    | none =>
      have hother := List.findIdx?_eq_none_iff.mp hfind meal₀ hrest
      rw [hrow₀, beq_self_eq_true] at hother
      cases hother
    | some i =>
      obtain ⟨meal, hmeal, hrow⟩ := row_of_findIdx? hfind
      refine ⟨meal, hrow, hperm.symm.trans ?_⟩
      simp only [if_neg hsame]
      exact perm_set hmeal listed

omit [BEq String] in
/-- Of the names of the selected meals, the one at the index goes: a meal that takes the place of
    another one is named like it. -/
theorem forall₂_removeSelected {β : Type} {N : SelectedMeal → β → Prop}
    {selected : List SelectedMeal} {names : List β} (h : List.Forall₂ N selected names)
    {index row : ℕ} {listed : SelectedMeal} (hlisted : selected[index]? = some listed)
    (hsame : ∀ meal name, meal.row = row → N meal name → N listed name) :
    List.Forall₂ N (removeSelected selected index row) (names.eraseIdx index) := by
  have hrest := forall₂_eraseIdx h index
  simp only [removeSelected, hlisted]
  -- When the meal of the row is listed elsewhere, the other one of that name takes its place.
  cases hfind : (selected.eraseIdx index).findIdx? (·.row == row) with
  | none => exact hrest
  | some i =>
    simp only
    split
    · exact hrest
    · obtain ⟨meal, hmeal, hrow⟩ := row_of_findIdx? hfind
      refine forall₂_set hrest fun name hname => ?_
      obtain ⟨meal', hmeal', hnamed⟩ := forall₂_getElem? hrest hname
      obtain rfl : meal = meal' := Option.some.inj (hmeal.symm.trans hmeal')
      exact hsame meal name hrow hnamed

/-! ### What the taps on the menu keep -/

/-- The arrays have one entry for each selected meal, by its name, and every quantity is `"1"`. -/
structure ListsSelected (s : DetailsViewModel F Image) (selected : List SelectedMeal) : Prop where
  titles : List.Forall₂ (SelectedMeal.Named s.mealList) selected s.titleArray
  amounts : s.amountArray.length = s.titleArray.length
  images : s.imageArray.length = s.titleArray.length
  quantities : s.quantityOfItems = List.replicate s.titleArray.length "1"

omit [BEq Image] in
theorem ListsSelected.didTapAddBtn [ReflBEq String] {s : DetailsViewController F Image}
    {selected : List SelectedMeal} (h : ListsSelected s.detailViewModel selected) {row : ℕ}
    {meal : MealsModel Image} (hmeal : s.detailViewModel.mealList[row]? = some meal)
    (amount : String) (image : Image) (number : String) :
    ListsSelected (s.didTapAddBtn meal.mealRecipe amount image "1").detailViewModel
      (selected ++ [⟨row, number⟩]) := by
  have htitle : titleAt s.detailViewModel.mealList row = some meal.mealRecipe := by
    rw [titleAt, hmeal, Option.map_some]
  refine ⟨?_, ?_, ?_, ?_⟩
  · exact List.rel_append h.titles (.cons ⟨meal.mealRecipe, htitle, BEq.rfl⟩ .nil)
  · simp only [DetailsViewController.didTapAddBtn, List.length_append, h.amounts,
      List.length_singleton]
  · simp only [DetailsViewController.didTapAddBtn, List.length_append, h.images,
      List.length_singleton]
  · simp only [DetailsViewController.didTapAddBtn, h.quantities, List.length_append,
      List.length_singleton, List.replicate_succ']

theorem ListsSelected.didTapRemoveBtn [EquivBEq String] {s t : DetailsViewController F Image}
    {selected : List SelectedMeal} (h : ListsSelected s.detailViewModel selected) {row index : ℕ}
    {meal : MealsModel Image} (hmeal : s.detailViewModel.mealList[row]? = some meal)
    (hindex : firstIndex meal.mealRecipe s.detailViewModel.titleArray = some index)
    {amount : String} {image : Image}
    (ht : s.didTapRemoveBtn meal.mealRecipe amount image "1" = some t) :
    ListsSelected t.detailViewModel (removeSelected selected index row) := by
  obtain ⟨hlist, htitles, ⟨price, -, hamounts⟩, himages, hnumbers⟩ := didTapRemoveBtn_columns ht
  have hlength := length_of_removeFirst htitles
  refine ⟨?_, ?_, ?_, ?_⟩
  · obtain ⟨index', hindex', -, herase⟩ := removeFirst_eq_some_iff.mp htitles
    obtain rfl : index = index' := Option.some.inj (hindex.symm.trans hindex')
    obtain ⟨found, hfound, hequal⟩ := getElem?_of_firstIndex hindex
    obtain ⟨listed, hlisted, name, hname, hlike⟩ := forall₂_getElem? h.titles hfound
    rw [hlist, ← herase]
    refine forall₂_removeSelected h.titles hlisted fun meal' title hrow hnamed => ?_
    -- The meal listed at the index has a name equal to that of the row.
    obtain ⟨name', hname', hlike'⟩ := hnamed
    rw [hrow, titleAt, hmeal, Option.map_some, Option.mem_some_iff] at hname'
    subst hname'
    exact ⟨name, hname, BEq.trans hlike' (BEq.trans (BEq.symm hequal) hlike)⟩
  · have hamount := length_of_removeFirst hamounts
    rw [h.amounts] at hamount
    omega
  · have himage := length_of_removeFirst himages
    rw [h.images] at himage
    omega
  · rw [h.quantities, hlength, removeFirst_replicate, Option.some.injEq] at hnumbers
    exact hnumbers.symm

omit [SwiftFloat F] [BEq Image] in
/-- The numbers of the selected meals may change. -/
theorem ListsSelected.set {s : DetailsViewModel F Image} {selected : List SelectedMeal}
    (h : ListsSelected s selected) {position : ℕ} {meal : SelectedMeal}
    (hmeal : selected[position]? = some meal) (number : String) :
    ListsSelected s (selected.set position ⟨meal.row, number⟩) := by
  have htitles : List.Forall₂ (SelectedMeal.Named s.mealList)
      (selected.set position ⟨meal.row, number⟩) s.titleArray := by
    refine forall₂_set h.titles fun title htitle => ?_
    obtain ⟨meal', hmeal', hnamed⟩ := forall₂_getElem? h.titles htitle
    obtain rfl : meal = meal' := Option.some.inj (hmeal.symm.trans hmeal')
    exact hnamed
  exact { h with titles := htitles }

theorem ListsSelected.detailsTapped [EquivBEq String] {p q : RoundTrip F Image}
    (h : ListsSelected p.details.screen.detailViewModel p.selected) {tap : RowTap}
    (hq : p.detailsTapped tap = some q) :
    ListsSelected q.details.screen.detailViewModel q.selected := by
  obtain ⟨details, hdetails, hq⟩ := Option.bind_eq_some_iff.mp hq
  -- The meals kept beside the screen change as the columns do.
  cases tap with
  | add row =>
    obtain rfl : _ = q := Option.some.inj hq
    obtain ⟨meal, image, hmeal, -, rfl⟩ := SelectionState.of_add hdetails
    exact h.didTapAddBtn hmeal meal.mealPrice image "1"
  | remove row =>
    obtain ⟨meal, hmeal, hq⟩ := Option.bind_eq_some_iff.mp hq
    obtain ⟨index, hindex, hq⟩ := Option.bind_eq_some_iff.mp hq
    obtain rfl : _ = q := Option.some.inj hq
    obtain ⟨meal', image, screen, hmeal', -, hscreen, rfl⟩ := SelectionState.of_remove hdetails
    obtain rfl : meal = meal' := Option.some.inj (hmeal.symm.trans hmeal')
    exact h.didTapRemoveBtn hmeal hindex hscreen

/-! ### What the cart shows and what it is left with -/

section
omit [BEq Image]
variable {R}

/-- **Opening.**  The cart shows every selected meal with number `"1"`. -/
theorem viewCart_rows {p q : RoundTrip F Image}
    (h : ListsSelected p.details.screen.detailViewModel p.selected)
    (hq : p.viewCart R = some q) : q.details = p.details ∧ q.selected = p.selected ∧
      ∃ cart, q.cart = some cart ∧ q.opened = true ∧ q.cartMeals = List.range p.selected.length ∧
        (∃ lines, CartsViewController.Shows R lines cart ∧ lines.length = q.cartMeals.length) ∧
        List.Forall₂ (SelectedMeal.ShownBy p.details.screen.detailViewModel.mealList)
          cart.viewModel.cartItems (p.selected.map fun meal => { meal with number := "1" }) := by
  let s := p.details.screen.detailViewModel
  have hprices : (s.amountArray.map SwiftFloat.value).length = s.titleArray.length := by
    rw [List.length_map, h.amounts]
  obtain ⟨cart, hload, hq⟩ := Option.bind_eq_some_iff.mp hq
  obtain ⟨cart', happear, hq⟩ := Option.bind_eq_some_iff.mp hq
  obtain rfl : _ = q := Option.some.inj hq
  obtain ⟨opened, hopened, hshows, -, -⟩ := viewDidLoad_handedOver R hprices h.images
    s.passRestaurantName s.passRestaurantDiscount
  obtain rfl : cart = opened := by
    rw [← h.quantities] at hopened
    exact Option.some.inj (hload.symm.trans hopened)
  rw [CartsViewController.viewDidAppear_eq hshows, Option.some.injEq] at happear
  subst happear
  have htitles := titles_openedLines hprices h.images
  refine ⟨rfl, rfl, cart, rfl, rfl, rfl, ⟨_, hshows, ?_⟩, ?_⟩
  · rw [List.length_range, h.titles.length_eq, ← List.length_map (·.title), htitles]
  · -- Each line has the title of its meal, and the quantity one.
    have htitled : List.Forall₂ (fun title meal => SelectedMeal.Named s.mealList meal title)
        ((openedLines s.titleArray (s.amountArray.map SwiftFloat.value) s.imageArray).map
          (·.title)) p.selected := by
      rw [htitles]
      exact h.titles.flip
    have hone := (List.forall₂_and_left _ _).mpr
      ⟨fun _ hl => quantity_openedLines hl, List.forall₂_map_left_iff.mp htitled⟩
    rw [hshows.viewModel, CartViewModel.ofLines, List.forall₂_map_left_iff,
      List.forall₂_map_right_iff]
    refine hone.imp fun line meal hline => ⟨hline.2, ?_⟩
    show toString line.quantity = "1"
    rw [hline.1]
    rfl

omit [SwiftFloat F] [BEq String] in
/-- **Left quantities.**  A tap in a cart that shows some lines leaves the meal of its row with
    one more or one less, and the other meals with what they had; a row that reaches zero goes. -/
theorem cartTapped_eq {p q : RoundTrip F Image} {cart : CartsViewController Image}
    (hcart : p.cart = some cart) {lines : List (Line Image)}
    (hshows : CartsViewController.Shows R lines cart) {row : ℕ} {plus : Bool}
    (hq : p.cartTapped R row plus = some q) :
    CanTap lines row plus ∧ ∃ l position meal, lines[row]? = some l ∧
      p.cartMeals[row]? = some position ∧ p.selected[position]? = some meal ∧
      q = { p with
        selected := p.selected.set position
          ⟨meal.row, toString (if plus then l.quantity + 1 else l.quantity - 1)⟩
        cart := some (CartsViewController.display R (tapLine lines row plus) cart)
        cartMeals :=
          if plus = false ∧ l.quantity = 1 then p.cartMeals.eraseIdx row else p.cartMeals
        opened := false } := by
  obtain ⟨before, hbefore, hq⟩ := Option.bind_eq_some_iff.mp hq
  obtain rfl : cart = before := Option.some.inj (hcart.symm.trans hbefore)
  obtain ⟨after, hafter, hq⟩ := Option.bind_eq_some_iff.mp hq
  obtain ⟨position, hposition, hq⟩ := Option.bind_eq_some_iff.mp hq
  obtain ⟨meal, hmeal, hq⟩ := Option.bind_eq_some_iff.mp hq
  have hcan := CartsViewController.canTap_of_addBtnTapped hshows.holds hafter
  rw [CartsViewController.addBtnTapped_eq hshows.holds hcan, Option.some.injEq] at hafter
  subst hafter
  obtain ⟨l, hl, hmax⟩ := hcan
  have hrow : row < lines.length := (List.getElem?_eq_some_iff.mp hl).1
  refine ⟨⟨l, hl, hmax⟩, l, position, meal, hl, hposition, hmeal, ?_⟩
  have hitems : (CartsViewController.display R (tapLine lines row plus)
      cart).viewModel.cartItems = (tapLine lines row plus).map (Line.item R) := rfl
  rw [hshows.cartItems_length, hitems, List.length_map, length_tapLine hl plus] at hq
  rcases tapLine_cases hl plus with ⟨hleft, l', htap, hquantity⟩ | ⟨hlast, -⟩
  · -- The row keeps its place, and shows its new number.
    rw [if_neg hleft, if_neg (lt_irrefl _), htap, List.getElem?_map, List.getElem?_set_self hrow,
      Option.map_some, Option.bind_eq_bind, Option.bind_some] at hq
    obtain rfl : _ = q := Option.some.inj hq
    rw [if_neg hleft, htap, ← hquantity]
    rfl
  · -- The last of the meal: its row has gone, and the meal is left with none.
    have hfewer : lines.length - 1 < lines.length := by omega
    rw [if_pos hlast, if_pos hfewer] at hq
    obtain rfl : _ = q := Option.some.inj hq
    obtain ⟨rfl, hone⟩ := hlast
    rw [hone]
    rfl

end

/-! ### Runs -/

/-- The arrays list the selected meals, and an open cart has a line for each position kept with
    it, all of them positions of selected meals. -/
structure Consistent (p : RoundTrip F Image) : Prop where
  lists : ListsSelected p.details.screen.detailViewModel p.selected
  cart : ∀ cart ∈ p.cart, (∃ lines, CartsViewController.Shows R lines cart ∧
    lines.length = p.cartMeals.length) ∧ ∀ position ∈ p.cartMeals, position < p.selected.length

variable {R}

/-- A tap on the menu leaves the cart as it was. -/
theorem detailsTapped_cart {p q : RoundTrip F Image} {tap : RowTap}
    (hq : p.detailsTapped tap = some q) : q.cart = p.cart := by
  obtain ⟨details, -, hq⟩ := Option.bind_eq_some_iff.mp hq
  cases tap with
  | add row =>
    obtain rfl : _ = q := Option.some.inj hq
    rfl
  | remove row =>
    obtain ⟨meal, -, hq⟩ := Option.bind_eq_some_iff.mp hq
    obtain ⟨index, -, hq⟩ := Option.bind_eq_some_iff.mp hq
    obtain rfl : _ = q := Option.some.inj hq
    rfl

/-- What the screens do depends on who is on top: the menu, or the cart. -/
theorem RoundTrip.step_cases {p q : RoundTrip F Image} {event : RoundTripEvent}
    (hq : p.step R event = some q) :
    (∃ tap, event = .details tap ∧ p.cart = none ∧ p.detailsTapped tap = some q) ∨
    (event = .viewCart ∧ p.cart = none ∧ p.viewCart R = some q) ∨
    (∃ row plus, event = .cart row plus ∧ p.cartTapped R row plus = some q) ∨
    (event = .back ∧ q = { p with cart := none, cartMeals := [], opened := false }) := by
  cases event with
  | details tap =>
    rw [step, Option.ite_none_left_eq_some, Option.not_isSome_iff_eq_none] at hq
    exact Or.inl ⟨tap, rfl, hq⟩
  | viewCart =>
    rw [step, Option.ite_none_left_eq_some, Option.not_isSome_iff_eq_none] at hq
    exact Or.inr (Or.inl ⟨rfl, hq⟩)
  | cart row plus => exact Or.inr (Or.inr (Or.inl ⟨row, plus, rfl, hq⟩))
  | back =>
    rw [step, Option.ite_none_right_eq_some, Option.some.injEq] at hq
    exact Or.inr (Or.inr (Or.inr ⟨rfl, hq.2.symm⟩))

theorem Consistent.step [EquivBEq String] {p q : RoundTrip F Image} (h : Consistent R p)
    {event : RoundTripEvent} (hq : p.step R event = some q) : Consistent R q := by
  rcases RoundTrip.step_cases hq with ⟨tap, -, hnone, hq⟩ | ⟨-, -, hq⟩ | ⟨row, plus, -, hq⟩ |
    ⟨-, rfl⟩
  · have hcart : q.cart = none := (detailsTapped_cart hq).trans hnone
    refine ⟨h.lists.detailsTapped hq, ?_⟩
    rw [hcart]
    exact nofun
  · -- The cart that is opened has a row for each selected meal.
    obtain ⟨hdetails, hselected, cart, hcart, -, hmeals, hlines, -⟩ := viewCart_rows h.lists hq
    refine ⟨by rw [hdetails, hselected]; exact h.lists, fun cart' hcart' => ?_⟩
    obtain rfl : cart = cart' := Option.some.inj (hcart.symm.trans hcart')
    refine ⟨hlines, fun position hposition => ?_⟩
    rw [hmeals, List.mem_range] at hposition
    rwa [hselected]
  · -- A tap in it changes a number, or takes a line with its position away.
    obtain ⟨cart, hcart, -⟩ := Option.bind_eq_some_iff.mp hq
    obtain ⟨⟨lines, hshows, hlength⟩, hpositions⟩ := h.cart cart hcart
    obtain ⟨hcan, l, position, meal, hl, -, hmeal, rfl⟩ := cartTapped_eq hcart hshows hq
    have hrow : row < lines.length := (List.getElem?_eq_some_iff.mp hl).1
    refine ⟨h.lists.set hmeal _, ?_⟩
    rintro _ ⟨⟩
    refine ⟨⟨_, .display (hshows.inRange.tapLine hcan), ?_⟩, fun position' hposition' => ?_⟩
    · rw [length_tapLine hl]
      split
      · rw [List.length_eraseIdx_of_lt (hlength ▸ hrow), hlength]
      · exact hlength
    · have hmem : position' ∈
          if plus = false ∧ l.quantity = 1 then p.cartMeals.eraseIdx row else p.cartMeals :=
        hposition'
      rw [List.length_set]
      apply hpositions
      split at hmem
      · exact List.mem_of_mem_eraseIdx hmem
      · exact hmem
  · exact ⟨h.lists, nofun⟩

omit [BEq Image] in
/-- **One opening.**  The cart shows every meal as it was left exactly when every meal was left
    with `"1"`. -/
theorem editsKept_viewCart {p q : RoundTrip F Image}
    (h : ListsSelected p.details.screen.detailViewModel p.selected) (hq : p.viewCart R = some q) :
    EditsKept q ↔ ∀ meal ∈ p.selected, meal.number = "1" := by
  obtain ⟨hdetails, hselected, cart, hcart, hopened, -, -, hrows⟩ := viewCart_rows h hq
  unfold EditsKept
  rw [hopened, hcart, hselected, hdetails]
  constructor
  · intro hkept meal hmeal
    obtain ⟨-, meals, hperm, hshown⟩ := hkept rfl cart rfl
    -- Every row shows `"1"`, also the row of this meal.
    obtain ⟨i, hi⟩ := List.mem_iff_getElem?.mp (hperm.mem_iff.mpr hmeal)
    obtain ⟨item, hitem, -, hnumber⟩ := forall₂_getElem? hshown hi
    obtain ⟨meal', hmeal', -, hone⟩ := forall₂_getElem? hrows.flip hitem
    obtain ⟨_, -, rfl⟩ := List.mem_map.mp (List.mem_of_getElem? hmeal')
    exact hnumber.symm.trans hone
  · rintro hone - _ ⟨⟩
    have hnumbers : p.selected.map (fun meal => { meal with number := "1" }) = p.selected := by
      refine (List.map_congr_left fun meal hmeal => ?_).trans (List.map_id _)
      rw [← hone meal hmeal]
      rfl
    refine ⟨fun meal hmeal => ?_, p.selected, .refl _, hnumbers ▸ hrows⟩
    rw [hone meal hmeal]
    decide

/-- Only an opening can break the law. -/
theorem editsKept_step {p q : RoundTrip F Image} (h : Consistent R p) {event : RoundTripEvent}
    (hq : p.step R event = some q) : EditsKept q ↔ NothingToKeep p event := by
  rcases RoundTrip.step_cases hq with ⟨tap, rfl, hnone, hq⟩ | ⟨rfl, -, hq⟩ | ⟨row, plus, rfl, hq⟩ |
    ⟨rfl, rfl⟩
  · have hcart : q.cart = none := (detailsTapped_cart hq).trans hnone
    refine iff_of_true (fun _ => ?_) trivial
    rw [hcart]
    exact nofun
  · exact editsKept_viewCart h.lists hq
  · -- After a tap the cart is no longer one that was opened just now.
    obtain ⟨cart, hcart, -⟩ := Option.bind_eq_some_iff.mp hq
    obtain ⟨⟨lines, hshows, -⟩, -⟩ := h.cart cart hcart
    obtain ⟨-, l, position, meal, -, -, -, rfl⟩ := cartTapped_eq hcart hshows hq
    exact iff_of_true nofun trivial
  · exact iff_of_true nofun trivial

/-- What is kept about the selected meals never stops a tap on the menu that its handler carries
    out. -/
theorem exists_detailsTapped {p : RoundTrip F Image} {tap : RowTap}
    {details : SelectionState F Image} (hdetails : p.details.step tap = some details) :
    ∃ q, p.detailsTapped tap = some q := by
  unfold RoundTrip.detailsTapped
  rw [hdetails]
  cases tap with
  | add row => exact ⟨_, rfl⟩
  | remove row =>
    obtain ⟨meal, image, screen, hmeal, -, hscreen, -⟩ := SelectionState.of_remove hdetails
    obtain ⟨index, hindex, -⟩ := removeFirst_eq_some_iff.mp (didTapRemoveBtn_columns hscreen).2.1
    simp [hmeal, hindex]

omit [SwiftFloat F] [BEq Image] in
/-- Nor does it stop a tap in the cart. -/
theorem Consistent.exists_cartTapped {p : RoundTrip F Image} (h : Consistent R p)
    {cart t : CartsViewController Image} (hcart : p.cart = some cart) {row : ℕ} {plus : Bool}
    (ht : cart.addBtnTapped R row plus = some t) : ∃ q, p.cartTapped R row plus = some q := by
  obtain ⟨⟨lines, hshows, hlength⟩, hpositions⟩ := h.cart cart hcart
  obtain ⟨l, hl, -⟩ := CartsViewController.canTap_of_addBtnTapped hshows.holds ht
  have hrow : row < p.cartMeals.length := hlength ▸ (List.getElem?_eq_some_iff.mp hl).1
  -- The row that is tapped has a position, and the position a selected meal.
  have hposition := List.getElem?_eq_getElem hrow
  have hmeal := List.getElem?_eq_getElem (hpositions _ (List.getElem_mem hrow))
  unfold RoundTrip.cartTapped
  simp only [hcart, ht, hposition, hmeal, Option.bind_eq_bind, Option.bind_some]
  split
  · exact ⟨_, rfl⟩
  · -- No row has gone, so the tapped row is still displayed.
    rename_i hfewer
    have hitems := hshows.cartItems_length
    have hitem : row < t.viewModel.cartItems.length := by omega
    simp [List.getElem?_eq_getElem hitem]

variable (R)

/-- The two screens on a menu, with nothing selected. -/
def RoundTrip.opening (F : Type) [SwiftFloat F] (menu : List (MealsModel Image))
    (passRestaurantName passRestaurantDiscount : String) : RoundTrip F Image :=
  { details := .opened F menu passRestaurantName passRestaurantDiscount }

/-- **Cart edits.**  On every menu, a cart that is opened shows every selected meal with the
    number it was last left with, and none that was taken out, throughout a run, exactly when
    every time the cart is opened each selected meal was last left with `"1"`. -/
theorem edits_kept_iff [EquivBEq String] (menu : List (MealsModel Image))
    (passRestaurantName passRestaurantDiscount : String) (events : List RoundTripEvent) :
    Always (RoundTrip.step R) EditsKept
        (.opening F menu passRestaurantName passRestaurantDiscount) events ↔
      Guarded (RoundTrip.step R) NothingToKeep
        (.opening F menu passRestaurantName passRestaurantDiscount) events := by
  have hstart : Consistent R
      (RoundTrip.opening F menu passRestaurantName passRestaurantDiscount) :=
    ⟨⟨.nil, rfl, rfl, rfl⟩, nofun⟩
  apply always_iff_guarded_of_invariant ?_ ?_ hstart nofun
  · exact fun p event q hp hq => hp.step hq
  · exact fun p event q hp _ hq => editsKept_step hp hq

end

/-- A meal that goes to the cart and comes back as it was. -/
theorem edits_kept_iff_back :
    let events : List RoundTripEvent :=
      [.details (.add 0), .viewCart, .cart 0 true, .cart 0 false, .back, .viewCart]
    Always (RoundTrip.step .halfEven) EditsKept (.opening ℚ threeMeals "Mr Biggs" "10") events ↔
      Guarded (RoundTrip.step .halfEven) NothingToKeep (.opening ℚ threeMeals "Mr Biggs" "10")
        events :=
  edits_kept_iff .halfEven threeMeals "Mr Biggs" "10" _

/-- A meal is taken twice in the cart, and is there once when the cart is opened again. -/
theorem cart_edit_lost : ¬∀ events : List RoundTripEvent,
    Always (RoundTrip.step .halfEven) EditsKept (.opening ℚ threeMeals "Mr Biggs" "10")
      events := by
  intro h
  have hvalues : (run (RoundTrip.step .halfEven) (.opening ℚ threeMeals "Mr Biggs" "10")
      [.details (.add 0), .viewCart, .cart 0 true, .back, .viewCart]).map (fun p =>
        (p.opened, p.cart.map fun cart => cart.viewModel.cartItems.map (·.itemNumber),
          p.selected)) = some (true, some ["1"], [⟨0, "2"⟩]) := by
    decide +kernel
  obtain ⟨p, hp, hp'⟩ := Option.map_eq_some_iff.mp hvalues
  obtain ⟨hopened, hp'⟩ := Prod.mk.inj hp'
  obtain ⟨hcart, hselected⟩ := Prod.mk.inj hp'
  obtain ⟨cart, hcart, hnumbers⟩ := Option.map_eq_some_iff.mp hcart
  obtain ⟨-, meals, hperm, hshown⟩ := (h _).last hp hopened cart hcart
  rw [hselected, List.perm_singleton] at hperm
  subst hperm
  obtain ⟨item, hitem, -, hnumber⟩ := forall₂_getElem? hshown (i := 0) rfl
  have hfirst := congrArg (·[0]?) hnumbers
  simp only [List.getElem?_map, hitem, Option.map_some, hnumber] at hfirst
  exact absurd hfirst (by decide)

end Foodly
