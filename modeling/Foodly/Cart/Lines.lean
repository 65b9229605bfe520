import Foodly.Cart.Controller
import Mathlib.Algebra.BigOperators.Group.List.Basic
import Mathlib.Algebra.Order.BigOperators.Group.List

namespace Foodly

open Swift Decimal

/-!
# The cart as a list of lines

A line is one meal with its quantity.  `Shows R lines s` says that the controller `s` keeps
its four arrays, its displayed rows and its labels in step with `lines`; the controller is
then a function of the lines and of the discount in force (`display`).

The operations on lines are those of a user, and know nothing of texts or labels:

* `Line`, `tapLine` — one more and one less of a meal, whose line goes with the last of it;
* `amount`, `total`, `taxOn` — what is displayed of some lines, with the rounding of the labels;
* `InRange`, `CanTap` — the quantities are values of `Int`, and stay so.

Each handler has one equation here that says what it does to a controller that shows some lines,
and when it traps:

* `addBtnTapped_eq`, `canTap_of_addBtnTapped` — a tap that does not trap, and that there are no
  others;
* `reloadCartWithDiscount_eq`, `viewDidAppear_eq` — a promo, and the screen shown again;
* `CartsViewController.Shows.step` — every action but a deletion, for results on runs;
* `viewDidLoad_handedOver` — the cart that is opened, with one line for each meal.

`Holds` is the part of `Shows` that a swiped row does not break.
-/

/-! ### Lines -/

/-- A line of the cart. -/
structure Line (Image : Type) where
  title : String
  unitPrice : ℚ
  image : Image
  quantity : ℕ
  positive : 1 ≤ quantity

variable {Image : Type} (R : Nearest)

namespace Line

/-- The amount on a row: unit price times quantity, to two decimals. -/
def amount (l : Line Image) : ℚ := cents R (l.unitPrice * l.quantity)

/-- The row displayed for a line. -/
def item (l : Line Image) : CartModel Image where
  itemName := l.title
  itemPrice := l.amount R
  itemImage := l.image
  itemNumber := toString l.quantity

/-- One more. -/
def more (l : Line Image) : Line Image :=
  { l with quantity := l.quantity + 1, positive := Nat.le_add_left 1 _ }

/-- One less, `none` when that leaves nothing. -/
def less (l : Line Image) : Option (Line Image) :=
  if h : 1 ≤ l.quantity - 1 then some { l with quantity := l.quantity - 1, positive := h } else none

end Line

/-- The lines after a tap on a row: plus adds one, minus takes one away and removes the line
    that reaches zero. -/
def tapLine (lines : List (Line Image)) (row : ℕ) (plus : Bool) : List (Line Image) :=
  match lines[row]? with
  | none => lines
  | some l =>
    if plus then lines.set row l.more
    else match l.less with
      | some l' => lines.set row l'
      | none => lines.eraseIdx row

/-- The quantities are values of the `Int` that the controller computes with. -/
def InRange (lines : List (Line Image)) : Prop := ∀ l ∈ lines, (l.quantity : ℤ) ≤ maxInt

/-- The row exists, and the tap does not overflow its quantity. -/
def CanTap (lines : List (Line Image)) (row : ℕ) (plus : Bool) : Prop :=
  ∃ l, lines[row]? = some l ∧ (plus = true → (l.quantity : ℤ) < maxInt)

/-- The items total. -/
def total (lines : List (Line Image)) : ℚ := (lines.map (Line.amount R)).sum

/-- The tax on an items total. -/
def taxOn (amount : ℚ) : ℚ := cents R (1 / 20 * amount)

/-! ### What the screen shows -/

/-- The view model of some lines. -/
def CartViewModel.ofLines (lines : List (Line Image)) : CartViewModel Image where
  cartItems := lines.map (Line.item R)
  cartTitles := lines.map (·.title)
  cartPrice := lines.map (·.unitPrice)
  cartImage := lines.map (·.image)
  cartNumber := lines.map fun l => toString l.quantity

namespace CartsViewController

/-- The controller that shows `lines` under the discount in force in `s`. -/
def display (lines : List (Line Image)) (s : CartsViewController Image) :
    CartsViewController Image :=
  { s with
    viewModel := .ofLines R lines
    initialAmt := []
    itemsTotal := "$" ++ format2f R (total R lines)
    finalAmt := "$" ++ format2f R (total R lines - s.totalDiscount + taxOn R (total R lines))
    discountAmt := "$" ++ format2f R s.totalDiscount
    taxAmt := "$" ++ description (taxOn R (total R lines)) }

/-- The four arrays hold the lines, whichever rows are displayed, and the quantities are in
    range. -/
structure Holds (lines : List (Line Image)) (s : CartsViewController Image) : Prop where
  viewModel :
    s.viewModel = { CartViewModel.ofLines R lines with cartItems := s.viewModel.cartItems }
  initialAmt : s.initialAmt = []
  inRange : InRange lines

/-- The controller shows the lines, and their quantities are in range. -/
structure Shows (lines : List (Line Image)) (s : CartsViewController Image) : Prop where
  eq_display : s = display R lines s
  inRange : InRange lines

end CartsViewController

/-! ### Building the rows -/

/-- Replacing an element by one with the same field leaves the list of that field. -/
theorem map_set_of_eq {α β : Type} {f : α → β} {l : List α} {i : ℕ} {a a' : α}
    (ha : l[i]? = some a) (hf : f a' = f a) : (l.set i a').map f = l.map f := by
  obtain ⟨hi, rfl⟩ := List.getElem?_eq_some_iff.mp ha
  rw [List.map_set, hf, ← List.getElem_map f (h := by simpa using hi), List.set_getElem_self]

/-- The row built at an index is the row of the line there. -/
theorem CartViewModel.itemAtRow_ofLines (lines : List (Line Image)) (items : List (CartModel Image))
    (row : ℕ) :
    { CartViewModel.ofLines R lines with cartItems := items }.itemAtRow R row
      = (lines.map (Line.item R))[row]? := by
  simp only [itemAtRow, ofLines, List.getElem?_map]
  cases lines[row]? with
  | none => rfl
  | some l =>
    simp only [Option.map_some, Option.bind_eq_bind, Option.bind_some, parseFloat_toString,
      parseFloat_format2f]
    rfl

/-- **Rows.**  `totalItems` appends one row for each line, in order. -/
theorem CartViewModel.totalItems_ofLines (lines : List (Line Image))
    (items : List (CartModel Image)) :
    { CartViewModel.ofLines R lines with cartItems := items }.totalItems R
      = some { CartViewModel.ofLines R lines with
          cartItems := items ++ lines.map (Line.item R) } := by
  have hlen : (CartViewModel.ofLines R lines).cartPrice.length
      = (lines.map (Line.item R)).length := by
    simp [ofLines]
  have hrow : { CartViewModel.ofLines R lines with cartItems := items }.itemAtRow R
      = fun row => (lines.map (Line.item R))[row]? :=
    funext fun row => itemAtRow_ofLines R lines items row
  rw [totalItems, hrow]
  simp only [hlen, Parallel.mapM_getElem?]
  rfl

/-- On a cleared list, `totalItems` gives the view model of the lines. -/
theorem CartViewModel.totalItems_cleared (lines : List (Line Image)) :
    { CartViewModel.ofLines R lines with cartItems := [] }.totalItems R
      = some (CartViewModel.ofLines R lines) := totalItems_ofLines R lines []

/-! ### Totals -/

theorem sum_itemPrice (lines : List (Line Image)) :
    ((lines.map (Line.item R)).map (·.itemPrice)).sum = total R lines := by
  rw [total, List.map_map]
  rfl

namespace CartsViewController

/-- `totalAmount` on rows that are the rows of some lines. -/
theorem totalAmount_ofLines (lines : List (Line Image)) {s : CartsViewController Image}
    (hvm : s.viewModel = .ofLines R lines) (hamt : s.initialAmt = []) :
    s.totalAmount R = some (display R lines s) := by
  rw [totalAmount, showAmounts, parseFloat_format2f, hvm, hamt, List.nil_append]
  simp only [CartViewModel.ofLines, sum_itemPrice, Option.bind_eq_bind, Option.bind_some]
  rfl

/-- `totalAmountWithDiscount` puts the discount on the current items total in force. -/
theorem totalAmountWithDiscount_ofLines (lines : List (Line Image))
    {s : CartsViewController Image} (hvm : s.viewModel = .ofLines R lines)
    (hamt : s.initialAmt = []) :
    s.totalAmountWithDiscount R = some (display R lines { s with
      discount := (parseFloat s.restDiscountValue).getD 0 / 100
      totalDiscount := (parseFloat s.restDiscountValue).getD 0 / 100 * total R lines }) := by
  rw [totalAmountWithDiscount, showAmounts, parseFloat_format2f]
  simp only [hvm, hamt, List.nil_append, CartViewModel.ofLines, sum_itemPrice,
    Option.bind_eq_bind, Option.bind_some]
  rfl

/-- What is displayed depends on the lines and not on the rows that were there. -/
@[simp] theorem display_withViewModel (lines : List (Line Image)) (s : CartsViewController Image)
    (viewModel : CartViewModel Image) :
    display R lines { s with viewModel } = display R lines s := rfl

/-- **Reloading.**  Whatever rows were displayed, `reloadCart` shows the lines that the four
    arrays hold. -/
theorem reloadCart_ofLines (lines : List (Line Image)) (items : List (CartModel Image))
    {s : CartsViewController Image}
    (hvm : s.viewModel = { CartViewModel.ofLines R lines with cartItems := items })
    (hamt : s.initialAmt = []) : s.reloadCart R = some (display R lines s) := by
  have htotal := totalAmount_ofLines R lines
    (s := { s with viewModel := .ofLines R lines }) rfl hamt
  rw [display_withViewModel] at htotal
  rw [reloadCart, rebuildItems, hvm]
  simp only [Option.bind_eq_bind, CartViewModel.totalItems_cleared, Option.bind_some,
    Option.pure_def]
  exact htotal

/-- `Accept` shows the lines under the discount on their current items total. -/
theorem reloadCartWithDiscount_ofLines (lines : List (Line Image))
    (items : List (CartModel Image)) {s : CartsViewController Image}
    (hvm : s.viewModel = { CartViewModel.ofLines R lines with cartItems := items })
    (hamt : s.initialAmt = []) :
    s.reloadCartWithDiscount R = some (display R lines { s with
      discount := (parseFloat s.restDiscountValue).getD 0 / 100
      totalDiscount := (parseFloat s.restDiscountValue).getD 0 / 100 * total R lines }) := by
  have htotal := totalAmountWithDiscount_ofLines R lines
    (s := { s with viewModel := .ofLines R lines }) rfl hamt
  rw [reloadCartWithDiscount, rebuildItems, hvm]
  simp only [Option.bind_eq_bind, CartViewModel.totalItems_cleared, Option.bind_some,
    Option.pure_def]
  exact htotal

/-! ### The branches of a tap -/

section
variable {R} {s : CartsViewController Image} {row : ℕ} {number : String} {quantity after : ℤ}

/-- The controller with another text in `cartNumber`. -/
def withNumber (s : CartsViewController Image) (row : ℕ) (number : String) :
    CartsViewController Image :=
  { s with viewModel := { s.viewModel with cartNumber := s.viewModel.cartNumber.set row number } }

theorem addBtnTapped_plus_eq (hnumber : s.viewModel.cartNumber[row]? = some number)
    (hparse : parseInt number = some quantity) (hadd : addInt quantity 1 = some after) :
    s.addBtnTapped R row true = reloadCart R (s.withNumber row (toString after)) := by
  simp only [addBtnTapped, hnumber, hparse, hadd, Option.bind_eq_bind, Option.bind_some, if_true,
    withNumber]

theorem addBtnTapped_plus_none (hnumber : s.viewModel.cartNumber[row]? = some number)
    (hparse : parseInt number = some quantity) (hadd : addInt quantity 1 = none) :
    s.addBtnTapped R row true = none := by
  simp only [addBtnTapped, hnumber, hparse, hadd, Option.bind_eq_bind, Option.bind_some,
    Option.bind_none, if_true]

/-- A minus tap that leaves at least one. -/
theorem addBtnTapped_minus_eq (hnumber : s.viewModel.cartNumber[row]? = some number)
    (hparse : parseInt number = some quantity) (hadd : addInt quantity (-1) = some after)
    (hparse' : parseInt (toString after) = some after) (hpos : 1 ≤ after) :
    s.addBtnTapped R row false = reloadCart R (s.withNumber row (toString after)) := by
  have hrow : row < s.viewModel.cartNumber.length := (List.getElem?_eq_some_iff.mp hnumber).1
  simp only [addBtnTapped, hnumber, hparse, hadd, Option.bind_eq_bind, Option.bind_some,
    Bool.false_eq_true, if_false, List.getElem?_set_self hrow, hparse', ge_iff_le, if_pos hpos,
    withNumber]

/-- A minus tap that leaves none removes the row from the four arrays. -/
theorem addBtnTapped_last_eq (hnumber : s.viewModel.cartNumber[row]? = some number)
    (hparse : parseInt number = some quantity) (hadd : addInt quantity (-1) = some 0)
    (hparse' : parseInt (toString (0 : ℤ)) = some 0)
    (hprice : row < s.viewModel.cartPrice.length)
    (htitle : row < s.viewModel.cartTitles.length) (himage : row < s.viewModel.cartImage.length) :
    s.addBtnTapped R row false = reloadCart R { s with viewModel := { s.viewModel with
      cartPrice := s.viewModel.cartPrice.eraseIdx row
      cartNumber := s.viewModel.cartNumber.eraseIdx row
      cartTitles := s.viewModel.cartTitles.eraseIdx row
      cartImage := s.viewModel.cartImage.eraseIdx row } } := by
  have hrow : row < s.viewModel.cartNumber.length := (List.getElem?_eq_some_iff.mp hnumber).1
  have hone : ¬(1 : ℤ) ≤ 0 := by decide
  have hlen : row < (s.viewModel.cartNumber.set row (toString (0 : ℤ))).length := by
    rwa [List.length_set]
  simp only [addBtnTapped, hnumber, hparse, hadd, Option.bind_eq_bind, Option.bind_some,
    Bool.false_eq_true, if_false, List.getElem?_set_self hrow, hparse', ge_iff_le, if_neg hone,
    if_true, Parallel.removeAt_of_lt hprice, Parallel.removeAt_of_lt hlen,
    Parallel.removeAt_of_lt htitle, Parallel.removeAt_of_lt himage, List.eraseIdx_set_eq]

end

/-! ### Handlers on a screen that holds or shows some lines -/

variable {R}

theorem Shows.display {lines : List (Line Image)} {s : CartsViewController Image}
    (h : InRange lines) : Shows R lines (display R lines s) := ⟨rfl, h⟩

theorem Shows.viewModel {lines : List (Line Image)} {s : CartsViewController Image}
    (h : Shows R lines s) : s.viewModel = .ofLines R lines := congrArg (·.viewModel) h.eq_display

theorem Shows.initialAmt {lines : List (Line Image)} {s : CartsViewController Image}
    (h : Shows R lines s) : s.initialAmt = [] := congrArg (·.initialAmt) h.eq_display

theorem Shows.holds {lines : List (Line Image)} {s : CartsViewController Image}
    (h : Shows R lines s) : Holds R lines s where
  viewModel := by rw [h.viewModel]
  initialAmt := h.initialAmt
  inRange := h.inRange

/-- One row is displayed for each line. -/
theorem Shows.cartItems_length {lines : List (Line Image)} {s : CartsViewController Image}
    (h : Shows R lines s) : s.viewModel.cartItems.length = lines.length := by
  rw [h.viewModel, CartViewModel.ofLines, List.length_map]

/-- The arrays have one entry for each line. -/
theorem Holds.cartNumber_length {lines : List (Line Image)} {s : CartsViewController Image}
    (h : Holds R lines s) : s.viewModel.cartNumber.length = lines.length := by
  rw [h.viewModel, CartViewModel.ofLines, List.length_map]

theorem Holds.number {lines : List (Line Image)} {s : CartsViewController Image}
    (h : Holds R lines s) {row : ℕ} {l : Line Image} (hl : lines[row]? = some l) :
    s.viewModel.cartNumber[row]? = some (toString l.quantity) := by
  rw [h.viewModel]
  simp [CartViewModel.ofLines, hl]

theorem Holds.parseInt_number {lines : List (Line Image)} {s : CartsViewController Image}
    (h : Holds R lines s) {row : ℕ} {l : Line Image} (hl : lines[row]? = some l) :
    parseInt (toString l.quantity) = some (l.quantity : ℤ) :=
  parseInt_toString (h.inRange l (List.mem_of_getElem? hl))

/-- A number text that changes with its line leaves the other columns alone. -/
theorem ofLines_set {lines : List (Line Image)} {row : ℕ} {l l' : Line Image}
    (hl : lines[row]? = some l)
    (hsame : l'.title = l.title ∧ l'.unitPrice = l.unitPrice ∧ l'.image = l.image)
    (cartItems : List (CartModel Image)) :
    { CartViewModel.ofLines R lines with
        cartItems
        cartNumber := (CartViewModel.ofLines R lines).cartNumber.set row (toString l'.quantity) }
      = { CartViewModel.ofLines R (lines.set row l') with cartItems } := by
  obtain ⟨htitle, hprice, himage⟩ := hsame
  simp only [CartViewModel.ofLines, map_set_of_eq hl htitle, map_set_of_eq hl hprice,
    map_set_of_eq hl himage, List.map_set]

/-- Reloading after the quantity text of one line has changed. -/
theorem reloadCart_withNumber {lines : List (Line Image)} {s : CartsViewController Image}
    (h : Holds R lines s) {row : ℕ} {l : Line Image} (hl : lines[row]? = some l) (l' : Line Image)
    (hsame : l'.title = l.title ∧ l'.unitPrice = l.unitPrice ∧ l'.image = l.image) :
    reloadCart R (s.withNumber row (toString l'.quantity))
      = some (CartsViewController.display R (lines.set row l') s) := by
  have hreload := reloadCart_ofLines R (lines.set row l') s.viewModel.cartItems
    (s := s.withNumber row (toString l'.quantity))
    (by rw [withNumber, h.viewModel]; exact ofLines_set hl hsame _) h.initialAmt
  rwa [withNumber, display_withViewModel] at hreload

/-- Reloading after one row has gone from the four arrays. -/
theorem reloadCart_eraseIdx {lines : List (Line Image)} {s : CartsViewController Image}
    (h : Holds R lines s) (row : ℕ) :
    reloadCart R { s with viewModel := { s.viewModel with
        cartPrice := s.viewModel.cartPrice.eraseIdx row
        cartNumber := s.viewModel.cartNumber.eraseIdx row
        cartTitles := s.viewModel.cartTitles.eraseIdx row
        cartImage := s.viewModel.cartImage.eraseIdx row } }
      = some (CartsViewController.display R (lines.eraseIdx row) s) := by
  have hreload := reloadCart_ofLines R (lines.eraseIdx row) s.viewModel.cartItems
    (s := { s with viewModel := { s.viewModel with
      cartPrice := s.viewModel.cartPrice.eraseIdx row
      cartNumber := s.viewModel.cartNumber.eraseIdx row
      cartTitles := s.viewModel.cartTitles.eraseIdx row
      cartImage := s.viewModel.cartImage.eraseIdx row } })
    (by rw [h.viewModel]; simp only [CartViewModel.ofLines, List.eraseIdx_map]) h.initialAmt
  rwa [display_withViewModel] at hreload

/-- **Tap.**  On a row that exists, a tap within the range of `Int` shows the tapped lines. -/
theorem addBtnTapped_eq {lines : List (Line Image)} {s : CartsViewController Image}
    (h : Holds R lines s) {row : ℕ} {plus : Bool} (hcan : CanTap lines row plus) :
    s.addBtnTapped R row plus
      = some (CartsViewController.display R (tapLine lines row plus) s) := by
  obtain ⟨l, hl, hmax⟩ := hcan
  have hnumber := h.number hl
  have hparse := h.parseInt_number hl
  have hrange : (l.quantity : ℤ) ≤ maxInt := h.inRange l (List.mem_of_getElem? hl)
  cases plus with
  | true =>
    rw [addBtnTapped_plus_eq hnumber hparse (addInt_one (hmax rfl)), toString_natCast]
    rw [tapLine, hl]
    exact reloadCart_withNumber h hl l.more ⟨rfl, rfl, rfl⟩
  | false =>
    have hadd := addInt_neg_one l.positive hrange
    have hparse' : parseInt (toString (l.quantity - 1)) = some ((l.quantity - 1 : ℕ) : ℤ) :=
      parseInt_toString (by omega)
    -- Either some of the meal is left, or its row goes from all four arrays.
    by_cases hleft : 1 ≤ l.quantity - 1
    · rw [addBtnTapped_minus_eq hnumber hparse hadd hparse' (by exact_mod_cast hleft)]
      simp only [tapLine, hl, Line.less, dif_pos hleft, Bool.false_eq_true, if_false]
      exact reloadCart_withNumber h hl { l with quantity := l.quantity - 1, positive := hleft }
        ⟨rfl, rfl, rfl⟩
    · have hzero : l.quantity - 1 = 0 := by omega
      rw [hzero] at hadd hparse'
      have hrow : row < lines.length := (List.getElem?_eq_some_iff.mp hl).1
      have hlen : row < s.viewModel.cartPrice.length ∧ row < s.viewModel.cartTitles.length ∧
          row < s.viewModel.cartImage.length := by
        rw [h.viewModel]
        simp [CartViewModel.ofLines, hrow]
      rw [addBtnTapped_last_eq hnumber hparse hadd hparse' hlen.1 hlen.2.1 hlen.2.2]
      simp only [tapLine, hl, Line.less, dif_neg hleft, Bool.false_eq_true, if_false]
      exact reloadCart_eraseIdx h row

/-- A tap that does not trap is on a row that exists, within the range of `Int`. -/
theorem canTap_of_addBtnTapped {lines : List (Line Image)} {s t : CartsViewController Image}
    (h : Holds R lines s) {row : ℕ} {plus : Bool} (ht : s.addBtnTapped R row plus = some t) :
    CanTap lines row plus := by
  cases hl : lines[row]? with
  | none =>
    -- There is no such row, and the index is out of range.
    have hnone : s.viewModel.cartNumber[row]? = none := by
      rw [h.viewModel]
      simp only [CartViewModel.ofLines, List.getElem?_map, hl, Option.map_none]
    rw [addBtnTapped, hnone] at ht
    cases ht
  | some l =>
    refine ⟨l, hl, fun hplus => ?_⟩
    -- A plus at `Int.max` would overflow.
    by_contra hmax
    have hadd := addInt_one_of_ge (k := l.quantity) (not_lt.mp hmax)
    subst hplus
    rw [addBtnTapped_plus_none (h.number hl) (h.parseInt_number hl) hadd] at ht
    cases ht

/-- The promo puts the discount on the lines' total in force. -/
theorem reloadCartWithDiscount_eq {lines : List (Line Image)} {s : CartsViewController Image}
    (h : Holds R lines s) :
    s.reloadCartWithDiscount R = some (CartsViewController.display R lines { s with
      discount := (parseFloat s.restDiscountValue).getD 0 / 100
      totalDiscount := (parseFloat s.restDiscountValue).getD 0 / 100 * total R lines }) :=
  reloadCartWithDiscount_ofLines R lines s.viewModel.cartItems h.viewModel h.initialAmt

/-- Showing the screen again changes nothing. -/
theorem viewDidAppear_eq {lines : List (Line Image)} {s : CartsViewController Image}
    (h : Shows R lines s) : s.viewDidAppear R = some s := by
  rw [viewDidAppear, totalAmount_ofLines R lines h.viewModel h.initialAmt, ← h.eq_display]

end CartsViewController

/-! ### The lines left by an action -/

/-- A line after a tap was there before, or is the tapped line with its new quantity. -/
theorem mem_tapLine {lines : List (Line Image)} {row : ℕ} {plus : Bool} {l' : Line Image}
    (h : l' ∈ tapLine lines row plus) :
    l' ∈ lines ∨ ∃ l, lines[row]? = some l ∧
      (plus = true ∧ l' = l.more ∨ plus = false ∧ l.less = some l') := by
  cases hl : lines[row]? with
  | none =>
    simp only [tapLine, hl] at h
    exact Or.inl h
  | some l =>
    simp only [tapLine, hl] at h
    cases plus with
    | true =>
      rw [if_pos rfl] at h
      rcases List.mem_or_eq_of_mem_set h with h | rfl
      · exact Or.inl h
      · exact Or.inr ⟨l, rfl, Or.inl ⟨rfl, rfl⟩⟩
    | false =>
      rw [if_neg Bool.false_ne_true] at h
      -- The last of a meal takes its line away, and then every line was there before.
      cases hless : l.less with
      | none =>
        rw [hless] at h
        exact Or.inl (List.mem_of_mem_eraseIdx h)
      | some l'' =>
        rw [hless] at h
        rcases List.mem_or_eq_of_mem_set h with h | rfl
        · exact Or.inl h
        · exact Or.inr ⟨l, rfl, Or.inr ⟨rfl, hless⟩⟩

/-- One less is the same meal, and its quantity is one less. -/
theorem Line.of_less {l l' : Line Image} (h : l.less = some l') :
    (l'.title = l.title ∧ l'.unitPrice = l.unitPrice ∧ l'.image = l.image) ∧
      l'.quantity = l.quantity - 1 := by
  simp only [less, Option.dite_none_right_eq_some, Option.some.injEq] at h
  obtain ⟨-, rfl⟩ := h
  exact ⟨⟨rfl, rfl, rfl⟩, rfl⟩

/-- Only a single meal has none less. -/
theorem Line.quantity_of_less_eq_none {l : Line Image} (h : l.less = none) : l.quantity = 1 := by
  have hpos := l.positive
  by_contra hne
  rw [less, dif_pos (by omega)] at h
  cases h

/-- A tap puts a line with one more or one less in the place of the tapped one; only a minus on
    the last of a meal takes its line away. -/
theorem tapLine_cases {lines : List (Line Image)} {row : ℕ} {l : Line Image}
    (hl : lines[row]? = some l) (plus : Bool) :
    (¬(plus = false ∧ l.quantity = 1) ∧ ∃ l', tapLine lines row plus = lines.set row l' ∧
      l'.quantity = if plus then l.quantity + 1 else l.quantity - 1) ∨
    ((plus = false ∧ l.quantity = 1) ∧ tapLine lines row plus = lines.eraseIdx row) := by
  rw [tapLine, hl]
  cases plus with
  | true => exact Or.inl ⟨by simp, l.more, rfl, rfl⟩
  | false =>
    -- A minus leaves one less, or there was only one.
    cases hless : l.less with
    | none => exact Or.inr ⟨⟨rfl, Line.quantity_of_less_eq_none hless⟩, by simp [hless]⟩
    | some l' =>
      have hquantity := (Line.of_less hless).2
      have hpositive := l'.positive
      exact Or.inl ⟨by omega, l', by simp [hless], hquantity⟩

theorem length_tapLine {lines : List (Line Image)} {row : ℕ} {l : Line Image}
    (hl : lines[row]? = some l) (plus : Bool) : (tapLine lines row plus).length
      = if plus = false ∧ l.quantity = 1 then lines.length - 1 else lines.length := by
  rcases tapLine_cases hl plus with ⟨hleft, l', htap, -⟩ | ⟨hlast, htap⟩
  · rw [htap, List.length_set, if_neg hleft]
  · rw [htap, if_pos hlast, List.length_eraseIdx_of_lt (List.getElem?_eq_some_iff.mp hl).1]

/-- A tap keeps the meals of the lines: it changes quantities only. -/
theorem exists_of_mem_tapLine {lines : List (Line Image)} {row : ℕ} {plus : Bool}
    {l' : Line Image} (h : l' ∈ tapLine lines row plus) :
    ∃ l ∈ lines, l'.title = l.title ∧ l'.unitPrice = l.unitPrice ∧ l'.image = l.image := by
  rcases mem_tapLine h with h | ⟨l, hl, ⟨-, rfl⟩ | ⟨-, hless⟩⟩
  · exact ⟨l', h, rfl, rfl, rfl⟩
  · exact ⟨l, List.mem_of_getElem? hl, rfl, rfl, rfl⟩
  · exact ⟨l, List.mem_of_getElem? hl, (Line.of_less hless).1⟩

theorem InRange.tapLine {lines : List (Line Image)} (h : InRange lines) {row : ℕ} {plus : Bool}
    (hcan : CanTap lines row plus) : InRange (tapLine lines row plus) := by
  intro l' hl'
  obtain ⟨m, hm, hmax⟩ := hcan
  rcases mem_tapLine hl' with hl' | ⟨l, hl, ⟨hplus, rfl⟩ | ⟨-, hless⟩⟩
  · exact h l' hl'
  · -- A plus stays in range since the tap does not overflow, a minus since it was in range before.
    obtain rfl : m = l := Option.some.inj (hm.symm.trans hl)
    have hlt := hmax hplus
    simp only [Line.more]
    omega
  · have hrange := h l (List.mem_of_getElem? hl)
    have hquantity := (Line.of_less hless).2
    omega

/-- The lines that are left after an action: a deletion takes its row out for good. -/
def remaining (lines : List (Line Image)) : CartAction → List (Line Image)
  | .tap row plus => tapLine lines row plus
  | .delete row => lines.eraseIdx row
  | .acceptPromo | .viewDidAppear => lines

/-- Every action but a deletion leaves the screen showing the lines that are left. -/
theorem CartsViewController.Shows.step {R : Nearest} {lines : List (Line Image)}
    {s t : CartsViewController Image} (h : Shows R lines s) {a : CartAction}
    (ha : ∀ row, a ≠ .delete row) (ht : s.step R a = some t) : Shows R (remaining lines a) t := by
  -- One equation for each handler; a deletion is excluded.
  cases a with
  | tap row plus =>
    have hcan := canTap_of_addBtnTapped h.holds ht
    rw [CartsViewController.step, addBtnTapped_eq h.holds hcan, Option.some.injEq] at ht
    exact ht ▸ Shows.display (h.inRange.tapLine hcan)
  | acceptPromo =>
    rw [CartsViewController.step, reloadCartWithDiscount_eq h.holds, Option.some.injEq] at ht
    exact ht ▸ Shows.display h.inRange
  | viewDidAppear =>
    rw [CartsViewController.step, viewDidAppear_eq h, Option.some.injEq] at ht
    exact ht ▸ h
  | delete row => exact absurd rfl (ha row)

/-! ### Opening the cart -/

/-- The lines of three arrays, one of each meal. -/
def openedLines (titles : List String) (prices : List ℚ) (images : List Image) :
    List (Line Image) :=
  (titles.zip (prices.zip images)).map fun (title, unitPrice, image) =>
    { title, unitPrice, image, quantity := 1, positive := le_refl 1 }

theorem titles_openedLines {titles : List String} {prices : List ℚ} {images : List Image}
    (hp : prices.length = titles.length) (hi : images.length = titles.length) :
    (openedLines titles prices images).map (·.title) = titles := by
  rw [openedLines, List.map_map]
  apply List.map_fst_zip
  rw [List.length_zip, hp, hi, Nat.min_self]

theorem quantity_openedLines {titles : List String} {prices : List ℚ} {images : List Image}
    {l : Line Image} (hl : l ∈ openedLines titles prices images) : l.quantity = 1 := by
  obtain ⟨⟨title, price, image⟩, -, rfl⟩ := List.mem_map.mp hl
  rfl

theorem unitPrices_openedLines {titles : List String} {prices : List ℚ} {images : List Image}
    (hp : prices.length = titles.length) (hi : images.length = titles.length) :
    (openedLines titles prices images).map (·.unitPrice) = prices := by
  have hzip : (prices.zip images).length = titles.length := by
    rw [List.length_zip, hp, hi, Nat.min_self]
  rw [openedLines, List.map_map]
  exact (List.map_map (f := Prod.snd) (g := Prod.fst)).symm.trans
    (by rw [List.map_snd_zip hzip.le, List.map_fst_zip (hp.trans hi.symm).le])

/-- Four arrays of one length, with every quantity `"1"`, are the arrays of the opened lines. -/
theorem ofLines_openedLines {titles : List String} {prices : List ℚ} {images : List Image}
    (hp : prices.length = titles.length) (hi : images.length = titles.length) :
    CartViewModel.ofLines R (openedLines titles prices images)
      = { cartItems := (openedLines titles prices images).map (Line.item R), cartTitles := titles,
          cartPrice := prices, cartImage := images,
          cartNumber := List.replicate titles.length "1" } := by
  have hzip : (prices.zip images).length = titles.length := by
    rw [List.length_zip, hp, hi, Nat.min_self]
  have htitle := titles_openedLines hp hi
  have hprice := unitPrices_openedLines hp hi
  have himage : (openedLines titles prices images).map (·.image) = images := by
    rw [openedLines, List.map_map]
    exact (List.map_map (f := Prod.snd) (g := Prod.snd)).symm.trans
      (by rw [List.map_snd_zip hzip.le, List.map_snd_zip (hp.trans hi.symm).ge])
  have hnumber : (openedLines titles prices images).map (fun l => toString l.quantity)
      = List.replicate titles.length "1" := by
    rw [openedLines, List.map_map, List.eq_replicate_iff]
    constructor
    · rw [List.length_map, List.length_zip, hzip, Nat.min_self]
    · intro number hmem
      obtain ⟨⟨title, price, image⟩, -, rfl⟩ := List.mem_map.mp hmem
      show toString 1 = "1"
      decide
  simp only [CartViewModel.ofLines, htitle, hprice, himage, hnumber]

theorem inRange_openedLines (titles : List String) (prices : List ℚ) (images : List Image) :
    InRange (openedLines titles prices images) := by
  intro l hl
  rw [quantity_openedLines hl]
  decide

/-- **Opening.**  The cart opens, and shows one line for each meal, at no discount. -/
theorem viewDidLoad_handedOver {titles : List String} {prices : List ℚ} {images : List Image}
    (hp : prices.length = titles.length) (hi : images.length = titles.length)
    (restName restDiscountValue : String) :
    ∃ s, (CartsViewController.handedOver titles prices images (List.replicate titles.length "1")
        restName restDiscountValue).viewDidLoad R = some s ∧
      CartsViewController.Shows R (openedLines titles prices images) s ∧
      s.restDiscountValue = restDiscountValue ∧ s.totalDiscount = 0 := by
  let s₀ := CartsViewController.handedOver titles prices images
    (List.replicate titles.length "1") restName restDiscountValue
  let lines := openedLines titles prices images
  have hvm : s₀.viewModel = { CartViewModel.ofLines R lines with cartItems := [] } := by
    rw [ofLines_openedLines R hp hi]
    rfl
  -- `viewDidLoad` builds the rows on an empty list and then adds them up.
  have htotal := CartsViewController.totalAmount_ofLines R lines
    (s := { s₀ with viewModel := .ofLines R lines }) rfl rfl
  refine ⟨s₀.display R lines, ?_, .display (inRange_openedLines _ _ _), rfl, rfl⟩
  rw [CartsViewController.display_withViewModel] at htotal
  rw [CartsViewController.viewDidLoad]
  change (s₀.viewModel.totalItems R).bind _ = _
  rw [hvm, CartViewModel.totalItems_cleared, Option.bind_some]
  exact htotal

end Foodly
