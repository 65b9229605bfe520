import Foodly.Cart.Quantities
import Foodly.Cart.TapOrder

namespace Foodly

open Swift Decimal Runs KeyedRows

/-!
# The bill

At whole-cent prices every amount of the cart is exact, and what an order is charged can be worked
out from what was done on the screen.  The items total is what the meals that are left cost.  The
promo takes its percentage off the items total of the moment when it is accepted, and the taps
that follow leave that discount as it is: a `Bill` keeps both, the taps and those of them that were
made before the last promo.

* `quantityLeft`, `mealsLeft`, `owed` — what some taps leave of the meals, and what these cost, in
  cents;
* `total_left` — the items total of the screen is what is owed, in dollars;
* `Bill`, `Bill.record`, `Bill.of` — the bill of some events, without a screen;
* `Bills` — what the order says under a bill: the price, the number of meals and the restaurant;
* `FollowsBill.does` — one event keeps the cart following its bill;
* `bills_of_opened` — the order of a cart on which no row is swiped, whatever was tapped and
  whenever promos were accepted;
* `charges_of_opened` — the same for carts without promos, where the tax is on the whole total.
-/

variable {Image : Type} (R : Nearest)

/-! ### Cents -/

/-- Cents, in dollars. -/
def inDollars (amount : ℕ) : ℚ := (amount : ℚ) / 100

theorem inDollars_mul (amount : ℕ) : inDollars amount * 100 = (amount : ℤ) := by
  rw [inDollars, div_mul_cancel₀ _ (by norm_num)]
  norm_cast

/-! ### What is left of the meals -/

/-- What the taps leave of a meal, of which there was one. -/
def quantityLeft (taps : List MealTap) (meal : ℕ) : ℕ :=
  1 + tapsOn meal true taps - tapsOn meal false taps

/-- What the meals that are left cost, in cents. -/
def owed (prices : List ℕ) (taps : List MealTap) : ℕ :=
  ((List.range prices.length).map fun meal => prices.getD meal 0 * quantityLeft taps meal).sum

/-- How many meals are left. -/
def mealsLeft (count : ℕ) (taps : List MealTap) : ℕ :=
  (List.range count).countP fun meal => 1 ≤ quantityLeft taps meal

/-- Before any tap, one of each meal is owed. -/
theorem owed_nil (prices : List ℕ) : owed prices [] = prices.sum := by
  induction prices with
  | nil => rfl
  | cons price prices ih =>
    rw [owed, List.length_cons, List.range_succ_eq_map, List.map_cons, List.map_map, List.sum_cons,
      List.sum_cons]
    exact congrArg₂ (· + ·) (Nat.mul_one price) ih

theorem mealsLeft_nil (count : ℕ) : mealsLeft count [] = count := by
  simp [mealsLeft, quantityLeft, tapsOn]

/-- What a meal's taps leave of a line of one item. -/
theorem leftOf_one {lines : List (Line Image)} (hone : ∀ l ∈ lines, l.quantity = 1)
    (taps : List MealTap) {meal : ℕ} (hmeal : meal < lines.length) :
    leftOf lines taps meal = lines[meal].take (quantityLeft taps meal) := by
  rw [leftOf, List.getElem?_eq_getElem hmeal, Option.bind_some, hone _ (List.getElem_mem hmeal)]
  rfl

/-- The amount of a whole-cent price is exact, and that of nothing is zero. -/
theorem amount_take {l : Line Image} (h : WholeCents l.unitPrice) (quantity : ℕ) :
    ((l.take quantity).map (Line.amount R)).getD 0 = l.unitPrice * quantity := by
  by_cases hpos : 1 ≤ quantity
  · rw [Line.take, dif_pos hpos, Option.map_some, Option.getD_some]
    exact Line.amount_of_wholeCents R h
  · obtain rfl : quantity = 0 := by omega
    rw [Line.take, dif_neg hpos, Nat.cast_zero, mul_zero]
    rfl

/-- The rows of some keys add up to what each key adds. -/
theorem sum_rows {β : Type} (f : ℕ → Option β) (g : β → ℚ) (keys : List ℕ) :
    ((rows f keys).map g).sum = (keys.map fun key => ((f key).map g).getD 0).sum := by
  induction keys with
  | nil => rfl
  | cons key keys ih =>
    cases hf : f key with
    | none => simpa [rows, hf] using ih
    | some b => simpa [rows, hf] using ih

/-- Dollars add up as the cents do. -/
theorem sum_inDollars {keys : List ℕ} {f : ℕ → ℚ} {g : ℕ → ℕ}
    (h : ∀ key ∈ keys, f key = inDollars (g key)) :
    (keys.map f).sum = inDollars (keys.map g).sum := by
  induction keys with
  | nil => simp [inDollars]
  | cons key keys ih =>
    rw [List.forall_mem_cons] at h
    simp only [List.map_cons, List.sum_cons, h.1, ih h.2, inDollars]
    push_cast
    ring

/-- **The items total** is what the meals that are left cost. -/
theorem total_left {lines : List (Line Image)} {prices : List ℕ}
    (hprices : lines.map (·.unitPrice) = prices.map inDollars) (hone : ∀ l ∈ lines, l.quantity = 1)
    (taps : List MealTap) :
    total R (rows (leftOf lines taps) (List.range lines.length))
      = inDollars (owed prices taps) := by
  have hlength : prices.length = lines.length := by
    simpa using congrArg List.length hprices.symm
  rw [total, sum_rows, owed, hlength]
  refine sum_inDollars fun meal hmeal => ?_
  have hlt : meal < lines.length := List.mem_range.mp hmeal
  have hlt' : meal < prices.length := hlength ▸ hlt
  have hprice : lines[meal].unitPrice = inDollars prices[meal] := by
    simpa [List.getElem?_eq_getElem hlt, List.getElem?_eq_getElem hlt']
      using congrArg (fun prices => prices[meal]?) hprices
  -- The price of a row is the one on the menu, so its amounts are exact.
  have hcents : WholeCents lines[meal].unitPrice := ⟨_, hprice ▸ inDollars_mul _⟩
  rw [leftOf_one hone taps hlt, amount_take R hcents, hprice, List.getD_eq_getElem?_getD,
    List.getElem?_eq_getElem hlt', Option.getD_some]
  simp only [inDollars]
  push_cast
  ring

/-- One row is shown for each meal of which something is left. -/
theorem length_left {lines : List (Line Image)} (hone : ∀ l ∈ lines, l.quantity = 1)
    (taps : List MealTap) :
    (rows (leftOf lines taps) (List.range lines.length)).length = mealsLeft lines.length taps := by
  rw [rows, List.length_filterMap_eq_countP, mealsLeft]
  refine List.countP_congr fun meal hmeal => ?_
  rw [leftOf_one hone taps (List.mem_range.mp hmeal), Line.take]
  split_ifs with hpos <;> simp [hpos]

/-- The cart keeps the name of its restaurant when it is opened. -/
theorem CartsViewController.restName_viewDidLoad {s t : CartsViewController Image}
    (h : s.viewDidLoad R = some t) : t.restName = s.restName := by
  simp only [viewDidLoad, totalAmount, showAmounts, Option.bind_eq_bind, Option.bind_eq_some_iff,
    Option.pure_def, Option.some.injEq] at h
  obtain ⟨viewModel, -, tax, -, rfl⟩ := h
  rfl

/-! ### Events -/

/-- What happens on an opened cart on which no row is swiped. -/
inductive BillEvent
  | tap (tap : MealTap)
  | acceptPromo
  | viewDidAppear
  deriving DecidableEq, Repr

/-- One event. -/
def TappedCart.does (p : TappedCart Image) : BillEvent → Option (TappedCart Image)
  | .tap tap => p.step R tap
  | .acceptPromo => do
    let screen ← p.screen.step R .acceptPromo
    return { p with screen }
  | .viewDidAppear => do
    let screen ← p.screen.step R .viewDidAppear
    return { p with screen }

/-- The taps so far, and those of them that were made before the last promo. -/
structure Bill where
  taps : List MealTap := []
  discounted : Option (List MealTap) := none
  deriving DecidableEq, Repr

def Bill.record (bill : Bill) : BillEvent → Bill
  | .tap tap => { bill with taps := bill.taps ++ [tap] }
  | .acceptPromo => { bill with discounted := some bill.taps }
  | .viewDidAppear => bill

/-- The bill of some events. -/
def Bill.of (events : List BillEvent) : Bill := events.foldl Bill.record {}

/-- The items total, in dollars. -/
def Bill.itemsTotal (prices : List ℕ) (bill : Bill) : ℚ := inDollars (owed prices bill.taps)

/-- The discount: the percentage of what was owed when the last promo was accepted. -/
def Bill.discount (percent : ℚ) (prices : List ℕ) (bill : Bill) : ℚ :=
  match bill.discounted with
  | none => 0
  | some taps => percent / 100 * inDollars (owed prices taps)

/-- What the order says under a bill, on a cart of one of each meal at these prices. -/
structure Bills (restName : String) (percent : ℚ) (prices : List ℕ) (bill : Bill) (food : Food) :
    Prop where
  name : food.name = restName
  items : food.items = "x " ++ toString (mealsLeft prices.length bill.taps) ++ " items"
  price : food.price = "$" ++ format2f R (bill.itemsTotal prices - bill.discount percent prices
    + taxOn R (bill.itemsTotal prices))

theorem Bill.of_concat (events : List BillEvent) (event : BillEvent) :
    Bill.of (events ++ [event]) = (Bill.of events).record event := by
  rw [Bill.of, List.foldl_append]
  rfl

theorem Bill.record_taps (taps : List MealTap) (bill : Bill) :
    (taps.map BillEvent.tap).foldl Bill.record bill = { bill with taps := bill.taps ++ taps } := by
  induction taps generalizing bill with
  | nil => simp
  | cons tap taps ih =>
    rw [List.map_cons, List.foldl_cons, ih]
    simp only [Bill.record, List.append_assoc, List.singleton_append]

/-- A bill of taps alone has no discount. -/
theorem Bill.of_taps (taps : List MealTap) : Bill.of (taps.map .tap) = { taps } :=
  Bill.record_taps taps {}

/-! ### One event -/

variable {R}

/-- What the taps leave costs what the bill says. -/
theorem total_of_run {lines : List (Line Image)} {prices : List ℕ}
    (hprices : lines.map (·.unitPrice) = prices.map inDollars) (hone : ∀ l ∈ lines, l.quantity = 1)
    {taps : List MealTap} {left : ℕ → Option (Line Image)}
    (h : run (stepAt MealTap.meal Line.tapped) (fun meal => lines[meal]?) taps = some left) :
    total R (rows left (List.range lines.length)) = inDollars (owed prices taps) := by
  obtain ⟨-, rfl⟩ := leftOf_of_run hone h
  exact total_left R hprices hone taps

variable (R) in
/-- The cart shows what the taps of the bill leave of some lines, under the discount of the bill. -/
def FollowsBill (s : CartsViewController Image) (lines : List (Line Image)) (prices : List ℕ)
    (bill : Bill) (p : TappedCart Image) : Prop :=
  ∃ discount left,
    run (stepAt MealTap.meal Line.tapped) (fun meal => lines[meal]?) bill.taps = some left ∧
      Fits lines.length left ∧
      p = TappedCart.of R
        { s with discount
                 totalDiscount := bill.discount ((parseFloat s.restDiscountValue).getD 0) prices }
        lines.length left

/-- **One event.**  The cart goes on following the bill. -/
theorem FollowsBill.does {s : CartsViewController Image} {lines : List (Line Image)}
    {prices : List ℕ} (hprices : lines.map (·.unitPrice) = prices.map inDollars)
    (hone : ∀ l ∈ lines, l.quantity = 1) {bill : Bill} {p q : TappedCart Image}
    (h : FollowsBill R s lines prices bill p) {event : BillEvent} (hq : p.does R event = some q) :
    FollowsBill R s lines prices (bill.record event) q := by
  obtain ⟨discount, left, hleft, hfits, rfl⟩ := h
  have hshows : ∀ s : CartsViewController Image, CartsViewController.Shows R
      (rows left (List.range lines.length)) (TappedCart.of R s lines.length left).screen :=
    fun s => .display hfits.inRange_rows
  cases event with
  | tap tap =>
    rw [TappedCart.does, TappedCart.step_of hfits] at hq
    obtain ⟨left', hstep, rfl⟩ := Option.map_eq_some_iff.mp hq
    refine ⟨discount, left', ?_, hfits.step hstep, rfl⟩
    rw [Bill.record, run_append, hleft, Option.bind_some, run_cons, hstep]
    rfl
  | acceptPromo =>
    -- The discount is computed from what is left now.
    obtain ⟨screen, hscreen, hq⟩ := Option.bind_eq_some_iff.mp hq
    obtain rfl : _ = q := Option.some.inj hq
    rw [CartsViewController.step, CartsViewController.reloadCartWithDiscount_eq (hshows _).holds,
      total_of_run hprices hone hleft] at hscreen
    obtain rfl := Option.some.inj hscreen
    exact ⟨_, left, hleft, hfits, rfl⟩
  | viewDidAppear =>
    obtain ⟨screen, hscreen, hq⟩ := Option.bind_eq_some_iff.mp hq
    obtain rfl : _ = q := Option.some.inj hq
    rw [CartsViewController.step, CartsViewController.viewDidAppear_eq (hshows _)] at hscreen
    obtain rfl := Option.some.inj hscreen
    exact ⟨discount, left, hleft, hfits, rfl⟩

/-- The order of a cart that follows a bill. -/
theorem FollowsBill.bills {s : CartsViewController Image} {lines : List (Line Image)}
    {prices : List ℕ} (hprices : lines.map (·.unitPrice) = prices.map inDollars)
    (hone : ∀ l ∈ lines, l.quantity = 1) {bill : Bill} {p : TappedCart Image}
    (h : FollowsBill R s lines prices bill p) :
    Bills R s.restName ((parseFloat s.restDiscountValue).getD 0) prices bill
      p.screen.continueButtonPressed := by
  obtain ⟨discount, left, hleft, -, rfl⟩ := h
  have htotal := total_of_run (R := R) hprices hone hleft
  obtain ⟨-, rfl⟩ := leftOf_of_run hone hleft
  have hlength : prices.length = lines.length := by
    simpa using congrArg List.length hprices.symm
  refine ⟨rfl, ?_, ?_⟩
  · rw [hlength, ← length_left hone]
    simp [CartsViewController.continueButtonPressed, TappedCart.of, CartsViewController.display,
      CartViewModel.ofLines]
  · simp only [CartsViewController.continueButtonPressed, TappedCart.of,
      CartsViewController.display, htotal, Bill.itemsTotal]

/-! ### Runs -/

variable (R)

/-- **The bill.**  The order of a cart that is opened at whole-cent prices is billed for what was
    done on it. -/
theorem bills_of_opened {titles : List String} {prices : List ℕ} {images : List Image}
    (hp : prices.length = titles.length) (hi : images.length = titles.length)
    (restName restDiscountValue : String) :
    ∃ s, (CartsViewController.handedOver titles (prices.map inDollars) images
        (List.replicate titles.length "1") restName restDiscountValue).viewDidLoad R = some s ∧
      ∀ events p,
        run (TappedCart.does R) { screen := s, meals := List.range prices.length } events = some p →
          Bills R restName ((parseFloat restDiscountValue).getD 0) prices (.of events)
            p.screen.continueButtonPressed := by
  have hp' : (prices.map inDollars).length = titles.length := (List.length_map _).trans hp
  obtain ⟨s, hs, hshows, hvalue, hzero⟩ :=
    viewDidLoad_handedOver R hp' hi restName restDiscountValue
  let lines := openedLines titles (prices.map inDollars) images
  have hone : ∀ l ∈ lines, l.quantity = 1 := fun l hl => quantity_openedLines hl
  have hunit : lines.map (·.unitPrice) = prices.map inDollars := unitPrices_openedLines hp' hi
  have hlength : lines.length = prices.length := by
    rw [← List.length_map (·.unitPrice), hunit, List.length_map]
  have hname := CartsViewController.restName_viewDidLoad R hs
  obtain ⟨hrows, hmeals⟩ := rows_getElem? lines
  -- The opened cart follows the empty bill, and each event keeps it following the bill so far.
  have hopened : FollowsBill R s lines prices {}
      { screen := s, meals := List.range prices.length } := by
    refine ⟨s.discount, fun meal => lines[meal]?, rfl, .of_inRange hshows.inRange, ?_⟩
    rw [TappedCart.of, hrows, hmeals, hlength]
    congr 1
    exact hshows.eq_display.trans (by rw [Bill.discount, ← hzero])
  refine ⟨s, hs, fun events p h => ?_⟩
  have hfollows : FollowsBill R s lines prices (.of events) p := by
    refine run_history (P := fun events p => FollowsBill R s lines prices (.of events) p)
      (fun events p event q hp hq => ?_) hopened h
    rw [Bill.of_concat]
    exact hp.does hunit hone hq
  have hbills := hfollows.bills hunit hone
  rw [hvalue, hname] at hbills
  exact hbills

/-- What the order says after some taps on a cart of one of each meal, at these prices: how many
    meals are left, and what these cost, to the cent, with the tax on it. -/
structure Charges (restName : String) (prices : List ℕ) (taps : List MealTap) (food : Food) :
    Prop where
  name : food.name = restName
  items : food.items = "x " ++ toString (mealsLeft prices.length taps) ++ " items"
  price : food.price = "$" ++
    format2f R (inDollars (owed prices taps) + taxOn R (inDollars (owed prices taps)))

theorem TappedCart.run_taps (p : TappedCart Image) (taps : List MealTap) :
    run (TappedCart.does R) p (taps.map .tap) = run (TappedCart.step R) p taps := by
  induction taps generalizing p with
  | nil => rfl
  | cons tap taps ih =>
    rw [List.map_cons, run_cons, run_cons]
    exact Option.bind_congr fun q _ => ih q

/-- **The cart.**  A cart that is opened at whole-cent prices is charged at these prices, whatever
    is tapped in it. -/
theorem charges_of_opened {titles : List String} {prices : List ℕ} {images : List Image}
    (hp : prices.length = titles.length) (hi : images.length = titles.length)
    (restName restDiscountValue : String) :
    ∃ s, (CartsViewController.handedOver titles (prices.map inDollars) images
        (List.replicate titles.length "1") restName restDiscountValue).viewDidLoad R = some s ∧
      ∀ taps p,
        run (TappedCart.step R) { screen := s, meals := List.range prices.length } taps = some p →
          Charges R restName prices taps p.screen.continueButtonPressed := by
  obtain ⟨s, hs, hbills⟩ := bills_of_opened R hp hi restName restDiscountValue
  refine ⟨s, hs, fun taps p h => ?_⟩
  rw [← TappedCart.run_taps] at h
  obtain ⟨hname, hitems, hprice⟩ := hbills _ p h
  rw [Bill.of_taps] at hitems hprice
  refine ⟨hname, hitems, ?_⟩
  rw [hprice, Bill.discount, sub_zero, Bill.itemsTotal]

end Foodly
