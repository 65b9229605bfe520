import Foodly.Cart.Lines

namespace Foodly

open Swift Decimal Runs

/-!
# The discount in force

`totalAmountWithDiscount` computes the discount, and `totalAmount` goes on using the one that
is stored.  A promo is computed once, when it is accepted, and quantity taps after it leave the
amount as it is while the items change.

* `PromoState` — the cart screen, and whether a promo has been accepted on it;
* `DiscountLaw` — what the labels promise: the discount in force belongs to the items displayed, and
  the final amount follows from both;
* `KeepsDiscount` — the condition on an action: a quantity tap changes no amount while a discount is
  in force, and otherwise leaves the items worth at least nothing;
* `total_tapLine` — by how much a tap moves the items total;
* `discount_right_iff` — when a discount that was right for one total is right for another;
* `PromoInvariant`, `PromoState.step_law` — what the steps keep, and one step;
* `discount_law_iff` — in which runs without deletions the law holds throughout.

Prices are rational numbers here, of either sign, with the rounding of the tax as the source has
it; so a tap may also take the items below nothing, where no discount is right.
-/

variable {Image : Type} (R : Nearest)

/-- The cart screen, and whether a promo has been accepted on it. -/
structure PromoState (Image : Type) where
  screen : CartsViewController Image
  accepted : Bool := false

def PromoState.step (p : PromoState Image) (a : CartAction) : Option (PromoState Image) := do
  let screen ← p.screen.step R a
  return { screen, accepted := p.accepted || decide (a = .acceptPromo) }

namespace CartsViewController

/-- The sum of the displayed prices. -/
def itemsSum (s : CartsViewController Image) : ℚ := (s.viewModel.cartItems.map (·.itemPrice)).sum

/-- By how much a tap changes the amount of its row. -/
def amountChange (s : CartsViewController Image) (row : ℕ) (plus : Bool) : ℚ :=
  match s.viewModel.cartPrice[row]?, s.viewModel.cartNumber[row]?.bind parseInt with
  | some price, some n =>
    cents R (price * (if plus then n + 1 else n - 1 : ℤ)) - cents R (price * (n : ℤ))
  | _, _ => 0

end CartsViewController

/-- The discount in force is `percent` of the displayed items once a promo has been accepted
    and nothing before; the final amount is what is left after discount and tax. -/
structure DiscountLaw (percent : ℚ) (p : PromoState Image) : Prop where
  discount : p.screen.totalDiscount
    = if p.accepted then percent / 100 * p.screen.itemsSum else 0
  finalAmt : p.screen.finalAmt = "$" ++ format2f R (p.screen.itemsSum - p.screen.totalDiscount
    + taxOn R p.screen.itemsSum)
  nonneg : 0 ≤ p.screen.itemsSum - p.screen.totalDiscount + taxOn R p.screen.itemsSum

/-- A quantity tap changes no amount while a discount is in force, and otherwise leaves the
    items worth at least nothing. -/
def KeepsDiscount (percent : ℚ) (p : PromoState Image) : CartAction → Prop
  | .tap row plus =>
    if p.accepted ∧ percent ≠ 0 then p.screen.amountChange R row plus = 0
    else 0 ≤ p.screen.itemsSum + p.screen.amountChange R row plus
  | _ => True

/-! ### Sums and taxes -/

theorem CartsViewController.Shows.itemsSum {R : Nearest} {lines : List (Line Image)}
    {s : CartsViewController Image} (h : Shows R lines s) : s.itemsSum = total R lines := by
  rw [CartsViewController.itemsSum, h.viewModel]
  exact sum_itemPrice R lines

/-- The tax has the sign of the amount. -/
theorem nonneg_add_taxOn {x : ℚ} : 0 ≤ x + taxOn R x ↔ 0 ≤ x := by
  constructor
  · intro h
    by_contra hx
    have hneg : x < 0 := not_le.mp hx
    have htax : taxOn R x ≤ 0 := cents_nonpos R (by linarith)
    linarith
  · intro h
    have htax : 0 ≤ taxOn R x := cents_nonneg R (by linarith)
    linarith

/-- What is left after a discount of at most the whole amount is not negative. -/
theorem nonneg_of_discount {percent x : ℚ} (h100 : percent ≤ 100)
    (hx : 0 ≤ x) : 0 ≤ x - percent / 100 * x + taxOn R x := by
  have htax : 0 ≤ taxOn R x := cents_nonneg R (by linarith)
  have hpart : percent / 100 * x ≤ 1 * x := mul_le_mul_of_nonneg_right (by linarith) hx
  linarith

/-- Replacing a line moves the total by the difference of the two amounts. -/
theorem total_set {lines : List (Line Image)} {row : ℕ} {l : Line Image}
    (hl : lines[row]? = some l) (l' : Line Image) :
    total R (lines.set row l') = total R lines + (l'.amount R - l.amount R) := by
  obtain ⟨hrow, rfl⟩ := List.getElem?_eq_some_iff.mp hl
  have hlen : row < (lines.map (Line.amount R)).length := by rwa [List.length_map]
  rw [total, List.map_set, List.sum_set', dif_pos hlen, List.getElem_map]
  rw [total]
  ring

/-- Removing a line takes its amount out of the total. -/
theorem total_eraseIdx {lines : List (Line Image)} {row : ℕ} {l : Line Image}
    (hl : lines[row]? = some l) : total R (lines.eraseIdx row) = total R lines - l.amount R := by
  obtain ⟨hrow, rfl⟩ := List.getElem?_eq_some_iff.mp hl
  have hlen : row < (lines.map (Line.amount R)).length := by rwa [List.length_map]
  have hsum := List.CommMonoid.add_sum_eraseIdx hlen
  rw [List.getElem_map, List.eraseIdx_map] at hsum
  rw [total, total, ← hsum]
  ring

/-- The total moves by what the tap changes on its row. -/
theorem total_tapLine {lines : List (Line Image)} {row : ℕ} {plus : Bool} {l : Line Image}
    (hl : lines[row]? = some l) :
    total R (tapLine lines row plus) = total R lines
      + (cents R (l.unitPrice * (if plus then l.quantity + 1 else l.quantity - 1 : ℤ))
        - cents R (l.unitPrice * (l.quantity : ℤ))) := by
  have hamount : cents R (l.unitPrice * ((l.quantity : ℤ) : ℚ)) = l.amount R := rfl
  rw [hamount]
  simp only [tapLine, hl]
  cases plus with
  | true =>
    rw [if_pos rfl, total_set R hl]
    simp [Line.amount, Line.more]
  | false =>
    rw [if_neg Bool.false_ne_true]
    cases hless : l.less with
    | none =>
      -- The line goes, and its new amount would have been zero.
      have hone : l.quantity = 1 := Line.quantity_of_less_eq_none hless
      simp [total_eraseIdx R hl, hone]
      ring
    | some l' =>
      obtain ⟨⟨-, hprice, -⟩, hquantity⟩ := Line.of_less hless
      have hpos := l.positive
      simp [total_set R hl, Line.amount, hprice, hquantity, hpos]

/-- The same, as the screen computes it before the tap. -/
theorem total_tapLine_eq {lines : List (Line Image)} {s : CartsViewController Image}
    (h : CartsViewController.Shows R lines s) {row : ℕ} {plus : Bool}
    (hcan : CanTap lines row plus) :
    total R (tapLine lines row plus) = s.itemsSum + s.amountChange R row plus := by
  obtain ⟨l, hl, -⟩ := hcan
  have hprice : s.viewModel.cartPrice[row]? = some l.unitPrice := by
    rw [h.viewModel]
    simp [CartViewModel.ofLines, hl]
  rw [total_tapLine R hl, h.itemsSum, CartsViewController.amountChange, hprice, h.holds.number hl,
    Option.bind_some, h.holds.parseInt_number hl]

/-- What the condition on a tap says about the totals of the lines. -/
theorem keepsDiscount_tap_iff {lines : List (Line Image)} {s : CartsViewController Image}
    (h : CartsViewController.Shows R lines s) {row : ℕ} {plus : Bool}
    (hcan : CanTap lines row plus) {percent : ℚ} {accepted : Bool} :
    KeepsDiscount R percent { screen := s, accepted } (.tap row plus) ↔
      if accepted ∧ percent ≠ 0 then total R (tapLine lines row plus) = total R lines
      else 0 ≤ total R (tapLine lines row plus) := by
  rw [KeepsDiscount, total_tapLine_eq R h hcan, ← h.itemsSum, add_eq_left]

/-! ### One step -/

/-- On a screen that shows the lines, the final amount is right, and the law is about the
    discount in force. -/
theorem discountLaw_iff {lines : List (Line Image)} {s : CartsViewController Image}
    (h : CartsViewController.Shows R lines s) (percent : ℚ) (accepted : Bool) :
    DiscountLaw R percent { screen := s, accepted } ↔
      s.totalDiscount = (if accepted then percent / 100 * total R lines else 0) ∧
        0 ≤ total R lines - s.totalDiscount + taxOn R (total R lines) := by
  have hfinal : s.finalAmt
      = "$" ++ format2f R (total R lines - s.totalDiscount + taxOn R (total R lines)) :=
    congrArg (·.finalAmt) h.eq_display
  constructor
  · intro hlaw
    exact ⟨h.itemsSum ▸ hlaw.discount, h.itemsSum ▸ hlaw.nonneg⟩
  · rintro ⟨hdiscount, hnonneg⟩
    exact ⟨h.itemsSum ▸ hdiscount, h.itemsSum ▸ hfinal, h.itemsSum ▸ hnonneg⟩

/-- A discount that was right for the items worth `x` is right for the items worth `y` exactly
    when they are worth the same, or no discount is in force and they are worth something. -/
theorem discount_right_iff {percent x y d : ℚ} {accepted : Bool} (h100 : percent ≤ 100)
    (hx : 0 ≤ x) (hd : d = if accepted then percent / 100 * x else 0) :
    (d = (if accepted then percent / 100 * y else 0) ∧ 0 ≤ y - d + taxOn R y) ↔
      if accepted ∧ percent ≠ 0 then y = x else 0 ≤ y := by
  by_cases hforce : accepted = true ∧ percent ≠ 0
  · -- A nonzero part of the items belongs to one value of the items only.
    obtain ⟨haccepted, hne⟩ := hforce
    have hne' : percent / 100 ≠ 0 := div_ne_zero hne (by norm_num)
    simp only [haccepted, if_true] at hd
    simp only [haccepted, hne, if_true, hd, ne_eq, not_false_eq_true, and_self]
    constructor
    · rintro ⟨heq, -⟩
      exact (mul_left_cancel₀ hne' heq).symm
    · rintro rfl
      exact ⟨rfl, nonneg_of_discount R h100 hx⟩
  · -- No discount is in force: nothing accepted, or a promo of zero percent.
    have hzero : ∀ z : ℚ, (if accepted then percent / 100 * z else 0) = 0 := by
      intro z
      cases accepted with
      | false => rfl
      | true =>
        have hpercent : percent = 0 := by
          by_contra hne
          exact hforce ⟨rfl, hne⟩
        simp [hpercent]
    rw [hzero] at hd
    rw [if_neg hforce, hzero, hd, sub_zero, nonneg_add_taxOn]
    exact ⟨fun h => h.2, fun h => ⟨rfl, h⟩⟩

/-- What the steps keep: the screen shows lines worth at least nothing, and the percentage. -/
def PromoInvariant (percent : ℚ) (p : PromoState Image) : Prop :=
  ∃ lines, CartsViewController.Shows R lines p.screen ∧
    parseFloat p.screen.restDiscountValue = some percent ∧ 0 ≤ total R lines

/-- A step other than a deletion, from a state where the law holds: the law holds after it
    exactly when it keeps the discount, and then so does the invariant. -/
theorem PromoState.step_law {percent : ℚ} (h100 : percent ≤ 100) {p q : PromoState Image}
    {a : CartAction} (hinv : PromoInvariant R percent p) (hlaw : DiscountLaw R percent p)
    (ha : ∀ row, a ≠ .delete row) (hq : p.step R a = some q) :
    (DiscountLaw R percent q ↔ KeepsDiscount R percent p a) ∧
      (KeepsDiscount R percent p a → PromoInvariant R percent q) := by
  obtain ⟨lines, hshows, hpercent, hpos⟩ := hinv
  obtain ⟨s, accepted⟩ := p
  obtain ⟨t, ht, hq⟩ := Option.bind_eq_some_iff.mp hq
  obtain rfl : _ = q := Option.some.inj hq
  have hshows' := hshows.step ha ht
  have hdiscount := ((discountLaw_iff R hshows percent accepted).mp hlaw).1
  rw [discountLaw_iff R hshows']
  cases a with
  | tap row plus =>
    -- A tap leaves the discount as it was, whatever becomes of the items.
    have hcan := CartsViewController.canTap_of_addBtnTapped hshows.holds ht
    have hkept : t.totalDiscount = s.totalDiscount ∧ t.restDiscountValue = s.restDiscountValue := by
      rw [CartsViewController.step, CartsViewController.addBtnTapped_eq hshows.holds hcan] at ht
      obtain rfl := Option.some.inj ht
      exact ⟨rfl, rfl⟩
    have hnot : decide (CartAction.tap row plus = .acceptPromo) = false := by simp
    simp only [hnot, Bool.or_false, remaining, hkept.1]
    rw [keepsDiscount_tap_iff R hshows hcan]
    refine ⟨discount_right_iff R h100 hpos hdiscount, fun hkeeps => ?_⟩
    refine ⟨tapLine lines row plus, hshows', hkept.2 ▸ hpercent, ?_⟩
    split at hkeeps
    · rw [hkeeps]
      exact hpos
    · exact hkeeps
  | acceptPromo =>
    -- The promo computes the discount anew, from the items displayed.
    rw [CartsViewController.step, CartsViewController.reloadCartWithDiscount_eq hshows.holds,
      hpercent] at ht
    obtain rfl := Option.some.inj ht
    refine ⟨⟨fun _ => trivial, fun _ => ⟨?_, ?_⟩⟩, fun _ => ⟨lines, hshows', hpercent, hpos⟩⟩
    · simp [CartsViewController.display, remaining]
    · exact nonneg_of_discount R h100 hpos
  | viewDidAppear =>
    rw [CartsViewController.step, CartsViewController.viewDidAppear_eq hshows] at ht
    obtain rfl := Option.some.inj ht
    refine ⟨⟨fun _ => trivial, fun _ => ?_⟩, fun _ => ⟨lines, hshows, hpercent, hpos⟩⟩
    have hnot : decide (CartAction.viewDidAppear = .acceptPromo) = false := by decide
    rw [hnot, Bool.or_false]
    exact (discountLaw_iff R hshows percent accepted).mp hlaw
  | delete row => exact absurd rfl (ha row)

/-! ### Runs -/

/-- **The discount in force.**  On a cart opened at a discount of `percent`, the law holds
    throughout a run without deletions exactly when the items are worth at least nothing and
    every tap of the run keeps the discount. -/
theorem discount_law_iff {titles : List String} {prices : List ℚ} {images : List Image}
    {numbers : List String} (hp : prices.length = titles.length)
    (hi : images.length = titles.length) (hn : numbers.length = titles.length)
    (hone : ∀ number ∈ numbers, number = "1") (restName : String) {restDiscountValue : String}
    {percent : ℚ} (hpercent : parseFloat restDiscountValue = some percent)
    (h100 : percent ≤ 100) :
    ∃ s, (CartsViewController.handedOver titles prices images numbers restName
        restDiscountValue).viewDidLoad R = some s ∧
      ∀ as : List CartAction, (∀ a ∈ as, ∀ row, a ≠ .delete row) →
        (Always (PromoState.step R) (DiscountLaw R percent) { screen := s } as ↔
          0 ≤ s.itemsSum ∧
            Guarded (PromoState.step R) (KeepsDiscount R percent) { screen := s } as) := by
  obtain rfl : numbers = List.replicate titles.length "1" :=
    List.eq_replicate_iff.mpr ⟨hn, hone⟩
  obtain ⟨s, hs, hshows, hvalue, hzero⟩ := viewDidLoad_handedOver R hp hi restName restDiscountValue
  have hstart : DiscountLaw R percent { screen := s } ↔ 0 ≤ s.itemsSum := by
    rw [discountLaw_iff R hshows, hzero, sub_zero, nonneg_add_taxOn, hshows.itemsSum]
    exact ⟨fun h => h.2, fun h => ⟨rfl, h⟩⟩
  refine ⟨s, hs, fun as has => ?_⟩
  by_cases hpos : 0 ≤ s.itemsSum
  · have hinv : PromoInvariant R percent { screen := s } :=
      ⟨_, hshows, hvalue ▸ hpercent, hshows.itemsSum ▸ hpos⟩
    rw [and_iff_right hpos]
    apply always_iff_guarded ?_ ?_ hinv (hstart.mpr hpos) (allowed_of_forall_mem has)
    · intro p a q hI hP hE hG hq
      exact (PromoState.step_law R h100 hI hP hE hq).2 hG
    · intro p a q hI hP hE hq
      exact (PromoState.step_law R h100 hI hP hE hq).1
  · -- Items worth less than nothing break the law before anything is done.
    exact ⟨fun h => absurd (hstart.mp h.head) hpos, fun h => absurd h.1 hpos⟩

/-- Accepting a promo of half on one meal at 10 keeps the law. -/
theorem discount_law_iff_accept : ∃ s,
    (CartsViewController.handedOver ["Rice"] [10] [()] ["1"] "Mr Biggs" "50").viewDidLoad .halfEven
      = some s ∧
    Always (PromoState.step .halfEven) (DiscountLaw .halfEven 50) { screen := s }
      [.acceptPromo] := by
  have hpercent : parseFloat "50" = some 50 := by decide +kernel
  obtain ⟨s, hs, hiff⟩ := @discount_law_iff Unit .halfEven ["Rice"] [10] [()] ["1"] rfl rfl rfl
    (by decide) "Mr Biggs" "50" 50 hpercent (by norm_num)
  have hsum : ((CartsViewController.handedOver ["Rice"] [10] [()] ["1"] "Mr Biggs"
      "50").viewDidLoad .halfEven).map (·.itemsSum) = some 10 := by decide +kernel
  rw [hs, Option.map_some, Option.some.injEq] at hsum
  refine ⟨s, hs, (hiff [.acceptPromo] (by simp)).mpr ⟨by rw [hsum]; norm_num, ?_⟩⟩
  exact fun t _ => ⟨trivial, trivial⟩

/-- A promo of half is accepted on one meal at 10, and then a second one is added: the
    discount in force stays at 5 of 20. -/
theorem discount_stale_after_plus : ¬ ∀ (as : List CartAction) (s : CartsViewController Unit),
    (∀ a ∈ as, ∀ row, a ≠ .delete row) →
    (CartsViewController.handedOver ["Rice"] [10] [()] ["1"] "Mr Biggs" "50").viewDidLoad .halfEven
      = some s →
    Always (PromoState.step .halfEven) (DiscountLaw .halfEven 50) { screen := s } as := by
  intro h
  have hvalues : ((CartsViewController.handedOver ["Rice"] [10] [()] ["1"] "Mr Biggs"
      "50").viewDidLoad .halfEven).bind (fun s =>
        (run (PromoState.step .halfEven) { screen := s } [.acceptPromo, .tap 0 true]).map fun p =>
          (p.accepted, p.screen.totalDiscount, p.screen.itemsSum)) = some (true, 5, 20) := by
    decide +kernel
  obtain ⟨s, hs, hrun⟩ := Option.bind_eq_some_iff.mp hvalues
  obtain ⟨p, hp, hp'⟩ := Option.map_eq_some_iff.mp hrun
  simp only [Prod.mk.injEq] at hp'
  obtain ⟨haccepted, hdiscount, hsum⟩ := hp'
  have hlaw := ((h _ s (by simp) hs).last hp).discount
  rw [haccepted, hdiscount, hsum] at hlaw
  norm_num at hlaw

end Foodly
