import Foodly.Cart.Lines

namespace Foodly

open Swift Decimal Runs

/-!
# Plus and minus taps

On whole-cent prices the two-decimal round trip of every amount is exact, and the cart is a
list of lines that plus and minus taps edit in place.  The reference is `tapLine`, which knows
nothing of arrays, texts or labels.

* `OnDisplayedRow` — what a user can tap: a row that is displayed, and no plus beyond the largest
  `Int`;
* `WholeCents` — a price that is a whole number of cents, and `Line.amount_of_wholeCents`, which
  says that its amounts are exact;
* `Simulates` — the controller keeps and shows exactly some lines, at exact amounts;
* `tapped_simulates` — one tap: it does not trap, and the lines change as the reference says;
* `taps_simulate_lines` — a whole sequence of taps on a cart that has just been opened.

A minus on the last of a meal takes its row away, and the rows under it move up; the next tap is on
the rows as they then are.
-/

variable {Image : Type} (R : Nearest)

/-- A tap on the plus or the minus button of a displayed row. -/
structure Tap where
  row : ℕ
  plus : Bool
  deriving DecidableEq, Repr

/-- The handler of a tap. -/
def CartsViewController.tapped (s : CartsViewController Image) (tap : Tap) :
    Option (CartsViewController Image) := s.addBtnTapped R tap.row tap.plus

/-- The row is displayed, and a plus does not take its quantity out of the range of `Int`. -/
def OnDisplayedRow (s : CartsViewController Image) (tap : Tap) : Prop :=
  tap.row < s.viewModel.cartItems.length ∧
    (tap.plus = true → ∀ n ∈ s.viewModel.cartNumber[tap.row]?.bind parseInt, n < maxInt)

/-- The controller keeps and shows exactly these lines, at exact amounts. -/
structure Simulates (lines : List (Line Image)) (s : CartsViewController Image) : Prop where
  titles : s.viewModel.cartTitles = lines.map (·.title)
  prices : s.viewModel.cartPrice = lines.map (·.unitPrice)
  images : s.viewModel.cartImage = lines.map (·.image)
  numbers : s.viewModel.cartNumber = lines.map fun l => toString l.quantity
  items : s.viewModel.cartItems = lines.map fun l =>
    { itemName := l.title, itemPrice := l.unitPrice * l.quantity, itemImage := l.image,
      itemNumber := toString l.quantity }
  itemsTotal : s.itemsTotal
    = "$" ++ format2f R (lines.map fun l => l.unitPrice * (l.quantity : ℚ)).sum

/-! ### Whole-cent prices -/

/-- The price is a whole number of cents. -/
def WholeCents (price : ℚ) : Prop := ∃ n : ℤ, price * 100 = n

/-- On a whole-cent price the amount of a line is exact. -/
theorem Line.amount_of_wholeCents {l : Line Image} (h : WholeCents l.unitPrice) :
    l.amount R = l.unitPrice * l.quantity := by
  obtain ⟨n, hn⟩ := h
  refine cents_of_whole (n := n * l.quantity) ?_
  push_cast
  rw [← hn]
  ring

/-- All unit prices are whole-cent prices. -/
def AllWholeCents (lines : List (Line Image)) : Prop := ∀ l ∈ lines, WholeCents l.unitPrice

theorem AllWholeCents.tapLine {lines : List (Line Image)} (h : AllWholeCents lines) (row : ℕ)
    (plus : Bool) : AllWholeCents (tapLine lines row plus) := by
  intro l' hl'
  obtain ⟨l, hl, hsame⟩ := exists_of_mem_tapLine hl'
  rw [hsame.2.1]
  exact h l hl

/-- What shows the lines simulates them, when the prices are whole-cent prices. -/
theorem simulates_of_shows {lines : List (Line Image)} {s : CartsViewController Image}
    (h : CartsViewController.Shows R lines s) (hcents : AllWholeCents lines) :
    Simulates R lines s := by
  have hamount : ∀ l ∈ lines, l.amount R = l.unitPrice * l.quantity := fun l hl =>
    l.amount_of_wholeCents R (hcents l hl)
  -- The arrays are those of the lines as they are; only the amounts have been rounded.
  have htotal : total R lines = (lines.map fun l => l.unitPrice * (l.quantity : ℚ)).sum :=
    congrArg List.sum (List.map_congr_left hamount)
  refine
    { titles := by rw [h.viewModel]; rfl
      prices := by rw [h.viewModel]; rfl
      images := by rw [h.viewModel]; rfl
      numbers := by rw [h.viewModel]; rfl
      items := ?_
      itemsTotal := ?_ }
  · rw [h.viewModel]
    refine List.map_congr_left fun l hl => ?_
    rw [Line.item, hamount l hl]
  · rw [h.eq_display, ← htotal]
    rfl

/-! ### The simulation -/

/-- One tap on a displayed row: it does not trap, and the lines change as the reference
    says. -/
theorem tapped_simulates {lines : List (Line Image)} {s : CartsViewController Image}
    (h : CartsViewController.Shows R lines s) (hcents : AllWholeCents lines) {tap : Tap}
    (ht : OnDisplayedRow s tap) :
    ∃ t, s.tapped R tap = some t ∧
      CartsViewController.Shows R (tapLine lines tap.row tap.plus) t ∧
      AllWholeCents (tapLine lines tap.row tap.plus) := by
  obtain ⟨hrow, hmax⟩ := ht
  -- The displayed rows are the lines, so the tapped row is one of them.
  have hlen : tap.row < lines.length := by
    rw [h.viewModel] at hrow
    simpa [CartViewModel.ofLines] using hrow
  have hl : lines[tap.row]? = some lines[tap.row] := List.getElem?_eq_getElem hlen
  have hcan : CanTap lines tap.row tap.plus := by
    refine ⟨lines[tap.row], hl, fun hplus => hmax hplus _ ?_⟩
    rw [h.holds.number hl, Option.bind_some, h.holds.parseInt_number hl, Option.mem_some_iff]
  exact ⟨_, CartsViewController.addBtnTapped_eq h.holds hcan, .display (h.inRange.tapLine hcan),
    hcents.tapLine _ _⟩

/-- **Plus and minus taps.**  A cart opened on whole-cent prices, with every quantity `"1"`,
    opens without a trap; no sequence of taps on displayed rows traps, and it leaves the
    controller showing the lines that the reference arrives at. -/
theorem taps_simulate_lines {titles : List String} {prices : List ℚ} {images : List Image}
    {numbers : List String} (hp : prices.length = titles.length)
    (hi : images.length = titles.length) (hn : numbers.length = titles.length)
    (hone : ∀ number ∈ numbers, number = "1") (hcents : ∀ price ∈ prices, WholeCents price)
    (restName restDiscountValue : String) :
    ∃ s, (CartsViewController.handedOver titles prices images numbers restName
        restDiscountValue).viewDidLoad R = some s ∧
      Simulates R (openedLines titles prices images) s ∧
      ∀ taps : List Tap, Allowed (CartsViewController.tapped R) OnDisplayedRow s taps →
        ∃ t, run (CartsViewController.tapped R) s taps = some t ∧
          Simulates R (taps.foldl (fun lines tap => tapLine lines tap.row tap.plus)
            (openedLines titles prices images)) t := by
  obtain rfl : numbers = List.replicate titles.length "1" :=
    List.eq_replicate_iff.mpr ⟨hn, hone⟩
  obtain ⟨s, hs, hshows, -, -⟩ := viewDidLoad_handedOver R hp hi restName restDiscountValue
  have hwhole : AllWholeCents (openedLines titles prices images) := by
    intro l hl
    refine hcents l.unitPrice ?_
    rw [← unitPrices_openedLines hp hi]
    exact List.mem_map_of_mem hl
  refine ⟨s, hs, simulates_of_shows R hshows hwhole, fun taps htaps => ?_⟩
  -- What a tap keeps: the controller shows the lines, and their prices are whole cents.
  have hstep : ∀ (lines : List (Line Image)) s tap,
      CartsViewController.Shows R lines s ∧ AllWholeCents lines → OnDisplayedRow s tap →
      ∃ t, s.tapped R tap = some t ∧
        CartsViewController.Shows R (tapLine lines tap.row tap.plus) t ∧
        AllWholeCents (tapLine lines tap.row tap.plus) :=
    fun lines s tap hrel htap => tapped_simulates R hrel.1 hrel.2 htap
  obtain ⟨t, ht, hshows', hwhole'⟩ := run_simulates hstep ⟨hshows, hwhole⟩ htaps
  exact ⟨t, ht, simulates_of_shows R hshows' hwhole'⟩

/-- Two meals, the first of them taken twice. -/
theorem taps_simulate_lines_plus : ∃ s t,
    (CartsViewController.handedOver ["Rice", "Fish"] [5 / 2, 3] [(), ()] ["1", "1"] "Mr Biggs"
      "10").viewDidLoad .halfEven = some s ∧
    run (CartsViewController.tapped .halfEven) s [{ row := 0, plus := true }] = some t ∧
    Simulates .halfEven
      [⟨"Rice", 5 / 2, (), 2, by decide⟩, ⟨"Fish", 3, (), 1, by decide⟩] t := by
  have hcents : ∀ price ∈ [5 / 2, (3 : ℚ)], WholeCents price := by
    intro price hprice
    simp only [List.mem_cons, List.not_mem_nil, or_false] at hprice
    rcases hprice with rfl | rfl
    · exact ⟨250, by norm_num⟩
    · exact ⟨300, by norm_num⟩
  obtain ⟨s, hs, hsim, hrun⟩ := @taps_simulate_lines Unit .halfEven ["Rice", "Fish"] [5 / 2, 3]
    [(), ()] ["1", "1"] rfl rfl rfl (by decide) hcents "Mr Biggs" "10"
  have hallowed : OnDisplayedRow s { row := 0, plus := true } := by
    refine ⟨by rw [hsim.items]; decide, fun _ n hn => ?_⟩
    have hnumber : s.viewModel.cartNumber[0]? = some "1" := by
      rw [hsim.numbers]
      decide
    have hone : parseInt "1" = some 1 := by decide
    rw [hnumber, Option.bind_some, hone, Option.mem_some_iff] at hn
    subst hn
    decide
  obtain ⟨t, ht, hsim'⟩ := hrun [{ row := 0, plus := true }] ⟨hallowed, fun _ _ => trivial⟩
  exact ⟨s, t, hs, ht, hsim'⟩

end Foodly
