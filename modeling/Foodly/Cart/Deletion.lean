import Foodly.Cart.Lines

namespace Foodly

open Swift Decimal Runs

/-!
# Swipe deletion

Deleting a row edits the displayed list only; the arrays, the amounts and the order still
hold the row, and the next reload brings it back.  A user who swipes a row away expects the
opposite, which is what the law here says.

* `RowsState` — the cart screen, and the rows that are left of what the user has done to it;
* `RowsLaw` — the screen displays the rows that are left with their amounts, and the order counts
  and charges them;
* `KeepsRows` — the condition on an action: it is not a deletion;
* `not_rowsLaw_of_delete` — why a deletion breaks the law: the order counts the array of quantities,
  which still has the row;
* `ShowsUnlessDeleted` — what survives a deletion: the arrays hold some lines, and the screen shows
  them unless a row is missing;
* `rows_law_iff` — the law holds throughout a run exactly when the run deletes nothing;
* `deleted_row_reappears` — a deleted row that comes back, and is tapped in its neighbour's place.
-/

variable {Image : Type} (R : Nearest)

/-- The cart screen, and the rows that are left on it. -/
structure RowsState (Image : Type) where
  screen : CartsViewController Image
  lines : List (Line Image)

def RowsState.step (p : RowsState Image) (a : CartAction) : Option (RowsState Image) := do
  let screen ← p.screen.step R a
  return { screen, lines := remaining p.lines a }

/-- The screen displays the rows that are left with their amounts, and the order counts and
    charges them. -/
structure RowsLaw (p : RowsState Image) : Prop where
  rows : p.screen.viewModel.cartItems = p.lines.map (Line.item R)
  itemsTotal : p.screen.itemsTotal = "$" ++ format2f R (total R p.lines)
  taxAmt : p.screen.taxAmt = "$" ++ description (taxOn R (total R p.lines))
  finalAmt : p.screen.finalAmt = "$" ++ format2f R
    (total R p.lines - p.screen.totalDiscount + taxOn R (total R p.lines))
  orderCount : p.screen.continueButtonPressed.items
    = "x " ++ toString p.lines.length ++ " items"
  orderPrice : p.screen.continueButtonPressed.price = "$" ++ format2f R
    (total R p.lines - p.screen.totalDiscount + taxOn R (total R p.lines))

/-- The action is not a swipe deletion. -/
def KeepsRows (a : CartAction) : Prop := ∀ row, a ≠ .delete row

/-! ### One step -/

/-- The order counts the entries of `cartNumber`. -/
theorem orderCount_iff (s : CartsViewController Image) (n : ℕ) :
    s.continueButtonPressed.items = "x " ++ toString n ++ " items" ↔
      s.viewModel.cartNumber.length = n := by
  rw [CartsViewController.continueButtonPressed, String.append_left_inj, String.append_right_inj]
  exact toString_injective.eq_iff

/-- A screen that shows the rows that are left meets the law. -/
theorem rowsLaw_of_shows {lines : List (Line Image)} {s : CartsViewController Image}
    (h : CartsViewController.Shows R lines s) : RowsLaw R { screen := s, lines } := by
  have hfinal : s.finalAmt
      = "$" ++ format2f R (total R lines - s.totalDiscount + taxOn R (total R lines)) :=
    congrArg (·.finalAmt) h.eq_display
  exact
    { rows := by rw [h.viewModel]; rfl
      itemsTotal := congrArg (·.itemsTotal) h.eq_display
      taxAmt := congrArg (·.taxAmt) h.eq_display
      finalAmt := hfinal
      orderCount := (orderCount_iff s _).mpr h.holds.cartNumber_length
      orderPrice := hfinal }

/-- After a deletion the arrays still count the deleted row. -/
theorem not_rowsLaw_of_delete {lines : List (Line Image)} {s t : CartsViewController Image}
    (h : CartsViewController.Shows R lines s) {row : ℕ} (ht : s.commitDelete row = some t) :
    ¬ RowsLaw R { screen := t, lines := lines.eraseIdx row } := by
  intro hlaw
  obtain ⟨items, hitems, hrest⟩ := Option.bind_eq_some_iff.mp ht
  obtain rfl : _ = t := Option.some.inj hrest
  have hrow : row < lines.length := by
    rw [← h.cartItems_length]
    exact (Parallel.removeAt_eq_some_iff.mp hitems).1
  -- The order counts the entries of `cartNumber`, the deleted row's included.
  have hcount : s.viewModel.cartNumber.length = (lines.eraseIdx row).length :=
    (orderCount_iff _ _).mp hlaw.orderCount
  rw [h.holds.cartNumber_length, List.length_eraseIdx_of_lt hrow] at hcount
  omega

/-! ### Rows that are missing -/

namespace CartsViewController

/-- The four arrays hold some lines, and the screen shows them unless a row is missing. -/
def ShowsUnlessDeleted (s : CartsViewController Image) : Prop :=
  ∃ lines, Holds R lines s ∧ (Shows R lines s ∨ s.viewModel.cartItems.length < lines.length)

variable {R}

theorem Shows.unlessDeleted {lines : List (Line Image)} {s : CartsViewController Image}
    (h : Shows R lines s) : s.ShowsUnlessDeleted R := ⟨lines, h.holds, Or.inl h⟩

/-- A screen with a row for every entry of the arrays shows the lines that they hold. -/
theorem ShowsUnlessDeleted.shows {s : CartsViewController Image} (h : s.ShowsUnlessDeleted R)
    (hrows : s.viewModel.cartItems.length = s.viewModel.cartNumber.length) :
    ∃ lines, Shows R lines s := by
  obtain ⟨lines, hholds, hshows | hfewer⟩ := h
  · exact ⟨lines, hshows⟩
  · rw [hrows, hholds.cartNumber_length] at hfewer
    exact absurd hfewer (lt_irrefl _)

/-- A deletion leaves a row missing, and what reloads the rows brings it back. -/
theorem ShowsUnlessDeleted.step {s t : CartsViewController Image} (h : s.ShowsUnlessDeleted R)
    {a : CartAction} (ht : s.step R a = some t) : t.ShowsUnlessDeleted R := by
  obtain ⟨lines, hholds, hrows⟩ := h
  cases a with
  | tap row plus =>
    have hcan := canTap_of_addBtnTapped hholds ht
    rw [CartsViewController.step, addBtnTapped_eq hholds hcan, Option.some.injEq] at ht
    exact ht ▸ (Shows.display (hholds.inRange.tapLine hcan)).unlessDeleted
  | acceptPromo =>
    rw [CartsViewController.step, reloadCartWithDiscount_eq hholds, Option.some.injEq] at ht
    exact ht ▸ (Shows.display hholds.inRange).unlessDeleted
  | viewDidAppear =>
    rcases hrows with hshows | hfewer
    · exact (hshows.step (by simp) ht).unlessDeleted
    · -- The labels are filled in again, from the rows that are left.
      obtain ⟨tax, -, hrest⟩ := Option.bind_eq_some_iff.mp ht
      obtain rfl : _ = t := Option.some.inj hrest
      exact ⟨lines, ⟨hholds.viewModel, rfl, hholds.inRange⟩, Or.inr hfewer⟩
  | delete row =>
    obtain ⟨items, hitems, hrest⟩ := Option.bind_eq_some_iff.mp ht
    obtain rfl : _ = t := Option.some.inj hrest
    obtain ⟨hrow, rfl⟩ := Parallel.removeAt_eq_some_iff.mp hitems
    have hlength : s.viewModel.cartItems.length ≤ lines.length := by
      rcases hrows with hshows | hfewer
      · exact hshows.cartItems_length.le
      · exact hfewer.le
    have hfewer : (s.viewModel.cartItems.eraseIdx row).length < lines.length := by
      rw [List.length_eraseIdx_of_lt hrow]
      omega
    -- The other fields of the view model are left alone.
    have hviewModel := congrArg (fun viewModel : CartViewModel Image =>
      { viewModel with cartItems := s.viewModel.cartItems.eraseIdx row }) hholds.viewModel
    exact ⟨lines, ⟨hviewModel, hholds.initialAmt, hholds.inRange⟩, Or.inr hfewer⟩

end CartsViewController

/-! ### Runs -/

/-- **Deletion.**  On an opened cart, the screen and the order are those of the rows that are
    left throughout a run, exactly when the run deletes no row. -/
theorem rows_law_iff {titles : List String} {prices : List ℚ} {images : List Image}
    {numbers : List String} (hp : prices.length = titles.length)
    (hi : images.length = titles.length) (hn : numbers.length = titles.length)
    (hone : ∀ number ∈ numbers, number = "1") (restName restDiscountValue : String) :
    ∃ s, (CartsViewController.handedOver titles prices images numbers restName
        restDiscountValue).viewDidLoad R = some s ∧
      ∀ as : List CartAction,
        Always (RowsState.step R) (RowsLaw R)
            { screen := s, lines := openedLines titles prices images } as ↔
          Guarded (RowsState.step R) (fun _ a => KeepsRows a)
            { screen := s, lines := openedLines titles prices images } as := by
  obtain rfl : numbers = List.replicate titles.length "1" :=
    List.eq_replicate_iff.mpr ⟨hn, hone⟩
  obtain ⟨s, hs, hshows, -, -⟩ := viewDidLoad_handedOver R hp hi restName restDiscountValue
  have hkeep : ∀ (p : RowsState Image) a q, CartsViewController.Shows R p.lines p.screen →
      KeepsRows a → p.step R a = some q → CartsViewController.Shows R q.lines q.screen := by
    intro p a q hinv hkeeps hq
    obtain ⟨t, ht, hq⟩ := Option.bind_eq_some_iff.mp hq
    obtain rfl : _ = q := Option.some.inj hq
    exact hinv.step hkeeps ht
  have hlaw : ∀ (p : RowsState Image) a q, CartsViewController.Shows R p.lines p.screen →
      p.step R a = some q → (RowsLaw R q ↔ KeepsRows a) := by
    intro p a q hinv hq
    constructor
    · rintro hlaw row rfl
      obtain ⟨t, ht, hq⟩ := Option.bind_eq_some_iff.mp hq
      obtain rfl : _ = q := Option.some.inj hq
      exact not_rowsLaw_of_delete R hinv ht hlaw
    · exact fun hkeeps => rowsLaw_of_shows R (hkeep p a q hinv hkeeps hq)
  refine ⟨s, hs, fun as => always_iff_guarded
    (fun p a q hinv _ _ hkeeps hq => hkeep p a q hinv hkeeps hq)
    (fun p a q hinv _ _ hq => hlaw p a q hinv hq) hshows (rowsLaw_of_shows R hshows)
    (allowed_of_forall_mem (E := fun _ => True) fun _ _ => trivial)⟩

/-- One meal is taken twice and a promo accepted on it, and the law is kept. -/
theorem rows_law_iff_taps : ∃ s,
    (CartsViewController.handedOver ["Rice"] [10] [()] ["1"] "Mr Biggs" "50").viewDidLoad .halfEven
      = some s ∧
    Always (RowsState.step .halfEven) (RowsLaw .halfEven)
      { screen := s, lines := openedLines ["Rice"] [10] [()] }
      [.tap 0 true, .acceptPromo] := by
  obtain ⟨s, hs, hiff⟩ := @rows_law_iff Unit .halfEven ["Rice"] [10] [()] ["1"] rfl rfl rfl
    (by decide) "Mr Biggs" "50"
  refine ⟨s, hs, (hiff _).mpr fun t _ => ⟨?_, fun u _ => ⟨?_, trivial⟩⟩⟩
  · intro row h
    cases h
  · intro row h
    cases h

/-- The first of two rows is deleted, and a tap on plus on the row that is left brings it back
    with one more of the deleted meal. -/
theorem deleted_row_reappears : ¬ ∀ (as : List CartAction) (s : CartsViewController Unit),
    (CartsViewController.handedOver ["Rice", "Fish"] [10, 4] [(), ()] ["1", "1"] "Mr Biggs"
      "50").viewDidLoad .halfEven = some s →
    Always (RowsState.step .halfEven) (RowsLaw .halfEven)
      { screen := s, lines := openedLines ["Rice", "Fish"] [10, 4] [(), ()] } as := by
  intro h
  have hvalues : ((CartsViewController.handedOver ["Rice", "Fish"] [10, 4] [(), ()] ["1", "1"]
      "Mr Biggs" "50").viewDidLoad .halfEven).bind (fun s =>
        (run (RowsState.step .halfEven)
          { screen := s, lines := openedLines ["Rice", "Fish"] [10, 4] [(), ()] }
          [.delete 0, .tap 0 true]).map fun p =>
          (p.screen.viewModel.cartItems.map fun item => (item.itemName, item.itemNumber),
            p.lines.map fun l => (l.title, l.quantity)))
      = some ([("Rice", "2"), ("Fish", "1")], [("Fish", 2)]) := by
    decide +kernel
  obtain ⟨s, hs, hrun⟩ := Option.bind_eq_some_iff.mp hvalues
  obtain ⟨p, hp, hp'⟩ := Option.map_eq_some_iff.mp hrun
  obtain ⟨hitems, hlines⟩ := Prod.mk.inj hp'
  -- The law promises as many rows as are left, which is one; the screen has two.
  have hlaw := congrArg List.length ((h _ s hs).last hp).rows
  have hitems' := congrArg List.length hitems
  have hlines' := congrArg List.length hlines
  simp only [List.length_map, List.length_cons, List.length_nil] at hlaw hitems' hlines'
  omega

end Foodly
