import Foodly.Cart.Deletion
import Foodly.Lib.Purge

namespace Foodly

open Swift Decimal Runs

/-!
# Swiped rows

A swipe takes a row off the screen and out of no array, and the order is made of the arrays and of
the labels.  So a run with deletions is compared with the run that leaves them out: the two keep
the same arrays under the same discount, and what reloads the cart makes their screens the same.

* `CartAction.Reloads` — the action builds the rows from the arrays again;
* `behind`, `step_eq_of_behind` — what a reload starts from, and that it does the same on two
  screens that have the same behind them;
* `ShowsSomeOf` — the screen shows some of the rows of another one, and has the same arrays;
* `LacksRowsOf` — the same, where nothing but rows is missing, so that both place the same order;
* `AppearsInFull` — the screen appears again only while no row is missing: `viewDidAppear` adds up
  the rows that are there, and it changes the labels when some are not;
* `orders_ignore_deletions` — the comparison for whole runs, up to the next reload, at a reload, and
  as long as the screen appears in full.
-/

variable {Image : Type} (R : Nearest)

instance : (a : CartAction) → Decidable (KeepsRows a)
  | .delete row => isFalse fun h => h row rfl
  | .tap _ _ => isTrue fun _ h => CartAction.noConfusion h
  | .acceptPromo => isTrue fun _ h => CartAction.noConfusion h
  | .viewDidAppear => isTrue fun _ h => CartAction.noConfusion h

/-- The action builds the rows from the arrays again. -/
def CartAction.Reloads : CartAction → Prop
  | .tap _ _ | .acceptPromo => True
  | .viewDidAppear | .delete _ => False

/-- The screen appears again only while no row is missing. -/
def AppearsInFull (s : CartsViewController Image) : CartAction → Prop
  | .viewDidAppear => s.viewModel.cartItems.length = s.viewModel.cartNumber.length
  | .tap _ _ | .acceptPromo | .delete _ => True

instance (s : CartsViewController Image) : (a : CartAction) → Decidable (AppearsInFull s a)
  | .viewDidAppear => inferInstanceAs (Decidable (_ = _))
  | .tap _ _ | .acceptPromo | .delete _ => inferInstanceAs (Decidable True)

namespace CartsViewController

/-- The screen with other rows. -/
def withItems (s : CartsViewController Image) (cartItems : List (CartModel Image)) :
    CartsViewController Image :=
  { s with viewModel := { s.viewModel with cartItems } }

/-- What a reload starts from: neither the rows nor the labels. -/
def behind (s : CartsViewController Image) : CartsViewController Image where
  restName := s.restName
  restDiscountValue := s.restDiscountValue
  discount := s.discount
  totalDiscount := s.totalDiscount
  viewModel := { s.viewModel with cartItems := [] }
  initialAmt := s.initialAmt

/-! ### Reloading -/

/-- What is displayed is a function of the lines and of what is behind the screen. -/
theorem display_behind (lines : List (Line Image)) (s : CartsViewController Image) :
    display R lines s.behind = display R lines s := rfl

variable {R}

/-- A screen holds what another one with the same arrays shows. -/
theorem Shows.holds_of_behind {lines : List (Line Image)} {s r : CartsViewController Image}
    (h : Shows R lines r) (hbehind : s.behind = r.behind) : Holds R lines s where
  viewModel := by
    have hviewModel : { s.viewModel with cartItems := [] }
        = { CartViewModel.ofLines R lines with cartItems := [] } := by
      rw [← h.viewModel]
      exact congrArg (·.viewModel) hbehind
    exact congrArg (fun viewModel : CartViewModel Image =>
      { viewModel with cartItems := s.viewModel.cartItems }) hviewModel
  initialAmt := (congrArg (·.initialAmt) hbehind).trans h.initialAmt
  inRange := h.inRange

/-- **Reload.**  A tap or a promo does the same on two screens with the same arrays and the same
    discount, whichever of the rows they show. -/
theorem step_eq_of_behind {lines : List (Line Image)} {s r : CartsViewController Image}
    (h : Shows R lines r) (hbehind : s.behind = r.behind) {a : CartAction} (ha : a.Reloads) :
    s.step R a = r.step R a := by
  have hholds := h.holds_of_behind hbehind
  cases a with
  | tap row plus =>
    by_cases hcan : CanTap lines row plus
    · rw [CartsViewController.step, CartsViewController.step, addBtnTapped_eq hholds hcan,
        addBtnTapped_eq h.holds hcan, ← display_behind, hbehind, display_behind]
    · -- The tap traps on both.
      have hnone : ∀ {s : CartsViewController Image}, Holds R lines s →
          s.addBtnTapped R row plus = none := fun hs =>
        Option.eq_none_iff_forall_ne_some.mpr fun t ht => hcan (canTap_of_addBtnTapped hs ht)
      exact (hnone hholds).trans (hnone h.holds).symm
  | acceptPromo =>
    have hvalue : s.restDiscountValue = r.restDiscountValue :=
      congrArg (·.restDiscountValue) hbehind
    have hname : s.restName = r.restName := congrArg (·.restName) hbehind
    rw [CartsViewController.step, CartsViewController.step, reloadCartWithDiscount_eq hholds,
      reloadCartWithDiscount_eq h.holds, hvalue]
    simp only [display, hname]
  | viewDidAppear => exact absurd ha id
  | delete row => exact absurd ha id

/-- The appearing screen fills in its labels and keeps the rest. -/
theorem of_viewDidAppear {s t : CartsViewController Image} (h : s.viewDidAppear R = some t)
    (hamt : s.initialAmt = []) :
    t.behind = s.behind ∧ t.viewModel.cartItems = s.viewModel.cartItems := by
  obtain ⟨tax, -, h⟩ := Option.bind_eq_some_iff.mp h
  obtain rfl : _ = t := Option.some.inj h
  refine ⟨?_, rfl⟩
  simp only [behind, hamt]

/-- A deletion takes one row away. -/
theorem of_commitDelete {s t : CartsViewController Image} {row : ℕ}
    (h : s.commitDelete row = some t) : t = s.withItems (s.viewModel.cartItems.eraseIdx row) := by
  obtain ⟨items, hitems, h⟩ := Option.bind_eq_some_iff.mp h
  obtain rfl : _ = t := Option.some.inj h
  rw [(Parallel.removeAt_eq_some_iff.mp hitems).2]
  rfl

/-! ### Screens that lack some rows -/

variable (R) in
/-- The screen shows some of the rows of another, which shows some lines, and has the same
    arrays. -/
structure ShowsSomeOf (s r : CartsViewController Image) : Prop where
  shows : ∃ lines, Shows R lines r
  behind : s.behind = r.behind
  rows : s.viewModel.cartItems.Sublist r.viewModel.cartItems

variable (R) in
/-- The same, where nothing but rows is missing. -/
structure LacksRowsOf (s r : CartsViewController Image) : Prop extends ShowsSomeOf R s r where
  eq_withItems : s = r.withItems s.viewModel.cartItems

/-- An action that keeps the rows can be done on the other screen as well. -/
theorem ShowsSomeOf.keepsRows {r s t : CartsViewController Image} (h : ShowsSomeOf R s r)
    {a : CartAction} (ha : KeepsRows a) (ht : s.step R a = some t) :
    ∃ u, r.step R a = some u ∧ ShowsSomeOf R t u := by
  obtain ⟨lines, hshows⟩ := h.shows
  by_cases hreloads : a.Reloads
  · -- A reload brings the rows back that were missing.
    rw [step_eq_of_behind hshows h.behind hreloads] at ht
    exact ⟨t, ht, ⟨_, hshows.step ha ht⟩, rfl, List.Sublist.refl _⟩
  · cases a with
    | viewDidAppear =>
      have hamt := (hshows.holds_of_behind h.behind).initialAmt
      obtain ⟨hbehind, hrows⟩ := of_viewDidAppear ht hamt
      exact ⟨r, viewDidAppear_eq hshows, ⟨lines, hshows⟩, hbehind.trans h.behind, hrows ▸ h.rows⟩
    | delete row => exact absurd rfl (ha row)
    | tap row plus => exact absurd trivial hreloads
    | acceptPromo => exact absurd trivial hreloads

/-- A deletion leaves a row less of those of the other screen, and the rest as it is. -/
theorem ShowsSomeOf.deletes {r s t : CartsViewController Image} (h : ShowsSomeOf R s r)
    {a : CartAction} (ha : ¬KeepsRows a) (ht : s.step R a = some t) :
    ShowsSomeOf R t r ∧ t = s.withItems t.viewModel.cartItems := by
  obtain ⟨row, rfl⟩ : ∃ row, a = .delete row := by simpa [KeepsRows] using ha
  obtain rfl := of_commitDelete ht
  exact ⟨⟨h.shows, h.behind, (List.eraseIdx_sublist _ _).trans h.rows⟩, rfl⟩

/-- With a row for every entry of the arrays, no row is missing. -/
theorem LacksRowsOf.eq_of_length {r s : CartsViewController Image} (h : LacksRowsOf R s r)
    (hlength : s.viewModel.cartItems.length = s.viewModel.cartNumber.length) : s = r := by
  obtain ⟨lines, hshows⟩ := h.shows
  have hrows : s.viewModel.cartItems.length = r.viewModel.cartItems.length := by
    rw [hlength, (hshows.holds_of_behind h.behind).cartNumber_length, hshows.cartItems_length]
  rw [h.eq_withItems, h.rows.eq_of_length hrows]
  rfl

/-- Nothing but rows is missing as long as the screen appears in full. -/
theorem LacksRowsOf.keepsRows {r s t : CartsViewController Image} (h : LacksRowsOf R s r)
    {a : CartAction} (ha : KeepsRows a) (hfull : AppearsInFull s a) (ht : s.step R a = some t) :
    ∃ u, r.step R a = some u ∧ LacksRowsOf R t u := by
  obtain ⟨u, hu, hsome⟩ := h.toShowsSomeOf.keepsRows ha ht
  refine ⟨u, hu, hsome, ?_⟩
  obtain ⟨lines, hshows⟩ := h.shows
  by_cases hreloads : a.Reloads
  · rw [step_eq_of_behind hshows h.behind hreloads, hu] at ht
    obtain rfl := Option.some.inj ht
    rfl
  · -- Of the actions that reload nothing only `viewDidAppear` keeps the rows; it needs all of them.
    cases a with
    | viewDidAppear =>
      obtain rfl := h.eq_of_length hfull
      obtain rfl := Option.some.inj (ht.symm.trans hu)
      rfl
    | delete row => exact absurd rfl (ha row)
    | tap row plus => exact absurd trivial hreloads
    | acceptPromo => exact absurd trivial hreloads

theorem LacksRowsOf.deletes {r s t : CartsViewController Image} (h : LacksRowsOf R s r)
    {a : CartAction} (ha : ¬KeepsRows a) (ht : s.step R a = some t) : LacksRowsOf R t r := by
  obtain ⟨hsome, heq⟩ := h.toShowsSomeOf.deletes ha ht
  rw [h.eq_withItems] at heq
  exact ⟨hsome, heq⟩

end CartsViewController

/-! ### Runs -/

/-- **Deletions.**  On an opened cart, the actions of a run other than its deletions lead to the
    same arrays under the same discount, on a screen that shows the rows that are left and maybe
    more.
    Whatever reloads the cart makes the two screens the same; and as long as the screen appears
    only while no row is missing, they differ in those rows alone, and place the same order. -/
theorem orders_ignore_deletions {titles : List String} {prices : List ℚ} {images : List Image}
    {numbers : List String} (hp : prices.length = titles.length)
    (hi : images.length = titles.length) (hn : numbers.length = titles.length)
    (hone : ∀ number ∈ numbers, number = "1") (restName restDiscountValue : String) :
    ∃ s, (CartsViewController.handedOver titles prices images numbers restName
        restDiscountValue).viewDidLoad R = some s ∧
      ∀ as t, run (CartsViewController.step R) s as = some t →
        ∃ u, run (CartsViewController.step R) s (as.filter fun a => KeepsRows a) = some u ∧
          t.behind = u.behind ∧ t.viewModel.cartItems.Sublist u.viewModel.cartItems ∧
          (∀ a : CartAction, a.Reloads → t.step R a = u.step R a) ∧
          (Guarded (CartsViewController.step R) AppearsInFull s as →
            t = u.withItems t.viewModel.cartItems ∧
              t.continueButtonPressed = u.continueButtonPressed) := by
  obtain rfl : numbers = List.replicate titles.length "1" :=
    List.eq_replicate_iff.mpr ⟨hn, hone⟩
  obtain ⟨s, hs, hshows, -, -⟩ := viewDidLoad_handedOver R hp hi restName restDiscountValue
  have hstart : CartsViewController.LacksRowsOf R s s :=
    ⟨⟨⟨_, hshows⟩, rfl, List.Sublist.refl _⟩, rfl⟩
  refine ⟨s, hs, fun as t ht => ?_⟩
  have hvisible : ∀ (s r : CartsViewController Image) a t, CartsViewController.ShowsSomeOf R s r →
      KeepsRows a → s.step R a = some t →
        ∃ u, r.step R a = some u ∧ CartsViewController.ShowsSomeOf R t u :=
    fun _ _ _ _ h ha ht => h.keepsRows ha ht
  obtain ⟨u, hu, hsome⟩ := run_purge hvisible (fun _ _ _ _ h ha ht => (h.deletes ha ht).1)
    hstart.toShowsSomeOf ht
  rw [purge_eq_filter ht] at hu
  obtain ⟨lines, hlines⟩ := hsome.shows
  refine ⟨u, hu, hsome.behind, hsome.rows, fun a ha =>
    CartsViewController.step_eq_of_behind hlines hsome.behind ha, fun hfull => ?_⟩
  have hfullVisible : ∀ (s r : CartsViewController Image) a t,
      CartsViewController.LacksRowsOf R s r → KeepsRows a → AppearsInFull s a →
        s.step R a = some t → ∃ u, r.step R a = some u ∧ CartsViewController.LacksRowsOf R t u :=
    fun _ _ _ _ h ha hfull ht => h.keepsRows ha hfull ht
  -- The same purged run again, now with the screens equal up to rows.
  obtain ⟨u', hu', hlacks⟩ := run_purge_of_guarded hfullVisible
    (fun _ _ _ _ h ha _ ht => h.deletes ha ht) hstart hfull ht
  rw [purge_eq_filter ht] at hu'
  obtain rfl : u = u' := Option.some.inj (hu.symm.trans hu')
  exact ⟨hlacks.eq_withItems, congrArg (·.continueButtonPressed) hlacks.eq_withItems⟩

/-- One row is deleted before a promo and comes back with it, another one after: it is not on the
    screen, and it is ordered. -/
theorem orders_ignore_deletions_two : ∃ s t u,
    (CartsViewController.handedOver ["Rice", "Fish"] [10, 4] [(), ()] ["1", "1"] "Mr Biggs"
      "50").viewDidLoad .halfEven = some s ∧
    run (CartsViewController.step .halfEven) s [.tap 1 true, .delete 0, .acceptPromo, .delete 1]
      = some t ∧
    run (CartsViewController.step .halfEven) s [.tap 1 true, .acceptPromo] = some u ∧
    t.viewModel.cartItems.map (·.itemName) = ["Rice"] ∧
    t.continueButtonPressed.items = "x 2 items" ∧
    t.continueButtonPressed = u.continueButtonPressed := by
  obtain ⟨s, hs, hruns⟩ := @orders_ignore_deletions Unit .halfEven ["Rice", "Fish"] [10, 4]
    [(), ()] ["1", "1"] rfl rfl rfl (by decide) "Mr Biggs" "50"
  have hvalues : ((CartsViewController.handedOver ["Rice", "Fish"] [10, 4] [(), ()] ["1", "1"]
      "Mr Biggs" "50").viewDidLoad .halfEven).bind (fun s =>
        (run (CartsViewController.step .halfEven) s
          [.tap 1 true, .delete 0, .acceptPromo, .delete 1]).map fun t =>
          (decide (Guarded (CartsViewController.step .halfEven) AppearsInFull s
              [.tap 1 true, .delete 0, .acceptPromo, .delete 1]),
            t.viewModel.cartItems.map (·.itemName), t.continueButtonPressed.items))
      = some (true, ["Rice"], "x 2 items") := by
    decide +kernel
  rw [hs, Option.bind_some] at hvalues
  obtain ⟨t, ht, hvalues⟩ := Option.map_eq_some_iff.mp hvalues
  obtain ⟨hfull, hvalues⟩ := Prod.mk.inj hvalues
  obtain ⟨hnames, hitems⟩ := Prod.mk.inj hvalues
  obtain ⟨u, hu, -, -, -, horder⟩ := hruns _ t ht
  exact ⟨s, t, u, hs, ht, hu, hnames, hitems, (horder (of_decide_eq_true hfull)).2⟩

end Foodly
