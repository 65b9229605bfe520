import Foodly.Details.Cells
import Foodly.Orders.FromMenu
import Mathlib.Algebra.BigOperators.Group.Finset.Basic

namespace Foodly

open Swift Decimal Runs
open scoped BigOperators

/-!
# What reads "Added" is billed

A user sees a selection in two places: in the labels of the cells and in the bar under them.  The
labels are kept by cells that are bound to other rows later, the bar by the screen, and the cart is
made from neither but from the columns.

The events of the table and those of the cart are followed here up to the order.  As long as the
first keep the labels true, the labels, the bar, the cart and the order speak of the same rows of
the menu:

* `TableState.Sells` — what every run on a menu keeps as long as it keeps the labels true: the
  columns count the added rows, and the bar follows the columns;
* `TableState.Sells.step` — one event that keeps the labels true;
* `TableState.Sells.counts` — what the cart is handed;
* `marked_meals_billed` — from the menu to the order.

The condition on the labels is needed: a cell that was bound to a row it does not agree with may
take out of the cart what another cell has put in.
-/

variable {Image : Type} {A : Assets Image} (R : Nearest)

/-! ### The bar -/

section
variable [BEq String] [BEq Image]

/-- The sum that is shown for counted rows is the sum of the prices of their dishes. -/
theorem CountsEntries.totalText {dishes : List Dish} {menu : List (MealsModel Image)}
    (hmenu : List.Forall₂ (Dish.ShownAs A) dishes menu) {vm : DetailsViewModel ℚ Image}
    {taken : List (ℕ × Entry ℚ Image)} (h : CountsEntries vm (taken.map Prod.snd))
    (htaken : ∀ r ∈ taken, entryAt menu r.1 = some r.2) {rows : Multiset ℕ}
    (hrows : (taken.map Prod.fst : Multiset ℕ) = rows) :
    DetailsViewController.totalText vm.amountArray
      = "$" ++ description (inDollars (rows.map (centsAt dishes)).sum) := by
  obtain ⟨prices, hprices, hamounts⟩ := h.exists_prices hmenu htaken
  have hsum : (prices.map inDollars).sum = inDollars (rows.map (centsAt dishes)).sum := by
    rw [sum_inDollars fun price _ => rfl, List.map_id', ← hrows, ← hprices, Multiset.sum_coe]
  rw [hamounts, totalText_eq fun _ => rfl, hsum]

/-! ### One event -/

/-- An event leaves the screen as it is, or makes one call of the delegate. -/
theorem TableState.screen_step {F : Type} [SwiftFloat F] {p q : TableState F Image}
    {event : TableEvent} (hq : p.step event = some q) :
    q.screen = p.screen ∨
      ∃ title amount image number,
        q.screen = p.screen.didTapAddBtn title amount image number ∨
          p.screen.didTapRemoveBtn title amount image number = some q.screen := by
  cases event with
  | bindNew row =>
    obtain ⟨cell, -, hq⟩ := Option.bind_eq_some_iff.mp hq
    obtain rfl : _ = q := Option.some.inj hq
    exact Or.inl rfl
  | bind i row =>
    obtain ⟨c, -, hq⟩ := Option.bind_eq_some_iff.mp hq
    split at hq
    · obtain ⟨cell, -, hq⟩ := Option.bind_eq_some_iff.mp hq
      obtain rfl : _ = q := Option.some.inj hq
      exact Or.inl rfl
    · cases hq
  | recycle i =>
    obtain ⟨c, -, hq⟩ := Option.bind_eq_some_iff.mp hq
    obtain rfl : _ = q := Option.some.inj hq
    exact Or.inl rfl
  | reloadData =>
    obtain rfl : _ = q := Option.some.inj hq
    exact Or.inl rfl
  | tap i =>
    obtain ⟨c, -, hq⟩ := Option.bind_eq_some_iff.mp hq
    obtain ⟨row, -, hq⟩ := Option.bind_eq_some_iff.mp hq
    obtain ⟨⟨cell, t⟩, ht, hq⟩ := Option.bind_eq_some_iff.mp hq
    obtain rfl : _ = q := Option.some.inj hq
    obtain ⟨image, -, ht⟩ := Option.bind_eq_some_iff.mp ht
    refine Or.inr ⟨c.cell.foodTypeLabel, c.cell.foodAmountLabel, image, c.cell.foodQuantity, ?_⟩
    split at ht
    · obtain ⟨-, rfl⟩ := Prod.mk.inj (Option.some.inj ht)
      exact Or.inl rfl
    · obtain ⟨t', ht', ht⟩ := Option.bind_eq_some_iff.mp ht
      obtain ⟨-, rfl⟩ := Prod.mk.inj (Option.some.inj ht)
      exact Or.inr ht'

/-- What every run on the menu keeps as long as it keeps the labels true. -/
structure TableState.Sells (menu : List (MealsModel Image)) (restName restDiscount : String)
    (p : TableState ℚ Image) : Prop where
  table : TableInvariant menu p
  labels : LabelsAgree p
  bar : p.screen.BarFollows
  name : p.screen.detailViewModel.passRestaurantName = restName
  discount : p.screen.detailViewModel.passRestaurantDiscount = restDiscount

/-- The screen on a menu that has just been loaded. -/
theorem TableState.sells_loaded [EquivBEq String] [EquivBEq Image] (menu : List (MealsModel Image))
    (restName restDiscount : String) :
    TableState.Sells menu restName restDiscount
      { screen := { detailViewModel := { passRestaurantName := restName
                                         passRestaurantDiscount := restDiscount
                                         mealList := menu } } } := by
  have hcolumns : CountsRows
      ({ passRestaurantName := restName, passRestaurantDiscount := restDiscount,
         mealList := menu } : DetailsViewModel ℚ Image) [] :=
    ⟨List.nodup_nil, nofun, fun _ => rfl, fun _ => rfl, fun _ => rfl, rfl, nofun⟩
  have htable : TableInvariant menu
      ({ screen := { detailViewModel := { passRestaurantName := restName
                                          passRestaurantDiscount := restDiscount
                                          mealList := menu } } } : TableState ℚ Image) :=
    ⟨rfl, nofun, nofun, [], hcolumns, rfl⟩
  exact
    { table := htable
      labels := .of_tells htable nofun
      bar := ⟨iff_of_true rfl rfl, fun hne => absurd rfl hne, fun hne => absurd rfl hne⟩
      name := rfl
      discount := rfl }

/-- One event that keeps the labels true. -/
theorem TableState.Sells.step [EquivBEq String] [EquivBEq Image] {menu : List (MealsModel Image)}
    {restName restDiscount : String} {p q : TableState ℚ Image}
    (h : p.Sells menu restName restDiscount) {event : TableEvent} (hkeeps : KeepsLabels p event)
    (hq : p.step event = some q) : q.Sells menu restName restDiscount := by
  obtain ⟨htable, hlabels⟩ := TableState.step_labels h.table h.labels hq
  have hscreen : q.screen.BarFollows ∧
      q.screen.detailViewModel.passRestaurantName = p.screen.detailViewModel.passRestaurantName ∧
      q.screen.detailViewModel.passRestaurantDiscount
        = p.screen.detailViewModel.passRestaurantDiscount := by
    -- Only a tap changes the screen, by a call of the delegate.
    rcases TableState.screen_step hq with hsame | ⟨title, amount, image, number, hadd | hremove⟩
    · rw [hsame]
      exact ⟨h.bar, rfl, rfl⟩
    · rw [hadd]
      exact ⟨.didTapAddBtn _ _ _ _ _, rfl, rfl⟩
    · exact ⟨h.bar.didTapRemoveBtn hremove, passed_didTapRemoveBtn hremove⟩
  obtain ⟨hbar, hname, hdiscount⟩ := hscreen
  exact
    { table := htable hkeeps
      labels := hlabels.mpr hkeeps
      bar := hbar
      name := hname.trans h.name
      discount := hdiscount.trans h.discount }

/-- The added rows are counted by the columns. -/
theorem TableState.Sells.counts {menu : List (MealsModel Image)} {restName restDiscount : String}
    {p : TableState ℚ Image} (h : p.Sells menu restName restDiscount) :
    ∃ taken : List (ℕ × Entry ℚ Image),
      CountsEntries p.screen.detailViewModel (taken.map Prod.snd) ∧
        (∀ r ∈ taken, entryAt menu r.1 = some r.2) ∧
          (taken.map Prod.fst : Multiset ℕ) = p.added.val := by
  obtain ⟨taken, hcolumns, hset⟩ := h.table.columns
  refine ⟨taken, hcolumns.entries, fun r hr => h.table.mealList ▸ hcolumns.menu r hr, ?_⟩
  rw [← hset, List.toFinset_val, hcolumns.nodup.dedup]

end

/-! ### Runs -/

/-- **What is marked is billed.**  A menu of dishes is loaded, and its cells are bound, recycled and
    tapped.  As long as the events keep the labels true, the labels tell which rows are added, the
    bar shows how many they are and what their dishes cost together, and the cart opens with one of
    each of these dishes.  Whatever is tapped there, and whenever a promo is accepted, the order is
    for what is left of them: at their prices on the menu, less the percentage of what was left
    when the last promo was accepted, and with the tax on the former. -/
theorem marked_meals_billed [BEq String] [EquivBEq String] [BEq Image] [EquivBEq Image]
    {documents : QuerySnapshot} {dishes : List Dish}
    (hstored : List.Forall₂ Dish.StoredIn dishes documents)
    {restName restDiscount : String} {vm : DetailsViewModel ℚ Image}
    (hvm : DetailsViewModel.mealsFetched A ℚ
      { passRestaurantName := restName, passRestaurantDiscount := restDiscount }
      (Router.complete (.snapshot documents)) = some vm)
    {events : List TableEvent}
    (hkeeps : Guarded TableState.step KeepsLabels { screen := { detailViewModel := vm } } events)
    {q : TableState ℚ Image}
    (hq : run TableState.step { screen := { detailViewModel := vm } } events = some q) :
    (∀ c ∈ q.cells, ∀ row ∈ c.row, (c.cell.addLabel = "Added" ↔ row ∈ q.added)) ∧
    (q.added.Nonempty → q.screen.numberOfItems = itemsText q.added.card ∧
      q.screen.totalAmount
        = "$" ++ description (inDollars (∑ row ∈ q.added, centsAt dishes row))) ∧
    ∃ (prices : List ℕ) (s : CartsViewController Image),
      (prices : Multiset ℕ) = q.added.val.map (centsAt dishes) ∧
      mealsLeft prices.length [] = q.added.card ∧
      owed prices [] = ∑ row ∈ q.added, centsAt dishes row ∧
      q.screen.viewCartButton.viewDidLoad R = some s ∧
      ∀ cartEvents p,
        run (TappedCart.does R) { screen := s, meals := List.range prices.length } cartEvents
            = some p →
          Bills R restName ((parseFloat restDiscount).getD 0) prices (.of cartEvents)
            p.screen.continueButtonPressed := by
  rw [Router.complete_snapshot, mealsFetched_snapshot] at hvm
  obtain ⟨meals, hmeals, rfl⟩ := Option.map_eq_some_iff.mp hvm
  have hmenu : List.Forall₂ (Dish.ShownAs A) dishes ([] ++ meals) :=
    shownAs_of_mealsOf hstored hmeals
  have hsells : q.Sells ([] ++ meals) restName restDiscount :=
    (always_of_guarded (E := fun _ _ => True)
      (fun p event q hp _ hkeeps hq => hp.step hkeeps hq)
      (TableState.sells_loaded ([] ++ meals) restName restDiscount)
      (allowed_of_forall_mem fun _ _ => trivial) hkeeps).last hq
  obtain ⟨taken, hcolumns, htaken, hrows⟩ := hsells.counts
  have hlength : q.screen.detailViewModel.titleArray.length = q.added.card := by
    -- The bar counts the titles, which are as many as the added rows.
    have htitles := hcolumns.titles.length_eq
    have hcard := congrArg Multiset.card hrows
    simp only [List.length_map, Multiset.coe_card, Finset.card_val] at htitles hcard
    exact htitles.trans hcard
  refine ⟨hsells.labels.label, fun hne => ?_, ?_⟩
  · have hshown : q.screen.detailViewModel.titleArray.length ≠ 0 :=
      hlength ▸ (Finset.card_pos.mpr hne).ne'
    rw [hsells.bar.numberOfItems hshown, hsells.bar.totalAmount hshown, hlength, countText_eq,
      hcolumns.totalText hmenu htaken hrows]
    exact ⟨rfl, rfl⟩
  · obtain ⟨titles, prices, images, hp, hi, hprices, hcart⟩ :=
      hcolumns.handedOver hmenu htaken hrows
    rw [hsells.name, hsells.discount] at hcart
    obtain ⟨s, hs, hbills⟩ := bills_of_opened R hp hi restName restDiscount
    rw [← hcart] at hs
    exact ⟨prices, s, hprices, mealsLeft_of_prices hprices, owed_of_prices hprices, hs, hbills⟩

/-- Two dishes are added, and the first is taken back from the cell that showed the second, after a
    reload has bound it to a row that agrees with its label.  Of the other dish, half the price of
    one is taken off, and then there are two. -/
theorem marked_meals_billed_rebound :
    let documents := [mealDocument "f" "Fish" "300", mealDocument "r" "Rice" "1250"]
    let events := [TableEvent.bindNew 0, .bindNew 1, .tap 0, .tap 1, .reloadData, .bind 1 0, .tap 1]
    let cartEvents := [BillEvent.acceptPromo, .tap { meal := 0, plus := true }]
    ∃ vm, ∃ q : TableState ℚ String, ∃ s p,
      DetailsViewModel.mealsFetched allAssets ℚ
        { passRestaurantName := "Mr Biggs", passRestaurantDiscount := "50" }
        (Router.complete (.snapshot documents)) = some vm ∧
      run TableState.step { screen := { detailViewModel := vm } } events = some q ∧
      q.screen.numberOfItems = "1 item" ∧ q.screen.totalAmount = "$12.5" ∧
      q.screen.viewCartButton.viewDidLoad .halfEven = some s ∧
      run (TappedCart.does .halfEven) { screen := s, meals := [0] } cartEvents = some p ∧
      p.screen.continueButtonPressed.price = "$20.00" := by
  intro documents events cartEvents
  have hstored : List.Forall₂ Dish.StoredIn
      [⟨"Fish", "meal", "Fish", 300⟩, ⟨"Rice", "meal", "Rice", 1250⟩] documents :=
    .cons ⟨rfl, rfl, rfl, by decide⟩ (.cons ⟨rfl, rfl, rfl, by decide⟩ .nil)
  have hrun : ((DetailsViewModel.mealsFetched allAssets ℚ
      ({ passRestaurantName := "Mr Biggs", passRestaurantDiscount := "50" } :
        DetailsViewModel ℚ String)
      (Router.complete (.snapshot documents))).bind fun vm =>
        (run TableState.step { screen := { detailViewModel := vm } } events).map fun q =>
          (decide (Guarded TableState.step KeepsLabels
              { screen := { detailViewModel := vm } } events), q.added,
            ((q.screen.viewCartButton.viewDidLoad .halfEven).bind fun s =>
              run (TappedCart.does .halfEven) { screen := s, meals := [0] } cartEvents).isSome))
      = some (true, {1}, true) := by
    decide +kernel
  obtain ⟨vm, hvm, hrun⟩ := Option.bind_eq_some_iff.mp hrun
  obtain ⟨q, hq, hrun⟩ := Option.map_eq_some_iff.mp hrun
  obtain ⟨hkeeps, hrun⟩ := Prod.mk.inj hrun
  obtain ⟨hadded, hcart⟩ := Prod.mk.inj hrun
  obtain ⟨p, hp⟩ := Option.isSome_iff_exists.mp hcart
  obtain ⟨s, hs, hp⟩ := Option.bind_eq_some_iff.mp hp
  obtain ⟨-, hbar, prices, s', hprices, -, -, hs', hbills⟩ :=
    marked_meals_billed .halfEven hstored hvm (of_decide_eq_true hkeeps) hq
  obtain rfl : s = s' := Option.some.inj (hs.symm.trans hs')
  have hshown := hbar (by rw [hadded]; decide)
  rw [hadded, Finset.sum_singleton, Finset.card_singleton] at hshown
  rw [hadded] at hprices
  obtain rfl : prices = [1250] := Multiset.coe_eq_singleton.mp hprices
  refine ⟨vm, q, s, p, hvm, hq, hshown.1, hshown.2.trans (by decide +kernel), hs, hp, ?_⟩
  exact (hbills cartEvents p hp).price.trans (by decide +kernel)

end Foodly
