import Foodly.Cart.Bill
import Foodly.Details.Menu
import Foodly.Details.SummaryBar
import Foodly.Orders.Confirmations

namespace Foodly

open Swift Decimal Runs KeyedRows Parallel

/-!
# From the menu to the order

What a dish costs is stored once, in cents, on the menu of its restaurant.  The text passes
through five screens and as many conversions before it is charged: `getRestaurantMeals` divides
it by 100, the details screen parses it again, the cart multiplies and rounds it, the labels add
up what is there, and the order takes the text of a label.  In exact arithmetic nothing is lost on
the way:

* `Dish`, `Dish.StoredIn` — a dish at its price in cents, and the document it is stored in;
* `shownAs_of_mealsOf` — the meals that are decoded from the documents of some dishes are shown as
  these dishes;
* `HoldsDishes`, `HoldsDishes.run_add` — the columns of the details screen are those of some dishes,
  and what a run of Add taps makes of them;
* `CountsEntries.handedOver` — the cart that is handed the columns of counted rows, in some order;
* `charged_menu_prices` — dishes that are only added are charged in the order of the taps;
* `charged_for_selection` — where dishes are taken back as well, a row of the cart may have come to
  the price of another dish, but together the rows have the prices of the dishes that are left.
-/

variable {Image : Type} (A : Assets Image) (R : Nearest)

/-! ### The menu -/

/-- A dish of a menu, at its price in cents. -/
structure Dish where
  name : String
  imageName : String
  recipe : String
  price : ℕ
  deriving DecidableEq, Repr

/-- The document has the fields of the dish. -/
structure Dish.StoredIn (dish : Dish) (document : Document) : Prop where
  name : stringField document.data "name" = some dish.name
  imageName : stringField document.data "imageName" = some dish.imageName
  recipe : stringField document.data "recipe" = some dish.recipe
  price : stringField document.data "price" = some (toString dish.price)

/-- The price in dollars. -/
def Dish.dollars (dish : Dish) : ℚ := inDollars dish.price

/-- The meal that is shown for the dish, with its picture. -/
def Dish.meal (dish : Dish) (image : Image) : MealsModel Image where
  mealName := dish.name
  mealImage := some image
  mealPrice := description dish.dollars
  mealRecipe := dish.recipe

/-- The meal on the screen is that of the dish. -/
def Dish.ShownAs (dish : Dish) (meal : MealsModel Image) : Prop :=
  ∃ image, A.named dish.imageName = some image ∧ meal = dish.meal image

/-- The text of the price on the screen is parsed to the price. -/
theorem Dish.parseFloat_mealPrice (dish : Dish) :
    parseFloat (description dish.dollars) = some dish.dollars :=
  parseFloat_description (decimals_of_whole (inDollars_mul dish.price))

variable {A}

/-- What the loop reads from the document of a dish. -/
theorem Dish.mealFields_of_storedIn {dish : Dish} {document : Document}
    (h : dish.StoredIn document) :
    mealFields ℚ document.data = some
      { mealName := dish.name, mealImageName := dish.imageName, mealRecipe := dish.recipe,
        mealNewPrice := description dish.dollars } := by
  have hprice : (SwiftDouble.ofText (toString dish.price) : Option ℚ) = some (dish.price : ℚ) :=
    parseFloat_toString dish.price
  simp only [mealFields, h.name, h.imageName, h.recipe, h.price, hprice, Option.bind_eq_bind,
    Option.bind_some]
  rfl

/-- **The menu.**  The meals decoded from the documents of some dishes are those of the dishes. -/
theorem shownAs_of_mealsOf {dishes : List Dish} {documents : QuerySnapshot}
    (hstored : List.Forall₂ Dish.StoredIn dishes documents) {meals : List (MealsModel Image)}
    (h : mealsOf A ℚ documents = some meals) : List.Forall₂ (Dish.ShownAs A) dishes meals := by
  -- By induction on the dishes with their documents; none of these is skipped.
  induction hstored generalizing meals with
  | nil =>
    obtain rfl : [] = meals := Option.some.inj h
    exact .nil
  | cons hdish _ ih =>
    rw [mealsOf_cons_some A ℚ _ (Dish.mealFields_of_storedIn hdish)] at h
    obtain ⟨meal, hmeal, h⟩ := Option.bind_eq_some_iff.mp h
    obtain ⟨rest, hrest, rfl⟩ := Option.map_eq_some_iff.mp h
    obtain ⟨image, himage, hmeal⟩ := Option.bind_eq_some_iff.mp hmeal
    exact .cons ⟨image, himage, (Option.some.inj hmeal).symm⟩ (ih hrest)

/-! ### The details screen -/

/-- The columns of the details screen are those of some dishes with their pictures, each once. -/
structure HoldsDishes (vm : DetailsViewModel ℚ Image) (chosen : List (Dish × Image)) : Prop where
  titles : vm.titleArray = chosen.map (·.1.recipe)
  amounts : vm.amountArray = chosen.map (·.1.dollars)
  images : vm.imageArray = chosen.map (·.2)
  quantities : vm.quantityOfItems = List.replicate chosen.length "1"

/-- A row of the screen shows the dish on that row of the menu. -/
theorem exists_dish {dishes : List Dish} {menu : List (MealsModel Image)}
    (hmenu : List.Forall₂ (Dish.ShownAs A) dishes menu) {row : ℕ} {meal : MealsModel Image}
    (hmeal : menu[row]? = some meal) :
    ∃ dish, dishes[row]? = some dish ∧ dish.ShownAs A meal := by
  obtain ⟨hrow, rfl⟩ := List.getElem?_eq_some_iff.mp hmeal
  have hrow' : row < dishes.length := hmenu.length_eq ▸ hrow
  exact ⟨dishes[row], List.getElem?_eq_getElem hrow', hmenu.get hrow' hrow⟩

section
variable [BEq String] [BEq Image]

/-- An Add tap on the row of a dish adds it to the columns. -/
theorem HoldsDishes.add {dishes : List Dish} {p q : SelectionState ℚ Image} {row : ℕ}
    {chosen : List (Dish × Image)} (h : HoldsDishes p.screen.detailViewModel chosen)
    (hmenu : List.Forall₂ (Dish.ShownAs A) dishes p.screen.detailViewModel.mealList)
    (hq : p.step (.add row) = some q) :
    ∃ dish image, dishes[row]? = some dish ∧
      HoldsDishes q.screen.detailViewModel (chosen ++ [(dish, image)]) := by
  obtain ⟨meal, image, hmeal, himage, rfl⟩ := SelectionState.of_add hq
  obtain ⟨dish, hdish, image', -, rfl⟩ := exists_dish hmenu hmeal
  obtain rfl : image' = image := Option.some.inj himage
  refine ⟨dish, image', hdish, ?_⟩
  -- The text of the price is parsed again, and nothing is lost.
  have hprice : (SwiftFloat.ofText (description dish.dollars) : Option ℚ) = some dish.dollars :=
    dish.parseFloat_mealPrice
  simp only [DetailsViewController.didTapAddBtn, Dish.meal, hprice, Option.getD_some]
  exact
    { titles := by rw [h.titles, List.map_append]; rfl
      amounts := by rw [h.amounts, List.map_append]; rfl
      images := by rw [h.images, List.map_append]; rfl
      quantities := by
        rw [h.quantities, List.length_append, List.length_singleton, List.replicate_succ'] }

/-- What a run of Add taps leaves: the columns of the dishes that were added, in that order. -/
theorem HoldsDishes.run_add {dishes : List Dish} {p q : SelectionState ℚ Image} {rows : List ℕ}
    {chosen : List (Dish × Image)} (h : HoldsDishes p.screen.detailViewModel chosen)
    (hmenu : List.Forall₂ (Dish.ShownAs A) dishes p.screen.detailViewModel.mealList)
    (hq : run SelectionState.step p (rows.map .add) = some q) :
    ∃ added, rows.mapM (fun row => dishes[row]?) = some (added.map Prod.fst) ∧
      added.length = rows.length ∧
        HoldsDishes q.screen.detailViewModel (chosen ++ added) := by
  -- By induction on the taps; every one of them adds the dish of its row behind the others.
  induction rows generalizing p chosen with
  | nil =>
    obtain rfl : p = q := Option.some.inj hq
    exact ⟨[], rfl, rfl, by rwa [List.append_nil]⟩
  | cons row rows ih =>
    rw [List.map_cons, run_cons] at hq
    obtain ⟨u, hu, hrun⟩ := Option.bind_eq_some_iff.mp hq
    obtain ⟨dish, image, hdish, hcolumns⟩ := h.add hmenu hu
    obtain ⟨meal, image', -, -, rfl⟩ := SelectionState.of_add hu
    obtain ⟨added, hadded, hlength, hcolumns'⟩ := ih hcolumns hmenu hrun
    refine ⟨(dish, image) :: added, ?_, congrArg (· + 1) hlength, ?_⟩
    · rw [List.mapM_cons, hdish, hadded]
      rfl
    · rwa [List.append_assoc, List.singleton_append] at hcolumns'

/-- A removal leaves alone what was passed on of the restaurant. -/
theorem passed_didTapRemoveBtn {s t : DetailsViewController ℚ Image}
    {title amount number : String} {image : Image}
    (h : s.didTapRemoveBtn title amount image number = some t) :
    t.detailViewModel.passRestaurantName = s.detailViewModel.passRestaurantName ∧
      t.detailViewModel.passRestaurantDiscount = s.detailViewModel.passRestaurantDiscount := by
  obtain ⟨titles, -, h⟩ := Option.bind_eq_some_iff.mp h
  obtain ⟨price, -, h⟩ := Option.bind_eq_some_iff.mp h
  obtain ⟨amounts, -, h⟩ := Option.bind_eq_some_iff.mp h
  obtain ⟨images, -, h⟩ := Option.bind_eq_some_iff.mp h
  obtain ⟨numbers, -, h⟩ := Option.bind_eq_some_iff.mp h
  obtain rfl := Option.some.inj h
  exact ⟨rfl, rfl⟩

/-- No tap changes the name of the restaurant. -/
theorem SelectionState.passRestaurantName_step {p q : SelectionState ℚ Image} {tap : RowTap}
    (hq : p.step tap = some q) : q.screen.detailViewModel.passRestaurantName
      = p.screen.detailViewModel.passRestaurantName := by
  cases tap with
  | add row =>
    obtain ⟨-, -, -, -, rfl⟩ := SelectionState.of_add hq
    rfl
  | remove row =>
    obtain ⟨_, _, _, -, -, hscreen, rfl⟩ := SelectionState.of_remove hq
    exact (passed_didTapRemoveBtn hscreen).1

/-! ### The order -/

omit [BEq String] [BEq Image] in
/-- The cart of columns with whole-cent prices, each of one item. -/
theorem viewCartButton_inDollars {s : DetailsViewController ℚ Image} {prices : List ℕ}
    (hamounts : s.detailViewModel.amountArray = prices.map inDollars)
    (hquantities : s.detailViewModel.quantityOfItems
      = List.replicate s.detailViewModel.titleArray.length "1") :
    s.viewCartButton = .handedOver s.detailViewModel.titleArray (prices.map inDollars)
      s.detailViewModel.imageArray (List.replicate s.detailViewModel.titleArray.length "1")
      s.detailViewModel.passRestaurantName s.detailViewModel.passRestaurantDiscount := by
  rw [DetailsViewController.viewCartButton, hamounts, hquantities, List.map_map]
  rfl

/-- **What is charged.**  A menu of dishes is loaded, some of its rows are added, the cart is opened
    and its rows are tapped: the order then counts the meals that are left, and its price is what
    these cost on the menu, to the cent, with the tax on it; and so it is stored for the user and
    shown in the history. -/
theorem charged_menu_prices {documents : QuerySnapshot} {dishes : List Dish}
    (hstored : List.Forall₂ Dish.StoredIn dishes documents) {restName restDiscount : String}
    {vm : DetailsViewModel ℚ Image}
    (hvm : DetailsViewModel.mealsFetched A ℚ
      { passRestaurantName := restName, passRestaurantDiscount := restDiscount }
      (Router.complete (.snapshot documents)) = some vm)
    {rows : List ℕ} {q : SelectionState ℚ Image}
    (hq : run SelectionState.step { screen := { detailViewModel := vm } } (rows.map .add)
      = some q) :
    ∃ added s, rows.mapM (fun row => dishes[row]?) = some added ∧
      q.screen.viewCartButton.viewDidLoad R = some s ∧
      ∀ taps p, run (TappedCart.step R) { screen := s, meals := List.range rows.length } taps
          = some p →
        let food := p.screen.continueButtonPressed
        Charges R restName (added.map Dish.price) taps food ∧
        ∀ user generated,
          OrderService.createOrder (some user) generated food
            = some ((orderHistoryOf user).document generated, food.asParameter) ∧
          historyDetail A ⟨generated, food.asParameter⟩
            = some { name := restName, itemNumber := food.items, image := A.named food.image,
                     amount := food.price } := by
  rw [Router.complete_snapshot, mealsFetched_snapshot] at hvm
  obtain ⟨meals, hmeals, rfl⟩ := Option.map_eq_some_iff.mp hvm
  have hmenu : List.Forall₂ (Dish.ShownAs A) dishes ([] ++ meals) :=
    shownAs_of_mealsOf hstored hmeals
  have hempty : HoldsDishes
      ({ passRestaurantName := restName, passRestaurantDiscount := restDiscount,
         mealList := [] ++ meals } : DetailsViewModel ℚ Image) [] := ⟨rfl, rfl, rfl, rfl⟩
  obtain ⟨chosen, hchosen, hcount, hholds⟩ := hempty.run_add hmenu hq
  -- No tap on the menu changes the restaurant that the cart is told.
  have hname : q.screen.detailViewModel.passRestaurantName = restName :=
    run_history (P := fun _ q => q.screen.detailViewModel.passRestaurantName = restName)
      (fun _ _ _ _ hp hstep => (SelectionState.passRestaurantName_step hstep).trans hp) rfl hq
  rw [List.nil_append] at hholds
  have htitles : q.screen.detailViewModel.titleArray.length = chosen.length := by
    rw [hholds.titles, List.length_map]
  have hprices : (chosen.map (·.1.price)).length = q.screen.detailViewModel.titleArray.length := by
    rw [htitles, List.length_map]
  have himages : q.screen.detailViewModel.imageArray.length
      = q.screen.detailViewModel.titleArray.length := by
    rw [htitles, hholds.images, List.length_map]
  have hamounts : q.screen.detailViewModel.amountArray
      = (chosen.map (·.1.price)).map inDollars := by
    rw [hholds.amounts, List.map_map]
    rfl
  obtain ⟨s, hs, hcharges⟩ := charges_of_opened R hprices himages
    q.screen.detailViewModel.passRestaurantName q.screen.detailViewModel.passRestaurantDiscount
  rw [← viewCartButton_inDollars hamounts (htitles ▸ hholds.quantities)] at hs
  refine ⟨chosen.map Prod.fst, s, hchosen, hs, fun taps p hp => ?_⟩
  rw [← hcount, ← List.length_map (·.1.price)] at hp
  have hfood := hcharges taps p hp
  rw [hname] at hfood
  rw [List.map_map]
  refine ⟨hfood, fun user generated => ⟨rfl, ?_⟩⟩
  rw [historyDetail_asParameter, Food.historyRow, hfood.name]

end

/-- Two dishes, the second of them added first and taken twice. -/
theorem charged_menu_prices_two :
    let documents := [mealDocument "r" "Rice" "1250", mealDocument "f" "Fish" "300"]
    let taps : List MealTap := [{ meal := 0, plus := true }]
    ∃ vm, ∃ q : SelectionState ℚ String, ∃ s p,
      DetailsViewModel.mealsFetched allAssets ℚ { passRestaurantName := "Mr Biggs" }
        (Router.complete (.snapshot documents)) = some vm ∧
      run SelectionState.step { screen := { detailViewModel := vm } } ([1, 0].map .add) = some q ∧
      q.screen.viewCartButton.viewDidLoad .halfEven = some s ∧
      run (TappedCart.step .halfEven) { screen := s, meals := [0, 1] } taps = some p ∧
      Charges .halfEven "Mr Biggs" [300, 1250] taps p.screen.continueButtonPressed := by
  intro documents taps
  have hstored : List.Forall₂ Dish.StoredIn
      [⟨"Rice", "meal", "Rice", 1250⟩, ⟨"Fish", "meal", "Fish", 300⟩] documents :=
    .cons ⟨rfl, rfl, rfl, by decide⟩ (.cons ⟨rfl, rfl, rfl, by decide⟩ .nil)
  have hsome : ((DetailsViewModel.mealsFetched allAssets ℚ
      ({ passRestaurantName := "Mr Biggs" } : DetailsViewModel ℚ String)
      (Router.complete (.snapshot documents))).bind fun vm =>
        (run SelectionState.step { screen := { detailViewModel := vm } } ([1, 0].map .add)).bind
          fun q : SelectionState ℚ String => (q.screen.viewCartButton.viewDidLoad .halfEven).bind
            fun s => run (TappedCart.step .halfEven) { screen := s, meals := [0, 1] } taps).isSome
      = true := by
    decide +kernel
  obtain ⟨p, hp⟩ := Option.isSome_iff_exists.mp hsome
  obtain ⟨vm, hvm, hp⟩ := Option.bind_eq_some_iff.mp hp
  obtain ⟨q, hq, hp⟩ := Option.bind_eq_some_iff.mp hp
  obtain ⟨s, hs, hp⟩ := Option.bind_eq_some_iff.mp hp
  obtain ⟨added, s', hadded, hs', horder⟩ := charged_menu_prices .halfEven hstored hvm hq
  obtain rfl : s = s' := Option.some.inj (hs.symm.trans hs')
  obtain rfl : _ = added := Option.some.inj hadded
  exact ⟨vm, q, s, p, hvm, hq, hs, hp, (horder taps p hp).1⟩

/-! ### Dishes that are taken back -/

section
variable [BEq String] [BEq Image]

/-- The price of the dish on a row of the menu, in cents. -/
def centsAt (dishes : List Dish) (row : ℕ) : ℕ := (dishes[row]?.map Dish.price).getD 0

omit [BEq String] [BEq Image] in
/-- The amount on a row is the price of its dish. -/
theorem amount_of_entryAt {dishes : List Dish} {menu : List (MealsModel Image)}
    (hmenu : List.Forall₂ (Dish.ShownAs A) dishes menu) {row : ℕ} {e : Entry ℚ Image}
    (he : entryAt menu row = some e) : e.amount = inDollars (centsAt dishes row) := by
  obtain ⟨meal, hmeal, he⟩ := Option.bind_eq_some_iff.mp he
  obtain ⟨dish, hdish, image, -, rfl⟩ := exists_dish hmenu hmeal
  rw [centsAt, hdish]
  exact Option.some.inj ((MealsModel.of_entry he).2.1.symm.trans dish.parseFloat_mealPrice)

omit [BEq String] [BEq Image] in
theorem isNumber_of_shownAs {dishes : List Dish} {menu : List (MealsModel Image)}
    (hmenu : List.Forall₂ (Dish.ShownAs A) dishes menu) :
    ∀ meal ∈ menu, IsNumber ℚ meal.mealPrice := by
  intro meal hmeal
  obtain ⟨row, hrow⟩ := List.mem_iff_getElem?.mp hmeal
  obtain ⟨dish, -, image, -, rfl⟩ := exists_dish hmenu hrow
  have hprice : (SwiftFloat.ofText (dish.meal image).mealPrice : Option ℚ) = some dish.dollars :=
    dish.parseFloat_mealPrice
  rw [IsNumber, hprice, Option.any_some]
  exact BEq.rfl

/-- The amounts are the prices of the rows that are counted, in some order. -/
theorem CountsEntries.exists_prices {dishes : List Dish} {menu : List (MealsModel Image)}
    (hmenu : List.Forall₂ (Dish.ShownAs A) dishes menu) {vm : DetailsViewModel ℚ Image}
    {taken : List (ℕ × Entry ℚ Image)} (h : CountsEntries vm (taken.map Prod.snd))
    (htaken : ∀ r ∈ taken, entryAt menu r.1 = some r.2) :
    ∃ prices : List ℕ,
      (prices : Multiset ℕ) = (taken.map Prod.fst : Multiset ℕ).map (centsAt dishes) ∧
        vm.amountArray = prices.map inDollars := by
  have hvalues : (taken.map Prod.snd).map (·.amount)
      = ((taken.map Prod.fst).map (centsAt dishes)).map inDollars := by
    rw [List.map_map, List.map_map, List.map_map]
    exact List.map_congr_left fun r hr => amount_of_entryAt hmenu (htaken r hr)
  -- The amounts are those of the rows in another order, so they are the prices in that order.
  have hperm := h.amounts.perm_of_lawful
  rw [hvalues] at hperm
  obtain ⟨prices, hprices, hamounts⟩ := exists_map_of_perm hperm
  refine ⟨prices, ?_, hamounts⟩
  rw [Multiset.map_coe]
  exact Multiset.coe_eq_coe.mpr hprices

/-- **The cart of counted rows.**  It is handed one of each of their dishes, at the prices of the
    dishes, in some order. -/
theorem CountsEntries.handedOver [EquivBEq String] [EquivBEq Image] {dishes : List Dish}
    {menu : List (MealsModel Image)} (hmenu : List.Forall₂ (Dish.ShownAs A) dishes menu)
    {screen : DetailsViewController ℚ Image} {taken : List (ℕ × Entry ℚ Image)}
    (h : CountsEntries screen.detailViewModel (taken.map Prod.snd))
    (htaken : ∀ r ∈ taken, entryAt menu r.1 = some r.2) {rows : Multiset ℕ}
    (hrows : (taken.map Prod.fst : Multiset ℕ) = rows) :
    ∃ (titles : List String) (prices : List ℕ) (images : List Image),
      prices.length = titles.length ∧ images.length = titles.length ∧
      (prices : Multiset ℕ) = rows.map (centsAt dishes) ∧
      screen.viewCartButton = .handedOver titles (prices.map inDollars) images
        (List.replicate titles.length "1") screen.detailViewModel.passRestaurantName
        screen.detailViewModel.passRestaurantDiscount := by
  obtain ⟨prices, hprices, hamounts⟩ := h.exists_prices hmenu htaken
  have htitles := h.titles.length_eq
  have himages := h.images.length_eq
  have hquantities := h.quantities
  have hlength := congrArg Multiset.card hprices
  rw [Multiset.card_map, Multiset.coe_card, Multiset.coe_card, List.length_map] at hlength
  simp only [List.length_map] at htitles himages hquantities
  exact ⟨_, prices, _, hlength.trans htitles.symm, himages.trans htitles.symm, hrows ▸ hprices,
    viewCartButton_inDollars hamounts (htitles ▸ hquantities)⟩

omit [BEq String] in
/-- Before any tap, one of each dish of some rows is left. -/
theorem mealsLeft_of_prices {prices : List ℕ} {rows : Multiset ℕ} {f : ℕ → ℕ}
    (h : (prices : Multiset ℕ) = rows.map f) : mealsLeft prices.length [] = rows.card := by
  rw [mealsLeft_nil, ← Multiset.coe_card, h, Multiset.card_map]

omit [BEq String] in
/-- Before any tap, the dishes of some rows are owed. -/
theorem owed_of_prices {prices : List ℕ} {rows : Multiset ℕ} {f : ℕ → ℕ}
    (h : (prices : Multiset ℕ) = rows.map f) : owed prices [] = (rows.map f).sum := by
  rw [owed_nil, ← h, Multiset.sum_coe]

/-- **Adding and taking back.**  A menu of dishes is loaded, and rows are added and taken back:
    whatever was taken out of which column, the cart opens at the prices of the rows that are
    added, in some order, and is charged at these; so placed at once, the order is for as many
    meals as rows are added, at the sum of their prices. -/
theorem charged_for_selection [EquivBEq String] [EquivBEq Image]
    {documents : QuerySnapshot} {dishes : List Dish}
    (hstored : List.Forall₂ Dish.StoredIn dishes documents) {restName restDiscount : String}
    {vm : DetailsViewModel ℚ Image}
    (hvm : DetailsViewModel.mealsFetched A ℚ
      { passRestaurantName := restName, passRestaurantDiscount := restDiscount }
      (Router.complete (.snapshot documents)) = some vm)
    {rowTaps : List RowTap}
    (hallowed : Allowed SummaryState.step SummaryState.OnAddedRow
      { selection := { screen := { detailViewModel := vm } } } rowTaps)
    {q : SummaryState Image}
    (hq : run SummaryState.step { selection := { screen := { detailViewModel := vm } } } rowTaps
      = some q) :
    ∃ (prices : List ℕ) (s : CartsViewController Image),
      (prices : Multiset ℕ) = q.rows.map (centsAt dishes) ∧
      mealsLeft prices.length [] = q.rows.card ∧
      owed prices [] = (q.rows.map (centsAt dishes)).sum ∧
      q.selection.screen.viewCartButton.viewDidLoad R = some s ∧
      ∀ taps p,
        run (TappedCart.step R) { screen := s, meals := List.range prices.length } taps = some p →
          Charges R restName prices taps p.screen.continueButtonPressed := by
  rw [Router.complete_snapshot, mealsFetched_snapshot] at hvm
  obtain ⟨meals, hmeals, rfl⟩ := Option.map_eq_some_iff.mp hvm
  have hmenu : List.Forall₂ (Dish.ShownAs A) dishes ([] ++ meals) :=
    shownAs_of_mealsOf hstored hmeals
  have hopened : SummaryState.CountsAdded ([] ++ meals)
      (.opened ([] ++ meals) restName restDiscount) :=
    { mealList := rfl
      columns := ⟨[], ⟨fun _ => rfl, fun _ => rfl, fun _ => rfl, rfl, nofun⟩, nofun, rfl⟩
      bar := ⟨iff_of_true rfl rfl, fun hne => absurd rfl hne, fun hne => absurd rfl hne⟩ }
  have hcounts := (always_of_allowed
    (fun p tap q hp htap hq => hp.step (isNumber_of_shownAs hmenu) htap hq) hopened
    hallowed).last hq
  have hname : q.selection.screen.detailViewModel.passRestaurantName = restName := by
    -- The name was handed to the screen when it was opened, and no tap changes it.
    refine run_history
      (P := fun _ q => q.selection.screen.detailViewModel.passRestaurantName = restName)
      (fun _ _ _ _ hp hstep => ?_) rfl hq
    obtain ⟨selection, hselection, hstep⟩ := Option.bind_eq_some_iff.mp hstep
    obtain rfl := Option.some.inj hstep
    exact (SelectionState.passRestaurantName_step hselection).trans hp
  obtain ⟨taken, hcolumns, htaken, hrows⟩ := hcounts.columns
  obtain ⟨titles, prices, images, hp, hi, hprices, hcart⟩ :=
    hcolumns.handedOver hmenu htaken hrows
  obtain ⟨s, hs, hcharges⟩ := charges_of_opened R hp hi
    q.selection.screen.detailViewModel.passRestaurantName
    q.selection.screen.detailViewModel.passRestaurantDiscount
  rw [← hcart] at hs
  exact ⟨prices, s, hprices, mealsLeft_of_prices hprices, owed_of_prices hprices, hs,
    hname ▸ hcharges⟩

end

/-- Three dishes, two of one price, are added, and the last one is taken back: its price is found
    first at the first dish. -/
theorem charged_for_selection_back :
    let documents := [mealDocument "f" "Fish" "300", mealDocument "r" "Rice" "1250",
      mealDocument "s" "Soup" "300"]
    let rowTaps := [RowTap.add 0, .add 1, .add 2, .remove 2]
    ∃ vm, ∃ q : SummaryState String, ∃ s,
      DetailsViewModel.mealsFetched allAssets ℚ { passRestaurantName := "Mr Biggs" }
        (Router.complete (.snapshot documents)) = some vm ∧
      run SummaryState.step { selection := { screen := { detailViewModel := vm } } } rowTaps
        = some q ∧
      q.selection.screen.viewCartButton.viewDidLoad .halfEven = some s ∧
      s.continueButtonPressed.items = "x 2 items" ∧
      s.continueButtonPressed.price = "$" ++
        format2f .halfEven (inDollars 1550 + taxOn .halfEven (inDollars 1550)) := by
  intro documents rowTaps
  have hstored : List.Forall₂ Dish.StoredIn
      [⟨"Fish", "meal", "Fish", 300⟩, ⟨"Rice", "meal", "Rice", 1250⟩, ⟨"Soup", "meal", "Soup", 300⟩]
      documents :=
    .cons ⟨rfl, rfl, rfl, by decide⟩
      (.cons ⟨rfl, rfl, rfl, by decide⟩ (.cons ⟨rfl, rfl, rfl, by decide⟩ .nil))
  have hrows : ((DetailsViewModel.mealsFetched allAssets ℚ
      ({ passRestaurantName := "Mr Biggs" } : DetailsViewModel ℚ String)
      (Router.complete (.snapshot documents))).map fun vm =>
        (decide (Allowed SummaryState.step SummaryState.OnAddedRow
            { selection := { screen := { detailViewModel := vm } } } rowTaps),
          (run SummaryState.step { selection := { screen := { detailViewModel := vm } } }
            rowTaps).map (·.rows))) = some (true, some {0, 1}) := by
    decide +kernel
  obtain ⟨vm, hvm, hrows⟩ := Option.map_eq_some_iff.mp hrows
  obtain ⟨hallowed, hrows⟩ := Prod.mk.inj hrows
  obtain ⟨q, hq, hrows⟩ := Option.map_eq_some_iff.mp hrows
  obtain ⟨prices, s, -, hcount, hsum, hs, horder⟩ :=
    charged_for_selection .halfEven hstored hvm (of_decide_eq_true hallowed) hq
  obtain ⟨-, hitems, hprice⟩ := horder [] _ rfl
  rw [hcount, hrows] at hitems
  rw [hsum, hrows] at hprice
  exact ⟨vm, q, s, hvm, hq, hs, hitems, hprice⟩

end Foodly
