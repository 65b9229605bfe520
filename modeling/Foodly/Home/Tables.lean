import Foodly.Home.Rows
import Foodly.Lib.Parallel

namespace Foodly

open Runs

/-!
# What the home screen displays

The restaurants are listed in a table and the categories in a collection view; both are reloaded
in the same callback that changes their data.  The reference is what the latest snapshots decode
to.

* `RestaurantsTableViewCell.setup`, `HomeScreenFoodCollectionViewCell.setup` — what a cell shows;
* `cellForRowAt`, `cellForItemAt` — the cells of the two views, which trap beyond the lists;
* `HomeDisplay` — the screen, and how many rows and items its views have read;
* `OnDisplay` — what is tapped is displayed, and what is delivered comes from a registered listener
  and has its pictures in the asset catalogue, without which `UIImage(imageLiteralResourceName:)`
  traps;
* `HomeShown` — the reference: the restaurants and the categories of the latest snapshots;
* `Displays` — the screen has what the reference shows, its views have read it, and every restaurant
  has an id;
* `displays_step` — one event: taps in `Displays.didSelectItemAt` and `Displays.didSelectRowAt`,
  snapshots in `Displays.restaurants_snapshot`;
* `home_displays_latest` — what is displayed after any run, and that no tap on it traps, whatever
  is delivered, selected or scrolled in between.
-/

variable {Image : Type} (A : Assets Image)

/-! ### Cells -/

/-- `RestaurantsTableViewCell`. -/
structure RestaurantsTableViewCell (Image : Type) where
  restaurantImageView : Image
  restaurantLabel : String
  mainFoodLabel : String
  discountLabel : String
  timeLabel : String

/-- `setup(with:)`. -/
def RestaurantsTableViewCell.setup (restaurant : Restaurants Image) :
    RestaurantsTableViewCell Image where
  restaurantImageView := restaurant.restaurantImage
  restaurantLabel := restaurant.restaurantName
  mainFoodLabel := restaurant.category
  discountLabel := restaurant.discountLabel ++ "% OFF"
  timeLabel := restaurant.timeLabel

/-- `HomeScreenFoodCollectionViewCell`. -/
structure HomeScreenFoodCollectionViewCell (Image : Type) where
  categoryLabel : String
  categoryImage : Image

/-- `setup(category:)`. -/
def HomeScreenFoodCollectionViewCell.setup (category : DishCategory Image) :
    HomeScreenFoodCollectionViewCell Image where
  categoryLabel := category.name
  categoryImage := category.image

namespace HomeScreenViewController

/-- `tableView(_:cellForRowAt:)`. -/
def cellForRowAt (s : HomeScreenViewController Image) (row : ℕ) :
    Option (RestaurantsTableViewCell Image) :=
  s.homeScreenViewModel.restaurantList[row]?.map .setup

/-- `collectionView(_:cellForItemAt:)`. -/
def cellForItemAt (s : HomeScreenViewController Image) (item : ℕ) :
    Option (HomeScreenFoodCollectionViewCell Image) :=
  s.homeScreenViewModel.categoriesArray[item]?.map .setup

/-- `tableView(_:numberOfRowsInSection:)`. -/
def numberOfRowsInSection (s : HomeScreenViewController Image) : ℕ :=
  s.homeScreenViewModel.restaurantList.length

/-- `collectionView(_:numberOfItemsInSection:)`. -/
def numberOfItemsInSection (s : HomeScreenViewController Image) : ℕ :=
  s.homeScreenViewModel.categoriesArray.length

end HomeScreenViewController

/-! ### The screen -/

/-- The screen, and the numbers of rows and items that its two views have read. -/
structure HomeDisplay (Image : Type) where
  screen : HomeScreenViewController Image
  rows : ℕ := 0
  items : ℕ := 0

/-- What happens on the screen. -/
inductive HomeDisplayEvent
  | home (event : HomeEvent)
  | viewWillAppear
  | viewDidAppear
  | didSelectRowAt (row : ℕ)
  deriving DecidableEq, Repr

namespace HomeDisplay

/-- `tableView.reloadData()`. -/
def reloadTable (p : HomeDisplay Image) : HomeDisplay Image :=
  { p with rows := p.screen.numberOfRowsInSection }

/-- `collectionView.reloadData()`. -/
def reloadCollection (p : HomeDisplay Image) : HomeDisplay Image :=
  { p with items := p.screen.numberOfItemsInSection }

/-- The handlers and the callbacks, with `closure` and `categoriesCompletion` as `viewDidLoad`
    sets them; they are called on success only. -/
def step (F : Type) (p : HomeDisplay Image) : HomeDisplayEvent → Option (HomeDisplay Image)
  | .home event => do
    let screen ← p.screen.step A event
    match event with
    | .restaurants _ (.snapshot _) => return reloadTable { p with screen }
    | .categories (.snapshot _) => return reloadCollection { p with screen }
    | .didSelectItemAt _ | .restaurants _ (.error _) | .categories (.error _) =>
      return { p with screen }
  | .viewWillAppear | .viewDidAppear => some p.reloadTable
  | .didSelectRowAt row => do
    let _ ← p.screen.didSelectRowAt F row
    return p

end HomeDisplay

/-- What is tapped is displayed, and what is delivered comes from a registered listener and has
    its pictures in the catalogue. -/
def OnDisplay (p : HomeDisplay Image) : HomeDisplayEvent → Prop
  | .home (.didSelectItemAt item) => item < p.items
  | .home (.restaurants listener delivery) => listener < p.screen.listeners.length ∧
      ∀ documents ∈ delivery.snapshot?, (restaurantsOf A documents).isSome = true
  | .didSelectRowAt row => row < p.rows
  | .home (.categories _) | .viewWillAppear | .viewDidAppear => True

instance (p : HomeDisplay Image) : (event : HomeDisplayEvent) → Decidable (OnDisplay A p event)
  | .home (.didSelectItemAt item) => inferInstanceAs (Decidable (item < p.items))
  | .home (.restaurants listener delivery) =>
    inferInstanceAs (Decidable (listener < p.screen.listeners.length ∧
      ∀ documents ∈ delivery.snapshot?, (restaurantsOf A documents).isSome = true))
  | .didSelectRowAt row => inferInstanceAs (Decidable (row < p.rows))
  | .home (.categories _) | .viewWillAppear | .viewDidAppear => inferInstanceAs (Decidable True)

/-! ### The reference -/

/-- The restaurants of the latest snapshot of any listener, and the latest categories. -/
structure HomeShown (Image : Type) where
  restaurants : List (Restaurants Image) := []
  categories : List (DishCategory Image) := []

/-- What an event means: a snapshot replaces what was shown. -/
def HomeShown.record (shown : HomeShown Image) : HomeDisplayEvent → HomeShown Image
  | .home (.restaurants _ (.snapshot documents)) =>
    { shown with restaurants := (restaurantsOf A documents).getD [] }
  | .home (.categories (.snapshot documents)) =>
    { shown with categories := documents.filterMap (dishCategory A) }
  | .home (.didSelectItemAt _) | .home (.restaurants _ (.error _)) | .home (.categories (.error _))
  | .viewWillAppear | .viewDidAppear | .didSelectRowAt _ => shown

/-! ### One event -/

/-- The screen has what the reference shows, its views have read it, and every restaurant has an
    id. -/
structure Displays (shown : HomeShown Image) (p : HomeDisplay Image) : Prop where
  restaurants : p.screen.homeScreenViewModel.restaurantList = shown.restaurants
  categories : p.screen.homeScreenViewModel.categoriesArray = shown.categories
  rows : p.rows = shown.restaurants.length
  items : p.items = shown.categories.length
  ids : shown.restaurants.length ≤ p.screen.homeScreenViewModel.restaurantIDS.length

variable {A}

theorem length_restaurantsOf {documents : QuerySnapshot} {restaurants : List (Restaurants Image)}
    (h : restaurantsOf A documents = some restaurants) :
    restaurants.length = (restaurantIDsOf documents).length := by
  rw [restaurantIDsOf, List.length_map, (forall₂_decodedFrom h).length_eq]

/-- A tap on a displayed row opens the details of the restaurant displayed there. -/
theorem Displays.didSelectRowAt {shown : HomeShown Image} {p : HomeDisplay Image}
    (h : Displays shown p) (F : Type) {row : ℕ} {restaurant : Restaurants Image}
    (hrow : shown.restaurants[row]? = some restaurant) :
    ∃ details, p.screen.didSelectRowAt F row = some details ∧
      details.detailViewModel.restaurantDetailsList = some restaurant ∧
      details.detailViewModel.passRestaurantName = restaurant.restaurantName ∧
      details.detailViewModel.passRestaurantDiscount = restaurant.discountLabel := by
  have hlt : row < p.screen.homeScreenViewModel.restaurantIDS.length :=
    (List.getElem?_eq_some_iff.mp hrow).1.trans_le h.ids
  have hid : p.screen.homeScreenViewModel.restaurantIDS[row]?
      = some p.screen.homeScreenViewModel.restaurantIDS[row] := List.getElem?_eq_getElem hlt
  rw [← h.restaurants] at hrow
  rw [HomeScreenViewController.didSelectRowAt, hrow, hid]
  exact ⟨_, rfl, rfl, rfl, rfl⟩

/-- A tap on a displayed item selects the category displayed there; the first stands for all. -/
theorem Displays.mealName {shown : HomeShown Image} {p : HomeDisplay Image}
    (h : Displays shown p) {item : ℕ} {category : DishCategory Image}
    (hitem : shown.categories[item]? = some category) :
    p.screen.mealName item = some (if item = 0 then none else some category.name) := by
  rw [HomeScreenViewController.mealName, h.categories, hitem]
  split <;> rfl

/-- A displayed item is selected: only a listener is added. -/
theorem Displays.didSelectItemAt {shown : HomeShown Image} {p : HomeDisplay Image}
    (h : Displays shown p) (F : Type) {item : ℕ} (hlt : item < shown.categories.length) :
    ∃ q, p.step A F (.home (.didSelectItemAt item)) = some q ∧ Displays shown q := by
  have hname := h.mealName (List.getElem?_eq_getElem hlt)
  generalize (if item = 0 then none else some shown.categories[item].name) = name at hname
  refine ⟨{ p with screen := p.screen.fetchRestaurants name }, ?_, ?_⟩
  · simp only [HomeDisplay.step, HomeScreenViewController.step, hname]
    rfl
  · rw [HomeScreenViewController.fetchRestaurants_eq]
    exact ⟨h.restaurants, h.categories, h.rows, h.items, h.ids⟩

/-- A snapshot of restaurants whose pictures are there replaces what was displayed. -/
theorem Displays.restaurants_snapshot {shown : HomeShown Image} {p : HomeDisplay Image}
    (h : Displays shown p) (F : Type) {listener : ℕ} {source : ListenerSource}
    (hsource : p.screen.listeners[listener]? = some source) {documents : QuerySnapshot}
    {restaurants : List (Restaurants Image)}
    (hdecoded : restaurantsOf A documents = some restaurants) :
    ∃ q, p.step A F (.home (.restaurants listener (.snapshot documents))) = some q ∧
      Displays { shown with restaurants } q := by
  have hlength := length_restaurantsOf hdecoded
  have hstep : p.screen.step A (.restaurants listener (.snapshot documents))
      = some { p.screen with homeScreenViewModel := { p.screen.homeScreenViewModel with
          restaurantIDS := p.screen.homeScreenViewModel.restaurantIDS
            ++ restaurantIDsOf documents
          restaurantList := restaurants } } := by
    simp only [HomeScreenViewController.step, hsource, Router.complete_snapshot,
      restaurantsFetched_snapshot, hdecoded]
    rfl
  refine ⟨_, by simp only [HomeDisplay.step, hstep]; rfl, ?_⟩
  refine ⟨rfl, h.categories, rfl, h.items, ?_⟩
  -- Every restaurant of the snapshot has appended its id.
  show restaurants.length ≤ (_ ++ restaurantIDsOf documents).length
  rw [List.length_append, hlength]
  exact Nat.le_add_left _ _

/-- **One event.**  It does not trap, and both views display what it means. -/
theorem displays_step (F : Type) (shown : HomeShown Image) (p : HomeDisplay Image)
    (event : HomeDisplayEvent) (h : Displays shown p) (hallowed : OnDisplay A p event) :
    ∃ q, p.step A F event = some q ∧ Displays (shown.record A event) q := by
  cases event with
  | viewWillAppear | viewDidAppear =>
    refine ⟨_, rfl, h.restaurants, h.categories, ?_, h.items, h.ids⟩
    exact congrArg List.length h.restaurants
  | didSelectRowAt row =>
    have hlt : row < shown.restaurants.length := h.rows ▸ hallowed
    obtain ⟨details, hdetails, -⟩ := h.didSelectRowAt F (List.getElem?_eq_getElem hlt)
    refine ⟨p, ?_, h⟩
    rw [HomeDisplay.step, hdetails]
    rfl
  | home event =>
    cases event with
    | didSelectItemAt item =>
      have hlt : item < shown.categories.length := h.items ▸ hallowed
      exact h.didSelectItemAt F hlt
    | categories delivery =>
      cases delivery with
      | error e => exact ⟨p, rfl, h⟩
      | snapshot documents => exact ⟨_, rfl, h.restaurants, rfl, h.rows, rfl, h.ids⟩
    | restaurants listener delivery =>
      -- A snapshot is decoded without a trap since its pictures are there.
      obtain ⟨hlistener, hpictures⟩ := hallowed
      have hsource : p.screen.listeners[listener]? = some p.screen.listeners[listener] :=
        List.getElem?_eq_getElem hlistener
      cases delivery with
      | error e =>
        refine ⟨p, ?_, h⟩
        simp only [HomeDisplay.step, HomeScreenViewController.step, hsource]
        rfl
      | snapshot documents =>
        obtain ⟨restaurants, hdecoded⟩ := Option.isSome_iff_exists.mp (hpictures documents rfl)
        rw [HomeShown.record, hdecoded, Option.getD_some]
        exact h.restaurants_snapshot F hsource hdecoded

/-! ### Runs -/

variable (A)

/-- **Display.**  While only displayed rows and items are tapped and no picture is missing, no
    event traps.  After any run the table lists the restaurants of the latest snapshot and the
    collection view the latest categories; the cells are there, a tap on a row opens the restaurant
    that it shows, and a tap on an item selects the category that it shows. -/
theorem home_displays_latest (F : Type) (events : List HomeDisplayEvent)
    (hevents : Allowed (HomeDisplay.step A F) (OnDisplay A) { screen := .viewDidLoad } events) :
    ∃ t, run (HomeDisplay.step A F) { screen := .viewDidLoad } events = some t ∧
      let shown := events.foldl (HomeShown.record A) {}
      t.rows = shown.restaurants.length ∧ t.items = shown.categories.length ∧
      (∀ row restaurant, shown.restaurants[row]? = some restaurant →
        t.screen.cellForRowAt row = some (.setup restaurant) ∧
        ∃ details, t.screen.didSelectRowAt F row = some details ∧
          details.detailViewModel.restaurantDetailsList = some restaurant ∧
          details.detailViewModel.passRestaurantName = restaurant.restaurantName ∧
          details.detailViewModel.passRestaurantDiscount = restaurant.discountLabel) ∧
      ∀ item category, shown.categories[item]? = some category →
        t.screen.cellForItemAt item = some (.setup category) ∧
        t.screen.mealName item = some (if item = 0 then none else some category.name) := by
  have hstart : Displays ({} : HomeShown Image) { screen := .viewDidLoad } :=
    ⟨rfl, rfl, rfl, rfl, Nat.zero_le _⟩
  obtain ⟨t, ht, hdisplays⟩ := run_simulates (displays_step F) hstart hevents
  refine ⟨t, ht, hdisplays.rows, hdisplays.items, fun row restaurant hrow => ?_,
    fun item category hitem => ?_⟩
  · refine ⟨?_, hdisplays.didSelectRowAt F hrow⟩
    rw [HomeScreenViewController.cellForRowAt, hdisplays.restaurants, hrow, Option.map_some]
  · refine ⟨?_, hdisplays.mealName hitem⟩
    rw [HomeScreenViewController.cellForItemAt, hdisplays.categories, hitem, Option.map_some]

/-- A document of the categories. -/
def categoryDocument (documentID name : String) : Document where
  documentID := documentID
  data := [("name", .string name), ("image", .string name)]

/-- A category is selected while all restaurants are displayed, and its listener delivers. -/
def selectsPizza : List HomeDisplayEvent :=
  [.home (.categories (.snapshot [categoryDocument "1" "All", categoryDocument "2" "Pizza"])),
    .home (.restaurants 0 (.snapshot [restaurantDocument "a" "Mr Biggs" "Pizza",
      restaurantDocument "b" "Black Fish" "Sushi"])),
    .didSelectRowAt 1, .home (.didSelectItemAt 1), .viewWillAppear,
    .home (.restaurants 1 (.snapshot [restaurantDocument "a" "Mr Biggs" "Pizza"]))]

/-- The restaurant of the category is displayed. -/
theorem home_displays_latest_pizza :
    ∃ t, run (HomeDisplay.step allAssets ℚ) { screen := .viewDidLoad } selectsPizza = some t ∧
      t.rows = 1 ∧ t.items = 2 := by
  obtain ⟨t, ht, hrows, hitems, -⟩ :=
    home_displays_latest allAssets ℚ selectsPizza (by decide +kernel)
  exact ⟨t, ht, hrows, hitems⟩

end Foodly
