import Foodly.Home.ViewModel
import Foodly.Details.Controller
import Foodly.Lib.Runs

namespace Foodly

open Runs

/-!
# The home screen

`HomeScreenViewController` and the Firestore listeners it has registered.  Every selection of
a category registers one more listener, and none is ever removed; Firestore may call any of
them back at any time, with any snapshot or an error.

* `HomeEvent` — what happens on the screen: selections, and deliveries to the two kinds of
  listeners, of categories and of restaurants;
* `fetchRestaurants`, `viewDidLoad` — where listeners are registered, on the restaurants of a
  category or on all of them;
* `mealName` — the category that a selected item stands for; the first item stands for all
  restaurants;
* `step` — the handlers and the callbacks; a delivery names the listener that it is made to;
* `didSelectRowAt` — the details screen of a row, with the id at the same index of `restaurantIDS`;
* `step_cases` — what an event can do to the restaurants, from which the results on rows, on
  categories and on what is displayed are derived.
-/

/-- `HomeScreenViewController`, and what its restaurant listeners are attached to. -/
structure HomeScreenViewController (Image : Type) where
  homeScreenViewModel : HomeScreenViewModel Image := {}
  listeners : List ListenerSource := []

/-- What happens on the home screen. -/
inductive HomeEvent
  | didSelectItemAt (row : ℕ)
  | categories (delivery : Delivery)
  | restaurants (listener : ℕ) (delivery : Delivery)
  deriving DecidableEq, Repr

variable {Image : Type} (A : Assets Image)

namespace HomeScreenViewController

/-- `fetchRestaurants(categoryName:)`: registers a listener. -/
def fetchRestaurants (s : HomeScreenViewController Image) (categoryName : Option String) :
    HomeScreenViewController Image :=
  match RestaurantService.getRestaurants categoryName with
  | some (.addSnapshotListener source) => { s with listeners := s.listeners ++ [source] }
  | _ => s

/-- `viewDidLoad()`: registers the listener on all restaurants. -/
def viewDidLoad : HomeScreenViewController Image := fetchRestaurants {} none

/-- The category name that `collectionView(_:didSelectItemAt:)` takes for a row. -/
def mealName (s : HomeScreenViewController Image) (row : ℕ) : Option (Option String) :=
  if row = 0 then some none
  else s.homeScreenViewModel.categoriesArray[row]?.map fun category => some category.name

/-- The handlers and the callbacks. -/
def step (s : HomeScreenViewController Image) :
    HomeEvent → Option (HomeScreenViewController Image)
  | .didSelectItemAt row => (s.mealName row).map s.fetchRestaurants
  | .categories delivery => some { s with homeScreenViewModel :=
      s.homeScreenViewModel.categoriesFetched A (Router.complete delivery) }
  | .restaurants listener delivery => do
    -- Only a registered listener is called back.
    let _ ← s.listeners[listener]?
    let homeScreenViewModel ←
      s.homeScreenViewModel.restaurantsFetched A (Router.complete delivery)
    return { s with homeScreenViewModel }

/-- `tableView(_:didSelectRowAt:)`: the details screen that is pushed. -/
def didSelectRowAt (F : Type) (s : HomeScreenViewController Image) (row : ℕ) :
    Option (DetailsViewController F Image) := do
  let detail ← s.homeScreenViewModel.restaurantList[row]?
  let restID ← s.homeScreenViewModel.restaurantIDS[row]?
  return { detailViewModel := {
    restaurantDetailsList := some detail
    passRestaurantName := detail.restaurantName
    passRestaurantDiscount := detail.discountLabel
    restID } }

/-! ### What an event can do -/

theorem fetchRestaurants_eq (s : HomeScreenViewController Image) (categoryName : Option String) :
    s.fetchRestaurants categoryName
      = { s with listeners := s.listeners ++ [restaurantSource categoryName] } := by
  unfold fetchRestaurants
  rw [getRestaurants_eq]

variable {A}

/-- An event that changes the restaurants is the delivery of a snapshot to a listener, and it
    changes nothing else; any other event leaves the restaurants and their ids alone. -/
theorem step_cases {s t : HomeScreenViewController Image} {event : HomeEvent}
    (h : s.step A event = some t) :
    (∃ listener documents restaurantList source,
        event = .restaurants listener (.snapshot documents) ∧
        s.listeners[listener]? = some source ∧
        restaurantsOf A documents = some restaurantList ∧
        t = { s with homeScreenViewModel := { s.homeScreenViewModel with
          restaurantIDS := s.homeScreenViewModel.restaurantIDS ++ restaurantIDsOf documents
          restaurantList } }) ∨
      (∀ listener documents, event ≠ .restaurants listener (.snapshot documents)) ∧
        t.homeScreenViewModel.restaurantList = s.homeScreenViewModel.restaurantList ∧
        t.homeScreenViewModel.restaurantIDS = s.homeScreenViewModel.restaurantIDS := by
  cases event with
  | didSelectItemAt row =>
    obtain ⟨categoryName, -, rfl⟩ := Option.map_eq_some_iff.mp h
    rw [fetchRestaurants_eq]
    exact Or.inr ⟨fun _ _ => by simp, rfl, rfl⟩
  | categories delivery =>
    obtain rfl := Option.some.inj h
    refine Or.inr ⟨fun _ _ => by simp, ?_, ?_⟩ <;>
      cases delivery <;> rfl
  | restaurants listener delivery =>
    obtain ⟨source, hsource, h⟩ := Option.bind_eq_some_iff.mp h
    obtain ⟨vm, hvm, h⟩ := Option.bind_eq_some_iff.mp h
    obtain rfl : _ = t := Option.some.inj h
    -- Only a snapshot gets past `switch result`; an error is printed.
    cases delivery with
    | snapshot documents =>
      rw [Router.complete_snapshot, restaurantsFetched_snapshot] at hvm
      obtain ⟨restaurantList, hlist, rfl⟩ := Option.map_eq_some_iff.mp hvm
      exact Or.inl ⟨listener, documents, restaurantList, source, rfl, hsource, hlist, rfl⟩
    | error e =>
      rw [Router.complete_error] at hvm
      obtain rfl : s.homeScreenViewModel = vm := Option.some.inj hvm
      exact Or.inr ⟨fun _ _ => by simp, rfl, rfl⟩

end HomeScreenViewController

end Foodly
