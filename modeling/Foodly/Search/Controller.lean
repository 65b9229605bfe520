import Foodly.Home.Controller
import Foodly.Swift.Strings

namespace Foodly

open Swift

/-!
# The search screen

`SearchRestaurantViewController`: a view model of the home screen, listening to all restaurants,
and the rows shown, `filteredData`.  The rows are written by the search bar's callback, and by
the block that the view model's closure dispatches for every snapshot.

* `found` — the test of the loop: the name or the category in lower case contains the text in
  lower case.  What `contains` does is a parameter, the search of `TextSearch`;
* `filterRestaurants`, `textDidChange` — the callback of the search bar, which empties the rows and
  appends to them;
* `step` — the handlers, the listener's callback and the blocks of the main queue;
* `textDidChange_eq` — the loop filters: a change of the text shows `searched`, whatever was shown
  before;
* `step_cases` — what any one event does, from which the results on searching and on selecting
  are derived.
-/

/-- `SearchRestaurantViewController`, the text of its search bar, and how many blocks are on the
    main queue. -/
structure SearchRestaurantViewController (Image : Type) where
  searchViewModel : HomeScreenViewModel Image := {}
  filteredData : List (Restaurants Image) := []
  searchText : String := ""
  mainQueue : ℕ := 0

/-- What happens on the search screen. -/
inductive SearchEvent
  | textDidChange (searchText : String)
  | restaurants (delivery : Delivery)
  | mainQueue
  | didSelectRowAt (row : ℕ)
  deriving DecidableEq, Repr

variable {Image : Type} (A : Assets Image) (M : TextSearch)

/-- The restaurant is found by a search text that is not empty. -/
def found (searchText : String) (restaurantSearched : Restaurants Image) : Bool :=
  let restaurant := lowercased M.toCaseMapping restaurantSearched.restaurantName
  let restaurantFood := lowercased M.toCaseMapping restaurantSearched.category
  M.contains restaurant (lowercased M.toCaseMapping searchText) ||
    M.contains restaurantFood (lowercased M.toCaseMapping searchText)

namespace SearchRestaurantViewController

/-- The listener that `viewDidLoad` registers. -/
theorem viewDidLoad_eq : RestaurantService.getRestaurants none
    = some (.addSnapshotListener (.collection ⟨["restaurants"]⟩)) := rfl

/-- The body of the loop over the restaurants. -/
def appendFound (searchText : String) (filteredData : List (Restaurants Image))
    (restaurantSearched : Restaurants Image) : List (Restaurants Image) :=
  if found M searchText restaurantSearched then filteredData ++ [restaurantSearched]
  else filteredData

/-- `filterRestaurants(_:)`: appends what is found. -/
def filterRestaurants (s : SearchRestaurantViewController Image) (searchText : String) :
    SearchRestaurantViewController Image :=
  let filteredData :=
    s.searchViewModel.restaurantList.foldl (appendFound M searchText) s.filteredData
  { s with filteredData }

/-- `searchBar(_:textDidChange:)`. -/
def textDidChange (s : SearchRestaurantViewController Image) (searchText : String) :
    SearchRestaurantViewController Image :=
  let s := { s with filteredData := [], searchText }
  if searchText.isEmpty then { s with filteredData := s.searchViewModel.restaurantList }
  else s.filterRestaurants M searchText

/-- The callback of the listener; a snapshot also calls `closure`, which dispatches a block. -/
def restaurantsFetched (s : SearchRestaurantViewController Image) (result : RouterResult) :
    Option (SearchRestaurantViewController Image) := do
  let searchViewModel ← s.searchViewModel.restaurantsFetched A result
  match result with
  | .failure _ => return { s with searchViewModel }
  | .success _ => return { s with searchViewModel, mainQueue := s.mainQueue + 1 }

/-- The block that `closure` dispatches. -/
def showRestaurants (s : SearchRestaurantViewController Image) :
    SearchRestaurantViewController Image :=
  { s with filteredData := s.searchViewModel.restaurantList }

/-- `tableView(_:didSelectRowAt:)`: the details screen that is pushed. -/
def didSelectRowAt (F : Type) (s : SearchRestaurantViewController Image) (row : ℕ) :
    Option (DetailsViewController F Image) := do
  let _ ← s.searchViewModel.restaurantList[row]?
  return {}

/-- The handlers, the callback and the blocks; a selection changes nothing on this screen. -/
def step (s : SearchRestaurantViewController Image) :
    SearchEvent → Option (SearchRestaurantViewController Image)
  | .textDidChange searchText => some (s.textDidChange M searchText)
  | .restaurants delivery => s.restaurantsFetched A (Router.complete delivery)
  | .mainQueue =>
    match s.mainQueue with
    | 0 => none
    | mainQueue + 1 => some { s with mainQueue }.showRestaurants
  | .didSelectRowAt row => (s.searchViewModel.restaurantList[row]?).map fun _ => s

end SearchRestaurantViewController

/-! ### What the handlers do -/

/-- The restaurants that a search shows, in order: those found, or all if the text is empty. -/
def searched (searchText : String) (restaurants : List (Restaurants Image)) :
    List (Restaurants Image) :=
  if searchText.isEmpty then restaurants else restaurants.filter (found M searchText)

namespace SearchRestaurantViewController

/-- The loop filters. -/
theorem foldl_appendFound (searchText : String)
    (restaurants filteredData : List (Restaurants Image)) :
    restaurants.foldl (appendFound M searchText) filteredData
      = filteredData ++ restaurants.filter (found M searchText) := by
  induction restaurants generalizing filteredData with
  | nil => rw [List.foldl_nil, List.filter_nil, List.append_nil]
  | cons restaurant restaurants ih =>
    rw [List.foldl_cons, ih, List.filter_cons, appendFound]
    split
    · rw [List.append_assoc, List.singleton_append]
    · rfl

/-- A change of the text shows what the text finds, whatever was shown before. -/
theorem textDidChange_eq (s : SearchRestaurantViewController Image) (searchText : String) :
    s.textDidChange M searchText = { s with
      filteredData := searched M searchText s.searchViewModel.restaurantList, searchText } := by
  unfold textDidChange searched
  split
  · rfl
  · rw [filterRestaurants, foldl_appendFound, List.nil_append]

variable {A M}

/-- What a step does: a new text searches, a snapshot replaces the restaurants and queues a
    block, a block shows all restaurants, and anything else changes nothing. -/
theorem step_cases {s t : SearchRestaurantViewController Image} {event : SearchEvent}
    (h : s.step A M event = some t) :
    (∃ searchText, event = .textDidChange searchText ∧ t = { s with
        filteredData := searched M searchText s.searchViewModel.restaurantList, searchText }) ∨
      (∃ documents searchViewModel, event = .restaurants (.snapshot documents) ∧
        t = { s with searchViewModel, mainQueue := s.mainQueue + 1 }) ∨
      (∃ mainQueue, event = .mainQueue ∧ s.mainQueue = mainQueue + 1 ∧
        t = { s with filteredData := s.searchViewModel.restaurantList, mainQueue }) ∨
      (∀ searchText, event ≠ .textDidChange searchText) ∧ event ≠ .mainQueue ∧ t = s := by
  cases event with
  | textDidChange searchText =>
    obtain rfl := Option.some.inj h
    exact Or.inl ⟨searchText, rfl, textDidChange_eq M s searchText⟩
  | restaurants delivery =>
    obtain ⟨searchViewModel, hviewModel, h⟩ := Option.bind_eq_some_iff.mp h
    cases delivery with
    | snapshot documents =>
      obtain rfl : _ = t := Option.some.inj h
      exact Or.inr (Or.inl ⟨documents, searchViewModel, rfl, rfl⟩)
    | error e =>
      obtain rfl : _ = t := Option.some.inj h
      obtain rfl : s.searchViewModel = searchViewModel := Option.some.inj hviewModel
      exact Or.inr (Or.inr (Or.inr ⟨nofun, nofun, rfl⟩))
  | mainQueue =>
    rw [step] at h
    -- Without a block on the queue the event cannot happen.
    cases hqueue : s.mainQueue with
    | zero =>
      rw [hqueue] at h
      cases h
    | succ mainQueue =>
      rw [hqueue] at h
      obtain rfl : _ = t := Option.some.inj h
      exact Or.inr (Or.inr (Or.inl ⟨mainQueue, rfl, rfl, rfl⟩))
  | didSelectRowAt row =>
    obtain ⟨_, -, rfl⟩ := Option.map_eq_some_iff.mp h
    exact Or.inr (Or.inr (Or.inr ⟨nofun, nofun, rfl⟩))

end SearchRestaurantViewController

end Foodly
