import Foodly.Home.Rows
import Foodly.Search.Controller

namespace Foodly

open Runs Swift

/-!
# Searching

What a user expects of the search screen is said without the code's own test: `LookedFor` says which
restaurants a text is looking for, and `ShowsSearched` that the rows are these, in the order of the
current list.

* `found_iff_lookedFor`, `searched_eq` — the code's test finds, and the callback of the search bar
  shows, the restaurants looked for;
* `ShowsAllFound` — the condition on an event: the last block on the queue, which does not look at
  the text, may only run when the text finds all restaurants;
* `ShowsSearched.step_iff` — what one event does to the rows;
* `shows_searched_iff` — in which runs the rows are right whenever the main queue has drained;
* `snapshot_ignores_search` — a snapshot that is delivered while a text is searched.

While a block is on the queue the rows are still those of the restaurants before the snapshot, and
nothing is asked of them.
-/

variable {Image : Type} (A : Assets Image) (M : TextSearch)

/-! ### The law and its condition -/

/-- The restaurant is one that the text is looking for: one of its two texts contains the text,
    whatever the case, unless there is no text at all. -/
def LookedFor (searchText : String) (restaurant : Restaurants Image) : Prop :=
  searchText ≠ "" → ∃ text ∈ [restaurant.restaurantName, restaurant.category],
    M.contains (lowercased M.toCaseMapping text) (lowercased M.toCaseMapping searchText) = true

instance (searchText : String) (restaurant : Restaurants Image) :
    Decidable (LookedFor M searchText restaurant) :=
  inferInstanceAs (Decidable (_ → ∃ text ∈ _, _ = true))

/-- When the queue has drained, the rows are the restaurants looked for, in their order. -/
def ShowsSearched (s : SearchRestaurantViewController Image) : Prop :=
  s.mainQueue = 0 → s.filteredData =
    s.searchViewModel.restaurantList.filter fun restaurant => LookedFor M s.searchText restaurant

/-- The block that empties the queue runs when the text finds every restaurant. -/
def ShowsAllFound (s : SearchRestaurantViewController Image) (event : SearchEvent) : Prop :=
  event = .mainQueue → s.mainQueue = 1 → s.searchText = "" ∨
    ∀ restaurant ∈ s.searchViewModel.restaurantList, found M s.searchText restaurant = true

/-! ### What the test finds -/

/-- With a text, the test finds what the text is looking for. -/
theorem found_iff_lookedFor {searchText : String} (htext : searchText ≠ "")
    (restaurant : Restaurants Image) :
    found M searchText restaurant = true ↔ LookedFor M searchText restaurant := by
  rw [found, Bool.or_eq_true, LookedFor, forall_prop_of_true htext]
  simp only [List.mem_cons, List.not_mem_nil, or_false, exists_eq_or_imp, exists_eq_left]

/-- What the callback of the search bar shows are the restaurants looked for. -/
theorem searched_eq (searchText : String) (restaurants : List (Restaurants Image)) :
    searched M searchText restaurants
      = restaurants.filter fun restaurant => LookedFor M searchText restaurant := by
  unfold searched
  by_cases hempty : searchText = ""
  · -- Without a text every restaurant is looked for.
    rw [if_pos (String.isEmpty_iff.mpr hempty), eq_comm, List.filter_eq_self]
    intro restaurant _
    rw [decide_eq_true_iff]
    exact fun htext => absurd hempty htext
  · rw [if_neg (fun h => hempty (String.isEmpty_iff.mp h))]
    refine List.filter_congr fun restaurant _ => ?_
    rw [Bool.eq_iff_iff, decide_eq_true_iff, found_iff_lookedFor M hempty]

/-- A search leaves nothing out when its text is empty or finds every restaurant. -/
theorem eq_lookedFor_iff (searchText : String) (restaurants : List (Restaurants Image)) :
    (restaurants = restaurants.filter fun restaurant => LookedFor M searchText restaurant) ↔
      searchText = "" ∨ ∀ restaurant ∈ restaurants, found M searchText restaurant = true := by
  rw [← searched_eq]
  unfold searched
  by_cases hempty : searchText = ""
  · rw [if_pos (String.isEmpty_iff.mpr hempty)]
    exact iff_of_true rfl (Or.inl hempty)
  · rw [if_neg (fun h => hempty (String.isEmpty_iff.mp h)), or_iff_right hempty, eq_comm]
    exact List.filter_eq_self

/-! ### Runs -/

variable {A M}

/-- **One event.**  Rows that show the search go on showing it exactly when the queue is not
    emptied while the text leaves a restaurant out. -/
theorem ShowsSearched.step_iff {s t : SearchRestaurantViewController Image} {event : SearchEvent}
    (hlaw : ShowsSearched M s) (ht : s.step A M event = some t) :
    ShowsSearched M t ↔ ShowsAllFound M s event := by
  rcases SearchRestaurantViewController.step_cases ht with
    ⟨searchText, rfl, rfl⟩ | ⟨documents, searchViewModel, rfl, rfl⟩ |
    ⟨mainQueue, rfl, hqueue, rfl⟩ | ⟨-, hevent, rfl⟩
  · -- A new text shows what it is looking for, whatever is still on the queue.
    exact iff_of_true (fun _ => searched_eq M _ _) nofun
  · -- A snapshot queues a block, so the queue has not drained.
    exact iff_of_true nofun nofun
  · -- The block shows all restaurants; only the last one on the queue has to be right.
    show (mainQueue = 0 → s.searchViewModel.restaurantList = _) ↔
      (SearchEvent.mainQueue = .mainQueue → s.mainQueue = 1 → _)
    rw [eq_lookedFor_iff, hqueue]
    simp
  · exact iff_of_true hlaw fun h => absurd h hevent

variable (A M)

/-- **Search.**  Throughout a run, whenever the queue has drained the rows are what the text
    finds among the restaurants, exactly when every block that empties the queue runs while the
    text finds all of them. -/
theorem shows_searched_iff (events : List SearchEvent) :
    Always (SearchRestaurantViewController.step A M) (ShowsSearched M) {} events ↔
      Guarded (SearchRestaurantViewController.step A M) (ShowsAllFound M) {} events :=
  always_iff_guarded_of_step (fun _ _ _ hlaw ht => hlaw.step_iff ht) fun _ => rfl

/-- A snapshot is delivered while a text is searched: its block shows all restaurants. -/
theorem snapshot_ignores_search : ¬ ∀ events : List SearchEvent,
    Always (SearchRestaurantViewController.step allAssets asciiSearch)
      (ShowsSearched asciiSearch) {} events := by
  intro h
  have hvalues : (run (SearchRestaurantViewController.step allAssets asciiSearch) {}
      [.textDidChange "piz", .restaurants (.snapshot [restaurantDocument "a" "Mr Biggs" "Pizza",
        restaurantDocument "b" "Black Fish" "Grill"]), .mainQueue]).map (fun s =>
          (s.mainQueue, s.filteredData.map (·.restaurantName),
            (s.searchViewModel.restaurantList.filter fun restaurant =>
              LookedFor asciiSearch s.searchText restaurant).map (·.restaurantName)))
      = some (0, ["Mr Biggs", "Black Fish"], ["Mr Biggs"]) := by
    decide +kernel
  obtain ⟨s, hs, hs'⟩ := Option.map_eq_some_iff.mp hvalues
  obtain ⟨hdrained, hs'⟩ := Prod.mk.inj hs'
  obtain ⟨hrows, hfound⟩ := Prod.mk.inj hs'
  rw [(h _).last hs hdrained, hfound] at hrows
  exact absurd hrows (by decide)

end Foodly
