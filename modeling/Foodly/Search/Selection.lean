import Foodly.Search.Filter

namespace Foodly

open Runs Swift

/-!
# Selecting a restaurant that was searched

Selecting a row of the search results should open the restaurant shown in it, with what the home
screen would hand over.  The handler looks its row up in the view model's restaurants, of which the
rows are only some, and hands nothing of what it finds to the screen that it pushes.

* `OpensAsHome` — selecting the row opens the details screen that selecting the restaurant shown in
  it would open on a freshly loaded home screen;
* `OpensSelected` — the law on an event: a row that is shown and selected opens its restaurant;
* `SelectsNothing` — the condition: no row that is shown is selected;
* `not_opensAsHome` — no selection meets the law, since what is pushed has no detail record;
* `selections_open_iff` — so the law holds in a run exactly when the run selects nothing;
* `selection_in_range` — once the queue has drained, the look-up at least does not trap;
* `selection_beyond_restaurants` — while a block is on the queue it may.
-/

variable {Image : Type} (A : Assets Image) (M : TextSearch) (F : Type)

/-- The home screen after its first snapshot. -/
def freshlyLoaded (documents : QuerySnapshot) : Option (HomeScreenViewController Image) :=
  HomeScreenViewController.viewDidLoad.step A (.restaurants 0 (.snapshot documents))

/-- Selecting the row opens a details screen, and it is the one that selecting the restaurant
    shown in the row would open on a freshly loaded home screen. -/
def OpensAsHome (s : SearchRestaurantViewController Image) (row : ℕ) : Prop :=
  ∃ restaurant details, s.filteredData[row]? = some restaurant ∧
    s.didSelectRowAt F row = some details ∧
    ∃ documents home homeRow, freshlyLoaded A documents = some home ∧
      home.homeScreenViewModel.restaurantList[homeRow]? = some restaurant ∧
      home.didSelectRowAt F homeRow = some details

/-- A row that is shown and selected opens its restaurant. -/
def OpensSelected (s : SearchRestaurantViewController Image) (event : SearchEvent) : Prop :=
  ∀ row, event = .didSelectRowAt row → row < s.filteredData.length → OpensAsHome A F s row

/-- No row that is shown is selected. -/
def SelectsNothing (s : SearchRestaurantViewController Image) (event : SearchEvent) : Prop :=
  ∀ row, event = .didSelectRowAt row → ¬ row < s.filteredData.length

variable {A F}

/-- The home screen hands over the restaurant selected. -/
theorem restaurantDetailsList_of_home {home : HomeScreenViewController Image} {row : ℕ}
    {details : DetailsViewController F Image} (h : home.didSelectRowAt F row = some details) :
    details.detailViewModel.restaurantDetailsList
      = home.homeScreenViewModel.restaurantList[row]? := by
  obtain ⟨detail, hdetail, h⟩ := Option.bind_eq_some_iff.mp h
  obtain ⟨restID, -, h⟩ := Option.bind_eq_some_iff.mp h
  obtain rfl : _ = details := Option.some.inj h
  exact hdetail.symm

/-- The search screen traps beyond the view model's restaurants, and hands over nothing. -/
theorem didSelectRowAt_eq (s : SearchRestaurantViewController Image) (row : ℕ) :
    s.didSelectRowAt F row
      = if row < s.searchViewModel.restaurantList.length then some {} else none := by
  unfold SearchRestaurantViewController.didSelectRowAt
  by_cases hrow : row < s.searchViewModel.restaurantList.length
  · rw [List.getElem?_eq_getElem hrow, if_pos hrow]
    rfl
  · rw [List.getElem?_eq_none (not_lt.mp hrow), if_neg hrow]
    rfl

/-- What is pushed has no detail record, whichever row is selected. -/
theorem not_opensAsHome (s : SearchRestaurantViewController Image) (row : ℕ) :
    ¬ OpensAsHome A F s row := by
  rintro ⟨restaurant, details, -, hdetails, documents, home, homeRow, -, hrow, hhome⟩
  have hlist := restaurantDetailsList_of_home hhome
  rw [hrow] at hlist
  rw [didSelectRowAt_eq] at hdetails
  split at hdetails
  · obtain rfl := Option.some.inj hdetails
    cases hlist
  · cases hdetails

/-! ### Runs -/

variable (A F)

/-- **Selections.**  Every row that is shown and selected in a run opens its restaurant exactly
    when no row that is shown is selected in the run. -/
theorem selections_open_iff (events : List SearchEvent) :
    Allowed (SearchRestaurantViewController.step A M) (OpensSelected A F) {} events ↔
      Allowed (SearchRestaurantViewController.step A M) SelectsNothing {} events := by
  apply allowed_congr
  intro s event
  simp only [OpensSelected, SelectsNothing, not_opensAsHome]

/-- When the queue has drained, the rows shown are some of the restaurants. -/
def ShowsSome (s : SearchRestaurantViewController Image) : Prop :=
  s.mainQueue = 0 → s.filteredData.Sublist s.searchViewModel.restaurantList

theorem searched_sublist (searchText : String) (restaurants : List (Restaurants Image)) :
    (searched M searchText restaurants).Sublist restaurants := by
  unfold searched
  split
  · exact List.Sublist.refl _
  · exact List.filter_sublist

variable {A M}

theorem ShowsSome.step {s t : SearchRestaurantViewController Image} {event : SearchEvent}
    (h : ShowsSome s) (ht : s.step A M event = some t) : ShowsSome t := by
  rcases SearchRestaurantViewController.step_cases ht with
    ⟨searchText, -, rfl⟩ | ⟨documents, searchViewModel, -, rfl⟩ |
    ⟨mainQueue, -, -, rfl⟩ | ⟨-, -, rfl⟩
  · exact fun _ => searched_sublist M _ _
  · exact nofun
  · exact fun _ => List.Sublist.refl _
  · exact h

/-- **In range.**  Once the queue has drained, selecting a row that is shown does not trap. -/
theorem selection_in_range {events : List SearchEvent} {s : SearchRestaurantViewController Image}
    (hs : run (SearchRestaurantViewController.step A M) {} events = some s)
    (hdrained : s.mainQueue = 0) {row : ℕ} (hrow : row < s.filteredData.length) :
    s.didSelectRowAt F row = some {} := by
  have hshows : ShowsSome s := run_history (P := fun _ => ShowsSome)
    (fun _ _ _ _ h ht => h.step ht) (fun _ => List.Sublist.refl _) hs
  rw [didSelectRowAt_eq, if_pos]
  exact lt_of_lt_of_le hrow (hshows hdrained).length_le

/-- Two restaurants are shown, one is removed, and the second row is selected before the block
    has run: the look-up traps. -/
theorem selection_beyond_restaurants : ¬ ∀ events : List SearchEvent,
    Allowed (SearchRestaurantViewController.step allAssets asciiSearch)
      (OpensSelected allAssets ℚ) {} events := by
  intro h
  have hvalues : (run (SearchRestaurantViewController.step allAssets asciiSearch) {}
      [.restaurants (.snapshot [restaurantDocument "a" "Mr Biggs" "Pizza",
        restaurantDocument "b" "Black Fish" "Grill"]), .mainQueue,
        .restaurants (.snapshot [restaurantDocument "a" "Mr Biggs" "Pizza"])]).map (fun s =>
          (s.filteredData.length, (s.didSelectRowAt ℚ 1).isSome))
      = some (2, false) := by
    decide +kernel
  obtain ⟨s, hs, hs'⟩ := Option.map_eq_some_iff.mp hvalues
  obtain ⟨hshown, htraps⟩ := Prod.mk.inj hs'
  obtain ⟨_, _, _, hdetails, -⟩ := (h (_ ++ [.didSelectRowAt 1])).after hs 1 rfl (by omega)
  rw [hdetails] at htraps
  cases htraps

end Foodly
