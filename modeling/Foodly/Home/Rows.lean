import Foodly.Home.Controller

namespace Foodly

open Runs

/-!
# Rows and restaurant ids

The rows of the home screen are `restaurantList`, and a selected row is opened under the id at
the same index of `restaurantIDS`.  A snapshot replaces the first and is appended to the second, so
that the two lists part as soon as a second snapshot brings other restaurants.

* `DecodedFrom`, `OpensDocument` — a row shows the restaurant of a document, and opens it under the
  id of that document;
* `OpensShown` — every row does so for the document that it was decoded from;
* `LoadsInPlace` — the condition on a delivery: the ids of the snapshot come first among the ids
  recorded once they have been appended;
* `opensShown_of_snapshot` — after a delivery every row opens its document exactly then;
* `rows_open_shown_iff` — the law and the condition for whole runs;
* `loadsInPlace_iff_delivered` — the condition in terms of the snapshots delivered so far: there
  was no well-formed document in them, or their ids begin with those of this one.

The documents behind the rows are kept beside the screen (`ShownState`), since the screen itself
does not know them.
-/

variable {Image : Type} (A : Assets Image) (F : Type)

/-- The home screen, and the documents that its rows were decoded from. -/
structure ShownState (Image : Type) where
  screen : HomeScreenViewController Image
  shown : QuerySnapshot := []

def ShownState.step (p : ShownState Image) (event : HomeEvent) : Option (ShownState Image) := do
  let screen ← p.screen.step A event
  let shown := match event with
    | .restaurants _ (.snapshot documents) => wellFormedRestaurants documents
    | _ => p.shown
  return { screen, shown }

/-- A restaurant was decoded from a document. -/
def DecodedFrom (result : Document) (restaurant : Restaurants Image) : Prop :=
  ∃ fields, restaurantFields result.data = some fields ∧ eachRestaurant A fields = some restaurant

/-- The row shows a restaurant decoded from the document, and selecting it opens the details of
    that restaurant under the id of that document. -/
def OpensDocument (s : HomeScreenViewController Image) (row : ℕ) (result : Document) : Prop :=
  ∃ restaurant, s.homeScreenViewModel.restaurantList[row]? = some restaurant ∧
    DecodedFrom A result restaurant ∧
    s.homeScreenViewModel.restaurantIDS[row]? = some result.documentID ∧
    ∃ details, s.didSelectRowAt F row = some details ∧
      details.detailViewModel.restID = result.documentID ∧
      stringField result.data "name" = some details.detailViewModel.passRestaurantName ∧
      stringField result.data "discount" = some details.detailViewModel.passRestaurantDiscount

/-- There is one row for each shown document, and it opens that document. -/
def OpensShown (p : ShownState Image) : Prop :=
  p.screen.homeScreenViewModel.restaurantList.length = p.shown.length ∧
    ∀ row result, p.shown[row]? = some result → OpensDocument A F p.screen row result

/-- The ids of a snapshot come first in `restaurantIDS` once they have been appended. -/
def LoadsInPlace (p : ShownState Image) : HomeEvent → Prop
  | .restaurants _ (.snapshot documents) =>
    restaurantIDsOf documents <+: p.screen.homeScreenViewModel.restaurantIDS
      ++ restaurantIDsOf documents
  | _ => True

instance (p : ShownState Image) : (event : HomeEvent) → Decidable (LoadsInPlace p event)
  | .restaurants _ (.snapshot _) => inferInstanceAs (Decidable (_ <+: _))
  | .restaurants _ (.error _) | .didSelectItemAt _ | .categories _ =>
    inferInstanceAs (Decidable True)

/-! ### Decoding a snapshot -/

variable {A}

/-- The restaurants of a snapshot were decoded from its well-formed documents, in order. -/
theorem forall₂_decodedFrom {documents : QuerySnapshot} {restaurants : List (Restaurants Image)}
    (h : restaurantsOf A documents = some restaurants) :
    List.Forall₂ (DecodedFrom A) (wellFormedRestaurants documents) restaurants := by
  induction documents generalizing restaurants with
  | nil =>
    obtain rfl : [] = restaurants := Option.some.inj h
    exact List.Forall₂.nil
  | cons result documents ih =>
    rw [wellFormedRestaurants_cons]
    -- A document that lacks a field is skipped by both lists.
    cases hfields : restaurantFields result.data with
    | none =>
      rw [restaurantsOf_cons_none A documents hfields] at h
      exact ih h
    | some fields =>
      rw [restaurantsOf_cons_some A documents hfields] at h
      obtain ⟨restaurant, hrestaurant, h⟩ := Option.bind_eq_some_iff.mp h
      obtain ⟨rest, hrest, rfl⟩ := Option.map_eq_some_iff.mp h
      exact List.Forall₂.cons ⟨fields, hfields, hrestaurant⟩ (ih hrest)

/-- The restaurant of a document carries its name and its discount. -/
theorem DecodedFrom.fields {result : Document} {restaurant : Restaurants Image}
    (h : DecodedFrom A result restaurant) :
    stringField result.data "name" = some restaurant.restaurantName ∧
      stringField result.data "discount" = some restaurant.discountLabel := by
  obtain ⟨fields, hfields, hrestaurant⟩ := h
  obtain ⟨image, -, hrestaurant⟩ := Option.bind_eq_some_iff.mp hrestaurant
  obtain rfl : _ = restaurant := Option.some.inj hrestaurant
  obtain ⟨name, hname, hfields⟩ := Option.bind_eq_some_iff.mp hfields
  obtain ⟨imageName, -, hfields⟩ := Option.bind_eq_some_iff.mp hfields
  obtain ⟨discount, hdiscount, hfields⟩ := Option.bind_eq_some_iff.mp hfields
  obtain ⟨mealType, -, hfields⟩ := Option.bind_eq_some_iff.mp hfields
  obtain ⟨time, -, hfields⟩ := Option.bind_eq_some_iff.mp hfields
  obtain rfl := Option.some.inj hfields
  exact ⟨hname, hdiscount⟩

/-! ### One delivery -/

/-- A row that shows the restaurant of a document opens it exactly when the id at its index is
    the document's. -/
theorem opensDocument_iff {s : HomeScreenViewController Image} {row : ℕ} {result : Document}
    {restaurant : Restaurants Image}
    (hrow : s.homeScreenViewModel.restaurantList[row]? = some restaurant)
    (hdecoded : DecodedFrom A result restaurant) :
    OpensDocument A F s row result ↔
      s.homeScreenViewModel.restaurantIDS[row]? = some result.documentID := by
  constructor
  · rintro ⟨-, -, -, hid, -⟩
    exact hid
  · intro hid
    -- Everything but the id comes from the row itself, which is the document's.
    have hselect : s.didSelectRowAt F row = some { detailViewModel := {
        restaurantDetailsList := some restaurant
        passRestaurantName := restaurant.restaurantName
        passRestaurantDiscount := restaurant.discountLabel
        restID := result.documentID } } := by
      simp only [HomeScreenViewController.didSelectRowAt, hrow, hid, Option.bind_eq_bind,
        Option.bind_some, Option.pure_def]
    exact ⟨restaurant, hrow, hdecoded, hid, _, hselect, rfl, hdecoded.fields⟩

/-- After a delivery every row opens its document exactly when the new ids come first. -/
theorem opensShown_of_snapshot {s : HomeScreenViewController Image} {documents : QuerySnapshot}
    (hlist : restaurantsOf A documents = some s.homeScreenViewModel.restaurantList) :
    OpensShown A F { screen := s, shown := wellFormedRestaurants documents } ↔
      restaurantIDsOf documents <+: s.homeScreenViewModel.restaurantIDS := by
  have hdecoded := forall₂_decodedFrom hlist
  have hrow : ∀ row result, (wellFormedRestaurants documents)[row]? = some result →
      (OpensDocument A F s row result ↔
        s.homeScreenViewModel.restaurantIDS[row]? = some result.documentID) := by
    intro row result hresult
    obtain ⟨hlt, rfl⟩ := List.getElem?_eq_some_iff.mp hresult
    have hlt' := hdecoded.length_eq ▸ hlt
    exact opensDocument_iff F (List.getElem?_eq_getElem hlt') (hdecoded.get hlt hlt')
  unfold OpensShown
  -- There are as many rows as documents; what is left is to compare the ids row by row.
  rw [and_iff_right hdecoded.length_eq.symm, List.prefix_iff_getElem?]
  constructor
  · intro hopens row hlt
    have hlt' : row < (wellFormedRestaurants documents).length := by
      rwa [restaurantIDsOf, List.length_map] at hlt
    have hresult := List.getElem?_eq_getElem hlt'
    rw [(hrow row _ hresult).mp (hopens row _ hresult)]
    simp only [restaurantIDsOf, List.getElem_map]
  · intro hprefix row result hresult
    obtain ⟨hlt, rfl⟩ := List.getElem?_eq_some_iff.mp hresult
    have hlt' : row < (restaurantIDsOf documents).length := by
      rwa [restaurantIDsOf, List.length_map]
    rw [hrow row _ hresult, hprefix row hlt']
    simp only [restaurantIDsOf, List.getElem_map]

/-- An event that leaves the restaurants alone leaves the rows opening what they opened. -/
theorem OpensShown.of_same {s t : HomeScreenViewController Image} {shown : QuerySnapshot}
    (h : OpensShown A F { screen := s, shown })
    (hlist : t.homeScreenViewModel.restaurantList = s.homeScreenViewModel.restaurantList)
    (hids : t.homeScreenViewModel.restaurantIDS = s.homeScreenViewModel.restaurantIDS) :
    OpensShown A F { screen := t, shown } := by
  unfold OpensShown OpensDocument HomeScreenViewController.didSelectRowAt at *
  rw [hlist, hids]
  exact h

/-- **One event.**  It keeps the rows opening their documents exactly when it loads in place. -/
theorem ShownState.step_opens {p q : ShownState Image} {event : HomeEvent}
    (hlaw : OpensShown A F p) (hq : p.step A event = some q) :
    OpensShown A F q ↔ LoadsInPlace p event := by
  obtain ⟨t, ht, hq⟩ := Option.bind_eq_some_iff.mp hq
  obtain rfl : _ = q := Option.some.inj hq
  rcases HomeScreenViewController.step_cases ht with
    ⟨listener, documents, restaurantList, source, rfl, -, hlist, rfl⟩ | ⟨hevent, hlist, hids⟩
  · exact opensShown_of_snapshot F hlist
  · cases event with
    | restaurants listener delivery =>
      cases delivery with
      | snapshot documents => exact absurd rfl (hevent listener documents)
      | error e => exact iff_of_true (hlaw.of_same F hlist hids) trivial
    | didSelectItemAt row => exact iff_of_true (hlaw.of_same F hlist hids) trivial
    | categories delivery => exact iff_of_true (hlaw.of_same F hlist hids) trivial

/-! ### Runs -/

variable (A)

/-- **Rows.**  Every row opens the restaurant it shows, throughout a run of the home screen,
    exactly when the ids of every delivered snapshot come first in the ids recorded by then. -/
theorem rows_open_shown_iff (events : List HomeEvent) :
    Always (ShownState.step A) (OpensShown A F) { screen := .viewDidLoad } events ↔
      Guarded (ShownState.step A) LoadsInPlace { screen := .viewDidLoad } events := by
  have hopened : OpensShown A F { screen := .viewDidLoad } :=
    ⟨rfl, fun row result hrow => by cases hrow⟩
  exact always_iff_guarded_of_step (fun _ _ _ hlaw hq => ShownState.step_opens F hlaw hq) hopened

/-! ### The condition on what is delivered -/

/-- The ids of the well-formed documents that an event delivers. -/
def HomeEvent.restaurantIDs : HomeEvent → List String
  | .restaurants _ (.snapshot documents) => restaurantIDsOf documents
  | .restaurants _ (.error _) | .didSelectItemAt _ | .categories _ => []

/-- The ids recorded are those of all snapshots delivered, in order. -/
theorem restaurantIDS_eq_flatMap {events : List HomeEvent} {p : ShownState Image}
    (hp : run (ShownState.step A) { screen := .viewDidLoad } events = some p) :
    p.screen.homeScreenViewModel.restaurantIDS = events.flatMap HomeEvent.restaurantIDs := by
  refine run_history (P := fun events p =>
    p.screen.homeScreenViewModel.restaurantIDS = events.flatMap HomeEvent.restaurantIDs) ?_ rfl hp
  intro events p event q hids hq
  obtain ⟨t, ht, hq⟩ := Option.bind_eq_some_iff.mp hq
  obtain rfl : _ = q := Option.some.inj hq
  rw [List.flatMap_append, List.flatMap_singleton, ← hids]
  rcases HomeScreenViewController.step_cases ht with
    ⟨listener, documents, restaurantList, source, rfl, -, -, rfl⟩ | ⟨hevent, -, hsame⟩
  · rfl
  · -- Any other event delivers no documents.
    have hnone : event.restaurantIDs = [] := by
      cases event with
      | restaurants listener delivery =>
        cases delivery with
        | snapshot documents => exact absurd rfl (hevent listener documents)
        | error e => rfl
      | didSelectItemAt row => rfl
      | categories delivery => rfl
    rw [hnone, List.append_nil]
    exact hsame

/-- A list without repetitions comes first when it is put behind another, exactly when the other
    is empty or has it first already. -/
theorem prefix_append_self_iff {α : Type} {earlier new : List α} (hnew : new.Nodup) :
    new <+: earlier ++ new ↔ earlier = [] ∨ new <+: earlier := by
  constructor
  · intro h
    rcases List.prefix_or_prefix_of_prefix h (List.prefix_append earlier new) with hfirst | hlater
    · exact Or.inr hfirst
    · -- The new list goes on with its own beginning, which it has already.
      obtain ⟨rest, rfl⟩ := hlater
      have hrest : rest <+: earlier ++ rest := (List.prefix_append_right_inj earlier).mp h
      -- Its rest would begin with the first earlier id, and its own beginning does so too.
      cases rest with
      | nil =>
        rw [List.append_nil]
        exact Or.inr List.prefix_rfl
      | cons x rest =>
        cases earlier with
        | nil => exact Or.inl rfl
        | cons y earlier =>
          obtain ⟨rfl, -⟩ := List.cons_prefix_cons.mp hrest
          simp at hnew
  · rintro (rfl | hfirst)
    · exact List.prefix_rfl
    · exact hfirst.trans (List.prefix_append _ _)

/-- **The condition by the deliveries.**  A snapshot whose documents have different ids loads in
    place exactly when no snapshot before it had a well-formed document, or the ids of those before
    it start with its own. -/
theorem loadsInPlace_iff_delivered {events : List HomeEvent} {p : ShownState Image}
    (hp : run (ShownState.step A) { screen := .viewDidLoad } events = some p) (listener : ℕ)
    {documents : QuerySnapshot} (hdistinct : (restaurantIDsOf documents).Nodup) :
    LoadsInPlace p (.restaurants listener (.snapshot documents)) ↔
      events.flatMap HomeEvent.restaurantIDs = [] ∨
        restaurantIDsOf documents <+: events.flatMap HomeEvent.restaurantIDs := by
  rw [LoadsInPlace, restaurantIDS_eq_flatMap A hp, prefix_append_self_iff hdistinct]

/-- A restaurant document. -/
def restaurantDocument (documentID name mealType : String) : Document where
  documentID := documentID
  data := [("name", .string name), ("imageName", .string "food"), ("discount", .string "10"),
    ("mealType", .string mealType), ("time", .string "25 mins")]

/-- One restaurant is replaced by another: the row shows the new one and opens the old one. -/
theorem replaced_restaurant_opened : ¬ ∀ events : List HomeEvent,
    Always (ShownState.step allAssets) (OpensShown allAssets ℚ) { screen := .viewDidLoad }
      events := by
  intro h
  have hvalues : (run (ShownState.step allAssets) { screen := .viewDidLoad }
      [.restaurants 0 (.snapshot [restaurantDocument "a" "Mr Biggs" "Pizza"]),
        .restaurants 0 (.snapshot [restaurantDocument "b" "Black Fish" "Pizza"])]).map (fun p =>
          (p.shown, p.screen.homeScreenViewModel.restaurantIDS))
      = some ([restaurantDocument "b" "Black Fish" "Pizza"], ["a", "b"]) := by
    decide +kernel
  obtain ⟨p, hp, hp'⟩ := Option.map_eq_some_iff.mp hvalues
  obtain ⟨hshown, hids⟩ := Prod.mk.inj hp'
  obtain ⟨-, hrows⟩ := (h _).last hp
  obtain ⟨-, -, -, hid, -⟩ := hrows 0 (restaurantDocument "b" "Black Fish" "Pizza")
    (by rw [hshown]; rfl)
  rw [hids] at hid
  exact absurd hid (by decide)

end Foodly
