import Foodly.Home.Rows

namespace Foodly

open Runs

/-!
# Categories and late snapshots

All listeners write the same `restaurantList`, whichever category they were registered for, and
the listener of a category that was selected before goes on listening.  So the restaurants of one
category may be replaced by those of another at any time after they have been shown.

* `CategoryState` — the screen, the category selected last, and the latest snapshot delivered for
  it since;
* `ListensTo` — the listener is the one of a category;
* `ShowsSelected` — once a snapshot of the selected category has been delivered, the list is its
  decoding;
* `KeepsSelected` — the condition on a delivery: after such a snapshot, a listener of another
  category only delivers what decodes to the same restaurants;
* `shows_selected_iff` — in which runs the list shows the category selected last;
* `earlier_listener_overwrites` — a run in which it does not, although every listener delivers the
  documents of its own query (`DeliversOwnQuery`).

What is delivered is not restricted to the documents of a listener's query: the result holds for
any deliveries, and so for those that Firestore makes.
-/

variable {Image : Type} (A : Assets Image)

/-- The home screen, the category selected last, and the latest snapshot delivered for it since
    it was selected. -/
structure CategoryState (Image : Type) where
  screen : HomeScreenViewController Image
  selected : Option String := none
  latest : Option QuerySnapshot := none

/-- The listener is attached to the category. -/
def ListensTo (s : HomeScreenViewController Image) (listener : ℕ) (category : Option String) :
    Prop := s.listeners[listener]? = some (restaurantSource category)

instance (s : HomeScreenViewController Image) (listener : ℕ) (category : Option String) :
    Decidable (ListensTo s listener category) := inferInstanceAs (Decidable (_ = _))

def CategoryState.step (p : CategoryState Image) (event : HomeEvent) :
    Option (CategoryState Image) := do
  let screen ← p.screen.step A event
  match event with
  | .didSelectItemAt row => (p.screen.mealName row).map fun category =>
      { screen, selected := category, latest := none }
  | .restaurants listener (.snapshot documents) =>
    if ListensTo p.screen listener p.selected then
      return { p with screen, latest := some documents }
    else return { p with screen }
  | .restaurants _ (.error _) | .categories _ => return { p with screen }

/-- Once a snapshot of the selected category has been delivered, the list is its decoding. -/
def ShowsSelected (p : CategoryState Image) : Prop :=
  ∀ documents ∈ p.latest,
    restaurantsOf A documents = some p.screen.homeScreenViewModel.restaurantList

/-- A snapshot from a listener of another category, delivered after one of the selected
    category, decodes to the same restaurants. -/
def KeepsSelected (p : CategoryState Image) : HomeEvent → Prop
  | .restaurants listener (.snapshot documents) =>
    ListensTo p.screen listener p.selected ∨
      ∀ latest ∈ p.latest, restaurantsOf A documents = restaurantsOf A latest
  | _ => True

variable {A}

/-! ### One event -/

/-- An event that keeps the restaurants and the latest snapshot keeps the law. -/
theorem ShowsSelected.of_same {p q : CategoryState Image} (h : ShowsSelected A p)
    (hlist : q.screen.homeScreenViewModel.restaurantList
      = p.screen.homeScreenViewModel.restaurantList)
    (hlatest : ∀ documents ∈ q.latest, documents ∈ p.latest) : ShowsSelected A q := by
  intro documents hdocuments
  rw [hlist]
  exact h documents (hlatest documents hdocuments)

/-- **One event.**  It keeps the list showing the selected category exactly when no other
    category's snapshot changes it. -/
theorem CategoryState.step_shows {p q : CategoryState Image} {event : HomeEvent}
    (hlaw : ShowsSelected A p) (hq : p.step A event = some q) :
    ShowsSelected A q ↔ KeepsSelected A p event := by
  obtain ⟨t, ht, hq⟩ := Option.bind_eq_some_iff.mp hq
  rcases HomeScreenViewController.step_cases ht with
    ⟨listener, documents, restaurantList, source, rfl, -, hlist, rfl⟩ | ⟨hevent, hlist, -⟩
  · by_cases hlistens : ListensTo p.screen listener p.selected
    · -- The delivered snapshot is the latest of the selected category.
      simp only [if_pos hlistens, Option.pure_def, Option.some.injEq] at hq
      subst hq
      refine iff_of_true (fun latest hlatest => ?_) (Or.inl hlistens)
      obtain rfl : documents = latest := Option.some.inj hlatest
      exact hlist
    · -- A snapshot of another category has replaced the list.
      simp only [if_neg hlistens, Option.pure_def, Option.some.injEq] at hq
      subst hq
      show (∀ latest ∈ p.latest, restaurantsOf A latest = some restaurantList) ↔
        (ListensTo p.screen listener p.selected ∨
          ∀ latest ∈ p.latest, restaurantsOf A documents = restaurantsOf A latest)
      rw [or_iff_right hlistens]
      constructor
      · intro hshows latest hlatest
        rw [hlist, hshows latest hlatest]
      · intro hkeeps latest hlatest
        rw [← hkeeps latest hlatest, hlist]
  · cases event with
    | restaurants listener delivery =>
      cases delivery with
      | snapshot documents => exact absurd rfl (hevent listener documents)
      | error e =>
        obtain rfl : _ = q := Option.some.inj hq
        exact iff_of_true (hlaw.of_same hlist fun _ h => h) trivial
    | didSelectItemAt row =>
      obtain ⟨category, -, rfl⟩ := Option.map_eq_some_iff.mp hq
      -- Nothing has been delivered for the new category yet.
      exact iff_of_true (fun _ h => by cases h) trivial
    | categories delivery =>
      obtain rfl : _ = q := Option.some.inj hq
      exact iff_of_true (hlaw.of_same hlist fun _ h => h) trivial

/-! ### Runs -/

variable (A)

/-- **Late snapshots.**  Throughout a run of the home screen the list shows the latest snapshot
    of the category selected last, exactly when, after such a snapshot, listeners of other
    categories only deliver what decodes to the same restaurants. -/
theorem shows_selected_iff (events : List HomeEvent) :
    Always (CategoryState.step A) (ShowsSelected A) { screen := .viewDidLoad } events ↔
      Guarded (CategoryState.step A) (KeepsSelected A) { screen := .viewDidLoad } events := by
  have hopened : ShowsSelected A { screen := .viewDidLoad } := fun _ h => by cases h
  exact always_iff_guarded_of_step (fun _ _ _ hlaw hq => CategoryState.step_shows hlaw hq) hopened

/-- A document of the collection or query that a listener is attached to. -/
def ListenerSource.Matches (result : Document) : ListenerSource → Prop
  | .collection _ => True
  | .query q => stringField result.data q.field = some q.isEqualTo

instance (result : Document) : (source : ListenerSource) → Decidable (source.Matches result)
  | .collection _ => inferInstanceAs (Decidable True)
  | .query q => inferInstanceAs (Decidable (stringField result.data q.field = some q.isEqualTo))

/-- A listener is called back with documents of its own query only. -/
def DeliversOwnQuery (p : CategoryState Image) : HomeEvent → Prop
  | .restaurants listener (.snapshot documents) =>
    ∀ source ∈ p.screen.listeners[listener]?, ∀ result ∈ documents, source.Matches result
  | _ => True

instance (p : CategoryState Image) : (event : HomeEvent) → Decidable (DeliversOwnQuery p event)
  | .restaurants listener (.snapshot documents) => inferInstanceAs (Decidable
      (∀ source ∈ p.screen.listeners[listener]?, ∀ result ∈ documents, source.Matches result))
  | .restaurants _ (.error _) | .didSelectItemAt _ | .categories _ =>
    inferInstanceAs (Decidable True)

/-- Pizza is selected and delivered, and then the listener on all restaurants delivers again. -/
theorem earlier_listener_overwrites : ¬ ∀ events : List HomeEvent,
    Allowed (CategoryState.step allAssets) DeliversOwnQuery { screen := .viewDidLoad } events →
    Always (CategoryState.step allAssets) (ShowsSelected allAssets) { screen := .viewDidLoad }
      events := by
  intro h
  have hvalues : (run (CategoryState.step allAssets) { screen := .viewDidLoad }
      [.categories (.snapshot
          [⟨"0", [("name", .string "All"), ("image", .string "all")]⟩,
            ⟨"1", [("name", .string "Pizza"), ("image", .string "pizza")]⟩]),
        .didSelectItemAt 1,
        .restaurants 1 (.snapshot [restaurantDocument "a" "Mr Biggs" "Pizza"]),
        .restaurants 0 (.snapshot [restaurantDocument "a" "Mr Biggs" "Pizza",
          restaurantDocument "b" "Black Fish" "Grill"])]).map (fun p => (p.latest,
            p.screen.homeScreenViewModel.restaurantList.map (·.restaurantName)))
      = some (some [restaurantDocument "a" "Mr Biggs" "Pizza"], ["Mr Biggs", "Black Fish"]) := by
    decide +kernel
  obtain ⟨p, hp, hp'⟩ := Option.map_eq_some_iff.mp hvalues
  obtain ⟨hlatest, hnames⟩ := Prod.mk.inj hp'
  have hlaw := (h _ (by decide +kernel)).last hp _ hlatest
  have hdecoded := congrArg (Option.map (List.map (·.restaurantName))) hlaw
  rw [Option.map_some, hnames] at hdecoded
  exact absurd hdecoded (by decide +kernel)

end Foodly
