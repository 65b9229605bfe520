import Foodly.Details.Controller
import Foodly.Home.ViewModel
import Foodly.Lib.Runs

namespace Foodly

open Runs Swift

/-!
# The menu

`getRestaurantMeals` registers a listener on the menu of the restaurant, and every snapshot's
meals are appended to `mealList`.  Nothing ever empties the list, while a snapshot is the whole
menu each time.

* `MealFields`, `mealFields`, `eachMeal` — the fields that a meal needs, with its price divided by
  100, and the meal made of them;
* `getRestaurantMeals`, `mealsFetched` — the call, and the completion with its loop;
* `mealsOf`, `mealsFetched_snapshot` — what the loop appends, without the loop; a picture that is
  missing is a trap;
* `ShowsMenu` — the law: once a snapshot has been delivered, the list is the decoding of the latest;
* `FindsEmpty` — the condition on a delivery: it finds the list empty;
* `shows_menu_iff` — in which runs the list shows the menu;
* `findsEmpty_iff_delivered` — the condition in terms of the snapshots delivered before: none of
  them had a well-formed document.

Prices are converted by a type `D` with the division and the texts of `Double`.
-/

variable {F Image : Type} (A : Assets Image) (D : Type) [SwiftDouble D]

/-! ### The listener -/

/-- The fields that `getRestaurantMeals` requires of a document, with the price converted. -/
structure MealFields where
  mealName : String
  mealImageName : String
  mealRecipe : String
  mealNewPrice : String
  deriving DecidableEq, Repr

def mealFields (data : Parameter) : Option MealFields := do
  let mealName ← stringField data "name"
  let mealImageName ← stringField data "imageName"
  let mealRecipe ← stringField data "recipe"
  let mealPrice ← stringField data "price"
  let newPrice : D ← SwiftDouble.ofText mealPrice
  let mealNewPrice := SwiftDouble.description (newPrice / SwiftDouble.literal 100)
  return { mealName, mealImageName, mealRecipe, mealNewPrice }

/-- The meal made of the fields, with `UIImage(imageLiteralResourceName:)`. -/
def eachMeal (fields : MealFields) : Option (MealsModel Image) := do
  let mealImage ← A.named fields.mealImageName
  return {
    mealName := fields.mealName
    mealImage := some mealImage
    mealPrice := fields.mealNewPrice
    mealRecipe := fields.mealRecipe }

namespace DetailsViewModel

/-- `getRestaurantMeals()`: the call it leads to; `generated` and `generated'` are the ids of
    the references that the endpoint makes up beside it. -/
def getRestaurantMeals (vm : DetailsViewModel F Image) (generated generated' : String) :
    Option FirestoreCall :=
  Router.request ((MealsAPI.getMeals vm.restID).request generated generated')

/-- The body of the loop over the documents. -/
def addMeal (mealList : List (MealsModel Image)) (result : Document) :
    Option (List (MealsModel Image)) :=
  match mealFields D result.data with
  | none => some mealList
  | some fields => do
    let meal ← eachMeal A fields
    return mealList ++ [meal]

/-- The completion of `getRestaurantMeals()`. -/
def mealsFetched (vm : DetailsViewModel F Image) :
    RouterResult → Option (DetailsViewModel F Image)
  | .failure _ => some vm
  | .success querySnapshot => do
    -- The loop starts from what earlier snapshots left.
    let mealList ← (querySnapshot.getD []).foldlM (addMeal A D) vm.mealList
    return { vm with mealList }

end DetailsViewModel

/-- The listener is on the menu of the restaurant. -/
theorem getRestaurantMeals_eq (vm : DetailsViewModel F Image) (generated generated' : String) :
    vm.getRestaurantMeals generated generated'
      = some (.addSnapshotListener (.collection ⟨["restaurants", vm.restID, "menu"]⟩)) := rfl

/-! ### What a snapshot decodes to -/

/-- The meals of the well-formed documents; `none` when a picture is missing. -/
def mealsOf (documents : QuerySnapshot) : Option (List (MealsModel Image)) :=
  (documents.filterMap fun result => mealFields D result.data).mapM (eachMeal A)

theorem mealsOf_cons_none {result : Document} (documents : QuerySnapshot)
    (h : mealFields D result.data = none) :
    mealsOf A D (result :: documents) = mealsOf A D documents := by
  simp only [mealsOf, List.filterMap_cons, h]

theorem mealsOf_cons_some {result : Document} (documents : QuerySnapshot) {fields : MealFields}
    (h : mealFields D result.data = some fields) :
    mealsOf A D (result :: documents)
      = (eachMeal A fields).bind fun meal => (mealsOf A D documents).map (meal :: ·) := by
  simp only [mealsOf, List.filterMap_cons, h, List.mapM_cons, Option.bind_eq_bind,
    Option.pure_def, Option.map_eq_bind, Function.comp_def]

/-- No meal comes of documents exactly when none of them is well formed. -/
theorem mealsOf_eq_nil_iff (documents : QuerySnapshot) :
    mealsOf A D documents = some [] ↔ ∀ result ∈ documents, mealFields D result.data = none := by
  rw [mealsOf, ← List.filterMap_eq_nil_iff]
  -- A well-formed document gives a meal or a trap, but never nothing.
  cases documents.filterMap fun result => mealFields D result.data with
  | nil => exact iff_of_true rfl rfl
  | cons fields rest =>
    refine iff_of_false ?_ (List.cons_ne_nil _ _)
    rw [List.mapM_cons]
    intro h
    obtain ⟨meal, -, h⟩ := Option.bind_eq_some_iff.mp h
    obtain ⟨meals, -, h⟩ := Option.bind_eq_some_iff.mp h
    exact absurd (Option.some.inj h) (List.cons_ne_nil _ _)

/-- A malformed document is skipped. -/
theorem addMeal_none (mealList : List (MealsModel Image)) {result : Document}
    (h : mealFields D result.data = none) :
    DetailsViewModel.addMeal A D mealList result = some mealList := by
  rw [DetailsViewModel.addMeal, h]

theorem addMeal_some (mealList : List (MealsModel Image)) {result : Document}
    {fields : MealFields} (h : mealFields D result.data = some fields) :
    DetailsViewModel.addMeal A D mealList result
      = (eachMeal A fields).map fun meal => mealList ++ [meal] := by
  rw [DetailsViewModel.addMeal, h, Option.map_eq_bind]
  rfl

/-- The loop appends the meals of the well-formed documents. -/
theorem foldlM_addMeal (documents : QuerySnapshot) (mealList : List (MealsModel Image)) :
    documents.foldlM (DetailsViewModel.addMeal A D) mealList
      = (mealsOf A D documents).map (mealList ++ ·) := by
  induction documents generalizing mealList with
  | nil => simp [mealsOf]
  | cons result documents ih =>
    rw [List.foldlM_cons]
    cases hfields : mealFields D result.data with
    | none =>
      rw [addMeal_none A D mealList hfields, mealsOf_cons_none A D documents hfields]
      exact ih mealList
    | some fields =>
      rw [addMeal_some A D mealList hfields, mealsOf_cons_some A D documents hfields]
      -- A picture that is missing stops the loop on both sides.
      cases eachMeal A fields with
      | none => rfl
      | some meal => simp [ih, Function.comp_def]

/-- **Delivery.**  A snapshot's meals are appended to the list. -/
theorem mealsFetched_snapshot (vm : DetailsViewModel F Image) (documents : QuerySnapshot) :
    vm.mealsFetched A D (.success (some documents))
      = (mealsOf A D documents).map fun meals => { vm with mealList := vm.mealList ++ meals } := by
  rw [DetailsViewModel.mealsFetched, Option.getD_some, foldlM_addMeal]
  cases mealsOf A D documents <;> rfl

/-! ### Runs -/

/-- The view model, and the latest snapshot that its listener was called back with. -/
structure MenuState (F Image : Type) where
  detailViewModel : DetailsViewModel F Image := {}
  latest : Option QuerySnapshot := none

/-- One callback of the listener. -/
def MenuState.step (p : MenuState F Image) (delivery : Delivery) : Option (MenuState F Image) := do
  let detailViewModel ← p.detailViewModel.mealsFetched A D (Router.complete delivery)
  return { detailViewModel, latest := delivery.snapshot?.or p.latest }

/-- Once a snapshot has been delivered, the list is its decoding. -/
def ShowsMenu (p : MenuState F Image) : Prop :=
  ∀ documents ∈ p.latest, mealsOf A D documents = some p.detailViewModel.mealList

/-- A snapshot finds the list empty. -/
def FindsEmpty (p : MenuState F Image) : Delivery → Prop
  | .snapshot _ => p.detailViewModel.mealList = []
  | .error _ => True

/-- **One delivery.**  It leaves the list showing the latest snapshot exactly when it found the
    list empty. -/
theorem MenuState.step_shows {p q : MenuState F Image} {delivery : Delivery}
    (hlaw : ShowsMenu A D p) (hq : p.step A D delivery = some q) :
    ShowsMenu A D q ↔ FindsEmpty p delivery := by
  obtain ⟨vm, hvm, hq⟩ := Option.bind_eq_some_iff.mp hq
  obtain rfl : _ = q := Option.some.inj hq
  cases delivery with
  | snapshot documents =>
    rw [Router.complete_snapshot, mealsFetched_snapshot] at hvm
    obtain ⟨meals, hmeals, rfl⟩ := Option.map_eq_some_iff.mp hvm
    show (∀ latest ∈ some documents,
      mealsOf A D latest = some (p.detailViewModel.mealList ++ meals)) ↔ _
    simp only [Option.mem_some_iff, forall_eq', hmeals, Option.some.injEq, FindsEmpty]
    -- The meals come behind those that are there, so there must have been none.
    exact List.self_eq_append_left
  | error e =>
    rw [Router.complete_error] at hvm
    obtain rfl : p.detailViewModel = vm := Option.some.inj hvm
    exact iff_of_true hlaw trivial

/-- **Menu.**  After every delivery the list is the decoding of the latest snapshot exactly when
    every snapshot finds the list empty. -/
theorem shows_menu_iff (detailViewModel : DetailsViewModel F Image) (deliveries : List Delivery) :
    Always (MenuState.step A D) (ShowsMenu A D) { detailViewModel } deliveries ↔
      Guarded (MenuState.step A D) FindsEmpty { detailViewModel } deliveries :=
  always_iff_guarded_of_step (fun _ _ _ hlaw hq => MenuState.step_shows A D hlaw hq) nofun

/-- No document of the delivery is well formed. -/
def Delivery.NoMeal (delivery : Delivery) : Prop :=
  ∀ documents ∈ delivery.snapshot?, ∀ result ∈ documents, mealFields D result.data = none

/-- **The condition by the deliveries.**  A snapshot finds the list empty exactly when it was empty
    at first and no snapshot before had a well-formed document. -/
theorem findsEmpty_iff_delivered {detailViewModel : DetailsViewModel F Image}
    {deliveries : List Delivery} {p : MenuState F Image}
    (hp : run (MenuState.step A D) { detailViewModel } deliveries = some p)
    (documents : QuerySnapshot) :
    FindsEmpty p (.snapshot documents) ↔
      detailViewModel.mealList = [] ∧ ∀ delivery ∈ deliveries, delivery.NoMeal D := by
  refine run_history (P := fun deliveries p => p.detailViewModel.mealList = [] ↔
    detailViewModel.mealList = [] ∧ ∀ delivery ∈ deliveries, delivery.NoMeal D) ?_ ?_ hp
  · intro deliveries p delivery q h hq
    obtain ⟨vm, hvm, hq⟩ := Option.bind_eq_some_iff.mp hq
    obtain rfl : _ = q := Option.some.inj hq
    rw [List.forall_mem_append, List.forall_mem_singleton, ← and_assoc, ← h]
    -- The list is empty after a snapshot when it was empty before and the snapshot brings no meal.
    cases delivery with
    | snapshot documents =>
      rw [Router.complete_snapshot, mealsFetched_snapshot] at hvm
      obtain ⟨meals, hmeals, rfl⟩ := Option.map_eq_some_iff.mp hvm
      have hnone : meals = [] ↔ Delivery.NoMeal D (.snapshot documents) := by
        rw [← Option.some.injEq, ← hmeals, mealsOf_eq_nil_iff]
        simp [Delivery.NoMeal, Delivery.snapshot?]
      rw [← hnone]
      exact List.append_eq_nil_iff
    | error e =>
      rw [Router.complete_error] at hvm
      obtain rfl : p.detailViewModel = vm := Option.some.inj hvm
      exact (and_iff_left nofun).symm
  · simp

/-- A meal document. -/
def mealDocument (documentID name price : String) : Document where
  documentID := documentID
  data := [("name", .string name), ("imageName", .string "meal"), ("recipe", .string name),
    ("price", .string price)]

/-- The same menu is delivered twice: its meal is listed twice. -/
theorem redelivered_menu_doubled : ¬ ∀ deliveries : List Delivery,
    Always (MenuState.step allAssets ℚ) (ShowsMenu allAssets ℚ)
      ({} : MenuState ℚ String) deliveries := by
  intro h
  have hvalues : (run (MenuState.step allAssets ℚ) ({} : MenuState ℚ String)
      [.snapshot [mealDocument "m" "Pizza" "1250"],
        .snapshot [mealDocument "m" "Pizza" "1250"]]).map (fun p =>
          (p.latest, p.detailViewModel.mealList.map (·.mealPrice)))
      = some (some [mealDocument "m" "Pizza" "1250"], ["12.5", "12.5"]) := by
    decide +kernel
  obtain ⟨p, hp, hp'⟩ := Option.map_eq_some_iff.mp hvalues
  obtain ⟨hlatest, hprices⟩ := Prod.mk.inj hp'
  have hlaw := (h _).last hp _ hlatest
  have hdecoded := congrArg (Option.map (List.map (·.mealPrice))) hlaw
  rw [Option.map_some, hprices] at hdecoded
  exact absurd hdecoded (by decide +kernel)

end Foodly
