import Foodly.Details.Menu
import Foodly.Lib.Parallel

namespace Foodly

open Runs Swift

/-!
# Reloading the menu

The listener that `viewDidLoad` registers changes `mealList` whenever a snapshot is delivered, but
the table is only told to read it by the block that `viewDidAppear` queues; the view model's
`completed` is never set on this screen.

A table shows the rows that it read when it was last reloaded, so meals that are delivered later
are there and not shown.

* `ReloadState` — the screen, which of its callbacks have run, the blocks on the main queue, and
  what the table has read;
* `reloadData_eq` — a reload never traps, and reads the current meals;
* `TableFresh` — the law: once the screen has loaded and appeared and the queue has drained, the
  table was reloaded after the last change and shows the current meals;
* `BeforeReload` — the condition on a delivery: it has no meals, or the table has still to be
  reloaded;
* `ReloadState.delivered_fresh_iff`, `ReloadState.step_fresh_iff` — one delivery, and one event;
* `table_fresh_iff` — in which runs the table is fresh;
* `late_meal_not_shown` — a meal that is delivered after the last block.
-/

variable {F Image : Type} (A : Assets Image) (D : Type) [SwiftDouble D]

/-! ### The table -/

namespace DetailsViewController

/-- `tableView(_:numberOfRowsInSection:)`. -/
def numberOfRowsInSection (s : DetailsViewController F Image) : ℕ :=
  s.detailViewModel.mealList.length

/-- `reloadData()`: the meals that `tableView(_:cellForRowAt:)` reads for the rows. -/
def reloadData (s : DetailsViewController F Image) : Option (List (MealsModel Image)) :=
  (List.range s.numberOfRowsInSection).mapM fun row => s.detailViewModel.mealList[row]?

/-- A reload never traps, and reads the current meals. -/
theorem reloadData_eq (s : DetailsViewController F Image) :
    s.reloadData = some s.detailViewModel.mealList := Parallel.mapM_getElem? _

end DetailsViewController

/-! ### Events -/

/-- The screen, which of its callbacks have run, how many blocks are on the main queue, the rows
    of the table, and whether they were read after the last change of `mealList`. -/
structure ReloadState (F Image : Type) where
  screen : DetailsViewController F Image
  loaded : Bool := false
  appeared : Bool := false
  mainQueue : ℕ := 0
  rows : List (MealsModel Image) := []
  reloaded : Bool := false

/-- What happens on the screen. -/
inductive ReloadEvent
  | viewDidLoad
  | viewDidAppear
  | mainQueue
  | delivered (delivery : Delivery)
  deriving DecidableEq, Repr

/-- The callbacks of the screen, the blocks, and the callback of the listener once it is
    registered. -/
def ReloadState.step (p : ReloadState F Image) : ReloadEvent → Option (ReloadState F Image)
  | .viewDidLoad => some { p with loaded := true }
  | .viewDidAppear => some { p with appeared := true, mainQueue := p.mainQueue + 1 }
  | .mainQueue =>
    match p.mainQueue with
    | 0 => none
    | mainQueue + 1 => do
      let rows ← p.screen.reloadData
      return { p with mainQueue, rows, reloaded := true }
  | .delivered delivery =>
    if p.loaded then do
      let detailViewModel ← p.screen.detailViewModel.mealsFetched A D (Router.complete delivery)
      -- Meals are only ever appended, so the list changes with its length.
      let unchanged := detailViewModel.mealList.length == p.screen.detailViewModel.mealList.length
      return { p with
        screen := { p.screen with detailViewModel }
        reloaded := p.reloaded && unchanged }
    else none

/-! ### The law and its condition -/

/-- The table was reloaded after the last change, so it shows the current meals. -/
structure ShowsMeals (p : ReloadState F Image) : Prop where
  reloaded : p.reloaded = true
  rows : p.rows = p.screen.detailViewModel.mealList

/-- Once the screen has loaded and appeared and the queue has drained, the table shows the current
    meals. -/
def TableFresh (p : ReloadState F Image) : Prop :=
  p.loaded = true → p.appeared = true → p.mainQueue = 0 → ShowsMeals p

/-- No document of a delivery is a meal, unless the table has still to be reloaded. -/
def BeforeReload (p : ReloadState F Image) : ReloadEvent → Prop
  | .delivered (.snapshot documents) => p.appeared = true → p.mainQueue = 0 →
      ∀ result ∈ documents, mealFields D result.data = none
  | .delivered (.error _) | .viewDidLoad | .viewDidAppear | .mainQueue => True

/-! ### One event -/

/-- Before the listener is registered nothing changes the meals, so the table shows them whenever it
    has been reloaded. -/
def FreshUnloaded (p : ReloadState F Image) : Prop :=
  p.loaded = false → p.appeared = true → p.mainQueue = 0 → ShowsMeals p

variable {A D}

/-- The meals of a snapshot are appended, and the table is not told. -/
theorem ReloadState.delivered_snapshot {p q : ReloadState F Image} {documents : QuerySnapshot}
    (hq : p.step A D (.delivered (.snapshot documents)) = some q) :
    p.loaded = true ∧ q.loaded = true ∧ q.appeared = p.appeared ∧ q.mainQueue = p.mainQueue ∧
      q.rows = p.rows ∧ ∃ meals, mealsOf A D documents = some meals ∧
        q.screen.detailViewModel.mealList = p.screen.detailViewModel.mealList ++ meals ∧
        q.reloaded = (p.reloaded && meals.isEmpty) := by
  rw [step, Option.ite_none_right_eq_some] at hq
  obtain ⟨hloaded, hq⟩ := hq
  obtain ⟨vm, hvm, hq⟩ := Option.bind_eq_some_iff.mp hq
  rw [Router.complete_snapshot, mealsFetched_snapshot] at hvm
  obtain ⟨meals, hmeals, rfl⟩ := Option.map_eq_some_iff.mp hvm
  obtain rfl : _ = q := Option.some.inj hq
  refine ⟨hloaded, hloaded, rfl, rfl, rfl, meals, hmeals, rfl, ?_⟩
  show (p.reloaded && (p.screen.detailViewModel.mealList ++ meals).length
    == p.screen.detailViewModel.mealList.length) = _
  -- The meals have changed when there are more of them, so unless none has come.
  cases meals <;> simp

/-- An error changes nothing. -/
theorem ReloadState.delivered_error {p q : ReloadState F Image} {e : FirestoreError}
    (hq : p.step A D (.delivered (.error e)) = some q) : q = p := by
  rw [step, Option.ite_none_right_eq_some] at hq
  obtain ⟨-, hq⟩ := hq
  obtain ⟨vm, hvm, hq⟩ := Option.bind_eq_some_iff.mp hq
  obtain rfl : _ = vm := Option.some.inj hvm
  obtain rfl : _ = q := Option.some.inj hq
  simp

/-- A block reads the current meals. -/
theorem ReloadState.showsMeals_mainQueue {p q : ReloadState F Image}
    (hq : p.step A D .mainQueue = some q) : ShowsMeals q ∧ q.loaded = p.loaded := by
  rw [step] at hq
  split at hq
  · cases hq
  · rw [DetailsViewController.reloadData_eq] at hq
    obtain rfl : _ = q := Option.some.inj hq
    exact ⟨⟨rfl, rfl⟩, rfl⟩

theorem FreshUnloaded.step {p q : ReloadState F Image} {event : ReloadEvent}
    (h : FreshUnloaded p) (hq : p.step A D event = some q) : FreshUnloaded q := by
  cases event with
  | viewDidLoad =>
    obtain rfl : _ = q := Option.some.inj hq
    exact nofun
  | viewDidAppear =>
    obtain rfl : _ = q := Option.some.inj hq
    exact fun _ _ hqueue => nomatch hqueue
  | mainQueue => exact fun _ _ _ => (ReloadState.showsMeals_mainQueue hq).1
  | delivered delivery =>
    cases delivery with
    | error e => exact ReloadState.delivered_error hq ▸ h
    | snapshot documents =>
      obtain ⟨-, hloaded, -⟩ := ReloadState.delivered_snapshot hq
      exact fun hnone => Bool.noConfusion (hloaded.symm.trans hnone)

/-- **Delivery.**  It leaves a table that was fresh as it should be exactly when it brings no meals,
    or the table has still to be reloaded. -/
theorem ReloadState.delivered_fresh_iff {p q : ReloadState F Image} {documents : QuerySnapshot}
    (hlaw : TableFresh p) (hq : p.step A D (.delivered (.snapshot documents)) = some q) :
    TableFresh q ↔ (p.appeared = true → p.mainQueue = 0 →
      ∀ result ∈ documents, mealFields D result.data = none) := by
  obtain ⟨hloaded, hloaded', happeared, hqueue, hrows, meals, hmeals, hlist, hreloaded⟩ :=
    delivered_snapshot hq
  have hnone : meals = [] ↔ ∀ result ∈ documents, mealFields D result.data = none := by
    rw [← mealsOf_eq_nil_iff A, hmeals, Option.some.injEq]
  unfold TableFresh
  rw [happeared, hqueue, ← hnone, forall_prop_of_true hloaded']
  -- Only where the screen has appeared and the queue has drained is anything asked of the table.
  refine forall₂_congr fun happears hdrained => ?_
  have hshows := hlaw hloaded happears hdrained
  constructor
  · intro hshows'
    have hempty := hreloaded.symm.trans hshows'.reloaded
    rwa [hshows.reloaded, Bool.true_and, List.isEmpty_iff] at hempty
  · rintro rfl
    constructor
    · rw [hreloaded, hshows.reloaded]
      rfl
    · rw [hrows, hlist, hshows.rows, List.append_nil]

/-- **One event.**  It leaves the table fresh exactly when it does not bring meals after the last
    reload. -/
theorem ReloadState.step_fresh_iff {p q : ReloadState F Image} {event : ReloadEvent}
    (h : FreshUnloaded p) (hlaw : TableFresh p) (hq : p.step A D event = some q) :
    TableFresh q ↔ BeforeReload D p event := by
  cases event with
  | viewDidLoad =>
    obtain rfl : _ = q := Option.some.inj hq
    refine iff_of_true (fun _ happeared hqueue => ?_) trivial
    have hshows : ShowsMeals p := by
      -- On a screen that was not loaded nothing has changed the meals; otherwise the law applies.
      cases hloaded : p.loaded with
      | true => exact hlaw hloaded happeared hqueue
      | false => exact h hloaded happeared hqueue
    exact ⟨hshows.reloaded, hshows.rows⟩
  | viewDidAppear =>
    obtain rfl : _ = q := Option.some.inj hq
    exact iff_of_true (fun _ _ hqueue => nomatch hqueue) trivial
  | mainQueue => exact iff_of_true (fun _ _ _ => (showsMeals_mainQueue hq).1) trivial
  | delivered delivery =>
    cases delivery with
    | error e =>
      obtain rfl := delivered_error hq
      exact iff_of_true hlaw trivial
    | snapshot documents => exact delivered_fresh_iff hlaw hq

/-! ### Runs -/

variable (A D)

/-- **Fresh table.**  Once the screen has loaded and appeared and the queue has drained, the table
    has been reloaded after the last change and shows the current meals, throughout a run, exactly
    when no snapshot with a meal is delivered after the screen has appeared while no block is on
    the queue. -/
theorem table_fresh_iff (detailViewModel : DetailsViewModel F Image) (events : List ReloadEvent) :
    Always (ReloadState.step A D) TableFresh { screen := { detailViewModel } } events ↔
      Guarded (ReloadState.step A D) (BeforeReload D) { screen := { detailViewModel } } events := by
  have hunloaded : FreshUnloaded ({ screen := { detailViewModel } } : ReloadState F Image) :=
    fun _ happeared => Bool.noConfusion happeared
  apply always_iff_guarded_of_invariant ?_ ?_ hunloaded nofun
  · intro p event q h hq
    exact h.step hq
  · intro p event q h hlaw hq
    exact ReloadState.step_fresh_iff h hlaw hq

/-- A meal that is delivered after the table has been reloaded is not shown. -/
theorem late_meal_not_shown : ¬ ∀ events : List ReloadEvent,
    Always (ReloadState.step allAssets ℚ) TableFresh
      ({ screen := {} } : ReloadState ℚ String) events := by
  intro h
  have hvalues : (run (ReloadState.step allAssets ℚ) ({ screen := {} } : ReloadState ℚ String)
      [.viewDidLoad, .viewDidAppear, .mainQueue,
        .delivered (.snapshot [mealDocument "m" "Pizza" "1250"])]).map (fun p =>
          (p.loaded, p.appeared, p.mainQueue, p.rows.length,
            p.screen.detailViewModel.mealList.length))
      = some (true, true, 0, 0, 1) := by
    decide +kernel
  obtain ⟨p, hp, hp'⟩ := Option.map_eq_some_iff.mp hvalues
  simp only [Prod.mk.injEq] at hp'
  obtain ⟨hloaded, happeared, hqueue, hshown, hmeals⟩ := hp'
  have hrows := ((h _).last hp hloaded happeared hqueue).rows
  rw [hrows, hmeals] at hshown
  exact absurd hshown (by decide)

end Foodly
