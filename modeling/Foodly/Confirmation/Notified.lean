import Foodly.Confirmation.Person

namespace Foodly

open Runs

/-!
# What the confirmation screen is told

The view model fetches from its first moment on, and tells the screen of a snapshot through the
closure that `viewDidAppear` sets.  A snapshot that comes before that is not told at all, and
nothing asks for it when the closure is set.

* `NotifiedState` — the screen, and whether its listener has been called back with a snapshot;
* `ShowsPerson` — the screen shows and dials what the view model holds;
* `UpToDate` — the law: so it is once a snapshot has been delivered, `viewDidAppear` has run and the
  queue has drained;
* `AppearsInTime` — the condition on an event: the closure is set before a snapshot is delivered, or
  the snapshots have left the very values that the storyboard shows (`OfStoryboard`);
* `Told` — what the steps keep: nothing is changed before the closure is set, and while blocks are
  on the queue the number to dial is already the view model's;
* `up_to_date_iff` — in which runs the screen is up to date throughout;
* `early_snapshot_lost` — a snapshot that is delivered before the screen appears.
-/

variable {Image : Type} (A : Assets Image)

/-- The screen, and whether its listener has been called back with a snapshot. -/
structure NotifiedState (Image : Type) where
  screen : ConfirmationViewController Image
  delivered : Bool := false

def ConfirmationEvent.isSnapshot : ConfirmationEvent → Bool
  | .delivered (.snapshot _) => true
  | .delivered (.error _) | .viewDidAppear | .mainQueue | .callButton => false

def NotifiedState.step (p : NotifiedState Image) (event : ConfirmationEvent) :
    Option (NotifiedState Image) := do
  let screen ← p.screen.step A event
  return { screen, delivered := p.delivered || event.isSnapshot }

/-! ### The law and its condition -/

/-- The screen shows and dials what the view model holds. -/
structure ShowsPerson (s : ConfirmationViewController Image) : Prop where
  nameLabel : s.nameLabel = s.viewModel.name
  timeLabel : s.timeLabel = s.viewModel.time
  deliveryPersonImage : s.deliveryPersonImage = A.named s.viewModel.imageName
  phoneNumber : s.phoneNumber = s.viewModel.phone

/-- Once a snapshot has been delivered, `viewDidAppear` has run and the queue has drained, the
    screen shows the view model. -/
def UpToDate (p : NotifiedState Image) : Prop :=
  p.delivered = true → p.screen.confirmationDetailsCompletion = true → p.screen.mainQueue = 0 →
    ShowsPerson A p.screen

/-- The values are those that the storyboard shows, with no number to dial. -/
def OfStoryboard (vm : DeliveryViewModel) : Prop :=
  vm.name = "Boluwatife Adeshina" ∧ vm.time = "20 Min" ∧
    A.named vm.imageName = A.named "Rectangle 10" ∧ vm.phone = ""

/-- The closure is set before a snapshot is delivered, or the snapshots have left the values of the
    storyboard. -/
def AppearsInTime (p : NotifiedState Image) : ConfirmationEvent → Prop
  | .viewDidAppear => p.delivered = true → p.screen.confirmationDetailsCompletion = false →
      OfStoryboard A p.screen.viewModel
  | .delivered _ | .mainQueue | .callButton => True

/-! ### One event -/

/-- Before the closure is set the screen is as the storyboard has it; while blocks are on the queue
    the number to dial is already the view model's. -/
structure Told (s : ConfirmationViewController Image) : Prop where
  early : s.confirmationDetailsCompletion = false → s.mainQueue = 0 ∧
    s.nameLabel = "Boluwatife Adeshina" ∧ s.timeLabel = "20 Min" ∧
      s.deliveryPersonImage = A.named "Rectangle 10" ∧ s.phoneNumber = ""
  queued : s.mainQueue ≠ 0 → s.phoneNumber = s.viewModel.phone

variable {A}

theorem Told.step {s t : ConfirmationViewController Image} {event : ConfirmationEvent}
    (h : Told A s) (ht : s.step A event = some t) : Told A t := by
  obtain ⟨-, rfl⟩ | ⟨documents, -, hclosure, rfl⟩ | ⟨documents, -, hclosure, rfl⟩ |
    ⟨n, -, hn, rfl⟩ | ⟨-, rfl⟩ := ConfirmationViewController.step_cases ht
  · exact ⟨nofun, h.queued⟩
  · -- Without the closure a snapshot queues nothing.
    exact ⟨h.early, fun hqueue => absurd (h.early hclosure).1 hqueue⟩
  · -- With it the number to dial is set at once, and only the labels wait for the block.
    exact ⟨fun hnone => Bool.noConfusion (hclosure.symm.trans hnone), fun _ => rfl⟩
  · -- A block runs only after the closure has been set.
    refine ⟨fun hnone => ?_, fun _ => h.queued (by omega)⟩
    have hempty := (h.early hnone).1
    omega
  · exact h

/-- Before the closure is set the screen shows the view model exactly when that holds the values of
    the storyboard. -/
theorem Told.showsPerson_iff {s : ConfirmationViewController Image} (h : Told A s)
    (hclosure : s.confirmationDetailsCompletion = false) :
    ShowsPerson A s ↔ OfStoryboard A s.viewModel := by
  obtain ⟨-, hname, htime, himage, hphone⟩ := h.early hclosure
  constructor
  · intro hshows
    exact ⟨hshows.nameLabel.symm.trans hname, hshows.timeLabel.symm.trans htime,
      hshows.deliveryPersonImage.symm.trans himage, hshows.phoneNumber.symm.trans hphone⟩
  · rintro ⟨hname', htime', himage', hphone'⟩
    exact ⟨hname.trans hname'.symm, htime.trans htime'.symm, himage.trans himage'.symm,
      hphone.trans hphone'.symm⟩

theorem showsPerson_appeared {s : ConfirmationViewController Image} :
    ShowsPerson A { s with confirmationDetailsCompletion := true } ↔ ShowsPerson A s :=
  ⟨fun ⟨hname, htime, himage, hphone⟩ => ⟨hname, htime, himage, hphone⟩,
    fun ⟨hname, htime, himage, hphone⟩ => ⟨hname, htime, himage, hphone⟩⟩

/-- **Appearing.**  The screen is up to date when it appears exactly when that is in time. -/
theorem upToDate_appeared_iff {p : NotifiedState Image} (h : Told A p.screen)
    (hlaw : UpToDate A p) :
    UpToDate A { p with screen := { p.screen with confirmationDetailsCompletion := true } } ↔
      AppearsInTime A p .viewDidAppear := by
  unfold UpToDate AppearsInTime
  rw [showsPerson_appeared]
  -- Appearing again changes nothing, so all is decided the first time.
  cases hclosure : p.screen.confirmationDetailsCompletion with
  | true =>
    refine iff_of_true (fun hdelivered _ hqueue => hlaw hdelivered hclosure hqueue) ?_
    exact fun _ hnone => Bool.noConfusion hnone
  | false =>
    rw [← h.showsPerson_iff hclosure]
    constructor
    · exact fun hshows hdelivered _ => hshows hdelivered rfl (h.early hclosure).1
    · exact fun hshows hdelivered _ _ => hshows hdelivered rfl

/-- **One event.**  It leaves the screen up to date exactly when the screen does not appear too
    late. -/
theorem NotifiedState.step_upToDate_iff {p q : NotifiedState Image} {event : ConfirmationEvent}
    (h : Told A p.screen) (hlaw : UpToDate A p) (hq : p.step A event = some q) :
    UpToDate A q ↔ AppearsInTime A p event := by
  obtain ⟨screen, hscreen, hq⟩ := Option.bind_eq_some_iff.mp hq
  obtain rfl : _ = q := Option.some.inj hq
  obtain ⟨rfl, rfl⟩ | ⟨documents, rfl, hclosure, rfl⟩ | ⟨documents, rfl, -, rfl⟩ |
    ⟨n, rfl, hn, rfl⟩ | ⟨hevent, rfl⟩ := ConfirmationViewController.step_cases hscreen
  · rw [ConfirmationEvent.isSnapshot, Bool.or_false]
    exact upToDate_appeared_iff h hlaw
  · -- The closure is not set.
    exact iff_of_true (fun _ hset => Bool.noConfusion (hclosure.symm.trans hset)) trivial
  · -- A block is on the queue.
    exact iff_of_true (fun _ _ hqueue => nomatch hqueue) trivial
  · -- The block copies the view model to the labels; the number to dial was copied before.
    exact iff_of_true (fun _ _ _ => ⟨rfl, rfl, rfl, h.queued (by omega)⟩) trivial
  · rcases hevent with rfl | ⟨e, rfl⟩
    all_goals
      rw [ConfirmationEvent.isSnapshot, Bool.or_false]
      exact iff_of_true hlaw trivial

/-! ### Runs -/

variable (A)

/-- The screen as it is pushed. -/
def NotifiedState.start : NotifiedState Image := { screen := .instantiate A }

/-- **Notification.**  Once a snapshot has been delivered, `viewDidAppear` has run and the queue has
    drained, the screen shows and dials what the view model holds, throughout a run, exactly when
    the first `viewDidAppear` comes before any snapshot, or after snapshots that left the values of
    the storyboard. -/
theorem up_to_date_iff (events : List ConfirmationEvent) :
    Always (NotifiedState.step A) (UpToDate A) (.start A) events ↔
      Guarded (NotifiedState.step A) (AppearsInTime A) (.start A) events := by
  have htold : Told A (NotifiedState.start A).screen :=
    ⟨fun _ => ⟨rfl, rfl, rfl, rfl, rfl⟩, fun hqueue => absurd rfl hqueue⟩
  apply always_iff_guarded_of_invariant (I := fun p => Told A p.screen) ?_ ?_ htold nofun
  · intro p event q h hq
    obtain ⟨screen, hscreen, hq⟩ := Option.bind_eq_some_iff.mp hq
    obtain rfl : _ = q := Option.some.inj hq
    exact h.step hscreen
  · intro p event q h hlaw hq
    exact NotifiedState.step_upToDate_iff h hlaw hq

/-- A snapshot that is delivered before the screen appears is not shown. -/
theorem early_snapshot_lost : ¬ ∀ events : List ConfirmationEvent,
    Always (NotifiedState.step allAssets) (UpToDate allAssets) (.start allAssets) events := by
  intro h
  have hvalues : (run (NotifiedState.step allAssets) (.start allAssets)
      [.delivered (.snapshot [deliveryDocument "1" "Ada" (.string "0803")]), .viewDidAppear]).map
        (fun p => (p.delivered, p.screen.confirmationDetailsCompletion, p.screen.mainQueue,
          p.screen.nameLabel, p.screen.viewModel.name))
      = some (true, true, 0, "Boluwatife Adeshina", "Ada") := by
    decide +kernel
  obtain ⟨p, hp, hp'⟩ := Option.map_eq_some_iff.mp hvalues
  simp only [Prod.mk.injEq] at hp'
  obtain ⟨hdelivered, hclosure, hqueue, hshown, hname⟩ := hp'
  have hlaw := ((h _).last hp hdelivered hclosure hqueue).nameLabel
  rw [hshown, hname] at hlaw
  exact absurd hlaw (by decide)

end Foodly
