import Foodly.Profile.Saves

namespace Foodly

open Runs

/-!
# Editing the profile

One button starts editing and ends it.  `saveButton` stops the app with `fatalError` unless
`editButton` has run before; and it compares the texts with those that `editButton` took down.
Between the two taps anything may happen: the user types, the profile is fetched, and the block is
run that copies it to the screen.

* `Editing` — what holds of the screen throughout: the fields are enabled while the button says
  Done, and then the texts have been taken down;
* `ProfileState.SameSession` — what an event between two taps leaves alone, and
  `ProfileState.sameSession_run` for all events between them;
* `ProfileState.step_begin`, `ProfileState.step_end` — the two kinds of tap;
* `profile_edit_session` — no order of events ever gets to the `fatalError`, and a session ends
  with a write exactly when the texts have changed since it began, whoever has changed them;
* `profile_edit_session_late` — a profile that is fetched during a session, which the session then
  writes back.
-/

/-- The fields are enabled while the button says Done, and then the texts have been taken down. -/
structure Editing (c : ProfileViewController) : Prop where
  isEnabled : c.isEnabled = decide (c.button = .done)
  started : c.button = .done → c.phoneNumberChanged.isSome = true ∧ c.addressChanged.isSome = true

/-- The event is a tap on the button. -/
def ProfileEvent.IsTap (event : ProfileEvent) : Prop := ∃ error, event = .didTapEdit error

namespace ProfileState

variable {s t : ProfileState}

/-! ### The events between two taps -/

/-- What is not a tap changes neither the button nor what was taken down. -/
structure SameSession (c c' : ProfileViewController) : Prop where
  button : c'.button = c.button
  isEnabled : c'.isEnabled = c.isEnabled
  addressChanged : c'.addressChanged = c.addressChanged
  phoneNumberChanged : c'.phoneNumberChanged = c.phoneNumberChanged

theorem SameSession.refl (c : ProfileViewController) : SameSession c c := ⟨rfl, rfl, rfl, rfl⟩

theorem SameSession.trans {c c' c'' : ProfileViewController} (h : SameSession c c')
    (h' : SameSession c' c'') : SameSession c c'' where
  button := h'.button.trans h.button
  isEnabled := h'.isEnabled.trans h.isEnabled
  addressChanged := h'.addressChanged.trans h.addressChanged
  phoneNumberChanged := h'.phoneNumberChanged.trans h.phoneNumberChanged

theorem SameSession.editing {c c' : ProfileViewController} (h : SameSession c c')
    (hc : Editing c) : Editing c' where
  isEnabled := by rw [h.isEnabled, h.button, hc.isEnabled]
  started := by
    rw [h.button, h.phoneNumberChanged, h.addressChanged]
    exact hc.started

variable [BEq String]

theorem sameSession_step {event : ProfileEvent} (htap : ¬event.IsTap)
    (h : s.step event = some t) : SameSession s.screen t.screen := by
  cases event with
  | documentRead =>
    obtain ⟨-, rfl⟩ := step_documentRead h
    exact .refl _
  | fetchReturns =>
    obtain ⟨document, -, rfl⟩ := step_fetchReturns h
    cases document <;> exact ⟨rfl, rfl, rfl, rfl⟩
  | fetchFails =>
    obtain ⟨-, rfl⟩ := step_fetchFails h
    exact ⟨rfl, rfl, rfl, rfl⟩
  | refresh =>
    obtain ⟨screen, hscreen, rfl⟩ := Option.map_eq_some_iff.mp h
    rw [ProfileViewController.refresh, Option.ite_none_left_eq_some] at hscreen
    obtain ⟨-, hscreen⟩ := hscreen
    obtain rfl := Option.some.inj hscreen
    exact ⟨rfl, rfl, rfl, rfl⟩
  | didTapEdit error => exact absurd ⟨error, rfl⟩ htap
  | editAddress text =>
    obtain ⟨screen, hscreen, rfl⟩ := Option.map_eq_some_iff.mp h
    rw [ProfileViewController.editAddress, Option.ite_none_right_eq_some] at hscreen
    obtain ⟨-, hscreen⟩ := hscreen
    obtain rfl := Option.some.inj hscreen
    exact ⟨rfl, rfl, rfl, rfl⟩
  | editPhoneNo text =>
    obtain ⟨screen, hscreen, rfl⟩ := Option.map_eq_some_iff.mp h
    rw [ProfileViewController.editPhoneNo, Option.ite_none_right_eq_some] at hscreen
    obtain ⟨-, hscreen⟩ := hscreen
    obtain rfl := Option.some.inj hscreen
    exact ⟨rfl, rfl, rfl, rfl⟩

/-- The same for the events of a session. -/
theorem sameSession_run {events : List ProfileEvent} (htaps : ∀ event ∈ events, ¬event.IsTap)
    (h : run step s events = some t) : SameSession s.screen t.screen := by
  induction events generalizing s with
  | nil =>
    obtain rfl : s = t := Option.some.inj h
    exact .refl _
  | cons event events ih =>
    rw [List.forall_mem_cons] at htaps
    obtain ⟨u, hu, hrun⟩ := Option.bind_eq_some_iff.mp h
    exact (sameSession_step htaps.1 hu).trans (ih htaps.2 hrun)

/-! ### Taps -/

/-- A tap that begins a session takes the texts down. -/
theorem step_begin (hbutton : s.screen.button = .edit) (error : Option FirestoreError) :
    s.step (.didTapEdit error) = some { s with screen := s.screen.editButton, save := none } := by
  rw [step, ProfileViewController.didTapEdit, hbutton]
  rfl

omit [BEq String] in
theorem editing_editButton (c : ProfileViewController) : Editing c.editButton where
  isEnabled := rfl
  started _ := ⟨rfl, rfl⟩

/-- A tap that ends a session does not trap, disables the fields, and writes when a text differs
    from what was taken down. -/
theorem step_end (h : Editing s.screen) (hbutton : s.screen.button = .done)
    (error : Option FirestoreError) :
    ∃ t, s.step (.didTapEdit error) = some t ∧ t.screen.button = .edit ∧
      t.screen.isEnabled = false ∧ (t.save.isSome = true ↔ s.screen.textChanged = true) := by
  obtain ⟨hphone, haddress⟩ := h.started hbutton
  have hsave : s.screen.didTapEdit = if s.screen.textChanged then
      some ({ s.screen with button := .edit, isEnabled := false },
        some (ProfileViewModel.updateProfile s.screen.profileVM.email s.screen.profileVM.fullName
          s.screen.address s.screen.phoneNo))
      else some ({ s.screen with button := .edit, isEnabled := false }, none) := by
    simp only [ProfileViewController.didTapEdit, hbutton, ProfileViewController.saveButton, hphone,
      haddress, Bool.and_self, if_true]
  rw [step, hsave]
  by_cases hchanged : s.screen.textChanged = true
  · rw [if_pos hchanged]
    -- The write is issued either way; whether it is stored is no matter of the screen.
    cases error with
    | none => exact ⟨_, rfl, rfl, rfl, iff_of_true rfl hchanged⟩
    | some error => exact ⟨_, rfl, rfl, rfl, iff_of_true rfl hchanged⟩
  · rw [if_neg hchanged]
    exact ⟨_, rfl, rfl, rfl, iff_of_false Bool.false_ne_true hchanged⟩

/-- **A tap never traps**, and leaves the fields enabled just when the button says Done. -/
theorem step_tap (h : Editing s.screen) (error : Option FirestoreError) :
    ∃ t, s.step (.didTapEdit error) = some t ∧ Editing t.screen := by
  cases hbutton : s.screen.button with
  | edit => exact ⟨_, step_begin hbutton error, editing_editButton _⟩
  | done =>
    obtain ⟨t, ht, htitle, hdisabled, -⟩ := step_end h hbutton error
    refine ⟨t, ht, ⟨by rw [hdisabled, htitle]; rfl, fun hdone => ?_⟩⟩
    rw [htitle] at hdone
    cases hdone

/-! ### Runs -/

theorem editing_step {event : ProfileEvent} (h : Editing s.screen)
    (ht : s.step event = some t) : Editing t.screen := by
  by_cases htap : event.IsTap
  · obtain ⟨error, rfl⟩ := htap
    obtain ⟨t', ht', hediting⟩ := step_tap h error
    obtain rfl : t = t' := Option.some.inj (ht.symm.trans ht')
    exact hediting
  · exact (sameSession_step htap ht).editing h

theorem editing_run (stored : Option Parameter) {events : List ProfileEvent}
    (h : run step { stored } events = some t) : Editing t.screen := by
  have hstart : Editing {} := ⟨rfl, fun hdone => by cases hdone⟩
  exact run_history (P := fun _ s => Editing s.screen) (fun _ _ _ _ h ht => editing_step h ht)
    hstart h

end ProfileState

/-- **Edit sessions.**  Wherever a run has led, a tap on the button does not stop the app, and the
    fields are enabled just when the button says Done.  When it says Edit, the next two taps are a
    session: the second issues a write exactly when the phone number or the address then differs
    from what it was at the first. -/
theorem profile_edit_session [BEq String] (stored : Option Parameter) {events : List ProfileEvent}
    {u : ProfileState} (hu : run ProfileState.step { stored } events = some u) :
    (∀ error, ∃ t, u.step (.didTapEdit error) = some t) ∧
    u.screen.isEnabled = decide (u.screen.button = .done) ∧
    (u.screen.button = .edit → ∀ (during : List ProfileEvent) (error error') (v : ProfileState),
      (∀ event ∈ during, ¬event.IsTap) →
      run ProfileState.step u (.didTapEdit error :: during) = some v →
        ∃ t, v.step (.didTapEdit error') = some t ∧ t.screen.button = .edit ∧
          (t.save.isSome = true ↔
            (v.screen.phoneNo != u.screen.phoneNo) = true ∨
              (v.screen.address != u.screen.address) = true)) := by
  have hediting := ProfileState.editing_run stored hu
  refine ⟨fun error => ?_, hediting.isEnabled, fun hbutton during error error' v htaps hv => ?_⟩
  · obtain ⟨t, ht, -⟩ := ProfileState.step_tap hediting error
    exact ⟨t, ht⟩
  · rw [run_cons, ProfileState.step_begin hbutton, Option.bind_some] at hv
    -- What was taken down is still there at the end of the session.
    have hsession := ProfileState.sameSession_run htaps hv
    obtain ⟨t, ht, htitle, -, hwrite⟩ := ProfileState.step_end
      (hsession.editing (ProfileState.editing_editButton _)) hsession.button error'
    refine ⟨t, ht, htitle, hwrite.trans ?_⟩
    rw [ProfileViewController.textChanged, hsession.phoneNumberChanged, hsession.addressChanged,
      Bool.or_eq_true]
    rfl

/-- A profile that is fetched late changes the texts, and the session that changes nothing itself
    writes it back. -/
theorem profile_edit_session_late : ∃ u v t : ProfileState,
    run ProfileState.step { stored := some [("phoneNumber", .string "0801")] }
      [.documentRead, .fetchReturns] = some u ∧
    run ProfileState.step u [.didTapEdit none, .refresh] = some v ∧
    v.step (.didTapEdit none) = some t ∧
    (t.save.isSome = true ↔
      v.screen.phoneNo ≠ u.screen.phoneNo ∨ v.screen.address ≠ u.screen.address) := by
  have hfetched : run ProfileState.step { stored := some [("phoneNumber", .string "0801")] }
      [.documentRead, .fetchReturns] = some _ := rfl
  obtain ⟨-, -, hsession⟩ := profile_edit_session _ hfetched
  have hrefresh : ∀ event ∈ [ProfileEvent.refresh], ¬event.IsTap := by simp [ProfileEvent.IsTap]
  obtain ⟨t, ht, -, hwrite⟩ := hsession rfl [.refresh] none none _ hrefresh rfl
  simp only [bne_iff_ne] at hwrite
  exact ⟨_, _, t, rfl, rfl, ht, hwrite⟩

end Foodly
