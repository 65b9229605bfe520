import Foodly.Accounts.Actions
import Foodly.Lib.Purge

namespace Foodly

open Runs

/-!
# Users do not interfere

What a user is shown comes from the user's own documents: the profile, and the orders of the
history.  These documents are decided by what is done while the user is signed in: in any run,
whatever the other users of the device do can be left out, and the user's documents come out the
same.

* `AccountAction.signsIn`, `DoneAs` — what belongs to a user: the actions done while the user is
  signed in, and those that sign the user in;
* `SameFor` — the user is signed in on both of two devices or on neither, and has the same documents
  on both;
* `SameFor.visible` — an action done as the user comes out the same on both;
* `SameFor.hidden` — an action done as somebody else changes nothing for the user;
* `own_actions_decide` — the result for runs, by the rule for purged runs.

An action may be one of the user's in one run and not in another: it depends on who is signed in
when it is done.  That is why the actions are picked while the run goes on.
-/

/-! ### What concerns a user -/

/-- The user whom an action signs in. -/
def AccountAction.signsIn : AccountAction → Option String
  | .signIn user => some user
  | .signUp attempt => attempt.auth.authResult?
  | .signOut | .saveProfile _ _ _ _ _ | .createOrder _ _ _ | .updateOrder _ _ _ => none

/-- The action is done while the user is signed in, or signs the user in. -/
def DoneAs (user : String) (f : Firebase) (action : AccountAction) : Prop :=
  f.currentUser = some user ∨ action.signsIn = some user

instance (user : String) (f : Firebase) (action : AccountAction) :
    Decidable (DoneAs user f action) := inferInstanceAs (Decidable (_ ∨ _))

/-- The user is signed in on both or on neither, and has the same documents on both. -/
structure SameFor (user : String) (f g : Firebase) : Prop where
  signedIn : f.currentUser = some user ↔ g.currentUser = some user
  documents : ∀ document, OwnedBy user document →
    f.database.lookup document = g.database.lookup document

/-! ### One action -/

namespace AccountAction

/-- Whom an action signs in is signed in afterwards. -/
theorem userAfter_of_signsIn {user : String} {action : AccountAction}
    (h : action.signsIn = some user) (currentUser : Option String) :
    action.userAfter currentUser = some user := by
  cases action with
  | signUp attempt =>
    show attempt.auth.authResult?.or currentUser = some user
    rw [show attempt.auth.authResult? = some user from h]
    rfl
  | signIn => exact h
  | _ => cases h

/-- Nobody else is signed in afterwards, but who was before. -/
theorem userAfter_ne {user : String} {action : AccountAction} {currentUser : Option String}
    (h : action.signsIn ≠ some user) (hbefore : currentUser ≠ some user) :
    action.userAfter currentUser ≠ some user := by
  cases action with
  | signUp attempt =>
    have hresult : attempt.auth.authResult? ≠ some user := h
    intro hafter
    -- A failed sign-up leaves the user who was signed in.
    rcases Option.or_eq_some_iff.mp hafter with hnew | ⟨-, hold⟩
    · exact hresult hnew
    · exact hbefore hold
  | signIn => exact h
  | signOut => exact nofun
  | _ => exact hbefore

/-- What an action writes for another user leaves a user's documents alone. -/
theorem lookup_documentsAfter_of_ne {user : String} {action : AccountAction}
    {currentUser : Option String} (h : action.userAfter currentUser ≠ some user)
    (database : Database) {document : DocumentReference} (hdocument : OwnedBy user document) :
    (action.documentsAfter currentUser database).lookup document = database.lookup document := by
  unfold documentsAfter
  split
  next written data hwrite =>
    obtain ⟨other, hother, hwrite⟩ := Option.bind_eq_some_iff.mp hwrite
    have hne : document ≠ written := by
      rintro rfl
      have howned := (writes_of_write hwrite).ownedBy
      exact h (hother.trans (congrArg some (howned.unique hdocument)))
    exact AList.lookup_insert_ne hne
  next => rfl

/-- The document that an action writes depends on the state only through the user. -/
theorem lookup_documentsAfter_congr {action : AccountAction}
    {currentUser currentUser' : Option String}
    (huser : action.userAfter currentUser = action.userAfter currentUser')
    {database database' : Database} {document : DocumentReference}
    (h : database.lookup document = database'.lookup document) :
    (action.documentsAfter currentUser database).lookup document
      = (action.documentsAfter currentUser' database').lookup document := by
  unfold documentsAfter
  rw [huser]
  split
  next written data _ =>
    by_cases hkey : document = written
    · rw [hkey, AList.lookup_insert, AList.lookup_insert]
    · rw [AList.lookup_insert_ne hkey, AList.lookup_insert_ne hkey, h]
  next => exact h

/-- An action that needs a user signs nobody in. -/
theorem signsIn_of_needsUser {action : AccountAction} (h : action.NeedsUser) :
    action.signsIn = none := by
  cases action with
  | saveProfile => rfl
  | _ => cases h

end AccountAction

section

variable {user : String} {f g t : Firebase} {action : AccountAction}

/-- **Visible.**  What is done as the user succeeds on both, and comes out the same. -/
theorem SameFor.visible (h : SameFor user f g) (hdone : DoneAs user f action)
    (ht : f.step action = some t) : ∃ u, g.step action = some u ∧ SameFor user t u := by
  have hafter : action.userAfter f.currentUser = action.userAfter g.currentUser := by
    -- The action leaves the same user signed in on both.
    rcases hdone with huser | hsigns
    · rw [huser, h.signedIn.mp huser]
    · rw [AccountAction.userAfter_of_signsIn hsigns, AccountAction.userAfter_of_signsIn hsigns]
  rcases f.step_spec action with ⟨-, -, hnone⟩ | ⟨-, accounts, hf⟩
  · rw [hnone] at ht
    cases ht
  rw [hf] at ht
  obtain rfl := Option.some.inj ht
  rcases g.step_spec action with ⟨hneeds, hnobody, -⟩ | ⟨-, accounts', hg⟩
  · -- On `g` the user is signed in too.
    have hsigns := AccountAction.signsIn_of_needsUser hneeds
    rcases hdone with huser | hsigns'
    · rw [h.signedIn.mp huser] at hnobody
      cases hnobody
    · rw [hsigns] at hsigns'
      cases hsigns'
  · exact ⟨_, hg, iff_of_eq (congrArg (· = some user) hafter), fun document hdocument =>
      AccountAction.lookup_documentsAfter_congr hafter (h.documents document hdocument)⟩

/-- **Hidden.**  What is done as somebody else changes nothing for the user. -/
theorem SameFor.hidden (h : SameFor user f g) (hother : ¬DoneAs user f action)
    (ht : f.step action = some t) : SameFor user t g := by
  obtain ⟨hbefore, hsigns⟩ := not_or.mp hother
  have hafter := AccountAction.userAfter_ne hsigns hbefore
  -- On `f` somebody else's documents change; on `g` nothing happens.
  rcases f.step_spec action with ⟨-, -, hnone⟩ | ⟨-, accounts, hf⟩
  · rw [hnone] at ht
    cases ht
  rw [hf] at ht
  obtain rfl := Option.some.inj ht
  have hafter' := fun huser => hbefore (h.signedIn.mpr huser)
  refine ⟨iff_of_false hafter hafter', fun document hdocument => ?_⟩
  rw [← h.documents document hdocument]
  exact AccountAction.lookup_documentsAfter_of_ne hafter _ hdocument

end

/-! ### Runs -/

/-- **Isolation.**  In any run, leaving out what is done while another user is signed in gives the
    user the same profile document and the same order history. -/
theorem own_actions_decide (user : String) {f t : Firebase} {actions : List AccountAction}
    (ht : run Firebase.step f actions = some t) :
    ∃ u, run Firebase.step f (purge Firebase.step (DoneAs user) f actions) = some u ∧
      u.database.lookup (profileOf user) = t.database.lookup (profileOf user) ∧
      (documentsIn (orderHistoryOf user) u.database).Perm
        (documentsIn (orderHistoryOf user) t.database) := by
  have hsame : SameFor user f f := ⟨Iff.rfl, fun _ _ => rfl⟩
  have hvisible : ∀ f g action t, SameFor user f g → DoneAs user f action →
      f.step action = some t → ∃ u, g.step action = some u ∧ SameFor user t u :=
    fun _ _ _ _ h hdone hstep => h.visible hdone hstep
  have hhidden : ∀ f g action t, SameFor user f g → ¬DoneAs user f action →
      f.step action = some t → SameFor user t g :=
    fun _ _ _ _ h hother hstep => h.hidden hother hstep
  -- The run and the purged run start in the same state.
  obtain ⟨u, hu, hend⟩ := run_purge hvisible hhidden hsame ht
  refine ⟨u, hu, (hend.documents _ (Or.inl rfl)).symm, ?_⟩
  exact documentsIn_perm_of_lookup fun id => (hend.documents _ (Or.inr rfl)).symm

/-- Ada orders, Bola uses the device in between, and Ada changes her order. -/
def sharedDevice : List AccountAction :=
  [.signIn "ada", .createOrder { name := "Jollof rice" } "o1" none, .signIn "bola",
    .createOrder { name := "Soup" } "o1" none, .saveProfile "b" "Bola Ade" "" "" none, .signOut,
    .signIn "ada", .updateOrder "o1" { name := "Fish" } none]

-- What Bola does is left out.
example : purge Firebase.step (DoneAs "ada") {} sharedDevice
    = [.signIn "ada", .createOrder { name := "Jollof rice" } "o1" none, .signIn "bola",
        .signIn "ada", .updateOrder "o1" { name := "Fish" } none] := by decide +kernel

/-- Ada's documents are those of her own actions. -/
theorem own_actions_decide_shared_device : ∃ t u,
    run Firebase.step {} sharedDevice = some t ∧
      run Firebase.step {} (purge Firebase.step (DoneAs "ada") {} sharedDevice) = some u ∧
      u.database.lookup (profileOf "ada") = t.database.lookup (profileOf "ada") ∧
      (documentsIn (orderHistoryOf "ada") u.database).Perm
        (documentsIn (orderHistoryOf "ada") t.database) := by
  have hrun : run Firebase.step {} sharedDevice = some _ := rfl
  obtain ⟨u, hu, hprofile, horders⟩ := own_actions_decide "ada" hrun
  exact ⟨_, u, hrun, hu, hprofile, horders⟩

end Foodly
