import Foodly.Lib.Runs
import Foodly.Orders.Orders
import Foodly.Profile.Controller
import Foodly.SignUp.CreateUser

namespace Foodly

/-!
# What the app writes

Everything that the screens write to Firestore belongs to a user: the profile document, written
when an account is created and when the profile is saved, and the orders of the history.  An
action is one such write with the answer of Firebase, or a change of the user who is signed in.

* `AccountAction`, `Firebase.step` — the actions, each through the code of its screen or service;
* `OwnedBy` — the document is the profile of a user or in the user's order history, and
  `OwnedBy.unique`: the paths of two users are different;
* `Writes` — what the app stores in a document of a user;
* `userAfter`, `write`, `documentsAfter` — what an action comes to, without the code: who is signed
  in afterwards, what is written, and the documents that are then there;
* `NeedsUser` — the actions that fail when nobody is signed in;
* `Firebase.step_spec` — the code of every action comes to just that.

`step_spec` is all that the results on profiles, on decoding and on isolation use of the code.
-/

/-- What is done on the device. -/
inductive AccountAction
  | signIn (user : String)
  | signOut
  | signUp (attempt : Attempt)
  | saveProfile (email fullName address phoneNumber : String) (error : Option FirestoreError)
  | createOrder (food : Food) (generated : String) (error : Option FirestoreError)
  | updateOrder (orderId : String) (food : Food) (error : Option FirestoreError)
  deriving DecidableEq, Repr

namespace Firebase

/-- A call of the router, which is carried out unless there is an error. -/
def routed (f : Firebase) (generated : String) (request : FirestoreRequest) :
    Option FirestoreError → Firebase
  | none => { f with database := performRequest generated f.database request }
  | some _ => f

/-- `updateProfile(view:_:_:_:_:)`: the document that it writes is that of the current user. -/
def updateProfile (f : Firebase) (email fullName address phoneNumber : String)
    (error : Option FirestoreError) : Option Firebase := do
  -- `docId!`
  let docId ← f.currentUser
  return f.setData (profileOf docId)
    (ProfileViewModel.updateProfile email fullName address phoneNumber) error

def step (f : Firebase) : AccountAction → Option Firebase
  | .signIn user => some { f with currentUser := some user }
  | .signOut => some { f with currentUser := none }
  | .signUp attempt => (CreateUser.createUser f attempt).map Prod.fst
  | .saveProfile email fullName address phoneNumber error =>
    f.updateProfile email fullName address phoneNumber error
  | .createOrder food generated error => some (f.routed generated
      ((OrderAPI.createFoodOrder food).request f.currentUser generated) error)
  | .updateOrder orderId food error => some (f.routed ""
      ((OrderAPI.updateFoodOrder orderId food).request f.currentUser "") error)

end Firebase

/-! ### Whose documents -/

/-- The document is the profile of the user, or in the user's order history. -/
def OwnedBy (user : String) (document : DocumentReference) : Prop :=
  document = profileOf user ∨ document.parent = orderHistoryOf user

/-- The paths of two users are different. -/
theorem OwnedBy.unique {user user' : String} {document : DocumentReference}
    (h : OwnedBy user document) (h' : OwnedBy user' document) : user = user' := by
  rcases h with rfl | hparent <;> rcases h' with hprofile | hparent'
  · exact congrArg DocumentReference.documentID hprofile
  · cases congrArg CollectionReference.path hparent'
  · rw [hprofile] at hparent
    cases congrArg CollectionReference.path hparent
  · rw [hparent] at hparent'
    simpa [orderHistoryOf, DocumentReference.collection, CollectionReference.document] using
      hparent'

/-- What the app stores in a document of a user; signing up and saving store the same fields. -/
inductive Writes (user : String) : DocumentReference → Parameter → Prop
  | profile (email fullName address phoneNumber : String) :
    Writes user (profileOf user)
      (ProfileViewModel.updateProfile email fullName address phoneNumber)
  | order (id : String) (food : Food) :
    Writes user ((orderHistoryOf user).document id) food.asParameter

theorem Writes.ownedBy {user : String} {document : DocumentReference} {data : Parameter}
    (h : Writes user document data) : OwnedBy user document := by
  cases h with
  | profile => exact Or.inl rfl
  | order => exact Or.inr rfl

/-! ### What an action does -/

namespace AccountAction

/-- Who is signed in after an action. -/
def userAfter (currentUser : Option String) : AccountAction → Option String
  | .signIn user => some user
  | .signOut => none
  | .signUp attempt => attempt.auth.authResult?.or currentUser
  | .saveProfile _ _ _ _ _ | .createOrder _ _ _ | .updateOrder _ _ _ => currentUser

/-- The document that an action writes for the user who is signed in afterwards. -/
def write (user : String) : AccountAction → Option (DocumentReference × Parameter)
  | .signUp attempt =>
    if attempt.auth.authResult?.isSome = true ∧ attempt.write = none then
      some (profileOf user, ProfileViewModel.updateProfile attempt.email attempt.fullName
        attempt.address attempt.phone)
    else none
  | .saveProfile email fullName address phoneNumber none =>
    some (profileOf user, ProfileViewModel.updateProfile email fullName address phoneNumber)
  | .createOrder food generated none =>
    some ((orderHistoryOf user).document generated, food.asParameter)
  | .updateOrder orderId food none =>
    some ((orderHistoryOf user).document orderId, food.asParameter)
  | .signIn _ | .signOut | .saveProfile _ _ _ _ (some _) | .createOrder _ _ (some _)
  | .updateOrder _ _ (some _) => none

/-- What is written belongs to the user. -/
theorem writes_of_write {user : String} {action : AccountAction} {document : DocumentReference}
    {data : Parameter} (h : action.write user = some (document, data)) :
    Writes user document data := by
  cases action with
  | signIn | signOut => cases h
  | signUp attempt =>
    simp only [write, Option.ite_none_right_eq_some, Option.some.injEq, Prod.mk.injEq] at h
    obtain ⟨-, rfl, rfl⟩ := h
    exact .profile _ _ _ _
  | saveProfile email fullName address phoneNumber error =>
    cases error <;> cases h
    exact .profile _ _ _ _
  | createOrder food generated error =>
    -- Only an accepted order is stored; a refused one writes nothing.
    cases error <;> cases h
    exact .order _ _
  | updateOrder orderId food error =>
    cases error <;> cases h
    exact .order _ _

/-- Only a profile that is saved needs a user. -/
def NeedsUser : AccountAction → Prop
  | .saveProfile _ _ _ _ _ => True
  | .signIn _ | .signOut | .signUp _ | .createOrder _ _ _ | .updateOrder _ _ _ => False

/-- The documents after an action: those before, with what it writes for the user who is then
    signed in. -/
def documentsAfter (action : AccountAction) (currentUser : Option String) (database : Database) :
    Database :=
  match (action.userAfter currentUser).bind action.write with
  | some (document, data) => database.insert document data
  | none => database

end AccountAction

/-- **One action.**  It fails when it needs a user and there is none; otherwise it writes at most
    one document, of the user who is signed in afterwards. -/
theorem Firebase.step_spec (f : Firebase) (action : AccountAction) :
    (action.NeedsUser ∧ f.currentUser = none ∧ f.step action = none) ∨
    ((action.NeedsUser → f.currentUser.isSome = true) ∧ ∃ accounts, f.step action = some
      { accounts
        currentUser := action.userAfter f.currentUser
        database := action.documentsAfter f.currentUser f.database }) := by
  obtain ⟨accounts, currentUser, database⟩ := f
  cases action with
  | signIn user => exact Or.inr ⟨nofun, _, rfl⟩
  | signOut => exact Or.inr ⟨nofun, _, rfl⟩
  | signUp attempt =>
    refine Or.inr ⟨nofun, ?_⟩
    obtain ⟨fullName, email, password, address, phone, auth, write⟩ := attempt
    -- A refused account changes nothing; a created one is signed in, whatever becomes of its write.
    cases auth with
    | failure error => cases currentUser <;> exact ⟨_, rfl⟩
    | success uid => cases write <;> exact ⟨_, rfl⟩
  | saveProfile email fullName address phoneNumber error =>
    -- `updateProfile` unwraps the current user.
    cases currentUser with
    | none => exact Or.inl ⟨trivial, rfl, rfl⟩
    | some user => cases error <;> exact Or.inr ⟨fun _ => rfl, _, rfl⟩
  | createOrder food generated error =>
    refine Or.inr ⟨nofun, ?_⟩
    -- Without a user the router drops the order; the error of the answer only matters with one.
    cases currentUser <;> cases error <;> exact ⟨_, rfl⟩
  | updateOrder orderId food error =>
    refine Or.inr ⟨nofun, ?_⟩
    cases currentUser <;> cases error <;> exact ⟨_, rfl⟩

end Foodly
