import Foodly.Lib.Runs
import Foodly.Networking.Database

namespace Foodly

open Runs

/-!
# Signing up

`CreateUser.createUser` creates an account and, when that has succeeded, writes the profile
document of the new user.  A form that waits for the handler needs one call per attempt, which
tells whether both steps succeeded, and no account without a profile.

* `Firebase`, `Firebase.createUser`, `Firebase.setData` — what Firebase keeps, and the two calls;
* `AuthAnswer` — what Firebase Auth answers, a result or an error;
* `CreateUser.createUser` — the source's function: Firebase afterwards, and the calls of the
  handler;
* `SignUpLaw` — what the form needs of an attempt that has finished;
* `SignUpState.step_cases` — what an attempt can do: fail at once and say so, or create the account,
  after which the handler is only called when the profile could not be written;
* `sign_up_law_iff` — in which runs of attempts the law holds: a successful attempt never calls
  the handler, and a failed write leaves the account behind and reports success.

The attempts follow each other here, as the form makes them; what becomes of attempts that overlap
is the subject of sign-ups under way.
-/

/-! ### Firebase -/

/-- An account of Firebase Auth. -/
structure Account where
  uid : String
  email : String
  password : String
  deriving DecidableEq, Repr

/-- What Firebase Auth answers when an account is to be created. -/
inductive AuthAnswer
  | failure (error : FirestoreError)
  | success (uid : String)
  deriving DecidableEq, Repr

/-- The optional result argument of the callback. -/
def AuthAnswer.authResult? : AuthAnswer → Option String
  | .failure _ => none
  | .success uid => some uid

/-- The optional error argument of the callback. -/
def AuthAnswer.error? : AuthAnswer → Option FirestoreError
  | .failure error => some error
  | .success _ => none

/-- What Firebase keeps: the accounts made by the app, the signed-in user, the documents. -/
structure Firebase where
  accounts : List Account := []
  currentUser : Option String := none
  database : Database := ∅

/-- `Auth.auth().createUser(withEmail:password:)`: a new account is signed in. -/
def Firebase.createUser (f : Firebase) (email password : String) : AuthAnswer → Firebase
  | .failure _ => f
  | .success uid =>
    { f with accounts := f.accounts ++ [{ uid, email, password }], currentUser := some uid }

/-- `setData` on a document, which is stored unless there is an error. -/
def Firebase.setData (f : Firebase) (target : DocumentReference) (data : Parameter) :
    Option FirestoreError → Firebase
  | none => { f with database := f.database.insert target data }
  | some _ => f

/-- The profile document of a user. -/
def profileOf (uid : String) : DocumentReference := (Firestore.collection "users").document uid

/-! ### The attempt -/

/-- What is entered, and what Firebase answers to the two calls. -/
structure Attempt where
  fullName : String
  email : String
  password : String
  address : String := ""
  phone : String := ""
  auth : AuthAnswer
  write : Option FirestoreError := none
  deriving DecidableEq, Repr

/-- `CreateUser.createUser`: Firebase afterwards, and what the handler was called with, in
    order; `none` when `currentUser!` fails. -/
def CreateUser.createUser (f : Firebase) (a : Attempt) : Option (Firebase × List Bool) :=
  let f := f.createUser a.email a.password a.auth
  match a.auth.error?, a.auth.authResult? with
  | some _, none => some (f, [false])
  | _, _ => do
    let uid ← f.currentUser
    let f := f.setData (profileOf uid) [("email", .string a.email),
      ("fullName", .string a.fullName), ("address", .string a.address),
      ("phoneNumber", .string a.phone)] a.write
    match a.write with
    -- `guard let error = error else { return }`
    | none => return (f, [])
    | some _ => return (f, [true])

/-- A finished attempt: Firebase before it, what succeeded, and the calls of the handler. -/
structure Finished where
  before : Firebase
  created : Bool
  stored : Bool
  handlerCalls : List Bool

/-- Firebase, and the attempt finished last. -/
structure SignUpState where
  firebase : Firebase
  last : Option Finished := none

def SignUpState.step (s : SignUpState) (a : Attempt) : Option SignUpState := do
  let (firebase, handlerCalls) ← CreateUser.createUser s.firebase a
  let created := a.auth.authResult?.isSome
  let last : Finished :=
    { before := s.firebase, created, stored := created && a.write.isNone, handlerCalls }
  return { firebase, last := some last }

/-! ### The law -/

/-- The account was created and its profile stored. -/
def Finished.succeeded (last : Finished) : Bool := last.created && last.stored

/-- The handler was called once and told the truth, a failed attempt has left nothing behind,
    and every account has its profile. -/
structure SignUpLaw (s : SignUpState) : Prop where
  reported : ∀ last ∈ s.last, last.handlerCalls = [last.succeeded]
  undone : ∀ last ∈ s.last, last.succeeded = false →
    s.firebase.accounts = last.before.accounts ∧ s.firebase.database = last.before.database
  profiles : ∀ account ∈ s.firebase.accounts,
    (s.firebase.database.lookup (profileOf account.uid)).isSome = true

/-- Firebase Auth refuses to create the account. -/
def Attempt.CreationFails (a : Attempt) : Prop := a.auth.authResult? = none

instance (a : Attempt) : Decidable a.CreationFails := inferInstanceAs (Decidable (_ = _))

/-! ### One attempt -/

/-- What an attempt can do: fail at once and say so, or create the account; then the handler is
    only called when the profile could not be written. -/
theorem SignUpState.step_cases (s : SignUpState) (a : Attempt) :
    (a.CreationFails ∧
      s.step a = some { s with last := some ⟨s.firebase, false, false, [false]⟩ }) ∨
    (¬a.CreationFails ∧ ∃ firebase, s.step a = some ⟨firebase, some
      ⟨s.firebase, true, a.write.isNone, if a.write.isNone then [] else [true]⟩⟩) := by
  obtain ⟨fullName, email, password, address, phone, auth, write⟩ := a
  cases auth with
  | failure error => exact Or.inl ⟨rfl, rfl⟩
  | success uid =>
    refine Or.inr ⟨Option.some_ne_none uid, ?_⟩
    cases write with
    | none => exact ⟨_, rfl⟩
    | some error => exact ⟨_, rfl⟩

/-- Every attempt finishes: `currentUser!` is only reached with a new user. -/
theorem SignUpState.step_total (s : SignUpState) (a : Attempt) : ∃ t, s.step a = some t := by
  rcases s.step_cases a with ⟨-, hstep⟩ | ⟨-, firebase, hstep⟩
  · exact ⟨_, hstep⟩
  · exact ⟨_, hstep⟩

/-- **One attempt.**  The law survives it exactly when no account is created. -/
theorem SignUpState.step_law {s t : SignUpState} {a : Attempt} (h : SignUpLaw s)
    (ht : s.step a = some t) : SignUpLaw t ↔ a.CreationFails := by
  rcases s.step_cases a with ⟨hfails, hstep⟩ | ⟨hcreated, firebase, hstep⟩
  · rw [hstep, Option.some.injEq] at ht
    subst ht
    refine iff_of_true ⟨?_, ?_, h.profiles⟩ hfails
    · rintro last ⟨⟩
      rfl
    · rintro last ⟨⟩ -
      exact ⟨rfl, rfl⟩
  · rw [hstep, Option.some.injEq] at ht
    subst ht
    refine iff_of_false (fun hlaw => ?_) hcreated
    -- The handler is not called without an error, and is told `true` when there is one.
    have hreported := hlaw.reported _ rfl
    cases hwrite : a.write <;> simp [hwrite, Finished.succeeded] at hreported

/-! ### Runs -/

/-- **Truthful sign-ups.**  In a run of attempts the handler is always called once, with
    whether account and profile were stored, a failed attempt leaves nothing behind and every
    account has its profile, exactly when no attempt gets as far as an account. -/
theorem sign_up_law_iff (currentUser : Option String) (database : Database)
    (attempts : List Attempt) :
    Always SignUpState.step SignUpLaw { firebase := { currentUser, database } } attempts ↔
      ∀ a ∈ attempts, a.CreationFails := by
  have hstart : SignUpLaw { firebase := { currentUser, database } } := by
    refine ⟨?_, ?_, ?_⟩ <;> simp
  rw [← guarded_iff_forall_mem SignUpState.step_total]
  exact always_iff_guarded_of_step (fun _ _ _ hlaw ht => SignUpState.step_law hlaw ht) hstart

/-- A sign-up that succeeds is not reported, and one whose profile is not stored is reported as
    a success. -/
theorem sign_up_misreported :
    let ada : Attempt :=
      { fullName := "Ada Obi", email := "ada@foodly.ng", password := "Passw0rd!"
        auth := .success "ada" }
    ¬Always SignUpState.step SignUpLaw { firebase := {} } [ada] ∧
      ¬Always SignUpState.step SignUpLaw { firebase := {} }
        [{ ada with write := some "unavailable" }] := by
  constructor
  · intro h
    have hreported := (h.last rfl).reported _ rfl
    cases hreported
  · intro h
    have hreported := (h.last rfl).reported _ rfl
    cases hreported

end Foodly
