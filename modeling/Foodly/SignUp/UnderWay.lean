import Foodly.Helpers.Indicators
import Foodly.Lib.Callbacks
import Foodly.Lib.Ledger
import Foodly.SignUp.Forms

namespace Foodly

open Runs InFlight DocumentStore Callbacks

/-!
# Sign-ups under way

`getStartedButton` can be tapped again while earlier sign-ups are under way, and each of these
takes several steps, between which anything can happen:

* Firebase Auth answers one of the requests for an account.  It makes a new account the current
  user on a queue of its own, and hands the callback on to the main queue;
* the callback runs on the main queue.  It asks who is signed in *by then*, and sends the profile
  to the document of that user: `currentUser!` traps when there is nobody;
* Firestore answers one of the profiles sent, and the handler reports a failure.

Other screens sign users in and out meanwhile.  Every tap shows an indicator, and only the handler
hides one.

The reference is a journal of the requests with a ledger of the profiles sent.

* `sign_ups_accounted_for` — in which runs nothing traps; which accounts, profiles, indicators and
  alerts there are after one; and when every profile has gone to the account it was made for;
* `sign_ups_accounted_for_two` — two sign-ups whose profiles are both sent to the second account.
-/

/-! ### The app -/

/-- `SignUpViewController`: the indicators in its view, and the alerts that it has presented. -/
structure SignUpViewController where
  subviews : List MBProgressHUD := []
  presented : List UIAlertController := []

/-- The handler that `getStartedButton(_:)` passes to `createUser`. -/
def SignUpViewController.createUserHandler (s : SignUpViewController) (success : Bool) :
    SignUpViewController where
  subviews := hideIndicator s.subviews
  presented := s.presented ++ [SignUpForm.createUserHandler success]

/-- The screen and Firebase: the accounts, the documents stored and on their way, and the forms for
    which Firebase Auth has still to answer or the callback has still to run. -/
structure SigningUp where
  screen : SignUpViewController := {}
  accounts : List Account := []
  currentUser : Option String := none
  outbox : Outbox DocumentReference Parameter := {}
  creating : Exchange SignUpForm AuthAnswer := {}

/-- The profile that is stored for a form. -/
def SignUpForm.profile (form : SignUpForm) : Parameter :=
  [("email", .string form.emailTextField), ("fullName", .string form.fullNameTextField),
    ("address", .string ""), ("phoneNumber", .string "")]

/-- What happens: a tap with some texts in the form; what Firebase Auth answers to one of the
    requests for an account; the run of the next callback; what Firestore answers to one of the
    profiles; and another screen signs a user in or out. -/
inductive SigningUpEvent
  | getStartedButton (form : SignUpForm)
  | answered (index : ℕ) (auth : AuthAnswer)
  | callback
  | written (index : ℕ) (error : Option FirestoreError)
  | currentUserChanged (user : Option String)
  deriving DecidableEq, Repr

namespace SigningUp

/-- `signInFlowAuthDataResultCallbackByDecoratingCallback:` of Firebase Auth, on its work queue: a
    new account is the current user before the callback is dispatched. -/
def accountAnswered (s : SigningUp) (form : SignUpForm) : AuthAnswer → SigningUp
  | .failure _ => s
  | .success uid =>
    { s with
      accounts := s.accounts ++ [⟨uid, form.emailTextField, form.passwordTextField⟩]
      currentUser := some uid }

/-- The first callback of `createUser`, on the main queue. -/
def accountCreated (s : SigningUp) (form : SignUpForm) : AuthAnswer → Option SigningUp
  | .failure _ => some { s with screen := s.screen.createUserHandler false }
  | .success _ => do
    -- `Auth.auth().currentUser!.uid`: not the result that the callback is given.
    let user ← s.currentUser
    return { s with outbox := s.outbox.send (profileOf user, form.profile) }

/-- The callback of `setData`. -/
def profileWritten (s : SigningUp) (error : Option FirestoreError) : SigningUp :=
  match error with
  | none => s
  | some _ => { s with screen := s.screen.createUserHandler true }

def step (s : SigningUp) : SigningUpEvent → Option SigningUp
  | .getStartedButton form =>
    let subviews := showIndicator s.screen.subviews "Creating your account"
    let (valid, alerts) := form.validateTextField
    let screen : SignUpViewController := { subviews, presented := s.screen.presented ++ alerts }
    some { s with screen, creating := if valid then s.creating.send form else s.creating }
  | .answered index auth => do
    let (form, creating) ← s.creating.answer index auth
    return { s with creating }.accountAnswered form auth
  | .callback => do
    let ((form, auth), creating) ← s.creating.callback
    { s with creating }.accountCreated form auth
  | .written index error => do
    let outbox ← s.outbox.answer index error.isNone
    return { s with outbox }.profileWritten error
  | .currentUserChanged currentUser => some { s with currentUser }

end SigningUp

/-- Only what has been sent is answered, callbacks run when there are some, and a new account has an
    id of its own, for which there is no profile. -/
def AnswersSent (s : SigningUp) : SigningUpEvent → Prop
  | .answered index auth => index < s.creating.requests.length ∧
      ∀ uid ∈ auth.authResult?, uid ∉ s.accounts.map Account.uid ∧
        s.outbox.stored.lookup (profileOf uid) = none
  | .callback => s.creating.mainQueue ≠ []
  | .written index _ => index < s.outbox.inFlight.length
  | .getStartedButton _ | .currentUserChanged _ => True

/-- The account that the next callback was given, if it is to send a profile. -/
def SigningUp.callbackResult? (s : SigningUp) : Option String :=
  s.creating.mainQueue.head?.bind fun entry => entry.2.authResult?

/-- A callback that sends a profile runs only while somebody is signed in. -/
def SomebodySignedIn (s : SigningUp) : SigningUpEvent → Prop
  | .callback => s.callbackResult?.isSome = true → s.currentUser.isSome = true
  | .getStartedButton _ | .answered _ _ | .written _ _ | .currentUserChanged _ => True

/-- A callback that sends a profile runs while its account is still the current user. -/
def StillSignedIn (s : SigningUp) : SigningUpEvent → Prop
  | .callback => ∀ uid ∈ s.callbackResult?, s.currentUser = some uid
  | .getStartedButton _ | .answered _ _ | .written _ _ | .currentUserChanged _ => True

instance (s : SigningUp) : (event : SigningUpEvent) → Decidable (AnswersSent s event)
  | .answered index auth => inferInstanceAs (Decidable (index < s.creating.requests.length ∧
      ∀ uid ∈ auth.authResult?, uid ∉ s.accounts.map Account.uid ∧
        s.outbox.stored.lookup (profileOf uid) = none))
  | .callback => inferInstanceAs (Decidable (s.creating.mainQueue ≠ []))
  | .written index _ => inferInstanceAs (Decidable (index < s.outbox.inFlight.length))
  | .getStartedButton _ | .currentUserChanged _ => inferInstanceAs (Decidable True)

instance (s : SigningUp) : (event : SigningUpEvent) → Decidable (StillSignedIn s event)
  | .callback => inferInstanceAs (Decidable (∀ uid ∈ s.callbackResult?, s.currentUser = some uid))
  | .getStartedButton _ | .answered _ _ | .written _ _ | .currentUserChanged _ =>
    inferInstanceAs (Decidable True)

/-- Answered at once, a sign-up does to Firebase, and tells the handler, what `createUser` does. -/
theorem createUser_answered_at_once (f : Firebase) (form : SignUpForm) (auth : AuthAnswer)
    (write : Option FirestoreError) :
    let answers := match auth with
      | .failure _ => [SigningUpEvent.answered 0 auth, .callback]
      | .success _ => [.answered 0 auth, .callback, .written 0 write]
    ∃ g handlerCalls t,
      CreateUser.createUser f
        { fullName := form.fullNameTextField, email := form.emailTextField,
          password := form.passwordTextField, auth, write } = some (g, handlerCalls) ∧
      run SigningUp.step
        { accounts := f.accounts, currentUser := f.currentUser,
          outbox := { stored := f.database }, creating := { requests := [form] } } answers
        = some t ∧
      t.accounts = g.accounts ∧ t.currentUser = g.currentUser ∧ t.creating = {} ∧
      t.outbox = { stored := g.database } ∧
      t.screen.presented = handlerCalls.map SignUpForm.createUserHandler := by
  cases auth with
  | failure error => exact ⟨_, _, _, rfl, rfl, rfl, rfl, rfl, rfl, rfl⟩
  | success uid =>
    cases write with
    | none => exact ⟨_, _, _, rfl, rfl, rfl, rfl, rfl, rfl, rfl⟩
    | some error => exact ⟨_, _, _, rfl, rfl, rfl, rfl, rfl, rfl, rfl⟩

/-! ### The reference -/

/-- An account that was created, and the form it was created for. -/
structure Registration where
  uid : String
  form : SignUpForm
  deriving DecidableEq, Repr

/-- The account of a registration. -/
def Registration.account (r : Registration) : Account :=
  ⟨r.uid, r.form.emailTextField, r.form.passwordTextField⟩

/-- The registration that an answer to a request makes. -/
def registration? (entry : SignUpForm × AuthAnswer) : Option Registration :=
  entry.2.authResult?.map fun uid => ⟨uid, entry.1⟩

/-- A profile that was sent for a registration, to the document of a user. -/
structure SentProfile where
  registration : Registration
  receiver : String
  deriving DecidableEq, Repr

/-- The write of a profile. -/
def SentProfile.write (sent : SentProfile) : DocumentReference × Parameter :=
  (profileOf sent.receiver, sent.registration.form.profile)

/-- What has become of the requests, who is signed in, and what has become of the profiles. -/
structure SignUpBook where
  requests : Journal SignUpForm AuthAnswer := {}
  user : Option String := none
  ledger : Ledger SentProfile := {}

namespace SignUpBook

/-- The registrations, in order. -/
def registered (book : SignUpBook) : List Registration :=
  book.requests.answered.filterMap registration?

/-- Every profile was sent to the document of the account that it was made for. -/
def OwnProfiles (book : SignUpBook) : Prop :=
  ∀ sent ∈ book.ledger.placed, sent.receiver = sent.registration.uid

/-- What an event means to the sign-ups. -/
def record (book : SignUpBook) : SigningUpEvent → SignUpBook
  | .getStartedButton form => { book with requests := book.requests.send form }
  | .answered index auth =>
    { book with
      requests := book.requests.answer index auth
      user := auth.authResult?.or book.user }
  | .callback =>
    let requests := book.requests.callback
    match book.requests.next?.bind registration?, book.user with
    | some registration, some receiver =>
      { book with requests, ledger := book.ledger.place ⟨registration, receiver⟩ }
    | _, _ => { book with requests }
  | .written index error => { book with ledger := book.ledger.answer index error.isNone }
  | .currentUserChanged user => { book with user }

end SignUpBook

/-- **What there is after a run.**  The accounts are those of the registrations, with ids of their
    own; every registration whose callback has run has sent one profile, and what is stored has
    come about by the accepted ones in turn; a refused account is reported once, and so is, as a
    success, every profile that was refused; and an indicator is left for every sign-up that is
    under way and for every one that has succeeded. -/
structure SignUpsAccounted (start : Database) (book : SignUpBook) (s : SigningUp) : Prop where
  requests : Follows book.requests s.creating
  currentUser : s.currentUser = book.user
  accounts : s.accounts = book.registered.map Registration.account
  distinct : (book.registered.map Registration.uid).Nodup
  fresh : ∀ r ∈ book.registered, start.lookup (profileOf r.uid) = none
  profiles : book.ledger.placed.map SentProfile.registration
    = book.requests.called.filterMap registration?
  balanced : book.ledger.Balanced
  outbox : Replays SentProfile.write start book.ledger s.outbox
  indicators : Foodly.indicators s.screen.subviews = s.creating.requests.length
    + s.creating.mainQueue.length + book.ledger.pending.length + book.ledger.accepted.length
  networkErrors : s.screen.presented.count (alertTextFields Constant.networkErrorMSG)
    = book.requests.called.countP fun entry => entry.2.authResult?.isNone
  successes : s.screen.presented.count ⟨"Done", "Account created successfully"⟩
    = book.ledger.rejected.length

/-! ### One event -/

theorem count_alertIf {alert : UIAlertController} (fails : Bool) {message : String}
    (h : alertTextFields message ≠ alert) : (SignUpForm.alertIf fails message).count alert = 0 := by
  cases fails <;> simp [SignUpForm.alertIf, h]

/-- The checks of the form present neither of the alerts of the handler. -/
theorem count_validateTextField (form : SignUpForm) (success : Bool) :
    form.validateTextField.2.count (SignUpForm.createUserHandler success) = 0 := by
  simp only [SignUpForm.validateTextField, List.count_append]
  cases success <;>
    rw [count_alertIf _ (by decide), count_alertIf _ (by decide), count_alertIf _ (by decide),
      count_alertIf _ (by decide), count_alertIf _ (by decide), count_alertIf _ (by decide)]

/-- The handler presents one alert, and hides an indicator. -/
theorem SignUpViewController.count_createUserHandler (screen : SignUpViewController)
    (success success' : Bool) :
    (screen.createUserHandler success).presented.count (SignUpForm.createUserHandler success')
      = screen.presented.count (SignUpForm.createUserHandler success')
        + if success = success' then 1 else 0 := by
  rw [createUserHandler, List.count_append]
  cases success <;> cases success' <;> rfl

/-- What has to be shown of an event: it traps only when nobody is signed in, otherwise the
    sign-ups are accounted for after it, and profiles go astray by it only when somebody else is. -/
def EventAccounted (start : Database) (book : SignUpBook) (s : SigningUp)
    (event : SigningUpEvent) : Prop :=
  ((s.step event).isSome = true ↔ SomebodySignedIn s event) ∧
    ∀ t ∈ s.step event, SignUpsAccounted start (book.record event) t ∧
      ((book.record event).OwnProfiles ↔ book.OwnProfiles ∧ StillSignedIn s event)

/-- An event that sends no profile. -/
theorem eventAccounted_of_placed {start : Database} {book : SignUpBook} {s t : SigningUp}
    {event : SigningUpEvent} (ht : s.step event = some t)
    (haccounted : SignUpsAccounted start (book.record event) t)
    (hplaced : (book.record event).ledger.placed = book.ledger.placed)
    (hsomebody : SomebodySignedIn s event) (hstill : StillSignedIn s event) :
    EventAccounted start book s event := by
  refine ⟨iff_of_true (by rw [ht]; rfl) hsomebody, fun u hu => ?_⟩
  obtain rfl : t = u := Option.some.inj (ht.symm.trans hu)
  refine ⟨haccounted, ?_⟩
  rw [SignUpBook.OwnProfiles, hplaced]
  exact (and_iff_left hstill).symm

namespace SignUpsAccounted

variable {start : Database} {book : SignUpBook} {s : SigningUp}

/-- A tap: one more indicator, and one more form that waits for its account. -/
theorem getStartedButton (h : SignUpsAccounted start book s) (form : SignUpForm) :
    EventAccounted start book s (.getStartedButton form) := by
  -- Only the alerts of the handler are counted, which those of the checks are not.
  have hfailed := count_validateTextField form false
  have hdone := count_validateTextField form true
  refine eventAccounted_of_placed rfl ?_ rfl trivial trivial
  exact
    { h with
      requests := h.requests.send form
      indicators := by
        simp only [SignUpBook.record, if_true, Exchange.send, indicators_showIndicator,
           h.indicators, List.length_append, List.length_singleton]
        omega
      networkErrors := by
        rw [List.count_append]
        exact congrArg₂ (· + ·) h.networkErrors hfailed
      successes := by
        rw [List.count_append]
        exact congrArg₂ (· + ·) h.successes hdone }

/-- A new account, with an id of its own for which there is no profile, is registered beside the
    others. -/
theorem registered_concat (h : SignUpsAccounted start book s) {uid : String} (form : SignUpForm)
    (hunregistered : uid ∉ s.accounts.map Account.uid)
    (hunstored : s.outbox.stored.lookup (profileOf uid) = none) :
    let registered := book.registered ++ [Registration.mk uid form]
    (registered.map Registration.uid).Nodup ∧
      ∀ r ∈ registered, start.lookup (profileOf r.uid) = none := by
  constructor
  · rw [List.map_append, List.nodup_append_comm]
    refine List.nodup_cons.mpr ⟨fun hmem => hunregistered ?_, h.distinct⟩
    rw [h.accounts, List.map_map]
    exact hmem
  · -- What is not stored now was not stored at the start.
    refine List.forall_mem_append.mpr ⟨h.fresh, List.forall_mem_singleton.mpr ?_⟩
    rw [h.outbox.stored, lookup_foldl_insert_eq_none_iff] at hunstored
    exact hunstored.1

/-- An answer of Firebase Auth: there is one more account, or none, and its callback waits. -/
theorem answered (h : SignUpsAccounted start book s) {index : ℕ} {auth : AuthAnswer}
    (hallowed : AnswersSent s (.answered index auth)) :
    EventAccounted start book s (.answered index auth) := by
  obtain ⟨hindex, hnew⟩ := hallowed
  obtain ⟨form, creating, hanswer, hanswered, hcalled, -, hfollows⟩ :=
    h.requests.answer hindex auth
  obtain ⟨hfewer, hwaiting⟩ := Exchange.length_answer hanswer
  have hregistered : (book.record (.answered index auth)).registered
      = book.registered ++ (registration? (form, auth)).toList := by
    rw [SignUpBook.registered, SignUpBook.record, hanswered, List.filterMap_append]
    cases auth <;> rfl
  have hstep : s.step (.answered index auth)
      = some ({ s with creating }.accountAnswered form auth) := by
    rw [SigningUp.step, hanswer]
    rfl
  -- Neither the screen nor the profiles are concerned: the callback has still to run.
  have hscreen : Foodly.indicators s.screen.subviews = creating.requests.length
      + creating.mainQueue.length + book.ledger.pending.length + book.ledger.accepted.length := by
    rw [h.indicators]
    omega
  refine eventAccounted_of_placed hstep ?_ rfl trivial trivial
  cases auth with
  | failure error =>
    have hsame : (book.record (.answered index (.failure error))).registered = book.registered :=
      hregistered.trans (List.append_nil _)
    exact
      { h with
        requests := hfollows
        accounts := hsame ▸ h.accounts
        distinct := hsame ▸ h.distinct
        fresh := hsame ▸ h.fresh
        profiles := h.profiles.trans (congrArg _ hcalled.symm)
        indicators := hscreen
        networkErrors := h.networkErrors.trans (congrArg _ hcalled.symm) }
  | success uid =>
    obtain ⟨hunregistered, hunstored⟩ := hnew uid rfl
    obtain ⟨hdistinct, hfresh⟩ := h.registered_concat form hunregistered hunstored
    have hone : (book.record (.answered index (.success uid))).registered
        = book.registered ++ [⟨uid, form⟩] := hregistered
    exact
      { h with
        requests := hfollows
        currentUser := rfl
        accounts := by
          rw [hone, List.map_append, ← h.accounts]
          rfl
        distinct := hone ▸ hdistinct
        fresh := hone ▸ hfresh
        profiles := h.profiles.trans (congrArg _ hcalled.symm)
        indicators := hscreen
        networkErrors := h.networkErrors.trans (congrArg _ hcalled.symm) }

/-- The callback of a failure: it is reported. -/
theorem callback_failure (h : SignUpsAccounted start book s) {form : SignUpForm}
    {error : FirestoreError} {creating : Exchange SignUpForm AuthAnswer}
    (hnext : book.requests.next? = some (form, .failure error))
    (hqueue : s.creating.mainQueue = (form, .failure error) :: creating.mainQueue)
    (hcalled : book.requests.callback.called
      = book.requests.called ++ [(form, .failure error)])
    (hfollows : Follows book.requests.callback creating)
    (hstep : s.step .callback = { s with creating }.accountCreated form (.failure error)) :
    EventAccounted start book s .callback := by
  have hrecord : book.record .callback = { book with requests := book.requests.callback } := by
    simp only [SignUpBook.record, hnext]
    rfl
  have hrequests : creating.requests = s.creating.requests :=
    hfollows.requests.trans h.requests.requests.symm
  have hresult : s.callbackResult? = none := by
    rw [SigningUp.callbackResult?, hqueue]
    rfl
  have hsomebody : SomebodySignedIn s .callback := by
    rw [SomebodySignedIn, hresult]
    exact nofun
  have hstill : StillSignedIn s .callback := by
    rw [StillSignedIn, hresult]
    exact nofun
  refine eventAccounted_of_placed hstep ?_ (by rw [hrecord]) hsomebody hstill
  have hnetwork := s.screen.count_createUserHandler false false
  have hdone := s.screen.count_createUserHandler false true
  rw [hrecord]
  exact
    { h with
      requests := hfollows
      profiles := by
        rw [hcalled, List.filterMap_append, h.profiles]
        exact (List.append_nil _).symm
      indicators := by
        show Foodly.indicators (hideIndicator s.screen.subviews) = creating.requests.length
          + creating.mainQueue.length + book.ledger.pending.length + book.ledger.accepted.length
        rw [indicators_hideIndicator, h.indicators, hqueue, hrequests, List.length_cons]
        omega
      networkErrors := by
        rw [hcalled, List.countP_append, ← h.networkErrors]
        exact hnetwork
      successes := hdone.trans h.successes }

/-- The callback of a success: the profile is sent to whoever is signed in. -/
theorem callback_success (h : SignUpsAccounted start book s) {form : SignUpForm} {uid : String}
    {creating : Exchange SignUpForm AuthAnswer}
    (hnext : book.requests.next? = some (form, .success uid))
    (hqueue : s.creating.mainQueue = (form, .success uid) :: creating.mainQueue)
    (hcalled : book.requests.callback.called = book.requests.called ++ [(form, .success uid)])
    (hfollows : Follows book.requests.callback creating)
    (hstep : s.step .callback = { s with creating }.accountCreated form (.success uid)) :
    EventAccounted start book s .callback := by
  have hrequests : creating.requests = s.creating.requests :=
    hfollows.requests.trans h.requests.requests.symm
  have hresult : s.callbackResult? = some uid := by
    rw [SigningUp.callbackResult?, hqueue]
    rfl
  rw [EventAccounted, SomebodySignedIn, StillSignedIn, hresult, hstep]
  rcases Option.eq_none_or_eq_some s.currentUser with huser | ⟨user, huser⟩
  · -- `currentUser!` traps.
    have htrap : ({ s with creating } : SigningUp).accountCreated form (.success uid) = none := by
      simp only [SigningUp.accountCreated, huser]
      rfl
    rw [htrap, huser]
    exact ⟨iff_of_false Bool.false_ne_true fun h => Bool.false_ne_true (h rfl), nofun⟩
  · have hsent : ({ s with creating } : SigningUp).accountCreated form (.success uid)
        = some { s with creating, outbox := s.outbox.send (profileOf user, form.profile) } := by
      simp only [SigningUp.accountCreated, huser]
      rfl
    have hrecord : book.record .callback = { book with
        requests := book.requests.callback
        ledger := book.ledger.place ⟨⟨uid, form⟩, user⟩ } := by
      simp only [SignUpBook.record, hnext, ← h.currentUser, huser]
      rfl
    rw [hsent, hrecord, huser]
    refine ⟨iff_of_true rfl fun _ => rfl, fun t ht => ?_⟩
    obtain rfl := Option.some.inj ht
    constructor
    · exact
        { h with
          requests := hfollows
          currentUser := huser.symm.trans h.currentUser
          profiles := by
            rw [hcalled, List.filterMap_append, ← h.profiles]
            exact List.map_append
          balanced := h.balanced.place _
          outbox := h.outbox.place ⟨⟨uid, form⟩, user⟩
          indicators := by
            show Foodly.indicators s.screen.subviews = creating.requests.length
              + creating.mainQueue.length + (book.ledger.pending ++ [_]).length
              + book.ledger.accepted.length
            rw [h.indicators, hqueue, hrequests, List.length_cons, List.length_append,
              List.length_singleton]
            omega
          networkErrors := by
            rw [hcalled, List.countP_append, ← h.networkErrors]
            rfl }
    · -- The law is about one more profile.
      simp only [SignUpBook.OwnProfiles, Ledger.place, List.forall_mem_append,
        List.forall_mem_singleton, Option.mem_def, Option.some.injEq, forall_eq']

/-- A callback: it is that of the answer that has waited longest. -/
theorem callback (h : SignUpsAccounted start book s) (hallowed : AnswersSent s .callback) :
    EventAccounted start book s .callback := by
  obtain ⟨⟨form, auth⟩, creating, hnext, hcallback, hqueue, hcalled, hfollows⟩ :=
    h.requests.callback hallowed
  have hstep : s.step .callback = { s with creating }.accountCreated form auth := by
    rw [SigningUp.step, hcallback]
    rfl
  cases auth with
  | failure error => exact h.callback_failure hnext hqueue hcalled hfollows hstep
  | success uid => exact h.callback_success hnext hqueue hcalled hfollows hstep

/-- Firestore stores a profile: that is not reported. -/
theorem written_accepted (h : SignUpsAccounted start book s) {index : ℕ} {sent : SentProfile}
    {outbox : Outbox DocumentReference Parameter}
    (hsent : book.ledger.pending[index]? = some sent)
    (houtbox : Replays SentProfile.write start (book.ledger.answer index true) outbox)
    (hanswer : s.outbox.answer index true = some outbox) :
    EventAccounted start book s (.written index none) := by
  have hstep : s.step (.written index none) = some { s with outbox } := by
    simp only [SigningUp.step, Option.isNone_none, hanswer]
    rfl
  have hledger := Ledger.answer_true hsent
  -- The handler is not called, so the indicator of this sign-up stays.
  have hleft : (book.ledger.pending.eraseIdx index).length + 1 = book.ledger.pending.length :=
    List.length_eraseIdx_add_one (List.getElem?_eq_some_iff.mp hsent).1
  refine eventAccounted_of_placed hstep ?_ ?_ trivial trivial
  · exact
      { h with
        profiles := by
          rw [SignUpBook.record, Option.isNone_none, hledger]
          exact h.profiles
        balanced := h.balanced.answer index true
        outbox := houtbox
        indicators := by
          rw [SignUpBook.record, Option.isNone_none, hledger]
          show Foodly.indicators s.screen.subviews = s.creating.requests.length
            + s.creating.mainQueue.length + (book.ledger.pending.eraseIdx index).length
            + (book.ledger.accepted ++ [sent]).length
          rw [h.indicators, List.length_append, List.length_singleton]
          omega
        successes := by
          rw [SignUpBook.record, Option.isNone_none, hledger]
          exact h.successes }
  · rw [SignUpBook.record, Option.isNone_none, hledger]

/-- Firestore refuses a profile: that is reported, as a success. -/
theorem written_rejected (h : SignUpsAccounted start book s) {index : ℕ} {sent : SentProfile}
    {error : FirestoreError} {outbox : Outbox DocumentReference Parameter}
    (hsent : book.ledger.pending[index]? = some sent)
    (houtbox : Replays SentProfile.write start (book.ledger.answer index false) outbox)
    (hanswer : s.outbox.answer index false = some outbox) :
    EventAccounted start book s (.written index (some error)) := by
  have hstep : s.step (.written index (some error))
      = some { s with outbox, screen := s.screen.createUserHandler true } := by
    simp only [SigningUp.step, Option.isNone_some, hanswer]
    rfl
  have hledger := Ledger.answer_false hsent
  have hleft : (book.ledger.pending.eraseIdx index).length + 1 = book.ledger.pending.length :=
    List.length_eraseIdx_add_one (List.getElem?_eq_some_iff.mp hsent).1
  -- The handler is called with success, hides the indicator and presents that alert.
  have hnetwork := s.screen.count_createUserHandler true false
  have hdone := s.screen.count_createUserHandler true true
  refine eventAccounted_of_placed hstep ?_ ?_ trivial trivial
  · exact
      { h with
        profiles := by
          rw [SignUpBook.record, Option.isNone_some, hledger]
          exact h.profiles
        balanced := h.balanced.answer index false
        outbox := houtbox
        indicators := by
          rw [SignUpBook.record, Option.isNone_some, hledger]
          show Foodly.indicators (hideIndicator s.screen.subviews) = s.creating.requests.length
            + s.creating.mainQueue.length + (book.ledger.pending.eraseIdx index).length
            + book.ledger.accepted.length
          rw [indicators_hideIndicator, h.indicators]
          omega
        networkErrors := hnetwork.trans h.networkErrors
        successes := by
          rw [SignUpBook.record, Option.isNone_some, hledger, List.length_append, ← h.successes]
          exact hdone }
  · rw [SignUpBook.record, Option.isNone_some, hledger]

/-- An answer of Firestore to one of the profiles. -/
theorem written (h : SignUpsAccounted start book s) {index : ℕ} {error : Option FirestoreError}
    (hallowed : AnswersSent s (.written index error)) :
    EventAccounted start book s (.written index error) := by
  obtain ⟨sent, outbox, hsent, hanswer, houtbox⟩ := h.outbox.answer hallowed error.isNone
  cases error with
  | none => exact h.written_accepted hsent houtbox hanswer
  | some error => exact h.written_rejected hsent houtbox hanswer

/-- Profiles that have all gone to their own accounts do not meet: each is pending, stored or
    refused. -/
theorem tracks (h : SignUpsAccounted start book s) (hown : book.OwnProfiles) :
    Tracks SentProfile.write start book.ledger s.outbox := by
  have hreceivers : book.ledger.placed.map SentProfile.receiver
      = (book.requests.called.filterMap registration?).map Registration.uid := by
    rw [← h.profiles, List.map_map]
    exact List.map_congr_left hown
  have hcalled : book.requests.called <+: book.requests.answered := by
    rw [h.requests.answered]
    exact List.prefix_append _ _
  -- Profiles of different accounts, as long as each goes to its own.
  have hearlier := hcalled.filterMap registration?
  have hdistinct : (book.ledger.placed.map SentProfile.receiver).Nodup := by
    rw [hreceivers]
    exact h.distinct.sublist (hearlier.sublist.map Registration.uid)
  have hinjective : Function.Injective profileOf := fun uid uid' heq =>
    congrArg DocumentReference.documentID heq
  apply h.outbox.tracks
  · rw [List.map_map]
    have hkeys := (h.balanced.nodup_kept hdistinct).map hinjective
    rwa [List.map_map] at hkeys
  · -- None of the new accounts had a document at the start.
    intro key hkey
    obtain ⟨write, hwrite, rfl⟩ := List.mem_map.mp hkey
    obtain ⟨sent, hsent, rfl⟩ := List.mem_map.mp hwrite
    have hmem : sent.receiver ∈ (book.requests.called.filterMap registration?).map
        Registration.uid := hreceivers ▸ List.mem_map_of_mem (h.balanced.mem_placed hsent)
    obtain ⟨registration, hregistration, huid⟩ := List.mem_map.mp hmem
    show start.lookup (profileOf sent.receiver) = none
    rw [← huid]
    exact h.fresh registration (hearlier.subset hregistration)

end SignUpsAccounted

/-! ### Runs -/

/-- **Every sign-up is accounted for.**  From any database, in any run in which only what was sent
    is answered and new accounts have ids of their own: nothing traps exactly when no callback that
    sends a profile runs while nobody is signed in.  Then the accounts are those that Firebase Auth
    created, and the profiles, the alerts and the indicators are as `SignUpsAccounted` says; and
    every profile has gone to its own account exactly when each of these callbacks ran while its
    account was still the current user, so that each profile is pending, stored or refused. -/
theorem sign_ups_accounted_for (start : Database) (events : List SigningUpEvent)
    (hevents : Allowed SigningUp.step AnswersSent { outbox := { stored := start } } events) :
    let s : SigningUp := { outbox := { stored := start } }
    let book := events.foldl SignUpBook.record {}
    ((run SigningUp.step s events).isSome = true ↔
        Allowed SigningUp.step SomebodySignedIn s events) ∧
      ∀ t ∈ run SigningUp.step s events, SignUpsAccounted start book t ∧
        (book.OwnProfiles ↔ Guarded SigningUp.step StillSignedIn s events) ∧
        (book.OwnProfiles → Tracks SentProfile.write start book.ledger t.outbox) := by
  intro s book
  have hstart : SignUpsAccounted start {} s :=
    { requests := Follows.empty
      currentUser := rfl
      accounts := rfl
      distinct := List.nodup_nil
      fresh := nofun
      profiles := rfl
      balanced := Ledger.balanced_empty
      outbox := Replays.empty SentProfile.write start
      indicators := rfl
      networkErrors := rfl
      successes := rfl }
  have hnone : ({} : SignUpBook).OwnProfiles := nofun
  have hstep (book : SignUpBook) (s : SigningUp) (event : SigningUpEvent)
      (h : SignUpsAccounted start book s) (hallowed : AnswersSent s event) :
      EventAccounted start book s event := by
    -- What is known of the screen is kept when the user changes behind its back.
    cases event with
    | getStartedButton form => exact h.getStartedButton form
    | answered index auth => exact h.answered hallowed
    | callback => exact h.callback hallowed
    | written index error => exact h.written hallowed
    | currentUserChanged user =>
      exact eventAccounted_of_placed rfl { h with currentUser := rfl } rfl trivial trivial
  obtain ⟨htrap, hends⟩ := run_simulates_iff hstep hstart hevents
  refine ⟨htrap, fun t ht => ?_⟩
  obtain ⟨haccounted, hlaw⟩ := hends t ht
  exact ⟨haccounted, hlaw.trans (and_iff_right hnone), haccounted.tracks⟩

/-- Two sign-ups are answered before the first callback runs: both profiles are sent to the second
    account, and the first account has none. -/
theorem sign_ups_accounted_for_two :
    let ada : SignUpForm :=
      { fullNameTextField := "Ada Obi", emailTextField := "ada@foodly.ng",
        passwordTextField := "Passw0rd!" }
    let events : List SigningUpEvent :=
      [.getStartedButton ada, .getStartedButton { ada with emailTextField := "obi@foodly.ng" },
        .answered 0 (.success "ada"), .answered 0 (.success "obi"), .callback, .callback,
        .written 0 (some "unavailable"), .written 0 none]
    let book := events.foldl SignUpBook.record {}
    ∃ t, run SigningUp.step { outbox := { stored := ∅ } } events = some t ∧
      SignUpsAccounted ∅ book t ∧ ¬book.OwnProfiles := by
  intro ada events book
  have hevents : Allowed SigningUp.step AnswersSent { outbox := { stored := ∅ } } events := by
    decide +kernel
  have hmixed : ¬Guarded SigningUp.step StillSignedIn { outbox := { stored := ∅ } } events := by
    decide +kernel
  have hends := (sign_ups_accounted_for ∅ events hevents).2 _ rfl
  exact ⟨_, rfl, hends.1, fun hown => hmixed (hends.2.1.mp hown)⟩

end Foodly
