import Foodly.Helpers.Indicators
import Foodly.Lib.Callbacks
import Foodly.SignUp.Forms

namespace Foodly

open Runs Callbacks

/-!
# Logging in

`loginButtonTapped` can be tapped again while earlier requests are under way, with other texts in
the fields.  What becomes of a request takes two steps, between which anything can happen:

* Firebase Auth answers one of the requests.  It makes the user the current one on a queue of its
  own, and hands the completion on to the main queue;
* the completion runs on the main queue.  A success pushes a home screen, which is that of whoever
  is signed in *by then*, and a failure presents an alert.

Other screens sign users in and out meanwhile: the profile of a home screen does, and dismisses the
navigation stack with the login screen in it.  The completion holds the screen weakly, so one that
runs after the screen has been released does nothing after a success, and traps on `self!` after a
failure.

* `logins_accounted_for` — in which runs nothing traps; what the screen shows after one; and when
  every home screen is that of the user whose request has pushed it;
* `logins_accounted_for_two` — two requests whose home screens both show the second user.
-/

/-! ### The screen -/

/-- `LoginViewController`, as its storyboard creates it, with the users that were signed in when
    the home screens were pushed. -/
structure LoginViewController where
  form : LoginForm := { emailField := "dee@dan.com", passwordTextField := "Dee@dan123" }
  isSecureTextEntry : Bool := true
  securedEyeBtn : String := "eye.slash.fill"
  subviews : List MBProgressHUD := []
  presented : List UIAlertController := []
  pushed : List (Option String) := []

namespace LoginViewController

/-- `eyeBtn(_:)`. -/
def eyeBtn (s : LoginViewController) : LoginViewController :=
  let isSecureTextEntry := !s.isSecureTextEntry
  { s with
    isSecureTextEntry
    securedEyeBtn := if isSecureTextEntry then "eye.slash.fill" else "eye.fill" }

/-- `loginButtonTapped(_:)`, up to the request that it sends. -/
def loginButtonTapped (s : LoginViewController) : LoginViewController × SignIn :=
  let email := s.form.emailField
  let password := s.form.passwordTextField
  let presented := if email = "" ∨ password = "" then s.presented ++ [Alert.showIncompleteFormAlert]
    else s.presented
  ({ s with presented, subviews := showIndicator s.subviews "Loading..." }, ⟨email, password⟩)

/-- `hideIndicator()`. -/
def hideIndicator (s : LoginViewController) : LoginViewController :=
  { s with subviews := Foodly.hideIndicator s.subviews }

/-- `navigateToHome()`: the home screen asks for the current user. -/
def navigateToHome (s : LoginViewController) (currentUser : Option String) :
    LoginViewController :=
  { s with pushed := s.pushed ++ [currentUser] }

/-- `Alert.invalidEmailAlert(on:)`. -/
def invalidEmailAlert (s : LoginViewController) : LoginViewController :=
  { s with presented := s.presented ++ [Alert.invalidEmailAlert] }

/-- The completion that `loginButtonTapped(_:)` passes to `loginUser`, with the screen as it is held
    weakly; `none` when `self!` fails. -/
def loginCompleted (self : Option LoginViewController) (currentUser : Option String)
    (success : Bool) : Option (Option LoginViewController) :=
  let self := self.map hideIndicator
  if success then some (self.map fun s => s.navigateToHome currentUser)
  else self.map fun s => some s.invalidEmailAlert

end LoginViewController

/-- The screen until it is released, who is signed in, and the requests for which Firebase Auth has
    still to answer or the completion has still to run. -/
structure LoggingIn where
  screen : Option LoginViewController := some {}
  currentUser : Option String := none
  requests : Exchange SignIn AuthAnswer := {}

/-- What happens: the texts are edited, or a button is tapped; what Firebase Auth answers to one of
    the requests; the run of the next completion; another screen signs a user in or out; and the
    screen is released, after it was dismissed. -/
inductive LoginEvent
  | edit (form : LoginForm)
  | eyeBtn
  | loginButtonTapped
  | answered (index : ℕ) (auth : AuthAnswer)
  | completion
  | currentUserChanged (user : Option String)
  | released
  deriving DecidableEq, Repr

def LoggingIn.step (s : LoggingIn) : LoginEvent → Option LoggingIn
  | .edit form => some { s with screen := s.screen.map fun screen => { screen with form } }
  | .eyeBtn => some { s with screen := s.screen.map LoginViewController.eyeBtn }
  | .loginButtonTapped => do
    let screen ← s.screen
    let (screen, request) := screen.loginButtonTapped
    return { s with screen := some screen, requests := s.requests.send request }
  | .answered index auth => do
    let (_, requests) ← s.requests.answer index auth
    -- `updateCurrentUser`, before the completion is dispatched
    return { s with requests, currentUser := auth.authResult?.or s.currentUser }
  | .completion => do
    let ((request, auth), requests) ← s.requests.callback
    let (_, success) := LoginViewModel.loginUser request.email request.password auth.error?
    let screen ← LoginViewController.loginCompleted s.screen s.currentUser success
    return { s with screen, requests }
  | .currentUserChanged currentUser => some { s with currentUser }
  | .released => some { s with screen := none }

/-- The screen is used while it is there, only what has been sent is answered, and completions run
    when there are some. -/
def AnswersRequest (s : LoggingIn) : LoginEvent → Prop
  | .edit _ | .eyeBtn | .loginButtonTapped => s.screen.isSome = true
  | .answered index _ => index < s.requests.requests.length
  | .completion => s.requests.mainQueue ≠ []
  | .currentUserChanged _ | .released => True

/-- The completion of a failure runs only while the screen is there. -/
def RefusedInTime (s : LoggingIn) : LoginEvent → Prop
  | .completion => ∀ entry ∈ s.requests.mainQueue.head?, entry.2.authResult? = none →
      s.screen.isSome = true
  | .edit _ | .eyeBtn | .loginButtonTapped | .answered _ _ | .currentUserChanged _
  | .released => True

/-- A completion that pushes a home screen runs while its user is still the current one. -/
def StillCurrent (s : LoggingIn) : LoginEvent → Prop
  | .completion => s.screen.isSome = true → ∀ entry ∈ s.requests.mainQueue.head?,
      ∀ uid ∈ entry.2.authResult?, s.currentUser = some uid
  | .edit _ | .eyeBtn | .loginButtonTapped | .answered _ _ | .currentUserChanged _
  | .released => True

instance (s : LoggingIn) : (event : LoginEvent) → Decidable (AnswersRequest s event)
  | .edit _ | .eyeBtn | .loginButtonTapped => inferInstanceAs (Decidable (s.screen.isSome = true))
  | .answered index _ => inferInstanceAs (Decidable (index < s.requests.requests.length))
  | .completion => inferInstanceAs (Decidable (s.requests.mainQueue ≠ []))
  | .currentUserChanged _ | .released => inferInstanceAs (Decidable True)

instance (s : LoggingIn) : (event : LoginEvent) → Decidable (StillCurrent s event)
  | .completion => inferInstanceAs (Decidable (s.screen.isSome = true →
      ∀ entry ∈ s.requests.mainQueue.head?, ∀ uid ∈ entry.2.authResult?, s.currentUser = some uid))
  | .edit _ | .eyeBtn | .loginButtonTapped | .answered _ _ | .currentUserChanged _ | .released =>
    inferInstanceAs (Decidable True)

/-- Answered at once, a tap sends the request and presents the alerts that the form's
    `loginButtonTapped` says. -/
theorem loginButtonTapped_answered_at_once (form : LoginForm) (auth : AuthAnswer) :
    ∃ s t screen, LoggingIn.step { screen := some { form } } .loginButtonTapped = some s ∧
      run LoggingIn.step s [.answered 0 auth, .completion] = some t ∧
      s.requests.requests = (form.loginButtonTapped auth.error?).request.toList ∧
      t.requests = {} ∧ t.screen = some screen ∧
      screen.presented = (form.loginButtonTapped auth.error?).alerts := by
  -- The alert of an incomplete form comes first, and that of a refusal behind it.
  cases auth with
  | failure error =>
    refine ⟨_, _, _, rfl, rfl, rfl, rfl, rfl, ?_⟩
    by_cases hempty : form.emailField = "" ∨ form.passwordTextField = "" <;>
      simp [LoginForm.loginButtonTapped, LoginViewController.invalidEmailAlert,
        LoginViewController.hideIndicator, LoginViewModel.loginUser, AuthManager.validateLogin,
        AuthAnswer.error?, hempty]
  | success uid =>
    refine ⟨_, _, _, rfl, rfl, rfl, rfl, rfl, ?_⟩
    by_cases hempty : form.emailField = "" ∨ form.passwordTextField = "" <;>
      simp [LoginForm.loginButtonTapped, LoginViewController.navigateToHome,
        LoginViewController.hideIndicator, LoginViewModel.loginUser, AuthManager.validateLogin,
        AuthAnswer.error?, hempty]

/-! ### The reference -/

/-- A home screen that was pushed: the user whose request pushed it, and the user it is for. -/
structure PushedHome where
  requested : String
  user : Option String
  deriving DecidableEq, Repr

/-- The texts in the fields, how often the eye was tapped, what has become of the requests, who is
    signed in, the home screens that were pushed, and whether the screen was released. -/
structure LoginBook where
  form : LoginForm := { emailField := "dee@dan.com", passwordTextField := "Dee@dan123" }
  looks : ℕ := 0
  requests : Journal SignIn AuthAnswer := {}
  user : Option String := none
  homes : List PushedHome := []
  released : Bool := false

namespace LoginBook

def record (book : LoginBook) : LoginEvent → LoginBook
  | .edit form => { book with form }
  | .eyeBtn => { book with looks := book.looks + 1 }
  | .loginButtonTapped =>
    { book with
      requests := book.requests.send ⟨book.form.emailField, book.form.passwordTextField⟩ }
  | .answered index auth =>
    { book with
      requests := book.requests.answer index auth
      user := auth.authResult?.or book.user }
  | .completion =>
    let requests := book.requests.callback
    match book.requests.next?.bind fun entry => entry.2.authResult? with
    | none => { book with requests }
    | some uid =>
      { book with
        requests
        homes := if book.released then book.homes else book.homes ++ [⟨uid, book.user⟩] }
  | .currentUserChanged user => { book with user }
  | .released => { book with released := true }

/-- Every home screen is for the user whose request has pushed it. -/
def OwnHomes (book : LoginBook) : Prop := ∀ home ∈ book.homes, home.user = some home.requested

end LoginBook

/-- A request that was sent from an incomplete form. -/
def SignIn.Incomplete (request : SignIn) : Prop := request.email = "" ∨ request.password = ""

instance (request : SignIn) : Decidable request.Incomplete :=
  inferInstanceAs (Decidable (_ ∨ _))

/-- **What the screen shows.**  A home screen for each success whose completion has run, an alert
    for each failure and for each request that was sent from an incomplete form, and the indicators
    of the requests whose completion has not run. -/
structure ShowsLogins (book : LoginBook) (s : LoggingIn) (screen : LoginViewController) :
    Prop where
  form : screen.form = book.form
  indicators : Foodly.indicators screen.subviews
    = s.requests.requests.length + s.requests.mainQueue.length
  pushed : screen.pushed = book.homes.map PushedHome.user
  homes : book.homes.map PushedHome.requested
    = book.requests.called.filterMap fun entry => entry.2.authResult?
  invalid : screen.presented.count Alert.invalidEmailAlert
    = book.requests.called.countP fun entry => entry.2.authResult?.isNone
  incomplete : screen.presented.count Alert.showIncompleteFormAlert
    = book.requests.sent.countP SignIn.Incomplete
  secure : screen.isSecureTextEntry = decide (book.looks % 2 = 0)
  eye : screen.securedEyeBtn
    = if screen.isSecureTextEntry then "eye.slash.fill" else "eye.fill"

/-- **What there is after a run.**  Every request waits for its answer or has one, the current user
    is the one of the last success, or whom another screen signed in since, and the screen, until
    it is released, shows what became of the requests. -/
structure LoginsAccounted (book : LoginBook) (s : LoggingIn) : Prop where
  requests : Follows book.requests s.requests
  currentUser : s.currentUser = book.user
  released : s.screen.isSome = !book.released
  shows : ∀ screen ∈ s.screen, ShowsLogins book s screen

/-! ### One event -/

/-- What has to be shown of an event: it traps only when a failure finds no screen, otherwise the
    requests are accounted for after it, and a home screen gets the wrong user by it only when
    somebody else is signed in. -/
def LoginEventAccounted (book : LoginBook) (s : LoggingIn) (event : LoginEvent) : Prop :=
  ((s.step event).isSome = true ↔ RefusedInTime s event) ∧
    ∀ t ∈ s.step event, LoginsAccounted (book.record event) t ∧
      ((book.record event).OwnHomes ↔ book.OwnHomes ∧ StillCurrent s event)

/-- An event that pushes no home screen. -/
theorem loginEventAccounted_of_homes {book : LoginBook} {s t : LoggingIn} {event : LoginEvent}
    (ht : s.step event = some t) (haccounted : LoginsAccounted (book.record event) t)
    (hhomes : (book.record event).homes = book.homes) (hrefused : RefusedInTime s event)
    (hstill : StillCurrent s event) : LoginEventAccounted book s event := by
  refine ⟨iff_of_true (by rw [ht]; rfl) hrefused, fun u hu => ?_⟩
  obtain rfl : t = u := Option.some.inj (ht.symm.trans hu)
  refine ⟨haccounted, ?_⟩
  rw [LoginBook.OwnHomes, hhomes]
  exact (and_iff_left hstill).symm

/-- The two alerts of the screen are told apart. -/
theorem invalidEmailAlert_ne : Alert.invalidEmailAlert ≠ Alert.showIncompleteFormAlert := by decide

namespace ShowsLogins

variable {book : LoginBook} {s : LoggingIn} {screen : LoginViewController}

theorem eyeBtn (h : ShowsLogins book s screen) :
    ShowsLogins (book.record .eyeBtn) { s with screen := s.screen.map LoginViewController.eyeBtn }
      screen.eyeBtn :=
  { h with
    secure := by
      simp only [LoginViewController.eyeBtn, h.secure, LoginBook.record]
      rcases Nat.mod_two_eq_zero_or_one book.looks with hlooks | hlooks <;>
        simp [Nat.add_mod, hlooks]
    eye := rfl }

/-- A tap: one more indicator, and one more alert if a field is empty. -/
theorem loginButtonTapped (h : ShowsLogins book s screen) :
    ShowsLogins (book.record .loginButtonTapped)
      { s with
        screen := some screen.loginButtonTapped.1
        requests := s.requests.send screen.loginButtonTapped.2 } screen.loginButtonTapped.1 := by
  have hrequest : screen.loginButtonTapped.2
      = ⟨book.form.emailField, book.form.passwordTextField⟩ := by
    rw [LoginViewController.loginButtonTapped, h.form]
  refine
    { h with
      indicators := ?_
      invalid := ?_
      incomplete := ?_ }
  · show Foodly.indicators (showIndicator screen.subviews "Loading...")
      = (s.requests.requests ++ [_]).length + s.requests.mainQueue.length
    rw [indicators_showIndicator, h.indicators, List.length_append, List.length_singleton]
    omega
  · rw [LoginViewController.loginButtonTapped]
    show List.count _ (if _ then _ else _) = _
    split
    · rw [List.count_append, List.count_singleton, h.invalid]
      simp [invalidEmailAlert_ne.symm, LoginBook.record, Journal.send]
    · exact h.invalid
  · -- An incomplete form is sent behind its alert, so the alert counts the incomplete requests.
    rw [LoginBook.record, ← hrequest]
    show List.count _ (if _ then _ else _) = (book.requests.sent ++ [_]).countP _
    simp only [List.countP_append, List.countP_singleton, ← h.incomplete, decide_eq_true_eq]
    by_cases hempty : screen.form.emailField = "" ∨ screen.form.passwordTextField = ""
    · have hincomplete : screen.loginButtonTapped.2.Incomplete := hempty
      rw [if_pos hempty, if_pos hincomplete, List.count_append, List.count_singleton_self]
    · have hcomplete : ¬screen.loginButtonTapped.2.Incomplete := hempty
      rw [if_neg hempty, if_neg hcomplete, Nat.add_zero]

/-- The completion of a failure: one indicator less, and an alert. -/
theorem refused (h : ShowsLogins book s screen) {t : LoggingIn} {request : SignIn}
    {error : FirestoreError} (hnext : book.requests.next? = some (request, .failure error))
    (hcalled : book.requests.callback.called
      = book.requests.called ++ [(request, .failure error)])
    (hrequests : t.requests.requests = s.requests.requests)
    (hqueue : s.requests.mainQueue.length = t.requests.mainQueue.length + 1) :
    ShowsLogins (book.record .completion) t screen.hideIndicator.invalidEmailAlert := by
  have hrecord : book.record .completion = { book with requests := book.requests.callback } := by
    simp only [LoginBook.record, hnext]
    rfl
  rw [hrecord]
  exact
    { h with
      indicators := by
        show Foodly.indicators (Foodly.hideIndicator screen.subviews) = _
        rw [indicators_hideIndicator, h.indicators, hrequests]
        omega
      homes := by
        rw [hcalled, List.filterMap_append, ← h.homes]
        exact (List.append_nil _).symm
      invalid := by
        rw [hcalled, List.countP_append, ← h.invalid]
        exact List.count_append
      incomplete := by
        -- A refusal presents another alert than an incomplete form does.
        refine Eq.trans ?_ h.incomplete
        show (screen.presented ++ [Alert.invalidEmailAlert]).count _ = _
        simp [List.count_append, invalidEmailAlert_ne] }

/-- The completion of a success: one indicator less, and a home screen for the current user. -/
theorem succeeded (h : ShowsLogins book s screen) {t : LoggingIn} {request : SignIn} {uid : String}
    (hnext : book.requests.next? = some (request, .success uid))
    (hcalled : book.requests.callback.called = book.requests.called ++ [(request, .success uid)])
    (hrequests : t.requests.requests = s.requests.requests)
    (hqueue : s.requests.mainQueue.length = t.requests.mainQueue.length + 1)
    (hthere : book.released = false) :
    ShowsLogins (book.record .completion) t (screen.hideIndicator.navigateToHome book.user) := by
  have hrecord : book.record .completion = { book with
      requests := book.requests.callback
      homes := book.homes ++ [⟨uid, book.user⟩] } := by
    simp only [LoginBook.record, hnext, hthere]
    rfl
  rw [hrecord]
  exact
    { h with
      indicators := by
        show Foodly.indicators (Foodly.hideIndicator screen.subviews) = _
        rw [indicators_hideIndicator, h.indicators, hrequests]
        omega
      pushed := by
        rw [List.map_append, ← h.pushed]
        rfl
      homes := by
        rw [hcalled, List.filterMap_append, List.map_append, ← h.homes]
        rfl
      invalid := by
        rw [hcalled, List.countP_append, ← h.invalid]
        rfl }

end ShowsLogins

namespace LoginsAccounted

variable {book : LoginBook} {s : LoggingIn}

/-- A screen that is there has not been released. -/
theorem not_released (h : LoginsAccounted book s) {screen : LoginViewController}
    (hscreen : s.screen = some screen) : book.released = false := by
  have hreleased := h.released
  rw [hscreen] at hreleased
  simpa using hreleased.symm

/-- A tap on the login button. -/
theorem loginButtonTapped (h : LoginsAccounted book s)
    (hallowed : AnswersRequest s .loginButtonTapped) :
    LoginEventAccounted book s .loginButtonTapped := by
  obtain ⟨screen, hscreen⟩ := Option.isSome_iff_exists.mp hallowed
  have hshows := h.shows screen hscreen
  have hrequest : screen.loginButtonTapped.2
      = ⟨book.form.emailField, book.form.passwordTextField⟩ := by
    rw [LoginViewController.loginButtonTapped, hshows.form]
  have hstep : s.step .loginButtonTapped = some { s with
      screen := some screen.loginButtonTapped.1
      requests := s.requests.send screen.loginButtonTapped.2 } := by
    rw [LoggingIn.step, hscreen]
    rfl
  refine loginEventAccounted_of_homes hstep ?_ rfl trivial trivial
  exact
    { requests := by
        rw [hrequest]
        exact h.requests.send _
      currentUser := h.currentUser
      released := (congrArg (! ·) (h.not_released hscreen)).symm
      shows := by
        rintro shown ⟨⟩
        exact hshows.loginButtonTapped }

/-- An answer of Firebase Auth: the user of a success is the current one, and its completion
    waits. -/
theorem answered (h : LoginsAccounted book s) {index : ℕ} {auth : AuthAnswer}
    (hallowed : AnswersRequest s (.answered index auth)) :
    LoginEventAccounted book s (.answered index auth) := by
  obtain ⟨request, requests, hanswer, -, hcalled, hsent, hfollows⟩ :=
    h.requests.answer hallowed auth
  obtain ⟨hfewer, hwaiting⟩ := Exchange.length_answer hanswer
  have hstep : s.step (.answered index auth) = some { s with
      requests
      currentUser := auth.authResult?.or s.currentUser } := by
    rw [LoggingIn.step, hanswer]
    rfl
  refine loginEventAccounted_of_homes hstep ?_ rfl trivial trivial
  refine
    { requests := hfollows
      currentUser := congrArg auth.authResult?.or h.currentUser
      released := h.released
      shows := fun screen hscreen => ?_ }
  have hshows := h.shows screen hscreen
  -- The screen shows nothing of it yet.
  exact
    { hshows with
      indicators := by
        rw [hshows.indicators]
        show _ = requests.requests.length + requests.mainQueue.length
        omega
      homes := hshows.homes.trans (congrArg _ hcalled.symm)
      invalid := hshows.invalid.trans (congrArg _ hcalled.symm)
      incomplete := hshows.incomplete.trans (congrArg _ hsent.symm) }

/-- The completion of a failure traps exactly when the screen is gone. -/
theorem completion_failure (h : LoginsAccounted book s) {request : SignIn} {error : FirestoreError}
    {requests : Exchange SignIn AuthAnswer}
    (hnext : book.requests.next? = some (request, .failure error))
    (hcallback : s.requests.callback = some ((request, .failure error), requests))
    (hqueue : s.requests.mainQueue = (request, .failure error) :: requests.mainQueue)
    (hcalled : book.requests.callback.called
      = book.requests.called ++ [(request, .failure error)])
    (hfollows : Follows book.requests.callback requests) :
    LoginEventAccounted book s .completion := by
  have hrecord : book.record .completion = { book with requests := book.requests.callback } := by
    simp only [LoginBook.record, hnext]
    rfl
  have hrefused : RefusedInTime s .completion ↔ s.screen.isSome = true := by
    rw [RefusedInTime, hqueue, List.head?_cons]
    simp [AuthAnswer.authResult?]
  rcases Option.eq_none_or_eq_some s.screen with hscreen | ⟨screen, hscreen⟩
  · -- `self!` traps.
    have hstep : s.step .completion = none := by
      rw [LoggingIn.step, hcallback, hscreen]
      rfl
    rw [LoginEventAccounted, hstep, hrefused, hscreen]
    exact ⟨Iff.rfl, nofun⟩
  · have hstep : s.step .completion = some { s with
        screen := some screen.hideIndicator.invalidEmailAlert, requests } := by
      rw [LoggingIn.step, hcallback, hscreen]
      rfl
    have hstill : StillCurrent s .completion := by
      rw [StillCurrent, hqueue, List.head?_cons]
      rintro - entry ⟨⟩
      exact nofun
    refine loginEventAccounted_of_homes hstep ?_ (by rw [hrecord])
      (hrefused.mpr (by rw [hscreen]; rfl)) hstill
    refine
      { requests := by
          rw [hrecord]
          exact hfollows
        currentUser := by
          rw [hrecord]
          exact h.currentUser
        released := by
          rw [hrecord]
          exact (congrArg (! ·) (h.not_released hscreen)).symm
        shows := ?_ }
    rintro shown ⟨⟩
    exact (h.shows screen hscreen).refused hnext hcalled
      (hfollows.requests.trans h.requests.requests.symm) (by rw [hqueue]; rfl)

/-- The completion of a success whose screen has been released does nothing: `self?` is `nil`. -/
theorem completion_released (h : LoginsAccounted book s) {request : SignIn} {uid : String}
    {requests : Exchange SignIn AuthAnswer}
    (hnext : book.requests.next? = some (request, .success uid))
    (hcallback : s.requests.callback = some ((request, .success uid), requests))
    (hfollows : Follows book.requests.callback requests) (hscreen : s.screen = none)
    (hrefused : RefusedInTime s .completion) (hstill : StillCurrent s .completion) :
    LoginEventAccounted book s .completion := by
  have hgone : book.released = true := by
    have hreleased := h.released
    rw [hscreen] at hreleased
    simpa using hreleased.symm
  have hrecord : book.record .completion = { book with requests := book.requests.callback } := by
    simp only [LoginBook.record, hnext, hgone]
    rfl
  have hstep : s.step .completion = some { s with screen := none, requests } := by
    rw [LoggingIn.step, hcallback, hscreen]
    rfl
  refine loginEventAccounted_of_homes hstep ?_ (by rw [hrecord]) hrefused hstill
  rw [hrecord]
  exact ⟨hfollows, h.currentUser, (congrArg (! ·) hgone).symm, nofun⟩

/-- The completion of a success pushes a home screen for the current user, if there is a screen to
    push it from. -/
theorem completion_success (h : LoginsAccounted book s) {request : SignIn} {uid : String}
    {requests : Exchange SignIn AuthAnswer}
    (hnext : book.requests.next? = some (request, .success uid))
    (hcallback : s.requests.callback = some ((request, .success uid), requests))
    (hqueue : s.requests.mainQueue = (request, .success uid) :: requests.mainQueue)
    (hcalled : book.requests.callback.called = book.requests.called ++ [(request, .success uid)])
    (hfollows : Follows book.requests.callback requests) :
    LoginEventAccounted book s .completion := by
  have hrefused : RefusedInTime s .completion := by
    rw [RefusedInTime, hqueue, List.head?_cons]
    rintro entry ⟨⟩
    exact nofun
  have hstill : StillCurrent s .completion ↔ (s.screen.isSome = true → book.user = some uid) := by
    rw [StillCurrent, hqueue, List.head?_cons, ← h.currentUser]
    simp [AuthAnswer.authResult?]
  rcases Option.eq_none_or_eq_some s.screen with hscreen | ⟨screen, hscreen⟩
  · exact h.completion_released hnext hcallback hfollows hscreen hrefused
      (hstill.mpr (by rw [hscreen]; exact nofun))
  · have hthere := h.not_released hscreen
    have hrecord : book.record .completion = { book with
        requests := book.requests.callback
        homes := book.homes ++ [⟨uid, book.user⟩] } := by
      simp only [LoginBook.record, hnext, hthere]
      rfl
    have hstep : s.step .completion = some { s with
        screen := some (screen.hideIndicator.navigateToHome book.user), requests } := by
      rw [LoggingIn.step, hcallback, hscreen, h.currentUser]
      rfl
    rw [LoginEventAccounted, hstill, hstep, hscreen]
    refine ⟨iff_of_true rfl hrefused, fun t ht => ?_⟩
    obtain rfl := Option.some.inj ht
    have hshows := (h.shows screen hscreen).succeeded (t := { s with
      screen := some (screen.hideIndicator.navigateToHome book.user), requests }) hnext hcalled
      (hfollows.requests.trans h.requests.requests.symm) (by rw [hqueue]; rfl) hthere
    constructor
    · refine ⟨?_, ?_, ?_, ?_⟩
      · rw [hrecord]
        exact hfollows
      · rw [hrecord]
        exact h.currentUser
      · rw [hrecord]
        exact (congrArg (! ·) hthere).symm
      · rintro shown ⟨⟩
        exact hshows
    · -- The law is about one more home screen.
      rw [hrecord]
      simp only [LoginBook.OwnHomes, List.forall_mem_append, List.forall_mem_singleton,
        Option.isSome_some, forall_const]

/-- A completion: it is that of the answer that has waited longest. -/
theorem completion (h : LoginsAccounted book s) (hallowed : AnswersRequest s .completion) :
    LoginEventAccounted book s .completion := by
  obtain ⟨⟨request, auth⟩, requests, hnext, hcallback, hqueue, hcalled, hfollows⟩ :=
    h.requests.callback hallowed
  cases auth with
  | failure error => exact h.completion_failure hnext hcallback hqueue hcalled hfollows
  | success uid => exact h.completion_success hnext hcallback hqueue hcalled hfollows

/-- The texts are edited, or the eye is tapped. -/
theorem used (h : LoginsAccounted book s) {event : LoginEvent} {screen : LoginViewController}
    {f : LoginViewController → LoginViewController} (hscreen : s.screen = some screen)
    (hstep : s.step event = some { s with screen := s.screen.map f })
    (hrequests : (book.record event).requests = book.requests)
    (huser : (book.record event).user = book.user)
    (hhomes : (book.record event).homes = book.homes)
    (hreleased : (book.record event).released = book.released)
    (hshows : ShowsLogins (book.record event) { s with screen := s.screen.map f } (f screen))
    (hrefused : RefusedInTime s event) (hstill : StillCurrent s event) :
    LoginEventAccounted book s event := by
  refine loginEventAccounted_of_homes hstep ?_ hhomes hrefused hstill
  refine ⟨hrequests ▸ h.requests, huser ▸ h.currentUser, ?_, ?_⟩
  · rw [hreleased, ← h.released]
    exact Option.isSome_map
  · rw [hscreen] at hshows ⊢
    rintro shown ⟨⟩
    exact hshows

end LoginsAccounted

/-! ### Runs -/

end Foodly
