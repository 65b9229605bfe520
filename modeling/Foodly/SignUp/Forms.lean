import Foodly.Helpers.Alerts
import Foodly.Helpers.SignUpValidation
import Foodly.SignUp.CreateUser

namespace Foodly

open Swift

/-!
# The forms for signing up and logging in

Both forms check their texts and present an alert for every check that fails, but no check ends
the action: `validateTextField` returns `true` in every case and `loginButtonTapped` goes on
behind its alert.

* `SignUpForm`, `LoginForm` — the texts of the two forms;
* `alertIf`, `validateTextField` — the checks of the sign-up form, in order, with their alerts;
* `getStartedButton`, `loginButtonTapped` — the two taps: the request that is sent to Firebase Auth
  and the alerts that are presented (`Submission`), given what Firebase answers;
* `SignUpForm.Valid`, `LoginForm.Valid` — what the forms ask for;
* `validateTextField_alerts` — the alerts do report every invalid form;
* `requests_checked_iff` — a request is sent exactly when the form is valid, for the valid forms
  only; for the others the alerts say so and the request is sent all the same.
-/

/-! ### Signing up -/

/-- The texts of the sign-up form. -/
structure SignUpForm where
  fullNameTextField : String := ""
  emailTextField : String := ""
  passwordTextField : String := ""
  deriving DecidableEq, Repr

/-- What a tap on the button of a form leads to: the request that is sent to Firebase Auth, and
    the alerts presented, in order. -/
structure Submission (Request : Type) where
  request : Option Request
  alerts : List UIAlertController
  deriving DecidableEq, Repr

namespace SignUpForm

/-- One check of `validateTextField`: the alert when it fails. -/
def alertIf (fails : Bool) (message : String) : List UIAlertController :=
  if fails then [alertTextFields message] else []

/-- `validateTextField()`: the result, and the alerts presented. -/
def validateTextField (form : SignUpForm) : Bool × List UIAlertController :=
  let fullname := trimmingWhitespaces form.fullNameTextField
  let alerts :=
    alertIf (form.fullNameTextField == "") Constant.fullnameAlertMSG ++
    alertIf (!hasWhiteSpace fullname) Constant.fullNameCheckAlert ++
    alertIf (form.emailTextField == "") Constant.emailAlertMSG ++
    alertIf (form.emailTextField != "" && !isValidEmail form.emailTextField)
      Constant.invalidEmailAlertMSG ++
    alertIf (form.passwordTextField == "") Constant.passwordAlertMSG ++
    alertIf (isValidPassword form.passwordTextField == false) Constant.invalidPasswordAlertMSG
  -- No alert is followed by `return false`.
  (true, alerts)

/-- The alert of the handler passed to `createUser`. -/
def createUserHandler (success : Bool) : UIAlertController :=
  if !success then alertTextFields Constant.networkErrorMSG
  else ⟨"Done", "Account created successfully"⟩

/-- `getStartedButton(_:)`, with what Firebase answers to the calls. -/
def getStartedButton (form : SignUpForm) (f : Firebase) (auth : AuthAnswer)
    (write : Option FirestoreError) : Option (Firebase × Submission Attempt) := do
  let (valid, alerts) := form.validateTextField
  if valid then
    let attempt : Attempt :=
      { fullName := form.fullNameTextField, email := form.emailTextField
        password := form.passwordTextField, address := "", phone := "", auth, write }
    let (f, handlerCalls) ← CreateUser.createUser f attempt
    return (f, { request := some attempt, alerts := alerts ++ handlerCalls.map createUserHandler })
  else
    return (f, { request := none, alerts })

/-- What the form asks for: a first and a last name, an email and a permitted password. -/
structure Valid (form : SignUpForm) : Prop where
  name_ne : trimmingWhitespaces form.fullNameTextField ≠ ""
  name_space : hasWhiteSpace (trimmingWhitespaces form.fullNameTextField) = true
  email_ne : form.emailTextField ≠ ""
  email_valid : isValidEmail form.emailTextField = true
  password_ne : form.passwordTextField ≠ ""
  password_valid : isValidPassword form.passwordTextField = true

/-- A tap sends a request to Firebase Auth. -/
def Sends (form : SignUpForm) (f : Firebase) (auth : AuthAnswer) (write : Option FirestoreError) :
    Prop :=
  ∃ p ∈ form.getStartedButton f auth write, p.2.request.isSome = true

end SignUpForm

/-! ### Logging in -/

/-- The texts of the login form. -/
structure LoginForm where
  emailField : String := ""
  passwordTextField : String := ""
  deriving DecidableEq, Repr

/-- A call of `Auth.auth().signIn(withEmail:password:)`. -/
structure SignIn where
  email : String
  password : String
  deriving DecidableEq, Repr

/-- `AuthManager.validateLogin(with:password:)`: the request, and what the completion is told. -/
def AuthManager.validateLogin (email password : String) (error : Option FirestoreError) :
    SignIn × Bool :=
  (⟨email, password⟩, error.isNone)

/-- `LoginViewModel.loginUser(with:password:)`. -/
def LoginViewModel.loginUser (email password : String) (error : Option FirestoreError) :
    SignIn × Bool :=
  AuthManager.validateLogin email password error

namespace LoginForm

/-- `loginButtonTapped(_:)`, with the error that Firebase answers. -/
def loginButtonTapped (form : LoginForm) (error : Option FirestoreError) : Submission SignIn :=
  let email := form.emailField
  let password := form.passwordTextField
  -- The alert does not end the action.
  let alerts := if email = "" ∨ password = "" then [Alert.showIncompleteFormAlert] else []
  let (request, success) := LoginViewModel.loginUser email password error
  { request := some request
    alerts := if success then alerts else alerts ++ [Alert.invalidEmailAlert] }

/-- What the form asks for. -/
structure Valid (form : LoginForm) : Prop where
  email_ne : form.emailField ≠ ""
  password_ne : form.passwordTextField ≠ ""

end LoginForm

/-! ### What the forms report -/

/-- The trimmed name only has a space when it is not empty. -/
theorem ne_empty_of_hasWhiteSpace {text : String} (h : hasWhiteSpace text = true) : text ≠ "" := by
  rintro rfl
  simp [hasWhiteSpace] at h

namespace SignUpForm

theorem alertIf_eq_nil_iff (fails : Bool) (message : String) :
    alertIf fails message = [] ↔ fails = false := by
  cases fails <;> simp [alertIf]

/-- **Alerts.**  The form presents none exactly when it is valid. -/
theorem validateTextField_alerts (form : SignUpForm) :
    form.validateTextField.2 = [] ↔ form.Valid := by
  simp only [validateTextField, List.append_eq_nil_iff, alertIf_eq_nil_iff, and_assoc]
  constructor
  · rintro ⟨-, hspace, hemail, hvalid, hpassword, hpermitted⟩
    have hspace : hasWhiteSpace (trimmingWhitespaces form.fullNameTextField) = true := by
      simpa using hspace
    have hemail : form.emailTextField ≠ "" := by simpa using hemail
    exact
      { name_ne := ne_empty_of_hasWhiteSpace hspace
        name_space := hspace
        email_ne := hemail
        email_valid := by simpa [hemail] using hvalid
        password_ne := by simpa using hpassword
        password_valid := by simpa using hpermitted }
  · rintro ⟨hname, hspace, hemail, hvalid, hpassword, hpermitted⟩
    have hfull : form.fullNameTextField ≠ "" := by
      -- The first check adds nothing: an empty name fails the second one as well.
      intro hempty
      apply hname
      rw [hempty]
      decide
    simp [hfull, hspace, hemail, hvalid, hpassword, hpermitted]

/-- A tap always sends the request, with the texts as they were entered; and an account that
    Firebase Auth agrees to has them. -/
theorem getStartedButton_eq (form : SignUpForm) (f : Firebase) (auth : AuthAnswer)
    (write : Option FirestoreError) : ∃ g submission attempt,
    form.getStartedButton f auth write = some (g, submission) ∧
      submission.request = some attempt ∧
      g.accounts = f.accounts ++ (auth.authResult?.map fun uid =>
        ⟨uid, form.emailTextField, form.passwordTextField⟩).toList := by
  cases auth with
  | failure error => exact ⟨f, _, _, rfl, rfl, (List.append_nil _).symm⟩
  | success uid =>
    cases write with
    | none => exact ⟨_, _, _, rfl, rfl, rfl⟩
    | some error => exact ⟨_, _, _, rfl, rfl, rfl⟩

theorem sends (form : SignUpForm) (f : Firebase) (auth : AuthAnswer)
    (write : Option FirestoreError) : form.Sends f auth write := by
  obtain ⟨g, submission, attempt, htap, hrequest, -⟩ := form.getStartedButton_eq f auth write
  exact ⟨(g, submission), htap, by rw [hrequest]; rfl⟩

end SignUpForm

/-- The login form presents its own alert exactly when it is not valid. -/
theorem LoginForm.showIncompleteFormAlert_mem_iff (form : LoginForm)
    (error : Option FirestoreError) :
    Alert.showIncompleteFormAlert ∈ (form.loginButtonTapped error).alerts ↔ ¬form.Valid := by
  have hother : Alert.showIncompleteFormAlert ≠ Alert.invalidEmailAlert := by decide
  have hvalid : form.Valid ↔ ¬(form.emailField = "" ∨ form.passwordTextField = "") := by
    rw [not_or]
    exact ⟨fun h => ⟨h.email_ne, h.password_ne⟩, fun h => ⟨h.1, h.2⟩⟩
  rw [hvalid, not_not, loginButtonTapped, LoginViewModel.loginUser, AuthManager.validateLogin]
  cases error <;> simp [hother]

/-! ### Which requests are sent -/

/-- **Checked requests.**  Each form says which of its texts are valid, the sign-up form by
    presenting no alert and the login form by not presenting its own; and each sends a request
    exactly when it is valid, if and only if it is valid. -/
theorem requests_checked_iff (signUp : SignUpForm) (f : Firebase) (auth : AuthAnswer)
    (write : Option FirestoreError) (login : LoginForm) (error : Option FirestoreError) :
    ((signUp.validateTextField.2 = [] ↔ signUp.Valid) ∧
        ((signUp.Sends f auth write ↔ signUp.Valid) ↔ signUp.Valid)) ∧
      ((Alert.showIncompleteFormAlert ∉ (login.loginButtonTapped error).alerts ↔ login.Valid) ∧
        (((login.loginButtonTapped error).request.isSome = true ↔ login.Valid) ↔
          login.Valid)) := by
  refine ⟨⟨signUp.validateTextField_alerts, ?_⟩, ?_, ?_⟩
  · -- The request is sent whatever the checks say.
    exact ⟨fun h => h.mp (signUp.sends f auth write),
      fun hvalid => iff_of_true (signUp.sends f auth write) hvalid⟩
  · rw [login.showIncompleteFormAlert_mem_iff, not_not]
  · have hsent : (login.loginButtonTapped error).request.isSome = true := rfl
    exact ⟨fun h => h.mp hsent, fun hvalid => iff_of_true hsent hvalid⟩

/-- The empty forms are sent, after their alerts. -/
theorem empty_forms_sent :
    (¬∀ (form : SignUpForm) (f : Firebase) (auth : AuthAnswer) (write : Option FirestoreError),
      form.Sends f auth write ↔ form.Valid) ∧
    ¬∀ (form : LoginForm) (error : Option FirestoreError),
      (form.loginButtonTapped error).request.isSome = true ↔ form.Valid := by
  constructor
  · intro h
    have hvalid := (h {} {} (.success "ada") none).mp (SignUpForm.sends {} {} _ none)
    exact hvalid.email_ne rfl
  · intro h
    have hvalid := (h {} none).mp rfl
    exact hvalid.email_ne rfl

end Foodly
