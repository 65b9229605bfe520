namespace Foodly

/-!
# Alerts

The alerts that the forms present, with the texts of `Constant`.  Presenting an alert does not end
the handler that does it; which alerts an action presents, and what it does behind them, is said by
the handlers themselves, which return the alerts in the order they are presented.

* `UIAlertController` — what an alert says: its title and its message;
* `alertTextFields` — the alert that the controllers make of a message, all under one title;
* `Alert.showIncompleteFormAlert`, `Alert.invalidEmailAlert` — the alerts of the log-in form;
* the texts of `Constant` that the checks of the sign-up form and of the promo code pass on.
-/

/-- `UIAlertController`: what an alert says. -/
structure UIAlertController where
  title : String
  message : String
  deriving DecidableEq, Repr

/-- `alertTextFields(_:)`, the same in every controller that has it. -/
def alertTextFields (message : String) : UIAlertController := ⟨"One Moment", message⟩

namespace Constant

def fullnameAlertMSG : String := "Please input your name"

def fullNameCheckAlert : String := "Name must contain firstname and lastname"

def emailAlertMSG : String := "Please input your email"

def invalidEmailAlertMSG : String := "Please input a valid email"

def passwordAlertMSG : String := "Please set your password"

def networkErrorMSG : String := "Please check your internet connection"

def passMSG : String := "Password must be between 8 - 25 characters and must contain at least"

def invalidPasswordAlertMSG : String :=
  passMSG ++ " one uppercase letter, one number and one special character"

def invalidPromoMSG1 : String := "Please input a valid promo code"

def invalidPromoMSG2 : String := "Invalid promo code"

end Constant

/-- `Alert.showIncompleteFormAlert(on:)`. -/
def Alert.showIncompleteFormAlert : UIAlertController :=
  ⟨"Incomplete Form", "Please fill out fields in the form"⟩

/-- `Alert.invalidEmailAlert(on:)`. -/
def Alert.invalidEmailAlert : UIAlertController :=
  ⟨"Invalid  Email or Password", "Please enter a valid email address"⟩

end Foodly
