import Foodly.Networking.Firestore
import Foodly.Swift.Strings

namespace Foodly

open Swift

/-!
# The greeting

`getUserName` fetches the profile document of the current user once, and `welcomeTextCompletion`
copies the greeting to the label of the home screen.  Before that the label reads what the
storyboard has, and it goes on reading so when the fetch fails or finds no document.

* `gettime` — the greeting for an hour of the day;
* `HomeGreeting.didGetDocument` — the closure of the fetch, which greets with the first word of the
  stored name;
* `firstName`, `head?_components` — the name in front of its first space, and that `firstWord!` is
  always there: splitting a text leaves at least one component, be it the empty one;
* `HomeGreeting.didGetDocument_some` — what a user with a profile is greeted with.
-/

/-- `gettime()`, with the hour of the day. -/
def gettime (hour : ℕ) : String :=
  if 1 ≤ hour ∧ hour < 12 then "Good Morning"
  else if 12 ≤ hour ∧ hour < 17 then "Good Afternoon"
  else "Good Evening"

/-- `welcomeText` of `HomeScreenViewModel`, and the text of `welcomeLabel`. -/
structure HomeGreeting where
  welcomeText : String
  welcomeLabel : String := "Good Morning, "
  deriving DecidableEq, Repr

namespace HomeGreeting

/-- The greeting after `init()`. -/
def new (hour : ℕ) : HomeGreeting := { welcomeText := gettime hour }

/-- The closure that `getUserName` gives to `getDocument`; there is no document when the call
    failed or found none. -/
def didGetDocument (g : HomeGreeting) (hour : ℕ) : Option Parameter → Option HomeGreeting
  | some docData => do
    let status := (stringField docData "fullName").getD ""
    -- `firstWord!`
    let firstWord ← (components status ' ').head?
    let welcomeText := gettime hour ++ ", " ++ firstWord
    return { welcomeText, welcomeLabel := welcomeText }
  | none => some g

end HomeGreeting

/-- The part of a name in front of its first space. -/
def firstName (fullName : String) : String :=
  String.ofList (fullName.toList.takeWhile (· != ' '))

/-- The first component of a name is there, and is what stands in front of the first space. -/
theorem head?_components (fullName : String) :
    (components fullName ' ').head? = some (firstName fullName) := by
  have hhead (cs : List Char) : (cs.splitOn ' ').head? = some (cs.takeWhile (· != ' ')) := by
    induction cs with
    | nil => rfl
    | cons c cs ih =>
      rw [List.splitOn_cons_eq_if_modifyHead, List.takeWhile_cons]
      by_cases hc : c = ' '
      · simp [hc]
      · rw [if_neg (by simpa using hc), List.head?_modifyHead, ih]
        simp [hc]
  rw [components, List.head?_map, hhead]
  rfl

/-- The greeting after the document has been fetched. -/
theorem HomeGreeting.didGetDocument_some (g : HomeGreeting) (hour : ℕ) {docData : Parameter}
    {fullName : String} (h : stringField docData "fullName" = some fullName) :
    g.didGetDocument hour (some docData) = some
      { welcomeText := gettime hour ++ ", " ++ firstName fullName
        welcomeLabel := gettime hour ++ ", " ++ firstName fullName } := by
  simp only [didGetDocument, h, Option.getD_some, head?_components]
  rfl

end Foodly
