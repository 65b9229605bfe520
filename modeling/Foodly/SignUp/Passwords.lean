import Foodly.Helpers.Alerts
import Foodly.Helpers.SignUpValidation
import Foodly.Lib.Runs
import Foodly.Swift.Characters

namespace Foodly

open Runs Swift

/-!
# Passwords

The password field takes an edit when the text stays within 25 characters, and `isValidPassword`
checks the text that was entered.  What the form announces is another text,
`Constant.invalidPasswordAlertMSG`.

* `Edit`, `updatedText`, `shouldChangeCharactersIn` — an edit that UIKit asks the delegate about,
  and what the delegate says; the range of an edit is in UTF-16 code units, the limit in characters;
* `Entered`, `entered_iff` — the passwords that accepted edits of the empty field lead to are the
  texts of at most 25 characters;
* `MeetsPolicy` — the policy as it is announced;
* `Permitted` — the characters that the regular expression permits;
* `SpecialWithLowercase` — the condition on a password: it has a special character just in case it
  has a lower-case letter, or fails both the policy and the check anyway;
* `password_policy_iff` — the check agrees with the policy exactly under the condition;
* `policy_not_checked` — passwords on which they differ, either way.
-/

variable (B : CharacterBreaking)

/-! ### The password field -/

namespace PasswordTextField

/-- An edit that UIKit asks the delegate about. -/
structure Edit where
  range : CharacterBreaking.NSRange
  replacementString : String
  deriving DecidableEq, Repr

/-- The text after an edit; `none` when the range is not one of the text. -/
def updatedText (currentText : String) (edit : Edit) : Option String :=
  (B.stringRange currentText edit.range).map fun stringRange =>
    B.replacingCharacters currentText stringRange edit.replacementString

/-- `textField(_:shouldChangeCharactersIn:replacementString:)`. -/
def shouldChangeCharactersIn (currentText : String) (edit : Edit) : Bool :=
  match updatedText B currentText edit with
  | none => false
  | some updatedText => B.count updatedText ≤ 25

/-- An edit that the delegate accepts. -/
def step (currentText : String) (edit : Edit) : Option String :=
  if shouldChangeCharactersIn B currentText edit then updatedText B currentText edit else none

end PasswordTextField

/-- The password is entered by edits of the empty field that the delegate accepts. -/
def Entered (password : String) : Prop :=
  ∃ edits, run (PasswordTextField.step B) "" edits = some password

theorem PasswordTextField.step_eq_some_iff {currentText text : String} {edit : Edit} :
    step B currentText edit = some text ↔
      updatedText B currentText edit = some text ∧ B.count text ≤ 25 := by
  unfold step shouldChangeCharactersIn
  cases updatedText B currentText edit with
  | none => simp
  | some updated =>
    simp only [decide_eq_true_eq, Option.ite_none_right_eq_some, Option.some.injEq]
    constructor
    · rintro ⟨hcount, rfl⟩
      exact ⟨rfl, hcount⟩
    · rintro ⟨rfl, hcount⟩
      exact ⟨hcount, rfl⟩

/-- **Editing.**  What can be entered are the texts of at most 25 characters. -/
theorem entered_iff (password : String) : Entered B password ↔ B.count password ≤ 25 := by
  constructor
  · rintro ⟨edits, hedits⟩
    have hempty : B.count "" ≤ 25 := by
      rw [CharacterBreaking.count, B.characters_empty]
      exact Nat.zero_le _
    exact run_history (P := fun _ text => B.count text ≤ 25)
      (fun _ _ _ _ _ hstep => ((PasswordTextField.step_eq_some_iff B).mp hstep).2) hempty hedits
  · intro hcount
    -- The whole password may be pasted into the empty field.
    have hupdated : PasswordTextField.updatedText B "" ⟨⟨0, 0⟩, password⟩ = some password := by
      rw [PasswordTextField.updatedText, B.stringRange_empty, Option.map_some,
        B.replacingCharacters_empty]
    refine ⟨[⟨⟨0, 0⟩, password⟩], ?_⟩
    rw [run_cons, (PasswordTextField.step_eq_some_iff B).mpr ⟨hupdated, hcount⟩]
    rfl

/-! ### The policy -/

/-- What `Constant.invalidPasswordAlertMSG` announces: 8 to 25 characters, with an upper-case
    letter, a number and a special character among them. -/
structure MeetsPolicy (password : String) : Prop where
  atLeast : 8 ≤ B.count password
  atMost : B.count password ≤ 25
  uppercase : ∃ c ∈ password.toList, c.isUpper = true
  number : ∃ c ∈ password.toList, c.isDigit = true
  special : ∃ c ∈ password.toList, c ∈ specialCharacters

/-- The characters that the regular expression permits. -/
def Permitted (password : String) : Prop := ∀ c ∈ password.toList, isPasswordCharacter c = true

/-- Long enough, with a digit and an upper-case letter: a special character is there just in case
    a lower-case letter is. -/
def SpecialWithLowercase (password : String) : Prop :=
  8 ≤ password.length → (∃ c ∈ password.toList, c.isDigit = true) →
    (∃ c ∈ password.toList, c.isUpper = true) →
      ((∃ c ∈ password.toList, c.isLower = true) ↔ ∃ c ∈ password.toList, c ∈ specialCharacters)

/-- Every permitted character stands alone. -/
theorem isStandalone_of_isPasswordCharacter {c : Char} (h : isPasswordCharacter c = true) :
    isStandalone c = true := by
  refine of_isPasswordCharacter (fun c hc => ?_) (by decide) h
  have hrange := toNat_of_isAlphanum hc
  simp [isStandalone]
  omega

/-- On what can be entered, the two differ in one class of letters: where the policy asks for a
    special character, the regular expression asks for a lower-case letter. -/
theorem meetsPolicy_iff {password : String} (hentered : Entered B password)
    (hpermitted : Permitted password) : MeetsPolicy B password ↔
      8 ≤ password.length ∧ (∃ c ∈ password.toList, c.isDigit = true) ∧
        (∃ c ∈ password.toList, c.isUpper = true) ∧
          ∃ c ∈ password.toList, c ∈ specialCharacters := by
  have hcount : B.count password = password.length :=
    B.count_of_standalone fun c hc => isStandalone_of_isPasswordCharacter (hpermitted c hc)
  constructor
  · rintro ⟨hatLeast, -, hupper, hnumber, hspecial⟩
    exact ⟨hcount ▸ hatLeast, hnumber, hupper, hspecial⟩
  · rintro ⟨hatLeast, hnumber, hupper, hspecial⟩
    exact ⟨hcount ▸ hatLeast, (entered_iff B password).mp hentered, hupper, hnumber, hspecial⟩

/-- **Policy.**  On a password that can be entered, of permitted characters, `isValidPassword`
    agrees with the policy exactly when there is a special character just in case there is a
    lower-case letter, or else the password is too short, or has no digit or no upper-case
    letter. -/
theorem password_policy_iff {password : String} (hentered : Entered B password)
    (hpermitted : Permitted password) :
    (isValidPassword password = true ↔ MeetsPolicy B password) ↔
      SpecialWithLowercase password := by
  rw [meetsPolicy_iff B hentered hpermitted, isValidPassword_iff, SpecialWithLowercase]
  constructor
  · intro hagree hlength hdigit hupper
    constructor
    · intro hlower
      exact (hagree.mp ⟨⟨hlength, hpermitted⟩, hdigit, hlower, hupper⟩).2.2.2
    · intro hspecial
      exact (hagree.mpr ⟨hlength, hdigit, hupper, hspecial⟩).2.2.1
  · -- Both ask for the length, a digit and an upper-case letter, and differ in the last class only.
    intro hagree
    constructor
    · rintro ⟨⟨hlength, -⟩, hdigit, hlower, hupper⟩
      exact ⟨hlength, hdigit, hupper, (hagree hlength hdigit hupper).mp hlower⟩
    · rintro ⟨hlength, hdigit, hupper, hspecial⟩
      exact ⟨⟨hlength, hpermitted⟩, hdigit, (hagree hlength hdigit hupper).mpr hspecial, hupper⟩

/-- A password with everything is accepted, and meets the policy. -/
theorem password_policy_iff_mixed :
    (isValidPassword "Foodly-2021" = true ↔ MeetsPolicy scalarBreaking "Foodly-2021") ↔
      SpecialWithLowercase "Foodly-2021" :=
  password_policy_iff scalarBreaking ((entered_iff _ _).mpr (by decide))
    (List.all_eq_true.mp (by decide))

/-- One password without a special character is accepted, and one without a lower-case letter is
    rejected although it has everything that is announced. -/
theorem policy_not_checked :
    ¬(∀ password, Entered scalarBreaking password → Permitted password →
      isValidPassword password = true → MeetsPolicy scalarBreaking password) ∧
    ¬∀ password, Entered scalarBreaking password → Permitted password →
      MeetsPolicy scalarBreaking password → isValidPassword password = true := by
  constructor
  · intro h
    obtain ⟨c, hc, hspecial⟩ := (h "Password1" ((entered_iff _ _).mpr (by decide))
      (List.all_eq_true.mp (by decide)) (by decide +kernel)).special
    have hnone : "Password1".toList.all (fun c => !specialCharacters.contains c) = true := by decide
    simpa [hspecial] using List.all_eq_true.mp hnone c hc
  · intro h
    -- No lower-case letter: the policy does not ask for one, the regular expression does.
    have hmeets : MeetsPolicy scalarBreaking "PASSWORD-1" :=
      { atLeast := by decide
        atMost := by decide
        uppercase := ⟨'P', by decide, by decide⟩
        number := ⟨'1', by decide, by decide⟩
        special := ⟨'-', by decide, by decide⟩ }
    have hvalid := h "PASSWORD-1" ((entered_iff _ _).mpr (by decide))
      (List.all_eq_true.mp (by decide)) hmeets
    exact absurd hvalid (by decide +kernel)

end Foodly
