import Foodly.Lib.Regex
import Foodly.Swift.Strings

namespace Foodly

open Swift

/-!
# Checks of the sign-up form

The regular expressions for emails and passwords, and what the texts that match them look like.
The source gives both expressions to `NSPredicate(format: "SELF MATCHES %@", _)`, so a text is
matched from its beginning to its end.

* `emailRegex`, `passwordRegex` — the expressions, class by class as they are written;
* `isValidEmail`, `isValidPassword`, `hasWhiteSpace` — the checks of the form;
* `isValidEmail_iff` — a local part, `@`, a domain, a dot and at least two letters;
* `isValidPassword_iff` — at least eight of the permitted characters, with a digit, a lower-case
  and an upper-case letter among them.

The look-aheads of the password's expression run over `.`, which stops at the end of a line, but no
permitted character is one (`isDot_of_isPasswordCharacter`): so they only ask whether some
character of a kind is there.  No look-ahead asks for a special character.
-/

/-! ### Character classes -/

/-- `[A-Za-z]`. -/
def isLatinLetter (c : Char) : Bool := c.isUpper || c.isLower

/-- `[A-Z0-9a-z._%+-]`. -/
def isLocalCharacter (c : Char) : Bool :=
  isLatinLetter c || c.isDigit || ['.', '_', '%', '+', '-'].contains c

/-- `[A-Za-z0-9.-]`. -/
def isDomainCharacter (c : Char) : Bool :=
  isLatinLetter c || c.isDigit || ['.', '-'].contains c

/-- The special characters of `passwordRegex`; `'\x60'` is the grave accent. -/
def specialCharacters : List Char :=
  ['!', '@', '#', '$', '%', '^', '&', '*', '(', ')', '-', '_', '=', '+', '\x7b', '\x7d', '|', '?',
    '>', '.', '<', ',', ':', ';', '~', '\x60', '’']

/-- The class of `passwordRegex`. -/
def isPasswordCharacter (c : Char) : Bool :=
  c.isDigit || isLatinLetter c || specialCharacters.contains c

/-- What `.` matches: everything but a line terminator. -/
def isDot (c : Char) : Bool :=
  !([0xA, 0xB, 0xC, 0xD, 0x85, 0x2028, 0x2029].contains c.toNat)

/-! ### Patterns -/

section Patterns

open Regex

/-- `[A-Z0-9a-z._%+-]+@[A-Za-z0-9.-]+\.[A-Za-z]{2,}`. -/
def emailRegex : Regex Char :=
  cat (atLeast 1 (letter isLocalCharacter)) <| cat (letter (· == '@')) <|
    cat (atLeast 1 (letter isDomainCharacter)) <| cat (letter (· == '.')) <|
      atLeast 2 (letter isLatinLetter)

/-- `(?=.*` in front of a class. -/
def lookahead (p : Char → Bool) (r : Regex Char) : Regex Char :=
  ahead (cat (star (letter isDot)) (letter p)) r

/-- `passwordRegex`, between anchors that `MATCHES` implies.  The class after the look-aheads has
    no digits beyond ASCII, so `\d` stands for the ASCII digits. -/
def passwordRegex : Regex Char :=
  lookahead Char.isDigit <| lookahead Char.isLower <| lookahead Char.isUpper <|
    atLeast 8 (letter isPasswordCharacter)

end Patterns

/-- `isValidEmail`. -/
def isValidEmail (text : String) : Bool := emailRegex.isMatch text.toList

/-- `isValidPassword(_:)`. -/
def isValidPassword (password : String) : Bool := passwordRegex.isMatch password.toList

/-- `hasWhiteSpace`. -/
def hasWhiteSpace (text : String) : Bool := text.toList.contains ' '

/-! ### What matches -/

/-- **Emails.**  A local part, `@`, a domain, a dot and at least two letters. -/
theorem isValidEmail_iff (text : String) : isValidEmail text = true ↔
    ∃ name domain suffix : List Char, text.toList = name ++ '@' :: (domain ++ '.' :: suffix) ∧
      (1 ≤ name.length ∧ ∀ c ∈ name, isLocalCharacter c = true) ∧
      (1 ≤ domain.length ∧ ∀ c ∈ domain, isDomainCharacter c = true) ∧
      (2 ≤ suffix.length ∧ ∀ c ∈ suffix, isLatinLetter c = true) := by
  rw [isValidEmail, Regex.isMatch_iff, emailRegex]
  simp only [Regex.mem_cat, Regex.mem_letter, Regex.mem_atLeast_letter, beq_iff_eq]
  constructor
  · rintro ⟨name, hname, _, ⟨_, ⟨_, rfl, rfl⟩, _, ⟨domain, hdomain, _, ⟨_, ⟨_, rfl, rfl⟩, suffix,
      hsuffix, rfl⟩, rfl⟩, rfl⟩, heq⟩
    exact ⟨name, domain, suffix, heq.symm, hname, hdomain, hsuffix⟩
  · rintro ⟨name, domain, suffix, heq, hname, hdomain, hsuffix⟩
    exact ⟨name, hname, _, ⟨_, ⟨_, rfl, rfl⟩, _, ⟨domain, hdomain, _, ⟨_, ⟨_, rfl, rfl⟩, suffix,
      hsuffix, rfl⟩, rfl⟩, rfl⟩, heq.symm⟩

/-- Where the letters and digits of ASCII are. -/
theorem toNat_of_isAlphanum {c : Char} (h : c.isAlphanum = true) :
    0x30 ≤ c.toNat ∧ c.toNat ≤ 0x7A := by
  simp only [Char.isAlphanum, Char.isAlpha, Char.isUpper, Char.isLower, Char.isDigit,
    Bool.or_eq_true, Bool.and_eq_true, decide_eq_true_eq, UInt32.le_iff_toNat_le, ge_iff_le] at h
  have hval : c.toNat = c.val.toNat := rfl
  have hlast : 'z'.val.toNat = 122 ∧ 'Z'.val.toNat = 90 ∧ '9'.val.toNat = 57 := by decide
  have hfirst : 'a'.val.toNat = 97 ∧ 'A'.val.toNat = 65 ∧ '0'.val.toNat = 48 := by decide
  omega

/-- What holds of letters, digits and the special characters holds of every permitted one. -/
theorem of_isPasswordCharacter {p : Char → Bool} (halnum : ∀ c, c.isAlphanum = true → p c = true)
    (hspecial : specialCharacters.all p = true) {c : Char} (h : isPasswordCharacter c = true) :
    p c = true := by
  simp only [isPasswordCharacter, isLatinLetter, Bool.or_eq_true] at h
  rcases h with (hdigit | hletter) | hmem
  · exact halnum c (by simp [Char.isAlphanum, hdigit])
  · exact halnum c (by simpa [Char.isAlphanum, Char.isAlpha] using Or.inl hletter)
  · exact List.all_eq_true.mp hspecial c (List.contains_iff_mem.mp hmem)

/-- No permitted character ends a line. -/
theorem isDot_of_isPasswordCharacter {c : Char} (h : isPasswordCharacter c = true) :
    isDot c = true := by
  refine of_isPasswordCharacter (fun c hc => ?_) (by decide) h
  have hrange := toNat_of_isAlphanum hc
  simp [isDot]
  omega

/-- **Passwords.**  At least eight of the permitted characters, with a digit, a lower-case and an
    upper-case letter among them. -/
theorem isValidPassword_iff (password : String) : isValidPassword password = true ↔
    (8 ≤ password.length ∧ ∀ c ∈ password.toList, isPasswordCharacter c = true) ∧
      (∃ c ∈ password.toList, c.isDigit = true) ∧ (∃ c ∈ password.toList, c.isLower = true) ∧
      ∃ c ∈ password.toList, c.isUpper = true := by
  rw [isValidPassword, Regex.isMatch_iff, passwordRegex]
  simp only [lookahead, Regex.mem_ahead, Regex.mem_atLeast_letter, String.length_toList]
  constructor
  · rintro ⟨hdigit, hlower, hupper, hclass⟩
    have hdot := fun c hc => isDot_of_isPasswordCharacter (hclass.2 c hc)
    rw [Regex.exists_prefix_letter_iff hdot] at hdigit hlower hupper
    exact ⟨hclass, hdigit, hlower, hupper⟩
  · rintro ⟨hclass, hdigit, hlower, hupper⟩
    have hdot := fun c hc => isDot_of_isPasswordCharacter (hclass.2 c hc)
    rw [← Regex.exists_prefix_letter_iff hdot] at hdigit hlower hupper
    exact ⟨hdigit, hlower, hupper, hclass⟩

end Foodly
