import Foodly.Networking.Firestore

namespace Foodly

/-!
# The profile screen

`ProfileViewModel` and `ProfileViewController`: the profile is fetched once when the screen
loads, a queued block copies it to the screen, and one bar button switches between editing two
text fields and saving.  A save writes the whole document, from the view model and the texts.

* `ProfileViewModel.didGetDocument` — the closure of the fetch, with a placeholder for every field
  that is not there; it appends to what the view model has;
* `ProfileViewModel.updateProfile` — the data of a write; the email and the full name are those of
  the view model, the other two the texts of the fields;
* `ProfileViewController.refresh` — the block that copies the view model to the screen;
* `editButton`, `saveButton`, `didTapEdit` — the two sides of the bar button.  A save compares the
  texts with those that were taken down when editing began, under Swift's equality of texts, a
  parameter here;
* `didTapEdit_cases` — what a tap on the button does, from which every result on saves follows.
-/

/-- `ProfileViewModel`. -/
structure ProfileViewModel where
  fullName : String := ""
  userAddress : String := ""
  phoneNumber : String := ""
  email : String := ""
  deriving DecidableEq, Repr

namespace ProfileViewModel

/-- The closure that `getProfileDetails` gives to `getDocument`, up to its notification; there
    is no document when the call failed or found none. -/
def didGetDocument (vm : ProfileViewModel) : Option Parameter → ProfileViewModel
  | some docData =>
    let userEmail := (stringField docData "email").getD "Email???"
    let userFullName := (stringField docData "fullName").getD "Full name???"
    let address := (stringField docData "address").getD "Edit address"
    let phoneNumber := (stringField docData "phoneNumber").getD "Add Phone Number"
    { userAddress := vm.userAddress ++ address
      phoneNumber := vm.phoneNumber ++ phoneNumber
      email := vm.email ++ userEmail
      fullName := vm.fullName ++ userFullName }
  | none => vm

/-- The data that `updateProfile` writes. -/
def updateProfile (email fullName address phoneNumber : String) : Parameter :=
  [("email", .string email), ("fullName", .string fullName), ("address", .string address),
    ("phoneNumber", .string phoneNumber)]

end ProfileViewModel

/-- The title of the bar button. -/
inductive EditTitle
  | edit
  | done
  deriving DecidableEq, Repr

/-- `ProfileViewController` after `viewDidLoad`, the texts as the storyboard has them. -/
structure ProfileViewController where
  profileVM : ProfileViewModel := {}
  addressChanged : Option String := none
  phoneNumberChanged : Option String := none
  nameLbl : String := ""
  phoneNo : String := "+2349015291988"
  address : String := ""
  isEnabled : Bool := false
  button : EditTitle := .edit
  mainQueue : ℕ := 0
  deriving DecidableEq, Repr

namespace ProfileViewController

/-- `getProfileDetails` completes: the notification queues a block. -/
def profileFetched (c : ProfileViewController) (document : Option Parameter) :
    ProfileViewController :=
  { c with profileVM := c.profileVM.didGetDocument document, mainQueue := c.mainQueue + 1 }

/-- The block that the notification queues, if there is one. -/
def refresh (c : ProfileViewController) : Option ProfileViewController :=
  if c.mainQueue = 0 then none
  else some { c with
    nameLbl := c.profileVM.fullName
    phoneNo := c.profileVM.phoneNumber
    address := c.profileVM.userAddress
    mainQueue := c.mainQueue - 1 }

def editButton (c : ProfileViewController) : ProfileViewController :=
  { c with
    isEnabled := true
    addressChanged := some c.address
    phoneNumberChanged := some c.phoneNo
    button := .done }

section
variable [BEq String]

/-- A text differs from what it was when editing began. -/
def textChanged (c : ProfileViewController) : Bool :=
  (some c.phoneNo != c.phoneNumberChanged) || (some c.address != c.addressChanged)

/-- `saveButton`, and the data of the write it issues. -/
def saveButton (c : ProfileViewController) : Option (ProfileViewController × Option Parameter) :=
  if c.phoneNumberChanged.isSome && c.addressChanged.isSome then
    let saved := { c with button := .edit, isEnabled := false }
    if c.textChanged then
      some (saved, some (ProfileViewModel.updateProfile c.profileVM.email c.profileVM.fullName
        c.address c.phoneNo))
    else some (saved, none)
  -- `fatalError("")`
  else none

/-- `didTapEdit`, and the data of the write it issues. -/
def didTapEdit (c : ProfileViewController) : Option (ProfileViewController × Option Parameter) :=
  match c.button with
  | .done => c.saveButton
  | .edit => some (c.editButton, none)

end

/-- The user edits the address, when its field is enabled. -/
def editAddress (c : ProfileViewController) (text : String) : Option ProfileViewController :=
  if c.isEnabled then some { c with address := text } else none

/-- The user edits the phone number, when its field is enabled. -/
def editPhoneNo (c : ProfileViewController) (text : String) : Option ProfileViewController :=
  if c.isEnabled then some { c with phoneNo := text } else none

/-- What a tap on the bar button does: it starts editing, or ends it, or ends it with a save. -/
theorem didTapEdit_cases [BEq String] {c t : ProfileViewController} {write : Option Parameter}
    (h : c.didTapEdit = some (t, write)) :
    t.profileVM = c.profileVM ∧ t.address = c.address ∧ t.phoneNo = c.phoneNo ∧
      t.mainQueue = c.mainQueue ∧
      (write = none ∨ (c.button = .done ∧ c.textChanged = true ∧
        write = some (ProfileViewModel.updateProfile c.profileVM.email c.profileVM.fullName
          c.address c.phoneNo))) := by
  unfold didTapEdit at h
  cases hbutton : c.button with
  | edit =>
    simp only [hbutton, Option.some.injEq, Prod.mk.injEq] at h
    obtain ⟨rfl, rfl⟩ := h
    exact ⟨rfl, rfl, rfl, rfl, Or.inl rfl⟩
  | done =>
    simp only [hbutton, saveButton, Option.ite_none_right_eq_some] at h
    obtain ⟨-, h⟩ := h
    -- The first branch is the save; without a change the fields are only disabled.
    split at h
    next hchanged =>
      simp only [Option.some.injEq, Prod.mk.injEq] at h
      obtain ⟨rfl, rfl⟩ := h
      exact ⟨rfl, rfl, rfl, rfl, Or.inr ⟨rfl, hchanged, rfl⟩⟩
    next =>
      simp only [Option.some.injEq, Prod.mk.injEq] at h
      obtain ⟨rfl, rfl⟩ := h
      exact ⟨rfl, rfl, rfl, rfl, Or.inl rfl⟩

end ProfileViewController

end Foodly
