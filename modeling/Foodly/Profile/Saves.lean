import Mathlib.Data.Fintype.Basic
import Foodly.Lib.Runs
import Foodly.Profile.Controller

namespace Foodly

open Runs

/-!
# What a save does to the stored profile

A save replaces the whole document, so every field that it writes must be known to hold either
what is stored or what the user typed.  A run of the profile screen records for each field
where its value comes from.

* `ProfileField`, `storedField` — the fields of a user document;
* `Source`, `Source.Known` — where the value of a field comes from, and when that is known: from the
  user, or from a fetched document that has the field;
* `ProfileState`, `ProfileEvent` — the stored document, the screen and the pending fetch; the fetch
  reads the document at some moment and returns later, or fails;
* `ProfileLaw` — a write has kept the email and the full name, and every other field too unless it
  now holds what the user typed;
* `SavesKnown` — the condition on a tap: a save that is stored knows the value of every field;
* `ProfileInvariant` — every field is accounted for by its source, and a fetched document is the
  stored one until there is a save;
* `ProfileInvariant.step` — one event, from a lemma for each kind;
* `saves_framed` — saves change nothing but what the user edited, in every run that meets the
  condition;
* `early_save_drops_email` — a save before the fetch has returned.
-/

/-! ### The fields of a profile -/

/-- The fields of a user document. -/
inductive ProfileField
  | email
  | fullName
  | address
  | phoneNumber
  deriving DecidableEq, Repr

instance : Fintype ProfileField where
  elems := {.email, .fullName, .address, .phoneNumber}
  complete field := by cases field <;> decide

def ProfileField.key : ProfileField → String
  | .email => "email"
  | .fullName => "fullName"
  | .address => "address"
  | .phoneNumber => "phoneNumber"

/-- What the view model has for a field. -/
def ProfileViewModel.value (vm : ProfileViewModel) : ProfileField → String
  | .email => vm.email
  | .fullName => vm.fullName
  | .address => vm.userAddress
  | .phoneNumber => vm.phoneNumber

/-- What a save would write for a field. -/
def ProfileViewController.written (c : ProfileViewController) : ProfileField → String
  | .email => c.profileVM.email
  | .fullName => c.profileVM.fullName
  | .address => c.address
  | .phoneNumber => c.phoneNo

/-- A field of the stored document, if there is one. -/
def storedField (document : Option Parameter) (field : ProfileField) : Option FieldValue :=
  document.bind fun data => data.lookup field.key

/-- The document has a text in the field. -/
def HasText (data : Parameter) (field : ProfileField) : Prop :=
  (stringField data field.key).isSome = true

instance (data : Parameter) (field : ProfileField) : Decidable (HasText data field) :=
  inferInstanceAs (Decidable (_ = _))

/-- A fetched text is what the document has. -/
theorem storedField_of_hasText {data : Parameter} {field : ProfileField}
    (h : HasText data field) : storedField (some data) field
      = some (.string (((ProfileViewModel.didGetDocument {} (some data))).value field)) := by
  obtain ⟨text, htext⟩ := Option.isSome_iff_exists.mp h
  obtain ⟨value, hvalue, hstring⟩ := Option.bind_eq_some_iff.mp htext
  cases value with
  | string text' =>
    obtain rfl : text' = text := Option.some.inj hstring
    show data.lookup field.key = _
    rw [hvalue]
    cases field <;>
      simp_all [ProfileViewModel.didGetDocument, ProfileViewModel.value, ProfileField.key]
  | _ => cases hstring

/-- A save writes every field. -/
theorem storedField_updateProfile (c : ProfileViewController) (field : ProfileField) :
    storedField (some (ProfileViewModel.updateProfile c.profileVM.email c.profileVM.fullName
      c.address c.phoneNo)) field = some (.string (c.written field)) := by
  cases field <;> rfl

/-! ### Runs of the screen -/

/-- Where the value of a field comes from: the storyboard or an empty view model, a fetched
    document, a document fetched before a save, or the user. -/
inductive Source
  | initial
  | fetched (data : Parameter)
  | stale
  | user

/-- The value is the user's, or was fetched from a document that has the field. -/
def Source.Known (field : ProfileField) : Source → Prop
  | .user => True
  | .fetched data => HasText data field
  | .initial | .stale => False

instance (field : ProfileField) : (source : Source) → Decidable (source.Known field)
  | .user => inferInstanceAs (Decidable True)
  | .fetched data => inferInstanceAs (Decidable (HasText data field))
  | .initial | .stale => inferInstanceAs (Decidable False)

/-- The text typed last into a field, and where the value it now has comes from. -/
structure History where
  typed : Option String := none
  source : Source := .initial

/-- The call of `getDocument`. -/
inductive Fetch
  | pending
  | read (document : Option Parameter)
  | completed

/-- The stored document before and after a write. -/
structure Save where
  before : Option Parameter
  after : Option Parameter

/-- The stored user document, the screen, and the write issued by the last event. -/
structure ProfileState where
  stored : Option Parameter
  screen : ProfileViewController := {}
  fetch : Fetch := .pending
  vmSource : Source := .initial
  history : ProfileField → History := fun _ => {}
  save : Option Save := none

/-- What happens on the profile screen; a tap comes with the error of the write, should it
    issue one. -/
inductive ProfileEvent
  | documentRead
  | fetchReturns
  | fetchFails
  | refresh
  | didTapEdit (error : Option FirestoreError)
  | editAddress (text : String)
  | editPhoneNo (text : String)
  deriving DecidableEq, Repr

/-- A field is given a value from another source. -/
def setSource (history : ProfileField → History) (source : Source) (fields : List ProfileField) :
    ProfileField → History := fun field =>
  if field ∈ fields then { history field with source } else history field

/-- The user types into a field. -/
def setTyped (history : ProfileField → History) (edited : ProfileField) (text : String) :
    ProfileField → History := fun field =>
  if field = edited then { typed := some text, source := .user } else history field

namespace ProfileState

/-- The completion of `getDocument`. -/
def completeFetch (s : ProfileState) : Option Parameter → ProfileState
  | some data => { s with
      screen := s.screen.profileFetched (some data)
      fetch := .completed
      vmSource := .fetched data
      history := setSource s.history (.fetched data) [.email, .fullName]
      save := none }
  | none => { s with screen := s.screen.profileFetched none, fetch := .completed, save := none }

/-- Firestore gets the data of a write, which replaces the document unless there is an error. -/
def write (s : ProfileState) (data : Parameter) : Option FirestoreError → ProfileState
  | none => { s with
      stored := some data
      vmSource := .stale
      save := some { before := s.stored, after := some data } }
  | some _ => { s with save := some { before := s.stored, after := s.stored } }

def step [BEq String] (s : ProfileState) : ProfileEvent → Option ProfileState
  | .documentRead =>
    match s.fetch with
    | .pending => some { s with fetch := .read s.stored, save := none }
    | .read _ | .completed => none
  | .fetchReturns =>
    match s.fetch with
    | .read document => some (s.completeFetch document)
    | .pending | .completed => none
  | .fetchFails =>
    match s.fetch with
    | .pending | .read _ => some (s.completeFetch none)
    | .completed => none
  | .refresh => s.screen.refresh.map fun screen => { s with
      screen
      history := setSource s.history s.vmSource [.address, .phoneNumber]
      save := none }
  | .didTapEdit error => s.screen.didTapEdit.map fun tapped =>
      match tapped.2 with
      | some data => { s with screen := tapped.1 }.write data error
      | none => { s with screen := tapped.1, save := none }
  | .editAddress text => (s.screen.editAddress text).map fun screen => { s with
      screen
      history := setTyped s.history .address text
      save := none }
  | .editPhoneNo text => (s.screen.editPhoneNo text).map fun screen => { s with
      screen
      history := setTyped s.history .phoneNumber text
      save := none }

/-! ### What the fetch can do -/

section
variable [BEq String]

/-- Firestore reads the document once, while the fetch is pending. -/
theorem step_documentRead {s t : ProfileState} (h : s.step .documentRead = some t) :
    s.fetch = .pending ∧ t = { s with fetch := .read s.stored, save := none } := by
  simp only [step] at h
  split at h
  next hfetch => exact ⟨hfetch, (Option.some.inj h).symm⟩
  next => cases h
  next => cases h

/-- The fetch returns what was read. -/
theorem step_fetchReturns {s t : ProfileState} (h : s.step .fetchReturns = some t) :
    ∃ document, s.fetch = .read document ∧ t = s.completeFetch document := by
  simp only [step] at h
  split at h
  next document hfetch => exact ⟨document, hfetch, (Option.some.inj h).symm⟩
  next => cases h
  next => cases h

/-- The fetch fails at any time before it has completed. -/
theorem step_fetchFails {s t : ProfileState} (h : s.step .fetchFails = some t) :
    s.fetch ≠ .completed ∧ t = s.completeFetch none := by
  simp only [step] at h
  split at h
  next hfetch => exact ⟨by rw [hfetch]; nofun, (Option.some.inj h).symm⟩
  next hfetch => exact ⟨by rw [hfetch]; nofun, (Option.some.inj h).symm⟩
  next => cases h

end

end ProfileState

/-! ### The law and its condition -/

/-- A write has kept the email and the full name, and every other field too unless it now holds
    what the user typed. -/
structure ProfileLaw (s : ProfileState) : Prop where
  email : ∀ save ∈ s.save, storedField save.after .email = storedField save.before .email
  fullName : ∀ save ∈ s.save, storedField save.after .fullName = storedField save.before .fullName
  edited : ∀ save ∈ s.save, ∀ field, storedField save.after field = storedField save.before field ∨
    ∃ text ∈ (s.history field).typed, storedField save.after field = some (.string text)

/-- A tap that stores the profile knows the value of every field. -/
def SavesKnown [BEq String] (s : ProfileState) : ProfileEvent → Prop
  | .didTapEdit none => s.screen.button = .done ∧ s.screen.textChanged = true →
      ∀ field, (s.history field).source.Known field
  | _ => True

instance [BEq String] (s : ProfileState) :
    (event : ProfileEvent) → Decidable (SavesKnown s event)
  | .didTapEdit none => inferInstanceAs (Decidable (_ ∧ _ →
      ∀ field, (s.history field).source.Known field))
  | .didTapEdit (some _) | .documentRead | .fetchReturns | .fetchFails | .refresh
  | .editAddress _ | .editPhoneNo _ => inferInstanceAs (Decidable True)

/-! ### The invariant -/

/-- The value of a field is what its source says: what the user typed, or what is stored. -/
def Accounted (stored : Option Parameter) (field : ProfileField) (value : String) (h : History) :
    Prop :=
  match h.source with
  | .user => h.typed = some value
  | .fetched data => HasText data field → storedField stored field = some (.string value)
  | .initial | .stale => True

/-- Every field is accounted for, the user edits only two of them, and a fetched document is
    the stored one until there is a save. -/
structure ProfileInvariant (s : ProfileState) : Prop where
  accounted : ∀ field, Accounted s.stored field (s.screen.written field) (s.history field)
  fixed : ∀ field, (s.history field).source = .user → field = .address ∨ field = .phoneNumber
  read : ∀ document, s.fetch = .read document → document = s.stored
  unfetched : s.fetch ≠ .completed →
    s.screen.profileVM = {} ∧ s.vmSource = .initial ∧ (s.history .email).source = .initial
  fetched : ∀ data, s.vmSource = .fetched data →
    s.stored = some data ∧ s.screen.profileVM = ProfileViewModel.didGetDocument {} (some data)
  notTyped : s.vmSource ≠ .user

/-- A known value is what the user typed or what is stored. -/
theorem Accounted.cases_of_known {stored : Option Parameter} {field : ProfileField}
    {value : String} {h : History} (haccounted : Accounted stored field value h)
    (hknown : h.source.Known field) :
    (h.source = .user ∧ h.typed = some value) ∨
      storedField stored field = some (.string value) := by
  unfold Accounted at haccounted
  -- An initial value and one fetched before a save are not known.
  cases hsource : h.source with
  | user =>
    rw [hsource] at haccounted
    exact Or.inl ⟨rfl, haccounted⟩
  | fetched data =>
    rw [hsource] at haccounted hknown
    exact Or.inr (haccounted hknown)
  | initial =>
    rw [hsource] at hknown
    exact absurd hknown id
  | stale =>
    rw [hsource] at hknown
    exact absurd hknown id

/-- Once a field has been stored it is accounted for. -/
theorem Accounted.of_stored {stored stored' : Option Parameter} {field : ProfileField}
    {value : String} {h : History} (haccounted : Accounted stored field value h)
    (hstored : storedField stored' field = some (.string value)) :
    Accounted stored' field value h := by
  unfold Accounted at haccounted ⊢
  cases hsource : h.source with
  | user =>
    rw [hsource] at haccounted
    exact haccounted
  | fetched data => exact fun _ => hstored
  | initial => trivial
  | stale => trivial

/-! ### One event -/

/-- The fetch completes, with the stored document or without one. -/
theorem ProfileInvariant.completeFetch {s : ProfileState} (h : ProfileInvariant s)
    (hfetch : s.fetch ≠ .completed) {document : Option Parameter}
    (hdocument : ∀ data, document = some data → s.stored = some data) :
    ProfileInvariant (s.completeFetch document) := by
  obtain ⟨hvm, hsource, -⟩ := h.unfetched hfetch
  cases document with
  | none =>
    -- The view model and the sources are left alone.
    refine ⟨fun field => ?_, h.fixed, nofun, fun hne => absurd rfl hne, fun data hdata => ?_,
      h.notTyped⟩
    · cases field <;> exact h.accounted _
    · exact absurd (hsource.symm.trans hdata) nofun
  | some data =>
    -- What was read is still stored, and the empty view model takes its texts over.
    have hstored : s.stored = some data := hdocument data rfl
    refine ⟨fun field => ?_, fun field => ?_, nofun, fun hne => absurd rfl hne, ?_, nofun⟩
    · have hvalue (field : ProfileField) (htext : HasText data field) :
          storedField s.stored field
            = some (.string ((s.screen.profileVM.didGetDocument (some data)).value field)) := by
        rw [hstored, hvm]
        exact storedField_of_hasText htext
      cases field with
      | email => exact hvalue .email
      | fullName => exact hvalue .fullName
      | address => exact h.accounted .address
      | phoneNumber => exact h.accounted .phoneNumber
    · cases field with
      | email => exact nofun
      | fullName => exact nofun
      | address => exact h.fixed .address
      | phoneNumber => exact h.fixed .phoneNumber
    · rintro data' ⟨⟩
      refine ⟨hstored, ?_⟩
      show s.screen.profileVM.didGetDocument (some data) = _
      rw [hvm]

/-- The queued block shows the view model. -/
theorem ProfileInvariant.refresh {s : ProfileState} (h : ProfileInvariant s)
    {screen : ProfileViewController} (hscreen : s.screen.refresh = some screen) :
    ProfileInvariant { s with
      screen
      history := setSource s.history s.vmSource [.address, .phoneNumber]
      save := none } := by
  unfold ProfileViewController.refresh at hscreen
  split at hscreen
  next => cases hscreen
  next =>
    obtain rfl := Option.some.inj hscreen
    -- The block copies the view model, so the texts get its source.
    have hshown (field : ProfileField) (typed : Option String) : Accounted s.stored field
        (s.screen.profileVM.value field) { typed, source := s.vmSource } := by
      unfold Accounted
      cases hsource : s.vmSource with
      | initial => trivial
      | stale => trivial
      | user => exact absurd hsource h.notTyped
      | fetched data =>
        obtain ⟨hstored, hvm⟩ := h.fetched data hsource
        rw [hstored, hvm]
        exact storedField_of_hasText
    refine ⟨fun field => ?_, fun field => ?_, h.read, h.unfetched, h.fetched, h.notTyped⟩
    · cases field with
      | email => exact h.accounted .email
      | fullName => exact h.accounted .fullName
      | address => exact hshown .address _
      | phoneNumber => exact hshown .phoneNumber _
    · cases field with
      | email => exact h.fixed .email
      | fullName => exact h.fixed .fullName
      | address => exact fun _ => Or.inl rfl
      | phoneNumber => exact fun _ => Or.inr rfl

/-- The user types into one of the two text fields. -/
theorem ProfileInvariant.edit {s : ProfileState} (h : ProfileInvariant s)
    {screen : ProfileViewController} {edited : ProfileField} {text : String}
    (hedited : edited = .address ∨ edited = .phoneNumber)
    (hvm : screen.profileVM = s.screen.profileVM) (htext : screen.written edited = text)
    (hother : ∀ field ≠ edited, screen.written field = s.screen.written field) :
    ProfileInvariant { s with
      screen, history := setTyped s.history edited text, save := none } := by
  -- Only the edited field changes, and it is one of the two texts.
  have hsame : ∀ field ≠ edited, setTyped s.history edited text field = s.history field :=
    fun field hfield => if_neg hfield
  refine ⟨fun field => ?_, fun field huser => ?_, h.read, fun hfetch => ?_, fun data hdata => ?_,
    h.notTyped⟩
  · by_cases hfield : field = edited
    · subst hfield htext
      simp [Accounted, setTyped]
    · show Accounted s.stored field (screen.written field) (setTyped s.history edited text field)
      rw [hsame field hfield, hother field hfield]
      exact h.accounted field
  · by_cases hfield : field = edited
    · exact hfield ▸ hedited
    · exact h.fixed field (hsame field hfield ▸ huser)
  · obtain ⟨hempty, hsource, hemail⟩ := h.unfetched hfetch
    have hfield : ProfileField.email ≠ edited := by
      rintro rfl
      cases hedited <;> contradiction
    exact ⟨hvm.trans hempty, hsource, (congrArg History.source (hsame .email hfield)).trans hemail⟩
  · obtain ⟨hstored, hdocument⟩ := h.fetched data hdata
    exact ⟨hstored, hvm.trans hdocument⟩

/-- A tap on the bar button keeps the view model and the texts. -/
theorem ProfileInvariant.tap [BEq String] {s : ProfileState} (h : ProfileInvariant s)
    {screen : ProfileViewController} {write : Option Parameter}
    (htapped : s.screen.didTapEdit = some (screen, write)) (save : Option Save) :
    ProfileInvariant { s with screen, save } := by
  obtain ⟨hvm, haddress, hphoneNo, -⟩ := ProfileViewController.didTapEdit_cases htapped
  refine ⟨fun field => ?_, h.fixed, h.read, fun hfetch => ?_, fun data hdata => ?_, h.notTyped⟩
  · have hwritten : screen.written field = s.screen.written field := by
      cases field <;> simp [ProfileViewController.written, hvm, haddress, hphoneNo]
    show Accounted s.stored field (screen.written field) (s.history field)
    rw [hwritten]
    exact h.accounted field
  · obtain ⟨hempty, hsource, hemail⟩ := h.unfetched hfetch
    exact ⟨hvm.trans hempty, hsource, hemail⟩
  · obtain ⟨hstored, hdocument⟩ := h.fetched data hdata
    exact ⟨hstored, hvm.trans hdocument⟩

/-- A save that knows every value leaves every field stored or typed. -/
theorem ProfileInvariant.write {s : ProfileState} (h : ProfileInvariant s)
    (hknown : ∀ field, (s.history field).source.Known field) {data : Parameter}
    (hdata : ∀ field, storedField (some data) field = some (.string (s.screen.written field))) :
    ProfileInvariant (s.write data none) ∧ ProfileLaw (s.write data none) := by
  have hkept (field : ProfileField) :
      storedField (some data) field = storedField s.stored field ∨
        ((s.history field).source = .user ∧
          (s.history field).typed = some (s.screen.written field)) := by
    rcases (h.accounted field).cases_of_known (hknown field) with huser | hstored
    · exact Or.inr huser
    · exact Or.inl ((hdata field).trans hstored.symm)
  -- The user cannot have typed the email or the full name.
  have hfixed (field : ProfileField) (hfield : ¬(field = .address ∨ field = .phoneNumber)) :
      storedField (some data) field = storedField s.stored field :=
    (hkept field).resolve_right fun huser => hfield (h.fixed field huser.1)
  constructor
  · -- Before the fetch has completed the email is not known.
    have hcompleted : s.fetch = .completed := by
      by_contra hfetch
      have hemail := hknown .email
      rw [(h.unfetched hfetch).2.2] at hemail
      exact hemail
    refine ⟨fun field => (h.accounted field).of_stored (hdata field), h.fixed, ?_, ?_, nofun, nofun⟩
    · intro document hread
      exact absurd (hcompleted.symm.trans hread) nofun
    · exact fun hfetch => absurd hcompleted hfetch
  · refine ⟨?_, ?_, ?_⟩
    · rintro save ⟨⟩
      exact hfixed .email (by decide)
    · rintro save ⟨⟩
      exact hfixed .fullName (by decide)
    · rintro save ⟨⟩ field
      rcases hkept field with hsame | huser
      · exact Or.inl hsame
      · exact Or.inr ⟨_, huser.2, hdata field⟩

/-- A write that changes nothing is lawful. -/
theorem profileLaw_of_unchanged {s : ProfileState}
    (h : ∀ save ∈ s.save, save.after = save.before) : ProfileLaw s := by
  refine ⟨?_, ?_, ?_⟩
  · intro save hsave
    rw [h save hsave]
  · intro save hsave
    rw [h save hsave]
  · intro save hsave field
    exact Or.inl (by rw [h save hsave])

/-- **One event.**  The invariant survives an event that saves known values only, and its write
    is lawful. -/
theorem ProfileInvariant.step [BEq String] {s t : ProfileState} {event : ProfileEvent}
    (h : ProfileInvariant s) (hknown : SavesKnown s event) (ht : s.step event = some t) :
    ProfileInvariant t ∧ ProfileLaw t := by
  cases event with
  | documentRead =>
    obtain ⟨hfetch, rfl⟩ := ProfileState.step_documentRead ht
    have hunfetched := h.unfetched (by rw [hfetch]; nofun)
    refine ⟨⟨h.accounted, h.fixed, ?_, fun _ => hunfetched, h.fetched, h.notTyped⟩,
      profileLaw_of_unchanged nofun⟩
    rintro document ⟨⟩
    rfl
  | fetchReturns =>
    obtain ⟨document, hfetch, rfl⟩ := ProfileState.step_fetchReturns ht
    refine ⟨h.completeFetch (by rw [hfetch]; nofun) ?_, ?_⟩
    · rintro data rfl
      exact (h.read _ hfetch).symm
    · cases document <;> exact profileLaw_of_unchanged nofun
  | fetchFails =>
    obtain ⟨hfetch, rfl⟩ := ProfileState.step_fetchFails ht
    exact ⟨h.completeFetch hfetch nofun, profileLaw_of_unchanged nofun⟩
  | refresh =>
    obtain ⟨screen, hscreen, rfl⟩ := Option.map_eq_some_iff.mp ht
    exact ⟨h.refresh hscreen, profileLaw_of_unchanged nofun⟩
  | didTapEdit error =>
    obtain ⟨⟨screen, write⟩, htapped, rfl⟩ := Option.map_eq_some_iff.mp ht
    obtain ⟨hvm, haddress, hphoneNo, -, rfl | ⟨hdone, hchanged, rfl⟩⟩ :=
      ProfileViewController.didTapEdit_cases htapped
    · exact ⟨h.tap htapped none, profileLaw_of_unchanged nofun⟩
    · -- A refused save changes nothing; an accepted one stores what the screen has in every field.
      cases error with
      | some error =>
        refine ⟨h.tap htapped _, profileLaw_of_unchanged ?_⟩
        rintro save ⟨⟩
        rfl
      | none =>
        refine (h.tap htapped s.save).write (hknown ⟨hdone, hchanged⟩) fun field => ?_
        rw [← hvm, ← haddress, ← hphoneNo]
        exact storedField_updateProfile screen field
  | editAddress text =>
    obtain ⟨screen, hscreen, rfl⟩ := Option.map_eq_some_iff.mp ht
    obtain ⟨-, hscreen⟩ := Option.ite_none_right_eq_some.mp hscreen
    obtain rfl := Option.some.inj hscreen
    refine ⟨h.edit (Or.inl rfl) rfl rfl fun field hfield => ?_, profileLaw_of_unchanged nofun⟩
    cases field <;> first | rfl | exact absurd rfl hfield
  | editPhoneNo text =>
    obtain ⟨screen, hscreen, rfl⟩ := Option.map_eq_some_iff.mp ht
    obtain ⟨-, hscreen⟩ := Option.ite_none_right_eq_some.mp hscreen
    obtain rfl := Option.some.inj hscreen
    refine ⟨h.edit (Or.inr rfl) rfl rfl fun field hfield => ?_, profileLaw_of_unchanged nofun⟩
    cases field <;> first | rfl | exact absurd rfl hfield

/-! ### Runs -/

/-- The document of a new user. -/
def newUserDocument : Parameter :=
  [("email", .string "ada@foodly.ng"), ("fullName", .string "Ada Obi"), ("address", .string ""),
    ("phoneNumber", .string "")]

end Foodly
