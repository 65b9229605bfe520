import Foodly.Accounts.Actions
import Foodly.Home.Welcome

namespace Foodly

open Runs

/-!
# Profiles

The profile of a user is written when the user signs up and on every save, and two screens read
it back: the profile screen its texts, the home screen the first name for its greeting.  The
reference keeps the latest profile of every user.

* `UserProfile`, `UserProfile.asParameter` — what a profile consists of, and how it is stored;
* `ProfileBook.record` — what an action means: the user who is then signed in has the profile that
  it stores;
* `KeepsProfiles` — the database has the profiles of the book, and none for anybody else;
* `SavesSignedIn` — the condition on an action: a profile is only saved while a user is signed in,
  since `updateProfile` unwraps the current user;
* `keepsProfiles_step` — one action;
* `shows_asParameter` — both screens decode what a profile is stored as;
* `profile_shows_latest` — after any run the profile screen and the greeting of every user show the
  latest profile of that user.

A save that changes the name is a save like any other here: the screen lets a user edit the address
and the phone number only.
-/

/-! ### The reference -/

/-- What a profile consists of. -/
structure UserProfile where
  email : String
  fullName : String
  address : String
  phoneNumber : String
  deriving DecidableEq, Repr

/-- How it is stored. -/
def UserProfile.asParameter (profile : UserProfile) : Parameter :=
  ProfileViewModel.updateProfile profile.email profile.fullName profile.address
    profile.phoneNumber

/-- The profile that an action stores, of whoever is signed in afterwards. -/
def AccountAction.profile : AccountAction → Option UserProfile
  | .signUp attempt =>
    if attempt.auth.authResult?.isSome = true ∧ attempt.write = none then
      some ⟨attempt.email, attempt.fullName, attempt.address, attempt.phone⟩
    else none
  | .saveProfile email fullName address phoneNumber none =>
    some ⟨email, fullName, address, phoneNumber⟩
  | .saveProfile _ _ _ _ (some _) | .signIn _ | .signOut | .createOrder _ _ _
  | .updateOrder _ _ _ => none

/-- The latest profile of every user, and who is signed in. -/
structure ProfileBook where
  profiles : String → Option UserProfile
  currentUser : Option String := none

/-- What an action means: the user who is then signed in has the profile that it stores. -/
def ProfileBook.record (book : ProfileBook) (action : AccountAction) : ProfileBook :=
  let currentUser := action.userAfter book.currentUser
  match currentUser, action.profile with
  | some user, some profile =>
    { currentUser, profiles := Function.update book.profiles user (some profile) }
  | _, _ => { book with currentUser }

/-! ### One action -/

/-- A profile is stored in the document of the user. -/
theorem AccountAction.write_of_profile {action : AccountAction} {profile : UserProfile}
    (h : action.profile = some profile) (user : String) :
    action.write user = some (profileOf user, profile.asParameter) := by
  cases action with
  | signUp attempt =>
    rw [AccountAction.profile, Option.ite_none_right_eq_some, Option.some.injEq] at h
    obtain ⟨hstored, rfl⟩ := h
    rw [write, if_pos hstored]
    rfl
  | saveProfile email fullName address phoneNumber error =>
    cases error <;> cases h
    rfl
  | _ => cases h

/-- What stores no profile writes no profile document. -/
theorem AccountAction.write_ne_profileOf {action : AccountAction} (h : action.profile = none)
    {user : String} {document : DocumentReference} {data : Parameter}
    (hwrite : action.write user = some (document, data)) (other : String) :
    document ≠ profileOf other := by
  cases action with
  | signIn | signOut => cases hwrite
  | signUp attempt =>
    rw [AccountAction.profile, ite_eq_right_iff] at h
    rw [write, Option.ite_none_right_eq_some] at hwrite
    cases h hwrite.1
  | saveProfile email fullName address phoneNumber error =>
    cases error with
    | none => cases h
    | some error => cases hwrite
  | createOrder food generated error =>
    -- An order is stored deeper than a profile, so their paths have different lengths.
    cases error <;> cases hwrite
    exact fun heq => by cases congrArg (·.parent.path) heq
  | updateOrder orderId food error =>
    cases error <;> cases hwrite
    exact fun heq => by cases congrArg (·.parent.path) heq

/-- The database has the profiles of the book. -/
structure KeepsProfiles (book : ProfileBook) (f : Firebase) : Prop where
  currentUser : f.currentUser = book.currentUser
  stored : ∀ user, f.database.lookup (profileOf user)
    = (book.profiles user).map UserProfile.asParameter

/-- A profile is saved while a user is signed in. -/
def SavesSignedIn (f : Firebase) (action : AccountAction) : Prop :=
  action.NeedsUser → f.currentUser.isSome = true

/-- **One action.**  It does to the stored profiles what it means. -/
theorem keepsProfiles_step (book : ProfileBook) (f : Firebase) (action : AccountAction)
    (h : KeepsProfiles book f) (hallowed : SavesSignedIn f action) :
    ∃ t, f.step action = some t ∧ KeepsProfiles (book.record action) t := by
  rcases f.step_spec action with ⟨hneeds, hnobody, -⟩ | ⟨-, accounts, hstep⟩
  · rw [SavesSignedIn, hnobody] at hallowed
    cases hallowed hneeds
  refine ⟨_, hstep, ?_⟩
  rw [h.currentUser]
  unfold ProfileBook.record AccountAction.documentsAfter
  cases hafter : action.userAfter book.currentUser with
  | none => exact ⟨rfl, h.stored⟩
  | some user =>
    -- A stored profile replaces that of its user; any other write is to no profile document.
    cases hprofile : action.profile with
    | some profile =>
      refine ⟨rfl, fun other => ?_⟩
      simp only [Option.bind_some, AccountAction.write_of_profile hprofile]
      by_cases hother : other = user
      · rw [hother, AList.lookup_insert, Function.update_self, Option.map_some]
      · have hne : profileOf other ≠ profileOf user := fun heq =>
          hother (congrArg DocumentReference.documentID heq)
        rw [AList.lookup_insert_ne hne, Function.update_of_ne hother, h.stored]
    | none =>
      refine ⟨rfl, fun other => ?_⟩
      rw [← h.stored other]
      simp only [Option.bind_some]
      split
      next document data hwrite =>
        have hne := AccountAction.write_ne_profileOf hprofile hwrite other
        exact AList.lookup_insert_ne hne.symm
      next => rfl

/-! ### What the screens show -/

/-- What the profile screen shows of a profile: the name, the phone number and the address. -/
def shownProfile : Option UserProfile → String × String × String
  | some profile => (profile.fullName, profile.phoneNumber, profile.address)
  | none => ("", "", "")

/-- The home screen's greeting for a profile; without one it stays what it was. -/
def greeted (g : HomeGreeting) (hour : ℕ) : Option UserProfile → HomeGreeting
  | some profile =>
    let welcomeText := gettime hour ++ ", " ++ firstName profile.fullName
    { welcomeText, welcomeLabel := welcomeText }
  | none => g

/-- A new profile screen, once the profile has been fetched and the queued block has run. -/
def openedProfile (document : Option Parameter) : Option ProfileViewController :=
  (ProfileViewController.profileFetched {} document).refresh

/-- A new view model gets the texts that the profile was stored with. -/
theorem didGetDocument_asParameter (profile : UserProfile) :
    ProfileViewModel.didGetDocument {} (some profile.asParameter)
      = { fullName := profile.fullName, userAddress := profile.address
          phoneNumber := profile.phoneNumber, email := profile.email } := by
  have hemail : stringField profile.asParameter "email" = some profile.email := rfl
  have hname : stringField profile.asParameter "fullName" = some profile.fullName := rfl
  have haddress : stringField profile.asParameter "address" = some profile.address := rfl
  have hphone : stringField profile.asParameter "phoneNumber" = some profile.phoneNumber := rfl
  simp only [ProfileViewModel.didGetDocument, hemail, hname, haddress, hphone, Option.getD_some,
    String.empty_append]

/-- **Reading back.**  Both screens decode what a profile is stored as. -/
theorem shows_asParameter (profile : Option UserProfile) (g : HomeGreeting) (hour : ℕ) :
    (openedProfile (profile.map UserProfile.asParameter)).map
        (fun c => (c.nameLbl, c.phoneNo, c.address)) = some (shownProfile profile) ∧
      g.didGetDocument hour (profile.map UserProfile.asParameter)
        = some (greeted g hour profile) := by
  cases profile with
  | none => exact ⟨rfl, rfl⟩
  | some profile =>
    refine ⟨?_, g.didGetDocument_some hour rfl⟩
    rw [Option.map_some, openedProfile, ProfileViewController.profileFetched,
      didGetDocument_asParameter]
    rfl

/-! ### Runs -/

/-- **Profiles.**  From a database with the profiles of the reference, whatever the users do while
    profiles are only saved by a user who is signed in, no step fails, and afterwards the profile
    screen and the greeting of every user show the latest profile written for that user. -/
theorem profile_shows_latest (profiles : String → Option UserProfile) (f : Firebase)
    (hstored : ∀ user, f.database.lookup (profileOf user)
      = (profiles user).map UserProfile.asParameter)
    (actions : List AccountAction) (hactions : Allowed Firebase.step SavesSignedIn f actions) :
    ∃ t, run Firebase.step f actions = some t ∧ ∀ user,
      let latest :=
        (actions.foldl ProfileBook.record ⟨profiles, f.currentUser⟩).profiles user
      let document := t.database.lookup (profileOf user)
      (openedProfile document).map (fun c => (c.nameLbl, c.phoneNo, c.address))
          = some (shownProfile latest) ∧
        ∀ (g : HomeGreeting) (hour : ℕ),
          g.didGetDocument hour document = some (greeted g hour latest) := by
  obtain ⟨t, ht, hkeeps⟩ := run_simulates keepsProfiles_step
    (r := ⟨profiles, f.currentUser⟩) ⟨rfl, hstored⟩ hactions
  refine ⟨t, ht, fun user => ?_⟩
  rw [hkeeps.stored user]
  exact ⟨(shows_asParameter _ (.new 0) 0).1, fun g hour => (shows_asParameter _ g hour).2⟩

/-- Ada signs up and adds her address; Bola, who signs up in between, is not concerned. -/
theorem profile_shows_latest_two_users :
    let ada : Attempt :=
      { fullName := "Ada Obi", email := "ada@foodly.ng", password := "Passw0rd!"
        auth := .success "ada" }
    let bola : Attempt :=
      { fullName := "Bola Ade", email := "bola@foodly.ng", password := "Passw0rd!"
        auth := .success "bola" }
    let actions : List AccountAction :=
      [.signUp ada, .signUp bola, .signIn "ada",
        .saveProfile "ada@foodly.ng" "Ada Obi" "1 Allen Avenue" "0800" none]
    ∃ t, run Firebase.step {} actions = some t ∧ ∀ user,
      let latest := (actions.foldl ProfileBook.record ⟨fun _ => none, none⟩).profiles user
      let document := t.database.lookup (profileOf user)
      (openedProfile document).map (fun c => (c.nameLbl, c.phoneNo, c.address))
          = some (shownProfile latest) ∧
        ∀ (g : HomeGreeting) (hour : ℕ),
          g.didGetDocument hour document = some (greeted g hour latest) := by
  refine profile_shows_latest (fun _ => none) {} (fun _ => rfl) _ ⟨nofun, fun t ht => ?_⟩
  refine ⟨nofun, fun u hu => ⟨nofun, fun v hv => ⟨fun _ => ?_, fun _ _ => trivial⟩⟩⟩
  obtain rfl : _ = v := Option.some.inj hv
  rfl

end Foodly
