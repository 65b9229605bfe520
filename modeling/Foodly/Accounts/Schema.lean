import Foodly.Accounts.Actions
import Foodly.Profile.Saves

namespace Foodly

open Runs

/-!
# What is stored can be read

Documents have no type: a reader takes the fields that it knows and falls back to a placeholder,
or skips the document, when one is missing.  What the screens write has all the fields that the
screens read.  `FireNetworking`, which no screen calls, stores sample users in the same collection
with other fields.

* `FireNetworking.create`, `read`, `update`, `delete` — the four methods, with the references and
  the data that they have in the source;
* `StoreEvent` — a screen writes, or a method of `FireNetworking` is called;
* `ReadersDecode` — the law: the profile screen gets the stored text of every field, and the order
  history a row for every order;
* `NoSampleUser` — the condition on an event: it stores no sample user;
* `Writes.decodes` — what the app stores has the fields that its readers take;
* `readersDecode_step` — one event;
* `readers_decode_iff` — in which runs of both no reader ever misses a field.
-/

variable {Image : Type} (A : Assets Image)

/-! ### `FireNetworking` -/

namespace FireNetworking

def userReference : CollectionReference := Firestore.collection "users"

/-- `create()`. -/
def create : FirestoreCall :=
  .addDocument userReference [("firstName", .string "Obi"), ("lastName", .string "Ugoh")]

/-- `read()`: the listener only prints. -/
def read : FirestoreCall := .addSnapshotListener (.collection userReference)

/-- `update()`. -/
def update : FirestoreCall :=
  .setData (userReference.document "G6dvsOr0ATjwOPX9LW4G")
    [("firstName", .string "Halir"), ("lastName", .string "AbdulAzeez")]

/-- `delete()`. -/
def delete : FirestoreCall := .delete (userReference.document "LMaj2zzdkvdrLSP0CJZ7")

/-- The four methods. -/
inductive Method
  | create
  | read
  | update
  | delete
  deriving DecidableEq, Repr

def Method.call : Method → FirestoreCall
  | .create => FireNetworking.create
  | .read => FireNetworking.read
  | .update => FireNetworking.update
  | .delete => FireNetworking.delete

end FireNetworking

/-! ### Events -/

/-- A screen writes, or a method of `FireNetworking` is called; `generated` is the id that is made
    up for a document that it adds. -/
inductive StoreEvent
  | action (action : AccountAction)
  | fireNetworking (method : FireNetworking.Method) (generated : String)
  deriving DecidableEq, Repr

def Firebase.stepStore (f : Firebase) : StoreEvent → Option Firebase
  | .action action => f.step action
  | .fireNetworking method generated =>
    some { f with database := method.call.perform generated f.database }

/-! ### The law and its condition -/

/-- The profile screen gets the stored text of every field, and the order history a row for every
    order. -/
structure ReadersDecode (f : Firebase) : Prop where
  profiles : ∀ user, ∀ data ∈ f.database.lookup (profileOf user), ∀ field,
    storedField (some data) field
      = some (.string ((ProfileViewModel.didGetDocument {} (some data)).value field))
  orders : ∀ user, ∀ document ∈ documentsIn (orderHistoryOf user) f.database,
    (historyDetail A document).isSome = true

/-- The event stores no sample user. -/
def NoSampleUser : StoreEvent → Prop
  | .fireNetworking .create _ | .fireNetworking .update _ => False
  | .fireNetworking .read _ | .fireNetworking .delete _ | .action _ => True

instance : (event : StoreEvent) → Decidable (NoSampleUser event)
  | .fireNetworking .create _ | .fireNetworking .update _ => inferInstanceAs (Decidable False)
  | .fireNetworking .read _ | .fireNetworking .delete _ | .action _ =>
    inferInstanceAs (Decidable True)

/-! ### One event -/

variable {A}

/-- What the app stores has the fields that the readers of its document take. -/
theorem Writes.decodes {user : String} {document : DocumentReference} {data : Parameter}
    (h : Writes user document data) (A : Assets Image) :
    (∀ other, document = profileOf other → ∀ field, HasText data field) ∧
      (∀ other, document.parent = orderHistoryOf other →
        ∀ id, (historyDetail A ⟨id, data⟩).isSome = true) := by
  -- A profile is read by the profile screen only, an order by the history only.
  cases h with
  | profile email fullName address phoneNumber =>
    constructor
    · intro other _ field
      cases field <;> rfl
    · intro other hparent
      cases congrArg CollectionReference.path hparent
  | order id food =>
    constructor
    · intro other hprofile
      cases congrArg (·.parent.path) hprofile
    · intro other _ id
      rw [historyDetail_asParameter]
      rfl

/-- The readers go on decoding when every document of a user is an old one, or one that the app
    has written. -/
theorem ReadersDecode.of_lookup {f t : Firebase} (h : ReadersDecode A f)
    (hlookup : ∀ user document data, OwnedBy user document →
      t.database.lookup document = some data →
        f.database.lookup document = some data ∨ ∃ writer, Writes writer document data) :
    ReadersDecode A t where
  profiles user data hdata field := by
    rcases hlookup user _ data (Or.inl rfl) hdata with hold | ⟨writer, hnew⟩
    · exact h.profiles user data hold field
    · exact storedField_of_hasText ((hnew.decodes A).1 user rfl field)
  orders user document hdocument := by
    obtain ⟨id, data⟩ := document
    have hdata := mem_documentsIn.mp hdocument
    rcases hlookup user _ data (Or.inr rfl) hdata with hold | ⟨writer, hnew⟩
    · exact h.orders user _ (mem_documentsIn.mpr hold)
    · exact (hnew.decodes A).2 user rfl id

/-- After an action a document is what it was, or what the app has written. -/
theorem AccountAction.lookup_documentsAfter {action : AccountAction} {currentUser : Option String}
    {database : Database} {document : DocumentReference} {data : Parameter}
    (h : (action.documentsAfter currentUser database).lookup document = some data) :
    database.lookup document = some data ∨ ∃ writer, Writes writer document data := by
  unfold documentsAfter at h
  split at h
  next written new hwrite =>
    -- Only the written document can have changed.
    by_cases hkey : document = written
    · obtain ⟨user, -, hwrite⟩ := Option.bind_eq_some_iff.mp hwrite
      rw [hkey, AList.lookup_insert, Option.some.injEq] at h
      rw [hkey, ← h]
      exact Or.inr ⟨user, writes_of_write hwrite⟩
    · rw [AList.lookup_insert_ne hkey] at h
      exact Or.inl h
  next => exact Or.inl h

/-- A sample user has no email. -/
theorem not_readersDecode_of_sample {f : Firebase} {user : String} {data : Parameter}
    (hstored : f.database.lookup (profileOf user) = some data)
    (hsample : data.lookup "email" = none) : ¬ReadersDecode A f := by
  intro h
  have hemail := h.profiles user data hstored .email
  rw [show storedField (some data) .email = data.lookup "email" from rfl, hsample] at hemail
  cases hemail

/-- **One event.**  Every reader goes on decoding exactly when the event stores no sample user. -/
theorem readersDecode_step {f t : Firebase} {event : StoreEvent} (h : ReadersDecode A f)
    (ht : f.stepStore event = some t) : ReadersDecode A t ↔ NoSampleUser event := by
  cases event with
  | action action =>
    refine iff_of_true (h.of_lookup fun user document data _ hdata => ?_) trivial
    rcases f.step_spec action with ⟨-, -, hnone⟩ | ⟨-, accounts, hstep⟩
    · rw [Firebase.stepStore, hnone] at ht
      cases ht
    · rw [Firebase.stepStore, hstep, Option.some.injEq] at ht
      rw [← ht] at hdata
      exact AccountAction.lookup_documentsAfter hdata
  | fireNetworking method generated =>
    obtain rfl : _ = t := Option.some.inj ht
    cases method with
    | create =>
      exact iff_of_false (not_readersDecode_of_sample (AList.lookup_insert _) rfl) id
    | read => exact iff_of_true h trivial
    | update =>
      exact iff_of_false (not_readersDecode_of_sample (AList.lookup_insert _) rfl) id
    | delete =>
      refine iff_of_true (h.of_lookup fun user document data _ hdata => ?_) trivial
      -- What is left was there before.
      have hmem := AList.mem_lookup_iff.mp hdata
      exact Or.inl (AList.mem_lookup_iff.mpr ((List.kerase_sublist _ _).subset hmem))

/-! ### Runs -/

variable (A)

/-- **Readers.**  From documents that every reader decodes, the profile screen never falls back to
    a placeholder and the order history never skips an order throughout a run, exactly when the
    run stores no sample user. -/
theorem readers_decode_iff {f : Firebase} (h : ReadersDecode A f) (events : List StoreEvent) :
    Always Firebase.stepStore (ReadersDecode A) f events ↔
      Guarded Firebase.stepStore (fun _ event => NoSampleUser event) f events :=
  always_iff_guarded_of_step (fun _ _ _ => readersDecode_step) h

/-- Without documents there is nothing to decode; then a user signs up and orders, and one of the
    sample users is deleted. -/
theorem readers_decode_iff_delete :
    let ada : Attempt :=
      { fullName := "Ada Obi", email := "ada@foodly.ng", password := "Passw0rd!"
        auth := .success "ada" }
    let events : List StoreEvent :=
      [.action (.signUp ada), .action (.createOrder { name := "Soup" } "o1" none),
        .fireNetworking .delete ""]
    Always Firebase.stepStore (ReadersDecode allAssets) {} events := by
  have hempty : ReadersDecode allAssets {} := by
    refine ⟨fun user data hdata => ?_, fun user document hdocument => ?_⟩
    · cases hdata
    · cases hdocument
  exact (readers_decode_iff allAssets hempty _).mpr (by decide +kernel)

end Foodly
