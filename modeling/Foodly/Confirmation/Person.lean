import Foodly.Confirmation.Controller
import Foodly.Lib.Runs
import Mathlib.Data.List.Induction

namespace Foodly

open Runs

/-!
# Who delivers

A delivery person is shown and called with four values that the view model collects field by
field.  A document that assigns only some of them leaves the others as an earlier document had
them, so that the name on the screen and the number to dial may be those of two persons.

* `TakenFromOne` — the law: the four values come from one document, and nothing was assigned after
  it;
* `EndsWithPerson` — the condition on documents: the last one that assigns anything assigns all
  four values;
* `takenFromOne_foldl_iff` — the loop over the documents meets the law exactly under the condition;
* `HoldsOne`, `DeliversPerson` — both for the screen and its deliveries, and `holdsOne_iff_guarded`
  for its runs;
* `HoldsValuesOfOne`, `holds_values_of_one` — what the law says about the values alone;
* `CallsNamed`, `CallsDrained` — every number called is that of the person named on the screen, and
  every call is made when the queue has drained: the name follows later than the number;
* `one_person_iff` — both results for runs;
* `mixed_person_held` — a number that is not a text, and so a name and a number of two persons.
-/

/-! ### Documents -/

/-- Some of the four values is assigned from the document. -/
def assigns (person : Document) : Bool :=
  (deliveryFields person.data).any fun fields =>
    fields.deliveryName.asString.isSome || fields.deliveryTime.asString.isSome ||
      fields.imgName.asString.isSome || fields.phoneNumber.asString.isSome

/-- The four values of a document that has all of them as texts. -/
def deliveryPerson (person : Document) : Option DeliveryViewModel := do
  let fields ← deliveryFields person.data
  let name ← fields.deliveryName.asString
  let time ← fields.deliveryTime.asString
  let imageName ← fields.imgName.asString
  let phone ← fields.phoneNumber.asString
  return { name, time, imageName, phone }

/-- No value has been assigned, or one document has assigned all four and nothing has been
    assigned after it.  This is about where the values come from, not about which they are: a
    later document that assigns one of them the value that it has already breaks it. -/
def TakenFromOne (delivered : QuerySnapshot) (vm : DeliveryViewModel) : Prop :=
  (vm = {} ∧ ∀ person ∈ delivered, assigns person = false) ∨
    ∃ before person after, delivered = before ++ person :: after ∧
      deliveryPerson person = some vm ∧ ∀ later ∈ after, assigns later = false

/-- The last document that assigns anything, if there is one, assigns all four values. -/
def EndsWithPerson (documents : QuerySnapshot) : Prop :=
  ∀ person ∈ (documents.filter assigns).getLast?, (deliveryPerson person).isSome = true

instance (documents : QuerySnapshot) : Decidable (EndsWithPerson documents) :=
  inferInstanceAs (Decidable (∀ person ∈ (documents.filter assigns).getLast?, _ = true))

/-- A document that assigns nothing leaves the view model as it is. -/
theorem addPerson_of_not_assigns (vm : DeliveryViewModel) {person : Document}
    (h : assigns person = false) : vm.addPerson person = vm := by
  unfold assigns at h
  unfold DeliveryViewModel.addPerson
  cases hfields : deliveryFields person.data with
  | none => rfl
  | some fields =>
    rw [hfields] at h
    simp only [Option.any_some, Bool.or_eq_false_iff, Option.isSome_eq_false_iff,
      Option.isNone_iff_eq_none] at h
    -- No field is a text, so every value stays as it was.
    obtain ⟨⟨⟨hname, htime⟩, himage⟩, hphone⟩ := h
    simp only [DeliveryViewModel.assign, hname, htime, himage, hphone, Option.getD_none]

/-- A document that has all four values determines the view model. -/
theorem addPerson_of_deliveryPerson (vm : DeliveryViewModel) {person : Document}
    {values : DeliveryViewModel} (h : deliveryPerson person = some values) :
    vm.addPerson person = values := by
  obtain ⟨fields, hfields, h⟩ := Option.bind_eq_some_iff.mp h
  obtain ⟨name, hname, h⟩ := Option.bind_eq_some_iff.mp h
  obtain ⟨time, htime, h⟩ := Option.bind_eq_some_iff.mp h
  obtain ⟨imageName, himage, h⟩ := Option.bind_eq_some_iff.mp h
  obtain ⟨phone, hphone, h⟩ := Option.bind_eq_some_iff.mp h
  obtain rfl : _ = values := Option.some.inj h
  rw [DeliveryViewModel.addPerson, hfields]
  simp only [DeliveryViewModel.assign, hname, htime, himage, hphone, Option.getD_some]

theorem assigns_of_deliveryPerson {person : Document} {values : DeliveryViewModel}
    (h : deliveryPerson person = some values) : assigns person = true := by
  obtain ⟨fields, hfields, h⟩ := Option.bind_eq_some_iff.mp h
  obtain ⟨name, hname, -⟩ := Option.bind_eq_some_iff.mp h
  simp [assigns, hfields, hname]

/-- The name and the number of a person are fields of the document. -/
theorem deliveryPerson_fields {person : Document} {values : DeliveryViewModel}
    (h : deliveryPerson person = some values) :
    stringField person.data "name" = some values.name ∧
      stringField person.data "phoneNumber" = some values.phone := by
  obtain ⟨fields, hfields, h⟩ := Option.bind_eq_some_iff.mp h
  obtain ⟨name, hname, h⟩ := Option.bind_eq_some_iff.mp h
  obtain ⟨time, -, h⟩ := Option.bind_eq_some_iff.mp h
  obtain ⟨imageName, -, h⟩ := Option.bind_eq_some_iff.mp h
  obtain ⟨phone, hphone, h⟩ := Option.bind_eq_some_iff.mp h
  obtain rfl : _ = values := Option.some.inj h
  -- First the casts, then the look-ups of the fields that were cast.
  obtain ⟨deliveryName, hlookupName, hfields⟩ := Option.bind_eq_some_iff.mp hfields
  obtain ⟨deliveryTime, -, hfields⟩ := Option.bind_eq_some_iff.mp hfields
  obtain ⟨imgName, -, hfields⟩ := Option.bind_eq_some_iff.mp hfields
  obtain ⟨phoneNumber, hlookupPhone, hfields⟩ := Option.bind_eq_some_iff.mp hfields
  obtain rfl : _ = fields := Option.some.inj hfields
  unfold stringField
  rw [hlookupName, hlookupPhone]
  exact ⟨hname, hphone⟩

/-! ### The loop -/

/-- A list that ends with `last` and has `taken` somewhere: it is the last one, or stands before
    it. -/
theorem concat_eq_append_cons {delivered before after : QuerySnapshot} {last taken : Document}
    (h : delivered ++ [last] = before ++ taken :: after) :
    taken = last ∨ ∃ init, after = init ++ [last] ∧ delivered = before ++ taken :: init := by
  rcases List.eq_nil_or_concat after with rfl | ⟨init, x, rfl⟩
  · exact Or.inl (List.append_singleton_inj.mp h).2.symm
  · rw [List.concat_eq_append, ← List.cons_append, ← List.append_assoc] at h
    obtain ⟨hdelivered, rfl⟩ := List.append_singleton_inj.mp h
    exact Or.inr ⟨init, List.concat_eq_append, hdelivered⟩

/-- A document that assigns nothing may stand behind the one taken. -/
theorem takenFromOne_concat_of_not_assigns {delivered : QuerySnapshot} {person : Document}
    (vm : DeliveryViewModel) (h : assigns person = false) :
    TakenFromOne (delivered ++ [person]) vm ↔ TakenFromOne delivered vm := by
  constructor
  · rintro (⟨hvm, hnone⟩ | ⟨before, taken, after, heq, htaken, hafter⟩)
    · exact Or.inl ⟨hvm, fun p hp => hnone p (List.mem_append_left _ hp)⟩
    · rcases concat_eq_append_cons heq with rfl | ⟨init, rfl, hdelivered⟩
      · -- The document taken assigns, so it is not the last one.
        rw [assigns_of_deliveryPerson htaken] at h
        cases h
      · exact Or.inr ⟨before, taken, init, hdelivered, htaken,
          fun p hp => hafter p (List.mem_append_left _ hp)⟩
  · have hlast (ps : QuerySnapshot) (hps : ∀ p ∈ ps, assigns p = false) :
        ∀ p ∈ ps ++ [person], assigns p = false := by
      simpa [or_imp, forall_and] using ⟨hps, h⟩
    rintro (⟨hvm, hnone⟩ | ⟨before, taken, after, rfl, htaken, hafter⟩)
    · exact Or.inl ⟨hvm, hlast _ hnone⟩
    · exact Or.inr ⟨before, taken, after ++ [person], by simp, htaken, hlast _ hafter⟩

/-- After a document that assigns, only that document can be the one taken. -/
theorem takenFromOne_concat_of_assigns (delivered : QuerySnapshot) {person : Document}
    (vm : DeliveryViewModel) (h : assigns person = true) :
    TakenFromOne (delivered ++ [person]) (vm.addPerson person) ↔
      (deliveryPerson person).isSome = true := by
  constructor
  · rintro (⟨-, hnone⟩ | ⟨before, taken, after, heq, htaken, hafter⟩)
    · rw [hnone person (by simp)] at h
      cases h
    · rcases concat_eq_append_cons heq with rfl | ⟨init, rfl, -⟩
      · rw [htaken]
        rfl
      · -- An earlier document was taken, but then nothing is assigned after it.
        rw [hafter person (by simp)] at h
        cases h
  · intro hperson
    obtain ⟨values, hvalues⟩ := Option.isSome_iff_exists.mp hperson
    rw [addPerson_of_deliveryPerson vm hvalues]
    exact Or.inr ⟨delivered, person, [], rfl, hvalues, nofun⟩

/-- **Loop.**  The values that documents leave come from one of them, or from none, exactly
    when the last one that assigns anything assigns all four. -/
theorem takenFromOne_foldl_iff (delivered : QuerySnapshot) :
    TakenFromOne delivered (delivered.foldl DeliveryViewModel.addPerson {}) ↔
      EndsWithPerson delivered := by
  -- By induction from the end: a last document that assigns decides, any other may be left out.
  induction delivered using List.reverseRecOn with
  | nil => exact iff_of_true (Or.inl ⟨rfl, nofun⟩) nofun
  | append_singleton delivered person ih =>
    rw [List.foldl_append, List.foldl_cons, List.foldl_nil]
    unfold EndsWithPerson at ih ⊢
    rw [List.filter_append]
    cases hassigns : assigns person with
    | false =>
      rw [addPerson_of_not_assigns _ hassigns, takenFromOne_concat_of_not_assigns _ hassigns, ih,
        List.filter_cons_of_neg (by simp [hassigns]), List.filter_nil, List.append_nil]
    | true =>
      rw [takenFromOne_concat_of_assigns _ _ hassigns, List.filter_cons_of_pos hassigns,
        List.filter_nil, List.getLast?_concat]
      simp

/-- Documents that follow others: those that assign count, and otherwise the earlier ones do. -/
theorem endsWithPerson_append {earlier documents : QuerySnapshot} (h : EndsWithPerson earlier) :
    EndsWithPerson (earlier ++ documents) ↔ EndsWithPerson documents := by
  unfold EndsWithPerson at *
  rw [List.filter_append, List.getLast?_append]
  cases hlast : (documents.filter assigns).getLast? with
  | none => exact iff_of_true h nofun
  | some person => rfl

/-! ### Runs -/

variable {Image : Type} (A : Assets Image)

/-- The documents that an event delivers. -/
def ConfirmationEvent.documents : ConfirmationEvent → QuerySnapshot
  | .delivered delivery => delivery.snapshot?.getD []
  | .viewDidAppear | .mainQueue | .callButton => []

/-- The screen, the documents that its listener has been called back with, and the calls made:
    the name shown and the address opened. -/
structure CallState (Image : Type) where
  screen : ConfirmationViewController Image
  delivered : QuerySnapshot := []
  calls : List (String × String) := []

def CallState.step (p : CallState Image) (event : ConfirmationEvent) :
    Option (CallState Image) := do
  let screen ← p.screen.step A event
  let calls :=
    if event = .callButton then p.calls ++ [(p.screen.nameLabel, p.screen.callButton)]
    else p.calls
  return { screen, delivered := p.delivered ++ event.documents, calls }

/-- The four values of the view model come from one document. -/
def HoldsOne (p : CallState Image) : Prop := TakenFromOne p.delivered p.screen.viewModel

/-- The four values are those of one document, wherever they come from. -/
def HoldsValuesOfOne (p : CallState Image) : Prop :=
  p.screen.viewModel = {} ∨
    ∃ person ∈ p.delivered, deliveryPerson person = some p.screen.viewModel

/-- Values that come from one document are those of it. -/
theorem HoldsOne.values {p : CallState Image} (h : HoldsOne p) : HoldsValuesOfOne p := by
  rcases h with ⟨hempty, -⟩ | ⟨before, person, after, hdelivered, hperson, -⟩
  · exact Or.inl hempty
  · exact Or.inr ⟨person, by simp [hdelivered], hperson⟩

/-- No number has been called, or the number is that of a document with the name shown. -/
def CallsNamed (p : CallState Image) : Prop :=
  ∀ call ∈ p.calls, call.2 = "tel://" ∨
    ∃ person ∈ p.delivered, stringField person.data "name" = some call.1 ∧
      (stringField person.data "phoneNumber").map ("tel://" ++ ·) = some call.2

/-- A snapshot ends with a whole person. -/
def DeliversPerson (_ : CallState Image) (event : ConfirmationEvent) : Prop :=
  EndsWithPerson event.documents

/-- A call is made when no block is on the queue. -/
def CallsDrained (p : CallState Image) (event : ConfirmationEvent) : Prop :=
  event = .callButton → p.screen.mainQueue = 0

instance (p : CallState Image) (event : ConfirmationEvent) : Decidable (DeliversPerson p event) :=
  inferInstanceAs (Decidable (EndsWithPerson event.documents))

instance (p : CallState Image) (event : ConfirmationEvent) : Decidable (CallsDrained p event) :=
  inferInstanceAs (Decidable (event = _ → _))

/-- Once there is a number to dial, it is the view model's, and so is the name shown when the
    queue has drained. -/
structure ReadyToCall (s : ConfirmationViewController Image) : Prop where
  early : s.confirmationDetailsCompletion = false → s.phoneNumber = ""
  ready : s.phoneNumber = "" ∨
    s.phoneNumber = s.viewModel.phone ∧ (s.mainQueue = 0 → s.nameLabel = s.viewModel.name)

variable {A}

/-- What an event does to the screen: a snapshot changes the view model, and once the closure is
    set also the number to dial, with one block more on the queue. -/
theorem ConfirmationViewController.step_cases {s t : ConfirmationViewController Image}
    {event : ConfirmationEvent} (ht : s.step A event = some t) :
    (event = .viewDidAppear ∧ t = { s with confirmationDetailsCompletion := true }) ∨
    (∃ documents, event = .delivered (.snapshot documents) ∧
      s.confirmationDetailsCompletion = false ∧
      t = { s with viewModel := documents.foldl DeliveryViewModel.addPerson s.viewModel }) ∨
    (∃ documents, event = .delivered (.snapshot documents) ∧
      s.confirmationDetailsCompletion = true ∧
      t = { s with
        viewModel := documents.foldl DeliveryViewModel.addPerson s.viewModel
        mainQueue := s.mainQueue + 1
        phoneNumber := (documents.foldl DeliveryViewModel.addPerson s.viewModel).phone }) ∨
    (∃ n, event = .mainQueue ∧ s.mainQueue = n + 1 ∧ t = { s with mainQueue := n }.showDetails A) ∨
    ((event = .callButton ∨ ∃ e, event = .delivered (.error e)) ∧ t = s) := by
  cases event with
  | viewDidAppear => exact Or.inl ⟨rfl, (Option.some.inj ht).symm⟩
  | delivered delivery =>
    obtain rfl : _ = t := Option.some.inj ht
    cases delivery with
    | error e => exact Or.inr (Or.inr (Or.inr (Or.inr ⟨Or.inr ⟨e, rfl⟩, rfl⟩)))
    | snapshot documents =>
      have hreceived : s.received (Router.complete (.snapshot documents)) = { s with
          viewModel := documents.foldl DeliveryViewModel.addPerson s.viewModel
          }.detailsCompletion := rfl
      rw [hreceived]
      unfold detailsCompletion
      -- `confirmationDetailsCompletion?()` does nothing before `viewDidAppear`.
      cases hclosure : s.confirmationDetailsCompletion with
      | false => exact Or.inr (Or.inl ⟨documents, rfl, rfl, rfl⟩)
      | true => exact Or.inr (Or.inr (Or.inl ⟨documents, rfl, rfl, rfl⟩))
  | mainQueue =>
    rw [step] at ht
    split at ht
    · cases ht
    · rename_i n hn
      exact Or.inr (Or.inr (Or.inr (Or.inl ⟨n, rfl, hn, (Option.some.inj ht).symm⟩)))
  | callButton =>
    exact Or.inr (Or.inr (Or.inr (Or.inr ⟨Or.inl rfl, (Option.some.inj ht).symm⟩)))

theorem ReadyToCall.step {s t : ConfirmationViewController Image} {event : ConfirmationEvent}
    (h : ReadyToCall s) (ht : s.step A event = some t) : ReadyToCall t := by
  obtain ⟨-, rfl⟩ | ⟨documents, -, hclosure, rfl⟩ | ⟨documents, -, hclosure, rfl⟩ |
    ⟨n, -, -, rfl⟩ | ⟨-, rfl⟩ := ConfirmationViewController.step_cases ht
  · exact ⟨nofun, h.ready⟩
  · exact ⟨fun _ => h.early hclosure, Or.inl (h.early hclosure)⟩
  · exact ⟨fun hnone => Bool.noConfusion (hclosure.symm.trans hnone), Or.inr ⟨rfl, nofun⟩⟩
  · exact ⟨h.early, h.ready.imp_right fun hready => ⟨hready.1, fun _ => rfl⟩⟩
  · exact h

/-- The documents that an event delivers run through the loop. -/
theorem ConfirmationViewController.viewModel_step {s t : ConfirmationViewController Image}
    {event : ConfirmationEvent} (ht : s.step A event = some t) :
    t.viewModel = event.documents.foldl DeliveryViewModel.addPerson s.viewModel := by
  obtain ⟨rfl, rfl⟩ | ⟨documents, rfl, -, rfl⟩ | ⟨documents, rfl, -, rfl⟩ | ⟨n, rfl, -, rfl⟩ |
    ⟨rfl | ⟨e, rfl⟩, rfl⟩ := step_cases ht
  all_goals rfl

/-- What a step records: the documents delivered, and a call. -/
theorem CallState.step_cases {p q : CallState Image} {event : ConfirmationEvent}
    (hq : p.step A event = some q) :
    p.screen.step A event = some q.screen ∧ q.delivered = p.delivered ++ event.documents ∧
      (q.calls = p.calls ∨ event = .callButton ∧
        q.calls = p.calls ++ [(p.screen.nameLabel, p.screen.callButton)]) := by
  obtain ⟨screen, hscreen, hq⟩ := Option.bind_eq_some_iff.mp hq
  obtain rfl : _ = q := Option.some.inj hq
  refine ⟨hscreen, rfl, ?_⟩
  by_cases hcall : event = .callButton
  · exact Or.inr ⟨hcall, if_pos hcall⟩
  · exact Or.inl (if_neg hcall)

/-- The view model is what the loop makes of all documents delivered. -/
def Loaded (p : CallState Image) : Prop :=
  p.screen.viewModel = p.delivered.foldl DeliveryViewModel.addPerson {}

theorem Loaded.step {p q : CallState Image} {event : ConfirmationEvent} (h : Loaded p)
    (hq : p.step A event = some q) : Loaded q := by
  obtain ⟨hscreen, hdelivered, -⟩ := CallState.step_cases hq
  unfold Loaded at *
  rw [ConfirmationViewController.viewModel_step hscreen, hdelivered, h, List.foldl_append]

/-- The values come from one document exactly when the documents delivered end with one. -/
theorem Loaded.holdsOne_iff {p : CallState Image} (h : Loaded p) :
    HoldsOne p ↔ EndsWithPerson p.delivered := by
  rw [HoldsOne, h, takenFromOne_foldl_iff]

/-- **One event.**  It keeps the four values from one document exactly when a snapshot that it
    delivers ends with a whole person. -/
theorem Loaded.step_holdsOne_iff {p q : CallState Image} {event : ConfirmationEvent}
    (h : Loaded p) (hlaw : HoldsOne p) (hq : p.step A event = some q) :
    HoldsOne q ↔ DeliversPerson p event := by
  obtain ⟨-, hdelivered, -⟩ := CallState.step_cases hq
  rw [(h.step hq).holdsOne_iff, hdelivered]
  exact endsWithPerson_append (h.holdsOne_iff.mp hlaw)

/-- A drained screen names the person whose number it dials. -/
theorem ReadyToCall.named {p : CallState Image} (h : ReadyToCall p.screen) (hlaw : HoldsOne p)
    (hdrained : p.screen.mainQueue = 0) :
    p.screen.callButton = "tel://" ∨
      ∃ person ∈ p.delivered, stringField person.data "name" = some p.screen.nameLabel ∧
        (stringField person.data "phoneNumber").map ("tel://" ++ ·)
          = some p.screen.callButton := by
  unfold ConfirmationViewController.callButton
  -- As long as no number has been set, `tel://` is opened with nothing behind it.
  rcases h.ready with hnone | ⟨hphone, hname⟩
  · rw [hnone]
    exact Or.inl rfl
  · rcases hlaw with ⟨hempty, -⟩ | ⟨before, person, after, hdelivered, hperson, -⟩
    · rw [hphone, hempty]
      exact Or.inl rfl
    · -- The four values are those of one document, and the screen shows its name.
      obtain ⟨hnamed, hnumber⟩ := deliveryPerson_fields hperson
      rw [hphone, hname hdrained, hdelivered]
      exact Or.inr ⟨person, by simp, hnamed, by rw [hnumber]; rfl⟩

/-- **One event.**  A call on a drained screen that holds one person is of the one named. -/
theorem CallsNamed.step {p q : CallState Image} {event : ConfirmationEvent} (h : CallsNamed p)
    (hready : ReadyToCall p.screen) (hlaw : HoldsOne p) (hcall : CallsDrained p event)
    (hq : p.step A event = some q) : CallsNamed q := by
  obtain ⟨-, hdelivered, hcalls⟩ := CallState.step_cases hq
  have hgrows : ∀ person ∈ p.delivered, person ∈ q.delivered := by
    intro person hperson
    rw [hdelivered]
    exact List.mem_append_left _ hperson
  intro call hmem
  -- Earlier calls were of persons who are still among those delivered.
  have hnamed : call ∈ p.calls ∨ event = .callButton ∧
      call = (p.screen.nameLabel, p.screen.callButton) := by
    rcases hcalls with hsame | ⟨hevent, hnew⟩
    · exact Or.inl (hsame ▸ hmem)
    · rw [hnew, List.mem_append, List.mem_singleton] at hmem
      exact hmem.imp_right fun heq => ⟨hevent, heq⟩
  rcases hnamed with hmem | ⟨hevent, rfl⟩
  · exact (h call hmem).imp_right
      fun ⟨person, hperson, hfields⟩ => ⟨person, hgrows person hperson, hfields⟩
  · exact (hready.named hlaw (hcall hevent)).imp_right
      fun ⟨person, hperson, hfields⟩ => ⟨person, hgrows person hperson, hfields⟩

variable (A)

/-- The screen as it is pushed. -/
def CallState.start : CallState Image := { screen := .instantiate A }

/-- The four values come from one document throughout a run exactly when every snapshot ends with a
    whole person. -/
theorem holdsOne_iff_guarded (events : List ConfirmationEvent) :
    Always (CallState.step A) HoldsOne (.start A) events ↔
      Guarded (CallState.step A) DeliversPerson (.start A) events := by
  have hloaded : Loaded (.start A) := rfl
  have hholds : HoldsOne (.start A) := Or.inl ⟨rfl, nofun⟩
  apply always_iff_guarded_of_invariant ?_ ?_ hloaded hholds
  · intro p event q h hq
    exact h.step hq
  · intro p event q h hlaw hq
    exact h.step_holdsOne_iff hlaw hq

/-- **One person.**  The four values come from one document throughout a run exactly when every
    snapshot ends with a whole person; if moreover every call finds the queue drained, every
    number called is that of the person named. -/
theorem one_person_iff (events : List ConfirmationEvent) :
    (Always (CallState.step A) HoldsOne (.start A) events ↔
        Guarded (CallState.step A) DeliversPerson (.start A) events) ∧
      (Guarded (CallState.step A) (fun p event => DeliversPerson p event ∧ CallsDrained p event)
          (.start A) events →
        Always (CallState.step A) (fun p => HoldsOne p ∧ CallsNamed p) (.start A) events) := by
  have hloaded : Loaded (.start A) := rfl
  have hholds : HoldsOne (.start A) := Or.inl ⟨rfl, nofun⟩
  have hready : ReadyToCall (CallState.start A).screen := ⟨fun _ => rfl, Or.inl rfl⟩
  refine ⟨holdsOne_iff_guarded A events, fun hguarded => ?_⟩
  -- Both parts together: the call needs the law of the state that it is made in.
  have hall := always_of_guarded (E := fun _ _ => True)
    (I := fun p => (HoldsOne p ∧ CallsNamed p) ∧ Loaded p ∧ ReadyToCall p.screen)
    (fun p event q ⟨⟨hlaw, hcalls⟩, hloaded, hready⟩ _ hguard hq =>
      ⟨⟨(hloaded.step_holdsOne_iff hlaw hq).mpr hguard.1,
          hcalls.step hready hlaw hguard.2 hq⟩,
        hloaded.step hq, hready.step (CallState.step_cases hq).1⟩)
    ⟨⟨hholds, nofun⟩, hloaded, hready⟩ (allowed_of_forall_mem fun _ _ => trivial) hguarded
  exact hall.imp fun _ h => h.1

/-- The four values are those of one document throughout a run in which every snapshot ends with a
    whole person. -/
theorem holds_values_of_one {events : List ConfirmationEvent}
    (hevents : Guarded (CallState.step A) DeliversPerson (.start A) events) :
    Always (CallState.step A) HoldsValuesOfOne (.start A) events :=
  ((holdsOne_iff_guarded A events).mpr hevents).imp fun _ h => h.values

/-- A document of a delivery person. -/
def deliveryDocument (documentID name : String) (phoneNumber : FieldValue) : Document where
  documentID := documentID
  data := [("name", .string name), ("deliveryTime", .string "20 Min"),
    ("imageName", .string "rider"), ("phoneNumber", phoneNumber)]

/-- One person is delivered, shown and called. -/
theorem one_person_iff_called : Always (CallState.step allAssets)
    (fun p => HoldsOne p ∧ CallsNamed p) (.start allAssets)
    [.viewDidAppear, .delivered (.snapshot [deliveryDocument "1" "Ada" (.string "0803")]),
      .mainQueue, .callButton] :=
  (one_person_iff allAssets _).2 (by decide +kernel)

/-- A number that is not a text: the name is one person's and the number another's. -/
theorem mixed_person_held : ¬ ∀ events : List ConfirmationEvent,
    Always (CallState.step allAssets) HoldsValuesOfOne (.start allAssets) events := by
  intro h
  have hvalues : (run (CallState.step allAssets) (.start allAssets)
      [.viewDidAppear, .delivered (.snapshot [deliveryDocument "1" "Ada" (.string "0803"),
        deliveryDocument "2" "Bayo" (.integer 805)]), .mainQueue, .callButton]).map (fun p =>
          (p.screen.viewModel, p.delivered, p.calls))
      = some (⟨"Bayo", "20 Min", "rider", "0803"⟩,
          [deliveryDocument "1" "Ada" (.string "0803"), deliveryDocument "2" "Bayo" (.integer 805)],
          [("Bayo", "tel://0803")]) := by
    decide +kernel
  obtain ⟨p, hp, hp'⟩ := Option.map_eq_some_iff.mp hvalues
  obtain ⟨hviewModel, hp'⟩ := Prod.mk.inj hp'
  obtain ⟨hdelivered, -⟩ := Prod.mk.inj hp'
  have hlaw := (h _).last hp
  rw [HoldsValuesOfOne, hviewModel, hdelivered] at hlaw
  exact absurd hlaw (by decide +kernel)

end Foodly
