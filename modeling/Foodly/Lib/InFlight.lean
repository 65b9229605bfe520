import Foodly.Lib.DocumentStore
import Foodly.Lib.Parallel

namespace InFlight

open DocumentStore

/-!
# Writes in flight

A client sends inserts to a store and the store answers them one by one, in any order: an
accepted insert is carried out, a rejected one is dropped.  The client itself does not wait for
the answers: it reads the store with its own inserts already carried out (`localView`).

An `Outbox` is the store together with the inserts in flight.  When every insert has a key of its
own that the store does not have yet (`WellFormed`), nothing that is sent is lost before a
rejection, and what is rejected is gone:

* `WellFormed.send`, `WellFormed.answer` — an insert under an unused key, and any answer, keep the
  outbox well formed;
* `kept_send`, `kept_accepted` — what is stored or in flight stays so when it is accepted;
* `not_kept_rejected` — after a rejection nothing is stored or in flight under the key;
* `lookup_localView` — the client reads exactly what is stored or in flight.

Without keys of their own, two inserts under one key overwrite each other in the order in which
they are answered, which need not be the order in which they were sent; what then happens is the
subject of a ledger of writes.
-/

variable {κ ν : Type*} [DecidableEq κ]

/-- A store, and the inserts that were sent and not answered yet, in the order sent. -/
structure Outbox (κ ν : Type*) [DecidableEq κ] where
  stored : Store κ ν := ∅
  inFlight : List (κ × ν) := []

namespace Outbox

/-- An insert is sent. -/
def send (o : Outbox κ ν) (write : κ × ν) : Outbox κ ν :=
  { o with inFlight := o.inFlight ++ [write] }

/-- The store answers one of the inserts in flight. -/
def answer (o : Outbox κ ν) (index : ℕ) (accepted : Bool) : Option (Outbox κ ν) := do
  let write ← o.inFlight[index]?
  let stored := if accepted then o.stored.insert write.1 write.2 else o.stored
  return { stored, inFlight := o.inFlight.eraseIdx index }

/-- The key is stored with the value, or on its way. -/
def Kept (o : Outbox κ ν) (key : κ) (value : ν) : Prop :=
  o.stored.lookup key = some value ∨ (key, value) ∈ o.inFlight

/-- Nothing is stored or in flight under the key. -/
def Unused (o : Outbox κ ν) (key : κ) : Prop :=
  o.stored.lookup key = none ∧ key ∉ o.inFlight.map Prod.fst

instance [DecidableEq ν] (o : Outbox κ ν) (key : κ) : Decidable (o.Unused key) :=
  inferInstanceAs (Decidable (_ ∧ _))

/-- The inserts in flight have keys of their own, which the store does not have. -/
structure WellFormed (o : Outbox κ ν) : Prop where
  nodup : (o.inFlight.map Prod.fst).Nodup
  fresh : ∀ key ∈ o.inFlight.map Prod.fst, o.stored.lookup key = none

theorem wellFormed_of_inFlight_eq_nil (stored : Store κ ν) :
    WellFormed ({ stored } : Outbox κ ν) where
  nodup := List.nodup_nil
  fresh := nofun

/-- Nothing is kept under an unused key. -/
theorem Unused.not_kept {o : Outbox κ ν} {key : κ} (h : o.Unused key) (value : ν) :
    ¬ o.Kept key value := by
  rintro (hstored | hflight)
  · rw [h.1] at hstored
    cases hstored
  · exact h.2 (List.mem_map_of_mem (f := Prod.fst) hflight)

/-! ### Sending -/

theorem WellFormed.send {o : Outbox κ ν} (h : o.WellFormed) {write : κ × ν}
    (hunused : o.Unused write.1) : (o.send write).WellFormed where
  nodup := by
    rw [Outbox.send, List.map_append, List.map_singleton, List.nodup_append_comm]
    exact List.nodup_cons.mpr ⟨hunused.2, h.nodup⟩
  fresh key hkey := by
    rw [Outbox.send, List.map_append, List.map_singleton, List.mem_append,
      List.mem_singleton] at hkey
    rcases hkey with hkey | rfl
    · exact h.fresh key hkey
    · exact hunused.1

theorem kept_send (o : Outbox κ ν) (write : κ × ν) (key : κ) (value : ν) :
    (o.send write).Kept key value ↔ o.Kept key value ∨ (key, value) = write := by
  rw [Kept, Kept, Outbox.send, List.mem_append, List.mem_singleton, or_assoc]

/-! ### Answers -/

/-- The keys left in flight have no repetitions, and the answered one is not among them. -/
theorem WellFormed.nodup_answered {o : Outbox κ ν} (h : o.WellFormed) {index : ℕ} {write : κ × ν}
    (hwrite : o.inFlight[index]? = some write) :
    write.1 ∉ (o.inFlight.eraseIdx index).map Prod.fst ∧
      ((o.inFlight.eraseIdx index).map Prod.fst).Nodup := by
  have hnodup := ((Parallel.perm_of_getElem? hwrite).map Prod.fst).nodup_iff.mpr h.nodup
  rwa [List.map_cons, List.nodup_cons] at hnodup

theorem WellFormed.answer {o o' : Outbox κ ν} (h : o.WellFormed) {index : ℕ} {accepted : Bool}
    (ho : o.answer index accepted = some o') : o'.WellFormed := by
  obtain ⟨write, hwrite, heq⟩ := Option.bind_eq_some_iff.mp ho
  obtain rfl : _ = o' := Option.some.inj heq
  obtain ⟨hgone, hnodup⟩ := h.nodup_answered hwrite
  refine ⟨hnodup, fun key hkey => ?_⟩
  have hfresh : o.stored.lookup key = none :=
    h.fresh key (((List.eraseIdx_sublist _ _).map Prod.fst).subset hkey)
  cases accepted with
  | false => exact hfresh
  | true =>
    have hne : key ≠ write.1 := fun heq => hgone (heq ▸ hkey)
    show (o.stored.insert write.1 write.2).lookup key = none
    rw [AList.lookup_insert_ne hne, hfresh]

/-- What is in flight after an answer was in flight before. -/
theorem mem_of_mem_answer {o o' : Outbox κ ν} {index : ℕ} {accepted : Bool}
    (ho : o.answer index accepted = some o') {write : κ × ν} (hwrite : write ∈ o'.inFlight) :
    write ∈ o.inFlight := by
  obtain ⟨answered, -, heq⟩ := Option.bind_eq_some_iff.mp ho
  obtain rfl : _ = o' := Option.some.inj heq
  exact List.mem_of_mem_eraseIdx hwrite

/-- **Acceptance.**  What is stored or in flight stays so. -/
theorem kept_accepted {o o' : Outbox κ ν} (h : o.WellFormed) {index : ℕ}
    (ho : o.answer index true = some o') {key : κ} {value : ν} (hkept : o.Kept key value) :
    o'.Kept key value := by
  obtain ⟨write, hwrite, heq⟩ := Option.bind_eq_some_iff.mp ho
  obtain rfl : _ = o' := Option.some.inj heq
  show (o.stored.insert write.1 write.2).lookup key = some value ∨ _
  rcases hkept with hstored | hflight
  · -- The key is stored already, so it is not the key of the answered insert.
    have hne : key ≠ write.1 := by
      rintro rfl
      have hfresh := h.fresh write.1 (List.mem_map_of_mem (List.mem_of_getElem? hwrite))
      rw [hfresh] at hstored
      cases hstored
    rw [AList.lookup_insert_ne hne]
    exact Or.inl hstored
  · -- It is the answered insert, or one of those that are still in flight.
    have hmem := (Parallel.perm_of_getElem? hwrite).mem_iff.mpr hflight
    rcases List.mem_cons.mp hmem with rfl | hleft
    · exact Or.inl (AList.lookup_insert _)
    · exact Or.inr hleft

/-- **Rejection.**  Nothing is left under the key. -/
theorem not_kept_rejected {o o' : Outbox κ ν} (h : o.WellFormed) {index : ℕ} {write : κ × ν}
    (hwrite : o.inFlight[index]? = some write) (ho : o.answer index false = some o') (value : ν) :
    ¬ o'.Kept write.1 value := by
  obtain ⟨write', hwrite', heq⟩ := Option.bind_eq_some_iff.mp ho
  obtain rfl : write = write' := Option.some.inj (hwrite.symm.trans hwrite')
  obtain rfl : _ = o' := Option.some.inj heq
  apply Unused.not_kept
  exact ⟨h.fresh write.1 (List.mem_map_of_mem (List.mem_of_getElem? hwrite)),
    (h.nodup_answered hwrite).1⟩

/-! ### The client's own reads -/

/-- What the client reads: the inserts in flight are carried out, in order, on what is stored. -/
def localView (o : Outbox κ ν) : Store κ ν :=
  o.inFlight.foldl (fun view write => view.insert write.1 write.2) o.stored

/-- Carrying out the oldest insert leaves a well-formed outbox with the others. -/
theorem WellFormed.tail {stored : Store κ ν} {write : κ × ν} {inFlight : List (κ × ν)}
    (h : WellFormed ⟨stored, write :: inFlight⟩) :
    WellFormed ⟨stored.insert write.1 write.2, inFlight⟩ := by
  have hanswer : Outbox.answer ⟨stored, write :: inFlight⟩ 0 true
      = some ⟨stored.insert write.1 write.2, inFlight⟩ := rfl
  exact h.answer hanswer

/-- **Local view.**  The client reads what is stored or in flight. -/
theorem lookup_localView {o : Outbox κ ν} (h : o.WellFormed) (key : κ) (value : ν) :
    o.localView.lookup key = some value ↔ o.Kept key value := by
  obtain ⟨stored, inFlight⟩ := o
  -- By induction on the inserts in flight, as the client carries them out one after the other.
  induction inFlight generalizing stored with
  | nil => simp [localView, Kept]
  | cons write inFlight ih =>
    have hview := ih (stored.insert write.1 write.2) h.tail
    have hfresh : stored.lookup write.1 = none := h.fresh write.1 List.mem_cons_self
    show (localView ⟨stored.insert write.1 write.2, inFlight⟩).lookup key = some value ↔ _
    rw [hview, Kept, Kept, List.mem_cons, ← or_assoc]
    refine or_congr_left ?_
    show (stored.insert write.1 write.2).lookup key = some value ↔
      stored.lookup key = some value ∨ (key, value) = write
    by_cases hkey : key = write.1
    · -- The insert itself, under a key that is not stored.
      rw [hkey, AList.lookup_insert, hfresh, Option.some.injEq]
      simp [Prod.ext_iff, eq_comm]
    · have hother : (key, value) ≠ write := fun heq => hkey (congrArg Prod.fst heq)
      rw [AList.lookup_insert_ne hkey, or_iff_left hother]

end Outbox

end InFlight
