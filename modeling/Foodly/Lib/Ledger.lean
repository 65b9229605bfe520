import Foodly.Lib.InFlight

namespace InFlight

open DocumentStore

/-!
# A ledger of writes

What becomes of the inserts that go through an outbox: each is placed once and is then pending
until it is answered, and accepted or rejected from then on.  The ledger says so for items of any
type that are encoded as inserts.  It is the reference that a client of the store is compared
with: it knows nothing of keys, and forgets nothing that was ever placed.

* `Balanced.place`, `Balanced.answer` — every item placed is in exactly one of the three lists;
* `Tracks.place`, `Tracks.answer` — the outbox does what the ledger says;
* `Tracks.group_perm` — reading a group of the store gives what was there at first, with the
  accepted items;
* `Tracks.group_localView_perm` — reading it as the client does gives the pending items as well;
* `Replays.place`, `Replays.answer` — the same for items that may meet under one key, where the
  later one stands, and `Replays.tracks` leads back to items that do not.

`Tracks` needs a key of its own for every item at the moment when it is placed.  `Replays` needs
nothing: it says in which order the accepted items were written, and only at the end asks whether
their keys are different.
-/

variable {α κ ν γ : Type*}

/-- The items placed, in order, and what has become of them. -/
structure Ledger (α : Type*) where
  placed : List α := []
  pending : List α := []
  accepted : List α := []
  rejected : List α := []

namespace Ledger

/-- An item is placed. -/
def place (l : Ledger α) (a : α) : Ledger α :=
  { l with placed := l.placed ++ [a], pending := l.pending ++ [a] }

/-- One of the pending items is answered. -/
def answer (l : Ledger α) (index : ℕ) (ok : Bool) : Ledger α :=
  match l.pending[index]? with
  | none => l
  | some a =>
    let pending := l.pending.eraseIdx index
    if ok then { l with pending, accepted := l.accepted ++ [a] }
    else { l with pending, rejected := l.rejected ++ [a] }

theorem answer_true {l : Ledger α} {index : ℕ} {a : α} (ha : l.pending[index]? = some a) :
    l.answer index true
      = { l with pending := l.pending.eraseIdx index, accepted := l.accepted ++ [a] } := by
  simp only [answer, ha, if_true]

theorem answer_false {l : Ledger α} {index : ℕ} {a : α} (ha : l.pending[index]? = some a) :
    l.answer index false
      = { l with pending := l.pending.eraseIdx index, rejected := l.rejected ++ [a] } := by
  simp only [answer, ha, Bool.false_eq_true, if_false]

/-- Every item placed is pending, accepted or rejected, and only one of them. -/
def Balanced (l : Ledger α) : Prop := (l.pending ++ (l.accepted ++ l.rejected)).Perm l.placed

theorem balanced_empty : Balanced ({} : Ledger α) := List.Perm.refl _

theorem Balanced.place {l : Ledger α} (h : l.Balanced) (a : α) : (l.place a).Balanced := by
  show (l.pending ++ [a] ++ (l.accepted ++ l.rejected)).Perm (l.placed ++ [a])
  rw [List.append_assoc]
  refine List.Perm.trans ?_ (h.append_right [a])
  rw [List.append_assoc]
  exact List.perm_append_comm.append_left _

theorem Balanced.answer {l : Ledger α} (h : l.Balanced) (index : ℕ) (ok : Bool) :
    (l.answer index ok).Balanced := by
  cases ha : l.pending[index]? with
  | none =>
    rw [Ledger.answer, ha]
    exact h
  | some a =>
    -- The answered item only moves from one list to another.
    have hmoved : (a :: (l.pending.eraseIdx index ++ (l.accepted ++ l.rejected))).Perm l.placed :=
      ((Parallel.perm_of_getElem? ha).append_right _).trans h
    cases ok with
    | true =>
      rw [answer_true ha]
      show (l.pending.eraseIdx index ++ (l.accepted ++ [a] ++ l.rejected)).Perm l.placed
      refine List.Perm.trans ?_ hmoved
      rw [List.append_assoc, List.singleton_append, ← List.append_assoc, ← List.append_assoc]
      exact List.perm_middle
    | false =>
      rw [answer_false ha]
      show (l.pending.eraseIdx index ++ (l.accepted ++ (l.rejected ++ [a]))).Perm l.placed
      refine List.Perm.trans ?_ hmoved
      rw [← List.append_assoc, ← List.append_assoc, ← List.append_assoc]
      exact List.perm_append_singleton _ _

/-- What tells the placed items apart tells those apart that are accepted or pending. -/
theorem Balanced.nodup_kept {β : Type*} {l : Ledger α} (h : l.Balanced) {f : α → β}
    (hdistinct : (l.placed.map f).Nodup) : ((l.accepted ++ l.pending).map f).Nodup := by
  have hall := (h.map f).nodup_iff.mpr hdistinct
  rw [← List.append_assoc, List.map_append] at hall
  have hkept := (List.nodup_append.mp hall).1
  exact (List.perm_append_comm.map f).nodup_iff.mpr hkept

theorem Balanced.mem_placed {l : Ledger α} (h : l.Balanced) {a : α}
    (ha : a ∈ l.accepted ++ l.pending) : a ∈ l.placed := by
  rw [← h.mem_iff, List.mem_append, List.mem_append]
  rcases List.mem_append.mp ha with ha | ha
  · exact Or.inr (Or.inl ha)
  · exact Or.inl ha

end Ledger

/-! ### The outbox of a ledger -/

variable [DecidableEq κ] {enc : α → κ × ν} {start : Store κ ν}

/-- The pending items are in flight in order, and stored is what was there at the start and the
    accepted items, each under a key of its own. -/
structure Tracks (enc : α → κ × ν) (start : Store κ ν) (l : Ledger α) (o : Outbox κ ν) : Prop where
  inFlight : o.inFlight = l.pending.map enc
  wellFormed : o.WellFormed
  stored : ∀ key value, o.stored.lookup key = some value ↔
    start.lookup key = some value ∨ (key, value) ∈ l.accepted.map enc
  distinct : ((l.accepted.map enc).map Prod.fst).Nodup
  fresh : ∀ key ∈ (l.accepted.map enc).map Prod.fst, start.lookup key = none

namespace Tracks

variable {l : Ledger α} {o : Outbox κ ν}

/-- Nothing has been placed. -/
theorem empty (enc : α → κ × ν) (start : Store κ ν) :
    Tracks enc start {} ({ stored := start } : Outbox κ ν) where
  inFlight := rfl
  wellFormed := Outbox.wellFormed_of_inFlight_eq_nil start
  stored _ _ := by simp
  distinct := List.nodup_nil
  fresh := nofun

/-- Placing an item under an unused key. -/
theorem place (h : Tracks enc start l o) {a : α} (hunused : o.Unused (enc a).1) :
    Tracks enc start (l.place a) (o.send (enc a)) where
  inFlight := by
    show o.inFlight ++ [enc a] = (l.pending ++ [a]).map enc
    rw [h.inFlight, List.map_append, List.map_singleton]
  wellFormed := h.wellFormed.send hunused
  stored := h.stored
  distinct := h.distinct
  fresh := h.fresh

/-- A key that is not stored is that of no accepted item, and was not there at the start. -/
theorem not_stored (h : Tracks enc start l o) {key : κ} (hkey : o.stored.lookup key = none) :
    start.lookup key = none ∧ key ∉ (l.accepted.map enc).map Prod.fst := by
  constructor
  · by_contra hstart
    obtain ⟨value, hvalue⟩ := Option.ne_none_iff_exists'.mp hstart
    rw [(h.stored key value).mpr (Or.inl hvalue)] at hkey
    cases hkey
  · intro hmem
    obtain ⟨write, hwrite, rfl⟩ := List.mem_map.mp hmem
    rw [(h.stored _ write.2).mpr (Or.inr hwrite)] at hkey
    cases hkey

/-- Answering a pending item. -/
theorem answer (h : Tracks enc start l o) {index : ℕ} (hindex : index < o.inFlight.length)
    (ok : Bool) :
    ∃ o', o.answer index ok = some o' ∧ Tracks enc start (l.answer index ok) o' := by
  have hpending : index < l.pending.length := by
    rw [h.inFlight, List.length_map] at hindex
    exact hindex
  have ha : l.pending[index]? = some l.pending[index] := List.getElem?_eq_getElem hpending
  generalize l.pending[index] = a at ha
  have hwrite : o.inFlight[index]? = some (enc a) := by
    rw [h.inFlight, List.getElem?_map, ha, Option.map_some]
  have hleft : o.inFlight.eraseIdx index = (l.pending.eraseIdx index).map enc := by
    rw [h.inFlight, List.eraseIdx_map]
  have hanswer : o.answer index ok = some
      { stored := if ok then o.stored.insert (enc a).1 (enc a).2 else o.stored
        inFlight := o.inFlight.eraseIdx index } := by
    rw [Outbox.answer, hwrite]
    rfl
  have hwellFormed := h.wellFormed.answer hanswer
  refine ⟨_, hanswer, ?_⟩
  -- A rejected item is dropped on both sides; an accepted one goes from the flight to the store.
  cases ok with
  | false =>
    rw [Ledger.answer_false ha]
    exact ⟨hleft, hwellFormed, h.stored, h.distinct, h.fresh⟩
  | true =>
    rw [Ledger.answer_true ha]
    have hunstored : o.stored.lookup (enc a).1 = none :=
      h.wellFormed.fresh _ (List.mem_map_of_mem (List.mem_of_getElem? hwrite))
    obtain ⟨hstart, hnew⟩ := h.not_stored hunstored
    refine ⟨hleft, hwellFormed, fun key value => ?_, ?_, ?_⟩
    · show (o.stored.insert (enc a).1 (enc a).2).lookup key = some value ↔
        _ ∨ (key, value) ∈ (l.accepted ++ [a]).map enc
      rw [List.map_append, List.map_singleton, List.mem_append, List.mem_singleton, ← or_assoc,
        ← h.stored key value]
      by_cases hkey : key = (enc a).1
      · -- the accepted item itself, whose key was not stored before
        rw [hkey, AList.lookup_insert, hunstored, Option.some.injEq]
        simp [Prod.ext_iff, eq_comm]
      · have hother : (key, value) ≠ enc a := fun heq => hkey (congrArg Prod.fst heq)
        rw [AList.lookup_insert_ne hkey, or_iff_left hother]
    · show (((l.accepted ++ [a]).map enc).map Prod.fst).Nodup
      rw [List.map_append, List.map_append, List.nodup_append_comm]
      exact List.nodup_cons.mpr ⟨hnew, h.distinct⟩
    · intro key hkey
      rw [List.map_append, List.map_append, List.mem_append] at hkey
      rcases hkey with hkey | hkey
      · exact h.fresh key hkey
      · obtain rfl : key = (enc a).1 := List.mem_singleton.mp hkey
        exact hstart

/-- A store that holds what was there at the start, and some items under different keys that
    were free then, reads as these. -/
theorem group_perm_of_lookup [DecidableEq γ] {store : Store κ ν} {items : List α}
    (hlookup : ∀ key value, store.lookup key = some value ↔
      start.lookup key = some value ∨ (key, value) ∈ items.map enc)
    (hdistinct : ((items.map enc).map Prod.fst).Nodup)
    (hfresh : ∀ key ∈ (items.map enc).map Prod.fst, start.lookup key = none) (f : κ → γ) (c : γ) :
    (group f c store).Perm
      (group f c start ++ (items.map enc).filter fun write => decide (f write.1 = c)) := by
  apply DocumentStore.group_perm
  · rw [List.map_append, List.nodup_append]
    refine ⟨nodup_keys_group f c start,
      hdistinct.sublist (List.filter_sublist.map Prod.fst), fun key hold key' hnew => ?_⟩
    -- A key of an item was free, so it is none of the old ones.
    rintro rfl
    obtain ⟨⟨_, value⟩, hmem, rfl⟩ := List.mem_map.mp hold
    have hstart := (mem_group.mp hmem).2
    rw [hfresh _ ((List.filter_sublist.map Prod.fst).subset hnew)] at hstart
    cases hstart
  · intro key value
    rw [List.mem_append, mem_group, List.mem_filter, decide_eq_true_eq, hlookup]
    tauto

/-- **Reading a group.**  It gives what was there at the start, and the accepted items of the
    group. -/
theorem group_perm [DecidableEq γ] (h : Tracks enc start l o) (f : κ → γ) (c : γ) :
    (group f c o.stored).Perm
      (group f c start ++ (l.accepted.map enc).filter fun write => decide (f write.1 = c)) :=
  group_perm_of_lookup h.stored h.distinct h.fresh f c

/-- **Reading a group as the client does.**  It gives what was there at the start, and the items
    of the group that are accepted or pending. -/
theorem group_localView_perm [DecidableEq γ] (h : Tracks enc start l o) (f : κ → γ) (c : γ) :
    (group f c o.localView).Perm
      (group f c start ++
        ((l.accepted ++ l.pending).map enc).filter fun write => decide (f write.1 = c)) := by
  have hnodup := h.wellFormed.nodup
  have hunstored := h.wellFormed.fresh
  rw [h.inFlight] at hnodup hunstored
  apply group_perm_of_lookup
  · intro key value
    rw [Outbox.lookup_localView h.wellFormed, Outbox.Kept, h.stored, h.inFlight, List.map_append,
      List.mem_append, or_assoc]
  · rw [List.map_append, List.map_append, List.nodup_append]
    refine ⟨h.distinct, hnodup, fun key haccepted key' hpending => ?_⟩
    -- What is accepted is stored, and what is pending is not.
    rintro rfl
    exact (h.not_stored (hunstored key hpending)).2 haccepted
  · intro key hkey
    rw [List.map_append, List.map_append, List.mem_append] at hkey
    rcases hkey with haccepted | hpending
    · exact h.fresh key haccepted
    · exact (h.not_stored (hunstored key hpending)).1

end Tracks

/-! ### Writes that may meet -/

/-- The pending items are in flight in order, and what is stored has come about by writing the
    accepted items in turn, be it under keys of their own or over each other. -/
structure Replays (enc : α → κ × ν) (start : Store κ ν) (l : Ledger α) (o : Outbox κ ν) :
    Prop where
  inFlight : o.inFlight = l.pending.map enc
  stored : o.stored
    = (l.accepted.map enc).foldl (fun store write => store.insert write.1 write.2) start

/-- What is there after some writes was there before, or was written. -/
theorem lookup_foldl_insert_eq_none_iff {writes : List (κ × ν)} {store : Store κ ν} {key : κ} :
    (writes.foldl (fun store write => store.insert write.1 write.2) store).lookup key = none ↔
      store.lookup key = none ∧ key ∉ writes.map Prod.fst := by
  induction writes generalizing store with
  | nil => simp
  | cons write writes ih =>
    rw [List.foldl_cons, ih, List.map_cons, List.mem_cons, not_or]
    by_cases hkey : key = write.1
    · simp [hkey]
    · rw [AList.lookup_insert_ne hkey, and_iff_right hkey]

/-- Writes under different keys that were free are all there, with what was there before. -/
theorem lookup_foldl_insert {writes : List (κ × ν)} {store : Store κ ν} {key : κ} {value : ν}
    (hdistinct : (writes.map Prod.fst).Nodup)
    (hfree : ∀ key ∈ writes.map Prod.fst, store.lookup key = none) :
    (writes.foldl (fun store write => store.insert write.1 write.2) store).lookup key = some value ↔
      store.lookup key = some value ∨ (key, value) ∈ writes := by
  -- The store is generalized, since every write leaves the others under keys that are free in it.
  induction writes generalizing store with
  | nil => simp
  | cons write writes ih =>
    rw [List.map_cons, List.nodup_cons] at hdistinct
    rw [List.map_cons, List.forall_mem_cons] at hfree
    have hothers : ∀ key ∈ writes.map Prod.fst,
        (store.insert write.1 write.2).lookup key = none := by
      intro key hkey
      have hother : key ≠ write.1 := fun heq => hdistinct.1 (heq ▸ hkey)
      rw [AList.lookup_insert_ne hother]
      exact hfree.2 key hkey
    rw [List.foldl_cons, ih hdistinct.2 hothers, List.mem_cons, ← or_assoc]
    refine or_congr_left ?_
    by_cases hkey : key = write.1
    · -- the write itself, whose key was free before it
      rw [hkey, AList.lookup_insert, hfree.1, Option.some.injEq]
      simp [Prod.ext_iff, eq_comm]
    · have hother : (key, value) ≠ write := fun heq => hkey (congrArg Prod.fst heq)
      rw [AList.lookup_insert_ne hkey, or_iff_left hother]

namespace Replays

variable {l : Ledger α} {o : Outbox κ ν}

/-- Nothing has been placed. -/
theorem empty (enc : α → κ × ν) (start : Store κ ν) :
    Replays enc start {} ({ stored := start } : Outbox κ ν) :=
  ⟨rfl, rfl⟩

/-- Placing an item, under whichever key. -/
theorem place (h : Replays enc start l o) (a : α) :
    Replays enc start (l.place a) (o.send (enc a)) where
  inFlight := by
    show o.inFlight ++ [enc a] = (l.pending ++ [a]).map enc
    rw [h.inFlight, List.map_append, List.map_singleton]
  stored := h.stored

/-- Answering a pending item. -/
theorem answer (h : Replays enc start l o) {index : ℕ} (hindex : index < o.inFlight.length)
    (ok : Bool) :
    ∃ a o', l.pending[index]? = some a ∧ o.answer index ok = some o' ∧
      Replays enc start (l.answer index ok) o' := by
  have hpending : index < l.pending.length := by
    rw [h.inFlight, List.length_map] at hindex
    exact hindex
  have ha : l.pending[index]? = some l.pending[index] := List.getElem?_eq_getElem hpending
  generalize l.pending[index] = a at ha
  have hwrite : o.inFlight[index]? = some (enc a) := by
    rw [h.inFlight, List.getElem?_map, ha, Option.map_some]
  have hleft : o.inFlight.eraseIdx index = (l.pending.eraseIdx index).map enc := by
    rw [h.inFlight, List.eraseIdx_map]
  refine ⟨a, _, ha, by rw [Outbox.answer, hwrite]; rfl, ?_⟩
  -- The accepted items are carried out in the order of their answers, one more of them at the end.
  cases ok with
  | false =>
    rw [Ledger.answer_false ha]
    exact ⟨hleft, h.stored⟩
  | true =>
    rw [Ledger.answer_true ha]
    refine ⟨hleft, ?_⟩
    show o.stored.insert (enc a).1 (enc a).2 = ((l.accepted ++ [a]).map enc).foldl _ start
    rw [List.map_append, List.foldl_append, ← h.stored]
    rfl

/-- Items under keys of their own are tracked. -/
theorem tracks (h : Replays enc start l o)
    (hdistinct : (((l.accepted ++ l.pending).map enc).map Prod.fst).Nodup)
    (hfree : ∀ key ∈ ((l.accepted ++ l.pending).map enc).map Prod.fst, start.lookup key = none) :
    Tracks enc start l o := by
  rw [List.map_append, List.map_append] at hdistinct hfree
  obtain ⟨haccepted, hpending, hapart⟩ := List.nodup_append.mp hdistinct
  have hfreeAccepted : ∀ key ∈ (l.accepted.map enc).map Prod.fst, start.lookup key = none :=
    fun key hkey => hfree key (List.mem_append_left _ hkey)
  refine
    { inFlight := h.inFlight
      wellFormed := ⟨?_, ?_⟩
      stored := ?_
      distinct := haccepted
      fresh := hfreeAccepted }
  · rw [h.inFlight]
    exact hpending
  · -- What is pending has a free key: it was free at the start, and no accepted item has it.
    intro key hkey
    rw [h.inFlight] at hkey
    rw [h.stored, lookup_foldl_insert_eq_none_iff]
    exact ⟨hfree key (List.mem_append_right _ hkey), fun hmem => hapart key hmem key hkey rfl⟩
  · intro key value
    rw [h.stored]
    exact lookup_foldl_insert haccepted hfreeAccepted

end Replays

end InFlight
