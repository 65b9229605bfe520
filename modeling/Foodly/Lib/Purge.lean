import Foodly.Lib.Runs

namespace Runs

/-!
# Purged runs

An observer sees some of the actions of a run.  `purge step V s as` are the actions of the run
from `s` that meet `V` in the state they were attempted in; the others are left out.  If the
purged run ends in a state that looks the same to the observer, what is hidden does not interfere
with what is seen.

* `purge_visible`, `purge_hidden` — one action of the run is kept or left out;
* `run_purge` — the rule for noninterference: if two states that look the same to the observer
  still do so after a visible action of both, or a hidden action of the first, then the purged run
  looks the same at its end;
* `run_purge_of_guarded` — the same rule for runs whose steps meet a guard;
* `purge_eq_filter` — where the action alone decides whether it is seen, a purged run is a filtered
  one.

In general the state decides with the action: the same action may be seen at one moment and be
hidden at another, as when it is done by whoever is present.
-/

variable {σ α : Type*} {step : σ → α → Option σ} {V : σ → α → Prop} [∀ s a, Decidable (V s a)]

/-- The visible actions of a run, up to the first that fails. -/
def purge (step : σ → α → Option σ) (V : σ → α → Prop) [∀ s a, Decidable (V s a)] :
    σ → List α → List α
  | _, [] => []
  | s, a :: as =>
    match step s a with
    | none => []
    | some t => if V s a then a :: purge step V t as else purge step V t as

@[simp] theorem purge_nil (s : σ) : purge step V s [] = [] := rfl

/-- A visible action is kept. -/
theorem purge_visible {s t : σ} {a : α} (ht : step s a = some t) (ha : V s a) (as : List α) :
    purge step V s (a :: as) = a :: purge step V t as := by
  simp only [purge, ht, if_pos ha]

/-- A hidden action is left out. -/
theorem purge_hidden {s t : σ} {a : α} (ht : step s a = some t) (ha : ¬V s a) (as : List α) :
    purge step V s (a :: as) = purge step V t as := by
  simp only [purge, ht, if_neg ha]

/-- **Noninterference.**  A relation that is kept by visible actions on both sides, and by hidden
    actions on one, relates the end of a run to that of the purged run.  `G` is what every step
    of the run meets. -/
theorem run_purge_of_guarded {Rel : σ → σ → Prop} {G : σ → α → Prop}
    (hvisible : ∀ s r a t, Rel s r → V s a → G s a → step s a = some t →
      ∃ u, step r a = some u ∧ Rel t u)
    (hhidden : ∀ s r a t, Rel s r → ¬V s a → G s a → step s a = some t → Rel t r)
    {s r t : σ} {as : List α} (hrel : Rel s r) (hguard : Guarded step G s as)
    (ht : run step s as = some t) : ∃ u, run step r (purge step V s as) = some u ∧ Rel t u := by
  -- By induction on the run of the first; the second state only moves when the action is seen.
  induction as generalizing s r with
  | nil =>
    obtain rfl : s = t := Option.some.inj ht
    exact ⟨r, rfl, hrel⟩
  | cons a as ih =>
    obtain ⟨s', hs', ht⟩ := Option.bind_eq_some_iff.mp ht
    obtain ⟨hG, hguard⟩ := hguard s' hs'
    by_cases ha : V s a
    · obtain ⟨r', hr', hrel'⟩ := hvisible s r a s' hrel ha hG hs'
      obtain ⟨u, hu, hend⟩ := ih hrel' hguard ht
      refine ⟨u, ?_, hend⟩
      rw [purge_visible hs' ha, run_cons, hr']
      exact hu
    · rw [purge_hidden hs' ha]
      exact ih (hhidden s r a s' hrel ha hG hs') hguard ht

/-- The same where every step keeps the relation. -/
theorem run_purge {Rel : σ → σ → Prop}
    (hvisible : ∀ s r a t, Rel s r → V s a → step s a = some t → ∃ u, step r a = some u ∧ Rel t u)
    (hhidden : ∀ s r a t, Rel s r → ¬V s a → step s a = some t → Rel t r)
    {s r t : σ} {as : List α} (hrel : Rel s r) (ht : run step s as = some t) :
    ∃ u, run step r (purge step V s as) = some u ∧ Rel t u :=
  run_purge_of_guarded (G := fun _ _ => True) (fun s r a t hrel ha _ => hvisible s r a t hrel ha)
    (fun s r a t hrel ha _ => hhidden s r a t hrel ha) hrel
    (guarded_of_forall (fun _ _ => trivial) s as) ht

/-- In a run that does not fail, what is seen of every action by itself is a filter. -/
theorem purge_eq_filter {W : α → Prop} [DecidablePred W] {s t : σ} {as : List α}
    (ht : run step s as = some t) :
    purge step (fun _ a => W a) s as = as.filter fun a => W a := by
  induction as generalizing s with
  | nil => rfl
  | cons a as ih =>
    obtain ⟨s', hs', ht⟩ := Option.bind_eq_some_iff.mp ht
    by_cases ha : W a
    · rw [purge_visible hs' ha, ih ht, List.filter_cons_of_pos (by simpa using ha)]
    · rw [purge_hidden hs' ha, ih ht, List.filter_cons_of_neg (by simpa using ha)]

end Runs
