import Foodly.Lib.Runs
import Mathlib.Logic.Function.Basic

namespace Runs

/-!
# Interleaved components

A system made of one component for each key: an action concerns the component of its key, and
fails when that component fails.  The components share nothing, so that the order in which
actions on different keys follow each other is of no consequence.

* `stepAt` — the step of the whole;
* `actionsAt` — the actions that concern one component;
* `run_stepAt_eq_some_iff` — a run of the whole is a run of every component;
* `run_stepAt_congr` — how the components' actions are interleaved makes no difference;
* `run_map` — a system whose states are read off those of another.

The last is what carries the results over to a system that is not written as components: when each
of its steps is read off a step of the components, under an invariant of these, its runs are read
off theirs, failures included.
-/

variable {κ σ τ α : Type*}

section
variable [DecidableEq κ] (key : α → κ) (step : σ → α → Option σ)

/-- The component of the action's key takes the step, and the others stay as they are. -/
def stepAt (f : κ → σ) (a : α) : Option (κ → σ) :=
  (step (f (key a)) a).map (Function.update f (key a))

/-- The actions on one key, in order. -/
def actionsAt (k : κ) (as : List α) : List α := as.filter fun a => key a = k

variable {key step}

theorem actionsAt_cons_self {k : κ} {a : α} (h : key a = k) (as : List α) :
    actionsAt key k (a :: as) = a :: actionsAt key k as := by
  simp [actionsAt, h]

theorem actionsAt_cons_of_ne {k : κ} {a : α} (h : key a ≠ k) (as : List α) :
    actionsAt key k (a :: as) = actionsAt key k as := by
  simp [actionsAt, h]

/-- **Components.**  The whole runs to a state exactly when every component, given its own
    actions, runs to its part of that state. -/
theorem run_stepAt_eq_some_iff {f g : κ → σ} {as : List α} :
    run (stepAt key step) f as = some g ↔
      ∀ k, run step (f k) (actionsAt key k as) = some (g k) := by
  induction as generalizing f with
  | nil =>
    constructor
    · intro h k
      obtain rfl : f = g := Option.some.inj h
      rfl
    · intro h
      exact congrArg some (funext fun k => Option.some.inj (h k))
  | cons a as ih =>
    -- The component of the action's key goes first; the others have not moved.
    have hself : ∀ t, run step (Function.update f (key a) t (key a)) (actionsAt key (key a) as)
        = run step t (actionsAt key (key a) as) := fun t => by rw [Function.update_self]
    have hother : ∀ t k, key a ≠ k →
        run step (Function.update f (key a) t k) (actionsAt key k as)
          = run step (f k) (actionsAt key k (a :: as)) := fun t k hk => by
      rw [Function.update_of_ne hk.symm, actionsAt_cons_of_ne hk]
    rw [run_cons, stepAt]
    constructor
    · intro h k
      obtain ⟨f', hf', hrun⟩ := Option.bind_eq_some_iff.mp h
      obtain ⟨t, ht, rfl⟩ := Option.map_eq_some_iff.mp hf'
      have hparts := ih.mp hrun
      by_cases hk : key a = k
      · subst hk
        rw [actionsAt_cons_self rfl, run_cons, ht, Option.bind_some, ← hself t]
        exact hparts (key a)
      · rw [← hother t k hk]
        exact hparts k
    · intro h
      have hfirst := h (key a)
      rw [actionsAt_cons_self rfl, run_cons] at hfirst
      obtain ⟨t, ht, hrest⟩ := Option.bind_eq_some_iff.mp hfirst
      rw [ht, Option.map_some, Option.bind_some]
      refine ih.mpr fun k => ?_
      by_cases hk : key a = k
      · subst hk
        rw [hself t]
        exact hrest
      · rw [hother t k hk]
        exact h k

/-- **Interleaving.**  Two orders of the actions that give every component the same actions in
    the same order lead to the same state, or fail both. -/
theorem run_stepAt_congr {f : κ → σ} {as bs : List α}
    (h : ∀ k, actionsAt key k as = actionsAt key k bs) :
    run (stepAt key step) f as = run (stepAt key step) f bs := by
  refine Option.ext fun g => ?_
  rw [run_stepAt_eq_some_iff, run_stepAt_eq_some_iff]
  exact forall_congr' fun k => by rw [h k]

end

/-- **States read off those of another system.**  If each step is read off a step of the other
    system, from a state of an invariant that the other keeps, then so is every run. -/
theorem run_map {step : τ → α → Option τ} {step' : σ → α → Option σ} {read : σ → τ}
    {I : σ → Prop} (hstep : ∀ s a, I s → step (read s) a = (step' s a).map read)
    (hI : ∀ s a t, I s → step' s a = some t → I t) {s : σ} (hs : I s) (as : List α) :
    run step (read s) as = (run step' s as).map read := by
  induction as generalizing s with
  | nil => rfl
  | cons a as ih =>
    rw [run_cons, run_cons, hstep s a hs]
    cases ht : step' s a with
    | none => rfl
    | some t => exact ih (hI s a t hs ht)

end Runs
