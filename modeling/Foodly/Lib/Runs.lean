import Mathlib.Data.Option.Basic
import Mathlib.Data.List.Basic

namespace Runs

/-!
# Runs of a partial step function

A system is a step function `step : σ → α → Option σ` over states `σ` and actions `α`;
`none` means that the action fails in that state and nothing follows it.

* `run step s as` — the state that the actions `as` lead to;
* `Always step P s as` — `P` holds in every state of the run;
* `Guarded step G s as` — every step that the run takes satisfies `G` beforehand;
* `Allowed step E s as` — every step that the run attempts satisfies `E` beforehand.

The rules each reduce a result about runs to what one step does:

* `always_iff_guarded` — "the law holds throughout the run exactly when every step meets the
  condition", with an invariant that may depend on the law, and two forms for the cases in which it
  does not or in which there is none;
* `run_history` — a law about the actions of a run and the state it leads to;
* `run_simulates`, `run_simulates_iff` — a simulation of a reference, without failures or with
  failures and a law of its own;
* `runs_agree_iff` — the agreement of two systems under the same actions;
* `exists_step_of_run` — the step that brought about what holds at the end and not at the start.

`Guarded` and `Allowed` differ on a step that fails: a run is not guarded by what it could not do,
but what the environment promises about a step is promised before it is known to succeed.
-/

variable {σ α ρ : Type*} {step : σ → α → Option σ}

/-- The state a list of actions leads to, `none` once a step has failed. -/
def run (step : σ → α → Option σ) : σ → List α → Option σ
  | s, [] => some s
  | s, a :: as => (step s a).bind fun t => run step t as

/-- `P` holds in every state of the run, the first one included. -/
def Always (step : σ → α → Option σ) (P : σ → Prop) : σ → List α → Prop
  | s, [] => P s
  | s, a :: as => P s ∧ ∀ t ∈ step s a, Always step P t as

/-- Every step that the run takes satisfies `G` in the state before it. -/
def Guarded (step : σ → α → Option σ) (G : σ → α → Prop) : σ → List α → Prop
  | _, [] => True
  | s, a :: as => ∀ t ∈ step s a, G s a ∧ Guarded step G t as

/-- Every step that the run attempts, failing or not, satisfies `E` in the state before it. -/
def Allowed (step : σ → α → Option σ) (E : σ → α → Prop) : σ → List α → Prop
  | _, [] => True
  | s, a :: as => E s a ∧ ∀ t ∈ step s a, Allowed step E t as

/-! ### Decidability -/

instance decidableAllowed {step : σ → α → Option σ} {E : σ → α → Prop}
    [∀ s a, Decidable (E s a)] (s : σ) : (as : List α) → Decidable (Allowed step E s as)
  | [] => inferInstanceAs (Decidable True)
  | a :: as =>
    have (t : σ) : Decidable (Allowed step E t as) := decidableAllowed t as
    inferInstanceAs (Decidable (E s a ∧ ∀ t ∈ step s a, Allowed step E t as))

instance decidableGuarded {step : σ → α → Option σ} {G : σ → α → Prop}
    [∀ s a, Decidable (G s a)] (s : σ) : (as : List α) → Decidable (Guarded step G s as)
  | [] => inferInstanceAs (Decidable True)
  | a :: as =>
    have (t : σ) : Decidable (Guarded step G t as) := decidableGuarded t as
    inferInstanceAs (Decidable (∀ t ∈ step s a, G s a ∧ Guarded step G t as))

/-! ### Unfolding lemmas -/

@[simp] theorem run_nil (s : σ) : run step s [] = some s := rfl

@[simp] theorem run_cons (s : σ) (a : α) (as : List α) :
    run step s (a :: as) = (step s a).bind fun t => run step t as := rfl

/-- A run of two parts is the run of the second from where the first ends. -/
theorem run_append (s : σ) (as bs : List α) :
    run step s (as ++ bs) = (run step s as).bind fun t => run step t bs := by
  induction as generalizing s with
  | nil => rfl
  | cons a as ih =>
    rw [List.cons_append, run_cons, run_cons, Option.bind_assoc]
    exact Option.bind_congr fun t _ => ih t

/-! ### Laws along a run -/

theorem Always.head {P : σ → Prop} {s : σ} {as : List α} (h : Always step P s as) : P s := by
  cases as with
  | nil => exact h
  | cons a as => exact h.1

/-- What `Always` says: `P` holds in every state that a prefix of the actions reaches. -/
theorem always_iff_prefix {P : σ → Prop} {s : σ} {as : List α} :
    Always step P s as ↔ ∀ bs, bs <+: as → ∀ t ∈ run step s bs, P t := by
  induction as generalizing s with
  | nil =>
    constructor
    · rintro h bs hbs t ht
      rw [List.prefix_nil] at hbs
      subst hbs
      rw [run_nil, Option.mem_some_iff] at ht
      exact ht ▸ h
    · intro h
      exact h [] (List.prefix_refl _) s rfl
  | cons a as ih =>
    constructor
    · rintro ⟨hs, hstep⟩ bs hbs t ht
      -- The empty prefix ends where the run starts; a longer one starts with the same step.
      cases bs with
      | nil =>
        rw [run_nil, Option.mem_some_iff] at ht
        exact ht ▸ hs
      | cons b bs =>
        obtain ⟨rfl, hpre⟩ := List.cons_prefix_cons.mp hbs
        obtain ⟨u, hu, ht⟩ := Option.mem_bind_iff.mp ht
        exact ih.mp (hstep u hu) bs hpre t ht
    · intro h
      refine ⟨h [] (List.nil_prefix) s rfl, fun t ht => ih.mpr fun bs hbs u hu => ?_⟩
      exact h (a :: bs) (List.cons_prefix_cons.mpr ⟨rfl, hbs⟩) u
        (Option.mem_bind_iff.mpr ⟨t, ht, hu⟩)

/-- A law that holds throughout a run holds in the state it ends in. -/
theorem Always.last {P : σ → Prop} {s t : σ} {as : List α} (h : Always step P s as)
    (ht : run step s as = some t) : P t :=
  always_iff_prefix.mp h as (List.prefix_refl _) t ht

theorem Always.imp {P Q : σ → Prop} (hPQ : ∀ s, P s → Q s) {s : σ} {as : List α}
    (h : Always step P s as) : Always step Q s as := by
  induction as generalizing s with
  | nil => exact hPQ s h
  | cons a as ih => exact ⟨hPQ s h.1, fun t ht => ih (h.2 t ht)⟩

/-- An invariant of the allowed steps holds throughout an allowed run. -/
theorem always_of_allowed {I : σ → Prop} {E : σ → α → Prop}
    (hstep : ∀ s a t, I s → E s a → step s a = some t → I t) {s : σ} {as : List α} (hs : I s)
    (he : Allowed step E s as) : Always step I s as := by
  induction as generalizing s with
  | nil => exact hs
  | cons a as ih => exact ⟨hs, fun t ht => ih (hstep s a t hs he.1 ht) (he.2 t ht)⟩

/-- An invariant of the steps that meet the guard holds throughout a guarded run.  `E` is what
    every attempted step is known to satisfy. -/
theorem always_of_guarded {I : σ → Prop} {E G : σ → α → Prop}
    (hstep : ∀ s a t, I s → E s a → G s a → step s a = some t → I t)
    {s : σ} {as : List α} (hs : I s) (he : Allowed step E s as) (h : Guarded step G s as) :
    Always step I s as := by
  induction as generalizing s with
  | nil => exact hs
  | cons a as ih =>
    refine ⟨hs, fun t ht => ?_⟩
    obtain ⟨hG, htail⟩ := h t ht
    exact ih (hstep s a t hs he.1 hG ht) (he.2 t ht) htail

/-- **Law and condition.**  If, from a state where the law `P` holds, a step leads to a state
    where it holds again exactly when the step meets `G`, then the law holds throughout a run
    exactly when every step it takes meets `G`.  `I` is an invariant of the steps that meet
    `G`, and `E` is what every attempted step is known to satisfy. -/
theorem always_iff_guarded {I P : σ → Prop} {E G : σ → α → Prop}
    (hI : ∀ s a t, I s → P s → E s a → G s a → step s a = some t → I t)
    (hG : ∀ s a t, I s → P s → E s a → step s a = some t → (P t ↔ G s a))
    {s : σ} {as : List α} (hs : I s) (hp : P s) (he : Allowed step E s as) :
    Always step P s as ↔ Guarded step G s as := by
  induction as generalizing s with
  | nil => exact ⟨fun _ => trivial, fun _ => hp⟩
  | cons a as ih =>
    constructor
    · rintro ⟨-, h⟩ t ht
      -- The law after the step gives the guard, and the guard carries the invariant on.
      have hpt : P t := (h t ht).head
      have hGa : G s a := (hG s a t hs hp he.1 ht).mp hpt
      exact ⟨hGa, (ih (hI s a t hs hp he.1 hGa ht) hpt (he.2 t ht)).mp (h t ht)⟩
    · intro h
      refine ⟨hp, fun t ht => ?_⟩
      obtain ⟨hGa, htail⟩ := h t ht
      have hpt : P t := (hG s a t hs hp he.1 ht).mpr hGa
      exact (ih (hI s a t hs hp he.1 hGa ht) hpt (he.2 t ht)).mpr htail

/-- **History.**  A law about the actions so far and the state they lead to holds of every run
    if it holds at the start and every step keeps it. -/
theorem run_history {P : List α → σ → Prop}
    (hstep : ∀ as s a t, P as s → step s a = some t → P (as ++ [a]) t)
    {s t : σ} {as : List α} (hs : P [] s) (ht : run step s as = some t) : P as t := by
  -- The induction is on the actions still to come, with those before them generalised.
  have hfrom : ∀ (as before : List α) (s : σ), P before s → run step s as = some t →
      P (before ++ as) t := by
    intro as
    induction as with
    | nil =>
      intro before s hs ht
      rw [run_nil, Option.some.injEq] at ht
      rwa [List.append_nil, ← ht]
    | cons a as ih =>
      intro before s hs ht
      obtain ⟨u, hu, ht⟩ := Option.bind_eq_some_iff.mp ht
      rw [List.append_cons]
      exact ih _ u (hstep before s a u hs hu) ht
  exact hfrom as [] s hs ht

/-- What every action satisfies in every state, every attempted step satisfies. -/
theorem allowed_of_forall_mem {E : α → Prop} {s : σ} {as : List α} (h : ∀ a ∈ as, E a) :
    Allowed step (fun _ a => E a) s as := by
  induction as generalizing s with
  | nil => trivial
  | cons a as ih =>
    rw [List.forall_mem_cons] at h
    exact ⟨h.1, fun t _ => ih h.2⟩

/-- **Law and condition under an invariant.**  The same where every step keeps the invariant. -/
theorem always_iff_guarded_of_invariant {I P : σ → Prop} {G : σ → α → Prop}
    (hI : ∀ s a t, I s → step s a = some t → I t)
    (hG : ∀ s a t, I s → P s → step s a = some t → (P t ↔ G s a)) {s : σ} {as : List α}
    (hs : I s) (hp : P s) : Always step P s as ↔ Guarded step G s as := by
  apply always_iff_guarded (E := fun _ _ => True) ?_ ?_ hs hp
    (allowed_of_forall_mem fun _ _ => trivial)
  · intro s a t hs _ _ _ ht
    exact hI s a t hs ht
  · intro s a t hs hp _ ht
    exact hG s a t hs hp ht

/-- **Law and condition of one step.**  The same for a law that needs no invariant beside it. -/
theorem always_iff_guarded_of_step {P : σ → Prop} {G : σ → α → Prop}
    (hG : ∀ s a t, P s → step s a = some t → (P t ↔ G s a)) {s : σ} {as : List α} (hp : P s) :
    Always step P s as ↔ Guarded step G s as :=
  always_iff_guarded_of_invariant (I := fun _ => True) (fun _ _ _ _ _ => trivial)
    (fun s a t _ => hG s a t) trivial hp

/-- What every attempted step satisfies holds of the step that follows a part of the run. -/
theorem Allowed.after {E : σ → α → Prop} {s t : σ} {a : α} {as bs : List α}
    (h : Allowed step E s (as ++ a :: bs)) (ht : run step s as = some t) : E t a := by
  induction as generalizing s with
  | nil =>
    obtain rfl : s = t := Option.some.inj ht
    exact h.1
  | cons b as ih =>
    obtain ⟨u, hu, ht⟩ := Option.bind_eq_some_iff.mp ht
    exact ih (h.2 u hu) ht

/-- Conditions that agree on every step allow the same runs. -/
theorem allowed_congr {E E' : σ → α → Prop} (h : ∀ s a, E s a ↔ E' s a) {s : σ}
    {as : List α} : Allowed step E s as ↔ Allowed step E' s as := by
  have heq : E = E' := funext fun s => funext fun a => propext (h s a)
  rw [heq]

/-- Where no step fails, a guard on the actions alone guards the run when every action meets it. -/
theorem guarded_iff_forall_mem {G : α → Prop} (htotal : ∀ s a, ∃ t, step s a = some t)
    {s : σ} {as : List α} : Guarded step (fun _ a => G a) s as ↔ ∀ a ∈ as, G a := by
  induction as generalizing s with
  | nil => exact iff_of_true trivial fun a ha => absurd ha List.not_mem_nil
  | cons a as ih =>
    obtain ⟨t, ht⟩ := htotal s a
    rw [List.forall_mem_cons]
    constructor
    · intro h
      obtain ⟨ha, htail⟩ := h t ht
      exact ⟨ha, ih.mp htail⟩
    · rintro ⟨ha, has⟩ u hu
      exact ⟨ha, ih.mpr has⟩

/-- What every step meets in every state guards every run. -/
theorem guarded_of_forall {G : σ → α → Prop} (h : ∀ s a, G s a) (s : σ) (as : List α) :
    Guarded step G s as := by
  induction as generalizing s with
  | nil => trivial
  | cons a as ih => exact fun t _ => ⟨h s a, ih t⟩

/-- **The step that did it.**  What holds at the end of a run and not at its start was brought
    about by one of its steps. -/
theorem exists_step_of_run {P : σ → Prop} {s t : σ} {as : List α} (hs : ¬P s)
    (ht : run step s as = some t) (hP : P t) :
    ∃ before a after u v, as = before ++ a :: after ∧ run step s before = some u ∧ ¬P u ∧
      step u a = some v ∧ P v := by
  induction as generalizing s with
  | nil =>
    obtain rfl : s = t := Option.some.inj ht
    exact absurd hP hs
  | cons a as ih =>
    obtain ⟨u, hu, hrun⟩ := Option.bind_eq_some_iff.mp ht
    by_cases hPu : P u
    · exact ⟨[], a, as, s, u, rfl, rfl, hs, hu, hPu⟩
    · obtain ⟨before, b, after, v, w, rfl, hbefore, hv⟩ := ih hPu hrun
      exact ⟨a :: before, b, after, v, w, rfl, by rw [run_cons, hu]; exact hbefore, hv⟩

/-! ### Simulation -/

/-- **Simulation.**  If every allowed step succeeds and keeps the relation to the reference
    state, an allowed run succeeds and ends related to the run of the reference. -/
theorem run_simulates {Rel : ρ → σ → Prop} {E : σ → α → Prop} {ref : ρ → α → ρ}
    (hstep : ∀ r s a, Rel r s → E s a → ∃ t, step s a = some t ∧ Rel (ref r a) t)
    {r : ρ} {s : σ} {as : List α} (hs : Rel r s) (he : Allowed step E s as) :
    ∃ t, run step s as = some t ∧ Rel (as.foldl ref r) t := by
  induction as generalizing r s with
  | nil => exact ⟨s, rfl, hs⟩
  | cons a as ih =>
    obtain ⟨t, ht, hrel⟩ := hstep r s a hs he.1
    obtain ⟨u, hu, hrel'⟩ := ih hrel (he.2 t ht)
    exact ⟨u, by rw [run_cons, ht]; exact hu, hrel'⟩

/-- **No failure.**  If every allowed step succeeds and keeps the invariant, an allowed run
    succeeds and keeps it. -/
theorem run_succeeds {I : σ → Prop} {E : σ → α → Prop}
    (hstep : ∀ s a, I s → E s a → ∃ t, step s a = some t ∧ I t) {s : σ} {as : List α} (hs : I s)
    (he : Allowed step E s as) : ∃ t, run step s as = some t ∧ I t :=
  -- The reference keeps no state.
  @run_simulates σ α Unit step (fun _ => I) E (fun r _ => r) (fun _ => hstep) () s as hs he

/-- **Simulation with a trap and a law.**  If, in related states, an allowed step succeeds exactly
    when it meets `T`, and then keeps the relation and keeps the law `P` of the reference exactly
    when it meets `G`, then an allowed run succeeds exactly when every step it attempts meets `T`,
    and then it ends related to the run of the reference, where the law holds exactly when every
    step has met `G`. -/
theorem run_simulates_iff {Rel : ρ → σ → Prop} {P : ρ → Prop} {E T G : σ → α → Prop}
    {ref : ρ → α → ρ}
    (hstep : ∀ r s a, Rel r s → E s a → ((step s a).isSome = true ↔ T s a) ∧
      ∀ t ∈ step s a, Rel (ref r a) t ∧ (P (ref r a) ↔ P r ∧ G s a))
    {r : ρ} {s : σ} {as : List α} (hs : Rel r s) (he : Allowed step E s as) :
    ((run step s as).isSome = true ↔ Allowed step T s as) ∧
      ∀ t ∈ run step s as, Rel (as.foldl ref r) t ∧
        (P (as.foldl ref r) ↔ P r ∧ Guarded step G s as) := by
  induction as generalizing r s with
  | nil =>
    refine ⟨iff_of_true rfl trivial, fun t ht => ?_⟩
    obtain rfl : s = t := Option.some.inj ht
    exact ⟨hs, (and_iff_left trivial).symm⟩
  | cons a as ih =>
    obtain ⟨htrap, hlaw⟩ := hstep r s a hs he.1
    cases hafter : step s a with
    | none =>
      -- The run ends here: the step fails, so it does not meet `T`.
      rw [hafter] at htrap
      rw [run_cons, hafter]
      exact ⟨iff_of_false Bool.false_ne_true fun h => Bool.false_ne_true (htrap.mpr h.1), nofun⟩
    | some u =>
      rw [hafter] at htrap
      obtain ⟨hrel, hkept⟩ := hlaw u hafter
      obtain ⟨hruns, hends⟩ := ih hrel (he.2 u hafter)
      rw [run_cons, hafter, Option.bind_some]
      have hthere (Q : σ → Prop) : (∀ t ∈ some u, Q t) ↔ Q u := by simp
      constructor
      · rw [hruns, Allowed, hafter, hthere]
        exact (and_iff_right (htrap.mp rfl)).symm
      · intro t ht
        obtain ⟨hrel', hlaw'⟩ := hends t ht
        refine ⟨hrel', ?_⟩
        rw [List.foldl_cons, hlaw', hkept, Guarded, hafter, hthere, and_assoc]

/-! ### Agreement -/

/-- **Agreement.**  If two systems in related states agree on an action, in that one fails only if
    the other does and otherwise their states are related again, exactly when the action meets
    `G`, then they agree throughout a run exactly when every action attempted meets `G`.  `E` is
    what every action is known to satisfy. -/
theorem runs_agree_iff {step' : ρ → α → Option ρ} {Rel : σ → ρ → Prop} {E : α → Prop}
    {G : σ → α → Prop}
    (hG : ∀ s r a, Rel s r → E a → (Option.Rel Rel (step s a) (step' r a) ↔ G s a))
    {s : σ} {r : ρ} {as : List α} (hrel : Rel s r) (he : ∀ a ∈ as, E a) :
    (∀ bs, bs <+: as → Option.Rel Rel (run step s bs) (run step' r bs)) ↔
      Allowed step G s as := by
  induction as generalizing s r with
  | nil =>
    refine iff_of_true (fun bs hbs => ?_) trivial
    obtain rfl := List.prefix_nil.mp hbs
    exact .some hrel
  | cons a as ih =>
    rw [List.forall_mem_cons] at he
    constructor
    · intro h
      have hagree : Option.Rel Rel (step s a) (step' r a) := by
        simpa using h [a] (List.cons_prefix_cons.mpr ⟨rfl, List.nil_prefix⟩)
      refine ⟨(hG s r a hrel he.1).mp hagree, fun t ht => ?_⟩
      rw [Option.mem_def] at ht
      obtain ⟨u, hu, hrel'⟩ : ∃ u, step' r a = some u ∧ Rel t u := by
        rw [ht] at hagree
        generalize step' r a = after at hagree
        cases hagree with
        | some hrel' => exact ⟨_, rfl, hrel'⟩
      refine (ih hrel' he.2).mp fun bs hbs => ?_
      have hrun := h (a :: bs) (List.cons_prefix_cons.mpr ⟨rfl, hbs⟩)
      rwa [run_cons, run_cons, ht, hu] at hrun
    · rintro ⟨hGa, h⟩ bs hbs
      have hagree := (hG s r a hrel he.1).mpr hGa
      cases bs with
      | nil => exact .some hrel
      | cons b bs =>
        obtain ⟨rfl, hpre⟩ := List.cons_prefix_cons.mp hbs
        rw [run_cons, run_cons]
        -- Either both have failed, or both go on from related states.
        cases hs : step s b with
        | none =>
          rw [hs] at hagree
          generalize step' r b = after at hagree ⊢
          cases hagree
          exact .none
        | some t =>
          rw [hs] at hagree
          generalize step' r b = after at hagree ⊢
          cases hagree with
          | some hrel' => exact (ih hrel' he.2).mpr (h t hs) bs hpre

end Runs
