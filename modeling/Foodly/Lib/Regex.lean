import Mathlib.Computability.Language

/-!
# Regular expressions over character classes

Regular expressions whose letters are classes, given by Boolean predicates, with intersection.
An expression denotes a language, and the matcher decides by derivatives whether a text is in
it: the derivative by a letter denotes what may follow that letter, and a text matches when the
derivative by all of its letters denotes the empty text.

* `language` — the texts that an expression denotes;
* `nullable`, `derivative` — the two functions on expressions that the matcher is made of, and
  `mem_language_derivative`, which says what a derivative denotes;
* `isMatch` — the matcher, which takes one derivative for each letter;
* `isMatch_iff` — the matcher accepts exactly the language;
* `times`, `atLeast`, `anything` — repetitions, and what they denote;
* `ahead` — a look-ahead assertion in front of an expression: with intersection an assertion is an
  ordinary expression, and `mem_ahead` says what it denotes;
* `exists_prefix_letter_iff` — where no letter of the text stops it, a look-ahead for a letter
  behind any others only asks whether the letter is there.

The matcher needs no decidable equality of letters and no finite alphabet: a class is only ever
asked whether it has a letter.
-/

/-- Regular expressions over classes of letters. -/
inductive Regex (α : Type*) where
  | nothing
  | empty
  | letter (p : α → Bool)
  | cat (r s : Regex α)
  | alt (r s : Regex α)
  | both (r s : Regex α)
  | star (r : Regex α)

namespace Regex

variable {α : Type*}

/-! ### Languages and derivatives -/

/-- The texts that the expression denotes. -/
def language : Regex α → Language α
  | nothing => 0
  | empty => 1
  | letter p => {w | ∃ a, p a = true ∧ w = [a]}
  | cat r s => r.language * s.language
  | alt r s => r.language + s.language
  | both r s => {w | w ∈ r.language ∧ w ∈ s.language}
  | star r => KStar.kstar r.language

theorem mem_letter (p : α → Bool) (w : List α) :
    w ∈ (letter p).language ↔ ∃ a, p a = true ∧ w = [a] := Iff.rfl

theorem mem_cat (r s : Regex α) (w : List α) :
    w ∈ (cat r s).language ↔ ∃ x ∈ r.language, ∃ y ∈ s.language, x ++ y = w :=
  Language.mem_mul

/-- The expression denotes the empty text. -/
def nullable : Regex α → Bool
  | nothing => false
  | empty => true
  | letter _ => false
  | cat r s => r.nullable && s.nullable
  | alt r s => r.nullable || s.nullable
  | both r s => r.nullable && s.nullable
  | star _ => true

/-- What may follow the letter `a` in a text that the expression denotes. -/
def derivative (a : α) : Regex α → Regex α
  | nothing => nothing
  | empty => nothing
  | letter p => if p a then empty else nothing
  | cat r s =>
    if r.nullable then alt (cat (r.derivative a) s) (s.derivative a) else cat (r.derivative a) s
  | alt r s => alt (r.derivative a) (s.derivative a)
  | both r s => both (r.derivative a) (s.derivative a)
  | star r => cat (r.derivative a) (star r)

/-- The matcher: the whole text has to match. -/
def isMatch : Regex α → List α → Bool
  | r, [] => r.nullable
  | r, a :: w => (r.derivative a).isMatch w

theorem nullable_iff (r : Regex α) : r.nullable = true ↔ [] ∈ r.language := by
  -- A letter is never empty and a star always is; the others are as empty as their parts.
  induction r with
  | nothing => exact iff_of_false Bool.false_ne_true (Language.notMem_zero _)
  | empty => exact iff_of_true rfl Language.nil_mem_one
  | letter p =>
    refine iff_of_false Bool.false_ne_true ?_
    rintro ⟨a, -, h⟩
    cases h
  | cat r s ihr ihs =>
    rw [nullable, Bool.and_eq_true, ihr, ihs, mem_cat]
    constructor
    · rintro ⟨hr, hs⟩
      exact ⟨[], hr, [], hs, rfl⟩
    · rintro ⟨x, hx, y, hy, h⟩
      obtain ⟨rfl, rfl⟩ := List.append_eq_nil_iff.mp h
      exact ⟨hx, hy⟩
  | alt r s ihr ihs =>
    rw [nullable, Bool.or_eq_true, ihr, ihs]
    rfl
  | both r s ihr ihs =>
    rw [nullable, Bool.and_eq_true, ihr, ihs]
    rfl
  | star r => exact iff_of_true rfl (Language.nil_mem_kstar _)

/-- The first letter of a product comes from the first factor, unless that is empty. -/
theorem cons_mem_mul_iff (l m : Language α) (a : α) (w : List α) :
    a :: w ∈ l * m ↔ (∃ x y, a :: x ∈ l ∧ y ∈ m ∧ x ++ y = w) ∨ [] ∈ l ∧ a :: w ∈ m := by
  rw [Language.mem_mul]
  constructor
  · rintro ⟨x, hx, y, hy, h⟩
    -- The part of the first factor may be empty, and then the letter is the second factor's.
    cases x with
    | nil =>
      rw [List.nil_append] at h
      exact Or.inr ⟨hx, h ▸ hy⟩
    | cons b x =>
      rw [List.cons_append] at h
      obtain ⟨rfl, htail⟩ := List.cons_eq_cons.mp h
      exact Or.inl ⟨x, y, hx, hy, htail⟩
  · rintro (⟨x, y, hx, hy, rfl⟩ | ⟨hl, hm⟩)
    · exact ⟨a :: x, hx, y, hy, rfl⟩
    · exact ⟨[], hl, a :: w, hm, rfl⟩

/-- The first letter of a repetition comes from its first round that is not empty. -/
theorem cons_mem_kstar_iff (l : Language α) (a : α) (w : List α) :
    a :: w ∈ KStar.kstar l ↔ ∃ x y, a :: x ∈ l ∧ y ∈ KStar.kstar l ∧ x ++ y = w := by
  constructor
  · intro h
    rw [Language.kstar_def_nonempty] at h
    obtain ⟨rounds, heq, hrounds⟩ := h
    -- Rounds that are empty may be left out, so the letter is that of the first one.
    cases rounds with
    | nil => cases heq
    | cons first rounds =>
      rw [List.forall_mem_cons] at hrounds
      cases first with
      | nil => exact absurd rfl hrounds.1.2
      | cons b x =>
        rw [List.flatten_cons, List.cons_append] at heq
        obtain ⟨rfl, rfl⟩ := List.cons_eq_cons.mp heq
        exact ⟨x, rounds.flatten, hrounds.1.1,
          Language.join_mem_kstar fun y hy => (hrounds.2 y hy).1, rfl⟩
  · rintro ⟨x, y, hx, hy, rfl⟩
    obtain ⟨rounds, rfl, hrounds⟩ := hy
    exact ⟨(a :: x) :: rounds, rfl, List.forall_mem_cons.mpr ⟨hx, hrounds⟩⟩

/-- **Derivative.**  It denotes what follows the letter in the texts of the expression. -/
theorem mem_language_derivative (r : Regex α) (a : α) (w : List α) :
    w ∈ (r.derivative a).language ↔ a :: w ∈ r.language := by
  induction r generalizing w with
  | nothing => exact iff_of_false (Language.notMem_zero _) (Language.notMem_zero _)
  | empty =>
    refine iff_of_false (Language.notMem_zero _) ?_
    rw [language, Language.mem_one]
    exact List.cons_ne_nil a w
  | letter p =>
    rw [derivative]
    cases hp : p a with
    | true =>
      rw [if_pos rfl, language, Language.mem_one]
      constructor
      · rintro rfl
        exact ⟨a, hp, rfl⟩
      · rintro ⟨b, -, h⟩
        exact (List.cons_eq_cons.mp h).2
    | false =>
      rw [if_neg Bool.false_ne_true]
      refine iff_of_false (Language.notMem_zero _) ?_
      rintro ⟨b, hb, h⟩
      obtain ⟨rfl, -⟩ := List.cons_eq_cons.mp h
      rw [hp] at hb
      cases hb
  | cat r s ihr ihs =>
    have hfirst : w ∈ (cat (r.derivative a) s).language ↔
        ∃ x y, a :: x ∈ r.language ∧ y ∈ s.language ∧ x ++ y = w := by
      rw [mem_cat]
      simp only [ihr, exists_and_left]
    have hmul := cons_mem_mul_iff r.language s.language a w
    rw [← hfirst, ← nullable_iff, ← ihs] at hmul
    refine Iff.trans ?_ hmul.symm
    rw [derivative]
    -- The letter may be taken from the second factor only if the first one can be empty.
    cases r.nullable with
    | true =>
      rw [if_pos rfl, and_iff_right rfl]
      rfl
    | false => rw [if_neg Bool.false_ne_true, or_iff_left (fun h => Bool.false_ne_true h.1)]
  | alt r s ihr ihs =>
    rw [derivative, language, Language.mem_add, ihr, ihs]
    rfl
  | both r s ihr ihs => exact and_congr (ihr w) (ihs w)
  | star r ih =>
    rw [derivative, mem_cat, language, cons_mem_kstar_iff]
    simp only [ih, exists_and_left]

/-- **Matcher.**  It accepts exactly the texts of the language. -/
theorem isMatch_iff (r : Regex α) (w : List α) : r.isMatch w = true ↔ w ∈ r.language := by
  induction w generalizing r with
  | nil => exact r.nullable_iff
  | cons a w ih => rw [isMatch, ih, mem_language_derivative]

/-! ### Repetitions and look-ahead -/

/-- Exactly `n` times. -/
def times : ℕ → Regex α → Regex α
  | 0, _ => empty
  | n + 1, r => cat r (times n r)

/-- At least `n` times. -/
def atLeast (n : ℕ) (r : Regex α) : Regex α := cat (times n r) (star r)

/-- Any text. -/
def anything : Regex α := star (letter fun _ => true)

/-- The assertion that `r` matches what comes next, in front of `s`. -/
def ahead (r s : Regex α) : Regex α := both (cat r anything) s

/-- A letter of one class, repeated. -/
theorem mem_star_letter (p : α → Bool) (w : List α) :
    w ∈ (star (letter p)).language ↔ ∀ a ∈ w, p a = true := by
  induction w with
  | nil => exact iff_of_true (Language.nil_mem_kstar _) nofun
  | cons a w ih =>
    rw [List.forall_mem_cons, ← ih, language, cons_mem_kstar_iff]
    constructor
    · rintro ⟨x, y, ⟨b, hb, hx⟩, hy, rfl⟩
      obtain ⟨rfl, rfl⟩ := List.cons_eq_cons.mp hx
      exact ⟨hb, hy⟩
    · rintro ⟨ha, hw⟩
      exact ⟨[], w, ⟨a, ha, rfl⟩, hw, rfl⟩

theorem mem_anything (w : List α) : w ∈ (anything : Regex α).language :=
  (mem_star_letter _ w).mpr fun _ _ => rfl

theorem mem_times_letter (n : ℕ) (p : α → Bool) (w : List α) :
    w ∈ (times n (letter p)).language ↔ w.length = n ∧ ∀ a ∈ w, p a = true := by
  induction n generalizing w with
  | zero =>
    rw [times, language, Language.mem_one, List.length_eq_zero_iff]
    exact ⟨fun h => ⟨h, by rw [h]; exact nofun⟩, fun h => h.1⟩
  | succ n ih =>
    rw [times, mem_cat]
    constructor
    · rintro ⟨_, ⟨a, ha, rfl⟩, y, hy, rfl⟩
      obtain ⟨hlength, hall⟩ := (ih y).mp hy
      exact ⟨congrArg (· + 1) hlength, List.forall_mem_cons.mpr ⟨ha, hall⟩⟩
    · rintro ⟨hlength, hall⟩
      cases w with
      | nil => cases hlength
      | cons a w =>
        rw [List.forall_mem_cons] at hall
        exact ⟨[a], ⟨a, hall.1, rfl⟩, w, (ih w).mpr ⟨Nat.succ.inj hlength, hall.2⟩, rfl⟩

theorem mem_atLeast_letter (n : ℕ) (p : α → Bool) (w : List α) :
    w ∈ (atLeast n (letter p)).language ↔ n ≤ w.length ∧ ∀ a ∈ w, p a = true := by
  rw [atLeast, mem_cat]
  simp only [mem_times_letter, mem_star_letter]
  constructor
  · rintro ⟨x, ⟨hlength, hx⟩, y, hy, rfl⟩
    rw [List.length_append, List.forall_mem_append]
    exact ⟨by omega, hx, hy⟩
  · rintro ⟨hlength, hall⟩
    refine ⟨w.take n, ⟨List.length_take_of_le hlength, fun a ha => ?_⟩, w.drop n, fun a ha => ?_,
      List.take_append_drop n w⟩
    · exact hall a (List.mem_of_mem_take ha)
    · exact hall a (List.mem_of_mem_drop ha)

/-- An assertion holds when a part of the text in front of the rest satisfies it. -/
theorem mem_ahead (r s : Regex α) (w : List α) :
    w ∈ (ahead r s).language ↔ (∃ x ∈ r.language, x <+: w) ∧ w ∈ s.language := by
  refine and_congr_left fun _ => ?_
  rw [mem_cat]
  constructor
  · rintro ⟨x, hx, y, -, rfl⟩
    exact ⟨x, hx, List.prefix_append x y⟩
  · rintro ⟨x, hx, y, rfl⟩
    exact ⟨x, hx, y, mem_anything y, rfl⟩

/-- A look-ahead for a letter behind others finds it, in a text made of such others. -/
theorem exists_prefix_letter_iff {dot p : α → Bool} {w : List α} (hw : ∀ a ∈ w, dot a = true) :
    (∃ x ∈ (cat (star (letter dot)) (letter p)).language, x <+: w) ↔ ∃ a ∈ w, p a = true := by
  constructor
  · rintro ⟨_, ⟨x, -, _, ⟨a, ha, rfl⟩, rfl⟩, hprefix⟩
    exact ⟨a, hprefix.subset (by simp), ha⟩
  · rintro ⟨a, ha, hp⟩
    obtain ⟨x, y, rfl⟩ := List.append_of_mem ha
    refine ⟨x ++ [a], ⟨x, ?_, [a], ⟨a, hp, rfl⟩, rfl⟩, y, by simp⟩
    exact (mem_star_letter dot x).mpr fun b hb => hw b (List.mem_append_left _ hb)

end Regex
