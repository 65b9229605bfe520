import Mathlib.Data.Rat.Floor
import Mathlib.Algebra.Order.Round
import Mathlib.Tactic.Linarith
import Mathlib.Tactic.IntervalCases
import Mathlib.Tactic.NormNum
import Mathlib.Algebra.Order.Field.Rat

namespace Decimal

/-!
# Digit texts and rounding to the nearest integer

Programs write amounts as digit texts and read them back.  Here a number is rounded to the nearest
integer of hundredths, written with two decimals, and read again, all in exact arithmetic.  How
ties are rounded is left open: a result that holds under any rule for ties also holds of a
formatter whose rule is not known.

Texts:

* `digitsValue`, `natValue` — the number that a digit text denotes, in a radix up to 16;
* `natValue_toDigits` — the text of a natural number denotes that number;
* `padded`, `natValue_toDigits_padded` — a number of digits that is fixed, with zeros in front, and
  what a text denotes that goes on with such digits;
* `natValue_tail_padded` — a text without its first digit, which may still be a number, but is the
  same one only when its whole part was zero;
* `fixed2`, `natValue_fixed2` — the text with two decimals of a number of hundredths.

Rounding:

* `Nearest` — rounding to the nearest integer under an arbitrary rule for ties, with
  `Nearest.halfEven` as the rule that sends ties to the even neighbour;
* `Nearest.round_intCast_sub_iff` — when an integer that is split in two is still the sum of the
  two parts after both have been rounded: unless the parts are ties that are sent the same way.
-/

/-! ### Digit texts -/

/-- Value of one digit in the given radix; letters count from ten in either case. -/
def digitValue (radix : ℕ) (c : Char) : Option ℕ :=
  let value :=
    if '0' ≤ c ∧ c ≤ '9' then some (c.toNat - '0'.toNat)
    else if 'a' ≤ c ∧ c ≤ 'f' then some (c.toNat - 'a'.toNat + 10)
    else if 'A' ≤ c ∧ c ≤ 'F' then some (c.toNat - 'A'.toNat + 10)
    else none
  value.filter (· < radix)

/-- Value of the digits, read after digits of value `acc`; `none` at a non-digit. -/
def digitsValue (radix : ℕ) : ℕ → List Char → Option ℕ
  | acc, [] => some acc
  | acc, c :: cs => (digitValue radix c).bind fun d => digitsValue radix (radix * acc + d) cs

/-- Value of a text of at least one digit. -/
def natValue (radix : ℕ) (cs : List Char) : Option ℕ :=
  if cs = [] then none else digitsValue radix 0 cs

/-- The digits read so far count as a multiple of the radix to the length of the rest. -/
theorem digitsValue_eq (radix acc : ℕ) (cs : List Char) : digitsValue radix acc cs
    = (digitsValue radix 0 cs).map fun v => acc * radix ^ cs.length + v := by
  induction cs generalizing acc with
  | nil => simp [digitsValue]
  | cons c cs ih =>
    rw [digitsValue, digitsValue]
    cases digitValue radix c with
    | none => rfl
    | some d =>
      rw [Option.bind_some, Option.bind_some, ih, ih (radix * 0 + d), Option.map_map]
      congr 1
      funext v
      simp only [Function.comp_apply, List.length_cons, pow_succ]
      ring

/-- Reading a text in two parts is reading it whole. -/
theorem digitsValue_append (radix acc : ℕ) (cs ds : List Char) :
    digitsValue radix acc (cs ++ ds)
      = (digitsValue radix acc cs).bind fun v => digitsValue radix v ds := by
  induction cs generalizing acc with
  | nil => rfl
  | cons c cs ih =>
    simp only [List.cons_append, digitsValue, Option.bind_assoc, ih]

theorem digitValue_digitChar {d : ℕ} (h : d < 10) : digitValue 10 d.digitChar = some d := by
  interval_cases d <;> decide

theorem digitsValue_toDigits (n : ℕ) : digitsValue 10 0 (Nat.toDigits 10 n) = some n := by
  induction n using Nat.strong_induction_on with
  | _ n ih =>
    rw [Nat.toDigits_eq_if (by decide)]
    split
    · rename_i hn
      simp [digitsValue, digitValue_digitChar hn]
    · rename_i hn
      -- The text of `n` is that of `n / 10` and then the last digit.
      rw [digitsValue_append, ih (n / 10) (by omega), Option.bind_some]
      simp only [digitsValue, digitValue_digitChar (Nat.mod_lt n (by decide)), Option.bind_some]
      rw [Nat.div_add_mod]

/-- The decimal text of a natural number denotes it. -/
theorem natValue_toDigits (n : ℕ) : natValue 10 (Nat.toDigits 10 n) = some n := by
  rw [natValue, if_neg Nat.toDigits_ne_nil, digitsValue_toDigits]

/-- The first digit counts as a multiple of the radix to the length of the others. -/
theorem digitsValue_cons_eq_some_iff {c : Char} {cs : List Char} {v : ℕ} :
    digitsValue 10 0 (c :: cs) = some v ↔ ∃ d, digitValue 10 c = some d ∧
      ∃ r, digitsValue 10 0 cs = some r ∧ d * 10 ^ cs.length + r = v := by
  rw [digitsValue, Option.bind_eq_some_iff]
  apply exists_congr
  intro d
  rw [Nat.mul_zero, Nat.zero_add, digitsValue_eq, Option.map_eq_some_iff]

/-- A text of fewer digits denotes less. -/
theorem lt_of_digitsValue {cs : List Char} {v : ℕ} (h : digitsValue 10 0 cs = some v) :
    v < 10 ^ cs.length := by
  induction cs generalizing v with
  | nil =>
    obtain rfl : 0 = v := Option.some.inj h
    exact Nat.one_pos
  | cons c cs ih =>
    obtain ⟨d, hd, r, hr, rfl⟩ := digitsValue_cons_eq_some_iff.mp h
    have hdigit : d < 10 := by simpa using (Option.filter_eq_some_iff.mp hd).2
    have hrest := ih hr
    calc d * 10 ^ cs.length + r < d * 10 ^ cs.length + 10 ^ cs.length := by omega
      _ = (d + 1) * 10 ^ cs.length := by ring
      _ ≤ 10 * 10 ^ cs.length := Nat.mul_le_mul_right _ hdigit
      _ = 10 ^ (c :: cs).length := by rw [List.length_cons, pow_succ']

/-- The text of a number only begins with the digit zero when it is the text of zero. -/
theorem eq_zero_of_leading_zero {n : ℕ} {c : Char} {cs : List Char}
    (h : Nat.toDigits 10 n = c :: cs) (hc : digitValue 10 c = some 0) : n = 0 := by
  have hvalue := digitsValue_toDigits n
  rw [h] at hvalue
  obtain ⟨d, hd, r, hr, hn⟩ := digitsValue_cons_eq_some_iff.mp hvalue
  obtain rfl : 0 = d := Option.some.inj (hc.symm.trans hd)
  rw [Nat.zero_mul, Nat.zero_add] at hn
  have hlt := lt_of_digitsValue hr
  rcases Nat.eq_zero_or_pos cs.length with hnil | hpos
  · rw [hnil, pow_zero] at hlt
    omega
  · -- A number below the bound has a text of at most as many digits.
    have hlength := (Nat.length_toDigits_le_iff (by decide) hpos).mpr (hn ▸ hlt)
    rw [h, List.length_cons] at hlength
    omega

/-- The last `k` digits of a number, with zeros in front where there are fewer. -/
def padded (k n : ℕ) : List Char :=
  List.replicate (k - (Nat.toDigits 10 n).length) '0' ++ Nat.toDigits 10 n

/-- Zeros in front add nothing. -/
theorem digitsValue_padded (k n : ℕ) : digitsValue 10 0 (padded k n) = some n := by
  have hzeros : ∀ j, digitsValue 10 0 (List.replicate j '0') = some 0 := by
    intro j
    induction j with
    | zero => rfl
    | succ j ih => exact ih
  rw [padded, digitsValue_append, hzeros, Option.bind_some, digitsValue_toDigits]

theorem length_padded {k n : ℕ} (hk : 0 < k) (hn : n < 10 ^ k) : (padded k n).length = k := by
  have hlength := (Nat.length_toDigits_le_iff (by decide) hk).mpr hn
  rw [padded, List.length_append, List.length_replicate]
  omega

/-- A number followed by `k` more digits. -/
theorem natValue_toDigits_padded {a b k : ℕ} (hk : 0 < k) (hb : b < 10 ^ k) :
    natValue 10 (Nat.toDigits 10 a ++ padded k b) = some (a * 10 ^ k + b) := by
  have hne : Nat.toDigits 10 a ++ padded k b ≠ [] := by simp
  rw [natValue, if_neg hne, digitsValue_append, digitsValue_toDigits, Option.bind_some,
    digitsValue_eq, digitsValue_padded, length_padded hk hb]
  rfl

/-- Without its first digit the text is still a number, and the same one only if the whole part
    is zero. -/
theorem natValue_tail_padded {a b k : ℕ} (hk : 0 < k) (hb : b < 10 ^ k) {c : Char} {cs : List Char}
    (hcs : Nat.toDigits 10 a = c :: cs) :
    ∃ r, natValue 10 (cs ++ padded k b) = some r ∧ (a * 10 ^ k + b = r ↔ a = 0) := by
  have hlength : 0 < (cs ++ padded k b).length := by
    rw [List.length_append, length_padded hk hb]
    omega
  have hne : cs ++ padded k b ≠ [] := List.ne_nil_of_length_pos hlength
  have hwhole := natValue_toDigits_padded (a := a) hk hb
  rw [hcs, List.cons_append, natValue, if_neg (List.cons_ne_nil _ _)] at hwhole
  obtain ⟨d, hd, r, hr, hsum⟩ := digitsValue_cons_eq_some_iff.mp hwhole
  refine ⟨r, by rw [natValue, if_neg hne, hr], ?_⟩
  have hpow : 10 ^ (cs ++ padded k b).length ≠ 0 := by positivity
  -- The first digit is worth its place, so the two numbers are the same when it is zero.
  rw [← hsum, Nat.add_eq_right, Nat.mul_eq_zero, or_iff_left hpow]
  constructor
  · rintro rfl
    exact eq_zero_of_leading_zero hcs hd
  · -- The other way round, zero is written with the digit zero.
    rintro rfl
    obtain ⟨rfl, -⟩ := List.cons.inj (hcs.symm.trans (by decide : Nat.toDigits 10 0 = ['0']))
    exact Option.some.inj (hd.symm.trans (by decide))

/-! ### Two decimals -/

/-- The text with two decimals of `c` hundredths. -/
def fixed2 (c : ℕ) : List Char :=
  Nat.toDigits 10 (c / 100) ++ '.' :: [(c / 10 % 10).digitChar, (c % 10).digitChar]

/-- The digits of the two-decimal text, without the point, denote the hundredths. -/
theorem natValue_fixed2 (c : ℕ) :
    natValue 10 (Nat.toDigits 10 (c / 100) ++ [(c / 10 % 10).digitChar, (c % 10).digitChar])
      = some c := by
  have hne : Nat.toDigits 10 (c / 100) ++ [(c / 10 % 10).digitChar, (c % 10).digitChar] ≠ [] := by
    simp
  rw [natValue, if_neg hne, digitsValue_append, digitsValue_toDigits, Option.bind_some]
  have h1 : c / 10 % 10 < 10 := Nat.mod_lt _ (by decide)
  have h2 : c % 10 < 10 := Nat.mod_lt _ (by decide)
  simp only [digitsValue, digitValue_digitChar h1, digitValue_digitChar h2, Option.bind_some]
  congr 1
  omega

/-- A digit text holds decimal digits only. -/
theorem isDigit_of_mem {n : ℕ} {c : Char} (h : c ∈ Nat.toDigits 10 n) : c.isDigit = true :=
  Nat.isDigit_of_mem_toDigits (by decide) (by decide) h

theorem isDigit_digitChar {d : ℕ} (h : d < 10) : d.digitChar.isDigit = true := by
  interval_cases d <;> decide

theorem isDigit_of_mem_padded {k n : ℕ} {c : Char} (h : c ∈ padded k n) : c.isDigit = true := by
  rcases List.mem_append.mp h with h | h
  · rw [List.eq_of_mem_replicate h]
    rfl
  · exact isDigit_of_mem h

/-- A two-decimal text holds decimal digits and the point only. -/
theorem isDigit_or_point_of_mem_fixed2 {c : ℕ} {x : Char} (h : x ∈ fixed2 c) :
    x.isDigit = true ∨ x = '.' := by
  simp only [fixed2, List.mem_append, List.mem_cons, List.not_mem_nil, or_false] at h
  rcases h with h | rfl | rfl | rfl
  · exact Or.inl (isDigit_of_mem h)
  · exact Or.inr rfl
  · exact Or.inl (isDigit_digitChar (Nat.mod_lt _ (by decide)))
  · exact Or.inl (isDigit_digitChar (Nat.mod_lt _ (by decide)))

/-! ### Rounding to the nearest integer -/

/-- The number is halfway between two integers. -/
def IsTie (x : ℚ) : Prop := ∃ n : ℤ, x = n + 1 / 2

/-- Rounding to the nearest integer, with any fixed rule for ties. -/
structure Nearest where
  round : ℚ → ℤ
  nearest : ∀ x, |x - round x| ≤ 1 / 2

namespace Nearest
variable (R : Nearest)

theorem sub_half_le (x : ℚ) : x - 1 / 2 ≤ R.round x := by
  have h := (abs_le.mp (R.nearest x)).2
  linarith

theorem le_add_half (x : ℚ) : (R.round x : ℚ) ≤ x + 1 / 2 := by
  have h := (abs_le.mp (R.nearest x)).1
  linarith

/-- Integers are left alone, whatever the rule for ties. -/
@[simp] theorem round_intCast (n : ℤ) : R.round n = n := by
  have h1 := R.sub_half_le n
  have h2 := R.le_add_half n
  -- The rounding is within a half of `n`, and no other integer is.
  have h3 : (n : ℚ) - 1 < R.round n := by linarith
  have h4 : (R.round n : ℚ) < n + 1 := by linarith
  have h5 : n - 1 < R.round n := by exact_mod_cast h3
  have h6 : R.round n < n + 1 := by exact_mod_cast h4
  omega

theorem round_nonneg {x : ℚ} (hx : 0 ≤ x) : 0 ≤ R.round x := by
  have h1 := R.sub_half_le x
  have h2 : (-1 : ℚ) < R.round x := by linarith
  have h3 : (-1 : ℤ) < R.round x := by exact_mod_cast h2
  omega

theorem round_nonpos {x : ℚ} (hx : x ≤ 0) : R.round x ≤ 0 := by
  have h1 := R.le_add_half x
  have h2 : (R.round x : ℚ) < 1 := by linarith
  have h3 : R.round x < 1 := by exact_mod_cast h2
  omega

/-- The rule sends this number up. -/
def RoundsUp (x : ℚ) : Prop := x < R.round x

/-- Halfway between two integers only these two are nearest. -/
theorem round_tie (n : ℤ) : R.round (n + 1 / 2) = n ∨ R.round (n + 1 / 2) = n + 1 := by
  have hlow : (n : ℚ) ≤ R.round (n + 1 / 2) := by linarith [R.sub_half_le ((n : ℚ) + 1 / 2)]
  have hhigh : (R.round (n + 1 / 2) : ℚ) ≤ n + 1 := by linarith [R.le_add_half ((n : ℚ) + 1 / 2)]
  have hlow' : n ≤ R.round (n + 1 / 2) := by exact_mod_cast hlow
  have hhigh' : R.round (n + 1 / 2) ≤ n + 1 := by exact_mod_cast hhigh
  omega

theorem roundsUp_tie_iff (n : ℤ) : R.RoundsUp (n + 1 / 2) ↔ R.round (n + 1 / 2) = n + 1 := by
  unfold RoundsUp
  rcases R.round_tie n with h | h <;> rw [h] <;> push_cast
  · exact iff_of_false (by linarith) (by omega)
  · exact iff_of_true (by linarith) rfl

/-- Anywhere else there is only one nearest integer. -/
theorem round_eq_of_not_tie {x : ℚ} (hx : ¬ IsTie x) {n : ℤ} (hn : |x - n| ≤ 1 / 2) :
    R.round x = n := by
  obtain ⟨hlow, hhigh⟩ := abs_le.mp hn
  have h1 := R.sub_half_le x
  have h2 := R.le_add_half x
  by_contra hne
  apply hx
  rcases lt_or_gt_of_ne hne with hlt | hgt
  · have hlt' : (R.round x : ℚ) + 1 ≤ n := by exact_mod_cast hlt
    exact ⟨R.round x, by linarith⟩
  · have hgt' : (n : ℚ) + 1 ≤ R.round x := by exact_mod_cast hgt
    exact ⟨n, by linarith⟩

/-- **Splitting.**  What is left of an integer `m` after `y` is rounded to what is left after
    the rounded `y`, except where `y` and `m - y` are ties that are sent the same way. -/
theorem round_intCast_sub_iff (m : ℤ) (y : ℚ) :
    R.round (m - y) = m - R.round y ↔ (IsTie y → (R.RoundsUp y ↔ ¬ R.RoundsUp (m - y))) := by
  by_cases hy : IsTie y
  · -- A tie leaves a tie, and each of the two has only two nearest integers.
    obtain ⟨n, rfl⟩ := hy
    have hrest : (m : ℚ) - (n + 1 / 2) = ((m - n - 1 : ℤ) : ℚ) + 1 / 2 := by
      push_cast
      ring
    rw [hrest, roundsUp_tie_iff, roundsUp_tie_iff, forall_prop_of_true ⟨n, rfl⟩]
    rcases R.round_tie n with h | h <;> rcases R.round_tie (m - n - 1) with h' | h' <;>
      rw [h, h'] <;> omega
  · -- Where there is no tie, both are rounded to the only integer that is nearest.
    have hrest : ¬ IsTie (m - y) := by
      rintro ⟨n, hn⟩
      refine hy ⟨m - n - 1, ?_⟩
      push_cast
      linarith
    refine iff_of_true (R.round_eq_of_not_tie hrest ?_) fun h => absurd h hy
    have hsame : (m : ℚ) - y - ((m - R.round y : ℤ) : ℚ) = -(y - R.round y) := by
      push_cast
      ring
    rw [hsame, abs_neg]
    exact R.nearest y

/-- Ties go to the even neighbour. -/
def halfEven : Nearest where
  round x :=
    if x - ⌊x⌋ < 1 / 2 then ⌊x⌋
    else if 1 / 2 < x - ⌊x⌋ then ⌊x⌋ + 1
    else if ⌊x⌋ % 2 = 0 then ⌊x⌋ else ⌊x⌋ + 1
  nearest x := by
    have h0 := Int.floor_le x
    have h1 := Int.lt_floor_add_one x
    rw [abs_le]
    split_ifs <;> push_cast <;> constructor <;> linarith

end Nearest

end Decimal
