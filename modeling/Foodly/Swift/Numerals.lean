import Foodly.Lib.Decimal
import Mathlib.Data.List.TakeWhile
import Mathlib.Tactic.Ring

namespace Swift

open Decimal

/-!
# Swift's number texts

The conversions between numbers and texts that the screens use, as the standard library
documents them, with `Float` read as an exact rational number:

* `parseInt` is `Int(_: String)` and `addInt` the trapping `+` of `Int`;
* `parseFloat` is `Float(_: String)`, decimal and hexadecimal, for finite values;
* `format2f` is `String(format: "%.2f", _)` with the rule for ties left open;
* `description` is the text that `"\(x)"` interpolates.

The screens keep numbers as texts and parse them whenever they compute, so what matters is what
comes back:

* `parseInt_toString` — a natural number in the range of `Int`;
* `parseFloat_format2f` — the number rounded to hundredths, `cents`, the round trip behind
  `Float(String(format: "%.2f", x))!`; a whole number of cents is not changed by it
  (`cents_of_whole`);
* `parseFloat_description` — a decimal that its text shows in full;
* `parseFloat_description_tail` — what is left of it without its first character.

`SwiftFloat` and `SwiftDouble` are what a screen uses of the two types when nothing depends on
exact arithmetic: an equality under which a number need not be equal to itself, sums, and texts.
-/

/-! ### Integers -/

/-- `Int.min`. -/
def minInt : ℤ := -2 ^ 63

/-- `Int.max`. -/
def maxInt : ℤ := 2 ^ 63 - 1

/-- The value if it is in the range of `Int`; `none` is the overflow trap. -/
def checkInt (n : ℤ) : Option ℤ := if minInt ≤ n ∧ n ≤ maxInt then some n else none

/-- `a + b` on `Int`. -/
def addInt (a b : ℤ) : Option ℤ := checkInt (a + b)

/-- An optional sign, and what follows it; the flag says that the sign is a minus. -/
def splitSign : List Char → Bool × List Char
  | '-' :: cs => (true, cs)
  | '+' :: cs => (false, cs)
  | cs => (false, cs)

/-- An optionally signed decimal integer of any size. -/
def signedValue (cs : List Char) : Option ℤ :=
  let (negative, digits) := splitSign cs
  (natValue 10 digits).map fun n => if negative then -(n : ℤ) else n

/-- `Int(_: String)`. -/
def parseInt (text : String) : Option ℤ := (signedValue text.toList).bind checkInt

/-- A text that starts with no sign is all digits to come. -/
theorem splitSign_of_not_sign {cs : List Char} (h : ∀ c ∈ cs, c ≠ '-' ∧ c ≠ '+') :
    splitSign cs = (false, cs) := by
  cases cs with
  | nil => rfl
  | cons c cs =>
    obtain ⟨hminus, hplus⟩ := h c (by simp)
    simp only [splitSign]
    split
    · rename_i heq; simp_all
    · rename_i heq; simp_all
    · rfl

/-- A digit is none of the other characters of a number text. -/
theorem ne_of_isDigit {c : Char} (h : c.isDigit = true) :
    c ≠ '-' ∧ c ≠ '+' ∧ c ≠ '.' ∧ c ≠ 'e' ∧ c ≠ 'E' ∧ c ≠ 'x' ∧ c ≠ 'X' := by
  refine ⟨?_, ?_, ?_, ?_, ?_, ?_, ?_⟩ <;> (rintro rfl; exact absurd h (by decide))

theorem checkInt_of_range {n : ℤ} (h1 : minInt ≤ n) (h2 : n ≤ maxInt) :
    checkInt n = some n := if_pos ⟨h1, h2⟩

theorem minInt_le_natCast (k : ℕ) : minInt ≤ (k : ℤ) :=
  le_trans (by decide : minInt ≤ 0) (Int.natCast_nonneg k)

/-- A natural number has the same text as an `Int`. -/
theorem toString_natCast (k : ℕ) : toString (k : ℤ) = toString k := rfl

/-- Below `Int.max`, adding one does not trap. -/
theorem addInt_one {k : ℕ} (h : (k : ℤ) < maxInt) : addInt k 1 = some ((k + 1 : ℕ) : ℤ) := by
  rw [addInt, ← Nat.cast_succ]
  refine checkInt_of_range (minInt_le_natCast _) ?_
  push_cast
  exact h

/-- At `Int.max`, adding one traps. -/
theorem addInt_one_of_ge {k : ℕ} (h : maxInt ≤ (k : ℤ)) : addInt k 1 = none := by
  have hrange : ¬(minInt ≤ (k : ℤ) + 1 ∧ (k : ℤ) + 1 ≤ maxInt) := by omega
  rw [addInt, checkInt, if_neg hrange]

/-- Taking one away from a positive number does not trap. -/
theorem addInt_neg_one {k : ℕ} (hpos : 1 ≤ k) (h : (k : ℤ) ≤ maxInt) :
    addInt k (-1) = some ((k - 1 : ℕ) : ℤ) := by
  have hcast : ((k - 1 : ℕ) : ℤ) = k + -1 := by omega
  rw [addInt, ← hcast]
  exact checkInt_of_range (minInt_le_natCast _) (by omega)

/-- `Int(String(k))` gives back a natural number `k` in range. -/
theorem parseInt_toString {k : ℕ} (h : (k : ℤ) ≤ maxInt) :
    parseInt (toString k) = some (k : ℤ) := by
  have hsign : splitSign (Nat.toDigits 10 k) = (false, Nat.toDigits 10 k) :=
    splitSign_of_not_sign fun c hc =>
      ⟨(ne_of_isDigit (isDigit_of_mem hc)).1, (ne_of_isDigit (isDigit_of_mem hc)).2.1⟩
  have hvalue : signedValue (Nat.toDigits 10 k) = some (k : ℤ) := by
    simp [signedValue, hsign, natValue_toDigits]
  rw [parseInt, Nat.toString_eq_ofList_toDigits, String.toList_ofList, hvalue, Option.bind_some]
  exact checkInt_of_range (minInt_le_natCast k) h

/-! ### Floating-point numbers, read exactly -/

/-- The optional exponent: nothing, or a marker and an optionally signed integer. -/
def exponentValue : List Char → Option ℤ
  | [] => some 0
  | _ :: cs => signedValue cs

/-- An unsigned number text: digits with an optional point, then an optional exponent. -/
def unsignedFloat (radix base : ℕ) (marker : Char → Bool) (cs : List Char) : Option ℚ :=
  let mantissa := cs.takeWhile (fun c => !marker c)
  let whole := mantissa.takeWhile (· != '.')
  let fraction := (mantissa.dropWhile (· != '.')).tail
  (natValue radix (whole ++ fraction)).bind fun m =>
    (exponentValue (cs.dropWhile (fun c => !marker c))).map fun e =>
      (m : ℚ) / (radix : ℚ) ^ fraction.length * (base : ℚ) ^ e

/-- The text starts with `0x` or `0X`. -/
def isHex (cs : List Char) : Bool := cs.take 2 == ['0', 'x'] || cs.take 2 == ['0', 'X']

def isDecimalMarker (c : Char) : Bool := c == 'e' || c == 'E'

def isHexMarker (c : Char) : Bool := c == 'p' || c == 'P'

/-- `Float(_: String)` on finite values. -/
def parseFloat (text : String) : Option ℚ :=
  let (negative, cs) := splitSign text.toList
  let magnitude :=
    if isHex cs then unsignedFloat 16 2 isHexMarker (cs.drop 2)
    else unsignedFloat 10 10 isDecimalMarker cs
  magnitude.map fun x => if negative then -x else x

/-- The characters of a plain decimal: digits and the point. -/
def IsPlain (cs : List Char) : Prop := ∀ c ∈ cs, c.isDigit = true ∨ c = '.'

theorem not_marker_of_plain {c : Char} (h : c.isDigit = true ∨ c = '.') :
    isDecimalMarker c = false := by
  rcases h with h | rfl
  · have hne := ne_of_isDigit h
    simp [isDecimalMarker, hne.2.2.2.1, hne.2.2.2.2.1]
  · rfl

theorem not_isHex_of_plain {cs : List Char} (h : IsPlain cs) : isHex cs = false := by
  have key : ∀ x : Char, (x = 'x' ∨ x = 'X') → cs.take 2 ≠ ['0', x] := by
    intro x hx htake
    have hmem : x ∈ cs := List.mem_of_mem_take (by rw [htake]; simp)
    rcases h x hmem with hd | rfl
    · have hne := ne_of_isDigit hd
      rcases hx with rfl | rfl
      · exact hne.2.2.2.2.2.1 rfl
      · exact hne.2.2.2.2.2.2 rfl
    · rcases hx with hx | hx <;> exact absurd hx (by decide)
  simp [isHex, key 'x' (Or.inl rfl), key 'X' (Or.inr rfl)]

theorem splitSign_of_plain {cs : List Char} (h : IsPlain cs) : splitSign cs = (false, cs) := by
  refine splitSign_of_not_sign fun c hc => ?_
  rcases h c hc with hd | rfl
  · exact ⟨(ne_of_isDigit hd).1, (ne_of_isDigit hd).2.1⟩
  · exact ⟨by decide, by decide⟩

/-- A plain decimal has no exponent and is read digit by digit. -/
theorem unsignedFloat_of_plain {cs : List Char} (h : IsPlain cs) :
    unsignedFloat 10 10 isDecimalMarker cs
      = (natValue 10 (cs.takeWhile (· != '.') ++ (cs.dropWhile (· != '.')).tail)).map
          fun m => (m : ℚ) / 10 ^ ((cs.dropWhile (· != '.')).tail).length := by
  -- No character is an exponent marker, so the mantissa is the whole text.
  have hall : ∀ c ∈ cs, (!isDecimalMarker c) = true := fun c hc => by
    rw [not_marker_of_plain (h c hc)]; rfl
  have htake : cs.takeWhile (fun c => !isDecimalMarker c) = cs :=
    List.takeWhile_eq_self_iff.mpr hall
  have hdrop : cs.dropWhile (fun c => !isDecimalMarker c) = [] :=
    List.dropWhile_eq_nil_iff.mpr hall
  simp only [unsignedFloat, htake, hdrop, exponentValue, Option.map_some, zpow_zero, mul_one]
  cases natValue 10 (cs.takeWhile (· != '.') ++ (cs.dropWhile (· != '.')).tail) <;> rfl

/-- `Float(String(k))` is the natural number `k`. -/
theorem parseFloat_toString (k : ℕ) : parseFloat (toString k) = some (k : ℚ) := by
  have hplain : IsPlain (Nat.toDigits 10 k) := fun c hc => Or.inl (isDigit_of_mem hc)
  have hpoint : ∀ c ∈ Nat.toDigits 10 k, (c != '.') = true := fun c hc => by
    simpa using (ne_of_isDigit (isDigit_of_mem hc)).2.2.1
  have htake : (Nat.toDigits 10 k).takeWhile (· != '.') = Nat.toDigits 10 k :=
    List.takeWhile_eq_self_iff.mpr hpoint
  have hdrop : (Nat.toDigits 10 k).dropWhile (· != '.') = [] :=
    List.dropWhile_eq_nil_iff.mpr hpoint
  have hvalue : unsignedFloat 10 10 isDecimalMarker (Nat.toDigits 10 k) = some (k : ℚ) := by
    rw [unsignedFloat_of_plain hplain, htake, hdrop]
    simp [natValue_toDigits]
  rw [parseFloat, Nat.toString_eq_ofList_toDigits, String.toList_ofList]
  simp [splitSign_of_plain hplain, not_isHex_of_plain hplain, hvalue]

/-- Different numbers have different texts. -/
theorem toString_injective : Function.Injective (toString : ℕ → String) := by
  intro a b h
  have hvalue := congrArg parseFloat h
  rw [parseFloat_toString, parseFloat_toString, Option.some.injEq] at hvalue
  exact_mod_cast hvalue

/-- A plain decimal with a minus in front, or not. -/
theorem parseFloat_signed (negative : Prop) [Decidable negative] {cs : List Char} (h : IsPlain cs)
    {v : ℚ} (hvalue : unsignedFloat 10 10 isDecimalMarker cs = some v) :
    parseFloat (String.ofList ((if negative then ['-'] else []) ++ cs))
      = some (if negative then -v else v) := by
  rw [parseFloat, String.toList_ofList]
  by_cases hneg : negative
  · have hsplit : splitSign (['-'] ++ cs) = (true, cs) := rfl
    rw [if_pos hneg, if_pos hneg, hsplit]
    simp only [not_isHex_of_plain h, hvalue, Option.map_some, Bool.false_eq_true, if_false, if_true]
  · have hsplit : splitSign ([] ++ cs) = (false, cs) := splitSign_of_plain h
    rw [if_neg hneg, if_neg hneg, hsplit]
    simp only [not_isHex_of_plain h, hvalue, Option.map_some, Bool.false_eq_true, if_false]

theorem isPlain_point {ws ds : List Char} (hws : ∀ c ∈ ws, c.isDigit = true)
    (hds : ∀ c ∈ ds, c.isDigit = true) : IsPlain (ws ++ '.' :: ds) := by
  intro c hc
  rcases List.mem_append.mp hc with hc | hc
  · exact Or.inl (hws c hc)
  · exact (List.mem_cons.mp hc).elim Or.inr fun hc => Or.inl (hds c hc)

/-- Digits after the point count as fractions. -/
theorem unsignedFloat_point {ws ds : List Char} (hws : ∀ c ∈ ws, c.isDigit = true)
    (hds : ∀ c ∈ ds, c.isDigit = true) :
    unsignedFloat 10 10 isDecimalMarker (ws ++ '.' :: ds)
      = (natValue 10 (ws ++ ds)).map fun m : ℕ => (m : ℚ) / 10 ^ ds.length := by
  -- The only point is the one after the whole part.
  have hpoint : ∀ c ∈ ws, (c != '.') = true := fun c hc => by
    simpa using (ne_of_isDigit (hws c hc)).2.2.1
  rw [unsignedFloat_of_plain (isPlain_point hws hds), List.takeWhile_append_of_pos hpoint,
    List.dropWhile_append_of_pos hpoint]
  cases hvalue : natValue 10 (ws ++ ds) <;> simp [hvalue]

/-! ### Two decimals -/

/-- `String(format: "%.2f", x)`. -/
def format2f (R : Nearest) (x : ℚ) : String :=
  String.ofList ((if x < 0 then ['-'] else []) ++ fixed2 (R.round (x * 100)).natAbs)

theorem fixed2_plain (c : ℕ) : IsPlain (fixed2 c) := fun _ h => isDigit_or_point_of_mem_fixed2 h

theorem unsignedFloat_fixed2 (c : ℕ) :
    unsignedFloat 10 10 isDecimalMarker (fixed2 c) = some ((c : ℚ) / 100) := by
  have hdigits : ∀ x ∈ [(c / 10 % 10).digitChar, (c % 10).digitChar], x.isDigit = true := by
    simp [isDigit_digitChar (Nat.mod_lt _ (by decide : 0 < 10))]
  rw [fixed2, unsignedFloat_point (fun _ => isDigit_of_mem) hdigits, natValue_fixed2]
  norm_num

/-- The value that a two-decimal text shows: `x` rounded to hundredths. -/
def cents (R : Nearest) (x : ℚ) : ℚ := (R.round (x * 100) : ℚ) / 100

/-- **Round trip.**  `Float(String(format: "%.2f", x))!` never fails and is `x` rounded to
    hundredths. -/
theorem parseFloat_format2f (R : Nearest) (x : ℚ) :
    parseFloat (format2f R x) = some (cents R x) := by
  rw [format2f, parseFloat_signed (x < 0) (fixed2_plain _) (unsignedFloat_fixed2 _), cents]
  by_cases hx : x < 0
  · -- A negative number carries its sign and the digits of a nonpositive rounding.
    have hround : R.round (x * 100) ≤ 0 := R.round_nonpos (by linarith)
    rw [if_pos hx, Nat.cast_natAbs, abs_of_nonpos hround, Int.cast_neg, neg_div, neg_neg]
  · have hround : 0 ≤ R.round (x * 100) := R.round_nonneg (by linarith)
    rw [if_neg hx, Nat.cast_natAbs, abs_of_nonneg hround]

/-- A whole number of cents is shown exactly. -/
theorem cents_of_whole {R : Nearest} {x : ℚ} {n : ℤ} (h : x * 100 = n) : cents R x = x := by
  rw [cents, h, R.round_intCast, ← h]
  ring

@[simp] theorem cents_zero (R : Nearest) : cents R 0 = 0 := cents_of_whole (n := 0) (by norm_num)

theorem cents_nonneg (R : Nearest) {x : ℚ} (hx : 0 ≤ x) : 0 ≤ cents R x := by
  have h : (0 : ℚ) ≤ R.round (x * 100) := by exact_mod_cast R.round_nonneg (by linarith)
  exact div_nonneg h (by norm_num)

theorem cents_nonpos (R : Nearest) {x : ℚ} (hx : x ≤ 0) : cents R x ≤ 0 := by
  have h : (R.round (x * 100) : ℚ) ≤ 0 := by exact_mod_cast R.round_nonpos (by linarith)
  exact div_nonpos_of_nonpos_of_nonneg h (by norm_num)

/-! ### Interpolation -/

/-- Number of decimals of the shortest exact decimal text, at least one. -/
def decimals (x : ℚ) : ℕ :=
  ((List.range x.den).find? fun k => (x * 10 ^ (k + 1)).den == 1).getD 0 + 1

/-- `"\(x)"` for a finite decimal `x`: its shortest exact decimal text. -/
def description (x : ℚ) : String :=
  let k := decimals x
  let scaled := (x * 10 ^ k).num.natAbs
  let digits := Nat.toDigits 10 (scaled % 10 ^ k)
  String.ofList ((if x < 0 then ['-'] else []) ++ Nat.toDigits 10 (scaled / 10 ^ k) ++
    '.' :: (List.replicate (k - digits.length) '0' ++ digits))

/-- **Round trip.**  `Float("\\(x)")!` gives back a decimal that its text shows in full. -/
theorem parseFloat_description {x : ℚ} (h : (x * 10 ^ decimals x).den = 1) :
    parseFloat (description x) = some x := by
  have hpos : 0 < decimals x := Nat.succ_pos _
  have hpow : (0 : ℚ) < 10 ^ decimals x := by positivity
  set scaled := (x * 10 ^ decimals x).num.natAbs with hscaled
  have hfraction : scaled % 10 ^ decimals x < 10 ^ decimals x := Nat.mod_lt _ (by positivity)
  have hdigits : ∀ c ∈ padded (decimals x) (scaled % 10 ^ decimals x), c.isDigit = true :=
    fun _ => isDigit_of_mem_padded
  have hwhole : ∀ c ∈ Nat.toDigits 10 (scaled / 10 ^ decimals x), c.isDigit = true :=
    fun _ => isDigit_of_mem
  have hvalue : unsignedFloat 10 10 isDecimalMarker (Nat.toDigits 10 (scaled / 10 ^ decimals x) ++
      '.' :: padded (decimals x) (scaled % 10 ^ decimals x)) = some |x| := by
    rw [unsignedFloat_point hwhole hdigits, natValue_toDigits_padded hpos hfraction,
      Option.map_some, length_padded hpos hfraction, Nat.div_add_mod', hscaled, Nat.cast_natAbs,
      Int.cast_abs, Rat.coe_int_num_of_den_eq_one h, abs_mul, abs_of_pos hpow,
      mul_div_cancel_right₀ _ hpow.ne']
  have hparsed := parseFloat_signed (x < 0) (isPlain_point hwhole hdigits) hvalue
  rw [← List.append_assoc] at hparsed
  refine hparsed.trans ?_
  by_cases hx : x < 0
  · rw [if_pos hx, abs_of_neg hx, neg_neg]
  · rw [if_neg hx, abs_of_nonneg (not_lt.mp hx)]

/-- Without its first character the text of a decimal is still a number, and the same one exactly
    below one. -/
theorem parseFloat_description_tail {x : ℚ} (hx : 0 ≤ x) (h : (x * 10 ^ decimals x).den = 1) :
    ∃ c cs, description x = String.ofList (c :: cs) ∧ IsPlain (c :: cs) ∧
      ∃ y, parseFloat (String.ofList cs) = some y ∧ (x = y ↔ x < 1) := by
  have hpos : 0 < decimals x := Nat.succ_pos _
  have hpow : (0 : ℚ) < 10 ^ decimals x := by positivity
  set scaled := (x * 10 ^ decimals x).num.natAbs with hscaled
  have hvalue : x * 10 ^ decimals x = scaled := by
    rw [hscaled, Nat.cast_natAbs, Int.cast_abs, Rat.coe_int_num_of_den_eq_one h, abs_mul,
      abs_of_nonneg hx, abs_of_pos hpow]
  have hfraction : scaled % 10 ^ decimals x < 10 ^ decimals x := Nat.mod_lt _ (by positivity)
  have hbelow : x < 1 ↔ scaled / 10 ^ decimals x = 0 := by
    rw [← mul_lt_iff_lt_one_left hpow, hvalue, Nat.div_eq_zero_iff_lt (by positivity)]
    exact_mod_cast Iff.rfl
  obtain ⟨c, cs, hcs⟩ : ∃ c cs, Nat.toDigits 10 (scaled / 10 ^ decimals x) = c :: cs :=
    List.exists_cons_of_ne_nil Nat.toDigits_ne_nil
  obtain ⟨r, hr, hsame⟩ := natValue_tail_padded hpos hfraction hcs
  have hdigits : ∀ d ∈ c :: cs, d.isDigit = true := fun d hd => isDigit_of_mem (hcs ▸ hd)
  have hpadded : ∀ d ∈ padded (decimals x) (scaled % 10 ^ decimals x), d.isDigit = true :=
    fun _ => isDigit_of_mem_padded
  have htail : ∀ d ∈ cs, d.isDigit = true := fun d hd => hdigits d (List.mem_cons_of_mem c hd)
  have hread := parseFloat_signed False (isPlain_point htail hpadded)
    (by rw [unsignedFloat_point htail hpadded, hr, Option.map_some])
  refine ⟨c, cs ++ '.' :: padded (decimals x) (scaled % 10 ^ decimals x), ?_,
    isPlain_point hdigits hpadded, _, hread, ?_⟩
  · rw [description, if_neg (not_lt.mpr hx), List.nil_append, ← hscaled, hcs]
    rfl
  · rw [if_neg not_false, length_padded hpos hfraction, hbelow, ← hsame, Nat.div_add_mod',
      eq_div_iff hpow.ne', hvalue, Nat.cast_inj]

/-- A whole number of cents is shown in full. -/
theorem decimals_of_whole {x : ℚ} {n : ℤ} (h : x * 100 = n) : (x * 10 ^ decimals x).den = 1 := by
  have hpos : 0 < x.den := x.den_pos
  -- One or two decimals are enough, and two are only tried when one is not.
  have hfound : ∃ k ∈ List.range x.den, ((x * 10 ^ (k + 1)).den == 1) = true := by
    by_cases hone : (x * 10).den = 1
    · exact ⟨0, List.mem_range.mpr hpos, by simpa using hone⟩
    · have hden : x.den ≠ 1 := by
        intro hden
        apply hone
        rw [← Rat.coe_int_num_of_den_eq_one hden]
        exact_mod_cast Rat.den_intCast (x.num * 10)
      refine ⟨1, List.mem_range.mpr (by omega), ?_⟩
      have htwo : x * 10 ^ (1 + 1) = n := by rw [← h]; norm_num
      rw [htwo, Rat.den_intCast]
      rfl
  obtain ⟨k, hk⟩ := Option.isSome_iff_exists.mp (List.find?_isSome.mpr hfound)
  have hdecimals : decimals x = k + 1 := by rw [decimals, hk, Option.getD_some]
  rw [hdecimals]
  simpa using List.find?_some hk

-- Trailing zeros are dropped, but one decimal is always shown.
example :
    description (25 / 2) = "12.5" ∧ description 8 = "8.0" ∧ description (-1 / 20) = "-0.05" := by
  decide +kernel

/-! ### Floating-point types -/

/-- What the screens use of `Float`: its equality, sums, texts and values. -/
class SwiftFloat (F : Type) extends BEq F, Add F, Zero F where
  /-- `Float(_: String)`. -/
  ofText : String → Option F
  /-- `"\(x)"`. -/
  description : F → String
  value : F → ℚ

/-- `Float` read as an exact rational number. -/
instance : SwiftFloat ℚ where
  ofText := parseFloat
  description := description
  value := id

/-- What the screens use of `Double`: its texts, and division by a literal. -/
class SwiftDouble (D : Type) extends Div D where
  /-- `Double(_: String)`. -/
  ofText : String → Option D
  /-- The value of a decimal literal. -/
  literal : ℚ → D
  /-- `String(x)`. -/
  description : D → String

/-- `Double` read as an exact rational number. -/
instance : SwiftDouble ℚ where
  ofText := parseFloat
  literal := id
  description := description

end Swift
