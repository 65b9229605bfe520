import Foodly.Cart.Lines
import Foodly.Lib.Interleaving
import Foodly.Lib.KeyedRows

namespace Foodly

open Swift Decimal Runs KeyedRows

/-!
# The order of taps

A tap names a row by its index, and a row that goes away moves the rows under it up.  Here a tap
names the meal instead, and the row is the one that the meal has come to stand on.  Seen so, every
meal of the cart counts for itself: how the taps on different meals are interleaved makes no
difference, and what is left of a meal is what its own pluses and minuses leave.

* `MealTap`, `TappedCart.step` — taps on meals, carried out on the rows of the screen;
* `Line.tapped` — what a tap makes of the line of one meal, without the others;
* `TappedCart.of`, `Fits` — the screen that shows given lines of the first `n` meals, and the
  invariant under which a tap on it is a tap on one of them (`TappedCart.step_of`);
* `run_of` — a run of the screen is a run of the meals, each by itself;
* `leftOf`, `run_left` — what is left of a meal, worked out from how often it was tapped;
* `meals_count_their_taps` — what a sequence of taps that does not fail leaves on the screen;
* `tap_order_irrelevant` — sequences that tap every meal in the same way, and sequences of the same
  taps in any order.
-/

variable {Image : Type} (R : Nearest)

/-- A tap on the row of a meal, given by its index in the cart as it was opened. -/
structure MealTap where
  meal : ℕ
  plus : Bool
  deriving DecidableEq, Repr

/-- The cart screen, and which meal each of its rows is of. -/
structure TappedCart (Image : Type) where
  screen : CartsViewController Image
  meals : List ℕ

/-- A tap on the row of a meal, as long as there is one; a row that goes takes its meal along. -/
def TappedCart.step (p : TappedCart Image) (tap : MealTap) : Option (TappedCart Image) := do
  let row ← p.meals.idxOf? tap.meal
  let screen ← p.screen.addBtnTapped R row tap.plus
  let fewer := screen.viewModel.cartItems.length < p.screen.viewModel.cartItems.length
  return { screen, meals := if fewer then p.meals.eraseIdx row else p.meals }

/-! ### One meal -/

/-- The line of one meal after a tap on its row, `none` once the meal has gone. -/
def Line.tapped (line : Option (Line Image)) (tap : MealTap) : Option (Option (Line Image)) :=
  line.bind fun l =>
    if tap.plus then if (l.quantity : ℤ) < maxInt then some (some l.more) else none
    else some l.less

/-- The line with another quantity, `none` when there is nothing of it. -/
def Line.take (l : Line Image) (quantity : ℕ) : Option (Line Image) :=
  if h : 1 ≤ quantity then some { l with quantity, positive := h } else none

/-- How many of the taps are on the plus, or on the minus, of a meal's row. -/
def tapsOn (meal : ℕ) (plus : Bool) (taps : List MealTap) : ℕ :=
  taps.countP fun tap => tap.meal = meal ∧ tap.plus = plus

/-- What the taps leave of each meal: one more for each plus, and one less for each minus. -/
def leftOf (lines : List (Line Image)) (taps : List MealTap) (meal : ℕ) : Option (Line Image) :=
  lines[meal]?.bind fun l =>
    l.take (l.quantity + tapsOn meal true taps - tapsOn meal false taps)

/-! ### The screen is read off the meals -/

/-- The screen that shows what is left of each of the first `n` meals. -/
def TappedCart.of (s : CartsViewController Image) (n : ℕ) (lines : ℕ → Option (Line Image)) :
    TappedCart Image where
  screen := s.display R (rows lines (List.range n))
  meals := keysLeft lines (List.range n)

/-- The lines are of the first `n` meals, and their quantities are in range. -/
structure Fits (n : ℕ) (lines : ℕ → Option (Line Image)) : Prop where
  lt : ∀ {meal l}, lines meal = some l → meal < n
  inRange : ∀ {meal l}, lines meal = some l → (l.quantity : ℤ) ≤ maxInt

variable {R}

theorem Fits.inRange_rows {n : ℕ} {lines : ℕ → Option (Line Image)} (h : Fits n lines) :
    InRange (rows lines (List.range n)) := by
  intro l hl
  obtain ⟨meal, -, hmeal⟩ := List.mem_filterMap.mp hl
  exact h.inRange hmeal

/-- A tap leaves the other meals alone, and its own in range. -/
theorem Fits.step {n : ℕ} {lines lines' : ℕ → Option (Line Image)} (h : Fits n lines)
    {tap : MealTap} (hstep : stepAt MealTap.meal Line.tapped lines tap = some lines') :
    Fits n lines' := by
  obtain ⟨line', hline', rfl⟩ := Option.map_eq_some_iff.mp hstep
  obtain ⟨l, hl, htapped⟩ := Option.bind_eq_some_iff.mp hline'
  have hnew : ∀ l', line' = some l' → (l'.quantity : ℤ) ≤ maxInt := by
    rintro l' rfl
    have hrange := h.inRange hl
    split_ifs at htapped with hplus hmax
    · obtain rfl : l.more = l' := Option.some.inj (Option.some.inj htapped)
      simp only [Line.more]
      omega
    · have hquantity := (Line.of_less (Option.some.inj htapped)).2
      omega
  constructor
  · intro meal l' hl'
    -- The tapped meal was there before, and the others are as they were.
    by_cases hmeal : meal = tap.meal
    · exact hmeal ▸ h.lt hl
    · rw [Function.update_of_ne hmeal] at hl'
      exact h.lt hl'
  · intro meal l' hl'
    by_cases hmeal : meal = tap.meal
    · rw [hmeal, Function.update_self] at hl'
      exact hnew l' hl'
    · rw [Function.update_of_ne hmeal] at hl'
      exact h.inRange hl'

/-- The line of a meal after a tap that does not overflow. -/
theorem Line.tapped_some {l : Line Image} {tap : MealTap}
    (hmax : tap.plus = true → (l.quantity : ℤ) < maxInt) :
    Line.tapped (some l) tap = some (if tap.plus then some l.more else l.less) := by
  rw [Line.tapped, Option.bind_some]
  by_cases hplus : tap.plus = true
  · rw [if_pos hplus, if_pos hplus, if_pos (hmax hplus)]
  · rw [if_neg hplus, if_neg hplus]

/-- A tap on the row of a meal edits the rows at that row. -/
theorem tapLine_rows {lines : ℕ → Option (Line Image)} {meals : List ℕ} {meal row : ℕ}
    {l : Line Image} (hget : (rows lines meals)[row]? = some l)
    (hset : ∀ l',
      rows (Function.update lines meal (some l')) meals = (rows lines meals).set row l')
    (herase : rows (Function.update lines meal none) meals = (rows lines meals).eraseIdx row)
    (plus : Bool) :
    tapLine (rows lines meals) row plus
      = rows (Function.update lines meal (if plus then some l.more else l.less)) meals := by
  simp only [tapLine, hget]
  cases plus with
  | true => exact (hset l.more).symm
  | false =>
    rw [if_neg Bool.false_ne_true, if_neg Bool.false_ne_true]
    cases l.less with
    | some l' => exact (hset l').symm
    | none => exact herase.symm

/-- The rows are fewer after a tap just when its meal has gone. -/
theorem meals_after {lines : ℕ → Option (Line Image)} {meals : List ℕ} {meal row : ℕ}
    {l : Line Image} (hline : lines meal = some l) (hget : (rows lines meals)[row]? = some l)
    (hset : ∀ l',
      rows (Function.update lines meal (some l')) meals = (rows lines meals).set row l')
    (herase : rows (Function.update lines meal none) meals = (rows lines meals).eraseIdx row)
    (hkeys : keysLeft (Function.update lines meal none) meals = (keysLeft lines meals).eraseIdx row)
    (line' : Option (Line Image)) :
    (if (rows (Function.update lines meal line') meals).length < (rows lines meals).length
      then (keysLeft lines meals).eraseIdx row else keysLeft lines meals)
      = keysLeft (Function.update lines meal line') meals := by
  cases line' with
  | some l' =>
    rw [hset, List.length_set, if_neg (lt_irrefl _), keysLeft_replace hline]
  | none =>
    have hrow : row < (rows lines meals).length := (List.getElem?_eq_some_iff.mp hget).1
    have hfewer : (rows lines meals).length - 1 < (rows lines meals).length := by omega
    rw [herase, List.length_eraseIdx_of_lt hrow, if_pos hfewer, hkeys]

/-- **One tap.**  The screen after a tap on the row of a meal is read off the lines with that of
    the meal tapped; where the meal has gone, or its quantity would overflow, there is none. -/
theorem TappedCart.step_of {n : ℕ} {lines : ℕ → Option (Line Image)} (h : Fits n lines)
    (s : CartsViewController Image) (tap : MealTap) :
    (TappedCart.of R s n lines).step R tap
      = (stepAt MealTap.meal Line.tapped lines tap).map (TappedCart.of R s n) := by
  have hshows := CartsViewController.Shows.display (R := R) (s := s) h.inRange_rows
  -- A meal that has gone has no row to tap on either side.
  cases hline : lines tap.meal with
  | none =>
    have hgone : (keysLeft lines (List.range n)).idxOf? tap.meal = none := by
      simp [keysLeft, hline]
    simp [TappedCart.step, TappedCart.of, hgone, stepAt, Line.tapped, hline]
  | some l =>
    obtain ⟨row, hrow, hget, hset, herase, hkeys⟩ :=
      exists_row List.nodup_range (List.mem_range.mpr (h.lt hline)) hline
    rw [TappedCart.step, TappedCart.of, hrow, Option.bind_eq_bind, Option.bind_some, stepAt, hline]
    -- A plus at the largest `Int` traps on the screen, and is excluded for the line.
    by_cases hmax : tap.plus = true → (l.quantity : ℤ) < maxInt
    · have hmeals := meals_after hline hget hset herase hkeys
        (if tap.plus then some l.more else l.less)
      rw [CartsViewController.addBtnTapped_eq hshows.holds ⟨l, hget, hmax⟩,
        Line.tapped_some hmax, tapLine_rows hget hset herase, Option.map_some, Option.map_some]
      simp only [Option.bind_eq_bind, Option.bind_some, Option.pure_def, TappedCart.of,
        CartsViewController.display, CartViewModel.ofLines, List.length_map, hmeals]
    · have hnone :
          (s.display R (rows lines (List.range n))).addBtnTapped R row tap.plus = none := by
        rw [Option.eq_none_iff_forall_ne_some]
        intro t ht
        obtain ⟨l', hl', hmax'⟩ := CartsViewController.canTap_of_addBtnTapped hshows.holds ht
        obtain rfl : l = l' := Option.some.inj (hget.symm.trans hl')
        exact hmax hmax'
      obtain ⟨hplus, hge⟩ := Classical.not_imp.mp hmax
      rw [hnone, Line.tapped, Option.bind_some, if_pos hplus, if_neg hge]
      rfl

/-! ### Runs -/

/-- The lines of a cart, meal by meal, are the cart. -/
theorem rows_getElem? {β : Type} (lines : List β) :
    rows (fun meal => lines[meal]?) (List.range lines.length) = lines ∧
      keysLeft (fun meal => lines[meal]?) (List.range lines.length) = List.range lines.length := by
  constructor
  · rw [rows]
    induction lines with
    | nil => rfl
    | cons b lines ih =>
      rw [List.length_cons, List.range_succ_eq_map, List.filterMap_cons, List.filterMap_map]
      exact congrArg (b :: ·) ih
  · rw [keysLeft, List.filter_eq_self]
    intro meal hmeal
    rw [List.getElem?_eq_getElem (List.mem_range.mp hmeal), Option.isSome_some]

theorem Fits.of_inRange {lines : List (Line Image)} (hrange : InRange lines) :
    Fits lines.length fun meal => lines[meal]? where
  lt h := (List.getElem?_eq_some_iff.mp h).1
  inRange h := hrange _ (List.mem_of_getElem? h)

/-- **Runs.**  A run of taps reads off what the taps make of every meal by itself. -/
theorem run_of {lines : List (Line Image)} (hrange : InRange lines)
    {s : CartsViewController Image} (hs : s = s.display R lines) (taps : List MealTap) :
    run (TappedCart.step R) { screen := s, meals := List.range lines.length } taps
      = (run (stepAt MealTap.meal Line.tapped) (fun meal => lines[meal]?) taps).map
          (TappedCart.of R s lines.length) := by
  obtain ⟨hrows, hmeals⟩ := rows_getElem? lines
  have hstart : TappedCart.of R s lines.length (fun meal => lines[meal]?)
      = { screen := s, meals := List.range lines.length } := by
    rw [TappedCart.of, hrows, hmeals, ← hs]
  rw [← hstart]
  exact run_map (fun lines tap h => TappedCart.step_of h s tap)
    (fun lines tap lines' h hstep => h.step hstep) (Fits.of_inRange hrange) taps

/-- One tap on what is left of a line: a plus leaves one more, and a minus one less. -/
theorem tapped_take {l : Line Image} {quantity : ℕ} {tap : MealTap} {line : Option (Line Image)}
    (h : Line.tapped (l.take quantity) tap = some line) :
    1 ≤ quantity ∧ line = l.take (if tap.plus then quantity + 1 else quantity - 1) := by
  obtain ⟨l', hl', htapped⟩ := Option.bind_eq_some_iff.mp h
  rw [Line.take, Option.dite_none_right_eq_some] at hl'
  obtain ⟨hpos, hl'⟩ := hl'
  obtain rfl : { l with quantity, positive := hpos } = l' := Option.some.inj hl'
  refine ⟨hpos, ?_⟩
  split_ifs at htapped ⊢
  · rw [Line.take, dif_pos (Nat.le_add_left 1 quantity)]
    exact (Option.some.inj htapped).symm
  · exact (Option.some.inj htapped).symm

/-- What a run of taps on the row of one meal leaves of its line: a minus is only tapped on a line
    that is there, so that more is never taken than there was. -/
theorem run_tapped {l : Line Image} {taps : List MealTap} {line : Option (Line Image)}
    (h : run Line.tapped (some l) taps = some line) :
    taps.countP (fun tap => tap.plus = false)
        ≤ l.quantity + taps.countP (fun tap => tap.plus = true) ∧
      line = l.take (l.quantity + taps.countP (fun tap => tap.plus = true)
        - taps.countP fun tap => tap.plus = false) := by
  have hstart : some l = l.take l.quantity := by rw [Line.take, dif_pos l.positive]
  refine run_history (P := fun (taps : List MealTap) line =>
    taps.countP (fun tap => tap.plus = false)
        ≤ l.quantity + taps.countP (fun tap => tap.plus = true) ∧
      line = l.take (l.quantity + taps.countP (fun tap => tap.plus = true)
        - taps.countP fun tap => tap.plus = false)) ?_ ⟨Nat.zero_le _, hstart⟩ h
  rintro taps line tap line' ⟨hle, rfl⟩ htapped
  obtain ⟨hpos, rfl⟩ := tapped_take htapped
  simp only [List.countP_append, List.countP_singleton]
  -- What is left is the number of pluses less that of minuses, each read off the taps so far.
  generalize taps.countP (fun tap => tap.plus = true) = pluses at hle hpos ⊢
  generalize taps.countP (fun tap => tap.plus = false) = minuses at hle hpos ⊢
  cases tap.plus with
  | true => exact ⟨by simp; omega, congrArg l.take (by simp; omega)⟩
  | false => exact ⟨by simp; omega, congrArg l.take (by simp; omega)⟩

/-- The taps on a meal are those of its own taps that are on the plus, or on the minus. -/
theorem countP_actionsAt (meal : ℕ) (plus : Bool) (taps : List MealTap) :
    (actionsAt MealTap.meal meal taps).countP (fun tap => tap.plus = plus)
      = tapsOn meal plus taps := by
  rw [actionsAt, List.countP_filter, tapsOn]
  exact List.countP_congr fun tap _ => by simp [and_comm]

/-- What the run of a meal's own taps leaves of it. -/
theorem run_actionsAt {lines : List (Line Image)} (hone : ∀ l ∈ lines, l.quantity = 1)
    {taps : List MealTap} {meal : ℕ} {line : Option (Line Image)}
    (h : run Line.tapped lines[meal]? (actionsAt MealTap.meal meal taps) = some line) :
    tapsOn meal false taps ≤ 1 + tapsOn meal true taps ∧ line = leftOf lines taps meal := by
  rw [leftOf, ← countP_actionsAt, ← countP_actionsAt]
  cases hl : lines[meal]? with
  | some l =>
    rw [hl] at h
    rw [← hone l (List.mem_of_getElem? hl), Option.bind_some]
    exact run_tapped h
  | none =>
    -- There is no row to tap, so there were no taps.
    rw [hl] at h
    cases htaps : actionsAt MealTap.meal meal taps with
    | nil =>
      rw [htaps] at h
      exact ⟨Nat.zero_le _, (Option.some.inj h).symm⟩
    | cons tap taps =>
      rw [htaps, run_cons] at h
      cases h

/-- What the taps leave of every meal, where there was one of each. -/
theorem leftOf_of_run {lines : List (Line Image)} (hone : ∀ l ∈ lines, l.quantity = 1)
    {taps : List MealTap} {left : ℕ → Option (Line Image)}
    (h : run (stepAt MealTap.meal Line.tapped) (fun meal => lines[meal]?) taps = some left) :
    (∀ meal, tapsOn meal false taps ≤ 1 + tapsOn meal true taps) ∧ left = leftOf lines taps := by
  have hmeals := fun meal => run_actionsAt hone (run_stepAt_eq_some_iff.mp h meal)
  exact ⟨fun meal => (hmeals meal).1, funext fun meal => (hmeals meal).2⟩

/-- What a run of taps leaves of a cart that holds one of each meal. -/
theorem run_left {lines : List (Line Image)} (hrange : InRange lines)
    (hone : ∀ l ∈ lines, l.quantity = 1) {s : CartsViewController Image}
    (hs : s = s.display R lines) {taps : List MealTap} {p : TappedCart Image}
    (h : run (TappedCart.step R) { screen := s, meals := List.range lines.length } taps
      = some p) :
    (∀ meal, tapsOn meal false taps ≤ 1 + tapsOn meal true taps) ∧
      p = TappedCart.of R s lines.length (leftOf lines taps) := by
  rw [run_of hrange hs] at h
  obtain ⟨left, hleft, rfl⟩ := Option.map_eq_some_iff.mp h
  obtain ⟨htaps, rfl⟩ := leftOf_of_run hone hleft
  exact ⟨htaps, rfl⟩

/-! ### The opened cart -/

/-- The opened cart shows one of each meal. -/
theorem exists_opened {titles : List String} {prices : List ℚ} {images : List Image}
    (hp : prices.length = titles.length) (hi : images.length = titles.length)
    (restName restDiscountValue : String) :
    ∃ s, (CartsViewController.handedOver titles prices images (List.replicate titles.length "1")
        restName restDiscountValue).viewDidLoad R = some s ∧
      s = s.display R (openedLines titles prices images) ∧
      (openedLines titles prices images).length = titles.length := by
  obtain ⟨s, hs, hshows, -, -⟩ := viewDidLoad_handedOver R hp hi restName restDiscountValue
  refine ⟨s, hs, hshows.eq_display, ?_⟩
  rw [← List.length_map (·.title), titles_openedLines hp hi]

/-- **What is left.**  On an opened cart, a sequence of taps that leads to a screen leaves of each
    meal one, one more for each plus and one less for each minus on it, and the screen shows the
    meals of which something is left, in the order in which the cart was opened with them. -/
theorem meals_count_their_taps {titles : List String} {prices : List ℚ} {images : List Image}
    (hp : prices.length = titles.length) (hi : images.length = titles.length)
    (restName restDiscountValue : String) :
    ∃ s, (CartsViewController.handedOver titles prices images (List.replicate titles.length "1")
        restName restDiscountValue).viewDidLoad R = some s ∧
      ∀ taps p,
        run (TappedCart.step R) { screen := s, meals := List.range titles.length } taps = some p →
          (∀ meal, tapsOn meal false taps ≤ 1 + tapsOn meal true taps) ∧
          p = TappedCart.of R s titles.length
            (leftOf (openedLines titles prices images) taps) := by
  obtain ⟨s, hs, hdisplay, hlength⟩ := exists_opened hp hi restName restDiscountValue
  refine ⟨s, hs, fun taps p h => ?_⟩
  rw [← hlength] at h ⊢
  exact run_left (inRange_openedLines _ _ _) (fun l => quantity_openedLines) hdisplay h

/-- Two of the first of two meals, and none of the second. -/
theorem meals_count_their_taps_two : ∃ s p,
    (CartsViewController.handedOver ["Rice", "Fish"] [5 / 2, 3] [(), ()] ["1", "1"] "Mr Biggs"
      "10").viewDidLoad .halfEven = some s ∧
    run (TappedCart.step .halfEven) { screen := s, meals := [0, 1] }
      [{ meal := 1, plus := false }, { meal := 0, plus := true }] = some p ∧
    p = TappedCart.of .halfEven s 2
      (leftOf (openedLines ["Rice", "Fish"] [5 / 2, 3] [(), ()])
        [{ meal := 1, plus := false }, { meal := 0, plus := true }]) := by
  obtain ⟨s, hs, htaps⟩ := @meals_count_their_taps Unit .halfEven ["Rice", "Fish"] [5 / 2, 3]
    [(), ()] rfl rfl "Mr Biggs" "10"
  have hsome : (((CartsViewController.handedOver ["Rice", "Fish"] [5 / 2, 3] [(), ()] ["1", "1"]
      "Mr Biggs" "10").viewDidLoad .halfEven).bind fun s =>
        run (TappedCart.step .halfEven) { screen := s, meals := [0, 1] }
          [{ meal := 1, plus := false }, { meal := 0, plus := true }]).isSome = true := by
    decide +kernel
  obtain ⟨p, hp⟩ := Option.isSome_iff_exists.mp hsome
  obtain ⟨s', hs', hrun⟩ := Option.bind_eq_some_iff.mp hp
  obtain rfl : s = s' := Option.some.inj (hs.symm.trans hs')
  exact ⟨s, p, hs, hrun, (htaps _ p hrun).2⟩

/-- **The order of taps.**  On an opened cart, two sequences of taps that tap every meal in the
    same way lead to the same screen, or fail both; and sequences of the same taps, in any order,
    that lead to a screen at all lead to the same. -/
theorem tap_order_irrelevant {titles : List String} {prices : List ℚ} {images : List Image}
    (hp : prices.length = titles.length) (hi : images.length = titles.length)
    (restName restDiscountValue : String) :
    ∃ s, (CartsViewController.handedOver titles prices images (List.replicate titles.length "1")
        restName restDiscountValue).viewDidLoad R = some s ∧
      ∀ taps taps' : List MealTap,
        ((∀ meal, actionsAt MealTap.meal meal taps = actionsAt MealTap.meal meal taps') →
          run (TappedCart.step R) { screen := s, meals := List.range titles.length } taps
            = run (TappedCart.step R) { screen := s, meals := List.range titles.length } taps') ∧
        (taps.Perm taps' → ∀ p p',
          run (TappedCart.step R) { screen := s, meals := List.range titles.length } taps
            = some p →
          run (TappedCart.step R) { screen := s, meals := List.range titles.length } taps'
            = some p' → p = p') := by
  obtain ⟨s, hs, hdisplay, hlength⟩ := exists_opened hp hi restName restDiscountValue
  refine ⟨s, hs, fun taps taps' => ?_⟩
  have hrange := inRange_openedLines titles prices images
  rw [← hlength]
  constructor
  · intro hsame
    rw [run_of hrange hdisplay, run_of hrange hdisplay, run_stepAt_congr hsame]
  · -- Runs that do not fail leave what the numbers of their taps say, whatever the order.
    intro hperm p p' h h'
    have hcount : ∀ meal plus, tapsOn meal plus taps = tapsOn meal plus taps' :=
      fun meal plus => hperm.countP_eq _
    rw [(run_left hrange (fun l => quantity_openedLines) hdisplay h).2,
      (run_left hrange (fun l => quantity_openedLines) hdisplay h').2]
    congr 1
    funext meal
    rw [leftOf, leftOf, hcount, hcount]

/-- Two of the first of two meals, and none of the second, in either order. -/
theorem tap_order_irrelevant_two : ∃ s p,
    (CartsViewController.handedOver ["Rice", "Fish"] [5 / 2, 3] [(), ()] ["1", "1"] "Mr Biggs"
      "10").viewDidLoad .halfEven = some s ∧
    run (TappedCart.step .halfEven) { screen := s, meals := [0, 1] }
      [{ meal := 1, plus := false }, { meal := 0, plus := true }] = some p ∧
    run (TappedCart.step .halfEven) { screen := s, meals := [0, 1] }
      [{ meal := 0, plus := true }, { meal := 1, plus := false }] = some p := by
  obtain ⟨s, hs, htaps⟩ := @tap_order_irrelevant Unit .halfEven ["Rice", "Fish"] [5 / 2, 3]
    [(), ()] rfl rfl "Mr Biggs" "10"
  have hsome : (((CartsViewController.handedOver ["Rice", "Fish"] [5 / 2, 3] [(), ()] ["1", "1"]
      "Mr Biggs" "10").viewDidLoad .halfEven).bind fun s =>
        run (TappedCart.step .halfEven) { screen := s, meals := [0, 1] }
          [{ meal := 1, plus := false }, { meal := 0, plus := true }]).isSome = true := by
    decide +kernel
  obtain ⟨p, hp⟩ := Option.isSome_iff_exists.mp hsome
  obtain ⟨s', hs', hrun⟩ := Option.bind_eq_some_iff.mp hp
  obtain rfl : s = s' := Option.some.inj (hs.symm.trans hs')
  refine ⟨s, p, hs, hrun, ?_⟩
  rw [← hrun]
  refine ((htaps _ _).1 fun meal => ?_).symm
  -- The two taps are on different meals, so every meal sees at most one of them.
  by_cases hmeal : meal = 0
  · subst hmeal
    rfl
  · simp [actionsAt, List.filter_cons, Ne.symm hmeal]

end Foodly
