import Mathlib.Data.List.Basic

namespace Foodly

/-!
# Progress indicators

`showIndicator(withTitle:)` and `hideIndicator()`, and the part of `MBProgressHUD` that they
use.  A view keeps its indicators in the order in which they were added; one that is hidden has
finished, and a later call passes over it.  `showing` lists those that have not finished:
showing an indicator adds one at the end of them, and hiding takes the last one away.

* `MBProgressHUD` — an indicator: its text, and whether it has finished;
* `hide` — `hideHUDForView:animated:`, which searches the subviews from the last one;
* `showing_hide` — hiding takes the indicator away that was shown last;
* `showIndicator`, `hideIndicator` — the two helpers, which every screen with a request calls.

An indicator that nobody hides stays in front of the screen, so how many are showing
(`indicators`) is part of what a run of requests leaves behind.
-/

/-- `MBProgressHUD`. -/
structure MBProgressHUD where
  label : String
  hasFinished : Bool := false
  deriving DecidableEq, Repr

namespace MBProgressHUD

/-- `hideAnimated:` on the first of the indicators that has not finished. -/
def hideFirst : List MBProgressHUD → List MBProgressHUD
  | [] => []
  | hud :: subviews =>
    if hud.hasFinished = false then { hud with hasFinished := true } :: subviews
    else hud :: hideFirst subviews

/-- `hideHUDForView:animated:`: the subviews are searched from the last one. -/
def hide (subviews : List MBProgressHUD) : List MBProgressHUD :=
  (hideFirst subviews.reverse).reverse

/-- The indicators that have not finished. -/
def showing (subviews : List MBProgressHUD) : List MBProgressHUD :=
  subviews.filter fun hud => !hud.hasFinished

theorem showing_hideFirst (subviews : List MBProgressHUD) :
    showing (hideFirst subviews) = (showing subviews).tail := by
  induction subviews with
  | nil => rfl
  | cons hud subviews ih =>
    simp only [hideFirst, showing, List.filter_cons] at ih ⊢
    cases hfinished : hud.hasFinished with
    | false => simp
    | true => simp [hfinished, ih]

/-- **Hiding.**  The indicator that was shown last is taken away. -/
theorem showing_hide (subviews : List MBProgressHUD) :
    showing (hide subviews) = (showing subviews).dropLast := by
  have htail := showing_hideFirst subviews.reverse
  rw [hide, showing, List.filter_reverse, ← showing, htail, showing, List.filter_reverse, ← showing,
    List.tail_reverse, List.reverse_reverse]

end MBProgressHUD

/-- `showIndicator(withTitle:)`. -/
def showIndicator (subviews : List MBProgressHUD) (title : String) : List MBProgressHUD :=
  subviews ++ [{ label := title }]

/-- `hideIndicator()`. -/
def hideIndicator (subviews : List MBProgressHUD) : List MBProgressHUD :=
  MBProgressHUD.hide subviews

/-- How many indicators are showing. -/
def indicators (subviews : List MBProgressHUD) : ℕ := (MBProgressHUD.showing subviews).length

@[simp] theorem indicators_nil : indicators [] = 0 := rfl

@[simp] theorem indicators_showIndicator (subviews : List MBProgressHUD) (title : String) :
    indicators (showIndicator subviews title) = indicators subviews + 1 := by
  simp [indicators, MBProgressHUD.showing, showIndicator]

@[simp] theorem indicators_hideIndicator (subviews : List MBProgressHUD) :
    indicators (hideIndicator subviews) = indicators subviews - 1 := by
  rw [indicators, hideIndicator, MBProgressHUD.showing_hide, List.length_dropLast, indicators]

end Foodly
