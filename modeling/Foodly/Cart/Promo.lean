import Foodly.Helpers.Alerts
import Foodly.Swift.Strings

namespace Foodly

open Swift

/-!
# Promo codes

`promoValues` and `validatePromoCode` of `CartsViewController`.  The codes are one remote-config
text, which is put in upper case and split at every space; `validatePromoCode` looks the trimmed
input up among the components, and it presents an alert about an empty input without ending the
check.  Texts are looked up under Swift's equality of texts, a parameter here.

* `PromoForm` — the fetched texts and the text field, as the handler reads them;
* `PromoForm.IsPromoCode` — what a promo code is: a nonempty component, whatever its case;
* `PromoForm.ReadsCodes` — the condition on the two texts under which the check reads the codes
  right: no component is empty, for an empty input; and any other input is in upper case, or is
  no code anyway;
* `PromoForm.promo_accepted_iff` — the check accepts exactly the configured codes, ignoring case,
  if and only if that condition holds;
* `empty_promo_accepted` — before the codes are fetched the empty input is accepted.
-/

/-- `RemoteConfigPromoCodes`. -/
structure RemoteConfigPromoCodes where
  promoCodes : String := ""
  taxValue : String := ""
  deriving DecidableEq, Repr

/-- The block that `fetchValue` dispatches once the fetched values are active. -/
def RemoteConfigPromoCodes.activated (_ : RemoteConfigPromoCodes)
    (taxValue promoValue : Option String) : RemoteConfigPromoCodes where
  taxValue := taxValue.getD "Could not get tax"
  promoCodes := promoValue.getD "Could not get promo codes"

/-- What `validatePromoCode` reads: the fetched texts, and the text of `promoCodeTextField`. -/
structure PromoForm where
  getPromoDiscount : RemoteConfigPromoCodes := {}
  promoCodeTextField : Option String := some ""
  restDiscountValue : String := ""

namespace PromoForm

/-- `promoValues()`. -/
def promoValues (M : CaseMapping) (s : PromoForm) : List String :=
  components (uppercased M s.getPromoDiscount.promoCodes) ' '

/-- The trimmed input. -/
def inputCodes (s : PromoForm) : String :=
  (s.promoCodeTextField.map trimmingWhitespaces).getD ""

section
variable [BEq String]

/-- `validatePromoCode()`: the result, and the alerts presented. -/
def validatePromoCode (M : CaseMapping) (s : PromoForm) : Bool × List UIAlertController :=
  let validPromoCodes := s.promoValues M
  let inputCodes := s.inputCodes
  -- The alert about an empty input does not end the check.
  let alerts := if inputCodes = "" then [alertTextFields Constant.invalidPromoMSG1] else []
  if !validPromoCodes.contains inputCodes then
    (false, alerts ++ [alertTextFields Constant.invalidPromoMSG2])
  else (true, alerts)

/-- `promoBtnPressed(_:)`: the alerts presented, the last of which offers the discount. -/
def promoBtnPressed (M : CaseMapping) (s : PromoForm) : List UIAlertController :=
  let (valid, alerts) := s.validatePromoCode M
  if valid then
    alerts ++ [⟨"Happy Shopping!",
      "Promo code is valid. Your discount is " ++ s.restDiscountValue ++ "% off"⟩]
  else alerts

/-- What a promo code is: a nonempty component of the configured text, whatever its case. -/
def IsPromoCode (M : CaseMapping) (s : PromoForm) : Prop :=
  s.inputCodes ≠ "" ∧ ∃ code ∈ components s.getPromoDiscount.promoCodes ' ',
    code ≠ "" ∧ (uppercased M code == uppercased M s.inputCodes) = true

/-- No component is empty, for an empty input; and otherwise the input equals its upper case, or
    is no code anyway. -/
def ReadsCodes (M : CaseMapping) (s : PromoForm) : Prop :=
  if s.inputCodes = "" then "" ∉ components s.getPromoDiscount.promoCodes ' '
  else (uppercased M s.inputCodes == s.inputCodes) = true ∨
    ∀ code ∈ components s.getPromoDiscount.promoCodes ' ',
      ¬(uppercased M code == uppercased M s.inputCodes) = true

/-- The result is whether the input equals one of the codes in upper case. -/
theorem validatePromoCode_fst [PartialEquivBEq String] (M : CaseMapping) (s : PromoForm) :
    (s.validatePromoCode M).1 = true ↔ ∃ code ∈ components s.getPromoDiscount.promoCodes ' ',
      (uppercased M code == s.inputCodes) = true := by
  have hcontains : (s.promoValues M).contains s.inputCodes = true ↔
      ∃ code ∈ components s.getPromoDiscount.promoCodes ' ',
        (uppercased M code == s.inputCodes) = true := by
    rw [promoValues, components_uppercased, List.contains_iff_exists_mem_beq]
    simp only [List.mem_map, exists_exists_and_eq_and, BEq.comm (a := s.inputCodes)]
  rw [← hcontains, validatePromoCode]
  cases (s.promoValues M).contains s.inputCodes <;> simp

/-- The discount is offered exactly when the code is valid. -/
theorem promoBtnPressed_offers_iff (M : CaseMapping) (s : PromoForm) :
    (∃ alert ∈ s.promoBtnPressed M, alert.title = "Happy Shopping!") ↔
      (s.validatePromoCode M).1 = true := by
  have hother : ∀ alert ∈ (s.validatePromoCode M).2, alert.title ≠ "Happy Shopping!" := by
    intro alert halert
    have hmoment : alert.title = "One Moment" := by
      simp only [validatePromoCode] at halert
      split_ifs at halert <;> grind [alertTextFields]
    rw [hmoment]
    decide
  unfold promoBtnPressed
  -- Without a code only the alerts of the check are presented, and none of these offers anything.
  cases hvalid : (s.validatePromoCode M).1 with
  | false =>
    simp only [hvalid, Bool.false_eq_true, if_false, iff_false, not_exists, not_and]
    exact hother
  | true => simp [hvalid]

variable [EquivBEq String] (M : ComparedCase)

/-- Only the empty text equals the empty text in upper case. -/
theorem eq_empty_of_uppercased_beq {code input : String}
    (h : (uppercased M.toCaseMapping code == uppercased M.toCaseMapping input) = true)
    (hcode : code = "") : input = "" := by
  have hempty : uppercased M.toCaseMapping code = "" := (uppercased_eq_empty_iff _ _).mpr hcode
  rw [hempty] at h
  exact (uppercased_eq_empty_iff _ _).mp (M.eq_empty_of_beq _ (BEq.symm h))

/-- An input that equals its upper case and is not empty is accepted exactly when it is a code. -/
theorem accepts_iff_isPromoCode_of_upper (s : PromoForm) (hinput : s.inputCodes ≠ "")
    (hupper : (uppercased M.toCaseMapping s.inputCodes == s.inputCodes) = true) :
    (∃ code ∈ components s.getPromoDiscount.promoCodes ' ',
        (uppercased M.toCaseMapping code == s.inputCodes) = true) ↔
      s.IsPromoCode M.toCaseMapping := by
  unfold IsPromoCode
  rw [and_iff_right hinput]
  constructor
  · rintro ⟨code, hcode, heq⟩
    have hsame := BEq.trans heq (BEq.symm hupper)
    exact ⟨code, hcode, fun hempty => hinput (eq_empty_of_uppercased_beq M hsame hempty), hsame⟩
  · rintro ⟨code, hcode, -, heq⟩
    exact ⟨code, hcode, BEq.trans heq hupper⟩

/-- An input that does not equal its upper case is never accepted: all that is in the list is in
    upper case. -/
theorem rejects_of_not_upper (s : PromoForm)
    (hupper : ¬(uppercased M.toCaseMapping s.inputCodes == s.inputCodes) = true) :
    ¬ ∃ code ∈ components s.getPromoDiscount.promoCodes ' ',
      (uppercased M.toCaseMapping code == s.inputCodes) = true := by
  rintro ⟨code, -, heq⟩
  exact hupper (BEq.trans (BEq.symm (M.uppercased_beq code s.inputCodes heq)) heq)

/-- **Promo codes.**  The promo code is accepted exactly when it is one of the configured codes,
    if and only if no component is empty (for an empty input), or the input equals its upper case
    or is no code at all. -/
theorem promo_accepted_iff (s : PromoForm) :
    ((s.validatePromoCode M.toCaseMapping).1 = true ↔ s.IsPromoCode M.toCaseMapping) ↔
      s.ReadsCodes M.toCaseMapping := by
  rw [validatePromoCode_fst, ReadsCodes]
  by_cases hinput : s.inputCodes = ""
  · -- An empty input is no code, and is accepted when a component is empty.
    have hcode : ¬ s.IsPromoCode M.toCaseMapping := fun h => h.1 hinput
    have hempty (code : String) :
        (uppercased M.toCaseMapping code == "") = true ↔ code = "" := by
      rw [← uppercased_eq_empty_iff M.toCaseMapping code]
      exact ⟨M.eq_empty_of_beq _, fun h => by rw [h]; exact BEq.rfl⟩
    rw [if_pos hinput, hinput, iff_false_right hcode]
    simp only [hempty, exists_eq_right]
  · rw [if_neg hinput]
    -- The input itself is looked up, so it must be in upper case as the components are.
    by_cases hupper : (uppercased M.toCaseMapping s.inputCodes == s.inputCodes) = true
    · exact iff_of_true (s.accepts_iff_isPromoCode_of_upper M hinput hupper) (Or.inl hupper)
    · -- Nothing in upper case equals this input, so it has to be no code.
      rw [or_iff_right hupper, iff_false_left (s.rejects_of_not_upper M hupper), IsPromoCode,
        and_iff_right hinput]
      constructor
      · intro hnone code hcode heq
        exact hnone ⟨code, hcode, fun hempty =>
          hinput (eq_empty_of_uppercased_beq M heq hempty), heq⟩
      · rintro hnone ⟨code, hcode, -, heq⟩
        exact hnone code hcode heq

end

/-- A code that is typed in upper case. -/
theorem promo_accepted_iff_typed :
    let s : PromoForm := ⟨⟨"foodly10 lunch", "5"⟩, some " LUNCH ", ""⟩
    ((s.validatePromoCode asciiCompared.toCaseMapping).1 = true ↔
        s.IsPromoCode asciiCompared.toCaseMapping) ↔
      s.ReadsCodes asciiCompared.toCaseMapping :=
  promo_accepted_iff asciiCompared _

end PromoForm

-- A code that is configured in lower case is rejected when it is typed as configured.
example : (PromoForm.validatePromoCode asciiCase ⟨⟨"foodly10", "5"⟩, some "foodly10", ""⟩).1
    = false := by decide +kernel

/-- Before the codes are fetched an empty input is accepted. -/
theorem empty_promo_accepted : ¬ ∀ s : PromoForm,
    ((s.validatePromoCode asciiCase).1 = true ↔ s.IsPromoCode asciiCase) := by
  intro h
  have haccepted : (PromoForm.validatePromoCode asciiCase {}).1 = true := by decide +kernel
  obtain ⟨hinput, -⟩ := (h {}).mp haccepted
  exact hinput (by decide +kernel)

end Foodly
