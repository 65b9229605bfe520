import Foodly.Cart.Quantities

namespace Foodly

open Swift Decimal

/-!
# The receipt

The four amounts that `totalAmountWithDiscount` writes into labels, read back: the items total,
the discount, the tax and the final amount.  A customer adds them up as they are displayed, in
cents.

The tax is rounded before it enters the final amount, and the discount only for display.  So what
is displayed adds up unless the discount is halfway between two cents and the rule for ties sends
it the same way as the final amount.

* `amountShown` — the amount that a label shows behind its dollar sign;
* `ReceiptAddsUp` — the items less the discount plus the tax are the final amount, as displayed;
* `TiesSplit` — the condition on the amounts collected and on the rule for ties, which is open;
* `cents_sub_iff` — rounding an amount and what is left of it;
* `receipt_adds_up_iff` — the receipt of a cart of whole cents adds up exactly under the condition.
-/

variable {Image : Type} (R : Nearest)

/-- The amount that a label shows behind its dollar sign. -/
def amountShown (label : String) : Option ℚ := parseFloat (String.ofList (label.toList.drop 1))

/-- The items less the discount plus the tax are the final amount, as displayed. -/
def ReceiptAddsUp (s : CartsViewController Image) : Prop :=
  ∃ items discount tax final, amountShown s.itemsTotal = some items ∧
    amountShown s.discountAmt = some discount ∧ amountShown s.taxAmt = some tax ∧
    amountShown s.finalAmt = some final ∧ items - discount + tax = final

namespace CartsViewController

/-- The amounts that a total routine collects. -/
def amounts (s : CartsViewController Image) : List ℚ :=
  s.initialAmt ++ s.viewModel.cartItems.map (·.itemPrice)

/-- The discount that `totalAmountWithDiscount` computes. -/
def discountOffered (s : CartsViewController Image) : ℚ :=
  (parseFloat s.restDiscountValue).getD 0 / 100 * s.amounts.sum

/-- Where the discount is halfway between two cents, the rule for ties sends it and what is
    left to pay opposite ways. -/
def TiesSplit (s : CartsViewController Image) : Prop :=
  IsTie (s.discountOffered * 100) → (R.RoundsUp (s.discountOffered * 100) ↔
    ¬ R.RoundsUp ((s.amounts.sum - s.discountOffered + taxOn R s.amounts.sum) * 100))

end CartsViewController

/-! ### Labels -/

theorem amountShown_dollar (text : String) : amountShown ("$" ++ text) = parseFloat text := by
  rw [amountShown, String.toList_append]
  show parseFloat (String.ofList text.toList) = _
  rw [String.ofList_toList]

/-- A label with two decimals shows the amount in whole cents. -/
theorem amountShown_format2f (x : ℚ) : amountShown ("$" ++ format2f R x) = some (cents R x) := by
  rw [amountShown_dollar, parseFloat_format2f]

/-- The tax is shown as it is. -/
theorem amountShown_tax (x : ℚ) :
    amountShown ("$" ++ description (taxOn R x)) = some (taxOn R x) := by
  rw [amountShown_dollar]
  apply parseFloat_description
  apply decimals_of_whole (n := R.round (1 / 20 * x * 100))
  rw [taxOn, cents]
  ring

/-- Sums of whole cents are whole cents. -/
theorem wholeCents_sum {amounts : List ℚ} (h : ∀ amount ∈ amounts, WholeCents amount) :
    WholeCents amounts.sum := by
  induction amounts with
  | nil => exact ⟨0, by simp⟩
  | cons amount amounts ih =>
    rw [List.forall_mem_cons] at h
    obtain ⟨n, hn⟩ := h.1
    obtain ⟨m, hm⟩ := ih h.2
    refine ⟨n + m, ?_⟩
    rw [List.sum_cons, add_mul, hn, hm, Int.cast_add]

/-- What is left of whole cents after a discount is displayed as what is left after the
    displayed discount, exactly when ties are split. -/
theorem cents_sub_iff {total : ℚ} (h : WholeCents total) (discount : ℚ) :
    total - cents R discount = cents R (total - discount) ↔
      (IsTie (discount * 100) →
        (R.RoundsUp (discount * 100) ↔ ¬ R.RoundsUp ((total - discount) * 100))) := by
  obtain ⟨n, hn⟩ := h
  rw [sub_mul, hn, ← R.round_intCast_sub_iff]
  have htotal : total = n / 100 := by rw [← hn]; ring
  rw [cents, cents, sub_mul, hn, htotal, ← sub_div, div_left_inj' (by norm_num), eq_comm]
  norm_cast

/-- The labels that `totalAmountWithDiscount` leaves. -/
theorem labels_of_totalAmountWithDiscount (s : CartsViewController Image) :
    ∃ t, s.totalAmountWithDiscount R = some t ∧
      t.itemsTotal = "$" ++ format2f R s.amounts.sum ∧
      t.discountAmt = "$" ++ format2f R s.discountOffered ∧
      t.taxAmt = "$" ++ description (taxOn R s.amounts.sum) ∧
      t.finalAmt = "$" ++ format2f R
        (s.amounts.sum - s.discountOffered + taxOn R s.amounts.sum) := by
  rw [CartsViewController.totalAmountWithDiscount, CartsViewController.showAmounts,
    parseFloat_format2f]
  exact ⟨_, rfl, rfl, rfl, rfl, rfl⟩

/-- **Receipt.**  After `totalAmountWithDiscount` the receipt of a cart of whole cents adds up
    exactly when ties are split. -/
theorem receipt_adds_up_iff (s : CartsViewController Image)
    (hcents : ∀ amount ∈ s.amounts, WholeCents amount) :
    ∃ t, s.totalAmountWithDiscount R = some t ∧ (ReceiptAddsUp t ↔ s.TiesSplit R) := by
  obtain ⟨t, ht, hitems, hdiscount, htax, hfinal⟩ := labels_of_totalAmountWithDiscount R s
  refine ⟨t, ht, ?_⟩
  obtain ⟨n, hn⟩ := wholeCents_sum hcents
  -- The items and the tax are shown exactly; what is compared is rounded with them.
  have hwhole : WholeCents (s.amounts.sum + taxOn R s.amounts.sum) := by
    refine ⟨n + R.round (1 / 20 * s.amounts.sum * 100), ?_⟩
    rw [add_mul, hn, taxOn, cents, Int.cast_add]
    ring
  have hshown : ReceiptAddsUp t ↔
      s.amounts.sum - cents R s.discountOffered + taxOn R s.amounts.sum
        = cents R (s.amounts.sum - s.discountOffered + taxOn R s.amounts.sum) := by
    unfold ReceiptAddsUp
    rw [hitems, hdiscount, htax, hfinal]
    simp only [amountShown_format2f, amountShown_tax, cents_of_whole hn, Option.some.injEq,
      exists_and_left, exists_eq_left']
  have hsplit := cents_sub_iff R hwhole s.discountOffered
  rw [← sub_add_eq_add_sub, ← sub_add_eq_add_sub] at hsplit
  exact hshown.trans hsplit

/-- One meal of the price, under the discount. -/
def receiptOf (price : ℚ) (discount : String) : CartsViewController String where
  restDiscountValue := discount
  viewModel := { cartItems := [⟨"Jollof", price, "rice", "1"⟩] }

/-- Ten per cent off ten dollars. -/
theorem receipt_adds_up_ten : ∃ t,
    (receiptOf 10 "10").totalAmountWithDiscount Nearest.halfEven = some t ∧
      (ReceiptAddsUp t ↔ (receiptOf 10 "10").TiesSplit Nearest.halfEven) := by
  apply receipt_adds_up_iff
  intro amount hamount
  obtain rfl : amount = 10 := List.mem_singleton.mp hamount
  exact ⟨1000, by norm_num⟩

/-- Half off $12.41: the discount of 620.5 cents is shown as 620 and the 682.5 cents to pay as
    682. -/
theorem half_off_loses_a_cent : ¬ ∀ (R : Nearest) (s t : CartsViewController String),
    (∀ amount ∈ s.amounts, WholeCents amount) →
    0 ≤ (parseFloat s.restDiscountValue).getD 0 → (parseFloat s.restDiscountValue).getD 0 ≤ 100 →
    s.totalAmountWithDiscount R = some t → ReceiptAddsUp t := by
  intro h
  have hvalues : ((receiptOf (1241 / 100) "50").totalAmountWithDiscount Nearest.halfEven).map
      (fun t => (amountShown t.itemsTotal, amountShown t.discountAmt, amountShown t.taxAmt,
        amountShown t.finalAmt))
      = some (some (1241 / 100), some (620 / 100), some (62 / 100), some (682 / 100)) := by
    decide +kernel
  obtain ⟨t, ht, ht'⟩ := Option.map_eq_some_iff.mp hvalues
  obtain ⟨hitems, ht'⟩ := Prod.mk.inj ht'
  obtain ⟨hdiscount, ht'⟩ := Prod.mk.inj ht'
  obtain ⟨htax, hfinal⟩ := Prod.mk.inj ht'
  have hcents : ∀ amount ∈ (receiptOf (1241 / 100) "50").amounts, WholeCents amount := by
    intro amount hamount
    obtain rfl : amount = 1241 / 100 := List.mem_singleton.mp hamount
    exact ⟨1241, by norm_num⟩
  obtain ⟨items, discount, tax, final, h1, h2, h3, h4, hsum⟩ :=
    h _ _ t hcents (by decide +kernel) (by decide +kernel) ht
  rw [hitems, Option.some.injEq] at h1
  rw [hdiscount, Option.some.injEq] at h2
  rw [htax, Option.some.injEq] at h3
  rw [hfinal, Option.some.injEq] at h4
  -- 12.41 less 6.20 with the tax of 0.62 is 6.83, and the label shows 6.82.
  rw [← h1, ← h2, ← h3, ← h4] at hsum
  norm_num at hsum

end Foodly
