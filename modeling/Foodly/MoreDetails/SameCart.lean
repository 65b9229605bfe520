import Foodly.Lib.Runs
import Foodly.MoreDetails.Controller

namespace Foodly

open Parallel Runs Swift

/-!
# Two screens, one cart

The details screen and the More Details screen should build the same cart from the same calls.
Their handlers differ in one point only, the first character of an amount, and that decides.

* `DelegateCall` — a call of the delegate, which either screen can get;
* `SameCart` — the relation between the two screens: equal arrays and equal summary bars;
* `ReadsSame` — the condition on a call: without its first character the amount reads as the same
  number, or for a Remove as one that leaves the same amounts, or something else that has to be
  removed is missing anyway;
* `SameCart.didTapAddBtn_iff`, `SameCart.didTapRemoveBtn_iff` — one call keeps the carts the same
  exactly under the condition;
* `carts_agree_iff` — the same for runs of calls: the screens have the same cart throughout, one
  trapping only if the other does;
* `readsSame_add_iff` — a price that is read exactly meets the condition exactly when it is below
  one.

Titles and pictures are looked up by an equality that both screens share, whichever it is.
-/

variable {F Image : Type} [SwiftFloat F] (B : CharacterBreaking)

/-! ### Calls -/

/-- A call of the delegate, with the texts and the picture of a cell. -/
inductive DelegateCall (Image : Type)
  | didTapAddBtn (title amount : String) (titleImage : Image) (foodQuantity : String)
  | didTapRemoveBtn (title amount : String) (titleImage : Image) (foodQuantity : String)
  deriving DecidableEq, Repr

def DelegateCall.amount : DelegateCall Image → String
  | .didTapAddBtn _ amount _ _ | .didTapRemoveBtn _ amount _ _ => amount

def DetailsViewController.called [BEq String] [BEq Image] (s : DetailsViewController F Image) :
    DelegateCall Image → Option (DetailsViewController F Image)
  | .didTapAddBtn title amount titleImage foodQuantity =>
    some (s.didTapAddBtn title amount titleImage foodQuantity)
  | .didTapRemoveBtn title amount titleImage foodQuantity =>
    s.didTapRemoveBtn title amount titleImage foodQuantity

def MoreDetailsViewController.called [BEq String] [BEq Image]
    (s : MoreDetailsViewController F Image) :
    DelegateCall Image → Option (MoreDetailsViewController F Image)
  | .didTapAddBtn title amount titleImage foodQuantity =>
    s.didTapAddBtn B title amount titleImage foodQuantity
  | .didTapRemoveBtn title amount titleImage foodQuantity =>
    s.didTapRemoveBtn B title amount titleImage foodQuantity

/-! ### The law and its condition -/

/-- Equal arrays, and equal summary bars. -/
structure SameCart (d : DetailsViewController F Image) (m : MoreDetailsViewController F Image) :
    Prop where
  titleArray : m.titleArray = d.detailViewModel.titleArray
  amountArray : m.amountArray = d.detailViewModel.amountArray
  imageArray : m.imageArray = d.detailViewModel.imageArray
  quantityOfItems : m.quantityOfItems = d.detailViewModel.quantityOfItems
  numberOfItems : m.numberOfItems = d.numberOfItems
  totalAmount : m.totalAmount = d.totalAmount
  cartViewHidden : m.cartViewHidden = d.cartViewHidden

/-- A number that was read is one of the amounts. -/
def Listed (amounts : List F) (price : Option F) : Prop :=
  ∃ x ∈ price, amounts.any (· == x) = true

/-- Two numbers that were read are equal, or neither is one of the amounts. -/
def SamePrice (amounts : List F) (price price' : Option F) : Prop :=
  (∃ x ∈ price, ∃ y ∈ price', (x == y) = true) ∨ ¬Listed amounts price ∧ ¬Listed amounts price'

/-- Without its first character the amount reads as the same number: exactly for an Add; for a
    Remove up to equality, unless neither number is in the cart, or something else that has to be
    removed is missing from it. -/
def ReadsSame [BEq String] [BEq Image] (s : DetailsViewController F Image) :
    DelegateCall Image → Prop
  | .didTapAddBtn _ amount _ _ => ∀ rest ∈ MoreDetailsViewController.amountSuffix B amount,
      (SwiftFloat.ofText amount : Option F).getD 0 = (SwiftFloat.ofText rest).getD 0
  | .didTapRemoveBtn title amount titleImage foodQuantity =>
      ∀ rest ∈ MoreDetailsViewController.amountSuffix B amount,
        (s.detailViewModel.titleArray.any (· == title)) = true →
        (s.detailViewModel.imageArray.any (· == titleImage)) = true →
        (s.detailViewModel.quantityOfItems.any (· == foodQuantity)) = true →
          SamePrice s.detailViewModel.amountArray (SwiftFloat.ofText amount)
            (SwiftFloat.ofText rest)

/-! ### One call -/

/-- Removals of two prices leave the same amounts, or both fail, exactly when they are the same. -/
theorem samePrice_iff [PartialEquivBEq F] (amounts : List F) (price price' : Option F) :
    price.bind (removeFirst · amounts) = price'.bind (removeFirst · amounts) ↔
      SamePrice amounts price price' := by
  have hlisted (p : Option F) :
      (p.bind (removeFirst · amounts)).isSome = true ↔ Listed amounts p := by
    unfold Listed
    cases p with
    | none => simp
    | some x => simp [isSome_removeFirst]
  constructor
  · intro heq
    -- Either both prices are found, at the same place, or neither is.
    by_cases hfound : (price.bind (removeFirst · amounts)).isSome = true
    · obtain ⟨left, hleft⟩ := Option.isSome_iff_exists.mp hfound
      obtain ⟨x, hx, hremove⟩ := Option.bind_eq_some_iff.mp hleft
      obtain ⟨y, hy, hremove'⟩ := Option.bind_eq_some_iff.mp (heq ▸ hleft)
      exact Or.inl ⟨x, hx, y, hy, beq_of_removeFirst hremove hremove'⟩
    · refine Or.inr ⟨(hlisted price).not.mp hfound, (hlisted price').not.mp ?_⟩
      rwa [← heq]
  · rintro (⟨x, hx, y, hy, hxy⟩ | ⟨hnone, hnone'⟩)
    · rw [Option.mem_def.mp hx, Option.mem_def.mp hy]
      exact removeFirst_congr hxy amounts
    · rw [← hlisted, Option.not_isSome_iff_eq_none] at hnone hnone'
      rw [hnone, hnone']

/-- What a removal leaves when it finds everything. -/
def DetailsViewController.removed (s : DetailsViewController F Image) (titleArray : List String)
    (amountArray : List F) (imageArray : List Image) (quantityOfItems : List String) :
    DetailsViewController F Image where
  detailViewModel :=
    { s.detailViewModel with titleArray, amountArray, imageArray, quantityOfItems }
  cartViewHidden := if titleArray.length = 0 then true else s.cartViewHidden
  numberOfItems := if titleArray.length = 0 then s.numberOfItems else countText titleArray.length
  totalAmount := totalText amountArray

def MoreDetailsViewController.removed (s : MoreDetailsViewController F Image)
    (titleArray : List String) (amountArray : List F) (imageArray : List Image)
    (quantityOfItems : List String) : MoreDetailsViewController F Image :=
  { s with
    titleArray, amountArray, imageArray, quantityOfItems
    cartViewHidden := if titleArray.length = 0 then true else s.cartViewHidden
    numberOfItems :=
      if titleArray.length = 0 then s.numberOfItems
      else DetailsViewController.countText titleArray.length
    totalAmount := DetailsViewController.totalText amountArray }

/-- The same cart is handed over, under the same restaurant. -/
theorem SameCart.viewCartButton_eq {d : DetailsViewController F Image}
    {m : MoreDetailsViewController F Image} (h : SameCart d m)
    (hname : m.passRestaurantName = d.detailViewModel.passRestaurantName)
    (hdiscount : m.passRestaurantDiscount = d.detailViewModel.passRestaurantDiscount) :
    m.viewCartButton = d.viewCartButton := by
  unfold MoreDetailsViewController.viewCartButton DetailsViewController.viewCartButton
  rw [h.titleArray, h.amountArray, h.imageArray, h.quantityOfItems, hname, hdiscount]

/-- **Add.**  The carts stay the same exactly when the same number is read. -/
theorem SameCart.didTapAddBtn_iff {d : DetailsViewController F Image}
    {m : MoreDetailsViewController F Image} (h : SameCart d m) (title : String)
    {amount rest : String} (hrest : MoreDetailsViewController.amountSuffix B amount = some rest)
    (image : Image) (number : String) :
    Option.Rel SameCart (some (d.didTapAddBtn title amount image number))
        (m.didTapAddBtn B title amount image number) ↔
      (SwiftFloat.ofText amount : Option F).getD 0 = (SwiftFloat.ofText rest).getD 0 := by
  unfold MoreDetailsViewController.didTapAddBtn
  rw [hrest, Option.bind_eq_bind, Option.bind_some, Option.pure_def, h.titleArray, h.amountArray,
    h.imageArray, h.quantityOfItems]
  constructor
  · rintro (⟨hsame⟩ | -)
    exact (List.append_singleton_inj.mp hsame.amountArray).2.symm
  · intro hprice
    rw [← hprice]
    exact .some ⟨rfl, rfl, rfl, rfl, rfl, rfl, rfl⟩

section
variable [BEq String] [BEq Image]

/-- A removal looks its price up in the amounts only. -/
theorem DetailsViewController.didTapRemoveBtn_eq (s : DetailsViewController F Image)
    (title amount : String) (image : Image) (number : String) :
    s.didTapRemoveBtn title amount image number =
      (removeFirst title s.detailViewModel.titleArray).bind fun titles =>
        ((SwiftFloat.ofText amount : Option F).bind
          (removeFirst · s.detailViewModel.amountArray)).bind fun amounts =>
          (removeFirst image s.detailViewModel.imageArray).bind fun images =>
            (removeFirst number s.detailViewModel.quantityOfItems).bind fun numbers =>
              some (s.removed titles amounts images numbers) := by
  simp only [Option.bind_assoc]
  rfl

theorem MoreDetailsViewController.didTapRemoveBtn_eq (s : MoreDetailsViewController F Image)
    (title : String) {amount rest : String} (hrest : amountSuffix B amount = some rest)
    (image : Image) (number : String) :
    s.didTapRemoveBtn B title amount image number =
      (removeFirst title s.titleArray).bind fun titles =>
        ((SwiftFloat.ofText rest : Option F).bind (removeFirst · s.amountArray)).bind fun amounts =>
          (removeFirst image s.imageArray).bind fun images =>
            (removeFirst number s.quantityOfItems).bind fun numbers =>
              some (s.removed titles amounts images numbers) := by
  simp only [didTapRemoveBtn, hrest, Option.bind_assoc]
  rfl

omit [BEq String] [BEq Image] in
/-- Removals from the same cart leave the same cart exactly when they leave the same amounts. -/
theorem SameCart.removed_iff {d : DetailsViewController F Image}
    {m : MoreDetailsViewController F Image} (h : SameCart d m) (titles : List String)
    (amounts amounts' : List F) (images : List Image) (numbers : List String) :
    SameCart (d.removed titles amounts images numbers) (m.removed titles amounts' images numbers) ↔
      amounts = amounts' := by
  constructor
  · exact fun hsame => hsame.amountArray.symm
  · rintro rfl
    exact
      { titleArray := rfl
        amountArray := rfl
        imageArray := rfl
        quantityOfItems := rfl
        numberOfItems := by
          unfold DetailsViewController.removed MoreDetailsViewController.removed
          rw [h.numberOfItems]
        totalAmount := rfl
        cartViewHidden := by
          unfold DetailsViewController.removed MoreDetailsViewController.removed
          rw [h.cartViewHidden] }

/-- **Remove.**  The carts stay the same, or both screens trap, exactly when the same price is
    read or something else that has to be removed is missing. -/
theorem SameCart.didTapRemoveBtn_iff [PartialEquivBEq F] {d : DetailsViewController F Image}
    {m : MoreDetailsViewController F Image} (h : SameCart d m) (title : String)
    {amount rest : String} (hrest : MoreDetailsViewController.amountSuffix B amount = some rest)
    (image : Image) (number : String) :
    Option.Rel SameCart (d.didTapRemoveBtn title amount image number)
        (m.didTapRemoveBtn B title amount image number) ↔
      (d.detailViewModel.titleArray.any (· == title) = true →
        d.detailViewModel.imageArray.any (· == image) = true →
        d.detailViewModel.quantityOfItems.any (· == number) = true →
          SamePrice d.detailViewModel.amountArray (SwiftFloat.ofText amount)
            (SwiftFloat.ofText rest)) := by
  rw [DetailsViewController.didTapRemoveBtn_eq,
    MoreDetailsViewController.didTapRemoveBtn_eq B m title hrest, h.titleArray, h.amountArray,
    h.imageArray, h.quantityOfItems, ← samePrice_iff, ← isSome_removeFirst, ← isSome_removeFirst,
    ← isSome_removeFirst]
  generalize (SwiftFloat.ofText amount : Option F).bind _ = price
  generalize (SwiftFloat.ofText rest : Option F).bind _ = price'
  -- Whatever else is missing, both screens trap.
  cases removeFirst title d.detailViewModel.titleArray with
  | none => exact iff_of_true .none nofun
  | some titles =>
    cases removeFirst image d.detailViewModel.imageArray with
    | none => exact iff_of_true (by simp) nofun
    | some images =>
      cases removeFirst number d.detailViewModel.quantityOfItems with
      | none => exact iff_of_true (by simp) nofun
      | some numbers =>
        simp only [Option.isSome_some, true_imp_iff, Option.bind_some]
        cases price with
        | none =>
          cases price' with
          | none => exact iff_of_true .none rfl
          | some amounts' => exact iff_of_false nofun nofun
        | some amounts =>
          cases price' with
          | none => exact iff_of_false nofun nofun
          | some amounts' =>
            rw [Option.some.injEq, ← h.removed_iff titles amounts amounts' images numbers]
            constructor
            · rintro ⟨hsame⟩
              exact hsame
            · exact .some

/-- **One call.**  The screens agree on it exactly when the amount reads the same. -/
theorem SameCart.called_iff [PartialEquivBEq F] {d : DetailsViewController F Image}
    {m : MoreDetailsViewController F Image} (h : SameCart d m) {call : DelegateCall Image}
    (hamount : call.amount ≠ "") :
    Option.Rel SameCart (d.called call) (m.called B call) ↔ ReadsSame B d call := by
  obtain ⟨rest, hrest⟩ := B.exists_suffix hamount
  -- The amount is not empty, so it has a rest for the second screen to read.
  cases call with
  | didTapAddBtn title amount image number =>
    have hrest' : MoreDetailsViewController.amountSuffix B amount = some rest := hrest
    simp only [ReadsSame, hrest', Option.mem_some_iff, forall_eq']
    exact h.didTapAddBtn_iff B title hrest' image number
  | didTapRemoveBtn title amount image number =>
    have hrest' : MoreDetailsViewController.amountSuffix B amount = some rest := hrest
    simp only [ReadsSame, hrest', Option.mem_some_iff, forall_eq']
    exact h.didTapRemoveBtn_iff B title hrest' image number

end

/-! ### Runs -/

variable (F) in
/-- **Same cart.**  From a details screen without meals in its cart and the screen that it pushes,
    the same calls lead to the same cart and the same summary bar throughout, and one screen traps
    only if the other does, exactly when every amount reads the same without its first character. -/
theorem carts_agree_iff [PartialEquivBEq F] [BEq String] [BEq Image]
    (mealList : List (MealsModel Image))
    (passRestaurantName passRestaurantDiscount : String) {calls : List (DelegateCall Image)}
    (hamounts : ∀ call ∈ calls, call.amount ≠ "") :
    let d : DetailsViewController F Image :=
      { detailViewModel := { mealList, passRestaurantName, passRestaurantDiscount } }
    (∀ made, made <+: calls → Option.Rel SameCart (run DetailsViewController.called d made)
        (run (MoreDetailsViewController.called B) d.seeMore made)) ↔
      Allowed DetailsViewController.called (ReadsSame B) d calls := by
  intro d
  have hstart : SameCart d d.seeMore := ⟨rfl, rfl, rfl, rfl, rfl, rfl, rfl⟩
  exact runs_agree_iff (fun d m call hsame hamount => hsame.called_iff B hamount) hstart hamounts

/-- A meal of half a dollar, added and removed. -/
theorem carts_agree_below_one :
    let d : DetailsViewController ℚ String := {}
    let calls : List (DelegateCall String) :=
      [.didTapAddBtn "Pizza" "0.5" "meal" "1", .didTapRemoveBtn "Pizza" "0.5" "meal" "1"]
    (∀ made, made <+: calls → Option.Rel SameCart (run DetailsViewController.called d made)
        (run (MoreDetailsViewController.called scalarBreaking) d.seeMore made)) ↔
      Allowed DetailsViewController.called (ReadsSame scalarBreaking) d calls :=
  carts_agree_iff ℚ scalarBreaking [] "" "" (by decide)

/-- A price of 12.5 is added as 2.5. -/
theorem first_digit_dropped : ¬ ∀ calls : List (DelegateCall String),
    (∀ call ∈ calls, ∃ price : ℚ, 0 ≤ price ∧ call.amount = description (price / 100)) →
      let d : DetailsViewController ℚ String := {}
      Option.Rel SameCart (run DetailsViewController.called d calls)
        (run (MoreDetailsViewController.called scalarBreaking) d.seeMore calls) := by
  intro h
  have hprice : ∀ call ∈ [DelegateCall.didTapAddBtn "Pizza" "12.5" "meal" "1"],
      ∃ price : ℚ, 0 ≤ price ∧ call.amount = description (price / 100) := by
    intro call hcall
    obtain rfl := List.mem_singleton.mp hcall
    exact ⟨1250, by norm_num, by decide +kernel⟩
  obtain ⟨hsame⟩ := h _ hprice
  have hamounts := hsame.amountArray
  revert hamounts
  decide +kernel

/-! ### Exact reading -/

theorem isStandalone_of_plain {cs : List Char} (h : IsPlain cs) :
    ∀ c ∈ cs, isStandalone c = true := by
  intro c hc
  rcases h c hc with hdigit | rfl
  · have hrange : 48 ≤ c.toNat ∧ c.toNat ≤ 57 := Char.isDigit_iff_toNat.mp hdigit
    simp [isStandalone]
    omega
  · decide

/-- Read exactly, the text of a price is still a number without its first character, and the same
    one exactly below one. -/
theorem amountSuffix_description {price : ℚ} (hprice : 0 ≤ price)
    (hfinite : (price * 10 ^ decimals price).den = 1) :
    ∃ rest y, MoreDetailsViewController.amountSuffix B (description price) = some rest ∧
      (SwiftFloat.ofText (description price) : Option ℚ) = some price ∧
        (SwiftFloat.ofText rest : Option ℚ) = some y ∧ (price = y ↔ price < 1) := by
  obtain ⟨c, cs, htext, hplain, y, hy, hsame⟩ := parseFloat_description_tail hprice hfinite
  refine ⟨String.ofList cs, y, ?_, parseFloat_description hfinite, hy, hsame⟩
  rw [htext]
  exact B.suffix_tail (isStandalone_of_plain hplain)

section
variable [BEq String] [BEq Image] (s : DetailsViewController ℚ Image) {price : ℚ} (title : String)
  (image : Image) (number : String)

/-- An Add reads the same exactly when the meal costs less than one. -/
theorem readsSame_add_iff (hprice : 0 ≤ price) (hfinite : (price * 10 ^ decimals price).den = 1) :
    ReadsSame B s (.didTapAddBtn title (description price) image number) ↔ price < 1 := by
  obtain ⟨rest, y, hrest, hread, hread', hsame⟩ := amountSuffix_description B hprice hfinite
  simp only [ReadsSame, hrest, Option.mem_some_iff, forall_eq', hread, hread', Option.getD_some]
  exact hsame

/-- A Remove reads the same when the meal costs less than one. -/
theorem readsSame_remove_of_lt_one (hprice : 0 ≤ price)
    (hfinite : (price * 10 ^ decimals price).den = 1) (hlt : price < 1) :
    ReadsSame B s (.didTapRemoveBtn title (description price) image number) := by
  obtain ⟨rest, y, hrest, hread, hread', hsame⟩ := amountSuffix_description B hprice hfinite
  simp only [ReadsSame, hrest, Option.mem_some_iff, forall_eq', hread, hread']
  intro _ _ _
  exact Or.inl ⟨price, rfl, y, rfl, beq_of_eq (hsame.mpr hlt)⟩

end

end Foodly
