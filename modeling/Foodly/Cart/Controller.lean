import Foodly.Lib.Parallel
import Foodly.Lib.Runs
import Foodly.Swift.Numerals
import Foodly.Networking.Router

namespace Foodly

open Swift Decimal

/-!
# The cart screen

`CartViewModel` and `CartsViewController`: four parallel source arrays (titles, unit prices,
images, quantity texts), the displayed list `cartItems` derived from them, and the amount
labels.  A handler returns `none` where the source traps: a force unwrap of `nil`, an array
index out of range, an integer overflow.  `R` is the rounding of `"%.2f"`.

* `totalItems` — the loop that builds the rows, with every amount written with two decimals and
  parsed again; it appends to `cartItems`, which its callers empty first;
* `totalAmount`, `totalAmountWithDiscount` — the two routines that fill in the labels, the first
  with the discount that is stored and the second with one that it computes and stores;
* `reloadCart`, `reloadCartWithDiscount` — the rows built again, with either routine behind them;
* `addBtnTapped` — plus and minus, which edit the source arrays at the index of the row;
* `commitDelete` — the swipe, which takes the row out of `cartItems` alone;
* `continueButtonPressed` — the order, made of the labels and of the length of `cartNumber`;
* `CartsViewController.step` — the handler that runs on each `CartAction`.
-/

/-- `CartModel`: one displayed row. -/
structure CartModel (Image : Type) where
  itemName : String
  itemPrice : ℚ
  itemImage : Image
  itemNumber : String

/-- `CartViewModel`. -/
structure CartViewModel (Image : Type) where
  cartItems : List (CartModel Image) := []
  cartTitles : List String := []
  cartPrice : List ℚ := []
  cartImage : List Image := []
  cartNumber : List String := []

variable {Image : Type} (R : Nearest)

namespace CartViewModel

/-- The row that `totalItems` builds at one index. -/
def itemAtRow (vm : CartViewModel Image) (row : ℕ) : Option (CartModel Image) := do
  let itemName ← vm.cartTitles[row]?
  let price ← vm.cartPrice[row]?
  let number ← vm.cartNumber[row]?
  let quantity ← parseFloat number
  let itemPrice ← parseFloat (format2f R (price * quantity))
  let itemImage ← vm.cartImage[row]?
  return { itemName, itemPrice, itemImage, itemNumber := number }

/-- `totalItems()`: appends a row for every price to `cartItems`, which it also returns. -/
def totalItems (vm : CartViewModel Image) : Option (CartViewModel Image) := do
  let items ← (List.range vm.cartPrice.length).mapM (vm.itemAtRow R)
  return { vm with cartItems := vm.cartItems ++ items }

end CartViewModel

/-- `CartsViewController`, with the texts of its labels. -/
structure CartsViewController (Image : Type) where
  restName : String := ""
  restDiscountValue : String := ""
  discount : ℚ := 0
  totalDiscount : ℚ := 0
  viewModel : CartViewModel Image := {}
  initialAmt : List ℚ := []
  itemsTotal : String := "$20.49"
  discountAmt : String := "$10"
  taxAmt : String := "$2"
  finalAmt : String := "$12.49"

namespace CartsViewController

/-! ### Totals -/

/-- The labels that both total routines fill in from the amounts collected. -/
def showAmounts (s : CartsViewController Image) (initialAmt : List ℚ) :
    Option (CartsViewController Image) := do
  let tax ← parseFloat (format2f R (1 / 20 * initialAmt.sum))
  return { s with
    itemsTotal := "$" ++ format2f R initialAmt.sum
    finalAmt := "$" ++ format2f R (initialAmt.sum - s.totalDiscount + tax)
    discountAmt := "$" ++ format2f R s.totalDiscount
    taxAmt := "$" ++ description tax
    initialAmt := [] }

/-- `totalAmount()`: leaves the discount in force as it is. -/
def totalAmount (s : CartsViewController Image) : Option (CartsViewController Image) :=
  s.showAmounts R (s.initialAmt ++ s.viewModel.cartItems.map (·.itemPrice))

/-- `totalAmountWithDiscount()`: computes the discount from the amounts collected. -/
def totalAmountWithDiscount (s : CartsViewController Image) :
    Option (CartsViewController Image) :=
  let initialAmt := s.initialAmt ++ s.viewModel.cartItems.map (·.itemPrice)
  let discount := (parseFloat s.restDiscountValue).getD 0 / 100
  { s with discount, totalDiscount := discount * initialAmt.sum }.showAmounts R initialAmt

/-- `cartItems.removeAll()` and `cartItems = totalItems()`. -/
def rebuildItems (s : CartsViewController Image) : Option (CartsViewController Image) := do
  let viewModel ← { s.viewModel with cartItems := [] }.totalItems R
  return { s with viewModel }

/-- `reloadCart()`. -/
def reloadCart (s : CartsViewController Image) : Option (CartsViewController Image) := do
  (← s.rebuildItems R).totalAmount R

/-- `reloadCartWithDiscount()`. -/
def reloadCartWithDiscount (s : CartsViewController Image) :
    Option (CartsViewController Image) := do
  (← s.rebuildItems R).totalAmountWithDiscount R

/-! ### Opening the screen -/

/-- The controller as `viewCartButton` hands the four arrays over. -/
def handedOver (titles : List String) (prices : List ℚ) (images : List Image)
    (numbers : List String) (restName restDiscountValue : String) : CartsViewController Image :=
  { restName, restDiscountValue
    viewModel := { cartTitles := titles, cartPrice := prices, cartImage := images,
                   cartNumber := numbers } }

/-- `viewDidLoad()`. -/
def viewDidLoad (s : CartsViewController Image) : Option (CartsViewController Image) := do
  let viewModel ← s.viewModel.totalItems R
  { s with viewModel }.totalAmount R

/-- `viewDidAppear(_:)`. -/
def viewDidAppear (s : CartsViewController Image) : Option (CartsViewController Image) :=
  s.totalAmount R

/-! ### Handlers -/

/-- `addBtnTapped(sender:on:)` on the cell displayed at `row`. -/
def addBtnTapped (s : CartsViewController Image) (row : ℕ) (plus : Bool) :
    Option (CartsViewController Image) := do
  -- The row of a displayed cell is looked up in the source arrays.
  let number ← s.viewModel.cartNumber[row]?
  let quantity ← parseInt number
  if plus then
    let quantity ← addInt quantity 1
    let cartNumber := s.viewModel.cartNumber.set row (toString quantity)
    reloadCart R { s with viewModel := { s.viewModel with cartNumber } }
  else
    let quantity ← addInt quantity (-1)
    let cartNumber := s.viewModel.cartNumber.set row (toString quantity)
    let after ← cartNumber[row]?.bind parseInt
    if after ≥ 1 then
      reloadCart R { s with viewModel := { s.viewModel with cartNumber } }
    else if after = 0 then
      let cartPrice ← Parallel.removeAt s.viewModel.cartPrice row
      let cartNumber ← Parallel.removeAt cartNumber row
      let cartTitles ← Parallel.removeAt s.viewModel.cartTitles row
      let cartImage ← Parallel.removeAt s.viewModel.cartImage row
      reloadCart R { s with
        viewModel := { s.viewModel with cartPrice, cartNumber, cartTitles, cartImage } }
    else
      -- A quantity below zero is stored, and nothing is reloaded.
      return { s with viewModel := { s.viewModel with cartNumber } }

/-- `tableView(_:commit:forRowAt:)` with the delete style. -/
def commitDelete (s : CartsViewController Image) (row : ℕ) :
    Option (CartsViewController Image) := do
  -- The four source arrays keep the row, and no total is computed.
  let cartItems ← Parallel.removeAt s.viewModel.cartItems row
  return { s with viewModel := { s.viewModel with cartItems } }

/-- `imageStringForRestaurant(check:)`. -/
def imageStringForRestaurant : String → String
  | "Conrad food" => "Group 43"
  | "Mr Biggs" => "Group 43"
  | "Mama Nkechi" => "Group 45"
  | "Black Fish" => "Group 45"
  | "Goichi Oniko" => "Group 46"
  | "SK Restro" => "Group 44"
  | _ => "Group 43"

/-- The order that `continueButtonPressed(_:)` gives to `OrderService.createOrder`. -/
def continueButtonPressed (s : CartsViewController Image) : Food where
  name := s.restName
  image := imageStringForRestaurant s.restName
  items := "x " ++ toString s.viewModel.cartNumber.length ++ " items"
  price := s.finalAmt

end CartsViewController

/-- What happens on the cart screen. -/
inductive CartAction
  | tap (row : ℕ) (plus : Bool)
  | acceptPromo
  | viewDidAppear
  | delete (row : ℕ)
  deriving DecidableEq, Repr

/-- The handler that runs on each action; `Accept` of the promo alert reloads with the
    discount. -/
def CartsViewController.step (s : CartsViewController Image) :
    CartAction → Option (CartsViewController Image)
  | .tap row plus => s.addBtnTapped R row plus
  | .acceptPromo => s.reloadCartWithDiscount R
  | .viewDidAppear => s.viewDidAppear R
  | .delete row => s.commitDelete row

end Foodly
