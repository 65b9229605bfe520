import Foodly.Details.Controller
import Foodly.Swift.Characters

namespace Foodly

open Swift

/-!
# The More Details screen

`MoreDetailsViewController` keeps a cart of its own, with the same four arrays and the same
summary bar as `DetailsViewController`.  Its handlers read an amount without its first character,
`amount.suffix(amount.count - 1)`, where those of the details screen read the whole of it.

* `DetailsViewController.seeMore` — the screen that is pushed, which takes over the restaurant and
  none of the arrays;
* `amountSuffix` — the amount without its first character, which traps on the empty text;
* `didTapAddBtn`, `didTapRemoveBtn` — the two calls of the delegate; an Add of what is no number is
  one of zero, a Remove of it is a trap;
* `viewCartButton` — the cart screen with the four arrays handed over.
-/

/-- `MoreDetailsViewController`, with the state of its summary bar after `viewDidLoad`. -/
structure MoreDetailsViewController (F Image : Type) where
  passRestaurantName : String := ""
  passRestaurantDiscount : String := ""
  titleArray : List String := []
  amountArray : List F := []
  imageArray : List Image := []
  quantityOfItems : List String := []
  numberOfItems : String := "1"
  totalAmount : String := "$20.49"
  cartViewHidden : Bool := true

variable {F Image : Type} [SwiftFloat F]

/-- `seeMore(with:)`: the screen that is pushed. -/
def DetailsViewController.seeMore (s : DetailsViewController F Image) :
    MoreDetailsViewController F Image where
  passRestaurantName := s.detailViewModel.passRestaurantName
  passRestaurantDiscount := s.detailViewModel.passRestaurantDiscount

namespace MoreDetailsViewController

variable (B : CharacterBreaking)

/-- `amount.suffix(amount.count - 1)`, which traps on the empty text. -/
def amountSuffix (amount : String) : Option String := B.suffix amount (B.count amount - 1)

/-- `didTapAddBtn(with:and:and:and:)`. -/
def didTapAddBtn (s : MoreDetailsViewController F Image) (title amount : String)
    (titleImage : Image) (foodQuantity : String) :
    Option (MoreDetailsViewController F Image) := do
  let amount ← amountSuffix B amount
  let titleArray := s.titleArray ++ [title]
  let amountArray := s.amountArray ++ [(SwiftFloat.ofText amount).getD 0]
  let imageArray := s.imageArray ++ [titleImage]
  let quantityOfItems := s.quantityOfItems ++ [foodQuantity]
  return { s with
    titleArray, amountArray, imageArray, quantityOfItems
    cartViewHidden := false
    numberOfItems := DetailsViewController.countText titleArray.length
    totalAmount := DetailsViewController.totalText amountArray }

/-- `didTapRemoveBtn(with:and:and:and:)`. -/
def didTapRemoveBtn [BEq String] [BEq Image] (s : MoreDetailsViewController F Image)
    (title amount : String) (titleImage : Image) (foodQuantity : String) :
    Option (MoreDetailsViewController F Image) := do
  let titleArray ← Parallel.removeFirst title s.titleArray
  let amount ← amountSuffix B amount
  let price ← SwiftFloat.ofText amount
  let amountArray ← Parallel.removeFirst price s.amountArray
  let imageArray ← Parallel.removeFirst titleImage s.imageArray
  let quantityOfItems ← Parallel.removeFirst foodQuantity s.quantityOfItems
  return { s with
    titleArray, amountArray, imageArray, quantityOfItems
    cartViewHidden := if titleArray.length = 0 then true else s.cartViewHidden
    numberOfItems :=
      if titleArray.length = 0 then s.numberOfItems
      else DetailsViewController.countText titleArray.length
    totalAmount := DetailsViewController.totalText amountArray }

/-- `viewCartButton(_:)`: the cart screen with the four arrays handed over. -/
def viewCartButton (s : MoreDetailsViewController F Image) : CartsViewController Image :=
  .handedOver s.titleArray (s.amountArray.map SwiftFloat.value) s.imageArray s.quantityOfItems
    s.passRestaurantName s.passRestaurantDiscount

end MoreDetailsViewController

end Foodly
