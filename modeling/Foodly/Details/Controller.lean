import Foodly.Cart.Controller
import Foodly.Home.ViewModel

namespace Foodly

open Swift

/-!
# The details screen

`DetailsViewModel` and `DetailsViewController`: the menu of a restaurant, and the cart that
its Add and Remove buttons build as four parallel arrays.  A removal looks its values up in
each array separately.  `DetailsTableViewCell` is the cell whose label decides which of the
two buttons a tap is.

* `MealsModel` — a meal of the menu, with the text of its price;
* `didTapAddBtn`, `didTapRemoveBtn` — the two calls of the delegate: an Add of a price that is no
  number is one of zero, and a Remove of it is a trap;
* `countText`, `totalText` — the two texts of the summary bar;
* `viewCartButton` — the cart screen with the four arrays handed over;
* `setup`, `addButtonPressed` — the cell: the first sets everything but the label, the second reads
  the label.

Prices are of a type `F` with the equality and the conversions of `Float`; images and titles have
an equality of their own.  A handler returns `none` where the source traps.
-/

/-- `MealsModel`. -/
structure MealsModel (Image : Type) where
  mealName : String
  mealImage : Option Image
  mealPrice : String
  mealRecipe : String
  deriving DecidableEq

/-- `DetailsViewModel`. -/
structure DetailsViewModel (F Image : Type) where
  mealList : List (MealsModel Image) := []
  passRestaurantName : String := ""
  passRestaurantDiscount : String := ""
  restaurantDetailsList : Option (Restaurants Image) := none
  restID : String := ""
  titleArray : List String := []
  amountArray : List F := []
  imageArray : List Image := []
  quantityOfItems : List String := []

/-- `DetailsViewController`, with the state of its summary bar after `viewDidLoad`. -/
structure DetailsViewController (F Image : Type) where
  detailViewModel : DetailsViewModel F Image := {}
  numberOfItems : String := "1"
  totalAmount : String := "$20.49"
  cartViewHidden : Bool := true

variable {F Image : Type} [SwiftFloat F]

namespace DetailsViewController

/-- The text of `numberOfItems`. -/
def countText (count : ℕ) : String :=
  if count = 1 then toString count ++ " item" else toString count ++ " items"

/-- The text of `totalAmount`. -/
def totalText (amounts : List F) : String :=
  "$" ++ SwiftFloat.description (amounts.foldl (· + ·) 0)

/-- `didTapAddBtn(with:and:and:and:)`. -/
def didTapAddBtn (s : DetailsViewController F Image) (title amount : String) (titleImage : Image)
    (foodQuantity : String) : DetailsViewController F Image :=
  let titleArray := s.detailViewModel.titleArray ++ [title]
  let amountArray := s.detailViewModel.amountArray ++ [(SwiftFloat.ofText amount).getD 0]
  let imageArray := s.detailViewModel.imageArray ++ [titleImage]
  let quantityOfItems := s.detailViewModel.quantityOfItems ++ [foodQuantity]
  { detailViewModel :=
      { s.detailViewModel with titleArray, amountArray, imageArray, quantityOfItems }
    cartViewHidden := false
    numberOfItems := countText titleArray.length
    totalAmount := totalText amountArray }

/-- `didTapRemoveBtn(with:and:and:and:)`. -/
def didTapRemoveBtn [BEq String] [BEq Image] (s : DetailsViewController F Image)
    (title amount : String) (titleImage : Image) (foodQuantity : String) :
    Option (DetailsViewController F Image) := do
  -- Each array is searched on its own.
  let titleArray ← Parallel.removeFirst title s.detailViewModel.titleArray
  let price ← SwiftFloat.ofText amount
  let amountArray ← Parallel.removeFirst price s.detailViewModel.amountArray
  let imageArray ← Parallel.removeFirst titleImage s.detailViewModel.imageArray
  let quantityOfItems ← Parallel.removeFirst foodQuantity s.detailViewModel.quantityOfItems
  return {
    detailViewModel :=
      { s.detailViewModel with titleArray, amountArray, imageArray, quantityOfItems }
    cartViewHidden := if titleArray.length = 0 then true else s.cartViewHidden
    numberOfItems := if titleArray.length = 0 then s.numberOfItems else countText titleArray.length
    totalAmount := totalText amountArray }

/-- `viewCartButton(_:)`: the cart screen with the four arrays handed over. -/
def viewCartButton (s : DetailsViewController F Image) : CartsViewController Image :=
  .handedOver s.detailViewModel.titleArray (s.detailViewModel.amountArray.map SwiftFloat.value)
    s.detailViewModel.imageArray s.detailViewModel.quantityOfItems
    s.detailViewModel.passRestaurantName s.detailViewModel.passRestaurantDiscount

end DetailsViewController

/-! ### Cells -/

/-- `DetailsTableViewCell`, as its nib creates it. -/
structure DetailsTableViewCell (Image : Type) where
  myImageView : Option Image := none
  restaurantNameLabel : String := "Label"
  foodTypeLabel : String := "Label"
  foodAmountLabel : String := "Label"
  addLabel : String := "Add"
  foodQuantity : String := "1"

namespace DetailsTableViewCell

/-- `setup(with:)`: everything but `addLabel`. -/
def setup (cell : DetailsTableViewCell Image) (meals : MealsModel Image) :
    DetailsTableViewCell Image :=
  { cell with
    myImageView := meals.mealImage
    restaurantNameLabel := meals.mealName
    foodTypeLabel := meals.mealRecipe
    foodAmountLabel := meals.mealPrice }

/-- `addButtonPressed(_:)`, with the controller as the delegate. -/
def addButtonPressed [BEq String] [BEq Image] (cell : DetailsTableViewCell Image)
    (delegate : DetailsViewController F Image) :
    Option (DetailsTableViewCell Image × DetailsViewController F Image) := do
  let image ← cell.myImageView
  if cell.addLabel = "Add" then
    return ({ cell with addLabel := "Added" },
      delegate.didTapAddBtn cell.foodTypeLabel cell.foodAmountLabel image cell.foodQuantity)
  else
    let delegate ← delegate.didTapRemoveBtn cell.foodTypeLabel cell.foodAmountLabel image
      cell.foodQuantity
    return ({ cell with addLabel := "Add" }, delegate)

end DetailsTableViewCell

end Foodly
