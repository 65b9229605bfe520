import Foodly.Networking.Router
import Mathlib.Data.List.Basic

namespace Foodly

/-!
# The home screen's view model

`HomeScreenViewModel`: the categories and the restaurants of the home screen, each decoded
from the snapshots of a listener.  A restaurants snapshot replaces `restaurantList` and is
appended to `restaurantIDS`.

* `Assets` — the asset catalogue that pictures are looked up in; a restaurant whose picture it
  does not have is a trap, which `none` stands for, while a category falls back to a picture that is
  always there;
* `dishCategory` — the category made of a document, which is passed over when it lacks a field;
* `restaurantFields`, `eachRestaurant` — the fields that a restaurant needs, and the restaurant made
  of them;
* `restaurantsFetched` — the completion, a loop over the documents of the snapshot;
* `wellFormedRestaurants`, `restaurantIDsOf`, `restaurantsOf` — what the loop makes of a snapshot,
  without the loop;
* `restaurantsFetched_snapshot` — the two agree.

The search screen has a view model of the same class, so nothing here is about a screen.
-/

/-- The asset catalogue: `UIImage(named:)`, and the picture `miang` that is always there. -/
structure Assets (Image : Type) where
  named : String → Option Image
  miang : Image

/-- A catalogue that has every picture. -/
def allAssets : Assets String := { named := some, miang := "miang" }

/-- `DishCategory`. -/
structure DishCategory (Image : Type) where
  name : String
  image : Image
  deriving DecidableEq

/-- `Restaurants`. -/
structure Restaurants (Image : Type) where
  restaurantName : String
  restaurantImage : Image
  category : String
  timeLabel : String
  discountLabel : String
  deriving DecidableEq

/-- `HomeScreenViewModel`. -/
structure HomeScreenViewModel (Image : Type) where
  categoriesArray : List (DishCategory Image) := []
  restaurantList : List (Restaurants Image) := []
  restaurantIDS : List String := []

variable {Image : Type} (A : Assets Image)

/-! ### Decoding -/

/-- The category that `fetchCategories` makes of a document. -/
def dishCategory (result : Document) : Option (DishCategory Image) := do
  let name ← stringField result.data "name"
  let image ← result.data.lookup "image"
  return { name, image := (A.named image.text).getD A.miang }

/-- The fields that `fetchRestaurants` requires of a document. -/
structure RestaurantFields where
  name : String
  imageName : String
  discount : String
  mealType : String
  time : String
  deriving DecidableEq, Repr

def restaurantFields (data : Parameter) : Option RestaurantFields := do
  let name ← stringField data "name"
  let imageName ← stringField data "imageName"
  let discount ← stringField data "discount"
  let mealType ← stringField data "mealType"
  let time ← stringField data "time"
  return { name, imageName, discount, mealType, time }

/-- The restaurant made of the fields, with `UIImage(imageLiteralResourceName:)`. -/
def eachRestaurant (fields : RestaurantFields) : Option (Restaurants Image) := do
  let restaurantImage ← A.named fields.imageName
  return {
    restaurantName := fields.name
    restaurantImage
    category := fields.mealType
    timeLabel := fields.time
    discountLabel := fields.discount }

namespace HomeScreenViewModel

/-- The completion of `fetchCategories()`. -/
def categoriesFetched (vm : HomeScreenViewModel Image) : RouterResult → HomeScreenViewModel Image
  | .failure _ => vm
  | .success queryDocument =>
    { vm with categoriesArray := (queryDocument.getD []).filterMap (dishCategory A) }

/-- The body of the loop over the documents: the ids appended so far, and the restaurants. -/
def addRestaurant (acc : List String × List (Restaurants Image)) (result : Document) :
    Option (List String × List (Restaurants Image)) :=
  match restaurantFields result.data with
  | none => some acc
  | some fields => do
    let restaurant ← eachRestaurant A fields
    return (acc.1 ++ [result.documentID], acc.2 ++ [restaurant])

/-- The completion of `fetchRestaurants(categoryName:)`. -/
def restaurantsFetched (vm : HomeScreenViewModel Image) :
    RouterResult → Option (HomeScreenViewModel Image)
  | .failure _ => some vm
  | .success queryDocument => do
    -- `restaurantIDS` starts from what earlier snapshots left, the restaurants from nothing.
    let (restaurantIDS, restaurantsFilteredArray) ←
      (queryDocument.getD []).foldlM (addRestaurant A) (vm.restaurantIDS, [])
    return { vm with restaurantIDS, restaurantList := restaurantsFilteredArray }

end HomeScreenViewModel

/-! ### What a snapshot decodes to -/

/-- The documents of a snapshot that are well formed. -/
def wellFormedRestaurants (documents : QuerySnapshot) : QuerySnapshot :=
  documents.filter fun result => (restaurantFields result.data).isSome

/-- The ids of the well-formed documents. -/
def restaurantIDsOf (documents : QuerySnapshot) : List String :=
  (wellFormedRestaurants documents).map (·.documentID)

/-- The restaurants of the well-formed documents; `none` when a picture is missing. -/
def restaurantsOf (documents : QuerySnapshot) : Option (List (Restaurants Image)) :=
  (documents.filterMap fun result => restaurantFields result.data).mapM (eachRestaurant A)

theorem restaurantsOf_cons_none {result : Document} (documents : QuerySnapshot)
    (h : restaurantFields result.data = none) :
    restaurantsOf A (result :: documents) = restaurantsOf A documents := by
  simp only [restaurantsOf, List.filterMap_cons, h]

theorem restaurantsOf_cons_some {result : Document} (documents : QuerySnapshot)
    {fields : RestaurantFields} (h : restaurantFields result.data = some fields) :
    restaurantsOf A (result :: documents)
      = (eachRestaurant A fields).bind fun restaurant =>
          (restaurantsOf A documents).map (restaurant :: ·) := by
  simp only [restaurantsOf, List.filterMap_cons, h, List.mapM_cons, Option.bind_eq_bind,
    Option.pure_def, Option.map_eq_bind, Function.comp_def]

theorem wellFormedRestaurants_cons (result : Document) (documents : QuerySnapshot) :
    wellFormedRestaurants (result :: documents)
      = if (restaurantFields result.data).isSome then result :: wellFormedRestaurants documents
        else wellFormedRestaurants documents := List.filter_cons

/-- The loop appends the ids and the restaurants of the well-formed documents. -/
theorem foldlM_addRestaurant (documents : QuerySnapshot) (ids : List String)
    (restaurants : List (Restaurants Image)) :
    documents.foldlM (HomeScreenViewModel.addRestaurant A) (ids, restaurants)
      = (restaurantsOf A documents).map fun new =>
          (ids ++ restaurantIDsOf documents, restaurants ++ new) := by
  induction documents generalizing ids restaurants with
  | nil => simp [restaurantsOf, restaurantIDsOf, wellFormedRestaurants]
  | cons result documents ih =>
    rw [List.foldlM_cons, restaurantIDsOf, wellFormedRestaurants_cons]
    cases hfields : restaurantFields result.data with
    | none =>
      -- A malformed document is skipped.
      simp only [HomeScreenViewModel.addRestaurant, hfields, Option.bind_eq_bind, Option.bind_some,
        ih, restaurantsOf_cons_none A documents hfields, Option.isSome_none, Bool.false_eq_true,
        if_false]
      rfl
    | some fields =>
      simp only [HomeScreenViewModel.addRestaurant, hfields, Option.bind_eq_bind, Option.pure_def,
        restaurantsOf_cons_some A documents hfields, Option.isSome_some, if_true]
      cases eachRestaurant A fields with
      | none => rfl
      | some restaurant =>
        simp only [Option.bind_some, ih]
        cases restaurantsOf A documents with
        | none => rfl
        | some new => simp [restaurantIDsOf]

/-- **Delivery.**  A snapshot replaces the list and appends the ids. -/
theorem restaurantsFetched_snapshot (vm : HomeScreenViewModel Image) (documents : QuerySnapshot) :
    vm.restaurantsFetched A (.success (some documents))
      = (restaurantsOf A documents).map fun restaurantList =>
          { vm with
            restaurantIDS := vm.restaurantIDS ++ restaurantIDsOf documents
            restaurantList } := by
  simp only [HomeScreenViewModel.restaurantsFetched, Option.getD_some, foldlM_addRestaurant,
    List.nil_append]
  cases restaurantsOf A documents <;> rfl

end Foodly
