import Foodly.Networking.Firestore

namespace Foodly

/-!
# The router and its endpoints

Every access to Firestore goes through `Router.request`: an endpoint declares one of five
operations and the references it can supply, and the router issues the Firestore call of
that operation on the reference the operation needs.  A missing reference drops the call,
which the source does with optional chaining.

* `FirestoreRequest` — the protocol of the endpoints, with the references as optional values;
* `Router.request` — the dispatch on the operation, and one function for each of the five;
* `Router.onSnapshot`, `Router.onWrite` — the closures that are given to Firestore, and
  `Router.complete`, what the completion of a request gets from one callback;
* `CategoryAPI`, `RestaurantAPI`, `MealsAPI`, `DeliveryPersonApi`, `OrderAPI` — the endpoints, each
  with the references that its source has, also where no operation of it reads them;
* `Food` — an order, as it is encoded for `setData`.

Of the endpoints only that of the orders depends on who is signed in: it has no reference without
a user.
-/

/-- `Collection`. -/
inductive Collection
  | users
  | orderHistory
  | restaurants
  | deliveryPerson
  | menu
  | categories
  deriving DecidableEq, Repr

def Collection.identifier : Collection → String
  | .users => "users"
  | .orderHistory => "orderHistory"
  | .restaurants => "restaurants"
  | .deliveryPerson => "deliveryPerson"
  | .menu => "menu"
  | .categories => "categories"

/-- `Operations`. -/
inductive Operations
  | create (data : Parameter)
  | read
  | update (data : Parameter)
  | delete
  | query
  deriving DecidableEq, Repr

/-- The protocol `FirestoreRequest`, with its default for `collectionQuery`. -/
structure FirestoreRequest where
  operations : Operations
  documentReference : Option DocumentReference
  collectionReference : Option CollectionReference
  baseDocumentReference : Option DocumentReference
  collectionQuery : Option Query := none

/-! ### The router -/

/-- What a snapshot listener is attached to. -/
inductive ListenerSource
  | collection (source : CollectionReference)
  | query (source : Query)
  deriving DecidableEq, Repr

/-- The calls that the router makes on Firestore. -/
inductive FirestoreCall
  | addSnapshotListener (source : ListenerSource)
  | addDocument (target : CollectionReference) (data : Parameter)
  | setData (target : DocumentReference) (data : Parameter)
  | delete (target : DocumentReference)
  deriving DecidableEq, Repr

/-- `Result<QuerySnapshot?, Error>`. -/
inductive RouterResult
  | failure (error : FirestoreError)
  | success (snapshot : Option QuerySnapshot)
  deriving DecidableEq, Repr

namespace Router

/-- `query(_:completion:)`. -/
def query (request : FirestoreRequest) : Option FirestoreCall :=
  request.collectionQuery.map fun q => .addSnapshotListener (.query q)

/-- `read(_:completion:)`. -/
def read (request : FirestoreRequest) : Option FirestoreCall :=
  request.collectionReference.map fun c => .addSnapshotListener (.collection c)

/-- `create(_:data:completion:)`. -/
def create (request : FirestoreRequest) (data : Parameter) : Option FirestoreCall :=
  request.collectionReference.map fun c => .addDocument c data

/-- `update(_:data:completion:)`. -/
def update (request : FirestoreRequest) (data : Parameter) : Option FirestoreCall :=
  request.documentReference.map fun d => .setData d data

/-- `delete(_:completion:)`. -/
def delete (request : FirestoreRequest) : Option FirestoreCall :=
  request.documentReference.map fun d => .delete d

/-- `request(_:completion:)`: the Firestore call made, `none` when the reference is `nil`. -/
def request (request : FirestoreRequest) : Option FirestoreCall :=
  match request.operations with
  | .read => read request
  | .create data => create request data
  | .update data => update request data
  | .delete => delete request
  | .query => query request

/-- The closure that `query` and `read` give to `addSnapshotListener`. -/
def onSnapshot (snapshot : Option QuerySnapshot) (error : Option FirestoreError) : RouterResult :=
  match error with
  | some error => .failure error
  | none => .success snapshot

/-- The closure that `create`, `update` and `delete` give to Firestore. -/
def onWrite (error : Option FirestoreError) : RouterResult :=
  match error with
  | some error => .failure error
  | none => .success none

/-- What a completion gets from one callback of a snapshot listener. -/
def complete (delivery : Delivery) : RouterResult :=
  onSnapshot delivery.snapshot? delivery.error?

@[simp] theorem complete_snapshot (documents : QuerySnapshot) :
    complete (.snapshot documents) = .success (some documents) := rfl

@[simp] theorem complete_error (error : FirestoreError) :
    complete (.error error) = .failure error := rfl

end Router

/-! ### Endpoints

`currentUser` is `Auth.auth().currentUser?.uid`, and `generated` the id that `document()`
makes up. -/

/-- `CategoryAPI`. -/
inductive CategoryAPI
  | getCategories
  deriving DecidableEq, Repr

def CategoryAPI.request : CategoryAPI → FirestoreRequest
  | .getCategories =>
    { operations := .read
      documentReference := none
      collectionReference := some (Firestore.collection Collection.categories.identifier)
      baseDocumentReference := none }

/-- `RestaurantAPI`. -/
inductive RestaurantAPI
  | getRestaurants
  | filterCategory (category : String)
  deriving DecidableEq, Repr

namespace RestaurantAPI

def operations : RestaurantAPI → Operations
  | .getRestaurants => .read
  | .filterCategory _ => .query

def collectionReference : RestaurantAPI → Option CollectionReference
  | .getRestaurants | .filterCategory _ =>
    some (Firestore.collection Collection.restaurants.identifier)

def collectionQuery (endpoint : RestaurantAPI) : Option Query :=
  match endpoint with
  | .getRestaurants => none
  | .filterCategory category =>
    endpoint.collectionReference.map fun c => c.whereField "mealType" category

def request (endpoint : RestaurantAPI) : FirestoreRequest where
  operations := endpoint.operations
  documentReference := none
  collectionReference := endpoint.collectionReference
  baseDocumentReference := none
  collectionQuery := endpoint.collectionQuery

end RestaurantAPI

/-- `RestaurantService.getRestaurants(categoryName:completion:)`: the call it leads to. -/
def RestaurantService.getRestaurants (categoryName : Option String) : Option FirestoreCall :=
  match categoryName with
  | some categoryName => Router.request (RestaurantAPI.filterCategory categoryName).request
  | none => Router.request RestaurantAPI.getRestaurants.request

/-- What the listener of a category reads: the restaurants of that meal type, or all. -/
def restaurantSource : Option String → ListenerSource
  | some categoryName => .query ⟨Firestore.collection "restaurants", "mealType", categoryName⟩
  | none => .collection (Firestore.collection "restaurants")

/-- A category always gets its listener. -/
theorem getRestaurants_eq (categoryName : Option String) :
    RestaurantService.getRestaurants categoryName
      = some (.addSnapshotListener (restaurantSource categoryName)) := by
  cases categoryName <;> rfl

/-- `MealsAPI`. -/
inductive MealsAPI
  | getMeals (restaurantId : String)
  deriving DecidableEq, Repr

namespace MealsAPI

def baseDocumentReference (generated : String) : DocumentReference :=
  (Firestore.collection Collection.restaurants.identifier).document generated

def collectionReference : MealsAPI → CollectionReference
  | .getMeals restaurantId =>
    ((Firestore.collection Collection.restaurants.identifier).document restaurantId).collection
      Collection.menu.identifier

def documentReference (generated generated' : String) : MealsAPI → DocumentReference
  | .getMeals _ =>
    ((baseDocumentReference generated).collection
      Collection.restaurants.identifier).document generated'

def request (generated generated' : String) (endpoint : MealsAPI) : FirestoreRequest where
  operations := .read
  documentReference := some (endpoint.documentReference generated generated')
  collectionReference := some endpoint.collectionReference
  baseDocumentReference := some (baseDocumentReference generated)

end MealsAPI

/-- `DeliveryPersonApi`. -/
inductive DeliveryPersonApi
  | getDeliveryPerson
  deriving DecidableEq, Repr

namespace DeliveryPersonApi

def collectionReference : DeliveryPersonApi → CollectionReference
  | .getDeliveryPerson => Firestore.collection Collection.deliveryPerson.identifier

def baseDocumentReference (generated : String) : DocumentReference :=
  (Firestore.collection Collection.deliveryPerson.identifier).document generated

def request (generated : String) (endpoint : DeliveryPersonApi) : FirestoreRequest where
  operations := .read
  documentReference := some (baseDocumentReference generated)
  collectionReference := some endpoint.collectionReference
  baseDocumentReference := some (baseDocumentReference generated)

end DeliveryPersonApi

/-- `Food`: an order, all of its fields texts. -/
structure Food where
  name : String := ""
  price : String := ""
  items : String := ""
  image : String := ""
  deriving DecidableEq, Repr

def Food.asParameter (food : Food) : Parameter :=
  [("cost", .string food.price), ("imageName", .string food.image),
    ("items", .string food.items), ("name", .string food.name)]

/-- `OrderAPI`. -/
inductive OrderAPI
  | createFoodOrder (items : Food)
  | getFoodOrderHistory
  | updateFoodOrder (userId : String) (items : Food)
  deriving DecidableEq, Repr

namespace OrderAPI

def operations : OrderAPI → Operations
  | .createFoodOrder food => .create food.asParameter
  | .getFoodOrderHistory => .read
  | .updateFoodOrder _ food => .update food.asParameter

def baseDocumentReference (currentUser : Option String) : Option DocumentReference :=
  currentUser.map fun userID =>
    (Firestore.collection Collection.users.identifier).document userID

def collectionReference (currentUser : Option String) : OrderAPI → Option CollectionReference
  | .createFoodOrder _ | .getFoodOrderHistory =>
    (baseDocumentReference currentUser).map fun d => d.collection Collection.orderHistory.identifier
  | .updateFoodOrder _ _ => none

def documentReference (currentUser : Option String) (generated : String) :
    OrderAPI → Option DocumentReference
  | .createFoodOrder _ => baseDocumentReference currentUser
  | .getFoodOrderHistory =>
    (baseDocumentReference currentUser).map fun d =>
      (d.collection Collection.orderHistory.identifier).document generated
  | .updateFoodOrder orderId _ =>
    (baseDocumentReference currentUser).map fun d =>
      (d.collection Collection.orderHistory.identifier).document orderId

def request (currentUser : Option String) (generated : String) (endpoint : OrderAPI) :
    FirestoreRequest where
  operations := endpoint.operations
  documentReference := endpoint.documentReference currentUser generated
  collectionReference := endpoint.collectionReference currentUser
  baseDocumentReference := baseDocumentReference currentUser

end OrderAPI

end Foodly
