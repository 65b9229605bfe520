import Foodly.Lib.Runs
import Foodly.Networking.Database
import Foodly.Orders.History

namespace Foodly

open DocumentStore Runs

/-!
# Orders

Orders are written under `users/{uid}/orderHistory` of whoever is signed in, and the history is
read back from there.  The reference is a list of orders, each with its owner, its id and the
latest `Food` written for it.

* `OrderAction`, `OrdersState.step` — what the users of the app do, and what `OrderService` and
  Firebase make of it, with nobody or anybody signed in;
* `FreshOrExisting` — what is assumed of the ids: a new order gets one that is not in use, and an
  order that is updated exists;
* `Order`, `OrderBook.record` — the reference: an order belongs to the user who creates it, and an
  update replaces the food of one order of the current user;
* `asParameter_injective`, `historyDetail_asParameter` — an order is encoded as a document, and the
  document decodes to the row of the order;
* `Keeps` — the database holds exactly the orders of the book, each under its owner and id;
* `Keeps.create`, `Keeps.update`, `keeps_step` — one action of the app;
* `history_shows_orders` — what a user's history decodes to, after any run of the app, is the
  reference's orders of that user.
-/

variable {Image : Type} (A : Assets Image)

/-- What the users of the app do; `generated` is the id that Firestore makes up for an order. -/
inductive OrderAction
  | signIn (user : String)
  | signOut
  | createOrder (food : Food) (generated : String)
  | updateOrder (orderId : String) (food : Food)
  deriving DecidableEq, Repr

/-! ### The app -/

/-- The database, and the user who is signed in. -/
structure OrdersState where
  database : Database
  currentUser : Option String := none

/-- `OrderService` and Firebase on one action. -/
def OrdersState.step (s : OrdersState) : OrderAction → Option OrdersState
  | .signIn user => some { s with currentUser := some user }
  | .signOut => some { s with currentUser := none }
  | .createOrder food generated => some { s with
      database := performRequest generated s.database
        ((OrderAPI.createFoodOrder food).request s.currentUser generated) }
  | .updateOrder orderId food => some { s with
      database := performRequest "" s.database
        ((OrderAPI.updateFoodOrder orderId food).request s.currentUser "") }

/-- The order history of a user. -/
def orderHistoryOf (user : String) : CollectionReference :=
  ((Firestore.collection Collection.users.identifier).document user).collection
    Collection.orderHistory.identifier

/-- A new order gets an id that is not in use, and an order that is updated exists. -/
def FreshOrExisting (s : OrdersState) : OrderAction → Prop
  | .createOrder _ generated => ∀ user ∈ s.currentUser,
      s.database.lookup ((orderHistoryOf user).document generated) = none
  | .updateOrder orderId _ => ∃ user ∈ s.currentUser,
      (s.database.lookup ((orderHistoryOf user).document orderId)).isSome = true
  | .signIn _ | .signOut => True

instance (s : OrdersState) (action : OrderAction) : Decidable (FreshOrExisting s action) :=
  match action with
  | .createOrder _ generated => inferInstanceAs (Decidable (∀ user ∈ s.currentUser,
      s.database.lookup ((orderHistoryOf user).document generated) = none))
  | .updateOrder orderId _ => inferInstanceAs (Decidable (∃ user ∈ s.currentUser,
      (s.database.lookup ((orderHistoryOf user).document orderId)).isSome = true))
  | .signIn _ | .signOut => inferInstanceAs (Decidable True)

/-! ### The reference -/

/-- An order of a user, with the latest food written for it. -/
structure Order where
  owner : String
  orderId : String
  food : Food
  deriving DecidableEq, Repr

/-- The order with new food if it is the order `orderId` of `user`. -/
def Order.replaceFood (user orderId : String) (food : Food) (order : Order) : Order :=
  if order.owner = user ∧ order.orderId = orderId then { order with food } else order

/-- Who is signed in, and all orders so far. -/
structure OrderBook where
  currentUser : Option String := none
  orders : List Order := []
  deriving DecidableEq, Repr

/-- What an action means: an order belongs to the user who creates it, and an update replaces
    the food of one order of the current user. -/
def OrderBook.record (book : OrderBook) : OrderAction → OrderBook
  | .signIn user => { book with currentUser := some user }
  | .signOut => { book with currentUser := none }
  | .createOrder food generated =>
    match book.currentUser with
    | some user => { book with orders := book.orders ++ [⟨user, generated, food⟩] }
    | none => book
  | .updateOrder orderId food =>
    match book.currentUser with
    | some user => { book with orders := book.orders.map (Order.replaceFood user orderId food) }
    | none => book

/-- The orders of one user. -/
def OrderBook.ordersOf (book : OrderBook) (user : String) : List Order :=
  book.orders.filter fun order => decide (order.owner = user)

/-- The row of a food in the history. -/
def Food.historyRow (food : Food) : HistoryDetail Image :=
  { name := food.name, itemNumber := food.items, image := A.named food.image, amount := food.price }

/-! ### Encode, route and decode -/

/-- Where an order is stored. -/
def Order.reference (order : Order) : DocumentReference :=
  (orderHistoryOf order.owner).document order.orderId

theorem orderReference_injective {user user' id id' : String}
    (h : (orderHistoryOf user).document id = (orderHistoryOf user').document id') :
    user = user' ∧ id = id' := by
  simp only [CollectionReference.document, orderHistoryOf, DocumentReference.collection,
    Firestore.collection, DocumentReference.mk.injEq, CollectionReference.mk.injEq,
    List.cons_append, List.nil_append, List.cons.injEq, true_and] at h
  exact ⟨h.1.1, h.2⟩

/-- An update keeps every order where it is stored. -/
theorem Order.reference_replaceFood (order : Order) (user orderId : String) (food : Food) :
    (order.replaceFood user orderId food).reference = order.reference := by
  unfold Order.replaceFood
  split <;> rfl

/-- The order that is updated has the new food. -/
theorem mem_replaceFood_same {user id : String} {food food' : Food} {orders : List Order} :
    ⟨user, id, food'⟩ ∈ orders.map (Order.replaceFood user id food) ↔
      food' = food ∧ ∃ old, ⟨user, id, old⟩ ∈ orders := by
  rw [List.mem_map]
  constructor
  · rintro ⟨⟨owner, orderId, old⟩, hmem, heq⟩
    unfold Order.replaceFood at heq
    split at heq
    next hsame =>
      obtain ⟨rfl, rfl⟩ : owner = user ∧ orderId = id := hsame
      cases heq
      exact ⟨rfl, old, hmem⟩
    next hother =>
      -- Another order is not the one that is looked for.
      cases heq
      exact absurd ⟨rfl, rfl⟩ hother
  · rintro ⟨rfl, old, hmem⟩
    exact ⟨_, hmem, by simp [Order.replaceFood]⟩

/-- Every other order is what it was. -/
theorem mem_replaceFood_other {user id user' id' : String} {food food' : Food}
    {orders : List Order} (hother : ¬(user' = user ∧ id' = id)) :
    ⟨user', id', food'⟩ ∈ orders.map (Order.replaceFood user id food) ↔
      ⟨user', id', food'⟩ ∈ orders := by
  rw [List.mem_map]
  constructor
  · rintro ⟨⟨owner, orderId, old⟩, hmem, heq⟩
    unfold Order.replaceFood at heq
    split at heq
    next hsame =>
      cases heq
      exact absurd hsame hother
    next => rwa [heq] at hmem
  · exact fun hmem => ⟨_, hmem, by simp [Order.replaceFood, hother]⟩

/-- Different foods are encoded differently. -/
theorem asParameter_injective {food food' : Food} (h : food.asParameter = food'.asParameter) :
    food = food' := by
  cases food
  cases food'
  simp [Food.asParameter] at h
  simp [h]

/-- What is encoded for an order decodes to its row. -/
theorem historyDetail_asParameter (food : Food) (documentID : String) :
    historyDetail A ⟨documentID, food.asParameter⟩ = some (food.historyRow A) := by
  rfl

/-- The history of a user is read from where the orders of that user are stored. -/
theorem request_history (user generated : String) :
    Router.request (OrderAPI.getFoodOrderHistory.request (some user) generated)
      = some (.addSnapshotListener (.collection (orderHistoryOf user))) := rfl

/-- A created order is stored in the history of the current user. -/
theorem step_createOrder (database : Database) (user : String) (food : Food)
    (generated : String) : OrdersState.step { database, currentUser := some user }
        (.createOrder food generated)
      = some { database := database.insert ((orderHistoryOf user).document generated)
                 food.asParameter
               currentUser := some user } := rfl

/-- Without a user nothing is stored. -/
theorem step_createOrder_signedOut (database : Database) (food : Food) (generated : String) :
    OrdersState.step { database } (.createOrder food generated) = some { database } := rfl

/-- An updated order is replaced in the history of the current user. -/
theorem step_updateOrder (database : Database) (user orderId : String) (food : Food) :
    OrdersState.step { database, currentUser := some user } (.updateOrder orderId food)
      = some { database := database.insert ((orderHistoryOf user).document orderId)
                 food.asParameter
               currentUser := some user } := rfl

/-! ### One action -/

/-- The database holds exactly the orders of the book, each under its owner and id. -/
structure Keeps (book : OrderBook) (s : OrdersState) : Prop where
  currentUser : s.currentUser = book.currentUser
  nodup : (book.orders.map Order.reference).Nodup
  stored : ∀ user id data, s.database.lookup ((orderHistoryOf user).document id) = some data ↔
    ∃ food : Food, ⟨user, id, food⟩ ∈ book.orders ∧ food.asParameter = data

/-- The order under a reference is stored with its food, and nothing else is. -/
theorem Keeps.mem_iff {book : OrderBook} {s : OrdersState} (h : Keeps book s) {user id : String}
    {food : Food} : (⟨user, id, food⟩ : Order) ∈ book.orders ↔
      s.database.lookup ((orderHistoryOf user).document id) = some food.asParameter := by
  rw [h.stored]
  constructor
  · exact fun hmem => ⟨food, hmem, rfl⟩
  · rintro ⟨food', hmem, heq⟩
    rwa [← asParameter_injective heq]

/-- A reference that is not in use is that of no order. -/
theorem Keeps.not_mem_of_fresh {book : OrderBook} {s : OrdersState} (h : Keeps book s)
    {user id : String} (hfresh : s.database.lookup ((orderHistoryOf user).document id) = none) :
    (orderHistoryOf user).document id ∉ book.orders.map Order.reference := by
  intro hreference
  obtain ⟨⟨user', id', food⟩, hmem, heq⟩ := List.mem_map.mp hreference
  obtain ⟨rfl, rfl⟩ := orderReference_injective heq
  have hlookup := h.mem_iff.mp hmem
  rw [hfresh] at hlookup
  cases hlookup

/-- **Creating.**  A new order under an id that is not in use. -/
theorem Keeps.create {book : OrderBook} {database : Database} {user : String}
    (h : Keeps book { database, currentUser := some user }) {generated : String}
    (hfresh : database.lookup ((orderHistoryOf user).document generated) = none) (food : Food) :
    Keeps { book with orders := book.orders ++ [⟨user, generated, food⟩] }
      { database := database.insert ((orderHistoryOf user).document generated) food.asParameter
        currentUser := some user } := by
  have hnew := h.not_mem_of_fresh hfresh
  refine ⟨h.currentUser, ?_, fun user' id data => ?_⟩
  · rw [List.map_append, List.map_singleton, ← List.concat_eq_append]
    exact h.nodup.concat hnew
  · by_cases hkey : (orderHistoryOf user').document id = (orderHistoryOf user).document generated
    · -- the new order itself, which no order of the book was stored under
      obtain ⟨rfl, rfl⟩ := orderReference_injective hkey
      rw [AList.lookup_insert]
      constructor
      · intro hdata
        exact ⟨food, by simp, Option.some.inj hdata⟩
      · rintro ⟨food', hmem, rfl⟩
        rcases List.mem_append.mp hmem with hold | hlast
        · exact absurd (List.mem_map_of_mem hold) hnew
        · cases List.mem_singleton.mp hlast
          rfl
    · -- Under any other reference nothing has changed.
      have hother : ∀ food', (⟨user', id, food'⟩ : Order) ≠ ⟨user, generated, food⟩ := by
        rintro food' heq
        cases heq
        exact hkey rfl
      rw [AList.lookup_insert_ne hkey, h.stored]
      simp [hother]

/-- **Updating.**  The food of an order that exists. -/
theorem Keeps.update {book : OrderBook} {database : Database} {user orderId : String}
    (h : Keeps book { database, currentUser := some user })
    (hexists : (database.lookup ((orderHistoryOf user).document orderId)).isSome = true)
    (food : Food) :
    Keeps { book with orders := book.orders.map (Order.replaceFood user orderId food) }
      { database := database.insert ((orderHistoryOf user).document orderId) food.asParameter
        currentUser := some user } := by
  refine ⟨h.currentUser, ?_, fun user' id data => ?_⟩
  · rw [List.map_map]
    have hreferences : Order.reference ∘ Order.replaceFood user orderId food = Order.reference :=
      funext fun order => order.reference_replaceFood user orderId food
    rw [hreferences]
    exact h.nodup
  · by_cases hkey : (orderHistoryOf user').document id = (orderHistoryOf user).document orderId
    · obtain ⟨rfl, rfl⟩ := orderReference_injective hkey
      obtain ⟨data', hdata'⟩ := Option.isSome_iff_exists.mp hexists
      -- The order that is updated is in the book, and now has the new food.
      obtain ⟨food', hmem, -⟩ := (h.stored _ _ _).mp hdata'
      rw [AList.lookup_insert]
      constructor
      · intro hdata
        exact ⟨food, mem_replaceFood_same.mpr ⟨rfl, food', hmem⟩, Option.some.inj hdata⟩
      · rintro ⟨food'', hmem'', rfl⟩
        rw [(mem_replaceFood_same.mp hmem'').1]
    · have hother : ¬(user' = user ∧ id = orderId) := by
        rintro ⟨rfl, rfl⟩
        exact hkey rfl
      simp only [AList.lookup_insert_ne hkey, h.stored, mem_replaceFood_other hother]

/-! ### Runs -/

/-- **One action.**  The app does what the action means to the orders. -/
theorem keeps_step (book : OrderBook) (s : OrdersState) (action : OrderAction)
    (h : Keeps book s) (hallowed : FreshOrExisting s action) :
    ∃ t, s.step action = some t ∧ Keeps (book.record action) t := by
  obtain ⟨database, currentUser⟩ := s
  obtain ⟨bookUser, orders⟩ := book
  obtain rfl : currentUser = bookUser := h.currentUser
  cases action with
  | signIn user => exact ⟨_, rfl, rfl, h.nodup, h.stored⟩
  | signOut => exact ⟨_, rfl, rfl, h.nodup, h.stored⟩
  | createOrder food generated =>
    -- Without a user the router drops the request, and the book records nothing.
    cases currentUser with
    | none => exact ⟨_, step_createOrder_signedOut database food generated, h⟩
    | some user =>
      exact ⟨_, step_createOrder database user food generated, h.create (hallowed user rfl) food⟩
  | updateOrder orderId food =>
    obtain ⟨user, huser, hexists⟩ := hallowed
    obtain rfl : currentUser = some user := huser
    exact ⟨_, step_updateOrder database user orderId food, h.update hexists food⟩

/-- The documents of a history are the orders of the user, up to order. -/
theorem Keeps.documentsIn_perm {book : OrderBook} {s : OrdersState} (h : Keeps book s)
    (user : String) : (documentsIn (orderHistoryOf user) s.database).Perm
      ((book.ordersOf user).map fun order => ⟨order.orderId, order.food.asParameter⟩) := by
  apply Foodly.documentsIn_perm
  · have hids : ((book.ordersOf user).map Order.reference).Nodup :=
      h.nodup.sublist (List.filter_sublist.map Order.reference)
    -- Within one history the id alone tells the orders apart.
    have hreferences : (book.ordersOf user).map Order.reference
        = ((book.ordersOf user).map (·.orderId)).map (orderHistoryOf user).document := by
      rw [List.map_map]
      apply List.map_congr_left
      intro order hmem
      obtain rfl : order.owner = user := of_decide_eq_true (List.mem_filter.mp hmem).2
      rfl
    rw [hreferences] at hids
    rw [List.map_map]
    exact hids.of_map
  · intro id data
    rw [h.stored, List.mem_map]
    constructor
    · rintro ⟨⟨owner, orderId, food⟩, hmem, heq⟩
      obtain ⟨horder, howner⟩ := List.mem_filter.mp hmem
      obtain rfl : owner = user := of_decide_eq_true howner
      cases heq
      exact ⟨food, horder, rfl⟩
    · rintro ⟨food, hmem, rfl⟩
      exact ⟨⟨user, id, food⟩, List.mem_filter.mpr ⟨hmem, decide_eq_true rfl⟩, rfl⟩

/-- **The history shows the orders.**  From a database without orders, whatever the users do, a
    read made as any user gives one row for each order created while that user was signed in,
    with the latest food written for it. -/
theorem history_shows_orders (database : Database)
    (hempty : ∀ user id, database.lookup ((orderHistoryOf user).document id) = none)
    (actions : List OrderAction)
    (hactions : Allowed OrdersState.step FreshOrExisting { database } actions) :
    ∃ t, run OrdersState.step { database } actions = some t ∧ ∀ user generated, ∃ c,
      Router.request (OrderAPI.getFoodOrderHistory.request (some user) generated)
        = some (.addSnapshotListener (.collection c)) ∧
      ∀ documents : QuerySnapshot, documents.Perm (documentsIn c t.database) →
        (((OrderHistoryModel.received A {}
            (Router.complete (.snapshot documents))).drain).orders).Perm
          (((actions.foldl OrderBook.record {}).ordersOf user).map (·.food.historyRow A)) := by
  have hstart : Keeps {} { database } := by
    refine ⟨rfl, List.nodup_nil, fun user id data => ?_⟩
    simp [hempty]
  obtain ⟨t, ht, hkeeps⟩ := run_simulates keeps_step hstart hactions
  refine ⟨t, ht, fun user generated =>
    ⟨orderHistoryOf user, request_history user generated, fun documents hread => ?_⟩⟩
  have hrows : (historyDetail A ∘ fun order : Order => ⟨order.orderId, order.food.asParameter⟩)
      = some ∘ fun order => order.food.historyRow A :=
    funext fun order => historyDetail_asParameter A order.food order.orderId
  -- The documents are the orders of the user in some order, and each decodes to its row.
  have horders := (hread.trans (hkeeps.documentsIn_perm user)).filterMap (historyDetail A)
  rw [List.filterMap_map, hrows, List.filterMap_eq_map] at horders
  rw [Router.complete_snapshot, OrderHistoryModel.orders_drain_received]
  exact horders

/-- Two users who order under the same id, one of whom changes the order. -/
theorem history_shows_orders_two_users :
    let rice : Food := { name := "Jollof rice", price := "500", items := "2 items" }
    let soup : Food := { name := "Soup", price := "300", items := "1 items" }
    let actions : List OrderAction :=
      [.signIn "ada", .createOrder rice "o1", .signOut, .createOrder soup "o2", .signIn "bola",
        .createOrder soup "o1", .updateOrder "o1" rice]
    ∃ t, run OrdersState.step { database := ∅ } actions = some t ∧ ∀ user generated, ∃ c,
      Router.request (OrderAPI.getFoodOrderHistory.request (some user) generated)
        = some (.addSnapshotListener (.collection c)) ∧
      ∀ documents : QuerySnapshot, documents.Perm (documentsIn c t.database) →
        (((OrderHistoryModel.received allAssets {}
            (Router.complete (.snapshot documents))).drain).orders).Perm
          (((actions.foldl OrderBook.record {}).ordersOf user).map
            (·.food.historyRow allAssets)) :=
  history_shows_orders allAssets ∅ (fun _ _ => AList.lookup_empty _) _ (by decide +kernel)

end Foodly
