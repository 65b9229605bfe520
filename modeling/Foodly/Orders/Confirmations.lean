import Foodly.Cart.Discount
import Foodly.Cart.Deletion
import Foodly.Lib.InFlight
import Foodly.Orders.Orders

namespace Foodly

open Swift Decimal Runs InFlight

/-!
# Confirming an order

`continueButtonPressed` sends the order and pushes the Confirmation screen in the same call: it
does not wait for the answer, whose completion only prints, and it asks neither for rows nor for
a user.

* `ConfirmingState` — the cart screen, who is signed in, the stored documents with the writes in
  flight, and the confirmations so far;
* `continueTapped`, `ConfirmingState.step` — the tap, the answers in any order, sign-ins and
  sign-outs, and what is done in the cart;
* `Confirmation.Backed` — the confirmation is for a cart with rows, whose order is kept for the
  user;
* `StoredLaw` — every confirmation has its order in the history of the user;
* `SentLaw` — every confirmation has its order there or on its way;
* `Confirms` — the condition on an event: every cart that is continued has a user and all of its
  rows, and no order is refused;
* `sentLaw_continueTapped`, `sentLaw_answered` — the two steps that can break the law;
* `confirmations_iff` — in which runs the laws hold: the first only when nothing is ever confirmed,
  the second exactly under the condition.
-/

variable {Image : Type} (R : Nearest)

/-! ### The screen, the user and the writes -/

/-- A Confirmation screen that was pushed: who was signed in, the id made up for the order, and
    the cart it was pushed for. -/
structure Confirmation (Image : Type) where
  user : Option String
  generated : String
  cart : CartsViewController Image

/-- The cart screen, who is signed in, the stored documents and the writes in flight, and the
    confirmations so far. -/
structure ConfirmingState (Image : Type) where
  screen : CartsViewController Image
  currentUser : Option String
  outbox : Outbox DocumentReference Parameter
  shown : List (Confirmation Image) := []

/-- What happens while the cart is open; an answer is to one of the writes in flight. -/
inductive ConfirmingEvent
  | cart (action : CartAction)
  | signIn (user : String)
  | signOut
  | continueTapped (generated : String)
  | answered (index : ℕ) (error : Option FirestoreError)
  deriving DecidableEq, Repr

/-- The write that `OrderService.createOrder` leads to, `none` when the call is dropped. -/
def OrderService.createOrder (currentUser : Option String) (generated : String) (food : Food) :
    Option (DocumentReference × Parameter) :=
  (Router.request ((OrderAPI.createFoodOrder food).request currentUser generated)).bind
    (·.write generated)

namespace ConfirmingState

/-- `continueButtonPressed(_:)`: the order is given to `createOrder`, and the Confirmation screen
    is pushed whatever becomes of it. -/
def continueTapped (s : ConfirmingState Image) (generated : String) : ConfirmingState Image :=
  let outbox :=
    match OrderService.createOrder s.currentUser generated s.screen.continueButtonPressed with
    | some write => s.outbox.send write
    | none => s.outbox
  { s with outbox, shown := s.shown ++ [⟨s.currentUser, generated, s.screen⟩] }

def step (s : ConfirmingState Image) : ConfirmingEvent → Option (ConfirmingState Image)
  | .cart action => do
    let screen ← s.screen.step R action
    return { s with screen }
  | .signIn user => some { s with currentUser := some user }
  | .signOut => some { s with currentUser := none }
  | .continueTapped generated => some (s.continueTapped generated)
  | .answered index error => do
    -- The completion of `createOrder` only prints.
    let outbox ← s.outbox.answer index error.isNone
    return { s with outbox }

end ConfirmingState

/-- The id of a new order is not in use. -/
def FreshOrder (s : ConfirmingState Image) : ConfirmingEvent → Prop
  | .continueTapped generated => ∀ user ∈ s.currentUser,
      s.outbox.Unused ((orderHistoryOf user).document generated)
  | .cart _ | .signIn _ | .signOut | .answered _ _ => True

/-! ### The laws -/

/-- An order with the price and the number of rows of the cart. -/
structure OrderOf (cart : CartsViewController Image) (food : Food) : Prop where
  price : food.price = "$" ++ format2f R
    (cart.itemsSum - cart.totalDiscount + taxOn R cart.itemsSum)
  items : food.items = "x " ++ toString cart.viewModel.cartItems.length ++ " items"

/-- The confirmation is for a cart with rows, whose order `kept` has for the user. -/
def Confirmation.Backed (kept : DocumentReference → Parameter → Prop) (c : Confirmation Image) :
    Prop :=
  c.cart.viewModel.cartItems ≠ [] ∧ ∃ user food, c.user = some user ∧ OrderOf R c.cart food ∧
    kept ((orderHistoryOf user).document c.generated) food.asParameter

/-- Every confirmation has its order stored. -/
def StoredLaw (s : ConfirmingState Image) : Prop :=
  ∀ c ∈ s.shown, c.Backed R fun document data => s.outbox.stored.lookup document = some data

/-- Every confirmation has its order stored, or on its way. -/
def SentLaw (s : ConfirmingState Image) : Prop := ∀ c ∈ s.shown, c.Backed R s.outbox.Kept

/-- A Continue tap is made by a user, on a cart that has rows and displays all that its arrays
    hold; and no write is answered with an error. -/
def Confirms (s : ConfirmingState Image) : ConfirmingEvent → Prop
  | .continueTapped _ => s.currentUser.isSome = true ∧ s.screen.viewModel.cartItems ≠ [] ∧
      s.screen.viewModel.cartItems.length = s.screen.viewModel.cartNumber.length
  | .answered _ error => error = none
  | .cart _ | .signIn _ | .signOut => True

/-! ### What a step does -/

/-- The screen shows the lines it holds unless a row was deleted; and every write in flight is
    the order of a confirmation. -/
structure OrdersInFlight (s : ConfirmingState Image) : Prop where
  screen : s.screen.ShowsUnlessDeleted R
  wellFormed : s.outbox.WellFormed
  confirmed : ∀ write ∈ s.outbox.inFlight, ∃ c ∈ s.shown, ∃ user ∈ c.user,
    write.1 = (orderHistoryOf user).document c.generated

/-- The order of a user is written into the history of that user; without a user there is no
    write. -/
theorem createOrder_eq (currentUser : Option String) (generated : String) (food : Food) :
    OrderService.createOrder currentUser generated food
      = currentUser.map fun user =>
          ((orderHistoryOf user).document generated, food.asParameter) := by
  cases currentUser <;> rfl

variable {R}

/-- What backs a confirmation in one store backs it in every store that keeps as much. -/
theorem Confirmation.Backed.imp {kept kept' : DocumentReference → Parameter → Prop}
    {c : Confirmation Image} (h : c.Backed R kept)
    (himp : ∀ document data, kept document data → kept' document data) : c.Backed R kept' := by
  obtain ⟨hrows, user, food, huser, horder, hkept⟩ := h
  exact ⟨hrows, user, food, huser, horder, himp _ _ hkept⟩

/-- The order that is sent is the order of the cart, when no row is missing. -/
theorem orderOf_continueButtonPressed {s : CartsViewController Image}
    (h : s.ShowsUnlessDeleted R)
    (hrows : s.viewModel.cartItems.length = s.viewModel.cartNumber.length) :
    OrderOf R s s.continueButtonPressed := by
  obtain ⟨lines, hshows⟩ := h.shows hrows
  refine ⟨?_, (orderCount_iff s _).mpr hrows.symm⟩
  rw [hshows.itemsSum]
  exact congrArg (·.finalAmt) hshows.eq_display

/-- A tap of a user sends the order. -/
theorem ConfirmingState.continueTapped_of_user {s : ConfirmingState Image} {user : String}
    (huser : s.currentUser = some user) (generated : String) :
    s.continueTapped generated =
      { s with
        outbox := s.outbox.send ((orderHistoryOf user).document generated,
          s.screen.continueButtonPressed.asParameter)
        shown := s.shown ++ [⟨some user, generated, s.screen⟩] } := by
  rw [continueTapped, createOrder_eq, huser]
  rfl

/-- Without a user the confirmation is shown and nothing is sent. -/
theorem ConfirmingState.continueTapped_of_none {s : ConfirmingState Image}
    (huser : s.currentUser = none) (generated : String) :
    s.continueTapped generated
      = { s with shown := s.shown ++ [⟨none, generated, s.screen⟩] } := by
  rw [continueTapped, createOrder_eq, huser]
  rfl

/-- **Continue.**  After the tap every confirmation is backed exactly when the tap was made by a
    user on a cart with rows, none of them missing. -/
theorem sentLaw_continueTapped {s : ConfirmingState Image} (hinv : OrdersInFlight R s)
    (hlaw : SentLaw R s) {generated : String}
    (hfresh : FreshOrder s (.continueTapped generated)) :
    SentLaw R (s.continueTapped generated) ↔ Confirms s (.continueTapped generated) := by
  unfold Confirms
  -- Without a user the confirmation is shown and `createOrder` is dropped by the router.
  cases huser : s.currentUser with
  | none =>
    refine iff_of_false (fun h => ?_) (by simp)
    rw [ConfirmingState.continueTapped_of_none huser] at h
    obtain ⟨-, user, food, hnone, -, -⟩ :=
      h ⟨none, generated, s.screen⟩ (List.mem_append_right _ (List.mem_singleton_self _))
    cases hnone
  | some user =>
    rw [ConfirmingState.continueTapped_of_user huser]
    constructor
    · intro h
      obtain ⟨hrows, user', food, huser', horder, hkept⟩ :=
        h ⟨some user, generated, s.screen⟩ (List.mem_append_right _ (List.mem_singleton_self _))
      obtain rfl : user = user' := Option.some.inj huser'
      rcases (Outbox.kept_send _ _ _ _).mp hkept with hbefore | hsent
      · exact absurd hbefore ((hfresh user huser).not_kept _)
      · -- What is kept is the order that was just sent, which counts the arrays.
        obtain rfl := asParameter_injective (Prod.mk.inj hsent).2
        exact ⟨rfl, hrows, ((orderCount_iff _ _).mp horder.items).symm⟩
    · rintro ⟨-, hrows, hlength⟩ c hc
      rcases List.mem_append.mp hc with hc | hc
      · exact (hlaw c hc).imp fun _ _ hkept => (Outbox.kept_send _ _ _ _).mpr (Or.inl hkept)
      · obtain rfl := List.mem_singleton.mp hc
        exact ⟨hrows, user, s.screen.continueButtonPressed, rfl,
          orderOf_continueButtonPressed hinv.screen hlength,
          (Outbox.kept_send _ _ _ _).mpr (Or.inr rfl)⟩

/-- **Answers.**  Every confirmation stays backed exactly when the write is accepted. -/
theorem sentLaw_answered {s t : ConfirmingState Image} (hinv : OrdersInFlight R s)
    (hlaw : SentLaw R s) {index : ℕ} {error : Option FirestoreError}
    (ht : s.step R (.answered index error) = some t) : SentLaw R t ↔ error = none := by
  obtain ⟨outbox, hanswer, hrest⟩ := Option.bind_eq_some_iff.mp ht
  obtain rfl : _ = t := Option.some.inj hrest
  cases error with
  | none =>
    refine iff_of_true (fun c hc => ?_) rfl
    exact (hlaw c hc).imp fun _ _ => Outbox.kept_accepted hinv.wellFormed hanswer
  | some error =>
    refine iff_of_false (fun h => ?_) (Option.some_ne_none error)
    obtain ⟨write, hwrite, -⟩ := Option.bind_eq_some_iff.mp hanswer
    -- The rejected write was the order of a confirmation, and nothing is left of it.
    obtain ⟨c, hc, user, huser, hkey⟩ := hinv.confirmed write (List.mem_of_getElem? hwrite)
    obtain ⟨-, user', food, huser', -, hkept⟩ := h c hc
    obtain rfl : user = user' := Option.some.inj (huser.symm.trans huser')
    rw [← hkey] at hkept
    exact Outbox.not_kept_rejected hinv.wellFormed hwrite hanswer _ hkept

/-- Every step keeps the invariant. -/
theorem OrdersInFlight.step {s t : ConfirmingState Image} (hinv : OrdersInFlight R s)
    {event : ConfirmingEvent} (hfresh : FreshOrder s event) (ht : s.step R event = some t) :
    OrdersInFlight R t := by
  cases event with
  | cart action =>
    obtain ⟨screen, hscreen, hrest⟩ := Option.bind_eq_some_iff.mp ht
    obtain rfl : _ = t := Option.some.inj hrest
    exact ⟨hinv.screen.step hscreen, hinv.wellFormed, hinv.confirmed⟩
  | signIn user =>
    obtain rfl : _ = t := Option.some.inj ht
    exact ⟨hinv.screen, hinv.wellFormed, hinv.confirmed⟩
  | signOut =>
    obtain rfl : _ = t := Option.some.inj ht
    exact ⟨hinv.screen, hinv.wellFormed, hinv.confirmed⟩
  | continueTapped generated =>
    obtain rfl : _ = t := Option.some.inj ht
    cases huser : s.currentUser with
    | none =>
      rw [ConfirmingState.continueTapped_of_none huser]
      refine ⟨hinv.screen, hinv.wellFormed, fun write hwrite => ?_⟩
      obtain ⟨c, hc, hkey⟩ := hinv.confirmed write hwrite
      exact ⟨c, List.mem_append_left _ hc, hkey⟩
    | some user =>
      rw [ConfirmingState.continueTapped_of_user huser]
      refine ⟨hinv.screen, hinv.wellFormed.send (hfresh user huser), fun write hwrite => ?_⟩
      rcases List.mem_append.mp hwrite with hwrite | hwrite
      · obtain ⟨c, hc, hkey⟩ := hinv.confirmed write hwrite
        exact ⟨c, List.mem_append_left _ hc, hkey⟩
      · obtain rfl := List.mem_singleton.mp hwrite
        exact ⟨_, List.mem_append_right _ (List.mem_singleton_self _), user, rfl, rfl⟩
  | answered index error =>
    obtain ⟨outbox, hanswer, hrest⟩ := Option.bind_eq_some_iff.mp ht
    obtain rfl : _ = t := Option.some.inj hrest
    refine ⟨hinv.screen, hinv.wellFormed.answer hanswer, fun write hwrite => ?_⟩
    exact hinv.confirmed write (Outbox.mem_of_mem_answer hanswer hwrite)

/-! ### Runs -/

/-- The steps after which every confirmation is backed. -/
theorem sentLaw_step {s t : ConfirmingState Image} (hinv : OrdersInFlight R s) (hlaw : SentLaw R s)
    {event : ConfirmingEvent} (hfresh : FreshOrder s event) (ht : s.step R event = some t) :
    SentLaw R t ↔ Confirms s event := by
  -- What is done in the cart or to the session changes neither the orders nor the confirmations.
  cases event with
  | cart action =>
    obtain ⟨screen, -, hrest⟩ := Option.bind_eq_some_iff.mp ht
    obtain rfl : _ = t := Option.some.inj hrest
    exact iff_of_true hlaw trivial
  | signIn user =>
    obtain rfl : _ = t := Option.some.inj ht
    exact iff_of_true hlaw trivial
  | signOut =>
    obtain rfl : _ = t := Option.some.inj ht
    exact iff_of_true hlaw trivial
  | continueTapped generated =>
    obtain rfl : _ = t := Option.some.inj ht
    exact sentLaw_continueTapped hinv hlaw hfresh
  | answered index error => exact sentLaw_answered hinv hlaw ht

/-- Only a Continue tap shows a confirmation. -/
theorem shown_eq_of_step {s t : ConfirmingState Image} {event : ConfirmingEvent}
    (hevent : ∀ generated, event ≠ .continueTapped generated) (ht : s.step R event = some t) :
    t.shown = s.shown := by
  cases event with
  | cart action =>
    obtain ⟨screen, -, hrest⟩ := Option.bind_eq_some_iff.mp ht
    obtain rfl : _ = t := Option.some.inj hrest
    rfl
  | signIn user =>
    obtain rfl : _ = t := Option.some.inj ht
    rfl
  | signOut =>
    obtain rfl : _ = t := Option.some.inj ht
    rfl
  | continueTapped generated => exact absurd rfl (hevent generated)
  | answered index error =>
    obtain ⟨outbox, -, hrest⟩ := Option.bind_eq_some_iff.mp ht
    obtain rfl : _ = t := Option.some.inj hrest
    rfl

/-- A Continue tap shows the confirmation before the order is stored. -/
theorem not_storedLaw_continueTapped {s : ConfirmingState Image} {generated : String}
    (hfresh : FreshOrder s (.continueTapped generated)) :
    ¬ StoredLaw R (s.continueTapped generated) := by
  intro h
  have hstored : (s.continueTapped generated).outbox.stored = s.outbox.stored := by
    rw [ConfirmingState.continueTapped]
    cases OrderService.createOrder s.currentUser generated s.screen.continueButtonPressed <;> rfl
  obtain ⟨-, user, food, huser, -, hkept⟩ := h ⟨s.currentUser, generated, s.screen⟩
    (List.mem_append_right _ (List.mem_singleton_self _))
  rw [hstored, (hfresh user huser).1] at hkept
  cases hkept

/-- While nothing is confirmed, only a Continue tap breaks the law of stored orders. -/
theorem storedLaw_step {s t : ConfirmingState Image} (hnone : s.shown = [])
    {event : ConfirmingEvent} (hfresh : FreshOrder s event) (ht : s.step R event = some t) :
    StoredLaw R t ↔ ∀ generated, event ≠ .continueTapped generated := by
  constructor
  · rintro hlaw generated rfl
    obtain rfl : _ = t := Option.some.inj ht
    exact not_storedLaw_continueTapped hfresh hlaw
  · intro hevent c hc
    rw [shown_eq_of_step hevent ht, hnone] at hc
    cases hc

variable (R)

/-- **Confirmations.**  On an opened cart with no writes in flight, every confirmation has its
    order stored when it is shown exactly when the run confirms nothing; and every confirmation
    has its order stored or on its way, throughout the run, exactly when every Continue tap is
    made by a user on a cart with rows, none of them missing, and no write is answered with an
    error. -/
theorem confirmations_iff {titles : List String} {prices : List ℚ} {images : List Image}
    {numbers : List String} (hp : prices.length = titles.length)
    (hi : images.length = titles.length) (hn : numbers.length = titles.length)
    (hone : ∀ number ∈ numbers, number = "1") (restName restDiscountValue : String)
    (currentUser : Option String) (database : Database) :
    ∃ screen, (CartsViewController.handedOver titles prices images numbers restName
        restDiscountValue).viewDidLoad R = some screen ∧
      ∀ events : List ConfirmingEvent,
        Allowed (ConfirmingState.step R) FreshOrder
            { screen, currentUser, outbox := { stored := database } } events →
          (Always (ConfirmingState.step R) (StoredLaw R)
              { screen, currentUser, outbox := { stored := database } } events ↔
            Guarded (ConfirmingState.step R)
              (fun _ event => ∀ generated, event ≠ .continueTapped generated)
              { screen, currentUser, outbox := { stored := database } } events) ∧
          (Always (ConfirmingState.step R) (SentLaw R)
              { screen, currentUser, outbox := { stored := database } } events ↔
            Guarded (ConfirmingState.step R) Confirms
              { screen, currentUser, outbox := { stored := database } } events) := by
  obtain rfl : numbers = List.replicate titles.length "1" :=
    List.eq_replicate_iff.mpr ⟨hn, hone⟩
  obtain ⟨screen, hscreen, hshows, -, -⟩ :=
    viewDidLoad_handedOver R hp hi restName restDiscountValue
  refine ⟨screen, hscreen, fun events hfresh => ⟨?_, ?_⟩⟩
  · -- Stored orders: the law can only hold while nothing has been confirmed.
    exact always_iff_guarded (I := fun s => s.shown = [])
      (fun s event t hnone _ _ hevent ht => (shown_eq_of_step hevent ht).trans hnone)
      (fun s event t hnone _ hfresh ht => storedLaw_step hnone hfresh ht) rfl nofun hfresh
  · have hstart : OrdersInFlight R
        { screen, currentUser, outbox := { stored := database } } :=
      ⟨hshows.unlessDeleted, Outbox.wellFormed_of_inFlight_eq_nil database, nofun⟩
    exact always_iff_guarded (fun s event t hinv _ hfresh _ ht => hinv.step hfresh ht)
      (fun s event t hinv hlaw hfresh ht => sentLaw_step hinv hlaw hfresh ht) hstart nofun hfresh

/-- A meal is ordered, and the order is accepted. -/
theorem confirmations_iff_accepted : ∃ screen,
    (CartsViewController.handedOver ["Rice"] [10] [()] ["1"] "Mr Biggs" "50").viewDidLoad .halfEven
      = some screen ∧
    Always (ConfirmingState.step .halfEven) (SentLaw .halfEven)
      { screen, currentUser := some "ada", outbox := {} }
      [.continueTapped "o1", .answered 0 none] := by
  obtain ⟨screen, hscreen, hiff⟩ := @confirmations_iff Unit .halfEven ["Rice"] [10] [()] ["1"] rfl
    rfl rfl (by decide) "Mr Biggs" "50" (some "ada") ∅
  have hrows : ((CartsViewController.handedOver ["Rice"] [10] [()] ["1"] "Mr Biggs"
      "50").viewDidLoad .halfEven).map (fun s =>
        (s.viewModel.cartItems.length, s.viewModel.cartNumber.length)) = some (1, 1) := by
    decide +kernel
  rw [hscreen, Option.map_some, Option.some.injEq, Prod.mk.injEq] at hrows
  refine ⟨screen, hscreen, (hiff _ ?_).2.mpr ?_⟩
  · exact ⟨fun _ _ => ⟨AList.lookup_empty _, List.not_mem_nil⟩, fun _ _ => ⟨trivial, fun _ _ =>
      trivial⟩⟩
  · refine fun _ _ => ⟨⟨rfl, ?_, hrows.1.trans hrows.2.symm⟩, fun _ _ => ⟨rfl, trivial⟩⟩
    intro hnil
    rw [hnil] at hrows
    cases hrows.1

/-- An order that is stored is stored or on its way. -/
theorem StoredLaw.sentLaw {s : ConfirmingState Image} (h : StoredLaw R s) : SentLaw R s :=
  fun c hc => (h c hc).imp fun _ _ => Or.inl

/-- An order is rejected after it has been confirmed, and is neither stored nor on its way. -/
theorem rejected_order_confirmed :
    let events : List ConfirmingEvent :=
      [.continueTapped "o1", .answered 0 (some "permission denied")]
    ∃ screen : CartsViewController Unit,
      (CartsViewController.handedOver ["Rice"] [10] [()] ["1"] "Mr Biggs"
        "50").viewDidLoad .halfEven = some screen ∧
      Allowed (ConfirmingState.step .halfEven) FreshOrder
        { screen, currentUser := some "ada", outbox := {} } events ∧
      ¬Always (ConfirmingState.step .halfEven) (StoredLaw .halfEven)
        { screen, currentUser := some "ada", outbox := {} } events ∧
      ¬Always (ConfirmingState.step .halfEven) (SentLaw .halfEven)
        { screen, currentUser := some "ada", outbox := {} } events := by
  intro events
  obtain ⟨screen, hscreen, -⟩ := @viewDidLoad_handedOver Unit .halfEven ["Rice"] [10] [()] rfl rfl
    "Mr Biggs" "50"
  have hfresh : Allowed (ConfirmingState.step .halfEven) FreshOrder
      { screen, currentUser := some "ada", outbox := {} } events :=
    ⟨fun _ _ => ⟨AList.lookup_empty _, List.not_mem_nil⟩, fun _ _ => ⟨trivial, fun _ _ => trivial⟩⟩
  -- The refused order is neither stored nor in flight.
  have hsent : ¬Always (ConfirmingState.step .halfEven) (SentLaw .halfEven)
      { screen, currentUser := some "ada", outbox := {} } events := by
    intro h
    obtain ⟨-, user, food, -, -, hstored | hflight⟩ := h.last rfl ⟨some "ada", "o1", screen⟩
      (List.mem_singleton_self _)
    · cases hstored
    · cases hflight
  exact ⟨screen, hscreen, hfresh, fun h => hsent (h.imp fun _ => StoredLaw.sentLaw .halfEven),
    hsent⟩

end Foodly
