import Foodly.Orders.Snapshots

namespace Foodly

open Runs Batches

/-!
# The table of the order history

`OrderHistoryViewController` reloads its table from blocks on the main queue, behind the blocks in
which the model publishes its rows.  In between the table keeps the number of rows that it read
last, and asks for a cell of any of them when it is scrolled.  A second snapshot starts with one row
again, and while its rows are published one by one the table may ask for a row that is not there,
which traps.

* `HistoryBlock`, `OrderHistoryViewController` — the blocks of the model and of the screen on one
  queue, and the number of rows that the table displays;
* `HistoryTableEvent` — deliveries, blocks, and the table reading its rows on its own;
* `RowsThere` — the law: the table gets a cell for every row that it displays;
* `FirstRowFits` — the condition on a block: when it adds the first row of a snapshot, the table
  displays at most one;
* `ModelHandles` — whatever the screen does, its model is in a run of its own, so that what is known
  of the model's runs holds here;
* `rowsThere_row`, `rowsThere_step` — the block at the front, and one event;
* `rows_there_iff` — in which runs the rows are there throughout.
-/

variable {Image : Type} (A : Assets Image)

/-! ### The screen -/

/-- The labels of `OrderHistoryTableViewCell`. -/
structure OrderHistoryTableViewCell (Image : Type) where
  moneyLabel : String
  itemsLabel : String
  nameLabel : String
  restaurantImage : Option Image

/-- `configure(with:)`. -/
def OrderHistoryTableViewCell.configure (history : HistoryDetail Image) :
    OrderHistoryTableViewCell Image where
  moneyLabel := history.amount
  itemsLabel := history.itemNumber
  nameLabel := history.name
  restaurantImage := history.image

/-- A block on the main queue: the next one of the model, or a reload of the table. -/
inductive HistoryBlock
  | row
  | reloadData
  deriving DecidableEq, Repr

/-- `OrderHistoryViewController`: its model, the blocks on the main queue, and the number of rows
    that the table displays. -/
structure OrderHistoryViewController (Image : Type) where
  orderHistoryModel : OrderHistoryModel Image := {}
  mainQueue : List HistoryBlock := []
  displayed : ℕ := 0
  isRefreshing : Bool := false

/-- What happens on the screen; `layout` is the table reading its rows on its own. -/
inductive HistoryTableEvent
  | delivered (delivery : Delivery)
  | viewWillAppear
  | pullToRefresh
  | layout
  | mainQueue
  deriving DecidableEq, Repr

namespace OrderHistoryViewController

/-- `tableView(_:numberOfRowsInSection:)`. -/
def numberOfRowsInSection (s : OrderHistoryViewController Image) : ℕ :=
  s.orderHistoryModel.orders.length

/-- `tableView(_:cellForRowAt:)`. -/
def cellForRowAt (s : OrderHistoryViewController Image) (row : ℕ) :
    Option (OrderHistoryTableViewCell Image) :=
  s.orderHistoryModel.orders[row]?.map .configure

/-- `reloadData()`, as far as the number of rows goes. -/
def reloadData (s : OrderHistoryViewController Image) : OrderHistoryViewController Image :=
  { s with displayed := s.numberOfRowsInSection }

/-- `reloadOrderHistory()`. -/
def reloadOrderHistory (s : OrderHistoryViewController Image) : OrderHistoryViewController Image :=
  { s with mainQueue := s.mainQueue ++ [.reloadData], isRefreshing := false }

def step (s : OrderHistoryViewController Image) :
    HistoryTableEvent → Option (OrderHistoryViewController Image)
  | .delivered delivery =>
    let orderHistoryModel := s.orderHistoryModel.received A (Router.complete delivery)
    let dispatched := orderHistoryModel.mainQueue.length - s.orderHistoryModel.mainQueue.length
    some { s with
      orderHistoryModel
      mainQueue := s.mainQueue ++ List.replicate dispatched .row }
  | .viewWillAppear => some s.reloadOrderHistory
  | .pullToRefresh => some { s with isRefreshing := true }.reloadOrderHistory
  | .layout => some s.reloadData
  | .mainQueue =>
    match s.mainQueue with
    | [] => none
    | .row :: mainQueue => do
      let orderHistoryModel ← s.orderHistoryModel.step A .mainQueue
      return { s with orderHistoryModel, mainQueue }
    | .reloadData :: mainQueue => some { s with mainQueue }.reloadData

end OrderHistoryViewController

/-! ### The law and its condition -/

/-- The table gets a cell for every row that it displays. -/
def RowsThere (s : OrderHistoryViewController Image) : Prop :=
  ∀ row < s.displayed, (s.cellForRowAt row).isSome = true

/-- When the block at the front adds the first row of a snapshot, the table displays at most one
    row. -/
def FirstRowFits (s : OrderHistoryViewController Image) : HistoryTableEvent → Prop
  | .mainQueue => ∀ block ∈ s.orderHistoryModel.mainQueue.head?, s.mainQueue.head? = some .row →
      s.orderHistoryModel.histories[block.1]?.getD [] = [] → s.displayed ≤ 1
  | .delivered _ | .viewWillAppear | .pullToRefresh | .layout => True

/-! ### One event -/

/-- The rows are there exactly when the model has at least as many. -/
theorem rowsThere_iff (s : OrderHistoryViewController Image) :
    RowsThere s ↔ s.displayed ≤ s.orderHistoryModel.orders.length := by
  simp only [RowsThere, OrderHistoryViewController.cellForRowAt, Option.isSome_map,
    isSome_getElem?]
  constructor
  · intro h
    by_contra hlt
    exact lt_irrefl _ (h _ (not_le.mp hlt))
  · exact fun h row hrow => hrow.trans_le h

/-- The model has been through some run of its own. -/
def ModelHandles (s : OrderHistoryViewController Image) : Prop :=
  ∃ events, Handles A events s.orderHistoryModel

variable {A}

/-- What the screen does to its model: nothing, or one event of the model's own. -/
theorem OrderHistoryViewController.step_model {s t : OrderHistoryViewController Image}
    {event : HistoryTableEvent} (ht : s.step A event = some t) :
    t.orderHistoryModel = s.orderHistoryModel ∨ ∃ modelEvent,
      s.orderHistoryModel.step A modelEvent = some t.orderHistoryModel := by
  cases event with
  | delivered delivery =>
    obtain rfl : _ = t := Option.some.inj ht
    exact Or.inr ⟨.delivered delivery, rfl⟩
  | viewWillAppear | pullToRefresh | layout =>
    obtain rfl : _ = t := Option.some.inj ht
    exact Or.inl rfl
  | mainQueue =>
    rw [step] at ht
    -- The front of the queue is a block of the model, or a reload that leaves the model alone.
    split at ht
    · cases ht
    · obtain ⟨model, hmodel, ht⟩ := Option.bind_eq_some_iff.mp ht
      obtain rfl : _ = t := Option.some.inj ht
      exact Or.inr ⟨.mainQueue, hmodel⟩
    · obtain rfl : _ = t := Option.some.inj ht
      exact Or.inl rfl

theorem ModelHandles.step {s t : OrderHistoryViewController Image} {event : HistoryTableEvent}
    (h : ModelHandles A s) (ht : s.step A event = some t) : ModelHandles A t := by
  obtain ⟨events, h⟩ := h
  rcases OrderHistoryViewController.step_model ht with hsame | ⟨modelEvent, hmodel⟩
  · exact ⟨events, hsame ▸ h⟩
  · exact ⟨events ++ [modelEvent], h.step A hmodel⟩

/-- **The front block.**  When the model runs the block at the front of its queue, the rows stay
    there exactly when that is not the first of its snapshot, or at most one is displayed. -/
theorem rowsThere_row {s : OrderHistoryViewController Image} (h : ModelHandles A s)
    (hlaw : RowsThere s) {next : ℕ × HistoryDetail Image}
    {rest : List (ℕ × HistoryDetail Image)} (hnext : s.orderHistoryModel.mainQueue = next :: rest) :
    s.displayed ≤ (s.orderHistoryModel.runBlock next).orders.length ↔
      (s.orderHistoryModel.histories[next.1]?.getD [] = [] → s.displayed ≤ 1) := by
  rw [rowsThere_iff] at hlaw
  obtain ⟨events, handled, h⟩ := h
  have hpublished : (s.orderHistoryModel.runBlock next).orders.length
      = (s.orderHistoryModel.histories[next.1]?.getD []).length + 1 := by
    rw [OrderHistoryModel.runBlock, List.length_append, List.length_singleton]
  rw [hpublished]
  by_cases hfirst : s.orderHistoryModel.histories[next.1]?.getD [] = []
  · rw [hfirst]
    simp
  · -- The rows of the same snapshot are what is published.
    refine iff_of_true ?_ fun hempty => absurd hempty hfirst
    have hsplit := h.split
    rw [hnext] at hsplit
    rw [h.histories] at hfirst ⊢
    rw [h.orders, shown_of_next hsplit hfirst] at hlaw
    exact hlaw.trans (Nat.le_succ _)

/-- **One event.**  It leaves the rows there exactly when no first row of a snapshot is handled
    while more than one is displayed. -/
theorem rowsThere_step {s t : OrderHistoryViewController Image} {event : HistoryTableEvent}
    (h : ModelHandles A s) (hlaw : RowsThere s) (ht : s.step A event = some t) :
    RowsThere t ↔ FirstRowFits s event := by
  cases event with
  | delivered delivery =>
    obtain rfl : _ = t := Option.some.inj ht
    refine iff_of_true ?_ trivial
    rw [rowsThere_iff] at hlaw ⊢
    cases delivery <;> exact hlaw
  | viewWillAppear | pullToRefresh =>
    obtain rfl : _ = t := Option.some.inj ht
    exact iff_of_true hlaw trivial
  | layout =>
    obtain rfl : _ = t := Option.some.inj ht
    -- A table that has just read its rows has all of them.
    exact iff_of_true ((rowsThere_iff _).mpr le_rfl) trivial
  | mainQueue =>
    rw [OrderHistoryViewController.step] at ht
    split at ht
    · cases ht
    next mainQueue hqueue =>
      obtain ⟨model, hmodel, ht⟩ := Option.bind_eq_some_iff.mp ht
      obtain rfl : _ = t := Option.some.inj ht
      rw [OrderHistoryModel.step] at hmodel
      split at hmodel
      · cases hmodel
      next next rest hnext =>
        obtain rfl := Option.some.inj hmodel
        rw [rowsThere_iff]
        refine (rowsThere_row h hlaw hnext).trans ?_
        simp [FirstRowFits, hqueue, hnext]
    next mainQueue hqueue =>
      obtain rfl : _ = t := Option.some.inj ht
      refine iff_of_true ((rowsThere_iff _).mpr le_rfl) fun block _ hrow => ?_
      rw [hqueue] at hrow
      cases hrow

/-! ### Runs -/

variable (A)

/-- **Rows.**  The table gets a cell for every row that it displays throughout a run, exactly when
    the first row of a snapshot is only handled while at most one row is displayed. -/
theorem rows_there_iff (events : List HistoryTableEvent) :
    Always (OrderHistoryViewController.step A) RowsThere {} events ↔
      Guarded (OrderHistoryViewController.step A) FirstRowFits {} events := by
  have hstart : ModelHandles A ({} : OrderHistoryViewController Image) :=
    ⟨[], [], rfl, rfl, fun _ => rfl, rfl⟩
  apply always_iff_guarded_of_invariant ?_ ?_ hstart nofun
  · intro s event t h ht
    exact h.step ht
  · intro s event t h hlaw ht
    exact rowsThere_step h hlaw ht

-- The history changes while it is displayed: the first block of the new snapshot publishes a
-- single row, and the second row on display is gone until the next one.
example :
    let orders := [orderDocument "1" "Mr Biggs", orderDocument "2" "Black Fish"]
    (run (OrderHistoryViewController.step allAssets) {}
      [.delivered (.snapshot orders), .mainQueue, .mainQueue, .layout,
        .delivered (.snapshot orders), .mainQueue]).map
        (fun s => (s.displayed, (s.cellForRowAt 1).isSome)) = some (2, false) := by
  decide +kernel

end Foodly
