import Foodly.Lib.Batches
import Foodly.Lib.Runs
import Foodly.Orders.History

namespace Foodly

open Runs Batches

/-!
# Snapshots of the order history

The listener of `OrderHistoryModel` may be called back any number of times, and the blocks that
it dispatches are run by the main queue in order, in between.  Every snapshot is a batch of
rows: a block adds its row to those of its own snapshot and publishes them.  So what is left in
`orders` is the last snapshot that has any rows, which need not be the last snapshot: one without
rows dispatches no block, and clears nothing.

* `HistoryEvent` — a delivery, or the block at the front of the queue;
* `historyRows`, `snapshotsOf` — the rows of a snapshot, and the snapshots that were delivered;
* `HandledUpTo` — what the model is like when some of the rows of these snapshots have been handled
  as batches are;
* `Handles.step` — one event keeps it so;
* `orders_of_drained` — what is published once the queue has drained;
* `orders_eq_last_iff` — when that is the last snapshot;
* `emptied_history_shown` — an order that is deleted and goes on being shown.
-/

variable {Image : Type} (A : Assets Image)

/-- What happens to the model: its listener is called back, or the main queue runs its next
    block. -/
inductive HistoryEvent
  | delivered (delivery : Delivery)
  | mainQueue
  deriving DecidableEq, Repr

namespace OrderHistoryModel

/-- The callback, or the block at the front of the queue. -/
def step (m : OrderHistoryModel Image) : HistoryEvent → Option (OrderHistoryModel Image)
  | .delivered delivery => some (m.received A (Router.complete delivery))
  | .mainQueue =>
    match m.mainQueue with
    | [] => none
    | block :: mainQueue => some ({ m with mainQueue }.runBlock block)

end OrderHistoryModel

/-- The rows of a snapshot: the decoding of its well-formed documents, in order. -/
def historyRows (documents : QuerySnapshot) : List (HistoryDetail Image) :=
  documents.filterMap (historyDetail A)

/-- The snapshots among the events, in the order they were delivered. -/
def snapshotsOf (events : List HistoryEvent) : List QuerySnapshot :=
  events.filterMap fun
    | .delivered delivery => delivery.snapshot?
    | .mainQueue => none

/-! ### What has been handled -/

/-- After the blocks `handled`, each snapshot's array has the rows handled of it, and the last
    block has published its array; the other blocks are still on the queue. -/
structure HandledUpTo (batches : List (List (HistoryDetail Image))) (m : OrderHistoryModel Image)
    (handled : List (ℕ × HistoryDetail Image)) : Prop where
  split : tagged batches = handled ++ m.mainQueue
  length : m.histories.length = batches.length
  histories : ∀ i, m.histories[i]?.getD [] = ofBatch i handled
  orders : m.orders = shown handled

namespace HandledUpTo

variable {A} {batches : List (List (HistoryDetail Image))} {m : OrderHistoryModel Image}
  {handled : List (ℕ × HistoryDetail Image)}

/-- A snapshot starts an empty array and puts its rows on the queue. -/
theorem snapshot (h : HandledUpTo batches m handled) (documents : QuerySnapshot) :
    HandledUpTo (batches ++ [historyRows A documents])
      (m.received A (.success (some documents))) handled := by
  refine ⟨?_, ?_, fun i => ?_, h.orders⟩
  · rw [tagged_concat, h.split, ← h.length, List.append_assoc]
    rfl
  · show (m.histories ++ [[]]).length = _
    rw [List.length_append, List.length_append, h.length]
    rfl
  · show (m.histories ++ [[]])[i]?.getD [] = _
    rw [← h.histories i, List.getElem?_append]
    by_cases hi : i < m.histories.length
    · rw [if_pos hi]
    · -- The new array and the ones that do not exist yet are empty.
      rw [if_neg hi, List.getElem?_eq_none (not_lt.mp hi)]
      cases i - m.histories.length <;> rfl

/-- The block at the front of the queue is the next one handled. -/
theorem block (h : HandledUpTo batches m handled) {next : ℕ × HistoryDetail Image}
    {mainQueue : List (ℕ × HistoryDetail Image)} (hqueue : m.mainQueue = next :: mainQueue) :
    HandledUpTo batches ({ m with mainQueue }.runBlock next) (handled ++ [next]) := by
  have hnext : next.1 < m.histories.length := by
    rw [h.length]
    apply lt_of_mem_tagged
    rw [h.split, hqueue]
    simp
  refine ⟨?_, ?_, fun i => ?_, ?_⟩
  · rw [h.split, hqueue, List.append_assoc]
    rfl
  · show (m.histories.set next.1 _).length = _
    rw [List.length_set, h.length]
  · show (m.histories.set next.1 ((m.histories[next.1]?.getD []) ++ [next.2]))[i]?.getD [] = _
    rw [h.histories, ofBatch_concat]
    -- The row is added to the array that its own snapshot started.
    by_cases hi : next.1 = i
    · rw [if_pos hi, ← hi, List.getElem?_set_self hnext, Option.getD_some]
    · rw [if_neg hi, List.getElem?_set_ne hi, h.histories, List.append_nil]
  · show (m.histories[next.1]?.getD []) ++ [next.2] = _
    rw [h.histories, shown_concat]

end HandledUpTo

/-! ### Runs -/

/-- Some of the rows of the snapshots delivered by the events have been handled. -/
def Handles (events : List HistoryEvent) (m : OrderHistoryModel Image) : Prop :=
  ∃ handled, HandledUpTo ((snapshotsOf events).map (historyRows A)) m handled

/-- **One event.**  It delivers one more snapshot, or one more row is handled. -/
theorem Handles.step {events : List HistoryEvent} {m m' : OrderHistoryModel Image}
    {event : HistoryEvent} (h : Handles A events m) (hm : m.step A event = some m') :
    Handles A (events ++ [event]) m' := by
  obtain ⟨handled, h⟩ := h
  unfold Handles
  rw [snapshotsOf, List.filterMap_append, ← snapshotsOf, List.map_append]
  cases event with
  | delivered delivery =>
    obtain rfl : _ = m' := Option.some.inj hm
    -- An error is printed, and counts as no snapshot.
    cases delivery with
    | snapshot documents => exact ⟨handled, h.snapshot documents⟩
    | error e =>
      refine ⟨handled, ?_⟩
      rw [show [HistoryEvent.delivered (.error e)].filterMap _ = [] from rfl, List.map_nil,
        List.append_nil]
      exact h
  | mainQueue =>
    rw [show [HistoryEvent.mainQueue].filterMap _ = [] from rfl, List.map_nil, List.append_nil]
    cases hqueue : m.mainQueue with
    | nil =>
      rw [OrderHistoryModel.step, hqueue] at hm
      cases hm
    | cons next mainQueue =>
      rw [OrderHistoryModel.step, hqueue] at hm
      obtain rfl : _ = m' := Option.some.inj hm
      exact ⟨handled ++ [next], h.block hqueue⟩

/-- **Drained.**  Once the queue has drained, the last snapshot with any rows is published. -/
theorem orders_of_drained {events : List HistoryEvent} {m : OrderHistoryModel Image}
    (hm : run (OrderHistoryModel.step A) {} events = some m) (hdrained : m.mainQueue = []) :
    m.orders = lastNonempty ((snapshotsOf events).map (historyRows A)) := by
  have hstart : Handles A [] {} := ⟨[], rfl, rfl, fun _ => rfl, rfl⟩
  obtain ⟨handled, h⟩ : Handles A events m := run_history (fun _ _ _ _ => Handles.step A) hstart hm
  -- Nothing is left on the queue, so all rows have been handled.
  have hall : tagged ((snapshotsOf events).map (historyRows A)) = handled := by
    rw [h.split, hdrained, List.append_nil]
  rw [h.orders, ← hall, shown_tagged]

/-- **Last snapshot.**  Once the queue has drained, `orders` is the decoding of the last snapshot
    exactly when that has a well-formed document, or no snapshot has had one. -/
theorem orders_eq_last_iff {events : List HistoryEvent} {m : OrderHistoryModel Image}
    {last : QuerySnapshot} (hm : run (OrderHistoryModel.step A) {} events = some m)
    (hdrained : m.mainQueue = []) (hlast : (snapshotsOf events).getLast? = some last) :
    m.orders = historyRows A last ↔
      historyRows A last ≠ [] ∨ ∀ snapshot ∈ snapshotsOf events, historyRows A snapshot = [] := by
  have hbatch :
      ((snapshotsOf events).map (historyRows A)).getLast? = some (historyRows A last) := by
    rw [List.getLast?_map, hlast, Option.map_some]
  rw [orders_of_drained A hm hdrained, lastNonempty_eq_last_iff _ hbatch]
  simp only [List.mem_map, forall_exists_index, and_imp, forall_apply_eq_imp_iff₂]

/-- A document that an order of this name was stored as. -/
def orderDocument (documentID name : String) : Document where
  documentID := documentID
  data := (Food.mk name "$10.00" "x 1 items" "Group 43").asParameter

/-- Two snapshots are delivered before any block runs. -/
def overlappingSnapshots : List HistoryEvent :=
  [.delivered (.snapshot [orderDocument "1" "Mr Biggs"]),
    .delivered (.snapshot [orderDocument "1" "Mr Biggs", orderDocument "2" "Black Fish"]),
    .mainQueue, .mainQueue, .mainQueue]

/-- The second of the two is shown. -/
theorem overlapping_snapshots_shown : ∃ m,
    run (OrderHistoryModel.step allAssets) {} overlappingSnapshots = some m ∧
      m.orders = historyRows allAssets [orderDocument "1" "Mr Biggs",
        orderDocument "2" "Black Fish"] := by
  have hrun : run (OrderHistoryModel.step allAssets) {} overlappingSnapshots = some _ := rfl
  exact ⟨_, hrun, (orders_eq_last_iff allAssets hrun rfl rfl).mpr (Or.inl (by decide +kernel))⟩

/-- The only order is deleted: the snapshot without it leaves it shown. -/
theorem emptied_history_shown : ¬ ∀ (events : List HistoryEvent) (m : OrderHistoryModel String)
    (last : QuerySnapshot), run (OrderHistoryModel.step allAssets) {} events = some m →
    m.mainQueue = [] → (snapshotsOf events).getLast? = some last →
    m.orders = historyRows allAssets last := by
  intro h
  have horders := h [.delivered (.snapshot [orderDocument "1" "Mr Biggs"]), .mainQueue,
    .delivered (.snapshot [])] _ [] rfl rfl rfl
  exact absurd (congrArg List.length horders) (by decide +kernel)

end Foodly
