import Foodly.Home.ViewModel

namespace Foodly

/-!
# The order history

`OrderHistoryModel`: every snapshot of the history gets an array of its own, which the blocks
that it dispatches to the main queue fill one row at a time; each block also publishes the
array it has just extended.  A block keeps the array that its snapshot started, so that the blocks
of two snapshots never mix their rows, but they publish one after the other in the same place.

* `HistoryDetail`, `historyDetail` — a row, and the row that is made of a document, if it has the
  fields that a row needs;
* `received` — the completion of `getOrderHistory`: a new array, and a block for every row;
* `runBlock`, `drain` — one block of the main queue, and all that are there;
* `orders_drain_received` — a model that has received a single snapshot shows its rows.
-/

/-- `HistoryDetail`. -/
structure HistoryDetail (Image : Type) where
  name : String
  itemNumber : String
  image : Option Image
  amount : String
  deriving DecidableEq

variable {Image : Type} (A : Assets Image)

/-- The row that is made of a document. -/
def historyDetail (history : Document) : Option (HistoryDetail Image) := do
  let cost ← stringField history.data "cost"
  let item ← stringField history.data "items"
  let name ← stringField history.data "name"
  let imageName ← stringField history.data "imageName"
  return { name, itemNumber := item, image := A.named imageName, amount := cost }

/-- `OrderHistoryModel`, the arrays its snapshots captured, and the blocks on the main queue:
    the index of the captured array, and the row to append to it. -/
structure OrderHistoryModel (Image : Type) where
  orders : List (HistoryDetail Image) := []
  histories : List (List (HistoryDetail Image)) := []
  mainQueue : List (ℕ × HistoryDetail Image) := []

namespace OrderHistoryModel

/-- The completion of `getOrderHistory`. -/
def received (m : OrderHistoryModel Image) : RouterResult → OrderHistoryModel Image
  | .failure _ => m
  | .success userOrderHistory =>
    { m with
      histories := m.histories ++ [[]]
      mainQueue := m.mainQueue ++ ((userOrderHistory.getD []).filterMap (historyDetail A)).map
        fun userHistory => (m.histories.length, userHistory) }

/-- One block of the main queue. -/
def runBlock (m : OrderHistoryModel Image) (block : ℕ × HistoryDetail Image) :
    OrderHistoryModel Image :=
  let histories := (m.histories[block.1]?.getD []) ++ [block.2]
  { m with histories := m.histories.set block.1 histories, orders := histories }

/-- The main queue runs its blocks in order. -/
def drain (m : OrderHistoryModel Image) : OrderHistoryModel Image :=
  m.mainQueue.foldl runBlock { m with mainQueue := [] }

/-- Blocks that fill the only array publish what it ends up with. -/
theorem foldl_runBlock (rows : List (HistoryDetail Image)) (m : OrderHistoryModel Image)
    {history : List (HistoryDetail Image)} (hm : m.histories = [history])
    (horders : m.orders = history) :
    ((rows.map fun row => (0, row)).foldl runBlock m).orders = history ++ rows := by
  induction rows generalizing m history with
  | nil => rw [List.map_nil, List.foldl_nil, horders, List.append_nil]
  | cons row rows ih =>
    -- One block extends the array and publishes it.
    have hhistories : (m.runBlock (0, row)).histories = [history ++ [row]] := by
      simp [runBlock, hm]
    have hpublished : (m.runBlock (0, row)).orders = history ++ [row] := by
      simp [runBlock, hm]
    rw [List.map_cons, List.foldl_cons, ih _ hhistories hpublished, List.append_assoc,
      List.singleton_append]

/-- **First snapshot.**  A model that has received one snapshot shows its rows, in order, once
    the queue has drained. -/
theorem orders_drain_received (documents : QuerySnapshot) :
    ((received A {} (.success (some documents))).drain).orders
      = documents.filterMap (historyDetail A) := by
  unfold drain received
  exact foldl_runBlock _ _ rfl rfl

end OrderHistoryModel

end Foodly
