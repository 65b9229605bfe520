import Foodly.Home.ViewModel

namespace Foodly

/-!
# The confirmation screen

`DeliveryViewModel` listens to the delivery persons, and `ConfirmationViewController` shows the
one that the view model holds: the labels are set by a block on the main queue, the phone number
to dial at once.

* `DeliveryFields`, `assign` — the four fields that a document must have, and the casts that assign
  them: a field that is not a text leaves the value that was there before;
* `addPerson`, `DeliveryViewModel.received` — the loop over the documents of a snapshot;
* `detailsCompletion`, `showDetails` — the closure that `viewDidAppear` sets, and the block that it
  dispatches; a snapshot that comes before the closure is set is not told to the screen;
* `callButton` — the address that is opened: `tel://` with the number that was set with the closure;
* `step` — the handlers, the callback of the listener and the blocks, in any order.

The listener is registered when the view model is made, before the screen loads.
-/

/-! ### The view model -/

/-- `DeliveryViewModel`. -/
structure DeliveryViewModel where
  name : String := ""
  time : String := ""
  imageName : String := ""
  phone : String := ""
  deriving DecidableEq, Repr

/-- The four fields that a delivery person must have, whatever their types. -/
structure DeliveryFields where
  deliveryName : FieldValue
  deliveryTime : FieldValue
  imgName : FieldValue
  phoneNumber : FieldValue

def deliveryFields (data : Parameter) : Option DeliveryFields := do
  let deliveryName ← data.lookup "name"
  let deliveryTime ← data.lookup "deliveryTime"
  let imgName ← data.lookup "imageName"
  let phoneNumber ← data.lookup "phoneNumber"
  return { deliveryName, deliveryTime, imgName, phoneNumber }

namespace DeliveryViewModel

/-- The casts and assignments: a field that is not a text leaves the value that was there. -/
def assign (vm : DeliveryViewModel) (fields : DeliveryFields) : DeliveryViewModel where
  name := fields.deliveryName.asString.getD vm.name
  time := fields.deliveryTime.asString.getD vm.time
  imageName := fields.imgName.asString.getD vm.imageName
  phone := fields.phoneNumber.asString.getD vm.phone

/-- The body of the loop over the documents. -/
def addPerson (vm : DeliveryViewModel) (person : Document) : DeliveryViewModel :=
  match deliveryFields person.data with
  | none => vm
  | some fields => vm.assign fields

/-- The completion of `getDeliveryPeson`, without the call of `confirmationDetailsCompletion`. -/
def received (vm : DeliveryViewModel) : RouterResult → DeliveryViewModel
  | .failure _ => vm
  | .success deliveryPersons => (deliveryPersons.getD []).foldl addPerson vm

/-- The listener that `init` registers. -/
theorem getDeliveryPerson_eq (generated : String) :
    Router.request (DeliveryPersonApi.getDeliveryPerson.request generated)
      = some (.addSnapshotListener (.collection ⟨["deliveryPerson"]⟩)) := rfl

end DeliveryViewModel

/-! ### The screen -/

/-- `ConfirmationViewController`, whether `viewDidAppear` has set
    `confirmationDetailsCompletion`, and how many of its blocks are on the main queue. -/
structure ConfirmationViewController (Image : Type) where
  viewModel : DeliveryViewModel := {}
  phoneNumber : String := ""
  nameLabel : String := "Boluwatife Adeshina"
  timeLabel : String := "20 Min"
  deliveryPersonImage : Option Image
  confirmationDetailsCompletion : Bool := false
  mainQueue : ℕ := 0

/-- What happens on the confirmation screen. -/
inductive ConfirmationEvent
  | viewDidAppear
  | delivered (delivery : Delivery)
  | mainQueue
  | callButton
  deriving DecidableEq, Repr

variable {Image : Type} (A : Assets Image)

namespace ConfirmationViewController

/-- The screen as its storyboard creates it. -/
def instantiate : ConfirmationViewController Image :=
  { deliveryPersonImage := A.named "Rectangle 10" }

/-- The closure that `viewDidAppear` sets. -/
def detailsCompletion (s : ConfirmationViewController Image) : ConfirmationViewController Image :=
  if s.confirmationDetailsCompletion then
    { s with mainQueue := s.mainQueue + 1, phoneNumber := s.viewModel.phone }
  else s

/-- The callback of the listener. -/
def received (s : ConfirmationViewController Image) (result : RouterResult) :
    ConfirmationViewController Image :=
  let s := { s with viewModel := s.viewModel.received result }
  match result with
  | .failure _ => s
  | .success _ => s.detailsCompletion

/-- The block that the closure dispatches. -/
def showDetails (s : ConfirmationViewController Image) : ConfirmationViewController Image :=
  { s with
    nameLabel := s.viewModel.name
    timeLabel := s.viewModel.time
    deliveryPersonImage := A.named s.viewModel.imageName }

/-- `callButton(_:)`: the address that is opened, if the device can open it. -/
def callButton (s : ConfirmationViewController Image) : String := "tel://" ++ s.phoneNumber

/-- The handlers, the callback and the blocks; a call changes nothing on the screen. -/
def step (s : ConfirmationViewController Image) :
    ConfirmationEvent → Option (ConfirmationViewController Image)
  | .viewDidAppear => some { s with confirmationDetailsCompletion := true }
  | .delivered delivery => some (s.received (Router.complete delivery))
  | .mainQueue =>
    match s.mainQueue with
    | 0 => none
    | mainQueue + 1 => some ({ s with mainQueue }.showDetails A)
  | .callButton => some s

end ConfirmationViewController

end Foodly
