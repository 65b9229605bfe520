import Foodly.Lib.Runs
import Foodly.Networking.Router
import Mathlib.Data.List.Forall2

namespace Foodly

open Runs

/-!
# Completions

A request is answered through its completion: once for every callback of Firestore, in order.
`Completed` says so of one request, and that a request without a reference is answered with a
failure; but optional chaining drops such a request, and its completion is never called.

* `Endpoint` — the endpoints of the five APIs, with every operation they have;
* `PendingRequest` — a request that was made, the callbacks it has had, and what its completion has
  been called with;
* `NetworkState.step` — requests, callbacks in any order, and changes of the user;
* `yieldsReference_iff` — which endpoints yield the reference that their operation is carried out
  on;
* `answers_completion` — every closure of the router hands its error on;
* `requests_completed_iff` — in which runs of requests, callbacks and sign-ins every request is
  answered: when no order is requested while nobody is signed in.

Firestore itself refuses an empty path segment; the payloads are taken to have none.
-/

/-! ### Endpoints and callbacks -/

/-- The endpoints of the five APIs. -/
inductive Endpoint
  | order (api : OrderAPI)
  | meals (api : MealsAPI)
  | restaurant (api : RestaurantAPI)
  | category (api : CategoryAPI)
  | deliveryPerson (api : DeliveryPersonApi)
  deriving DecidableEq, Repr

/-- What the endpoint supplies to the router. -/
def Endpoint.request (currentUser : Option String) (generated generated' : String) :
    Endpoint → FirestoreRequest
  | .order api => api.request currentUser generated
  | .meals api => api.request generated generated'
  | .restaurant api => api.request
  | .category api => api.request
  | .deliveryPerson api => api.request generated

/-- The arguments of a callback; a write is called back with an error or nothing. -/
structure FirestoreCallback where
  snapshot : Option QuerySnapshot := none
  error : Option FirestoreError := none
  deriving DecidableEq, Repr

/-- What the closure that goes with a call gives to the completion. -/
def FirestoreCall.completion (callback : FirestoreCallback) : FirestoreCall → RouterResult
  | .addSnapshotListener _ => Router.onSnapshot callback.snapshot callback.error
  | .addDocument _ _ | .setData _ _ | .delete _ => Router.onWrite callback.error

/-! ### Requests in progress -/

/-- A request that was made, what Firestore has called it back with, and what its completion
    has been called with. -/
structure PendingRequest where
  request : FirestoreRequest
  callbacks : List FirestoreCallback := []
  completions : List RouterResult := []

/-- Who is signed in, and the requests made so far. -/
structure NetworkState where
  currentUser : Option String := none
  requests : List PendingRequest := []

/-- What happens between the app and Firestore. -/
inductive NetworkEvent
  | signIn (user : String)
  | signOut
  | request (endpoint : Endpoint) (generated generated' : String)
  | callback (index : ℕ) (callback : FirestoreCallback)
  deriving DecidableEq, Repr

/-- One callback of a request; a request that the router dropped is never called back. -/
def PendingRequest.calledBack (p : PendingRequest) (callback : FirestoreCallback) :
    Option PendingRequest :=
  (Router.request p.request).map fun call =>
    { p with
      callbacks := p.callbacks ++ [callback]
      completions := p.completions ++ [call.completion callback] }

def NetworkState.step (s : NetworkState) : NetworkEvent → Option NetworkState
  | .signIn user => some { s with currentUser := some user }
  | .signOut => some { s with currentUser := none }
  | .request endpoint generated generated' =>
    let request := endpoint.request s.currentUser generated generated'
    some { s with requests := s.requests ++ [{ request }] }
  | .callback index callback => do
    let p ← s.requests[index]?
    let p ← p.calledBack callback
    return { s with requests := s.requests.set index p }

/-! ### The law and its condition -/

/-- The endpoint yields the reference that the operation it declares is carried out on. -/
def FirestoreRequest.YieldsReference (request : FirestoreRequest) : Prop :=
  match request.operations with
  | .read | .create _ => request.collectionReference.isSome = true
  | .update _ | .delete => request.documentReference.isSome = true
  | .query => request.collectionQuery.isSome = true

/-- The completion is called with a failure exactly when the callback carries an error. -/
def Answers (callback : FirestoreCallback) (result : RouterResult) : Prop :=
  ∀ error, result = .failure error ↔ callback.error = some error

/-- The completion has been called once for each callback, in order; or once with a failure, when
    there is no reference. -/
structure PendingRequest.Completed (p : PendingRequest) : Prop where
  answered : p.request.YieldsReference → List.Forall₂ Answers p.callbacks p.completions
  refused : ¬p.request.YieldsReference → ∃ error, p.completions = [.failure error]

/-- No request is dropped. -/
def AllCompleted (s : NetworkState) : Prop := ∀ p ∈ s.requests, p.Completed

/-- An order is requested only while a user is signed in. -/
def OrdersSignedIn (s : NetworkState) : NetworkEvent → Prop
  | .request (.order _) _ _ => s.currentUser.isSome = true
  | .request _ _ _ | .signIn _ | .signOut | .callback _ _ => True

/-! ### One request -/

/-- The router makes a call exactly when there is a reference to make it on. -/
theorem isSome_request_iff (request : FirestoreRequest) :
    (Router.request request).isSome = true ↔ request.YieldsReference := by
  unfold Router.request FirestoreRequest.YieldsReference
  cases request.operations with
  | read => simp only [Router.read, Option.isSome_map]
  | create data => simp only [Router.create, Option.isSome_map]
  | update data => simp only [Router.update, Option.isSome_map]
  | delete => simp only [Router.delete, Option.isSome_map]
  | query => simp only [Router.query, Option.isSome_map]

/-- **Endpoints.**  Only those of orders depend on a user for their reference. -/
theorem yieldsReference_iff (s : NetworkState) (endpoint : Endpoint)
    (generated generated' : String) :
    (endpoint.request s.currentUser generated generated').YieldsReference ↔
      OrdersSignedIn s (.request endpoint generated generated') := by
  cases endpoint with
  | order api =>
    unfold OrdersSignedIn
    cases api <;> cases s.currentUser <;> simp [FirestoreRequest.YieldsReference, Endpoint.request,
      OrderAPI.request, OrderAPI.operations, OrderAPI.collectionReference,
      OrderAPI.documentReference, OrderAPI.baseDocumentReference]
  | meals api => exact iff_of_true rfl trivial
  | restaurant api =>
    refine iff_of_true ?_ trivial
    cases api <;> exact rfl
  | category api =>
    refine iff_of_true ?_ trivial
    cases api
    exact rfl
  | deliveryPerson api => exact iff_of_true rfl trivial

/-- Every closure hands its error on. -/
theorem answers_completion (call : FirestoreCall) (callback : FirestoreCallback) :
    Answers callback (call.completion callback) := by
  intro error
  have hsnapshot : Router.onSnapshot callback.snapshot callback.error = .failure error ↔
      callback.error = some error := by
    unfold Router.onSnapshot
    cases callback.error <;> simp
  have hwrite : Router.onWrite callback.error = .failure error ↔
      callback.error = some error := by
    unfold Router.onWrite
    cases callback.error <;> simp
  cases call with
  | addSnapshotListener source => exact hsnapshot
  | addDocument target data => exact hwrite
  | setData target data => exact hwrite
  | delete target => exact hwrite

/-- The completions of a request are those of its callbacks, and there are none without a
    reference. -/
structure PendingRequest.Routed (p : PendingRequest) : Prop where
  answered : List.Forall₂ Answers p.callbacks p.completions
  dropped : ¬p.request.YieldsReference → p.completions = []

theorem PendingRequest.routed_new (request : FirestoreRequest) : Routed { request } :=
  ⟨.nil, fun _ => rfl⟩

theorem PendingRequest.Routed.calledBack {p q : PendingRequest} (h : p.Routed)
    {callback : FirestoreCallback} (hq : p.calledBack callback = some q) :
    q.Routed ∧ q.request.YieldsReference := by
  obtain ⟨call, hcall, rfl⟩ := Option.map_eq_some_iff.mp hq
  have hyields : p.request.YieldsReference := by
    rw [← isSome_request_iff, hcall]
    rfl
  exact ⟨⟨List.rel_append h.answered (.cons (answers_completion call callback) .nil),
    fun hnone => absurd hyields hnone⟩, hyields⟩

/-- What is routed is completed exactly when there is a reference. -/
theorem PendingRequest.Routed.completed_iff {p : PendingRequest} (h : p.Routed) :
    p.Completed ↔ p.request.YieldsReference := by
  constructor
  · intro hcompleted
    by_contra hnone
    obtain ⟨error, herror⟩ := hcompleted.refused hnone
    rw [h.dropped hnone] at herror
    cases herror
  · exact fun hyields => ⟨fun _ => h.answered, fun hnone => absurd hyields hnone⟩

/-! ### Runs -/

/-- Every request made is routed. -/
def AllRouted (s : NetworkState) : Prop := ∀ p ∈ s.requests, p.Routed

/-- **One event.**  It keeps the requests routed, and keeps them completed exactly when it is not
    an order requested by nobody. -/
theorem NetworkState.step_completed {s t : NetworkState} {event : NetworkEvent}
    (hrouted : AllRouted s) (hlaw : AllCompleted s) (ht : s.step event = some t) :
    AllRouted t ∧ (AllCompleted t ↔ OrdersSignedIn s event) := by
  cases event with
  | signIn user =>
    obtain rfl : _ = t := Option.some.inj ht
    exact ⟨hrouted, iff_of_true hlaw trivial⟩
  | signOut =>
    obtain rfl : _ = t := Option.some.inj ht
    exact ⟨hrouted, iff_of_true hlaw trivial⟩
  | request endpoint generated generated' =>
    obtain rfl : _ = t := Option.some.inj ht
    have hnew := PendingRequest.routed_new (endpoint.request s.currentUser generated generated')
    constructor
    · exact List.forall_mem_append.mpr ⟨hrouted, List.forall_mem_singleton.mpr hnew⟩
    · unfold AllCompleted at *
      rw [List.forall_mem_append, and_iff_right hlaw, List.forall_mem_singleton,
        hnew.completed_iff, yieldsReference_iff]
  | callback index callback =>
    obtain ⟨p, hp, ht⟩ := Option.bind_eq_some_iff.mp ht
    obtain ⟨q, hq, ht⟩ := Option.bind_eq_some_iff.mp ht
    obtain rfl : _ = t := Option.some.inj ht
    obtain ⟨hq, hyields⟩ := (hrouted p (List.mem_of_getElem? hp)).calledBack hq
    refine ⟨fun r hr => ?_, iff_of_true (fun r hr => ?_) trivial⟩
    · rcases List.mem_or_eq_of_mem_set hr with hr | rfl
      · exact hrouted r hr
      · exact hq
    · rcases List.mem_or_eq_of_mem_set hr with hr | rfl
      · exact hlaw r hr
      · exact hq.completed_iff.mpr hyields

/-- **Completions.**  Whoever is signed in at first, every request made is answered throughout a
    run, once for each callback and in order, exactly when an order is only requested while a user
    is signed in. -/
theorem requests_completed_iff (currentUser : Option String) (events : List NetworkEvent) :
    Always NetworkState.step AllCompleted { currentUser } events ↔
      Guarded NetworkState.step OrdersSignedIn { currentUser } events := by
  have hnone (p : PendingRequest) : p ∉ ({ currentUser } : NetworkState).requests :=
    List.not_mem_nil
  apply always_iff_guarded (I := AllRouted) (E := fun _ _ => True) ?_ ?_
    (fun p hp => absurd hp (hnone p)) (fun p hp => absurd hp (hnone p))
    (allowed_of_forall_mem fun _ _ => trivial)
  · intro s event t hrouted hlaw _ _ ht
    exact (NetworkState.step_completed hrouted hlaw ht).1
  · intro s event t hrouted hlaw _ ht
    exact (NetworkState.step_completed hrouted hlaw ht).2

/-- The order history is requested while nobody is signed in: its completion is never called. -/
theorem signed_out_request_dropped : ¬∀ (currentUser : Option String)
    (events : List NetworkEvent),
    Always NetworkState.step AllCompleted { currentUser } events := by
  intro h
  have hlast := (h none [.request (.order .getFoodOrderHistory) "o" "o"]).last rfl
  obtain ⟨error, herror⟩ := (hlast _ (List.mem_singleton_self _)).refused (by
    rw [yieldsReference_iff { }]
    exact Bool.false_ne_true)
  cases herror

end Foodly
