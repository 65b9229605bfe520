import Foodly.Lib.Parallel

namespace Callbacks

/-!
# Requests and their callbacks

A client sends requests to a service, each with a callback.  Between a request and the run of its
callback there are two steps, and anything can happen between these:

* the service answers one of the requests, in whichever order it likes (`Exchange.answer`);
* the main queue of the client runs the callbacks one by one, in the order in which the answers
  came (`Exchange.callback`).

What the callbacks find when they run is therefore not what the answer to their request left
behind.  A `Journal` keeps what has become of the requests, and `Follows` says that it is that of
an exchange:

* `Follows.send`, `Follows.answer`, `Follows.callback` — the exchange does what the journal says;
* `Follows.balanced` — every request sent waits for its answer or has one, and only one of them.
-/

variable {ρ α : Type*}

/-- The requests without an answer, in the order sent, and the answers whose callback has not run
    yet, in the order in which they came. -/
structure Exchange (ρ α : Type*) where
  requests : List ρ := []
  mainQueue : List (ρ × α) := []
  deriving DecidableEq, Repr

namespace Exchange

/-- A request is sent. -/
def send (e : Exchange ρ α) (request : ρ) : Exchange ρ α :=
  { e with requests := e.requests ++ [request] }

/-- The service answers one of the requests, and puts its callback into the main queue. -/
def answer (e : Exchange ρ α) (index : ℕ) (answer : α) : Option (ρ × Exchange ρ α) :=
  e.requests[index]?.map fun request =>
    let requests := e.requests.eraseIdx index
    (request, { requests, mainQueue := e.mainQueue ++ [(request, answer)] })

/-- The main queue gets to the callback that has waited longest. -/
def callback (e : Exchange ρ α) : Option ((ρ × α) × Exchange ρ α) :=
  match e.mainQueue with
  | [] => none
  | first :: mainQueue => some (first, { e with mainQueue })

/-- An answer makes one request fewer, and one callback more. -/
theorem length_answer {e e' : Exchange ρ α} {index : ℕ} {a : α} {request : ρ}
    (h : e.answer index a = some (request, e')) :
    e'.requests.length + 1 = e.requests.length ∧
      e'.mainQueue.length = e.mainQueue.length + 1 := by
  obtain ⟨request', hrequest, heq⟩ := Option.map_eq_some_iff.mp h
  obtain ⟨rfl, rfl⟩ := Prod.mk.inj heq
  obtain ⟨hindex, -⟩ := List.getElem?_eq_some_iff.mp hrequest
  exact ⟨List.length_eraseIdx_add_one hindex, List.length_append⟩

end Exchange

/-! ### The journal of an exchange -/

/-- The requests sent, in order; those that wait for an answer; the answers, in the order in which
    they came; and those whose callback has run. -/
structure Journal (ρ α : Type*) where
  sent : List ρ := []
  asked : List ρ := []
  answered : List (ρ × α) := []
  called : List (ρ × α) := []

namespace Journal

def send (h : Journal ρ α) (request : ρ) : Journal ρ α :=
  { h with sent := h.sent ++ [request], asked := h.asked ++ [request] }

def answer (h : Journal ρ α) (index : ℕ) (answer : α) : Journal ρ α :=
  match h.asked[index]? with
  | none => h
  | some request =>
    { h with
      asked := h.asked.eraseIdx index
      answered := h.answered ++ [(request, answer)] }

/-- The answer whose callback runs next. -/
def next? (h : Journal ρ α) : Option (ρ × α) := h.answered[h.called.length]?

def callback (h : Journal ρ α) : Journal ρ α := { h with called := h.called ++ h.next?.toList }

end Journal

/-- **What becomes of a request.**  The exchange holds the requests and the answers that the
    journal says it does, and every request sent waits for its answer or has one. -/
structure Follows (h : Journal ρ α) (e : Exchange ρ α) : Prop where
  requests : e.requests = h.asked
  answered : h.answered = h.called ++ e.mainQueue
  balanced : (h.asked ++ h.answered.map Prod.fst).Perm h.sent

namespace Follows

variable {h : Journal ρ α} {e : Exchange ρ α}

/-- Nothing has been sent. -/
theorem empty : Follows ({} : Journal ρ α) {} := ⟨rfl, rfl, List.Perm.refl _⟩

theorem send (hf : Follows h e) (request : ρ) : Follows (h.send request) (e.send request) where
  requests := congrArg (· ++ [request]) hf.requests
  answered := hf.answered
  balanced := by
    show (h.asked ++ [request] ++ h.answered.map Prod.fst).Perm (h.sent ++ [request])
    refine List.Perm.trans ?_ (hf.balanced.append_right [request])
    rw [List.append_assoc, List.append_assoc]
    exact List.perm_append_comm.append_left _

/-- **An answer.**  Its request stops waiting, and it is the last of those whose callback has to
    run. -/
theorem answer (hf : Follows h e) {index : ℕ} (hindex : index < e.requests.length) (a : α) :
    ∃ request e', e.answer index a = some (request, e') ∧
      (h.answer index a).answered = h.answered ++ [(request, a)] ∧
      (h.answer index a).called = h.called ∧ (h.answer index a).sent = h.sent ∧
      Follows (h.answer index a) e' := by
  have hrequest : e.requests[index]? = some e.requests[index] := List.getElem?_eq_getElem hindex
  generalize e.requests[index] = request at hrequest
  have hasked : h.asked[index]? = some request := hf.requests ▸ hrequest
  have hafter : h.answer index a = { h with
      asked := h.asked.eraseIdx index
      answered := h.answered ++ [(request, a)] } := by
    rw [Journal.answer, hasked]
  refine ⟨request, _, by rw [Exchange.answer, hrequest]; rfl, ?_⟩
  rw [hafter]
  refine ⟨rfl, rfl, rfl, congrArg (·.eraseIdx index) hf.requests, ?_, ?_⟩
  · -- The answer is the last for the journal, and goes to the end of the main queue.
    show h.answered ++ [(request, a)] = h.called ++ (e.mainQueue ++ [(request, a)])
    rw [hf.answered, List.append_assoc]
  · -- The request only moves from those that wait to those that are answered.
    have hmoved := ((Parallel.perm_of_getElem? hasked).append_right
      (h.answered.map Prod.fst)).trans hf.balanced
    refine List.Perm.trans ?_ hmoved
    rw [List.map_append, ← List.append_assoc]
    exact List.perm_append_singleton _ _

/-- **A callback.**  It is that of the answer which the journal says is next. -/
theorem callback (hf : Follows h e) (hqueue : e.mainQueue ≠ []) :
    ∃ first e', h.next? = some first ∧ e.callback = some (first, e') ∧
      e.mainQueue = first :: e'.mainQueue ∧
      h.callback.called = h.called ++ [first] ∧ Follows h.callback e' := by
  obtain ⟨first, mainQueue, hfirst⟩ := List.exists_cons_of_ne_nil hqueue
  have hnext : h.next? = some first := by
    rw [Journal.next?, hf.answered, hfirst, List.getElem?_append_right (Nat.le_refl _),
      Nat.sub_self]
    rfl
  have hcalled : h.callback.called = h.called ++ [first] := by
    rw [Journal.callback, hnext]
    rfl
  refine ⟨first, { e with mainQueue }, hnext, by rw [Exchange.callback, hfirst], hfirst, hcalled,
    hf.requests, ?_, hf.balanced⟩
  rw [hcalled, List.append_assoc, List.singleton_append, ← hfirst]
  exact hf.answered

end Follows

end Callbacks
