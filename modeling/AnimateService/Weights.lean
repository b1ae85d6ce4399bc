import Mathlib.Algebra.BigOperators.Group.List.Basic
import Mathlib.Algebra.GroupWithZero.Nat
import AnimateService.Pool

/-!
# Weights of the waiting requests

A cost of requests gives the pool a weight, the sum over the requests that wait. Each operation adds
or takes away the costs of the requests that it accepts, dequeues or destroys. With the cost 1 the
weight is the number of the requests, which is what `pending_requests` counts.
-/
namespace AnimateService

/-- The sum of a cost over the waiting requests. -/
def Pool.weight (cost : Request → Nat) (pool : Pool) : Nat := (pool.waiting.map cost).sum

/-- `pending_requests` counts the waiting requests, and every queue is active. -/
structure Pool.Counted (pool : Pool) : Prop where
  /-- The counter. -/
  pending : pool.pendingRequests = pool.waiting.length
  /-- A registered client's queue is looked at. -/
  active : ∀ queue ∈ pool.clients, queue.active = true

variable {pool next : Pool} {client : ClientId}

/-- A write to one queue replaces the weight of its requests. -/
theorem weight_updateQueue (cost : Request → Nat) (formed : pool.WellFormed)
    {write : ClientQueue → ClientQueue} {queue : ClientQueue} (member : queue ∈ pool.clients)
    (same : next.clients = pool.updateQueue queue.client write) :
    next.weight cost + (queue.requests.map cost).sum =
      pool.weight cost + ((write queue).requests.map cost).sum := by
  obtain ⟨front, back, clients⟩ := List.append_of_mem member
  rw [updateQueue_at formed clients] at same
  simp only [Pool.weight, Pool.waiting, same, clients, List.flatMap_append, List.flatMap_cons,
    List.map_append, List.sum_append]
  omega

/-- A dequeued request is no longer weighed. -/
theorem weight_dequeue (cost : Request → Nat) (formed : pool.WellFormed) {request : Request}
    (dequeued : dequeueFairRequest pool = some (request, next)) :
    next.weight cost + cost request = pool.weight cost := by
  obtain ⟨queue, rest, member, requests, -, made⟩ := dequeueFairRequest_some dequeued
  have clients : next.clients = pool.updateQueue queue.client ClientQueue.pop := by rw [made]
  have balance := weight_updateQueue cost formed member clients
  simp only [ClientQueue.pop, requests, List.tail_cons, List.map_cons, List.sum_cons] at balance
  omega

/-- An accepted request is weighed. -/
theorem weight_submit (cost : Request → Nat) (formed : pool.WellFormed) {disconnected memory : Bool}
    {requestsReceived : Nat} {rpcLine : Bytes}
    (submitted : threadpoolSubmit pool client disconnected requestsReceived rpcLine memory =
      .ok next) :
    next.weight cost = pool.weight cost + cost ⟨client, requestsReceived, rpcLine⟩ := by
  obtain ⟨-, -, ⟨queue, found⟩, made⟩ := threadpoolSubmit_ok submitted
  obtain ⟨member, rfl⟩ := findClientQueue_some found
  have clients : next.clients = pool.updateQueue queue.client
      (ClientQueue.push ⟨queue.client, requestsReceived, rpcLine⟩) := by rw [made]
  have balance := weight_updateQueue cost formed member clients
  rw [ClientQueue.push, List.map_append, List.sum_append, List.map_singleton,
    List.sum_singleton] at balance
  omega

/-- A new client brings no requests. -/
theorem weight_register (cost : Request → Nat) {memory : Bool}
    (registered : threadpoolRegisterClient pool client memory = .ok next) :
    next.weight cost = pool.weight cost := by
  obtain ⟨-, rfl⟩ := threadpoolRegisterClient_ok registered
  simp [Pool.weight, Pool.waiting]

/-- A removed client takes its requests with it. -/
theorem weight_remove (cost : Request → Nat) (formed : pool.WellFormed) (client : ClientId) :
    (threadpoolRemoveClient pool client).weight cost + ((pool.queued client).map cost).sum =
      pool.weight cost := by
  unfold threadpoolRemoveClient
  split
  · rename_i queue found
    obtain ⟨member, rfl⟩ := findClientQueue_some found
    obtain ⟨front, back, clients⟩ := List.append_of_mem member
    obtain ⟨before, behind⟩ := formed.others clients
    have left : front.filter (fun other => other.client ≠ queue.client) = front :=
      List.filter_eq_self.mpr fun other there => decide_eq_true (before other there)
    have right : back.filter (fun other => other.client ≠ queue.client) = back :=
      List.filter_eq_self.mpr fun other there => decide_eq_true (behind other there)
    rw [formed.queued_eq member]
    simp only [Pool.weight, Pool.waiting, clients, List.filter_append, List.filter_cons, left, right,
      ne_eq, not_true_eq_false, decide_false, Bool.false_eq_true, ↓reduceIte, List.flatMap_append,
      List.flatMap_cons, List.map_append, List.sum_append]
    omega
  · rename_i missing
    simp [Pool.queued, missing]

/-- The number of waiting requests is a weight. -/
theorem length_waiting (pool : Pool) : pool.waiting.length = pool.weight fun _ => 1 := by
  simp [Pool.weight]

/-- The counter is right after a request was dequeued. -/
theorem Pool.Counted.dequeue (counted : pool.Counted) (formed : pool.WellFormed) {request : Request}
    (dequeued : dequeueFairRequest pool = some (request, next)) : next.Counted := by
  have balance := weight_dequeue (fun _ => 1) formed dequeued
  obtain ⟨queue, rest, member, requests, -, rfl⟩ := dequeueFairRequest_some dequeued
  constructor
  · have before := counted.pending
    rw [length_waiting] at before ⊢
    show pool.pendingRequests - 1 = _
    omega
  · intro other there
    obtain ⟨old, inside, rfl⟩ := List.mem_map.mp there
    split <;> exact counted.active old inside

/-- Also for an accepted request. -/
theorem Pool.Counted.submit (counted : pool.Counted) (formed : pool.WellFormed)
    {disconnected memory : Bool} {requestsReceived : Nat} {rpcLine : Bytes}
    (submitted : threadpoolSubmit pool client disconnected requestsReceived rpcLine memory =
      .ok next) : next.Counted := by
  have balance := weight_submit (fun _ => 1) formed submitted
  obtain ⟨-, -, -, rfl⟩ := threadpoolSubmit_ok submitted
  constructor
  · have before := counted.pending
    rw [length_waiting] at before ⊢
    rw [balance, ← before]
  · intro other there
    obtain ⟨old, inside, rfl⟩ := List.mem_map.mp there
    split <;> exact counted.active old inside

/-- For a new client. -/
theorem Pool.Counted.register (counted : pool.Counted) {memory : Bool}
    (registered : threadpoolRegisterClient pool client memory = .ok next) : next.Counted := by
  have balance := weight_register (fun _ => 1) registered
  obtain ⟨-, rfl⟩ := threadpoolRegisterClient_ok registered
  constructor
  · rw [length_waiting, balance, ← length_waiting]
    exact counted.pending
  · intro other there
    rcases List.mem_append.mp there with old | fresh
    · exact counted.active other old
    · rw [List.mem_singleton.mp fresh]

/-- And for a removed one. -/
theorem Pool.Counted.remove (counted : pool.Counted) (formed : pool.WellFormed)
    (client : ClientId) : (threadpoolRemoveClient pool client).Counted := by
  have balance := weight_remove (fun _ => 1) formed client
  have before := counted.pending
  rw [length_waiting] at before
  constructor
  · rw [length_waiting]
    cases found : findClientQueue pool client with
    | none =>
      rw [threadpoolRemoveClient, found]
      exact before
    | some queue =>
      have taken : ((pool.queued client).map fun _ => 1).sum = queue.requests.length := by
        simp [Pool.queued, found]
      have left : (threadpoolRemoveClient pool client).pendingRequests =
          pool.pendingRequests - queue.requests.length := by
        rw [threadpoolRemoveClient, found]
      omega
  · unfold threadpoolRemoveClient
    split
    · exact fun other there => counted.active other (List.mem_of_mem_filter there)
    · exact counted.active

/-- While a request waits, one can be dequeued. -/
theorem Pool.Counted.dequeues (counted : pool.Counted) (waits : pool.waiting ≠ []) :
    ∃ request next, dequeueFairRequest pool = some (request, next) := by
  have pending : pool.pendingRequests ≠ 0 := by
    rw [counted.pending]
    exact Nat.pos_iff_ne_zero.mp (List.length_pos_iff.mpr waits)
  obtain ⟨request, inside⟩ := List.exists_mem_of_ne_nil _ waits
  obtain ⟨queue, member, there⟩ := List.mem_flatMap.mp inside
  have visited : queue ∈ pool.rotation := by
    rw [Pool.rotation, List.mem_append, or_comm, ← List.mem_append, List.take_append_drop]
    exact member
  have nonempty : queue.requests ≠ [] := List.ne_nil_of_mem there
  have some_ : (pool.rotation.find? fun queue => queue.active && queue.requests ≠ []).isSome :=
    List.find?_isSome.mpr ⟨queue, visited, by simp [counted.active queue member, nonempty]⟩
  obtain ⟨chosen, found⟩ := Option.isSome_iff_exists.mp some_
  have full := List.find?_some found
  cases requests : chosen.requests with
  | nil => simp [requests] at full
  | cons first rest =>
    simp only [dequeueFairRequest, if_neg pending, found, requests, List.head?_cons, Option.map_some]
    exact ⟨_, _, rfl⟩

end AnimateService
