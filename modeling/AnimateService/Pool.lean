import Mathlib.Data.List.Nodup
import Mathlib.Logic.Function.Basic
import AnimateService.RpcThreads

/-!
# The scheduler of the thread pool

The client queues of `threadpool.c` and the operations on them that run under the pool's mutex.
The linked list of queues is kept as a list, so a queue is named by its client; a client has at
most one. `Pool.queued` forgets everything but the requests that wait for each client, and each
operation has one lemma that says what it does to them.
-/
namespace AnimateService

/-- `request_t`. -/
structure Request where
  /-- The client that sent it. -/
  client : ClientId
  /-- `request_seq_num`. -/
  seqNum : Nat
  /-- The request line. -/
  rpcLine : Bytes
  deriving DecidableEq, Repr

/-- `client_queue_t`. -/
structure ClientQueue where
  /-- The client. -/
  client : ClientId
  /-- The requests from `head` to `tail`. -/
  requests : List Request := []
  /-- `queued_count`. -/
  queuedCount : Nat := 0
  /-- Set when the queue is made, and never cleared. -/
  active : Bool := true
  deriving DecidableEq, Repr

/-- The fields of `struct threadpool` under its mutex. -/
structure Pool where
  /-- The queues from `clients_head` to `clients_tail`. -/
  clients : List ClientQueue := []
  /-- The client of `next_client`. -/
  nextClient : Option ClientId := none
  /-- `pending_requests`. -/
  pendingRequests : Nat := 0
  /-- `shutting_down`. -/
  shuttingDown : Bool := false
  deriving DecidableEq, Repr

/-- The `errno` of a pool operation that returns -1. -/
inductive PoolError where
  | noMemory
  | exists
  | shutdown
  | notConnected
  deriving DecidableEq, Repr

/-- `find_client_queue`. -/
def findClientQueue (pool : Pool) (client : ClientId) : Option ClientQueue :=
  pool.clients.find? fun queue => queue.client = client

/-- A queue without its head. -/
def ClientQueue.pop (queue : ClientQueue) : ClientQueue :=
  { queue with requests := queue.requests.tail, queuedCount := queue.queuedCount - 1 }

/-- A queue with a new tail. -/
def ClientQueue.push (request : Request) (queue : ClientQueue) : ClientQueue :=
  { queue with requests := queue.requests ++ [request], queuedCount := queue.queuedCount + 1 }

/-- The queues with a write to the one of a client. -/
def Pool.updateQueue (pool : Pool) (client : ClientId) (write : ClientQueue → ClientQueue) :
    List ClientQueue :=
  pool.clients.map fun queue => if queue.client = client then write queue else queue

/-- The client of the queue behind a client's queue, or of one given for the end of the list. -/
def Pool.behind (pool : Pool) (client : ClientId) (first : Option ClientQueue) : Option ClientId :=
  (((pool.clients.dropWhile fun queue => queue.client ≠ client).tail.head?).or first).map
    ClientQueue.client

/-- The queues in the order in which `dequeue_fair_request` looks at them. -/
def Pool.rotation (pool : Pool) : List ClientQueue :=
  let start := pool.clients.findIdx fun queue => some queue.client = pool.nextClient
  pool.clients.drop start ++ pool.clients.take start

/-- `dequeue_fair_request`. -/
def dequeueFairRequest (pool : Pool) : Option (Request × Pool) :=
  if pool.pendingRequests = 0 then none
  else
    match pool.rotation.find? fun queue => queue.active && queue.requests ≠ [] with
    | some queue =>
      (queue.requests.head?).map fun request =>
        (request,
          { pool with
            clients := pool.updateQueue queue.client ClientQueue.pop
            pendingRequests := pool.pendingRequests - 1
            nextClient := pool.behind queue.client pool.clients.head? })
    | none => none

/-- `threadpool_register_client`. -/
def threadpoolRegisterClient (pool : Pool) (client : ClientId) (memory : Bool) :
    Except PoolError Pool :=
  if memory then
    if (findClientQueue pool client).isSome then .error .exists
    else
      .ok { pool with
        clients := pool.clients ++ [{ client }]
        nextClient := pool.nextClient.or (some client) }
  else .error .noMemory

/-- `threadpool_remove_client`. -/
def threadpoolRemoveClient (pool : Pool) (client : ClientId) : Pool :=
  match findClientQueue pool client with
  | some queue =>
    let clients := pool.clients.filter fun queue => queue.client ≠ client
    { pool with
      clients
      nextClient :=
        if pool.nextClient = some client then pool.behind client clients.head?
        else pool.nextClient
      pendingRequests := pool.pendingRequests - queue.requests.length }
  | none => pool

/-- `threadpool_submit` for a client with its `disconnected` flag and its `requests_received`. -/
def threadpoolSubmit (pool : Pool) (client : ClientId) (disconnected : Bool)
    (requestsReceived : Nat) (rpcLine : Bytes) (memory : Bool) : Except PoolError Pool :=
  if memory then
    if pool.shuttingDown then .error .shutdown
    else if (findClientQueue pool client).all (fun queue => !queue.active) || disconnected then
      .error .notConnected
    else
      .ok { pool with
        clients := pool.updateQueue client
          (ClientQueue.push { client, seqNum := requestsReceived, rpcLine })
        pendingRequests := pool.pendingRequests + 1 }
  else .error .noMemory

/-! ## The requests that wait for each client -/

/-- The requests that wait for a client, in order. -/
def Pool.queued (pool : Pool) (client : ClientId) : List Request :=
  ((findClientQueue pool client).map ClientQueue.requests).getD []

/-- The requests that wait for all clients. -/
def Pool.waiting (pool : Pool) : List Request := pool.clients.flatMap ClientQueue.requests

/-- What holds of the queues at all times. -/
structure Pool.WellFormed (pool : Pool) : Prop where
  /-- A client has one queue. -/
  distinct : (pool.clients.map ClientQueue.client).Nodup
  /-- A queue has its client's requests. -/
  owned : ∀ queue ∈ pool.clients, ∀ request ∈ queue.requests, request.client = queue.client

/-- A pool without clients. -/
theorem Pool.wellFormed_empty : ({} : Pool).WellFormed := by
  constructor <;> simp

variable {pool next : Pool} {client : ClientId}

/-- The queue that is found is in the list. -/
theorem findClientQueue_some {queue : ClientQueue}
    (found : findClientQueue pool client = some queue) :
    queue ∈ pool.clients ∧ queue.client = client :=
  ⟨List.mem_of_find?_eq_some found, by simpa using List.find?_some found⟩

/-- The queue of a client is the one that is found for it. -/
theorem Pool.WellFormed.find_eq (formed : pool.WellFormed) {queue : ClientQueue}
    (member : queue ∈ pool.clients) : findClientQueue pool queue.client = some queue := by
  cases found : findClientQueue pool queue.client with
  | none =>
    have missing := List.find?_eq_none.mp found queue member
    simp at missing
  | some other =>
    obtain ⟨there, same⟩ := findClientQueue_some found
    rw [List.inj_on_of_nodup_map formed.distinct there member same]

/-- A client's requests are those of its queue. -/
theorem Pool.WellFormed.queued_eq (formed : pool.WellFormed) {queue : ClientQueue}
    (member : queue ∈ pool.clients) : pool.queued queue.client = queue.requests := by
  rw [Pool.queued, formed.find_eq member]
  rfl

/-- A request waits for a client exactly if it waits in the pool and is the client's. -/
theorem Pool.WellFormed.mem_queued (formed : pool.WellFormed) {request : Request} :
    request ∈ pool.queued client ↔ request ∈ pool.waiting ∧ request.client = client := by
  constructor
  · intro waits
    unfold Pool.queued at waits
    cases found : findClientQueue pool client with
    | none => simp [found] at waits
    | some queue =>
      obtain ⟨member, rfl⟩ := findClientQueue_some found
      simp only [found, Option.map_some, Option.getD_some] at waits
      exact ⟨List.mem_flatMap.mpr ⟨queue, member, waits⟩, formed.owned queue member _ waits⟩
  · rintro ⟨waits, rfl⟩
    obtain ⟨queue, member, inside⟩ := List.mem_flatMap.mp waits
    rw [formed.owned queue member _ inside, formed.queued_eq member]
    exact inside

/-! ## A client's queue among the others -/

section Among

variable {front back : List ClientQueue} {queue : ClientQueue}

/-- The other queues are those of other clients. -/
theorem Pool.WellFormed.others (formed : pool.WellFormed)
    (clients : pool.clients = front ++ queue :: back) :
    (∀ other ∈ front, other.client ≠ queue.client) ∧
      ∀ other ∈ back, other.client ≠ queue.client := by
  have distinct := formed.distinct
  rw [clients, List.map_append, List.map_cons] at distinct
  obtain ⟨-, rightDistinct, apart⟩ := List.nodup_append.mp distinct
  obtain ⟨alone, -⟩ := List.nodup_cons.mp rightDistinct
  constructor
  · intro other member
    exact apart _ (List.mem_map_of_mem member) _ List.mem_cons_self
  · intro other member same
    exact alone (List.mem_map.mpr ⟨other, member, same⟩)

/-- A write to a client's queue leaves the others. -/
theorem updateQueue_at (formed : pool.WellFormed) (clients : pool.clients = front ++ queue :: back)
    (write : ClientQueue → ClientQueue) :
    pool.updateQueue queue.client write = front ++ write queue :: back := by
  obtain ⟨before, behind⟩ := formed.others clients
  have left : (front.map fun other => if other.client = queue.client then write other else other) =
      front := by
    conv_rhs => rw [← List.map_id front]
    exact List.map_congr_left fun other member => if_neg (before other member)
  have right : (back.map fun other => if other.client = queue.client then write other else other) =
      back := by
    conv_rhs => rw [← List.map_id back]
    exact List.map_congr_left fun other member => if_neg (behind other member)
  rw [Pool.updateQueue, clients, List.map_append, List.map_cons, left, right, if_pos rfl]

/-- What is behind a client's queue. -/
theorem behind_at (formed : pool.WellFormed) (clients : pool.clients = front ++ queue :: back)
    (first : Option ClientQueue) :
    pool.behind queue.client first = (back.head?.or first).map ClientQueue.client := by
  obtain ⟨before, -⟩ := formed.others clients
  have skipped : (pool.clients.dropWhile fun other => other.client ≠ queue.client) =
      queue :: back := by
    rw [clients, List.dropWhile_append_of_pos, List.dropWhile_cons_of_neg]
    · simp
    · exact fun other member => decide_eq_true (before other member)
  rw [Pool.behind, skipped, List.tail_cons]

/-- The rotation starts with the queue under the cursor. -/
theorem rotation_at (formed : pool.WellFormed) (clients : pool.clients = front ++ queue :: back)
    (cursor : pool.nextClient = some queue.client) : pool.rotation = queue :: back ++ front := by
  obtain ⟨before, -⟩ := formed.others clients
  have start : (pool.clients.findIdx fun other => some other.client = pool.nextClient) =
      front.length := by
    rw [clients, cursor, List.findIdx_append, List.findIdx_eq_length_of_false,
      if_neg (lt_irrefl _), List.findIdx_cons]
    · simp
    · intro other member
      simpa using before other member
  rw [Pool.rotation, start, clients, List.drop_left, List.take_left]

end Among

/-! ## What the operations do to them -/

/-- A write to one queue that keeps its client is found there. -/
theorem findClientQueue_updateQueue {write : ClientQueue → ClientQueue}
    (same : next.clients = pool.updateQueue client write)
    (kept : ∀ queue, (write queue).client = queue.client) (other : ClientId) :
    findClientQueue next other =
      (findClientQueue pool other).map fun queue =>
        if queue.client = client then write queue else queue := by
  have tested : ((fun queue : ClientQueue => decide (queue.client = other)) ∘ fun queue =>
      if queue.client = client then write queue else queue) =
      fun queue : ClientQueue => decide (queue.client = other) := by
    funext queue
    by_cases here : queue.client = client <;> simp [here, kept]
  rw [findClientQueue, same, Pool.updateQueue, List.find?_map, tested]
  rfl

/-- A write to one queue replaces the requests that wait for its client. -/
theorem queued_updateQueue {write : ClientQueue → ClientQueue} {queue : ClientQueue}
    (same : next.clients = pool.updateQueue client write)
    (kept : ∀ queue, (write queue).client = queue.client)
    (found : findClientQueue pool client = some queue) :
    next.queued = Function.update pool.queued client (write queue).requests := by
  funext other
  rw [Pool.queued, findClientQueue_updateQueue same kept other]
  by_cases here : other = client
  · subst here
    simp [found, (findClientQueue_some found).2]
  · rw [Function.update_of_ne here, Pool.queued]
    cases there : findClientQueue pool other with
    | none => rfl
    | some queue =>
      obtain ⟨-, rfl⟩ := findClientQueue_some there
      simp [here]

/-- A write to one queue that keeps its client and gives it its own requests keeps the pool well
formed. -/
theorem Pool.WellFormed.updateQueue (formed : pool.WellFormed) {write : ClientQueue → ClientQueue}
    (same : next.clients = pool.updateQueue client write)
    (kept : ∀ queue, (write queue).client = queue.client)
    (owned : ∀ queue ∈ pool.clients, queue.client = client →
      ∀ request ∈ (write queue).requests, request.client = client) : next.WellFormed := by
  constructor
  case distinct =>
    have clients : next.clients.map ClientQueue.client = pool.clients.map ClientQueue.client := by
      rw [same, Pool.updateQueue, List.map_map]
      apply List.map_congr_left
      intro queue member
      by_cases here : queue.client = client <;> simp [here, kept]
    rw [clients]
    exact formed.distinct
  case owned =>
    rw [same]
    intro queue member request inside
    obtain ⟨old, there, rfl⟩ := List.mem_map.mp member
    by_cases here : old.client = client
    · rw [if_pos here] at inside ⊢
      rw [kept, here]
      exact owned old there here request inside
    · rw [if_neg here] at inside ⊢
      exact formed.owned old there request inside

/-- A request is dequeued from the first queue of the rotation that has one, and the cursor moves
behind that queue. -/
theorem dequeueFairRequest_some {request : Request}
    (dequeued : dequeueFairRequest pool = some (request, next)) :
    ∃ queue rest, queue ∈ pool.clients ∧ queue.requests = request :: rest ∧
      pool.rotation.find? (fun queue => queue.active && queue.requests ≠ []) = some queue ∧
      next = { pool with
        clients := pool.updateQueue queue.client ClientQueue.pop
        pendingRequests := pool.pendingRequests - 1
        nextClient := pool.behind queue.client pool.clients.head? } := by
  unfold dequeueFairRequest at dequeued
  split at dequeued
  · cases dequeued
  · split at dequeued
    · rename_i queue found
      obtain ⟨first, head, same⟩ := Option.map_eq_some_iff.mp dequeued
      obtain ⟨rfl, made⟩ := Prod.mk.inj same
      have member : queue ∈ pool.clients := by
        have visited := List.mem_of_find?_eq_some found
        rcases List.mem_append.mp visited with late | early
        · exact List.mem_of_mem_drop late
        · exact List.mem_of_mem_take early
      exact ⟨queue, queue.requests.tail, member, (List.cons_head?_tail head).symm, found, made.symm⟩
    · cases dequeued

/-- A dequeued request was the first of its client; the other requests stay where they are. -/
theorem dequeueFairRequest_spec (formed : pool.WellFormed) {request : Request}
    (dequeued : dequeueFairRequest pool = some (request, next)) :
    next.WellFormed ∧ ∃ rest, pool.queued request.client = request :: rest ∧
      next.queued = Function.update pool.queued request.client rest := by
  obtain ⟨queue, rest, member, requests, -, made⟩ := dequeueFairRequest_some dequeued
  have owner : request.client = queue.client :=
    formed.owned queue member request (by simp [requests])
  have clients : next.clients = pool.updateQueue queue.client ClientQueue.pop := by
    rw [made]
  refine ⟨formed.updateQueue clients (fun _ => rfl) ?_, rest, ?_, ?_⟩
  · intro other there same inside member
    rw [← same]
    exact formed.owned other there inside (List.mem_of_mem_tail member)
  · rw [owner, formed.queued_eq member, requests]
  · rw [owner, queued_updateQueue clients (fun _ => rfl) (formed.find_eq member),
      ClientQueue.pop, requests, List.tail_cons]

/-- A client is registered if it has no queue yet, and gets the last one. -/
theorem threadpoolRegisterClient_ok {memory : Bool}
    (registered : threadpoolRegisterClient pool client memory = .ok next) :
    findClientQueue pool client = none ∧
      next = { pool with
        clients := pool.clients ++ [{ client }]
        nextClient := pool.nextClient.or (some client) } := by
  unfold threadpoolRegisterClient at registered
  split at registered
  · split at registered
    · cases registered
    · rename_i new
      cases registered
      exact ⟨by simpa using new, rfl⟩
  · cases registered

/-- A request is accepted if the pool runs and the client is registered and connected, and becomes
the last one of its queue. -/
theorem threadpoolSubmit_ok {disconnected memory : Bool} {requestsReceived : Nat} {rpcLine : Bytes}
    (submitted : threadpoolSubmit pool client disconnected requestsReceived rpcLine memory =
      .ok next) :
    pool.shuttingDown = false ∧ disconnected = false ∧
      (∃ queue, findClientQueue pool client = some queue) ∧
      next = { pool with
        clients := pool.updateQueue client
          (ClientQueue.push { client, seqNum := requestsReceived, rpcLine })
        pendingRequests := pool.pendingRequests + 1 } := by
  unfold threadpoolSubmit at submitted
  split at submitted
  · split at submitted
    · cases submitted
    · split at submitted
      · cases submitted
      · rename_i running accepted
        simp only [Bool.or_eq_true, not_or] at accepted
        obtain ⟨active, connected⟩ := accepted
        refine ⟨by simpa using running, by simpa using connected, ?_,
          (Except.ok.inj submitted).symm⟩
        cases found : findClientQueue pool client with
        | none => simp [found] at active
        | some queue => exact ⟨queue, rfl⟩
  · cases submitted

/-- A client that is registered has no requests yet; the others keep theirs. -/
theorem threadpoolRegisterClient_spec (formed : pool.WellFormed) {memory : Bool}
    (registered : threadpoolRegisterClient pool client memory = .ok next) :
    next.WellFormed ∧ next.queued = pool.queued ∧ pool.queued client = [] := by
  obtain ⟨missing, rfl⟩ := threadpoolRegisterClient_ok registered
  refine ⟨⟨?_, ?_⟩, ?_, by simp [Pool.queued, missing]⟩
  · rw [List.map_append, List.map_cons, List.map_nil, List.nodup_append]
    refine ⟨formed.distinct, by simp, ?_⟩
    intro old member other same
    obtain ⟨queue, inside, rfl⟩ := List.mem_map.mp member
    rw [List.mem_singleton.mp same]
    simpa using List.find?_eq_none.mp missing queue inside
  · intro queue member request inside
    rcases List.mem_append.mp member with old | fresh
    · exact formed.owned queue old request inside
    · rw [List.mem_singleton.mp fresh] at inside
      cases inside
  · funext other
    simp only [Pool.queued, findClientQueue, List.find?_append]
    cases there : pool.clients.find? fun queue => queue.client = other with
    | some queue => rfl
    | none =>
      by_cases same : client = other <;> simp [same]

/-- A removed client has no requests; the others keep theirs. -/
theorem threadpoolRemoveClient_spec (client : ClientId) (formed : pool.WellFormed) :
    (threadpoolRemoveClient pool client).WellFormed ∧
      (threadpoolRemoveClient pool client).queued = Function.update pool.queued client [] ∧
      findClientQueue (threadpoolRemoveClient pool client) client = none := by
  unfold threadpoolRemoveClient
  split
  · rename_i queue found
    refine ⟨⟨?_, ?_⟩, ?_, ?_⟩
    · exact formed.distinct.sublist (List.filter_sublist.map _)
    · intro queue member
      exact formed.owned queue (List.mem_of_mem_filter member)
    · funext other
      simp only [Pool.queued, findClientQueue, List.find?_filter]
      by_cases here : other = client
      · subst here
        rw [Function.update_self, List.find?_eq_none.mpr (by simp)]
        rfl
      · rw [Function.update_of_ne here]
        congr 2
        congr 1
        funext queue
        by_cases same : queue.client = other <;> simp [same, here]
    · simp [findClientQueue]
  · rename_i missing
    refine ⟨formed, ?_, missing⟩
    rw [eq_comm, Function.update_eq_self_iff]
    simp [Pool.queued, missing]

/-- An accepted request becomes the last of its client, which is registered and connected. -/
theorem threadpoolSubmit_spec (formed : pool.WellFormed) {disconnected memory : Bool}
    {requestsReceived : Nat} {rpcLine : Bytes}
    (submitted : threadpoolSubmit pool client disconnected requestsReceived rpcLine memory =
      .ok next) :
    next.WellFormed ∧ disconnected = false ∧ next.queued = Function.update pool.queued client
      (pool.queued client ++ [{ client, seqNum := requestsReceived, rpcLine }]) := by
  obtain ⟨-, connected, ⟨queue, found⟩, made⟩ := threadpoolSubmit_ok submitted
  have clients : next.clients = pool.updateQueue client
      (ClientQueue.push { client, seqNum := requestsReceived, rpcLine }) := by
    rw [made]
  refine ⟨formed.updateQueue clients (fun _ => rfl) ?_, connected, ?_⟩
  · intro other there same request inside
    rcases List.mem_append.mp inside with old | fresh
    · rw [← same]
      exact formed.owned other there request old
    · rw [List.mem_singleton.mp fresh]
  · rw [queued_updateQueue clients (fun _ => rfl) found, Pool.queued, found]
    rfl

end AnimateService
