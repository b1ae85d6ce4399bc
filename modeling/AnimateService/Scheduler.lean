import AnimateService.Library.KeyedQueues
import AnimateService.PoolLayout

/-!
# The scheduler as a map of queues

The calls of the thread pool's interface in any order, each at once as it runs under the pool's
mutex, on the pool in memory. In every run the memory represents a pool, and what the calls do to
it is what the events of a map of first-in-first-out queues do.
-/
namespace AnimateService

/-- A call of the pool, with the address of what it allocates. -/
inductive PoolCall where
  /-- `threadpool_register_client`. -/
  | register (client : ClientId) (queue : Option QueuePtr)
  /-- `threadpool_remove_client`. -/
  | remove (client : ClientId)
  /-- `threadpool_submit`, with the `disconnected` flag of the client. -/
  | submit (client : ClientId) (disconnected : Bool) (rpcLine : Bytes) (node : Option NodePtr)
  /-- `dequeue_fair_request`. -/
  | dequeue
  /-- `threadpool_destroy` sets `shutting_down`. -/
  | shutDown
  deriving DecidableEq, Repr

/-- What becomes of requests in a call. -/
structure PoolOutcome where
  /-- The request that is accepted. -/
  accepted : Option Request := none
  /-- The request that is dequeued. -/
  served : Option Request := none
  /-- The requests that are destroyed. -/
  discarded : List Request := []
  deriving DecidableEq, Repr

/-- A call in memory, with the passes that its loops may take. -/
def PoolMemory.call (memory : PoolMemory) (requestsReceived : ClientId → Nat) :
    PoolCall → Nat → Option (PoolOutcome × PoolMemory)
  | .register client queue, passes =>
    (memory.threadpoolRegisterClient client queue passes).map fun (_, next) => ({}, next)
  | .remove client, passes =>
    (memory.threadpoolRemoveClient client passes).map fun (discarded, next) =>
      ({ discarded }, next)
  | .submit client disconnected rpcLine node, passes =>
    (memory.threadpoolSubmit client disconnected (requestsReceived client) rpcLine node
      passes).map fun
      | (.ok (), next) =>
        ({ accepted := some { client, seqNum := requestsReceived client, rpcLine } }, next)
      | (.error _, next) => ({}, next)
  | .dequeue, passes =>
    (memory.dequeueFairRequest passes).map fun (served, next) => ({ served }, next)
  | .shutDown, _ => some ({}, { memory with shuttingDown := true })

/-- A call of the scheduler on a pool of lists. -/
def Pool.call (pool : Pool) (requestsReceived : ClientId → Nat) : PoolCall → PoolOutcome × Pool
  | .register client queue =>
    match threadpoolRegisterClient pool client queue.isSome with
    | .ok next => ({}, next)
    | .error _ => ({}, pool)
  | .remove client => ({ discarded := pool.queued client }, threadpoolRemoveClient pool client)
  | .submit client disconnected rpcLine node =>
    match threadpoolSubmit pool client disconnected (requestsReceived client) rpcLine
      node.isSome with
    | .ok next =>
      ({ accepted := some { client, seqNum := requestsReceived client, rpcLine } }, next)
    | .error _ => ({}, pool)
  | .dequeue =>
    match dequeueFairRequest pool with
    | some (request, next) => ({ served := some request }, next)
    | none => ({}, pool)
  | .shutDown => ({}, { pool with shuttingDown := true })

/-- A pool, the `requests_received` of the clients, and what became of the requests. -/
structure Scheduler where
  /-- The pool in memory. -/
  memory : PoolMemory := {}
  /-- `requests_received` of each client, as if it never wrapped. -/
  requestsReceived : ClientId → Nat := fun _ => 0
  /-- The requests that were accepted. -/
  accepted : List Request := []
  /-- The requests that were dequeued. -/
  served : List Request := []
  /-- The requests that were destroyed when their client was removed. -/
  discarded : List Request := []

/-- What `calloc` returns to a call is not in use. -/
def PoolCall.fresh (memory : PoolMemory) : PoolCall → Bool
  | .register _ queue => queue.all fun place => (memory.queues place).isNone
  | .submit _ _ _ node => node.all fun place => (memory.nodes place).isNone
  | _ => true

/-- The scheduler after a call. An accepted request counts up the `requests_received` of its client:
without an end, where the `uint64_t` of the source begins again behind 2⁶⁴ - 1. The pool hands the
numbers on and never reads them, so that all they are for here is to tell the requests apart. -/
def Scheduler.after (state : Scheduler) (outcome : PoolOutcome) (memory : PoolMemory) :
    Scheduler where
  memory := memory
  requestsReceived :=
    match outcome.accepted with
    | some request => Function.update state.requestsReceived request.client (request.seqNum + 1)
    | none => state.requestsReceived
  accepted := state.accepted ++ outcome.accepted.toList
  served := state.served ++ outcome.served.toList
  discarded := state.discarded ++ outcome.discarded

/-- A call, with what becomes of requests and the scheduler after it. -/
def Scheduler.call (state : Scheduler) (call : PoolCall) (passes : Nat) :
    Option (PoolOutcome × Scheduler) :=
  if call.fresh state.memory then
    (state.memory.call state.requestsReceived call passes).map fun (outcome, memory) =>
      (outcome, state.after outcome memory)
  else none

/-- The scheduler as a machine. -/
def schedulerMachine : Transition.Machine Scheduler (PoolCall × Nat) where
  step state label := (state.call label.1 label.2).map Prod.snd

/-! ## More passes -/

variable {memory : PoolMemory} {pool : Pool} {client : ClientId} {passes more : Nat}

/-- More passes find the same queue. -/
theorem findClientQueueFrom_more {start : Option QueuePtr} {found : Option QueuePtr}
    (returned : memory.findClientQueueFrom client passes start = some found)
    (enough : passes ≤ more) : memory.findClientQueueFrom client more start = some found := by
  induction passes generalizing start more with
  | zero =>
    cases start with
    | none => cases more <;> exact returned
    | some place => cases returned
  | succ passes ih =>
    obtain ⟨more, rfl⟩ : ∃ less, more = less + 1 := ⟨more - 1, by omega⟩
    cases start with
    | none => exact returned
    | some place =>
      simp only [PoolMemory.findClientQueueFrom] at returned ⊢
      split at returned
      · rename_i cell there
        split at returned
        · rename_i here
          rw [if_pos here]
          exact returned
        · rename_i other
          rw [if_neg other]
          exact ih returned (by omega)
      · cases returned

/-- More passes dequeue the same request. -/
theorem dequeueFrom_more {start place : QueuePtr} {result : Option Request × PoolMemory}
    (returned : memory.dequeueFrom start passes place = some result) (enough : passes ≤ more) :
    memory.dequeueFrom start more place = some result := by
  induction passes generalizing place more with
  | zero => cases returned
  | succ passes ih =>
    obtain ⟨more, rfl⟩ : ∃ less, more = less + 1 := ⟨more - 1, by omega⟩
    simp only [PoolMemory.dequeueFrom] at returned ⊢
    split at returned
    · split at returned
      · exact returned
      · split at returned
        · split at returned
          · rename_i back
            rw [if_pos back]
            exact returned
          · rename_i onwards
            rw [if_neg onwards]
            exact ih returned (by omega)
        · cases returned
    · cases returned

/-- More passes dequeue the same request. -/
theorem dequeueFairRequest_more {result : Option Request × PoolMemory}
    (returned : memory.dequeueFairRequest passes = some result) (enough : passes ≤ more) :
    memory.dequeueFairRequest more = some result := by
  simp only [PoolMemory.dequeueFairRequest] at returned ⊢
  split at returned
  · rename_i nothing
    rw [if_pos nothing]
    exact returned
  · rename_i something
    rw [if_neg something]
    split at returned
    · exact dequeueFrom_more returned enough
    · cases returned

/-- More passes destroy the same requests. -/
theorem destroyRequests_more {start : Option NodePtr} {result : List Request × PoolMemory}
    (returned : memory.destroyRequests passes start = some result) (enough : passes ≤ more) :
    memory.destroyRequests more start = some result := by
  induction passes generalizing memory start more result with
  | zero =>
    cases start with
    | none => cases more <;> exact returned
    | some place => cases returned
  | succ passes ih =>
    obtain ⟨more, rfl⟩ : ∃ less, more = less + 1 := ⟨more - 1, by omega⟩
    cases start with
    | none => exact returned
    | some place =>
      simp only [PoolMemory.destroyRequests] at returned ⊢
      split at returned
      · obtain ⟨rest, destroyed, same⟩ := Option.map_eq_some_iff.mp returned
        rw [ih destroyed (by omega)]
        exact congrArg some same
      · cases returned

/-- A call that returns, returns the same with more passes. -/
theorem PoolMemory.call_more {requestsReceived : ClientId → Nat} {call : PoolCall}
    {result : PoolOutcome × PoolMemory}
    (returned : memory.call requestsReceived call passes = some result) (enough : passes ≤ more) :
    memory.call requestsReceived call more = some result := by
  cases call with
  | register client queue =>
    obtain ⟨registered, done, rfl⟩ := Option.map_eq_some_iff.mp returned
    refine Option.map_eq_some_iff.mpr ⟨registered, ?_, rfl⟩
    cases queue with
    | none => exact done
    | some place =>
      obtain ⟨found, searched, rest⟩ := Option.bind_eq_some_iff.mp done
      exact Option.bind_eq_some_iff.mpr ⟨found, findClientQueueFrom_more searched enough, rest⟩
  | remove client =>
    obtain ⟨removed, done, rfl⟩ := Option.map_eq_some_iff.mp returned
    refine Option.map_eq_some_iff.mpr ⟨removed, ?_, rfl⟩
    obtain ⟨found, searched, rest⟩ := Option.bind_eq_some_iff.mp done
    refine Option.bind_eq_some_iff.mpr ⟨found, findClientQueueFrom_more searched enough, ?_⟩
    cases found with
    | none => exact rest
    | some place =>
      obtain ⟨unlinked, step, rest⟩ := Option.bind_eq_some_iff.mp rest
      obtain ⟨cell, there, rest⟩ := Option.bind_eq_some_iff.mp rest
      obtain ⟨emptied, destroyed, rest⟩ := Option.bind_eq_some_iff.mp rest
      exact Option.bind_eq_some_iff.mpr ⟨unlinked, step, Option.bind_eq_some_iff.mpr
        ⟨cell, there, Option.bind_eq_some_iff.mpr
          ⟨emptied, destroyRequests_more destroyed enough, rest⟩⟩⟩
  | submit client disconnected rpcLine node =>
    obtain ⟨submitted, done, rfl⟩ := Option.map_eq_some_iff.mp returned
    refine Option.map_eq_some_iff.mpr ⟨submitted, ?_, rfl⟩
    cases node with
    | none => exact done
    | some node =>
      simp only [PoolMemory.threadpoolSubmit] at done ⊢
      split at done
      · rename_i closing
        rw [if_pos closing]
        exact done
      · rename_i running
        rw [if_neg running]
        obtain ⟨found, searched, rest⟩ := Option.bind_eq_some_iff.mp done
        exact Option.bind_eq_some_iff.mpr ⟨found, findClientQueueFrom_more searched enough, rest⟩
  | dequeue =>
    obtain ⟨dequeued, done, rfl⟩ := Option.map_eq_some_iff.mp returned
    exact Option.map_eq_some_iff.mpr ⟨dequeued, dequeueFairRequest_more done enough, rfl⟩
  | shutDown => exact returned

/-! ## Calls in memory and on lists -/

/-- In a memory that represents a pool every call returns, with the outcome that it has on lists,
and leaves a memory that represents the list it makes. -/
theorem Represents.call (represents : Represents memory pool) (requestsReceived : ClientId → Nat)
    {call : PoolCall} (fresh : call.fresh memory = true) :
    ∃ bound after, memory.call requestsReceived call bound =
        some ((pool.call requestsReceived call).1, after) ∧
      Represents after (pool.call requestsReceived call).2 := by
  cases call with
  | register client queue =>
    have free : ∀ place ∈ queue, memory.queues place = none := by
      rintro place rfl
      simpa [PoolCall.fresh] using fresh
    have registered := represents.register client free (le_refl _)
    refine ⟨pool.clients.length, ?_⟩
    cases made : threadpoolRegisterClient pool client queue.isSome with
    | error error =>
      rw [made] at registered
      refine ⟨memory, ?_, ?_⟩
      · simp [PoolMemory.call, Pool.call, made, registered]
      · simpa [Pool.call, made] using represents
    | ok next =>
      rw [made] at registered
      obtain ⟨after, returned, represented⟩ := registered
      refine ⟨after, ?_, ?_⟩
      · simp [PoolMemory.call, Pool.call, made, returned]
      · simpa [Pool.call, made] using represented
  | remove client =>
    obtain ⟨after, returned, represented⟩ := represents.remove client
      (Nat.le_add_right _ (pool.queued client).length) (Nat.le_add_left _ pool.clients.length)
    refine ⟨pool.clients.length + (pool.queued client).length, after, ?_, represented⟩
    simp [PoolMemory.call, Pool.call, returned]
  | submit client disconnected rpcLine node =>
    have free : ∀ place ∈ node, memory.nodes place = none := by
      rintro place rfl
      simpa [PoolCall.fresh] using fresh
    have submitted := represents.submit client disconnected (requestsReceived client) rpcLine free
      (le_refl _)
    refine ⟨pool.clients.length, ?_⟩
    cases made : threadpoolSubmit pool client disconnected (requestsReceived client) rpcLine
        node.isSome with
    | error error =>
      rw [made] at submitted
      refine ⟨memory, ?_, ?_⟩
      · simp [PoolMemory.call, Pool.call, made, submitted]
      · simpa [Pool.call, made] using represents
    | ok next =>
      rw [made] at submitted
      obtain ⟨after, returned, represented⟩ := submitted
      refine ⟨after, ?_, ?_⟩
      · simp [PoolMemory.call, Pool.call, made, returned]
      · simpa [Pool.call, made] using represented
  | dequeue =>
    have dequeued := represents.dequeue (le_refl _)
    refine ⟨pool.clients.length, ?_⟩
    cases made : dequeueFairRequest pool with
    | none =>
      rw [made] at dequeued
      refine ⟨memory, ?_, ?_⟩
      · simp [PoolMemory.call, Pool.call, made, dequeued.1]
      · simpa [Pool.call, made] using represents
    | some result =>
      rw [made] at dequeued
      obtain ⟨after, returned, represented⟩ := dequeued
      refine ⟨after, ?_, ?_⟩
      · simp [PoolMemory.call, Pool.call, made, returned]
      · simpa [Pool.call, made] using represented
  | shutDown =>
    obtain ⟨⟨distinct, owned⟩, layout, laid⟩ := represents
    exact ⟨0, _, rfl, ⟨distinct, owned⟩, layout, { laid with closing := rfl }⟩

/-- The requests that wait for each registered client. -/
def Pool.waits (pool : Pool) (client : ClientId) : Option (List Request) :=
  (findClientQueue pool client).map ClientQueue.requests

/-- The scheduler with its pool as a map of queues. -/
def Scheduler.book (state : Scheduler) (pool : Pool) : KeyedQueues.Book ClientId Request where
  waits := pool.waits
  accepted := state.accepted
  served := state.served
  discarded := state.discarded

/-- The events of the map of queues. -/
noncomputable abbrev requestQueues :
    Transition.Machine (KeyedQueues.Book ClientId Request) (KeyedQueues.Event ClientId Request) :=
  KeyedQueues.machine Request.client

/-- A write to one queue replaces what waits for its client. -/
theorem waits_updateQueue {next : Pool} {write : ClientQueue → ClientQueue} {queue : ClientQueue}
    (same : next.clients = pool.updateQueue client write)
    (kept : ∀ queue, (write queue).client = queue.client)
    (found : findClientQueue pool client = some queue) :
    next.waits = Function.update pool.waits client (some (write queue).requests) := by
  funext other
  rw [Pool.waits, findClientQueue_updateQueue same kept other]
  by_cases here : other = client
  · subst here
    simp [found, (findClientQueue_some found).2]
  · rw [Function.update_of_ne here, Pool.waits]
    cases there : findClientQueue pool other with
    | none => rfl
    | some queue =>
      obtain ⟨-, rfl⟩ := findClientQueue_some there
      simp [here]

/-- A client that is registered has an empty queue. -/
theorem waits_register {next : Pool} (missing : findClientQueue pool client = none)
    (clients : next.clients = pool.clients ++ [{ client := client }]) :
    next.waits = Function.update pool.waits client (some []) := by
  funext other
  rw [Pool.waits, findClientQueue, clients, List.find?_append]
  by_cases here : other = client
  · subst here
    rw [show pool.clients.find? (fun queue => queue.client = other) = none from missing]
    simp
  · rw [Function.update_of_ne here, List.find?_singleton]
    simp only [Ne.symm here, decide_false, Bool.false_eq_true, if_false, Option.or_none]
    rfl

/-- A removed client has no queue. -/
theorem waits_remove (client : ClientId) :
    (threadpoolRemoveClient pool client).waits = Function.update pool.waits client none := by
  funext other
  unfold threadpoolRemoveClient
  split
  · simp only [Pool.waits, findClientQueue, List.find?_filter]
    by_cases here : other = client
    · subst here
      rw [Function.update_self, List.find?_eq_none.mpr (by simp)]
      rfl
    · rw [Function.update_of_ne here]
      congr 2
      funext queue
      by_cases same : queue.client = other <;> simp [same, here]
  · rename_i missing
    rw [eq_comm]
    refine congrFun (Function.update_eq_self_iff.mpr ?_) other
    rw [Pool.waits, missing]
    rfl

/-- What a call does is what events of the map of queues do. -/
theorem Represents.refines {state : Scheduler} (represents : Represents state.memory pool)
    (new : ∀ request ∈ state.accepted, request.seqNum < state.requestsReceived request.client)
    (call : PoolCall) (after : PoolMemory) :
    let result := pool.call state.requestsReceived call
    ∃ events, requestQueues.run (state.book pool) events =
      some ((state.after result.1 after).book result.2) := by
  have formed := represents.1
  have unchanged : ∀ {outcome : PoolOutcome} {next : Pool}, outcome = {} → next.waits = pool.waits →
      ∃ events, requestQueues.run (state.book pool) events =
        some ((state.after outcome after).book next) := by
    rintro outcome next rfl same
    refine ⟨[], ?_⟩
    simp [Scheduler.after, Scheduler.book, same]
  have single : ∀ event next, KeyedQueues.step Request.client (state.book pool) event = some next →
      ∃ events, requestQueues.run (state.book pool) events = some next :=
    fun event next stepped => ⟨[event], Transition.Machine.run_cons_some.mpr ⟨next, stepped, rfl⟩⟩
  cases call with
  | register client queue =>
    unfold Pool.call
    dsimp only
    split
    · rename_i next registered
      obtain ⟨missing, made⟩ := threadpoolRegisterClient_ok registered
      have waits := waits_register missing (congrArg Pool.clients made)
      have new : (state.book pool).waits client = none := Option.map_eq_none_iff.mpr missing
      refine single _ _ ((KeyedQueues.step_add new).trans ?_)
      simp [Scheduler.after, Scheduler.book, waits]
    · exact unchanged rfl rfl
  | remove client =>
    refine single _ _ ((KeyedQueues.step_remove _ client).trans ?_)
    simp [Scheduler.after, Scheduler.book, Pool.call, KeyedQueues.Book.waiting, Pool.queued,
      waits_remove]
    rfl
  | submit client disconnected rpcLine node =>
    unfold Pool.call
    dsimp only
    split
    · rename_i next submitted
      obtain ⟨-, -, ⟨queue, found⟩, made⟩ := threadpoolSubmit_ok submitted
      have waits := waits_updateQueue (congrArg Pool.clients made) (fun _ => rfl) found
      have here : (state.book pool).waits client = some queue.requests := by
        simp [Scheduler.book, Pool.waits, found]
      have fresh : { client, seqNum := state.requestsReceived client, rpcLine } ∉
          state.accepted := fun inside => lt_irrefl _ (new _ inside)
      have accepted : KeyedQueues.step Request.client (state.book pool)
          (.accept { client, seqNum := state.requestsReceived client, rpcLine }) = _ :=
        KeyedQueues.step_accept here fresh
      refine single _ _ (accepted.trans ?_)
      simp [Scheduler.after, Scheduler.book, waits, ClientQueue.push]
    · exact unchanged rfl rfl
  | dequeue =>
    have dequeued := represents.dequeue (le_refl _)
    unfold Pool.call
    dsimp only
    split
    · rename_i request next made
      obtain ⟨queue, rest, member, requests, -, result⟩ := dequeueFairRequest_some made
      have owner : queue.client = request.client :=
        (formed.owned queue member request (by simp [requests])).symm
      have found := formed.find_eq member
      have waits := waits_updateQueue (congrArg Pool.clients result) (fun _ => rfl) found
      have here : (state.book pool).waits request.client = some (request :: rest) := by
        simp [Scheduler.book, Pool.waits, ← owner, found, ← requests]
      refine single _ _ ((KeyedQueues.step_serve here).trans ?_)
      simp [Scheduler.after, Scheduler.book, waits, owner, ClientQueue.pop, requests]
    · rename_i idle
      rw [idle] at dequeued
      refine single _ _ ((KeyedQueues.step_idle fun client => ?_).trans ?_)
      · cases found : findClientQueue pool client with
        | none => simp [Scheduler.book, KeyedQueues.Book.waiting, Pool.waits, found]
        | some queue =>
          have empty := List.flatMap_eq_nil_iff.mp dequeued.2 queue (findClientQueue_some found).1
          simp [Scheduler.book, KeyedQueues.Book.waiting, Pool.waits, found, empty]
      · simp [Scheduler.after, Scheduler.book]
  | shutDown => exact unchanged rfl rfl

/-! ## Runs -/

variable {state next : Scheduler}

/-- What holds of the scheduler at all times: its memory represents a pool, an accepted request is
older than the next one of its client, and it is what events made of the map of queues. -/
structure Scheduler.Holds (state : Scheduler) (pool : Pool) : Prop where
  /-- The memory represents the pool. -/
  represents : Represents state.memory pool
  /-- The next request of a client is a new one. -/
  new : ∀ request ∈ state.accepted, request.seqNum < state.requestsReceived request.client
  /-- The map of queues. -/
  reached : ∃ events, requestQueues.run {} events = some (state.book pool)

/-- The scheduler before its first call. -/
theorem Scheduler.holds_start (requestsReceived : ClientId → Nat) :
    Scheduler.Holds { requestsReceived := requestsReceived } {} :=
  ⟨represents_empty, by simp, [], rfl⟩

/-- An accepted request gets the next number of its client. -/
theorem Pool.call_accepted {requestsReceived : ClientId → Nat} {call : PoolCall}
    {request : Request} (accepted : (pool.call requestsReceived call).1.accepted = some request) :
    request.seqNum = requestsReceived request.client := by
  cases call with
  | register client queue =>
    unfold Pool.call at accepted
    dsimp only at accepted
    split at accepted <;> cases accepted
  | remove client => cases accepted
  | submit client disconnected rpcLine node =>
    unfold Pool.call at accepted
    dsimp only at accepted
    split at accepted
    · cases accepted
      rfl
    · cases accepted
  | dequeue =>
    unfold Pool.call at accepted
    dsimp only at accepted
    split at accepted <;> cases accepted
  | shutDown => cases accepted

/-- A call does what it does on lists. -/
theorem Scheduler.Holds.call {call : PoolCall} {outcome : PoolOutcome} (holds : state.Holds pool)
    (called : state.call call passes = some (outcome, next)) :
    outcome = (pool.call state.requestsReceived call).1 ∧
      (∃ memory, next = state.after outcome memory) ∧
      next.Holds (pool.call state.requestsReceived call).2 := by
  obtain ⟨fresh, called⟩ := Option.ite_none_right_eq_some.mp called
  obtain ⟨result, returned, made⟩ := Option.map_eq_some_iff.mp called
  obtain ⟨bound, after, listed, represents⟩ :=
    holds.represents.call state.requestsReceived fresh
  have more := PoolMemory.call_more returned (Nat.le_max_left passes bound)
  rw [PoolMemory.call_more listed (Nat.le_max_right passes bound)] at more
  obtain rfl := Option.some.inj more
  obtain ⟨rfl, rfl⟩ := Prod.mk.inj made
  refine ⟨rfl, ⟨after, rfl⟩, represents, ?_, ?_⟩
  · intro request inside
    cases accepted : (pool.call state.requestsReceived call).1.accepted with
    | none =>
      simp only [Scheduler.after, accepted, Option.toList_none, List.append_nil] at inside ⊢
      exact holds.new request inside
    | some latest =>
      have number := Pool.call_accepted accepted
      simp only [Scheduler.after, accepted, Option.toList_some, List.mem_append,
        List.mem_singleton] at inside ⊢
      by_cases same : request.client = latest.client
      · rw [same, Function.update_self]
        rcases inside with old | rfl
        · have below := holds.new request old
          rw [same, ← number] at below
          omega
        · omega
      · rw [Function.update_of_ne same]
        rcases inside with old | rfl
        · exact holds.new request old
        · exact absurd rfl same
  · obtain ⟨before, ran⟩ := holds.reached
    obtain ⟨events, refined⟩ := holds.represents.refines holds.new call after
    exact ⟨before ++ events, Transition.Machine.run_append_some.mpr ⟨_, ran, refined⟩⟩

/-- A step does what the call does on lists. -/
theorem Scheduler.Holds.step {label : PoolCall × Nat} (holds : state.Holds pool)
    (stepped : schedulerMachine.step state label = some next) :
    ∃ memory, next = state.after (pool.call state.requestsReceived label.1).1 memory ∧
      next.Holds (pool.call state.requestsReceived label.1).2 := by
  obtain ⟨⟨outcome, after⟩, called, rfl⟩ := Option.map_eq_some_iff.mp stepped
  obtain ⟨rfl, made, later⟩ := holds.call called
  obtain ⟨memory, made⟩ := made
  exact ⟨memory, made, later⟩

/-- Every run keeps what holds of the scheduler. -/
theorem Scheduler.Holds.run {calls : List (PoolCall × Nat)} (holds : state.Holds pool)
    (ran : schedulerMachine.run state calls = some next) : ∃ after, next.Holds after := by
  have kept : ∀ state label next, (∃ pool, Scheduler.Holds state pool) →
      schedulerMachine.step state label = some next → ∃ pool, next.Holds pool := by
    rintro state label next ⟨pool, holds⟩ stepped
    obtain ⟨-, -, later⟩ := holds.step stepped
    exact ⟨_, later⟩
  exact Transition.Machine.run_invariant kept ⟨pool, holds⟩ ran

/-- A call that allocates what is free returns. -/
theorem Scheduler.Holds.returns {call : PoolCall} (holds : state.Holds pool)
    (fresh : call.fresh state.memory = true) :
    ∃ bound next, ∀ passes ≥ bound, schedulerMachine.step state (call, passes) = some next := by
  obtain ⟨bound, after, listed, -⟩ := holds.represents.call state.requestsReceived fresh
  refine ⟨bound, state.after (pool.call state.requestsReceived call).1 after,
    fun passes enough => ?_⟩
  simp [schedulerMachine, Scheduler.call, fresh, PoolMemory.call_more listed enough]

/-- The requests of a client among others. -/
def requestsOf (client : ClientId) (requests : List Request) : List Request :=
  requests.filter fun request => request.client = client

/-- What has become of the requests that the pool accepted. -/
structure Scheduler.Fates (state : Scheduler) (pool : Pool) : Prop where
  /-- A request is accepted once. -/
  accepted : state.accepted.Nodup
  /-- A request is dequeued or destroyed once, and not both. -/
  once : (state.served ++ state.discarded).Nodup
  /-- A request that waits has been neither. -/
  waits : ∀ client, ∀ request ∈ pool.queued client,
    request ∉ state.served ∧ request ∉ state.discarded
  /-- A request that was accepted waits, or has been dequeued or destroyed. -/
  fate : ∀ request, request ∈ state.accepted ↔
    request ∈ pool.queued request.client ∨ request ∈ state.served ∨ request ∈ state.discarded
  /-- The requests of a client were dequeued in the order of submission, before those that
  wait. -/
  order : ∀ client, (requestsOf client state.served ++ pool.queued client).Sublist
    (requestsOf client state.accepted)

/-- At all times each accepted request has one of its fates. -/
theorem Scheduler.Holds.fates (holds : state.Holds pool) : state.Fates pool := by
  obtain ⟨events, ran⟩ := holds.reached
  have accounted := KeyedQueues.run_accounted ran
  exact ⟨accounted.once, accounted.nodup, fun _ _ => accounted.waits, fun _ => accounted.fate,
    accounted.order⟩

/-- The records of the requests only grow. -/
theorem scheduler_grows {calls : List (PoolCall × Nat)}
    (ran : schedulerMachine.run state calls = some next) :
    (∃ later, next.served = state.served ++ later) ∧
      ∃ later, next.discarded = state.discarded ++ later := by
  have kept : ∀ middle label after, ((∃ later, middle.served = state.served ++ later) ∧
      ∃ later, middle.discarded = state.discarded ++ later) →
        schedulerMachine.step middle label = some after →
          (∃ later, after.served = state.served ++ later) ∧
            ∃ later, after.discarded = state.discarded ++ later := by
    rintro middle label after ⟨⟨served, here⟩, discarded, there⟩ stepped
    obtain ⟨⟨outcome, _⟩, called, rfl⟩ := Option.map_eq_some_iff.mp stepped
    obtain ⟨-, called⟩ := Option.ite_none_right_eq_some.mp called
    obtain ⟨⟨outcome, memory⟩, -, same⟩ := Option.map_eq_some_iff.mp called
    obtain ⟨rfl, rfl⟩ := Prod.mk.inj same
    refine ⟨⟨served ++ outcome.served.toList, ?_⟩, discarded ++ outcome.discarded, ?_⟩
    · simp [Scheduler.after, here]
    · simp [Scheduler.after, there]
  exact Transition.Machine.run_invariant kept
    ⟨⟨[], (List.append_nil _).symm⟩, [], (List.append_nil _).symm⟩ ran

/-- A client that is not registered stays so until it is registered, and none of its requests is
dequeued. -/
theorem Pool.call_unregistered (formed : pool.WellFormed) (requestsReceived : ClientId → Nat)
    {call : PoolCall} (missing : pool.waits client = none)
    (other : ∀ queue, call ≠ .register client queue) :
    (pool.call requestsReceived call).2.waits client = none ∧
      ∀ request ∈ (pool.call requestsReceived call).1.served, request.client ≠ client := by
  cases call with
  | register registered queue =>
    have apart : client ≠ registered := by
      rintro rfl
      exact other queue rfl
    unfold Pool.call
    dsimp only
    split
    · rename_i next made
      obtain ⟨absent, result⟩ := threadpoolRegisterClient_ok made
      rw [waits_register absent (congrArg Pool.clients result), Function.update_of_ne apart]
      exact ⟨missing, by simp⟩
    · exact ⟨missing, by simp⟩
  | remove removed =>
    refine ⟨?_, by simp [Pool.call]⟩
    rw [show (pool.call requestsReceived (.remove removed)).2.waits = _ from waits_remove removed]
    by_cases same : client = removed
    · rw [same, Function.update_self]
    · rw [Function.update_of_ne same, missing]
  | submit submitter disconnected rpcLine node =>
    unfold Pool.call
    dsimp only
    split
    · rename_i next submitted
      obtain ⟨-, -, ⟨queue, found⟩, made⟩ := threadpoolSubmit_ok submitted
      have apart : client ≠ submitter := by
        rintro rfl
        rw [Pool.waits, found] at missing
        cases missing
      rw [waits_updateQueue (congrArg Pool.clients made) (fun _ => rfl) found,
        Function.update_of_ne apart]
      exact ⟨missing, by simp⟩
    · exact ⟨missing, by simp⟩
  | dequeue =>
    unfold Pool.call
    dsimp only
    split
    · rename_i request next made
      obtain ⟨queue, rest, member, requests, -, result⟩ := dequeueFairRequest_some made
      have found := formed.find_eq member
      have owner : request.client = queue.client :=
        formed.owned queue member request (by simp [requests])
      have apart : client ≠ queue.client := by
        rintro rfl
        rw [Pool.waits, found] at missing
        cases missing
      rw [waits_updateQueue (congrArg Pool.clients result) (fun _ => rfl) found,
        Function.update_of_ne apart]
      refine ⟨missing, ?_⟩
      rintro other ⟨⟩ same
      exact apart (same.symm.trans owner)
    · exact ⟨missing, by simp⟩
  | shutDown => exact ⟨missing, by simp [Pool.call]⟩

/-- Until a client that is not registered is registered, none of its requests is dequeued. -/
theorem Scheduler.Holds.unregistered (holds : state.Holds pool) (missing : pool.waits client = none)
    {calls : List (PoolCall × Nat)} (others : ∀ label ∈ calls, ∀ queue,
      label.1 ≠ .register client queue)
    (ran : schedulerMachine.run state calls = some next) {later : List Request}
    (served : next.served = state.served ++ later) :
    ∀ request ∈ later, request.client ≠ client := by
  have kept : ∀ middle label after, (∀ queue, label.1 ≠ PoolCall.register client queue) →
      (∃ pool, Scheduler.Holds middle pool ∧ pool.waits client = none ∧
        ∃ later, middle.served = state.served ++ later ∧
          ∀ request ∈ later, request.client ≠ client) →
      schedulerMachine.step middle label = some after →
      ∃ pool, after.Holds pool ∧ pool.waits client = none ∧
        ∃ later, after.served = state.served ++ later ∧
          ∀ request ∈ later, request.client ≠ client := by
    rintro middle label after other ⟨pool, holds, missing, later, served, away⟩ stepped
    obtain ⟨memory, made, holds'⟩ := holds.step stepped
    obtain ⟨stays, others⟩ := Pool.call_unregistered holds.represents.1 middle.requestsReceived
      missing other
    refine ⟨_, holds', stays, later ++
      (pool.call middle.requestsReceived label.1).1.served.toList, ?_, ?_⟩
    · rw [made, ← List.append_assoc, ← served]
      rfl
    · intro request inside
      rcases List.mem_append.mp inside with old | new
      · exact away request old
      · exact others request (by simpa using new)
  obtain ⟨-, -, -, all, same, away⟩ := Transition.Machine.run_invariant_on kept others
    ⟨pool, holds, missing, [], (List.append_nil _).symm, by simp⟩ ran
  rw [served] at same
  rw [List.append_cancel_left same]
  exact away

end AnimateService
