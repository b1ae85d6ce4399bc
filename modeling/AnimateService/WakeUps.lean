import AnimateService.Scheduler

/-!
# Waking the workers

The workers of the pool around its condition variable `work_available`. A section under the pool's
mutex is one step; a signal unblocks one blocked worker if there is one, a broadcast all of them,
and a blocked worker may be unblocked by nothing. While a worker is blocked, each request that is
pending has a worker on its way to dequeue.
-/
namespace AnimateService

/-- Where a worker is in `worker_main`. -/
inductive WorkerPlace where
  /-- Before `pthread_mutex_lock`. -/
  | arriving
  /-- Inside `pthread_cond_wait`. -/
  | blocked
  /-- Inside `pthread_cond_wait`, unblocked. -/
  | woken
  /-- With a request, outside the mutex. -/
  | handling (request : Request)
  /-- It has returned. -/
  | exited
  deriving DecidableEq, Repr

/-- The worker is outside the handler and on its way to dequeue. -/
def WorkerPlace.onTheWay : WorkerPlace → Bool
  | .arriving | .woken => true
  | _ => false

/-- The pool with its workers. -/
structure WorkerPool where
  /-- The pool. -/
  scheduler : Scheduler := {}
  /-- Its workers. -/
  workers : List WorkerPlace

/-- What happens next. -/
inductive WorkerPoolLabel where
  /-- The main loop calls the pool; a signal unblocks a worker. -/
  | call (call : PoolCall) (passes : Nat) (signalled : Option Nat)
  /-- A worker locks the mutex, and goes on until it unlocks it or is blocked. -/
  | enter (worker : Nat) (passes : Nat)
  /-- A blocked worker is unblocked by nothing. -/
  | spurious (worker : Nat)
  /-- The handler has returned, and a worker is done with its request. Whether and when it returns is
  not for the pool to say. -/
  | complete (worker : Nat)
  deriving DecidableEq, Repr

/-- `pthread_cond_signal`. -/
def signal (workers : List WorkerPlace) : Option Nat → Option (List WorkerPlace)
  | some worker =>
    if workers[worker]? = some .blocked then some (workers.set worker .woken) else none
  | none => if .blocked ∈ workers then none else some workers

/-- A blocked worker is unblocked. -/
def WorkerPlace.wake : WorkerPlace → WorkerPlace
  | .blocked => .woken
  | place => place

/-- The workers after a call: `threadpool_submit` signals if it accepts the request,
`threadpool_destroy` broadcasts. -/
def announce (workers : List WorkerPlace) (signalled : Option Nat) (outcome : PoolOutcome) :
    PoolCall → Option (List WorkerPlace)
  | .submit .. => if outcome.accepted.isSome then signal workers signalled else some workers
  | .shutDown => some (workers.map WorkerPlace.wake)
  | _ => some workers

/-- Where a worker is after `dequeue_fair_request`. -/
def WorkerPlace.dequeued : Option Request → WorkerPlace
  | some request => .handling request
  | none => .arriving

/-- The section of `worker_main` under the mutex. -/
def enterWorker (state : WorkerPool) (worker passes : Nat) : Option WorkerPool :=
  if !state.scheduler.memory.shuttingDown && state.scheduler.memory.pendingRequests = 0 then
    some { state with workers := state.workers.set worker .blocked }
  else if state.scheduler.memory.shuttingDown && state.scheduler.memory.pendingRequests = 0 then
    some { state with workers := state.workers.set worker .exited }
  else
    (state.scheduler.call .dequeue passes).map fun (outcome, scheduler) =>
      { scheduler, workers := state.workers.set worker (.dequeued outcome.served) }

/-- The pool and its workers as a machine. -/
def workerPoolMachine : Transition.Machine WorkerPool WorkerPoolLabel where
  step state
    | .call call passes signalled =>
      if call = .dequeue then none
      else
        (state.scheduler.call call passes).bind fun (outcome, scheduler) =>
          (announce state.workers signalled outcome call).map fun workers =>
            { scheduler, workers }
    | .enter worker passes =>
      if (state.workers[worker]?).any WorkerPlace.onTheWay then enterWorker state worker passes
      else none
    | .spurious worker =>
      if state.workers[worker]? = some .blocked then
        some { state with workers := state.workers.set worker .woken }
      else none
    | .complete worker =>
      match state.workers[worker]? with
      | some (.handling _) => some { state with workers := state.workers.set worker .arriving }
      | _ => none

/-! ## Counting -/

variable {state next : WorkerPool} {pool : Pool} {workers : List WorkerPlace}

/-- The count of the workers on their way when one of them goes on. -/
theorem countP_set_place {worker : Nat} {place : WorkerPlace} (there : workers[worker]? = some place)
    (after : WorkerPlace) :
    (workers.set worker after).countP WorkerPlace.onTheWay + place.onTheWay.toNat =
      workers.countP WorkerPlace.onTheWay + after.onTheWay.toNat := by
  obtain ⟨inside, rfl⟩ := List.getElem?_eq_some_iff.mp there
  have counted := List.countP_set (p := WorkerPlace.onTheWay) (a := after) inside
  have least := List.boole_getElem_le_countP (p := WorkerPlace.onTheWay) inside
  rw [counted]
  cases before : WorkerPlace.onTheWay workers[worker] <;> cases after.onTheWay <;>
    simp only [before, Bool.toNat_false, Bool.toNat_true, Bool.false_eq_true, ↓reduceIte]
      at least ⊢ <;> omega

/-- The counter and the flag in memory are those of the pool. -/
theorem Represents.counters {memory : PoolMemory} (represents : Represents memory pool) :
    memory.pendingRequests = pool.pendingRequests ∧ memory.shuttingDown = pool.shuttingDown := by
  obtain ⟨-, layout, laid⟩ := represents
  exact ⟨laid.counted.symm, laid.closing.symm⟩

/-- A call adds to the counter the request that it accepts at most, accepts none when the pool is
shutting down, and does not take that back. -/
theorem Pool.call_counters (pool : Pool) (requestsReceived : ClientId → Nat) (call : PoolCall) :
    (pool.call requestsReceived call).2.pendingRequests ≤
        pool.pendingRequests + (pool.call requestsReceived call).1.accepted.toList.length ∧
      ((pool.call requestsReceived call).1.accepted.isSome → pool.shuttingDown = false) ∧
      (pool.shuttingDown = true → (pool.call requestsReceived call).2.shuttingDown = true) := by
  cases call with
  | register client queue =>
    unfold Pool.call
    dsimp only
    split
    · rename_i next made
      obtain ⟨-, rfl⟩ := threadpoolRegisterClient_ok made
      simp
    · simp
  | remove client =>
    simp only [Pool.call, threadpoolRemoveClient]
    split <;> simp
  | submit client disconnected rpcLine node =>
    unfold Pool.call
    dsimp only
    split
    · rename_i next submitted
      obtain ⟨running, -, -, rfl⟩ := threadpoolSubmit_ok submitted
      simp [running]
    · simp
  | dequeue =>
    unfold Pool.call
    dsimp only
    split
    · rename_i request next made
      obtain ⟨queue, rest, -, -, -, rfl⟩ := dequeueFairRequest_some made
      simp
    · simp
  | shutDown => simp [Pool.call]

/-- A request that is dequeued is taken off the counter. -/
theorem Pool.dequeue_counters (pool : Pool) (requestsReceived : ClientId → Nat) :
    (pool.call requestsReceived .dequeue).2.pendingRequests +
        (pool.call requestsReceived .dequeue).1.served.toList.length = pool.pendingRequests := by
  unfold Pool.call
  dsimp only
  split
  · rename_i request next made
    have some : pool.pendingRequests ≠ 0 := by
      intro idle
      rw [dequeueFairRequest, if_pos idle] at made
      cases made
    obtain ⟨queue, rest, -, -, -, rfl⟩ := dequeueFairRequest_some made
    simp only [Option.toList_some, List.length_singleton]
    omega
  · rfl

/-! ## No lost wake-up -/

/-- What holds of the pool and its workers at all times. -/
structure WorkerPool.Awake (state : WorkerPool) (pool : Pool) : Prop where
  /-- What holds of the scheduler. -/
  holds : state.scheduler.Holds pool
  /-- While a worker is blocked, each pending request has a worker on its way. -/
  onTheWay : .blocked ∈ state.workers →
    pool.pendingRequests ≤ state.workers.countP WorkerPlace.onTheWay
  /-- A worker exits when the pool shuts down and no request is pending. -/
  exited : .exited ∈ state.workers → pool.shuttingDown = true ∧ pool.pendingRequests = 0

/-- The workers before their first step. -/
theorem awake_start (requestsReceived : ClientId → Nat) (workerCount : Nat) :
    WorkerPool.Awake
      { scheduler := { requestsReceived := requestsReceived }
        workers := List.replicate workerCount .arriving } {} :=
  ⟨Scheduler.holds_start requestsReceived, fun inside => by simp at inside,
    fun inside => by simp at inside⟩

/-- A worker that goes on from one place to another, where no scheduler is involved. -/
theorem WorkerPool.Awake.move (awake : state.Awake pool) {worker : Nat} {place after : WorkerPlace}
    (there : state.workers[worker]? = some place)
    (more : place.onTheWay = true → after.onTheWay = true ∨ pool.pendingRequests = 0)
    (blocked : after = .blocked → pool.pendingRequests = 0)
    (exits : after = .exited → pool.shuttingDown = true ∧ pool.pendingRequests = 0) :
    WorkerPool.Awake { state with workers := state.workers.set worker after } pool := by
  have counted := countP_set_place there after
  refine ⟨awake.holds, fun inside => ?_, fun inside => ?_⟩
  · rcases List.mem_or_eq_of_mem_set inside with old | same
    · have before := awake.onTheWay old
      cases here : place.onTheWay with
      | false =>
        rw [here] at counted
        simp only [Bool.toNat_false] at counted
        dsimp only
        omega
      | true =>
        rcases more here with later | idle
        · rw [here, later] at counted
          dsimp only
          omega
        · exact idle ▸ Nat.zero_le _
    · exact blocked same.symm ▸ Nat.zero_le _
  · rcases List.mem_or_eq_of_mem_set inside with old | same
    · exact awake.exited old
    · exact exits same.symm

/-- A call of the main loop keeps what holds. -/
theorem WorkerPool.Awake.call (awake : state.Awake pool) {call : PoolCall} {passes : Nat}
    {signalled : Option Nat} {outcome : PoolOutcome} {scheduler : Scheduler}
    (other : call ≠ .dequeue)
    (called : state.scheduler.call call passes = some (outcome, scheduler))
    (announced : announce state.workers signalled outcome call = some workers) :
    WorkerPool.Awake { scheduler, workers }
      (pool.call state.scheduler.requestsReceived call).2 := by
  obtain ⟨made, -, holds⟩ := awake.holds.call called
  obtain ⟨counter, refuses, closing⟩ :=
    pool.call_counters state.scheduler.requestsReceived call
  rw [← made] at counter refuses
  -- a call that accepts nothing leaves the workers or wakes them all
  have quiet : outcome.accepted = none → (.blocked ∈ workers → .blocked ∈ state.workers ∧
      workers = state.workers) → (.exited ∈ workers → .exited ∈ state.workers) →
        WorkerPool.Awake { scheduler, workers }
          (pool.call state.scheduler.requestsReceived call).2 := by
    intro nothing blocked exited
    rw [nothing, Option.toList_none, List.length_nil, Nat.add_zero] at counter
    refine ⟨holds, fun inside => ?_, fun inside => ?_⟩
    · obtain ⟨old, same⟩ := blocked inside
      rw [same]
      exact counter.trans (awake.onTheWay old)
    · obtain ⟨ending, idle⟩ := awake.exited (exited inside)
      exact ⟨closing ending, Nat.le_zero.mp (idle ▸ counter)⟩
  cases call with
  | register client queue =>
    cases announced
    refine quiet ?_ (fun inside => ⟨inside, rfl⟩) id
    rw [made]
    unfold Pool.call
    dsimp only
    split <;> rfl
  | remove client =>
    cases announced
    exact quiet (by rw [made]; rfl) (fun inside => ⟨inside, rfl⟩) id
  | dequeue => exact absurd rfl other
  | shutDown =>
    cases announced
    refine quiet (by rw [made]; rfl) (fun inside => ?_) fun inside => ?_
    · obtain ⟨place, -, same⟩ := List.mem_map.mp inside
      cases place <;> cases same
    · obtain ⟨place, member, same⟩ := List.mem_map.mp inside
      cases place <;> cases same
      exact member
  | submit client disconnected rpcLine node =>
    cases accepted : outcome.accepted with
    | none =>
      rw [announce, accepted] at announced
      cases announced
      exact quiet accepted (fun inside => ⟨inside, rfl⟩) id
    | some request =>
      rw [announce, accepted] at announced
      rw [accepted] at counter refuses
      have running := refuses rfl
      cases signalled with
      | none =>
        obtain ⟨none, same⟩ := Option.ite_none_left_eq_some.mp announced
        cases same
        refine ⟨holds, fun inside => absurd inside none, fun inside => ?_⟩
        rw [(awake.exited inside).1] at running
        cases running
      | some worker =>
        obtain ⟨there, same⟩ := Option.ite_none_right_eq_some.mp announced
        cases same
        have counted := countP_set_place there .woken
        refine ⟨holds, fun _ => ?_, fun inside => ?_⟩
        · have before := awake.onTheWay (List.mem_of_getElem? there)
          simp only [WorkerPlace.onTheWay, Bool.toNat_false, Bool.toNat_true] at counted
          simp only [Option.toList_some, List.length_singleton] at counter
          dsimp only
          omega
        · rcases List.mem_or_eq_of_mem_set inside with old | same
          · rw [(awake.exited old).1] at running
            cases running
          · cases same

/-- A worker under the mutex keeps what holds. -/
theorem WorkerPool.Awake.enter (awake : state.Awake pool) {worker passes : Nat}
    {place : WorkerPlace} (there : state.workers[worker]? = some place)
    (onTheWay : place.onTheWay = true) (entered : enterWorker state worker passes = some next) :
    ∃ after, next.Awake after := by
  obtain ⟨pending, closing⟩ := awake.holds.represents.counters
  unfold enterWorker at entered
  rw [pending, closing] at entered
  split at entered
  · rename_i waits
    simp only [Bool.and_eq_true, Bool.not_eq_true', decide_eq_true_eq] at waits
    cases entered
    exact ⟨pool, awake.move there (fun _ => .inr waits.2) (fun _ => waits.2) fun same => by
      cases same⟩
  · split at entered
    · rename_i ends
      simp only [Bool.and_eq_true, decide_eq_true_eq] at ends
      cases entered
      exact ⟨pool, awake.move there (fun _ => .inr ends.2) (fun same => by cases same) fun _ =>
        ends⟩
    · obtain ⟨⟨outcome, scheduler⟩, called, rfl⟩ := Option.map_eq_some_iff.mp entered
      obtain ⟨made, -, holds⟩ := awake.holds.call called
      have counter := pool.dequeue_counters state.scheduler.requestsReceived
      obtain ⟨-, -, kept⟩ :=
        pool.call_counters state.scheduler.requestsReceived .dequeue
      rw [← made] at counter
      refine ⟨_, holds, fun inside => ?_, fun inside => ?_⟩
      · have old : .blocked ∈ state.workers := by
          rcases List.mem_or_eq_of_mem_set inside with old | same
          · exact old
          · cases served : outcome.served <;> rw [served] at same <;> cases same
        have before := awake.onTheWay old
        have counted := countP_set_place there (.dequeued outcome.served)
        have one : outcome.served.toList.length +
            (WorkerPlace.dequeued outcome.served).onTheWay.toNat = 1 := by
          cases outcome.served <;> rfl
        rw [onTheWay, Bool.toNat_true] at counted
        dsimp only
        omega
      · rcases List.mem_or_eq_of_mem_set inside with old | same
        · obtain ⟨ending, idle⟩ := awake.exited old
          exact ⟨kept ending, by omega⟩
        · cases served : outcome.served <;> rw [served] at same <;> cases same

/-- After every step there are enough workers on their way for the pending requests. -/
theorem WorkerPool.Awake.step (awake : state.Awake pool) {label : WorkerPoolLabel}
    (stepped : workerPoolMachine.step state label = some next) : ∃ after, next.Awake after := by
  cases label with
  | call call passes signalled =>
    obtain ⟨other, stepped⟩ := Option.ite_none_left_eq_some.mp stepped
    obtain ⟨⟨outcome, scheduler⟩, called, rest⟩ := Option.bind_eq_some_iff.mp stepped
    obtain ⟨workers, announced, rfl⟩ := Option.map_eq_some_iff.mp rest
    exact ⟨_, awake.call other called announced⟩
  | enter worker passes =>
    obtain ⟨here, entered⟩ := Option.ite_none_right_eq_some.mp stepped
    cases there : state.workers[worker]? with
    | none =>
      rw [there] at here
      cases here
    | some place =>
      rw [there] at here
      exact awake.enter there here entered
  | spurious worker =>
    obtain ⟨there, same⟩ := Option.ite_none_right_eq_some.mp stepped
    cases same
    exact ⟨pool, awake.move there (fun _ => .inl rfl) (fun same => by cases same)
      fun same => by cases same⟩
  | complete worker =>
    change (match state.workers[worker]? with | some (.handling _) => _ | _ => _) = _ at stepped
    split at stepped
    · rename_i request there
      cases stepped
      exact ⟨pool, awake.move there (fun _ => .inl rfl) (fun same => by cases same)
        fun same => by cases same⟩
    · cases stepped

/-- In every run no wake-up is lost. -/
theorem WorkerPool.Awake.run (awake : state.Awake pool) {labels : List WorkerPoolLabel}
    (ran : workerPoolMachine.run state labels = some next) : ∃ after, next.Awake after := by
  have kept : ∀ state label next, (∃ pool, WorkerPool.Awake state pool) →
      workerPoolMachine.step state label = some next → ∃ pool, next.Awake pool := by
    rintro state label next ⟨pool, awake⟩ stepped
    exact awake.step stepped
  exact Transition.Machine.run_invariant kept ⟨pool, awake⟩ ran

/-- A worker that goes on elsewhere is the only one that moves. -/
theorem exited_set {worker other : Nat} {place : WorkerPlace} (apart : place ≠ .exited)
    (exits : (workers.set worker place)[other]? = some .exited) :
    workers[other]? = some .exited := by
  rw [List.getElem?_set] at exits
  split at exits
  · split at exits
    · exact absurd (Option.some.inj exits) apart
    · cases exits
  · exact exits

/-- A worker exits under the mutex, when the pool shuts down and no request is pending. -/
theorem worker_exits {label : WorkerPoolLabel} {worker : Nat}
    (stepped : workerPoolMachine.step state label = some next)
    (before : state.workers[worker]? ≠ some .exited)
    (after : next.workers[worker]? = some .exited) :
    state.scheduler.memory.shuttingDown = true ∧
      state.scheduler.memory.pendingRequests = 0 := by
  cases label with
  | call call passes signalled =>
    obtain ⟨-, stepped⟩ := Option.ite_none_left_eq_some.mp stepped
    obtain ⟨⟨outcome, scheduler⟩, -, rest⟩ := Option.bind_eq_some_iff.mp stepped
    obtain ⟨workers, announced, rfl⟩ := Option.map_eq_some_iff.mp rest
    refine absurd ?_ before
    cases call with
    | submit client disconnected rpcLine node =>
      rw [announce] at announced
      split at announced
      · cases signalled with
        | none =>
          obtain ⟨-, same⟩ := Option.ite_none_left_eq_some.mp announced
          cases same
          exact after
        | some signalled =>
          obtain ⟨-, same⟩ := Option.ite_none_right_eq_some.mp announced
          cases same
          exact exited_set (by decide) after
      · cases announced
        exact after
    | shutDown =>
      cases announced
      rw [List.getElem?_map] at after
      obtain ⟨place, there, same⟩ := Option.map_eq_some_iff.mp after
      cases place <;> cases same
      exact there
    | _ =>
      cases announced
      exact after
  | enter entering passes =>
    obtain ⟨-, entered⟩ := Option.ite_none_right_eq_some.mp stepped
    unfold enterWorker at entered
    split at entered
    · cases entered
      exact absurd (exited_set (by decide) after) before
    · split at entered
      · rename_i ends
        simpa using ends
      · obtain ⟨⟨outcome, scheduler⟩, -, rfl⟩ := Option.map_eq_some_iff.mp entered
        refine absurd (exited_set ?_ after) before
        cases outcome.served <;> exact WorkerPlace.noConfusion
  | spurious moving =>
    obtain ⟨-, same⟩ := Option.ite_none_right_eq_some.mp stepped
    cases same
    exact absurd (exited_set (by decide) after) before
  | complete moving =>
    change (match state.workers[moving]? with | some (.handling _) => _ | _ => _) = _ at stepped
    split at stepped
    · cases stepped
      exact absurd (exited_set (by decide) after) before
    · cases stepped

/-- No wake-up is lost. While a worker is blocked, the pending requests are at most the workers on
their way to dequeue; a worker exits only when the pool shuts down and no request is pending; and
when one has exited, every request that was accepted has been dequeued, or destroyed when its client
was removed. -/
theorem no_lost_wakeup {requestsReceived : ClientId → Nat} {workerCount : Nat}
    {labels : List WorkerPoolLabel}
    (ran : workerPoolMachine.run
      { scheduler := { requestsReceived := requestsReceived }
        workers := List.replicate workerCount .arriving } labels = some state) :
    (.blocked ∈ state.workers → state.scheduler.memory.pendingRequests ≤
        state.workers.countP WorkerPlace.onTheWay) ∧
      (∀ label (next : WorkerPool) (worker : Nat),
        workerPoolMachine.step state label = some next →
        state.workers[worker]? ≠ some WorkerPlace.exited →
        next.workers[worker]? = some WorkerPlace.exited →
          state.scheduler.memory.shuttingDown = true ∧
            state.scheduler.memory.pendingRequests = 0) ∧
      (.exited ∈ state.workers → ∀ request ∈ state.scheduler.accepted,
        request ∈ state.scheduler.served ∨ request ∈ state.scheduler.discarded) := by
  obtain ⟨pool, awake⟩ := (awake_start requestsReceived workerCount).run ran
  obtain ⟨pending, -⟩ := awake.holds.represents.counters
  refine ⟨fun blocked => pending ▸ awake.onTheWay blocked, fun _ _ _ => worker_exits, ?_⟩
  intro exited request accepted
  obtain ⟨-, idle⟩ := awake.exited exited
  rcases (awake.holds.fates.fate request).mp accepted with waits | gone
  · obtain ⟨formed, layout, laid⟩ := awake.holds.represents
    have empty : pool.waiting = [] := List.length_eq_zero_iff.mp (laid.waiting.trans idle)
    have inside := (formed.mem_queued.mp waits).1
    rw [empty] at inside
    cases inside
  · exact gone

/-- A worker is blocked, woken for a request, and exits after the shutdown. -/
def oneWorkerRun : List WorkerPoolLabel :=
  [.enter 0 0, .call (.register 1 (some 10)) 0 none,
    .call (.submit 1 false [65] (some 100)) 1 (some 0), .enter 0 1, .complete 0,
    .call .shutDown 0 none, .enter 0 0]

/-- The worker has dequeued the request when it exits. -/
theorem no_lost_wakeup_oneWorker :
    ∃ state, workerPoolMachine.run
        { scheduler := { requestsReceived := fun _ => 0 }, workers := List.replicate 1 .arriving }
        oneWorkerRun = some state ∧
      state.workers = [.exited] ∧ state.scheduler.accepted = [⟨1, 0, [65]⟩] ∧
      ∀ request ∈ state.scheduler.accepted,
        request ∈ state.scheduler.served ∨ request ∈ state.scheduler.discarded := by
  have evaluated : (workerPoolMachine.run
      { scheduler := { requestsReceived := fun _ => 0 }, workers := List.replicate 1 .arriving }
      oneWorkerRun).map (fun state => (state.workers, state.scheduler.accepted)) =
        some ([.exited], [⟨1, 0, [65]⟩]) := by decide +kernel
  obtain ⟨state, ran, same⟩ := Option.map_eq_some_iff.mp evaluated
  obtain ⟨workers, accepted⟩ := Prod.mk.inj same
  exact ⟨state, ran, workers, accepted,
    (no_lost_wakeup ran).2.2 (workers ▸ List.mem_singleton_self _)⟩

end AnimateService
