import AnimateService.Library.Potential
import AnimateService.PoolFootprint
import AnimateService.WakeUps

/-!
# The end of the workers

`threadpool_destroy` sets the flag, wakes all workers and joins them. From there on no worker is ever
blocked, each step of a worker brings the pool closer to its end by one, and every worker that has
not exited can take a step, unless it is in a handler that never returns. So all joins return if the
handlers do, after a number of steps that is known when the flag is set, and by then every request
was dequeued and nothing is left in the queues. A handler that waits at a barrier for a user who does
not come returns never, and neither does the join of its worker.
-/
namespace AnimateService

open Transition

/-- What a worker still has to do besides the requests that are pending. -/
def WorkerPlace.left : WorkerPlace → Nat
  | .arriving | .blocked | .woken => 1
  | .handling _ => 2
  | .exited => 0

/-- What the workers have to do until all have exited: a request takes a step to be dequeued and one
to be handled. -/
def WorkerPool.left (state : WorkerPool) : Nat :=
  2 * state.scheduler.memory.pendingRequests + (state.workers.map WorkerPlace.left).sum

/-- The main loop makes no call. -/
def WorkerPoolLabel.isWorkers : WorkerPoolLabel → Bool
  | .call _ _ _ => false
  | _ => true

/-- The worker that takes the step, if it is a step of a worker. -/
def WorkerPoolLabel.worker : WorkerPoolLabel → Option Nat
  | .call _ _ _ => none
  | .enter worker _ | .spurious worker | .complete worker => some worker

/-- A step of one worker is a step of the workers. -/
theorem isWorkers_of_worker {label : WorkerPoolLabel} {worker : Nat}
    (own : label.worker = some worker) : label.isWorkers = true := by
  cases label with
  | call call passes signalled => cases own
  | _ => rfl

/-- A step where a handler returns for these requests only. -/
def WorkerPool.Handled (returns : Request → Prop) (state : WorkerPool) : WorkerPoolLabel → Prop
  | .complete worker =>
    ∀ request, state.workers[worker]? = some (.handling request) → returns request
  | _ => True

/-- What holds of the pool and its workers after the flag is set. -/
structure WorkerPool.Closing (state : WorkerPool) : Prop where
  /-- What holds at all times. -/
  awake : ∃ pool, state.Awake pool
  /-- The flag is set. -/
  flag : state.scheduler.memory.shuttingDown = true
  /-- No worker is blocked. -/
  unblocked : .blocked ∉ state.workers

variable {state next last closing : WorkerPool} {workers : List WorkerPlace}
  {label : WorkerPoolLabel} {labels : List WorkerPoolLabel}

/-! ## Steps of the workers -/

/-- A worker that goes on from one place to another stays unblocked. -/
theorem unblocked_set {worker : Nat} {after : WorkerPlace} (unblocked : .blocked ∉ workers)
    (goes : after ≠ .blocked) : .blocked ∉ workers.set worker after := by
  intro inside
  rcases List.mem_or_eq_of_mem_set inside with old | same
  · exact unblocked old
  · exact goes same.symm

/-- While a request is pending, a call to dequeue serves one. -/
theorem Represents.serves {memory : PoolMemory} {pool : Pool} (represents : Represents memory pool)
    (requestsReceived : ClientId → Nat) (busy : pool.pendingRequests ≠ 0) :
    ∃ request, (pool.call requestsReceived .dequeue).1.served = some request := by
  have dequeued := represents.dequeue (le_refl _)
  unfold Pool.call
  dsimp only
  cases made : dequeueFairRequest pool with
  | some result => exact ⟨result.1, rfl⟩
  | none =>
    rw [made] at dequeued
    obtain ⟨-, layout, laid⟩ := represents
    have none_waits := laid.waiting
    rw [dequeued.2, List.length_nil] at none_waits
    exact absurd none_waits.symm busy

/-- While the pool shuts down, a worker under the mutex takes a request, or exits when there is
none. -/
theorem WorkerPool.Closing.enter (closing : state.Closing) {worker passes : Nat}
    {place : WorkerPlace} (there : state.workers[worker]? = some place)
    (onTheWay : place.onTheWay = true) (entered : enterWorker state worker passes = some next) :
    next.Closing ∧ next.left + 1 = state.left := by
  have one : place.left = 1 := by cases place <;> first | rfl | cases onTheWay
  obtain ⟨pool, awake⟩ := closing.awake
  obtain ⟨pending, flag⟩ := awake.holds.represents.counters
  have later := awake.enter there onTheWay entered
  unfold enterWorker at entered
  rw [closing.flag, Bool.not_true, Bool.false_and, if_neg (by simp), Bool.true_and] at entered
  split at entered
  · rename_i idle
    cases entered
    refine ⟨⟨later, closing.flag, unblocked_set closing.unblocked (by simp)⟩, ?_⟩
    have sum := sum_set_place WorkerPlace.left there .exited
    rw [one] at sum
    simp only [WorkerPool.left]
    change _ = _ + 0 at sum
    omega
  · rename_i busy
    obtain ⟨⟨outcome, scheduler⟩, called, rfl⟩ := Option.map_eq_some_iff.mp entered
    obtain ⟨made, -, holds⟩ := awake.holds.call called
    obtain ⟨left, stays⟩ := holds.represents.counters
    have counter := pool.dequeue_counters state.scheduler.requestsReceived
    rw [← made] at counter
    -- a request is pending, so one is served
    obtain ⟨request, served⟩ : ∃ request, outcome.served = some request := by
      rw [made]
      refine awake.holds.represents.serves _ ?_
      simpa [pending] using busy
    dsimp only at later ⊢
    rw [served] at counter later ⊢
    refine ⟨⟨later, ?_, unblocked_set closing.unblocked (by simp [WorkerPlace.dequeued])⟩, ?_⟩
    · change scheduler.memory.shuttingDown = true
      rw [stays]
      exact (pool.call_counters _ _).2.2 (flag ▸ closing.flag)
    · have sum := sum_set_place WorkerPlace.left there (.handling request)
      rw [one] at sum
      simp only [WorkerPool.left, left]
      change _ = _ + 2 at sum
      simp only [Option.toList_some, List.length_singleton] at counter
      simp only [WorkerPlace.dequeued]
      omega

/-- While the pool shuts down, a step of a worker keeps it so and is one of those left. -/
theorem WorkerPool.Closing.step (closing : state.Closing) (own : label.isWorkers = true)
    (stepped : workerPoolMachine.step state label = some next) :
    next.Closing ∧ next.left + 1 = state.left := by
  have later : ∃ pool, next.Awake pool := by
    obtain ⟨pool, awake⟩ := closing.awake
    exact awake.step stepped
  cases label with
  | call call passes signalled => cases own
  | enter worker passes =>
    obtain ⟨here, entered⟩ := Option.ite_none_right_eq_some.mp stepped
    cases there : state.workers[worker]? with
    | none =>
      rw [there] at here
      cases here
    | some place =>
      rw [there] at here
      exact closing.enter there here entered
  | spurious worker =>
    obtain ⟨there, -⟩ := Option.ite_none_right_eq_some.mp stepped
    exact absurd (List.mem_of_getElem? there) closing.unblocked
  | complete worker =>
    simp only [workerPoolMachine] at stepped
    split at stepped
    · rename_i request there
      cases stepped
      refine ⟨⟨later, closing.flag, unblocked_set closing.unblocked (by simp)⟩, ?_⟩
      have sum := sum_set_place WorkerPlace.left there .arriving
      change _ + 2 = _ + 1 at sum
      simp only [WorkerPool.left]
      omega
    · cases stepped

/-- While the pool shuts down, a worker that has not exited can take a step, if its handler
returns. -/
theorem WorkerPool.Closing.goes_on (closing : state.Closing) {returns : Request → Prop}
    {worker : Nat} {place : WorkerPlace} (there : state.workers[worker]? = some place)
    (stays : place ≠ .exited) (handled : ∀ request, place = .handling request → returns request) :
    ∃ label next, label.worker = some worker ∧ state.Handled returns label ∧
      workerPoolMachine.step state label = some next := by
  -- a worker on its way gets past the mutex
  have entering : place.onTheWay = true →
      ∃ label next, label.worker = some worker ∧ state.Handled returns label ∧
        workerPoolMachine.step state label = some next := by
    intro onTheWay
    obtain ⟨pool, awake⟩ := closing.awake
    obtain ⟨bound, after, returns⟩ := @Scheduler.Holds.returns _ _ .dequeue awake.holds rfl
    obtain ⟨⟨outcome, scheduler⟩, called, -⟩ :=
      Option.map_eq_some_iff.mp (returns bound (le_refl _))
    by_cases idle : state.scheduler.memory.pendingRequests = 0
    · refine ⟨.enter worker bound, { state with workers := state.workers.set worker .exited }, rfl,
        trivial, ?_⟩
      simp [workerPoolMachine, there, onTheWay, enterWorker, closing.flag, idle]
    · refine ⟨.enter worker bound, ⟨scheduler, state.workers.set worker (.dequeued outcome.served)⟩,
        rfl, trivial, ?_⟩
      simp [workerPoolMachine, there, onTheWay, enterWorker, closing.flag, idle, called]
  cases place with
  | arriving => exact entering rfl
  | woken => exact entering rfl
  | blocked => exact absurd (List.mem_of_getElem? there) closing.unblocked
  | handling request =>
    refine ⟨.complete worker, { state with workers := state.workers.set worker .arriving }, rfl,
      fun other same => ?_, ?_⟩
    · exact handled other (Option.some.inj (there.symm.trans same))
    · simp only [workerPoolMachine, there]
  | exited => exact absurd rfl stays

/-- Setting the flag wakes everybody. -/
theorem closing_of_shutDown {pool : Pool} (awake : state.Awake pool) {passes : Nat}
    {signalled : Option Nat}
    (shut : workerPoolMachine.step state (.call .shutDown passes signalled) = some closing) :
    closing.Closing := by
  have later := awake.step shut
  simp only [workerPoolMachine, reduceCtorEq, ↓reduceIte] at shut
  obtain ⟨⟨outcome, scheduler⟩, called, rest⟩ := Option.bind_eq_some_iff.mp shut
  obtain ⟨workers, announced, rfl⟩ := Option.map_eq_some_iff.mp rest
  refine ⟨later, ?_, ?_⟩
  · obtain ⟨-, called⟩ := Option.ite_none_right_eq_some.mp called
    cases called
    rfl
  · cases announced
    intro inside
    obtain ⟨place, -, same⟩ := List.mem_map.mp inside
    cases place <;> cases same

/-! ## Runs -/

/-- A step calls the scheduler or leaves it alone, and there are as many workers as before. -/
theorem workerPoolMachine_calls (stepped : workerPoolMachine.step state label = some next) :
    (next.scheduler = state.scheduler ∨ ∃ call passes outcome,
      state.scheduler.call call passes = some (outcome, next.scheduler)) ∧
      next.workers.length = state.workers.length := by
  cases label with
  | call call passes signalled =>
    obtain ⟨-, stepped⟩ := Option.ite_none_left_eq_some.mp stepped
    obtain ⟨⟨outcome, scheduler⟩, called, rest⟩ := Option.bind_eq_some_iff.mp stepped
    obtain ⟨workers, announced, rfl⟩ := Option.map_eq_some_iff.mp rest
    refine ⟨.inr ⟨call, passes, outcome, called⟩, ?_⟩
    cases call with
    | submit client disconnected rpcLine node =>
      rw [announce] at announced
      split at announced
      · cases signalled with
        | none =>
          obtain ⟨-, same⟩ := Option.ite_none_left_eq_some.mp announced
          cases same
          rfl
        | some signalled =>
          obtain ⟨-, same⟩ := Option.ite_none_right_eq_some.mp announced
          cases same
          exact List.length_set
      · cases announced
        rfl
    | shutDown =>
      cases announced
      exact List.length_map _
    | _ =>
      cases announced
      rfl
  | enter worker passes =>
    obtain ⟨-, entered⟩ := Option.ite_none_right_eq_some.mp stepped
    unfold enterWorker at entered
    split at entered
    · cases entered
      exact ⟨.inl rfl, List.length_set⟩
    · split at entered
      · cases entered
        exact ⟨.inl rfl, List.length_set⟩
      · obtain ⟨⟨outcome, scheduler⟩, called, rfl⟩ := Option.map_eq_some_iff.mp entered
        exact ⟨.inr ⟨.dequeue, passes, outcome, called⟩, List.length_set⟩
  | spurious worker =>
    obtain ⟨-, same⟩ := Option.ite_none_right_eq_some.mp stepped
    cases same
    exact ⟨.inl rfl, List.length_set⟩
  | complete worker =>
    simp only [workerPoolMachine] at stepped
    split at stepped
    · cases stepped
      exact ⟨.inl rfl, List.length_set⟩
    · cases stepped

/-- In every run the pool has its footprint and all its workers. -/
theorem workerPool_footprint {requestsReceived : ClientId → Nat} {workerCount : Nat}
    (ran : workerPoolMachine.run
      { scheduler := { requestsReceived := requestsReceived }
        workers := List.replicate workerCount .arriving } labels = some state) :
    (∃ pool, state.scheduler.Holds pool ∧ Footprint state.scheduler.memory pool) ∧
      state.workers.length = workerCount := by
  have kept : ∀ state label next,
      (∃ pool, Scheduler.Holds (WorkerPool.scheduler state) pool ∧
        Footprint state.scheduler.memory pool) ∧ state.workers.length = workerCount →
      workerPoolMachine.step state label = some next →
      (∃ pool, next.scheduler.Holds pool ∧ Footprint next.scheduler.memory pool) ∧
        next.workers.length = workerCount := by
    rintro state label next ⟨⟨pool, holds, footprint⟩, all⟩ stepped
    obtain ⟨same | ⟨call, passes, outcome, called⟩, workers⟩ := workerPoolMachine_calls stepped
    · exact ⟨⟨pool, same ▸ holds, same ▸ footprint⟩, workers.trans all⟩
    · exact ⟨⟨_, (holds.call called).2.2, footprint.step holds called⟩, workers.trans all⟩
  exact Machine.run_invariant kept ⟨⟨{}, Scheduler.holds_start requestsReceived, footprint_start⟩,
    List.length_replicate⟩ ran

/-- Nothing is left exactly if every worker has exited. -/
theorem WorkerPool.Closing.left_eq_zero (closing : state.Closing) (staffed : state.workers ≠ []) :
    state.left = 0 ↔ ∀ place ∈ state.workers, place = .exited := by
  obtain ⟨pool, awake⟩ := closing.awake
  constructor
  · intro nothing place member
    have sum : (state.workers.map WorkerPlace.left).sum = 0 := by
      rw [WorkerPool.left] at nothing
      omega
    have none_left := List.sum_eq_zero_iff_forall_eq_nat.mp sum place.left (List.mem_map_of_mem member)
    cases place <;> first | rfl | cases none_left
  · intro all
    obtain ⟨place, member⟩ := List.exists_mem_of_ne_nil _ staffed
    obtain ⟨-, idle⟩ := awake.exited (all place member ▸ member)
    have none_left : (state.workers.map WorkerPlace.left).sum = 0 := by
      refine List.sum_eq_zero_iff_forall_eq_nat.mpr fun number inside => ?_
      obtain ⟨place, member, rfl⟩ := List.mem_map.mp inside
      rw [all place member]
      rfl
    rw [WorkerPool.left, awake.holds.represents.counters.1, idle, none_left]

/-- If the handlers return, the workers go on until all have exited, by the steps that are left. -/
theorem WorkerPool.Closing.exits (closing : state.Closing) (staffed : state.workers ≠ [])
    {returns : Request → Prop} (handled : ∀ request, returns request) :
    ∃ more finish, (∀ label ∈ more, label.isWorkers = true) ∧
      workerPoolMachine.run state more = some finish ∧ more.length = state.left ∧
      ∀ place ∈ finish.workers, place = .exited := by
  induction steps : state.left generalizing state with
  | zero =>
    exact ⟨[], state, fun _ inside => absurd inside List.not_mem_nil, rfl, rfl,
      (closing.left_eq_zero staffed).mp steps⟩
  | succ steps ih =>
    obtain ⟨place, working, stays⟩ : ∃ place ∈ state.workers, place ≠ .exited := by
      by_contra none
      push Not at none
      rw [(closing.left_eq_zero staffed).mpr none] at steps
      cases steps
    obtain ⟨worker, there⟩ := List.mem_iff_getElem?.mp working
    obtain ⟨label, next, mine, -, stepped⟩ :=
      closing.goes_on there stays fun request _ => handled request
    have own := isWorkers_of_worker mine
    obtain ⟨later, fewer⟩ := closing.step own stepped
    have all : next.workers ≠ [] := by
      rw [← List.length_pos_iff, (workerPoolMachine_calls stepped).2]
      exact List.length_pos_iff.mpr staffed
    obtain ⟨more, finish, owns, ran, count, exited⟩ := ih later all (by omega)
    refine ⟨label :: more, finish, ?_, Machine.run_cons_some.mpr ⟨next, stepped, ran⟩, ?_, exited⟩
    · intro other inside
      rcases List.mem_cons.mp inside with rfl | inside
      · exact own
      · exact owns other inside
    · rw [List.length_cons, count]

/-- After `threadpool_destroy` has set the flag, whatever ran before, each step of a worker is one of
a number that is known then, no worker is blocked, and each that has not exited can go on, provided
that its handler returns. So if every handler returns, its joins return after exactly that many
steps; by then every accepted request was dequeued, or destroyed with its client, and the loops that
follow find no request and free all that is allocated. -/
theorem shutdown_completes {requestsReceived : ClientId → Nat} {workerCount passes : Nat}
    {signalled : Option Nat} {earlier : List WorkerPoolLabel} (returns : Request → Prop)
    (staffed : 0 < workerCount)
    (ran : workerPoolMachine.run
      { scheduler := { requestsReceived := requestsReceived }
        workers := List.replicate workerCount .arriving } earlier = some state)
    (shut : workerPoolMachine.step state (.call .shutDown passes signalled) = some closing)
    (own : ∀ label ∈ labels, label.isWorkers = true)
    (joining : workerPoolMachine.run closing labels = some last) :
    last.left + labels.length = closing.left ∧
    (∀ worker place, last.workers[worker]? = some place → place ≠ .blocked ∧ (place ≠ .exited →
      (∀ request, place = .handling request → returns request) → ∃ label next,
        label.worker = some worker ∧ last.Handled returns label ∧
          workerPoolMachine.step last label = some next)) ∧
    (labels.length = closing.left ↔ ∀ place ∈ last.workers, place = .exited) ∧
    ((∀ request, returns request) → ∃ more finish, (∀ label ∈ more, label.isWorkers = true) ∧
      workerPoolMachine.run last more = some finish ∧
      labels.length + more.length = closing.left ∧ ∀ place ∈ finish.workers, place = .exited) ∧
    ((∀ place ∈ last.workers, place = .exited) →
      (last.scheduler.served ++ last.scheduler.discarded).Perm last.scheduler.accepted ∧
      ∃ bound, ∀ passes ≥ bound, ∃ left,
        last.scheduler.memory.threadpoolDestroy passes = some ([], left) ∧
        left.queues = (fun _ => none) ∧ left.nodes = fun _ => none) := by
  obtain ⟨pool, awake⟩ := (awake_start requestsReceived workerCount).run ran
  obtain ⟨ends, steps⟩ := Machine.run_lowers WorkerPool.Closing WorkerPool.left
    (fun _ _ => 1) (fun _ label => label.isWorkers = true)
    (fun _ _ _ own holds stepped => holds.step own stepped)
    (Machine.everyStep_of_labels fun label member _ => own label member) (closing_of_shutDown awake shut)
    joining
  rw [Machine.spent_one joining] at steps
  obtain ⟨⟨after, holds, footprint⟩, all⟩ := workerPool_footprint (Machine.run_append_some.mpr
    ⟨state, ran, Machine.run_cons_some.mpr ⟨closing, shut, joining⟩⟩)
  have workers : last.workers ≠ [] := List.ne_nil_of_length_pos (all ▸ staffed)
  have done := ends.left_eq_zero workers
  refine ⟨steps, fun worker place there => ⟨?_, ends.goes_on there⟩, ?_, fun handled => ?_,
    fun exited => ?_⟩
  · rintro rfl
    exact ends.unblocked (List.mem_of_getElem? there)
  · rw [← done]
    omega
  · obtain ⟨more, finish, owns, goes, count, exited⟩ := ends.exits workers handled
    exact ⟨more, finish, owns, goes, by omega, exited⟩
  · have empty : after.waiting = [] := by
      obtain ⟨place, member⟩ := List.exists_mem_of_ne_nil _ workers
      obtain ⟨pool, awake⟩ := ends.awake
      obtain ⟨-, idle⟩ := awake.exited (exited place member ▸ member)
      have none_waits : after.pendingRequests = 0 := by
        rw [← holds.represents.counters.1, awake.holds.represents.counters.1, idle]
      obtain ⟨-, layout, laid⟩ := holds.represents
      exact List.length_eq_zero_iff.mp (laid.waiting.trans none_waits)
    have accounted := holds.accounted
    obtain ⟨bound, destroyed⟩ := footprint.destroy holds.represents
    rw [empty] at accounted destroyed
    rw [List.append_nil] at accounted
    exact ⟨accounted, bound, destroyed⟩

/-- A request is accepted, and the pool is destroyed before a worker took it. -/
def lateShutdown : List WorkerPoolLabel :=
  [.call (.register 1 (some 10)) 0 none, .call (.submit 1 false [65] (some 100)) 1 none]

/-- The worker is in the handler after one step, and when it returns exits in the two that are
left. -/
theorem shutdown_completes_late : ∃ state closing last,
    workerPoolMachine.run
        { scheduler := { requestsReceived := fun _ => 0 }, workers := List.replicate 1 .arriving }
        lateShutdown = some state ∧
      workerPoolMachine.step state (.call .shutDown 0 none) = some closing ∧
      workerPoolMachine.run closing [.enter 0 1] = some last ∧
      ∃ more finish, workerPoolMachine.run last more = some finish ∧ more.length = 2 ∧
        ∀ place ∈ finish.workers, place = .exited := by
  obtain ⟨state, ran, rest⟩ := Option.bind_eq_some_iff.mp
    (by decide +kernel : ((workerPoolMachine.run
      { scheduler := { requestsReceived := fun _ => 0 }, workers := List.replicate 1 .arriving }
      lateShutdown).bind fun state => (workerPoolMachine.step state (.call .shutDown 0 none)).bind
        fun closing => (workerPoolMachine.run closing [.enter 0 1]).map fun _ => closing.left) =
          some 3)
  obtain ⟨closing, shut, rest⟩ := Option.bind_eq_some_iff.mp rest
  obtain ⟨last, joining, left⟩ := Option.map_eq_some_iff.mp rest
  obtain ⟨-, -, -, ends, -⟩ :=
    shutdown_completes (fun _ => True) Nat.one_pos ran shut (by decide) joining
  obtain ⟨more, finish, -, goes, count, exited⟩ := ends fun _ => trivial
  rw [left, List.length_singleton] at count
  exact ⟨state, closing, last, ran, shut, joining, more, finish, goes, by omega, exited⟩

end AnimateService
