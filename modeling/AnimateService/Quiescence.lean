import AnimateService.Pipeline
import AnimateService.RequestSteps
import AnimateService.Weights

/-!
# The server at rest

What the workers and the main loop still have to do is a number: the steps that are left of the
requests and session ends in progress, and those of the requests that wait. A line and the closing of
a client raise it, nothing else does, and each step of work lowers it. So a server that gets no more
lines comes to rest, where the workers are done with every request except those that wait at a barrier
and, if such requests have taken all workers, those behind them.
-/
namespace AnimateService

open Transition

/-! ## What is left to do -/

/-- What a thread may still do; leaving its handler is the last of it. -/
def threadWork (auth : AuthDb) : Option Thread → Nat
  | some work => work.pc.steps auth + 1
  | none => 0

/-- A thread at work. -/
theorem threadWork_some (auth : AuthDb) (client : ClientId) (pc : Pc) :
    threadWork auth (some ⟨client, pc⟩) = pc.steps auth + 1 := rfl

/-- A thread that is idle. -/
theorem threadWork_none (auth : AuthDb) : threadWork auth none = 0 := rfl

/-- What a waiting request takes: to be dequeued, its handler, and its response. -/
def requestWork (auth : AuthDb) (request : Request) : Nat := requestSteps auth request.rpcLine + 2

/-- What the workers and the main loop may still do. -/
def WorkersState.work (auth : AuthDb) (workerCount : Nat) (state : WorkersState) : Nat :=
  (∑ thread ∈ Finset.range (workerCount + 1), threadWork auth (state.rpc.threads thread)) +
    state.pool.weight (requestWork auth)

/-- A step is work if a worker takes or answers a request, the main loop is done with a session, or a
handler takes a step other than finding a flag set. -/
def workOf (state : WorkersState) : WorkersLabel → Nat
  | .dequeue _ | .respond _ _ _ | .markClosed _ => 1
  | .advance thread answers => ownSteps thread state.rpc (.step thread answers)
  | _ => 0

/-- The work that a step brings at most. -/
def creditOf (auth : AuthDb) (_ : WorkersState) : WorkersLabel → Nat
  | .submit _ line _ => requestSteps auth line + 2
  | .beginClose _ => 3
  | _ => 0

/-- Work brings nothing. -/
theorem credit_of_work {auth : AuthDb} {state : WorkersState} {label : WorkersLabel}
    (works : workOf state label = 1) : creditOf auth state label = 0 := by
  cases label with
  | submit client line memory => cases works
  | beginClose client => cases works
  | _ => rfl

/-- What holds of the server while it runs. -/
structure WorkersState.Sound (workerCount : Nat) (state : WorkersState) : Prop where
  /-- Workers and requests belong together. -/
  formed : state.Formed workerCount
  /-- The counter of the pool is right. -/
  counted : state.pool.Counted
  /-- Only workers and the main loop are in a handler. -/
  quiet : ∀ thread, workerCount < thread → state.rpc.threads thread = none
  /-- The main loop ends the session of a client that was accepted. -/
  closing : ∀ client pc, state.rpc.threads workerCount = some ⟨client, pc⟩ →
    (state.clients client).isSome = true
  /-- No write has ended the process. -/
  living : state.alive = true → ∀ client record, state.clients client = some record →
    record.stream.killed = false

/-- The idle server. -/
theorem workers_sound_initial (workerCount : Nat) : ({} : WorkersState).Sound workerCount where
  formed := workers_formed_initial
  counted := ⟨rfl, by simp⟩
  quiet := fun _ _ => rfl
  closing := by simp
  living := by simp

section Work

variable {auth : AuthDb} {deadly : Bool} {workerCount : Nat} {state next last : WorkersState}
  {label : WorkersLabel} {labels : List WorkersLabel} {client : ClientId}

/-- A thread that is at work is a worker or the main loop. -/
theorem WorkersState.Sound.known (sound : state.Sound workerCount) {thread : ThreadId}
    {work : Thread} (working : state.rpc.threads thread = some work) :
    thread < workerCount + 1 := by
  by_contra above
  rw [sound.quiet thread (Nat.not_lt.mp above)] at working
  cases working

/-- After every step the counter of the pool is right. -/
theorem WorkersStep.counted (sound : state.Sound workerCount)
    (step : WorkersStep auth deadly workerCount state label next) : next.pool.Counted := by
  cases step with
  | register new registered => exact sound.counted.register registered
  | submit present submitted => exact sound.counted.submit sound.formed.pool submitted
  | dequeue idle known dequeued => exact sound.counted.dequeue sound.formed.pool dequeued
  | respond held working answer present called =>
    obtain ⟨stream, -, rfl⟩ := send_some called
    exact sound.counted
  | remove present gone => exact sound.counted.remove sound.formed.pool _
  | _ => exact sound.counted

/-- Where the threads are after a step: one of them may take up or give up work or advance. -/
theorem WorkersStep.threads (sound : state.Sound workerCount)
    (step : WorkersStep auth deadly workerCount state label next) :
    next.rpc.threads = state.rpc.threads ∨ ∃ thread work, thread < workerCount + 1 ∧
      next.rpc.threads = Function.update state.rpc.threads thread work := by
  cases step with
  | dequeue idle known dequeued => exact .inr ⟨_, _, Nat.lt_succ_of_lt known, rfl⟩
  | advance stepped =>
    obtain ⟨client, pc, working, -, rfl⟩ := rpcMachine_step stepped
    exact .inr ⟨_, _, sound.known working, rfl⟩
  | respond held working answer present called =>
    obtain ⟨stream, -, rfl⟩ := send_some called
    exact .inr ⟨_, _, sound.known working, rfl⟩
  | silent held working answer => exact .inr ⟨_, _, sound.known working, rfl⟩
  | beginClose present connected stepped =>
    obtain ⟨-, rfl⟩ := rpcMachine_close stepped
    exact .inr ⟨_, _, Nat.lt_succ_self _, rfl⟩
  | markClosed present working => exact .inr ⟨_, _, Nat.lt_succ_self _, rfl⟩
  | _ => exact .inl rfl

/-- A client that was accepted stays known. -/
theorem WorkersStep.known (step : WorkersStep auth deadly workerCount state label next)
    (present : (state.clients client).isSome = true) : (next.clients client).isSome = true := by
  cases step with
  | register new registered => exact isSome_setClient present
  | submit there submitted => exact isSome_setClient present
  | respond held working answer there called =>
    obtain ⟨stream, -, rfl⟩ := send_some called
    exact isSome_setClient present
  | markClosed there working => exact isSome_setClient present
  | closeFifo there gone => exact isSome_setClient present
  | _ => exact present

/-- The main loop is in a handler only for a client that was accepted. -/
theorem WorkersStep.closing (sound : state.Sound workerCount)
    (step : WorkersStep auth deadly workerCount state label next) {pc : Pc}
    (working : next.rpc.threads workerCount = some ⟨client, pc⟩) :
    (next.clients client).isSome = true := by
  refine step.known ?_
  cases step with
  | dequeue idle known dequeued =>
    refine sound.closing client pc ?_
    simpa [WorkersState.take, RpcState.setThread, Function.update_of_ne (Nat.ne_of_gt known)] using
      working
  | advance stepped =>
    have same := rpcMachine_step_clients stepped workerCount
    rw [working] at same
    obtain ⟨⟨served, before⟩, there, rfl⟩ := Option.map_eq_some_iff.mp same.symm
    exact sound.closing served before there
  | respond held there answer present called =>
    obtain ⟨stream, -, rfl⟩ := send_some called
    refine sound.closing client pc ?_
    have apart := Nat.ne_of_gt (sound.formed.working held).1
    simpa [WorkersState.finish, RpcState.setThread, WorkersState.setClient,
      Function.update_of_ne apart] using working
  | silent held there answer =>
    refine sound.closing client pc ?_
    have apart := Nat.ne_of_gt (sound.formed.working held).1
    simpa [WorkersState.finish, RpcState.setThread, Function.update_of_ne apart] using working
  | beginClose present connected stepped =>
    obtain ⟨-, rfl⟩ := rpcMachine_close stepped
    simp only [RpcState.setThread, Function.update_self, Option.some.injEq, Thread.mk.injEq] at working
    rw [← working.1, present]
    rfl
  | markClosed present there =>
    simp [WorkersState.setClient, RpcState.setThread] at working
  | _ => exact sound.closing client pc working

/-- A process that is alive after a step has no stream whose write ended it. -/
theorem WorkersStep.living (sound : state.Sound workerCount) (alive : state.alive = true)
    (step : WorkersStep auth deadly workerCount state label next) (lives : next.alive = true)
    {record : Client} (present : next.clients client = some record) :
    record.stream.killed = false := by
  -- a step that writes one record leaves the others as they are
  have written : ∀ {other : ClientId} {after : Client},
      Function.update state.clients other (some after) client = some record →
      after.stream.killed = false → record.stream.killed = false := by
    intro other after there fine
    by_cases same : client = other
    · subst same
      rw [Function.update_self] at there
      exact Option.some.inj there ▸ fine
    · rw [Function.update_of_ne same] at there
      exact sound.living alive client record there
  cases step with
  | register new registered => exact written present rfl
  | submit before submitted =>
    have fine := sound.living alive _ _ before
    exact written present fine
  | respond held working answer before called =>
    obtain ⟨stream, -, rfl⟩ := send_some called
    have fine : (!stream.killed) = true := lives
    exact written present (by simpa using fine)
  | markClosed before working =>
    have fine := sound.living alive _ _ before
    exact written present fine
  | closeFifo before gone =>
    have fine := sound.living alive _ _ before
    exact written present fine
  | _ => exact sound.living alive client record present

/-- After every step of a running server it is sound. -/
theorem WorkersStep.sound (sound : state.Sound workerCount) (alive : state.alive = true)
    (step : WorkersStep auth deadly workerCount state label next) : next.Sound workerCount where
  formed := step.formed sound.formed
  counted := step.counted sound
  quiet := by
    intro thread above
    rcases step.threads sound with same | ⟨other, work, known, changed⟩
    · rw [same]
      exact sound.quiet thread above
    · have apart := Nat.ne_of_gt (Nat.lt_of_le_of_lt (Nat.lt_succ_iff.mp known) above)
      rw [changed, Function.update_of_ne apart]
      exact sound.quiet thread above
  closing := fun _ _ working => step.closing sound working
  living := fun lives _ _ present => step.living sound alive lives present

/-- A change of one thread changes its part of the work. -/
theorem work_update (auth : AuthDb) (before after : RpcState) {thread : ThreadId}
    {work : Option Thread} (known : thread < workerCount + 1)
    (changed : after.threads = Function.update before.threads thread work) :
    (∑ other ∈ Finset.range (workerCount + 1), threadWork auth (after.threads other)) +
        threadWork auth (before.threads thread) =
      (∑ other ∈ Finset.range (workerCount + 1), threadWork auth (before.threads other)) +
        threadWork auth work := by
  rw [changed]
  exact sum_update_place (threadWork auth) before.threads known work

/-- Work is paid for by what was left to do and by what the step brings. -/
theorem WorkersStep.paid (sound : state.Sound workerCount)
    (step : WorkersStep auth deadly workerCount state label next) :
    next.work auth workerCount + workOf state label ≤
      state.work auth workerCount + creditOf auth state label := by
  -- a thread that gives up a finished request leaves its handler
  have leaving : ∀ {thread : ThreadId} {client : ClientId} {response : Option Bytes},
      state.rpc.threads thread = some ⟨client, .finished response⟩ →
      (∑ other ∈ Finset.range (workerCount + 1),
        threadWork auth ((state.rpc.setThread thread none).threads other)) + 1 =
      ∑ other ∈ Finset.range (workerCount + 1), threadWork auth (state.rpc.threads other) := by
    intro thread client response working
    have threads := work_update auth state.rpc (state.rpc.setThread thread none)
      (sound.known working) rfl
    rwa [working] at threads
  cases step with
  | register new registered =>
    have weight := weight_register (requestWork auth) registered
    exact Nat.add_le_add_left weight.le _
  | submit present submitted =>
    have weight := weight_submit (requestWork auth) sound.formed.pool submitted
    rw [requestWork] at weight
    simp only [WorkersState.work, WorkersState.setClient, workOf, creditOf, weight]
    omega
  | refuse present refused => exact Nat.le_add_right _ _
  | dequeue idle known dequeued =>
    rename_i worker request pool
    have weight := weight_dequeue (requestWork auth) sound.formed.pool dequeued
    have threads := work_update auth state.rpc (state.take worker request pool).rpc
      (Nat.lt_succ_of_lt known) rfl
    rw [idle, threadWork_none, threadWork_some, Pc.steps] at threads
    rw [requestWork] at weight
    simp only [WorkersState.work, workOf, creditOf]
    change _ + pool.weight (requestWork auth) + 1 ≤ _
    omega
  | advance stepped =>
    rename_i thread answers rpc
    obtain ⟨client, pc, working, unfinished, rfl⟩ := rpcMachine_step stepped
    obtain ⟨after, there, bound⟩ := ownSteps_step stepped (by simp) working
    simp only [RpcState.advanceThread, Function.update_self, Option.some.injEq,
      Thread.mk.injEq, true_and] at there
    have changed : (state.rpc.advanceThread auth thread client pc answers).threads =
        Function.update state.rpc.threads thread (some ⟨client, after⟩) := by
      simp only [RpcState.advanceThread, there]
    have threads := work_update auth state.rpc _ (sound.known working) changed
    rw [working, threadWork_some, threadWork_some] at threads
    simp only [WorkersState.work, workOf, creditOf]
    omega
  | respond held working answer present called =>
    obtain ⟨stream, -, rfl⟩ := send_some called
    have threads := leaving working
    simp only [WorkersState.work, workOf, creditOf]
    change (∑ other ∈ Finset.range (workerCount + 1),
      threadWork auth ((state.rpc.setThread _ none).threads other)) + state.pool.weight _ + 1 ≤ _
    omega
  | silent held working answer =>
    have threads := leaving working
    simp only [WorkersState.work, workOf, creditOf]
    change (∑ other ∈ Finset.range (workerCount + 1),
      threadWork auth ((state.rpc.setThread _ none).threads other)) + state.pool.weight _ + 1 ≤ _
    omega
  | beginClose present connected stepped =>
    rename_i client record rpc
    obtain ⟨idle, rfl⟩ := rpcMachine_close stepped
    have threads := work_update auth state.rpc
      (state.rpc.setThread workerCount (some ⟨client, .disconnect⟩)) (Nat.lt_succ_self _) rfl
    rw [idle, threadWork_none, threadWork_some, Pc.steps] at threads
    simp only [WorkersState.work, workOf, creditOf]
    omega
  | markClosed present working =>
    have threads := leaving working
    simp only [WorkersState.work, workOf, creditOf]
    change (∑ other ∈ Finset.range (workerCount + 1),
      threadWork auth ((state.rpc.setThread _ none).threads other)) + state.pool.weight _ + 1 ≤ _
    omega
  | remove present gone =>
    rename_i client record
    have weight := weight_remove (requestWork auth) sound.formed.pool client
    exact Nat.add_le_add_left (Nat.le_of_add_right_le weight.le) _
  | closeFifo present gone => exact Nat.le_refl _

/-! ## Rest -/

/-- Every thread is idle or waits at a barrier whose flag is set, and a request waits in the pool
only while there is no idle worker. -/
structure WorkersState.AtRest (workerCount : Nat) (state : WorkersState) : Prop where
  /-- Whoever is in a handler waits. -/
  waits : ∀ thread work, state.rpc.threads thread = some work →
    work.pc.isBlocked state.rpc.world.store = true
  /-- The requests in the pool have no worker. -/
  unstaffed : state.pool.waiting = [] ∨
    ∀ worker < workerCount, (state.rpc.threads worker).isSome = true

/-- A finished request of a worker can be answered. -/
theorem WorkersState.Sound.responds (sound : state.Sound workerCount) (alive : state.alive = true)
    {worker : ThreadId} {response : Option Bytes} (known : worker < workerCount)
    (working : state.rpc.threads worker = some ⟨client, .finished response⟩) :
    ∃ label next, WorkersStep auth deadly workerCount state label next ∧ next.alive = true ∧
      workOf state label = 1 := by
  obtain ⟨request, held, -⟩ := sound.formed.holding known working
  obtain ⟨record, present⟩ := Option.isSome_iff_exists.mp (sound.formed.held_known worker request held)
  have lives := sound.living alive _ _ present
  cases answer : workerResponse response true with
  | none =>
    exact ⟨_, _, .silent held working answer, alive, rfl⟩
  | some text =>
    obtain ⟨results, sent, called, spared, -⟩ :=
      sendOrderedResponse_returns deadly record.stream.output request.seqNum text
    have done : ∃ after, state.send deadly request record text results = some after ∧
        after.alive = true := by
      simp only [WorkersState.send, streamMachine, lives, called, Bool.false_eq_true, ↓reduceIte,
        Option.map_some, Option.some.injEq, exists_eq_left', spared, Bool.not_false]
    obtain ⟨after, gone, fine⟩ := done
    exact ⟨_, _, .respond held working answer present gone, fine, rfl⟩

/-- A server that is not at rest can do work. -/
theorem WorkersState.Sound.goes_on (auth : AuthDb) (deadly : Bool)
    (sound : state.Sound workerCount) (alive : state.alive = true)
    (busy : ¬ state.AtRest workerCount) :
    ∃ label next, WorkersStep auth deadly workerCount state label next ∧ next.alive = true ∧
      workOf state label = 1 := by
  by_cases blocked : ∀ thread work, state.rpc.threads thread = some work →
      work.pc.isBlocked state.rpc.world.store = true
  · have staffed : state.pool.waiting ≠ [] ∧ ∃ worker < workerCount,
        state.rpc.threads worker = none := by
      by_contra neither
      refine busy ⟨blocked, ?_⟩
      by_contra waits
      obtain ⟨some_, unstaffed⟩ := not_or.mp waits
      refine neither ⟨some_, ?_⟩
      by_contra all
      refine unstaffed fun worker known => ?_
      by_contra idle
      exact all ⟨worker, known, by simpa using idle⟩
    obtain ⟨waits, worker, known, idle⟩ := staffed
    obtain ⟨request, pool, dequeued⟩ := sound.counted.dequeues waits
    exact ⟨_, _, .dequeue idle known dequeued, alive, rfl⟩
  · simp only [not_forall] at blocked
    obtain ⟨thread, ⟨client, pc⟩, working, free⟩ := blocked
    replace free : pc.isBlocked state.rpc.world.store = false := by simpa using free
    cases finished : pc.isFinished with
    | false =>
      refine ⟨_, _, .advance (@rpcMachine_advance auth _ _ {} _ _ working finished), alive, ?_⟩
      rw [workOf, ownSteps_of_working working, if_neg (by simp [free])]
    | true =>
      obtain ⟨response, rfl⟩ : ∃ response, pc = .finished response := by
        cases pc with
        | finished response => exact ⟨response, rfl⟩
        | _ => cases finished
      rcases Nat.lt_succ_iff_lt_or_eq.mp (sound.known working) with known | rfl
      · exact sound.responds alive known working
      · obtain ⟨record, present⟩ := Option.isSome_iff_exists.mp (sound.closing _ _ working)
        exact ⟨_, _, .markClosed present working, alive, rfl⟩

/-- A server at rest cannot. -/
theorem WorkersState.AtRest.idles (rest : state.AtRest workerCount)
    (step : WorkersStep auth deadly workerCount state label next) : workOf state label = 0 := by
  cases step with
  | dequeue idle known dequeued =>
    exfalso
    obtain ⟨queue, later, member, requests, -⟩ := dequeueFairRequest_some dequeued
    rcases rest.unstaffed with empty | staffed
    · have inside : _ ∈ state.pool.waiting :=
        List.mem_flatMap.mpr ⟨queue, member, requests ▸ List.mem_cons_self⟩
      rw [empty] at inside
      cases inside
    · have busy := staffed _ known
      rw [idle] at busy
      cases busy
  | advance stepped =>
    obtain ⟨client, pc, working, -, -⟩ := rpcMachine_step stepped
    have blocked := rest.waits _ _ working
    rw [workOf, ownSteps_of_working working, if_pos blocked]
  | respond held working answer present called => cases rest.waits _ _ working
  | silent held working answer => cases rest.waits _ _ working
  | markClosed present working => cases rest.waits _ _ working
  | _ => rfl

/-! ## The lines of a connected client -/

/-- How many requests of a client the workers are done with. The response of one may have been
discarded, or may wait in its slot for those before it. -/
def WorkersState.doneFor (state : WorkersState) (client : ClientId) : Nat :=
  state.answered.countP fun entry => entry.1.client = client

/-- A worker's hand counts if it holds a request of the client. -/
def handOf (client : ClientId) : Option Request → Nat
  | some request => if request.client = client then 1 else 0
  | none => 0

/-- How many requests of a client the workers hold. -/
def WorkersState.heldFor (workerCount : Nat) (state : WorkersState) (client : ClientId) : Nat :=
  ∑ worker ∈ Finset.range workerCount, handOf client (state.inHand worker)

/-- Each line of a connected client was handled to the end, is in hand, or waits. -/
def Accounted (workerCount : Nat) (client : ClientId) (state : WorkersState) : Prop :=
  ∀ record, state.clients client = some record → record.stream.output.disconnected = false →
    state.doneFor client + state.heldFor workerCount client + (state.pool.queued client).length =
      record.submitted.length

/-- A request that a worker is done with leaves its hand. -/
theorem accounted_finish (formed : state.Formed workerCount) {worker : ThreadId} {request : Request}
    (held : state.inHand worker = some request) (response : Option Bytes) (client : ClientId) :
    (state.finish worker request response).doneFor client +
        (state.finish worker request response).heldFor workerCount client =
      state.doneFor client + state.heldFor workerCount client := by
  have hands := sum_update_place (handOf client) state.inHand (formed.working held).1 none
  rw [held] at hands
  simp only [handOf] at hands
  simp only [WorkersState.doneFor, WorkersState.heldFor, WorkersState.finish, List.countP_append,
    List.countP_singleton, decide_eq_true_eq]
  unfold handOf
  omega

/-- A new client has no requests. -/
theorem accounted_new (formed : state.Formed workerCount) (new : state.clients client = none) :
    state.doneFor client = 0 ∧ state.heldFor workerCount client = 0 := by
  constructor
  · refine List.countP_eq_zero.mpr fun entry member mine => ?_
    have known := formed.answered_known entry member
    rw [of_decide_eq_true mine, new] at known
    cases known
  · refine Finset.sum_eq_zero fun worker _ => ?_
    cases held : state.inHand worker with
    | none => rfl
    | some request =>
      refine if_neg fun mine => ?_
      have known := formed.held_known worker request held
      rw [mine, new] at known
      cases known

/-- Every step keeps account of the lines of a client that stays connected. -/
theorem WorkersStep.accounted (formed : state.Formed workerCount)
    (step : WorkersStep auth deadly workerCount state label next)
    (before : Accounted workerCount client state) : Accounted workerCount client next := by
  intro record present connected
  cases step with
  | register new registered =>
    rename_i other fifo memory pool
    obtain ⟨-, same, empty⟩ := threadpoolRegisterClient_spec formed.pool registered
    change state.doneFor client + state.heldFor workerCount client + (pool.queued client).length = _
    by_cases here : client = other
    · subst here
      obtain ⟨unanswered, unheld⟩ := accounted_new formed new
      obtain rfl := Option.some.inj (clients_setClient_self.symm.trans present)
      rw [unanswered, unheld, same, empty]
      rfl
    · rw [clients_setClient_ne here] at present
      rw [same]
      exact before record present connected
  | submit there submitted =>
    rename_i other line memory old pool
    obtain ⟨-, -, same⟩ := threadpoolSubmit_spec formed.pool submitted
    change state.doneFor client + state.heldFor workerCount client + (pool.queued client).length = _
    by_cases here : client = other
    · subst here
      obtain rfl := Option.some.inj (clients_setClient_self.symm.trans present)
      have count := before old there connected
      rw [same, Function.update_self, List.length_append, List.length_append,
        List.length_singleton, List.length_singleton]
      omega
    · rw [clients_setClient_ne here] at present
      rw [same, Function.update_of_ne here]
      exact before record present connected
  | refuse there refused => exact before record present connected
  | dequeue idle known dequeued =>
    rename_i worker request pool
    obtain ⟨-, rest, front, same⟩ := dequeueFairRequest_spec formed.pool dequeued
    have count := before record present connected
    have hands := sum_update_place (handOf client) state.inHand known (some request)
    rw [formed.idle idle] at hands
    change state.doneFor client + (∑ other ∈ Finset.range workerCount,
      handOf client (Function.update state.inHand worker (some request) other)) +
        (pool.queued client).length = _
    rw [same]
    by_cases mine : request.client = client
    · subst mine
      rw [front, List.length_cons] at count
      rw [Function.update_self]
      simp only [handOf, ↓reduceIte] at hands
      simp only [WorkersState.heldFor] at count
      unfold handOf at count ⊢
      omega
    · rw [Function.update_of_ne (Ne.symm mine)]
      simp only [handOf, if_neg mine] at hands
      simp only [WorkersState.heldFor] at count
      unfold handOf at count ⊢
      omega
  | advance stepped => exact before record present connected
  | respond held working answer there called =>
    rename_i worker copied results request served response text old sent
    obtain ⟨stream, stepped, rfl⟩ := send_some called
    have moved := accounted_finish formed held (some text) client
    have count : ∀ kept, state.clients client = some kept →
        kept.stream.output.disconnected = false →
        (state.finish worker request (some text)).doneFor client +
          (state.finish worker request (some text)).heldFor workerCount client +
            (state.pool.queued client).length = kept.submitted.length := by
      intro kept known open_
      rw [moved]
      exact before kept known open_
    by_cases here : client = request.client
    · subst here
      obtain rfl := Option.some.inj (clients_setClient_self.symm.trans present)
      exact count old there (stream_earlier stepped connected).1
    · exact count record ((clients_setClient_ne here).symm.trans present) connected
  | silent held working answer =>
    have moved := accounted_finish formed held none client
    have count := before record present connected
    rw [← moved] at count
    exact count
  | beginClose there open_ stepped => exact before record present connected
  | markClosed there working =>
    rename_i other old response
    by_cases here : client = other
    · subst here
      obtain rfl := Option.some.inj (clients_setClient_self.symm.trans present)
      cases connected
    · rw [clients_setClient_ne here] at present
      exact before record present connected
  | remove there gone =>
    rename_i other old
    by_cases here : client = other
    · subst here
      obtain rfl := Option.some.inj (there.symm.trans present)
      cases gone.symm.trans connected
    · have same := (threadpoolRemoveClient_spec other formed.pool).2.1
      change state.doneFor client + state.heldFor workerCount client +
        ((threadpoolRemoveClient state.pool other).queued client).length = _
      rw [same, Function.update_of_ne here]
      exact before record present connected
  | closeFifo there gone =>
    rename_i other old
    by_cases here : client = other
    · subst here
      obtain rfl := Option.some.inj (clients_setClient_self.symm.trans present)
      cases gone.symm.trans connected
    · rw [clients_setClient_ne here] at present
      exact before record present connected

/-! ## Runs -/

/-- Every run keeps the server sound. -/
theorem workersMachine_run_sound
    (ran : (workersMachine auth deadly workerCount).run {} labels = some last) :
    last.Sound workerCount := by
  have kept : ∀ state label next, state.Sound workerCount →
      (workersMachine auth deadly workerCount).step state label = some next →
      next.Sound workerCount := by
    intro state label next sound taken
    obtain ⟨alive, step⟩ := workersMachine_step taken
    exact step.sound sound alive
  exact Machine.run_invariant kept (workers_sound_initial workerCount) ran

/-- What is left to do after a run and the work on the way are paid for by what was left to do before
it and by what the run brings. -/
theorem workersMachine_run_paid (sound : state.Sound workerCount)
    (ran : (workersMachine auth deadly workerCount).run state labels = some last) :
    last.work auth workerCount +
        (workersMachine auth deadly workerCount).spent workOf state labels ≤
      state.work auth workerCount +
        (workersMachine auth deadly workerCount).spent (creditOf auth) state labels := by
  refine Machine.run_paid (WorkersState.Sound workerCount) ?_ ?_ sound ran
  · intro state label next sound taken
    obtain ⟨alive, step⟩ := workersMachine_step taken
    exact step.sound sound alive
  · intro state label next sound taken
    exact (workersMachine_step taken).2.paid sound

/-- The idle server has nothing to do. -/
theorem work_initial (auth : AuthDb) (workerCount : Nat) :
    ({} : WorkersState).work auth workerCount = 0 := by
  simp [WorkersState.work, threadWork, Pool.weight, Pool.waiting]

/-- A client says goodbye to a server with one worker. -/
def goodbyeSubmitted : List WorkersLabel :=
  [.register 7 3 true, .submit 7 (bytes "Disconnect") true]

/-- In every run of the server, all that the workers and the main loop do for requests and sessions
is paid for by the lines that were submitted and the sessions that were ended. -/
theorem work_is_paid_for
    (ran : (workersMachine auth deadly workerCount).run {} labels = some last) :
    last.work auth workerCount + (workersMachine auth deadly workerCount).spent workOf {} labels ≤
      (workersMachine auth deadly workerCount).spent (creditOf auth) {} labels := by
  have paid := workersMachine_run_paid (workers_sound_initial workerCount) ran
  rwa [work_initial, Nat.zero_add] at paid

/-- The line `Disconnect` brings at most five steps of work. -/
theorem work_is_paid_for_goodbye : ∃ last,
    (workersMachine [] true 1).run {} goodbyeSubmitted = some last ∧ last.work [] 1 ≤ 5 := by
  obtain ⟨last, ran⟩ := Option.isSome_iff_exists.mp
    (by decide +kernel : ((workersMachine [] true 1).run {} goodbyeSubmitted).isSome = true)
  have paid := work_is_paid_for ran
  rw [show (workersMachine [] true 1).spent (creditOf []) {} goodbyeSubmitted = 5 by
    decide +kernel] at paid
  exact ⟨last, ran, Nat.le_of_add_right_le paid⟩

/-- Every run keeps account of the lines of its connected clients. -/
theorem workersMachine_run_accounted
    (ran : (workersMachine auth deadly workerCount).run {} labels = some last) (client : ClientId) :
    Accounted workerCount client last := by
  have kept : ∀ state label next, state.Formed workerCount ∧ Accounted workerCount client state →
      (workersMachine auth deadly workerCount).step state label = some next →
      next.Formed workerCount ∧ Accounted workerCount client next := by
    rintro state label next ⟨formed, accounted⟩ taken
    have step := (workersMachine_step taken).2
    exact ⟨step.formed formed, step.accounted formed accounted⟩
  have initially : Accounted workerCount client {} := by
    intro record present
    cases present
  exact (Machine.run_invariant kept ⟨workers_formed_initial, initially⟩ ran).2

/-- A running server rests exactly when no step is work. It gets there by work alone, in no more
steps than are left to do, and meanwhile nothing but new lines and ended sessions brings more. At
rest, if a worker is idle, the workers are done with every line of a connected client, except those
whose requests wait at barriers. -/
theorem server_comes_to_rest
    (ran : (workersMachine auth deadly workerCount).run {} labels = some state)
    (alive : state.alive = true) :
    (state.AtRest workerCount ↔ ∀ label next,
      (workersMachine auth deadly workerCount).step state label = some next →
        workOf state label = 0) ∧
    (∀ more last, (workersMachine auth deadly workerCount).run state more = some last →
      (workersMachine auth deadly workerCount).spent (creditOf auth) state more = 0 →
      (workersMachine auth deadly workerCount).spent workOf state more ≤
        state.work auth workerCount) ∧
    (∃ more last, (workersMachine auth deadly workerCount).EveryStep
        (fun state label => workOf state label = 1) state more ∧
      more.length ≤ state.work auth workerCount ∧
      (workersMachine auth deadly workerCount).run state more = some last ∧ last.alive = true ∧
      last.AtRest workerCount) ∧
    (state.AtRest workerCount → (∃ worker < workerCount, state.rpc.threads worker = none) →
      ∀ client record, state.clients client = some record →
        record.stream.output.disconnected = false →
        state.doneFor client + state.heldFor workerCount client = record.submitted.length) := by
  have sound := workersMachine_run_sound ran
  refine ⟨⟨fun rest label next taken => rest.idles (workersMachine_step taken).2, ?_⟩, ?_, ?_, ?_⟩
  · intro idle
    by_contra busy
    obtain ⟨label, next, step, -, works⟩ := sound.goes_on auth deadly alive busy
    rw [idle label next (step.possible alive)] at works
    cases works
  · intro more last goes unpaid
    have paid := workersMachine_run_paid sound goes
    omega
  · have goes_on : ∀ state : WorkersState, state.Sound workerCount ∧ state.alive = true →
        ¬ state.AtRest workerCount → ∃ label next, workOf state label = 1 ∧
          (workersMachine auth deadly workerCount).step state label = some next ∧
          (next.Sound workerCount ∧ next.alive = true) ∧
          next.work auth workerCount < state.work auth workerCount := by
      rintro state ⟨sound, alive⟩ busy
      obtain ⟨label, next, step, lives, works⟩ :=
        sound.goes_on auth deadly alive busy
      have paid := step.paid sound
      rw [works, credit_of_work works] at paid
      exact ⟨label, next, works, step.possible alive, ⟨step.sound sound alive, lives⟩, paid⟩
    obtain ⟨more, last, works, short, goes, ⟨-, lives⟩, rest⟩ :=
      Machine.run_settles (fun state label => workOf state label = 1) goes_on ⟨sound, alive⟩
    exact ⟨more, last, works, short, goes, lives, rest⟩
  · rintro rest ⟨worker, known, idle⟩ client record present connected
    have empty : state.pool.waiting = [] := by
      refine rest.unstaffed.resolve_right fun staffed => ?_
      have busy := staffed worker known
      rw [idle] at busy
      cases busy
    have unqueued : state.pool.queued client = [] := by
      refine List.eq_nil_iff_forall_not_mem.mpr fun request waits => ?_
      have inside := (sound.formed.pool.mem_queued.mp waits).1
      rw [empty] at inside
      cases inside
    have count := workersMachine_run_accounted ran client record present connected
    rwa [unqueued, List.length_nil, Nat.add_zero] at count

end Work

/-- The server rests after that. -/
theorem server_comes_to_rest_goodbye : ∃ state more last,
    (workersMachine [] true 1).run {} goodbyeSubmitted = some state ∧ more.length ≤ 5 ∧
      (workersMachine [] true 1).run state more = some last ∧ last.AtRest 1 := by
  obtain ⟨state, ran, facts⟩ := Option.map_eq_some_iff.mp
    (by decide +kernel : ((workersMachine [] true 1).run {} goodbyeSubmitted).map
      (fun state => (state.alive, state.work [] 1)) = some (true, 5))
  obtain ⟨alive, work⟩ := Prod.mk.inj facts
  obtain ⟨-, -, ⟨more, last, -, short, goes, -, rest⟩, -⟩ := server_comes_to_rest ran alive
  exact ⟨state, more, last, ran, work ▸ short, goes, rest⟩

end AnimateService
