import AnimateService.Cleanup

/-!
# Connecting again

`accept_client` asks `find_client` whether the server knows the PID of a request. The list of
clients only grows, and `find_client` does not look at `disconnected`, so the PID of a client that
was closed stays a duplicate for ever.
-/
namespace AnimateService

open Transition

/-- `find_client`: the PIDs of the list are those of its entries. -/
def ServerState.findClient (state : ServerState) (pid : ClientId) : Option ClientId :=
  state.clients.find? fun client => client = pid

/-- `accept_client` with its FIFOs created and opened and its memory allocated: it returns at once
where the PID is no PID or is found. -/
def ServerState.acceptClient (auth : AuthDb) (deadly : Bool) (workerCount : Nat)
    (state : ServerState) (pid : ClientId) (c2s s2c : Nat) : Option ServerState :=
  if pid = 0 ∨ (state.findClient pid).isSome = true then some { state with main := .polled }
  else state.accept auth deadly workerCount pid c2s s2c

/-- The server holds a client of this PID that is not disconnected. -/
def ServerState.Holds (state : ServerState) (pid : ClientId) : Prop :=
  (state.workers.clients pid).isSome = true ∧ state.workers.isDisconnected pid = false

/-- A client that was just connected: its sequence numbers and its buffer are as `calloc` left
them, and it is registered with an empty queue. -/
structure ServerState.IsNew (state : ServerState) (pid : ClientId) (c2s s2c : Nat) : Prop where
  /-- It is the head of the list. -/
  listed : state.clients.head? = some pid
  /-- No request was received from it and no response was sent to it. -/
  record : state.workers.clients pid = some { stream := { output := { fifoS2c := some s2c } } }
  /-- Nothing was read from it. -/
  connection : state.connections pid = some { fifoC2s := some c2s }
  /-- It is registered with the pool. -/
  queue : findClientQueue state.workers.pool pid = some { client := pid }

/-- A request of a PID is turned away as a duplicate only while the server holds a client of it that
is not disconnected; otherwise it yields a new client. -/
def ServerState.AdmitsAnew (auth : AuthDb) (deadly : Bool) (workerCount : Nat)
    (state : ServerState) (pid : ClientId) : Prop :=
  ((state.findClient pid).isSome = true → state.Holds pid) ∧
    (¬ state.Holds pid → ∀ c2s s2c, c2s ≠ s2c → state.descriptors c2s = none →
      state.descriptors s2c = none → ∃ next,
        state.acceptClient auth deadly workerCount pid c2s s2c = some next ∧
          next.IsNew pid c2s s2c)

section Steps

variable {auth : AuthDb} {deadly : Bool} {workerCount : Nat} {state next : ServerState}

/-- It is the step of the main loop that polls a pending PID: one that is turned away leaves no
trace. -/
theorem acceptClient_step (alive : state.workers.alive = true) (place : state.main = .polling)
    (pid : ClientId) (c2s s2c : Nat) :
    state.acceptClient auth deadly workerCount pid c2s s2c =
      (serverMachine auth deadly workerCount).step state (.main (.poll
        (if pid = 0 ∨ (state.findClient pid).isSome = true then none
        else some (pid, c2s, s2c)))) := by
  simp only [serverMachine, alive, place, ↓reduceIte, ServerState.acceptClient]
  split <;> rfl

/-- The list has the clients that were accepted, and only they have queues. -/
structure Listed (state : ServerState) : Prop where
  /-- The list and the records are of the same clients. -/
  same : ∀ pid, pid ∈ state.clients ↔ (state.workers.clients pid).isSome = true
  /-- A client that was not accepted has no queue. -/
  queue : ∀ pid, state.workers.clients pid = none →
    findClientQueue state.workers.pool pid = none

/-- At the start there are none. -/
theorem listed_initial : Listed {} where
  same := by simp
  queue := fun _ _ => rfl

/-- Which clients are known changes only where one is registered. -/
theorem WorkersStep.clients_same {before after : WorkersState} {label : WorkersLabel}
    {client : ClientId} (step : WorkersStep auth deadly workerCount before label after)
    (other : ∀ fifo memory, label ≠ .register client fifo memory) :
    (after.clients client).isSome = (before.clients client).isSome := by
  -- a step writes to the record of a known client, or of the one that it registers
  have written : ∀ {changed : ClientId} {record : Client} {state : WorkersState},
      state.clients = before.clients → (client = changed → (before.clients client).isSome = true) →
      ((state.setClient changed record).clients client).isSome =
        (before.clients client).isSome := by
    intro changed record state same known
    by_cases here : client = changed
    · subst here
      rw [clients_setClient_self, known rfl]
      rfl
    · simp [WorkersState.setClient, Function.update_of_ne here, same]
  cases step with
  | register new registered =>
    rename_i added fifo memory pool
    refine written rfl ?_
    rintro rfl
    exact absurd rfl (other fifo memory)
  | submit present submitted =>
    refine written rfl ?_
    rintro rfl
    rw [present]
    rfl
  | respond held working answer present called =>
    rename_i worker copied results request served response text record sent
    obtain ⟨stream, rfl, -⟩ := send_decided called
    have kept : ((before.setClient request.client { record with stream }).clients client).isSome =
        (before.clients client).isSome := by
      refine written rfl ?_
      rintro rfl
      rw [present]
      rfl
    exact kept
  | markClosed present working =>
    rename_i changed record response
    have kept : ((before.setClient changed record.disconnect).clients client).isSome =
        (before.clients client).isSome := by
      refine written rfl ?_
      rintro rfl
      rw [present]
      rfl
    exact kept
  | closeFifo present gone =>
    refine written rfl ?_
    rintro rfl
    rw [present]
    rfl
  | _ => rfl

/-- The list stays that of the accepted clients when nobody is registered. -/
theorem Listed.workers (listed : Listed state) {label : WorkersLabel} {after : WorkersState}
    (step : WorkersStep auth deadly workerCount state.workers label after)
    (other : ∀ client fifo memory, label ≠ .register client fifo memory)
    (clients : next.clients = state.clients) (workers : next.workers = after) : Listed next where
  same pid := by rw [clients, workers, step.clients_same (other pid), listed.same]
  queue pid unknown := by
    rw [workers] at unknown ⊢
    exact step.queue_missing (other pid) (listed.queue pid (step.clients_none unknown))

/-- The list stays that of the accepted clients when the workers' part is left alone. -/
theorem Listed.main (listed : Listed state) (clients : next.clients = state.clients)
    (workers : next.workers = state.workers) : Listed next where
  same pid := by rw [clients, workers, listed.same]
  queue pid unknown := by
    rw [workers] at unknown ⊢
    exact listed.queue pid unknown

/-- A client that is accepted becomes the head of the list. -/
theorem Listed.accept (listed : Listed state) {client : ClientId} {s2c : Nat}
    {after : WorkersState}
    (step : WorkersStep auth deadly workerCount state.workers (.register client s2c true) after)
    (clients : next.clients = client :: state.clients) (workers : next.workers = after) :
    Listed next := by
  have apart : ∀ pid, pid ≠ client → ∀ fifo memory,
      WorkersLabel.register client s2c true ≠ .register pid fifo memory := by
    rintro pid other fifo memory same
    cases same
    exact other rfl
  have known : (after.clients client).isSome = true := by
    cases step with
    | register new registered => rw [clients_setClient_self]; rfl
  constructor
  case same =>
    intro pid
    rw [clients, workers, List.mem_cons]
    by_cases here : pid = client
    · simp [here, known]
    · simp [here, step.clients_same (apart pid here), listed.same]
  case queue =>
    intro pid unknown
    rw [workers] at unknown ⊢
    have here : pid ≠ client := by
      rintro rfl
      rw [unknown] at known
      cases known
    exact step.queue_missing (apart pid here) (listed.queue pid (step.clients_none unknown))

/-- After every step of the server its list is that of the accepted clients. -/
theorem Listed.step (listed : Listed state) {label : ServerLabel}
    (step : ServerStep auth deadly workerCount state label next) : Listed next := by
  cases step with
  | worker alive mine allowed step =>
    refine listed.workers step ?_ rfl rfl
    rintro client fifo memory rfl
    cases mine
  | leave => exact listed.main rfl rfl
  | move before after => exact listed.main rfl rfl
  | beginCleanup before => exact listed.main rfl rfl
  | accept before apart step => exact listed.accept step rfl rfl
  | received before after => exact listed.main rfl rfl
  | submit before after step => exact listed.workers step (by simp) rfl rfl
  | beginClose before step => exact listed.workers step (by simp) rfl rfl
  | endSession place step => exact listed.workers step (by simp) rfl rfl
  | markClosed place step => exact listed.workers step (by simp) rfl rfl
  | remove place step => exact listed.workers step (by simp) rfl rfl
  | closeRead place =>
    rename_i client caller
    have clients : (state.closeDescriptor (state.fifoC2s client)).clients = state.clients := by
      cases state.fifoC2s client <;> rfl
    exact listed.main clients (closeDescriptor_workers _ _)
  | closeWrite place step =>
    rename_i client caller workers
    have clients : (state.closeDescriptor (state.workers.fifoS2c client)).clients =
        state.clients := by
      cases state.workers.fifoS2c client <;> rfl
    exact listed.workers step (by simp) clients rfl

/-- `find_client` finds the PIDs that were accepted, whatever became of their clients. -/
theorem Listed.findClient_isSome (listed : Listed state) (pid : ClientId) :
    (state.findClient pid).isSome = (state.workers.clients pid).isSome := by
  rw [Bool.eq_iff_iff, ← listed.same pid, ServerState.findClient, List.find?_isSome]
  simp

/-- A PID that was never accepted yields a new client. -/
theorem Listed.accepts (listed : Listed state) (alive : state.workers.alive = true)
    {pid : ClientId} (positive : 0 < pid) (unknown : state.workers.clients pid = none)
    {c2s s2c : Nat} (apart : c2s ≠ s2c) (freeC2s : state.descriptors c2s = none)
    (freeS2c : state.descriptors s2c = none) :
    ∃ next, state.accept auth deadly workerCount pid c2s s2c = some next ∧
      next.IsNew pid c2s s2c := by
  have missing := listed.queue pid unknown
  obtain ⟨pool, registered, queue⟩ :
      ∃ pool, threadpoolRegisterClient state.workers.pool pid true = .ok pool ∧
        findClientQueue pool pid = some { client := pid } := by
    refine ⟨{ state.workers.pool with
      clients := state.workers.pool.clients ++ [({ client := pid } : ClientQueue)]
      nextClient := state.workers.pool.nextClient.or (some pid) }, ?_, ?_⟩
    · simp [threadpoolRegisterClient, missing]
    · simp only [findClientQueue] at missing
      simp [findClientQueue, missing]
  have stepped : (workersMachine auth deadly workerCount).step state.workers
      (.register pid s2c true) =
      some ({ state.workers with pool }.setClient pid
        { stream := { output := { fifoS2c := some s2c } } }) := by
    simp only [workersMachine, alive, ↓reduceIte, unknown, registered]
  rw [ServerState.accept, if_pos ⟨positive, apart, freeC2s, freeS2c⟩, ServerState.perform, stepped]
  exact ⟨_, rfl, rfl, clients_setClient_self, Function.update_self .., queue⟩

end Steps

/-- Whenever the main loop looks at a pending PID, it admits the PID as it should if and only if no
client of it is disconnected. -/
theorem admits_anew_iff (auth : AuthDb) (deadly : Bool) (workerCount : Nat)
    (labels : List ServerLabel) (state : ServerState)
    (ran : (serverMachine auth deadly workerCount).run {} labels = some state)
    (alive : state.workers.alive = true) (pid : ClientId) (positive : 0 < pid) :
    state.AdmitsAnew auth deadly workerCount pid ↔ state.workers.isDisconnected pid = false := by
  have preserved : ∀ state label next, Listed state →
      (serverMachine auth deadly workerCount).step state label = some next → Listed next :=
    fun _ _ _ listed stepped => listed.step (serverMachine_step stepped)
  have listed : Listed state := Machine.run_invariant preserved listed_initial ran
  have found := listed.findClient_isSome pid
  constructor
  · rintro ⟨duplicate, -⟩
    by_contra gone
    have known : (state.workers.clients pid).isSome = true :=
      isSome_of_isDisconnected (by simpa using gone)
    exact gone (duplicate (found.trans known)).2
  · intro connected
    refine ⟨fun there => ⟨found.symm.trans there, connected⟩, ?_⟩
    intro missing c2s s2c apart freeC2s freeS2c
    have unknown : state.workers.clients pid = none := by
      by_contra there
      exact missing ⟨Option.isSome_iff_ne_none.mpr there, connected⟩
    have admitted : ¬ (pid = 0 ∨ (state.findClient pid).isSome = true) := by
      rw [found, unknown]
      simpa using Nat.ne_of_gt positive
    rw [ServerState.acceptClient, if_neg admitted]
    exact listed.accepts alive positive unknown apart freeC2s freeS2c

/-- A client is accepted, leaves and is closed. -/
def connectedOnce : List ServerLabel :=
  [.main (.poll (some (1, 3, 4))), .leave 1, .main (.beginCleanup 0), .main (.visit true),
    .main .endCleanup, .main (.select [1]), .main .serve, .main (.read .ended), .main .close,
    .main (.advance {}), .main .close, .main .close, .main .close, .main .close, .main .serve]

/-- Another PID is admitted then. -/
theorem admits_anew_second : ∃ state,
    (serverMachine [] true 1).run {} connectedOnce = some state ∧ (state.findClient 1).isSome = true ∧
      state.workers.isDisconnected 1 = true ∧ state.AdmitsAnew [] true 1 2 := by
  refine ⟨_, rfl, rfl, rfl, ?_⟩
  exact (admits_anew_iff [] true 1 connectedOnce _ rfl rfl 2 (by decide)).mpr rfl

/-- Its PID is turned away for ever. -/
theorem connectedOnce_turned_away : ∃ state,
    (serverMachine [] true 1).run {} connectedOnce = some state ∧ state.main = .polling ∧
      state.workers.alive = true ∧ ¬ state.AdmitsAnew [] true 1 1 := by
  refine ⟨_, rfl, rfl, rfl, ?_⟩
  rintro ⟨duplicate, -⟩
  have held := duplicate rfl
  exact absurd held.2 (by decide)

end AnimateService
