import AnimateService.Server

/-!
# The steps of the server

Everything that a step of the server can do, said once: a worker's step, a step of the main loop
that only moves it, and the steps of the main loop that register, read, submit and close.
`MainPc.remaining` counts the steps of `close_client` that are still to come, which is what the
invariants of a closed client depend on.
-/
namespace AnimateService

open Transition

/-- The steps from this place to the end of `close_client`; none before its test has failed. -/
def CloseStage.remaining : CloseStage → Nat
  | .entry => 0
  | .session => 4
  | .queue => 3
  | .readEnd => 2
  | .writeEnd => 1

/-- The steps of `close_client` that are still to come for a client. -/
def MainPc.remaining (client : ClientId) : MainPc → Nat
  | .closing closed stage _ => if closed = client then stage.remaining else 0
  | _ => 0

/-- The main loop is outside `close_client`, or at its test. -/
def MainPc.Outside (main : MainPc) : Prop := ∀ client, main.remaining client = 0

/-- The main loop goes on outside. -/
@[simp] theorem resume_outside (caller : Caller) : caller.resume.Outside := by
  cases caller <;> exact fun _ => rfl

/-- With lines to submit the main loop is outside `close_client`. -/
@[simp] theorem submit_outside (client : ClientId) (lines : List Bytes) (rest : List ClientId) :
    (MainPc.submit client lines rest).Outside := by
  unfold MainPc.submit
  split <;> exact fun _ => rfl

/-- At the test of `close_client` it is still outside. -/
@[simp] theorem entry_outside (client : ClientId) (caller : Caller) :
    (MainPc.closing client .entry caller).Outside := by
  intro other
  simp [MainPc.remaining, CloseStage.remaining]

/-- The steps that remain for the client that is closed. -/
@[simp] theorem remaining_closing (client : ClientId) (stage : CloseStage) (caller : Caller) :
    (MainPc.closing client stage caller).remaining client = stage.remaining := if_pos rfl

/-- None remain for the others. -/
theorem remaining_closing_ne {client other : ClientId} (apart : other ≠ client) (stage : CloseStage)
    (caller : Caller) : (MainPc.closing client stage caller).remaining other = 0 :=
  if_neg (Ne.symm apart)

/-- What a step of the server does, with what it requires. -/
inductive ServerStep (auth : AuthDb) (deadly : Bool) (workerCount : Nat) (state : ServerState) :
    ServerLabel → ServerState → Prop where
  /-- A worker takes a step. -/
  | worker {label : WorkersLabel} {workers : WorkersState} (alive : state.workers.alive = true)
      (mine : label.isWorkers workerCount = true) (allowed : state.allows label = true)
      (step : WorkersStep auth deadly workerCount state.workers label workers) :
    ServerStep auth deadly workerCount state (.worker label)
      { state with
        workers, connections := state.heard label, through := state.follow label workers }
  /-- A client closes its ends. -/
  | leave {client : ClientId} :
    ServerStep auth deadly workerCount state (.leave client)
      (state.updateConnection client fun connection => { connection with left := true })
  /-- The main loop moves on. -/
  | move {event : MainEvent} {main : MainPc} (before : state.main.Outside) (after : main.Outside) :
    ServerStep auth deadly workerCount state (.main event) { state with main }
  /-- A cleanup begins. -/
  | beginCleanup {now : Nat} (before : state.main.Outside) :
    ServerStep auth deadly workerCount state (.main (.beginCleanup now))
      { state with main := .cleaning now state.clients, flagged := state.workers.isDisconnected }
  /-- A client is accepted. -/
  | accept {client : ClientId} {c2s s2c : Nat} {workers : WorkersState}
      (before : state.main.Outside) (apart : c2s ≠ s2c)
      (step : WorkersStep auth deadly workerCount state.workers (.register client s2c true) workers) :
    ServerStep auth deadly workerCount state (.main (.poll (some (client, c2s, s2c))))
      { state with
        workers
        connections := Function.update state.connections client (some { fifoC2s := some c2s })
        clients := client :: state.clients
        main := .polled
        descriptors :=
          Function.update (Function.update state.descriptors c2s (some client)) s2c (some client) }
  /-- Bytes are read. -/
  | received {client : ClientId} {result : ReadResult} {buffer : Bytes} {main : MainPc}
      (before : state.main.Outside) (after : main.Outside) :
    ServerStep auth deadly workerCount state (.main (.read result))
      { state.updateConnection client fun connection => { connection with readBuffer := buffer }
        with main }
  /-- A line is submitted. -/
  | submit {client : ClientId} {line : Bytes} {memory : Bool} {workers : WorkersState} {main : MainPc}
      (before : state.main.Outside) (after : main.Outside)
      (step : WorkersStep auth deadly workerCount state.workers (.submit client line memory) workers) :
    ServerStep auth deadly workerCount state (.main (.submit memory)) { state with workers, main }
  /-- `close_client` goes on to `rpc_client_disconnected`. -/
  | beginClose {client : ClientId} {caller : Caller} {workers : WorkersState}
      (before : state.main.Outside)
      (step : WorkersStep auth deadly workerCount state.workers (.beginClose client) workers) :
    ServerStep auth deadly workerCount state (.main .close)
      { state with workers, main := .closing client .session caller }
  /-- A step of `rpc_client_disconnected`. -/
  | endSession {client : ClientId} {caller : Caller} {answers : Answers} {workers : WorkersState}
      (place : state.main = .closing client .session caller)
      (step : WorkersStep auth deadly workerCount state.workers (.advance workerCount answers)
        workers) :
    ServerStep auth deadly workerCount state (.main (.advance answers))
      { state with workers, through := state.follow (.advance workerCount answers) workers }
  /-- The flag is set. -/
  | markClosed {client : ClientId} {caller : Caller} {workers : WorkersState}
      (place : state.main = .closing client .session caller)
      (step : WorkersStep auth deadly workerCount state.workers (.markClosed client) workers) :
    ServerStep auth deadly workerCount state (.main .close)
      { state with workers, main := .closing client .queue caller }
  /-- The queue is removed. -/
  | remove {client : ClientId} {caller : Caller} {workers : WorkersState}
      (place : state.main = .closing client .queue caller)
      (step : WorkersStep auth deadly workerCount state.workers (.remove client) workers) :
    ServerStep auth deadly workerCount state (.main .close)
      { state with workers, main := .closing client .readEnd caller }
  /-- The FIFO that is read is closed. -/
  | closeRead {client : ClientId} {caller : Caller}
      (place : state.main = .closing client .readEnd caller) :
    ServerStep auth deadly workerCount state (.main .close)
      { (state.closeDescriptor (state.fifoC2s client)).updateConnection client fun connection =>
          { connection with fifoC2s := none }
        with main := .closing client .writeEnd caller }
  /-- The FIFO that is written is closed. -/
  | closeWrite {client : ClientId} {caller : Caller} {workers : WorkersState}
      (place : state.main = .closing client .writeEnd caller)
      (step : WorkersStep auth deadly workerCount state.workers (.closeFifo client) workers) :
    ServerStep auth deadly workerCount state (.main .close)
      { state.closeDescriptor (state.workers.fifoS2c client)
        with workers, main := caller.resume }

variable {auth : AuthDb} {deadly : Bool} {workerCount : Nat} {state next : ServerState}

/-- A step that writes to nobody leaves the connections alone. -/
theorem heard_of_silent {label : WorkersLabel} (silent : label.results = []) :
    state.heard label = state.connections := by
  funext client
  simp [ServerState.heard, silent]

/-- A step of the workers' part is one of their machine. -/
theorem perform_some {label : WorkersLabel}
    (performed : state.perform auth deadly workerCount label = some next) :
    ∃ workers, state.workers.alive = true ∧
      WorkersStep auth deadly workerCount state.workers label workers ∧
      next = { state with
        workers, connections := state.heard label, through := state.follow label workers } := by
  obtain ⟨workers, stepped, rfl⟩ := Option.map_eq_some_iff.mp performed
  obtain ⟨alive, step⟩ := workersMachine_step stepped
  exact ⟨workers, alive, step, rfl⟩

/-- A step of the main loop that is no step of a handler leaves the records alone. -/
theorem perform_silent {label : WorkersLabel} (silent : label.results = [])
    (other : ∀ thread answers, label ≠ .advance thread answers)
    (performed : state.perform auth deadly workerCount label = some next) :
    ∃ workers, WorkersStep auth deadly workerCount state.workers label workers ∧
      next = { state with workers } := by
  obtain ⟨workers, -, step, rfl⟩ := perform_some performed
  have through : state.follow label workers = state.through := by
    cases label with
    | advance thread answers => exact absurd rfl (other thread answers)
    | _ => rfl
  exact ⟨workers, step, by rw [heard_of_silent silent, through]⟩

/-- A visit leads outside. -/
theorem visit_outside (now : Nat) (client : ClientId) (rest : List ClientId) (found : Bool) :
    (state.visit now client rest found).Outside := by
  unfold ServerState.visit
  dsimp only
  split
  · exact fun _ => rfl
  · split
    · exact entry_outside _ _
    · exact fun _ => rfl

/-- A pass of the loop of `read_client_requests`. -/
theorem read_step {client : ClientId} {rest : List ClientId} {result : ReadResult}
    (before : state.main.Outside) (read : state.read client rest result = some next) :
    ServerStep auth deadly workerCount state (.main (.read result)) next := by
  unfold ServerState.read at read
  split at read
  · cases read
    exact .move before fun _ => rfl
  · cases result with
    | data chunk =>
      obtain ⟨connection, -, cut⟩ := Option.bind_eq_some_iff.mp read
      dsimp only at cut
      split at cut
      · cases cut
        exact .received before (submit_outside _ _ _)
      · cases cut
    | ended =>
      dsimp only at read
      split at read
      · cases read
        exact .move before (entry_outside _ _)
      · cases read
    | interrupted =>
      cases read
      exact .move before before
    | empty =>
      cases read
      exact .move before fun _ => rfl
    | failed =>
      cases read
      exact .move before (entry_outside _ _)

/-- A step of `close_client`. -/
theorem close_step {client : ClientId} {caller : Caller} {stage : CloseStage}
    (place : state.main = .closing client stage caller)
    (closed : state.close auth deadly workerCount client caller stage = some next) :
    ServerStep auth deadly workerCount state (.main .close) next := by
  cases stage with
  | entry =>
    have before : state.main.Outside := place ▸ entry_outside client caller
    simp only [ServerState.close] at closed
    split at closed
    · cases closed
      exact .move before (resume_outside caller)
    · obtain ⟨middle, performed, rfl⟩ := Option.map_eq_some_iff.mp closed
      obtain ⟨workers, step, rfl⟩ := perform_silent rfl (by simp) performed
      exact .beginClose before step
  | session =>
    obtain ⟨middle, performed, rfl⟩ := Option.map_eq_some_iff.mp closed
    obtain ⟨workers, step, rfl⟩ := perform_silent rfl (by simp) performed
    exact .markClosed place step
  | queue =>
    obtain ⟨middle, performed, rfl⟩ := Option.map_eq_some_iff.mp closed
    obtain ⟨workers, step, rfl⟩ := perform_silent rfl (by simp) performed
    exact .remove place step
  | readEnd =>
    cases closed
    exact .closeRead place
  | writeEnd =>
    obtain ⟨middle, performed, rfl⟩ := Option.map_eq_some_iff.mp closed
    obtain ⟨workers, step, rfl⟩ := perform_silent rfl (by simp) performed
    rw [closeDescriptor_workers] at step
    exact .closeWrite place step

/-- Every step of the main loop is one of these. -/
theorem mainStep_step {event : MainEvent}
    (stepped : state.mainStep auth deadly workerCount state.main event = some next) :
    ServerStep auth deadly workerCount state (.main event) next := by
  generalize place : state.main = main at stepped
  unfold ServerState.mainStep at stepped
  split at stepped
  · cases stepped
    exact .move (place ▸ fun _ => rfl) fun _ => rfl
  · rename_i client c2s s2c
    unfold ServerState.accept at stepped
    split at stepped
    · rename_i fresh
      obtain ⟨middle, performed, rfl⟩ := Option.map_eq_some_iff.mp stepped
      obtain ⟨workers, step, rfl⟩ := perform_silent rfl (by simp) performed
      exact .accept (place ▸ fun _ => rfl) fresh.2.1 step
    · cases stepped
  · cases stepped
    exact .beginCleanup (place ▸ fun _ => rfl)
  · cases stepped
    exact .move (place ▸ fun _ => rfl) (visit_outside _ _ _ _)
  · cases stepped
    exact .move (place ▸ fun _ => rfl) fun _ => rfl
  · split at stepped
    · cases stepped
      exact .move (place ▸ fun _ => rfl) fun _ => rfl
    · cases stepped
  · cases stepped
    exact .move (place ▸ fun _ => rfl) fun _ => rfl
  · cases stepped
    refine .move (place ▸ fun _ => rfl) ?_
    split <;> exact fun _ => rfl
  · exact read_step (place ▸ fun _ => rfl) stepped
  · obtain ⟨middle, performed, rfl⟩ := Option.map_eq_some_iff.mp stepped
    obtain ⟨workers, step, rfl⟩ := perform_silent rfl (by simp) performed
    exact .submit (place ▸ fun _ => rfl) (submit_outside _ _ _) step
  · exact close_step place stepped
  · rename_i client caller answers
    obtain ⟨middle, performed, rfl⟩ := Option.map_eq_some_iff.mp stepped
    obtain ⟨workers, -, step, rfl⟩ := perform_some performed
    have same : ({ state with
        workers
        connections := state.heard (.advance workerCount answers)
        through := state.follow (.advance workerCount answers) workers
        main := .closing client .session caller } : ServerState) =
      { state with workers, through := state.follow (.advance workerCount answers) workers } := by
      rw [heard_of_silent rfl, ← place]
    rw [same]
    exact .endSession place step
  · cases stepped

/-- Every step of the server is one of these. -/
theorem serverMachine_step {label : ServerLabel}
    (stepped : (serverMachine auth deadly workerCount).step state label = some next) :
    ServerStep auth deadly workerCount state label next := by
  cases label with
  | worker label =>
    simp only [serverMachine] at stepped
    split at stepped
    · rename_i accepted
      obtain ⟨mine, allowed⟩ := Bool.and_eq_true_iff.mp accepted
      obtain ⟨workers, alive, step, rfl⟩ := perform_some stepped
      exact .worker alive mine allowed step
    · cases stepped
  | main event =>
    simp only [serverMachine] at stepped
    split at stepped
    · exact mainStep_step stepped
    · cases stepped
  | leave client =>
    simp only [serverMachine] at stepped
    split at stepped
    · cases stepped
      exact .leave
    · cases stepped

/-! ## What the workers' part does to flags, FIFOs and threads -/

section
variable {before after : WorkersState} {label : WorkersLabel} {client other : ClientId}

/-- The flag in the record that was written. -/
@[simp] theorem isDisconnected_setClient_self (record : Client) :
    (before.setClient client record).isDisconnected client = record.stream.output.disconnected := by
  simp [WorkersState.isDisconnected]

/-- The flag of another client. -/
theorem isDisconnected_setClient_ne (apart : other ≠ client) (record : Client) :
    (before.setClient client record).isDisconnected other = before.isDisconnected other := by
  simp only [WorkersState.isDisconnected, clients_setClient_ne apart]

/-- The FIFO in the record that was written. -/
@[simp] theorem fifoS2c_setClient_self (record : Client) :
    (before.setClient client record).fifoS2c client = record.stream.output.fifoS2c := by
  simp [WorkersState.fifoS2c]

/-- The FIFO of another client. -/
theorem fifoS2c_setClient_ne (apart : other ≠ client) (record : Client) :
    (before.setClient client record).fifoS2c other = before.fifoS2c other := by
  simp only [WorkersState.fifoS2c, clients_setClient_ne apart]

/-- The flag of a client whose record is known. -/
theorem isDisconnected_of_some {record : Client} (present : before.clients client = some record) :
    before.isDisconnected client = record.stream.output.disconnected := by
  simp [WorkersState.isDisconnected, present]

/-- The FIFO of a client whose record is known. -/
theorem fifoS2c_of_some {record : Client} (present : before.clients client = some record) :
    before.fifoS2c client = record.stream.output.fifoS2c := by
  simp [WorkersState.fifoS2c, present]

/-- Sending is decided by the kernel's answers and leaves the FIFO open. -/
theorem send_decided {request : Request} {record : Client} {text : Bytes}
    {results : List WriteResult} {sent : WorkersState}
    (called : before.send deadly request record text results = some sent) :
    ∃ stream, sent =
        { before.setClient request.client { record with stream } with alive := !stream.killed } ∧
      stream.output.fifoS2c = record.stream.output.fifoS2c ∧
      (stream.output.disconnected = true ↔ record.stream.output.disconnected = true ∨
        ∃ result ∈ results, result.fails deadly = true) ∧
      (stream.killed = true ↔ ∃ result ∈ results, result.kills deadly = true) := by
  obtain ⟨stream, stepped, rfl⟩ := send_some called
  refine ⟨stream, rfl, ?_⟩
  simp only [streamMachine] at stepped
  split at stepped
  · cases stepped
  · obtain ⟨sent, written, rfl⟩ := Option.map_eq_some_iff.mp stepped
    obtain ⟨fails, kills⟩ := sendOrderedResponse_decided written
    exact ⟨sendOrderedResponse_fifoS2c written, fails, kills⟩

/-- The flag is set by a write that fails and at the end of a close. -/
theorem WorkersStep.flagged (step : WorkersStep auth deadly workerCount before label after)
    (flag : after.isDisconnected client = true) :
    before.isDisconnected client = true ∨
      (label = .markClosed client ∧
        ∃ response, before.rpc.threads workerCount = some ⟨client, .finished response⟩) ∨
      (before.recipient label = some client ∧
        ∃ result ∈ label.results, result.fails deadly = true) := by
  -- a step writes to the record of one client at most
  have written : ∀ {changed : ClientId} {record : Client} {state : WorkersState},
      state.clients = before.clients →
      (state.setClient changed record).isDisconnected client = true →
      before.isDisconnected client = true ∨
        client = changed ∧ record.stream.output.disconnected = true := by
    intro changed record state same set
    by_cases here : client = changed
    · subst here
      rw [isDisconnected_setClient_self] at set
      exact .inr ⟨rfl, set⟩
    · rw [isDisconnected_setClient_ne here, WorkersState.isDisconnected, same] at set
      exact .inl set
  cases step with
  | register new registered =>
    rcases written rfl flag with old | ⟨rfl, impossible⟩
    · exact .inl old
    · cases impossible
  | submit present submitted =>
    rcases written rfl flag with old | ⟨rfl, set⟩
    · exact .inl old
    · exact .inl ((isDisconnected_of_some present).trans set)
  | refuse present refused => exact .inl flag
  | dequeue idle known dequeued => exact .inl flag
  | advance stepped => exact .inl flag
  | respond held working answer present called =>
    obtain ⟨stream, rfl, -, fails, -⟩ := send_decided called
    rcases written rfl flag with old | ⟨rfl, set⟩
    · exact .inl old
    · rcases fails.mp set with old | failing
      · exact .inl ((isDisconnected_of_some present).trans old)
      · exact .inr (.inr ⟨by simp [WorkersState.recipient, held], failing⟩)
  | silent held working answer => exact .inl flag
  | beginClose present connected stepped => exact .inl flag
  | markClosed present working =>
    rcases written rfl flag with old | ⟨rfl, -⟩
    · exact .inl old
    · exact .inr (.inl ⟨rfl, _, working⟩)
  | remove present gone => exact .inl flag
  | closeFifo present gone =>
    rcases written rfl flag with old | ⟨rfl, set⟩
    · exact .inl old
    · exact .inl ((isDisconnected_of_some present).trans gone)

/-- A FIFO is opened for a new client and closed for one that is closed. -/
theorem WorkersStep.fifoS2c (step : WorkersStep auth deadly workerCount before label after)
    (client : ClientId) : after.fifoS2c client = before.fifoS2c client ∨
      (∃ fifo memory, label = .register client fifo memory ∧ before.clients client = none ∧
        after.fifoS2c client = some fifo) ∨
      (label = .closeFifo client ∧ after.fifoS2c client = none) := by
  -- a step writes to the record of one client at most
  have written : ∀ {changed : ClientId} {record : Client} {state : WorkersState},
      state.clients = before.clients → client ≠ changed →
      (state.setClient changed record).fifoS2c client = before.fifoS2c client := by
    intro changed record state same apart
    rw [fifoS2c_setClient_ne apart, WorkersState.fifoS2c, same]
    rfl
  cases step with
  | register new registered =>
    rename_i changed fifo memory pool
    by_cases here : client = changed
    · subst here
      exact .inr (.inl ⟨fifo, memory, rfl, new, fifoS2c_setClient_self _⟩)
    · exact .inl (written rfl here)
  | submit present submitted =>
    rename_i changed line memory record pool
    by_cases here : client = changed
    · subst here
      exact .inl ((fifoS2c_setClient_self _).trans (fifoS2c_of_some present).symm)
    · exact .inl (written rfl here)
  | refuse present refused => exact .inl rfl
  | dequeue idle known dequeued => exact .inl rfl
  | advance stepped => exact .inl rfl
  | respond held working answer present called =>
    rename_i worker copied results request served response text record sent
    obtain ⟨stream, rfl, kept, -⟩ := send_decided called
    refine .inl ?_
    by_cases here : client = request.client
    · rw [here, fifoS2c_of_some present, ← kept]
      exact fifoS2c_setClient_self _
    · exact written rfl here
  | silent held working answer => exact .inl rfl
  | beginClose present connected stepped => exact .inl rfl
  | markClosed present working =>
    rename_i changed record response
    by_cases here : client = changed
    · subst here
      exact .inl ((fifoS2c_setClient_self _).trans (fifoS2c_of_some present).symm)
    · exact .inl (written rfl here)
  | remove present gone => exact .inl rfl
  | closeFifo present gone =>
    rename_i changed record
    by_cases here : client = changed
    · subst here
      exact .inr (.inr ⟨rfl, fifoS2c_setClient_self _⟩)
    · exact .inl (written rfl here)

/-- A step that is no step of a handler leaves the sessions and the world alone; a thread takes up
a request or the end of a session at most. -/
theorem WorkersStep.rpc_kept (step : WorkersStep auth deadly workerCount before label after)
    (outside : ∀ thread answers, label ≠ .advance thread answers) :
    after.rpc.sessions = before.rpc.sessions ∧ after.rpc.world = before.rpc.world ∧
      ∀ thread client pc, after.rpc.threads thread = some ⟨client, pc⟩ →
        before.rpc.threads thread = some ⟨client, pc⟩ ∨
          (∃ line, pc = .start line) ∧ thread < workerCount ∨ pc = .disconnect := by
  -- only the work of one thread changes
  have given : ∀ (busy : ThreadId) (work : Option Thread) (thread : ThreadId) (client : ClientId)
      (pc : Pc), (before.rpc.setThread busy work).threads thread = some ⟨client, pc⟩ →
      before.rpc.threads thread = some ⟨client, pc⟩ ∨ thread = busy ∧ work = some ⟨client, pc⟩ := by
    intro busy work thread client pc working
    by_cases here : thread = busy
    · subst here
      have same : (before.rpc.setThread thread work).threads thread = work :=
        Function.update_self ..
      exact .inr ⟨rfl, same.symm.trans working⟩
    · have same : (before.rpc.setThread busy work).threads thread = before.rpc.threads thread :=
        Function.update_of_ne here ..
      exact .inl (same.symm.trans working)
  cases step with
  | register new registered => exact ⟨rfl, rfl, fun _ _ _ => .inl⟩
  | submit present submitted => exact ⟨rfl, rfl, fun _ _ _ => .inl⟩
  | refuse present refused => exact ⟨rfl, rfl, fun _ _ _ => .inl⟩
  | dequeue idle known dequeued =>
    refine ⟨rfl, rfl, fun thread client pc working => ?_⟩
    rcases given _ _ thread client pc working with old | ⟨rfl, taken⟩
    · exact .inl old
    · obtain ⟨-, rfl⟩ := Thread.mk.inj (Option.some.inj taken)
      exact .inr (.inl ⟨⟨_, rfl⟩, known⟩)
  | advance stepped => exact absurd rfl (outside _ _)
  | respond held working answer present called =>
    obtain ⟨stream, rfl, -⟩ := send_decided called
    refine ⟨rfl, rfl, fun thread client pc working => ?_⟩
    rcases given _ none thread client pc working with old | ⟨-, impossible⟩
    · exact .inl old
    · cases impossible
  | silent held working answer =>
    refine ⟨rfl, rfl, fun thread client pc working => ?_⟩
    rcases given _ none thread client pc working with old | ⟨-, impossible⟩
    · exact .inl old
    · cases impossible
  | beginClose present connected stepped =>
    obtain ⟨-, rfl⟩ := rpcMachine_close stepped
    refine ⟨rfl, rfl, fun thread client pc working => ?_⟩
    rcases given _ _ thread client pc working with old | ⟨-, taken⟩
    · exact .inl old
    · obtain ⟨-, rfl⟩ := Thread.mk.inj (Option.some.inj taken)
      exact .inr (.inr rfl)
  | markClosed present working =>
    refine ⟨rfl, rfl, fun thread client pc there => ?_⟩
    rcases given _ none thread client pc there with old | ⟨-, impossible⟩
    · exact .inl old
    · cases impossible
  | remove present gone => exact ⟨rfl, rfl, fun _ _ _ => .inl⟩
  | closeFifo present gone => exact ⟨rfl, rfl, fun _ _ _ => .inl⟩

end

end AnimateService
