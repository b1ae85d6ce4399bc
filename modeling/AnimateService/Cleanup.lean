import AnimateService.Holders

/-!
# The cleanup of disconnected clients

`close_client` ends the session of a client, sets its flag, removes its queue and closes its
descriptors, in this order. While nothing else sets the flag, a client whose flag is set is either
on its way through `close_client` or has nothing left: then every pass of the cleanup leaves no
work behind for the clients that it skips.
-/
namespace AnimateService

open Transition

/-! ## What is missing stays missing -/

variable {auth : AuthDb} {deadly : Bool} {workerCount : Nat}

/-- A queue that is not there does not come back, unless its client is registered. -/
theorem WorkersStep.queue_missing {before after : WorkersState} {label : WorkersLabel}
    {client : ClientId} (step : WorkersStep auth deadly workerCount before label after)
    (other : ∀ fifo memory, label ≠ .register client fifo memory)
    (missing : findClientQueue before.pool client = none) :
    findClientQueue after.pool client = none := by
  -- a write to a queue makes none
  have written : ∀ {pool : Pool} {changed : ClientId} {write : ClientQueue → ClientQueue},
      pool.clients = before.pool.updateQueue changed write →
      (∀ queue, (write queue).client = queue.client) → findClientQueue pool client = none := by
    intro pool changed write same kept
    rw [findClientQueue_updateQueue same kept, missing]
    rfl
  cases step with
  | register new registered =>
    rename_i added fifo memory pool
    have apart : added ≠ client := by
      rintro rfl
      exact other fifo memory rfl
    obtain ⟨-, rfl⟩ := threadpoolRegisterClient_ok registered
    simp only [WorkersState.setClient, findClientQueue, List.find?_append] at missing ⊢
    simp [missing, apart]
  | submit present submitted =>
    unfold threadpoolSubmit at submitted
    split at submitted
    · split at submitted
      · cases submitted
      · split at submitted <;> cases submitted
        exact written rfl fun _ => rfl
    · cases submitted
  | refuse present refused => exact missing
  | dequeue idle free dequeued =>
    unfold dequeueFairRequest at dequeued
    split at dequeued
    · cases dequeued
    · split at dequeued
      · obtain ⟨first, head, same⟩ := Option.map_eq_some_iff.mp dequeued
        obtain ⟨rfl, rfl⟩ := Prod.mk.inj same
        exact written rfl fun _ => rfl
      · cases dequeued
  | advance stepped => exact missing
  | respond held working answer present called =>
    obtain ⟨stream, rfl, -⟩ := send_decided called
    exact missing
  | silent held working answer => exact missing
  | beginClose present connected stepped => exact missing
  | markClosed present working => exact missing
  | remove present gone =>
    simp only [threadpoolRemoveClient]
    split
    · simp only [findClientQueue, List.find?_filter] at missing ⊢
      rw [List.find?_eq_none] at missing ⊢
      intro queue member
      simpa using fun _ => by simpa using missing queue member
    · exact missing
  | closeFifo present gone => exact missing

/-- The queue of a client that is known does not come back. -/
theorem WorkersStep.queue_none {before after : WorkersState} {label : WorkersLabel}
    {client : ClientId} (step : WorkersStep auth deadly workerCount before label after)
    (known : (before.clients client).isSome = true)
    (missing : findClientQueue before.pool client = none) :
    findClientQueue after.pool client = none := by
  refine step.queue_missing ?_ missing
  rintro fifo memory rfl
  cases step with
  | register new registered => simp [new] at known

/-- A client that is unknown was unknown before. -/
theorem WorkersStep.clients_none {before after : WorkersState} {label : WorkersLabel}
    {client : ClientId} (step : WorkersStep auth deadly workerCount before label after)
    (unknown : after.clients client = none) : before.clients client = none := by
  cases step with
  | register new registered => exact (clients_setClient_none unknown).2
  | submit present submitted => exact (clients_setClient_none unknown).2
  | respond held working answer present called =>
    rename_i worker copied results request served response text record sent
    obtain ⟨stream, rfl, -⟩ := send_decided called
    have missing : (before.setClient request.client { record with stream }).clients client = none :=
      unknown
    exact (clients_setClient_none missing).2
  | markClosed present working =>
    rename_i changed record response
    have missing : (before.setClient changed record.disconnect).clients client = none := unknown
    exact (clients_setClient_none missing).2
  | closeFifo present gone => exact (clients_setClient_none unknown).2
  | _ => exact unknown

/-- A flag stays set. -/
theorem WorkersStep.flag_kept {before after : WorkersState} {label : WorkersLabel}
    {client : ClientId} (step : WorkersStep auth deadly workerCount before label after)
    (flag : before.isDisconnected client = true) : after.isDisconnected client = true := by
  -- a step writes to the record of one client at most
  have written : ∀ {changed : ClientId} {record : Client} {state : WorkersState},
      state.clients = before.clients →
      (client = changed → record.stream.output.disconnected = true) →
      (state.setClient changed record).isDisconnected client = true := by
    intro changed record state same set
    by_cases here : client = changed
    · subst here
      rw [isDisconnected_setClient_self]
      exact set rfl
    · rw [isDisconnected_setClient_ne here, WorkersState.isDisconnected, same]
      exact flag
  cases step with
  | register new registered =>
    refine written rfl ?_
    rintro rfl
    simp [WorkersState.isDisconnected, new] at flag
  | submit present submitted =>
    refine written rfl ?_
    rintro rfl
    exact (isDisconnected_of_some present).symm.trans flag
  | respond held working answer present called =>
    rename_i worker copied results request served response text record sent
    obtain ⟨stream, rfl, -, fails, -⟩ := send_decided called
    have kept : (before.setClient request.client { record with stream }).isDisconnected client = true :=
      written rfl fun here =>
        fails.mpr (.inl ((isDisconnected_of_some (here ▸ present)).symm.trans flag))
    exact kept
  | markClosed present working =>
    rename_i changed record response
    have kept : (before.setClient changed record.disconnect).isDisconnected client = true :=
      written rfl fun _ => rfl
    exact kept
  | closeFifo present gone => exact written rfl fun _ => gone
  | _ => exact flag

/-! ## What is left of a client -/

variable {state next : ServerState} {client : ClientId}

/-- Nothing is left of a client. -/
structure Cleaned (state : ServerState) (client : ClientId) : Prop where
  /-- Its session has ended. -/
  session : (state.workers.rpc.sessions client).loggedIn = false ∧
    (state.workers.rpc.sessions client).username = []
  /-- Nobody is connected to a canvas through it. -/
  through : ∀ name, name ∉ state.through client
  /-- Whoever is connected to a canvas, or waits there, is so through another client. -/
  members : ∀ canvas ∈ state.workers.rpc.world.store.canvases, ∀ member ∈ canvas.users,
    member.connected = true ∨ member.barrierWaiting = true →
    ∃ other, other ≠ client ∧ member.username ∈ state.through other
  /-- It has no queue in the pool. -/
  queue : findClientQueue state.workers.pool client = none
  /-- No request in the pool is its. -/
  requests : ∀ request ∈ state.workers.pool.waiting, request.client ≠ client
  /-- `fifo_c2s_fd` is -1. -/
  readEnd : state.fifoC2s client = none
  /-- `fifo_s2c_fd` is -1. -/
  writeEnd : state.workers.fifoS2c client = none
  /-- No descriptor of its FIFOs is open. -/
  descriptors : ∀ fd, state.descriptors fd ≠ some client

/-- Behind a pass of the cleanup, nothing is left of the clients whose flag was set when the pass
began. -/
def PassCleans (state : ServerState) : Prop :=
  state.main = .watching → ∀ client, state.flagged client = true → Cleaned state client

/-- No write fails, and what the handlers connect is tied to sessions. -/
def CleanupKept (auth : AuthDb) (deadly : Bool) (workerCount : Nat) (state : ServerState) :
    ServerLabel → Prop
  | .worker (.respond _ _ results) => ∀ result ∈ results, result.fails deadly = false
  | .worker (.advance thread answers) => state.Tied auth workerCount thread answers
  | _ => True

/-- How far `close_client` has got with a client whose flag is set. -/
structure Tidied (state : ServerState) (client : ClientId) : Prop where
  /-- Its session has ended. -/
  early : state.main.remaining client ≤ 3
  /-- Then its queue is removed. -/
  queue : state.main.remaining client ≤ 2 → findClientQueue state.workers.pool client = none
  /-- Then the FIFO that is read is closed. -/
  readEnd : state.main.remaining client ≤ 1 → state.fifoC2s client = none
  /-- Then the one that is written. -/
  writeEnd : state.main.remaining client = 0 → state.workers.fifoS2c client = none

/-- What holds of the clients' flags, queues and descriptors. -/
structure Tidy (workerCount : Nat) (state : ServerState) : Prop where
  /-- The workers' part is formed. -/
  formed : state.workers.Formed workerCount
  /-- Only accepted clients have connections. -/
  known : ∀ client, state.workers.clients client = none → state.connections client = none
  /-- An open descriptor is a field of its client. -/
  descriptors : ∀ fd client, state.descriptors fd = some client →
    state.fifoC2s client = some fd ∨ state.workers.fifoS2c client = some fd
  /-- A flag that was set when a cleanup began is still set. -/
  flagged : ∀ client, state.flagged client = true → state.workers.isDisconnected client = true
  /-- A client whose flag is set has been tidied up as far as `close_client` has got. -/
  closed : ∀ client, state.workers.isDisconnected client = true → Tidied state client

/-- The server that starts. -/
theorem tidy_initial : Tidy workerCount {} where
  formed := workers_formed_initial
  known := fun _ _ => rfl
  descriptors := by simp
  flagged := by simp
  closed := by simp [WorkersState.isDisconnected]

/-- A client stays tidied while nothing of it comes back. -/
theorem Tidied.kept (tidied : Tidied state client)
    (main : next.main.remaining client = state.main.remaining client)
    (queue : findClientQueue state.workers.pool client = none →
      findClientQueue next.workers.pool client = none)
    (readEnd : state.fifoC2s client = none → next.fifoC2s client = none)
    (writeEnd : state.workers.fifoS2c client = none → next.workers.fifoS2c client = none) :
    Tidied next client where
  early := main ▸ tidied.early
  queue := fun far => queue (tidied.queue (main ▸ far))
  readEnd := fun far => readEnd (tidied.readEnd (main ▸ far))
  writeEnd := fun far => writeEnd (tidied.writeEnd (main ▸ far))

/-- A known client's record is there. -/
theorem isSome_of_isDisconnected {workers : WorkersState}
    (flag : workers.isDisconnected client = true) : (workers.clients client).isSome = true := by
  unfold WorkersState.isDisconnected at flag
  cases there : workers.clients client with
  | none => simp [there] at flag
  | some record => rfl

/-- What a step of the workers' part does to the FIFO of a client whose flag is set. -/
theorem WorkersStep.fifoS2c_none {before after : WorkersState} {label : WorkersLabel}
    (step : WorkersStep auth deadly workerCount before label after)
    (flag : before.isDisconnected client = true) (closed : before.fifoS2c client = none) :
    after.fifoS2c client = none := by
  rcases step.fifoS2c client with same | ⟨fifo, memory, -, new, -⟩ | ⟨-, now⟩
  · rw [same, closed]
  · have known := isSome_of_isDisconnected flag
    rw [new] at known
    cases known
  · exact now

/-- A client whose flag was set before a step of the workers' part stays tidied, if the main loop
has not moved for it and its other FIFO is as it was. -/
theorem Tidied.workers {label : WorkersLabel} {workers : WorkersState}
    (tidied : Tidied state client) (flag : state.workers.isDisconnected client = true)
    (step : WorkersStep auth deadly workerCount state.workers label workers)
    (same : next.workers = workers)
    (main : next.main.remaining client = state.main.remaining client)
    (readEnd : next.fifoC2s client = state.fifoC2s client) : Tidied next client := by
  subst same
  exact tidied.kept main (step.queue_none (isSome_of_isDisconnected flag))
    (fun closed => readEnd.trans closed) (step.fifoS2c_none flag)

/-! ## Every step of the server -/

/-- A step of the workers' part that neither accepts nor closes a client keeps everything tidy, if
no write fails in it and the main loop has not moved for a client whose flag is set. -/
theorem Tidy.workers {label : WorkersLabel} {workers : WorkersState} (tidy : Tidy workerCount state)
    (step : WorkersStep auth deadly workerCount state.workers label workers)
    (written : ∀ result ∈ label.results, result.fails deadly = false)
    (unclosed : ∀ client, label ≠ .markClosed client)
    (unshut : ∀ client, label ≠ .closeFifo client)
    (unaccepted : ∀ client fifo memory, label ≠ .register client fifo memory)
    (same : next.workers = workers)
    (main : ∀ client, state.workers.isDisconnected client = true →
      next.main.remaining client = state.main.remaining client)
    (connections : ∀ client, state.connections client = none → next.connections client = none)
    (readEnd : ∀ client, next.fifoC2s client = state.fifoC2s client)
    (descriptors : next.descriptors = state.descriptors) (flagged : next.flagged = state.flagged) :
    Tidy workerCount next := by
  subst same
  have old : ∀ client, next.workers.isDisconnected client = true →
      state.workers.isDisconnected client = true := by
    intro client flag
    rcases step.flagged flag with old | ⟨impossible, -⟩ | ⟨-, result, inside, fails⟩
    · exact old
    · exact absurd impossible (unclosed client)
    · rw [written result inside] at fails
      cases fails
  constructor
  case formed => exact step.formed tidy.formed
  case known =>
    exact fun client unknown => connections client (tidy.known client (step.clients_none unknown))
  case descriptors =>
    intro fd client owner
    rw [descriptors] at owner
    rw [readEnd]
    refine (tidy.descriptors fd client owner).imp_right fun there => ?_
    rcases step.fifoS2c client with kept | ⟨fifo, memory, impossible, -⟩ | ⟨impossible, -⟩
    · exact kept.trans there
    · exact absurd impossible (unaccepted _ _ _)
    · exact absurd impossible (unshut _)
  case flagged =>
    intro client flag
    rw [flagged] at flag
    exact step.flag_kept (tidy.flagged client flag)
  case closed =>
    intro client flag
    have before := old client flag
    exact (tidy.closed client before).workers before step rfl (main client before) (readEnd client)

/-- A step that leaves the workers' part alone keeps everything tidy. -/
theorem Tidy.main (tidy : Tidy workerCount state) (same : next.workers = state.workers)
    (main : ∀ client, next.main.remaining client = state.main.remaining client)
    (connections : ∀ client, state.connections client = none → next.connections client = none)
    (readEnd : ∀ client, next.fifoC2s client = state.fifoC2s client)
    (descriptors : next.descriptors = state.descriptors)
    (flagged : ∀ client, next.flagged client = true →
      state.workers.isDisconnected client = true) : Tidy workerCount next where
  formed := same ▸ tidy.formed
  known := fun client unknown => connections client (tidy.known client (same ▸ unknown))
  descriptors := by
    intro fd client owner
    rw [descriptors] at owner
    rw [readEnd, same]
    exact tidy.descriptors fd client owner
  flagged := fun client flag => same ▸ flagged client flag
  closed := by
    intro client flag
    refine (tidy.closed client (same ▸ flag)).kept (main client) ?_ ?_ ?_
    · rw [same]
      exact id
    · rw [readEnd]
      exact id
    · rw [same]
      exact id

/-- Writing to a connection makes none. -/
theorem updateConnection_none {changed : ClientId} {write : Connection → Connection}
    (unknown : state.connections client = none) :
    (state.updateConnection changed write).connections client = none := by
  by_cases here : client = changed
  · subst here
    simp [ServerState.updateConnection, unknown]
  · simp [ServerState.updateConnection, Function.update_of_ne here, unknown]

/-- Writing to a connection leaves its descriptor if the write does. -/
theorem fifoC2s_updateConnection {changed : ClientId} {write : Connection → Connection}
    (kept : ∀ connection, (write connection).fifoC2s = connection.fifoC2s) :
    (state.updateConnection changed write).fifoC2s client = state.fifoC2s client := by
  by_cases here : client = changed
  · subst here
    cases there : state.connections client <;>
      simp [ServerState.updateConnection, ServerState.fifoC2s, there, kept]
  · simp [ServerState.updateConnection, ServerState.fifoC2s, Function.update_of_ne here]

/-- A write that finds no reader leaves the descriptors. -/
theorem heard_fifoC2s (label : WorkersLabel) :
    (state.heard label client).bind Connection.fifoC2s = state.fifoC2s client := by
  unfold ServerState.heard ServerState.fifoC2s
  split
  · cases state.connections client <;> rfl
  · rfl

/-- A step of the workers makes no connection. -/
theorem heard_none (label : WorkersLabel) (unknown : state.connections client = none) :
    state.heard label client = none := by
  unfold ServerState.heard
  split <;> simp [unknown]

/-- The steps that remain are the same while the main loop is outside. -/
theorem MainPc.Outside.same {before after : MainPc} (outside : before.Outside)
    (still : after.Outside) (client : ClientId) : after.remaining client = before.remaining client :=
  (still client).trans (outside client).symm

/-- The end of `accept_client` keeps everything tidy. -/
theorem Tidy.accept {c2s s2c : Nat} {workers : WorkersState} (tidy : Tidy workerCount state)
    (before : state.main.Outside)
    (step : WorkersStep auth deadly workerCount state.workers (.register client s2c true) workers) :
    Tidy workerCount { state with
      workers
      connections := Function.update state.connections client (some { fifoC2s := some c2s })
      clients := client :: state.clients
      main := .polled
      descriptors :=
        Function.update (Function.update state.descriptors c2s (some client)) s2c (some client) } := by
  obtain ⟨new, opened, fresh⟩ : state.workers.clients client = none ∧
      workers.fifoS2c client = some s2c ∧ workers.isDisconnected client = false := by
    cases step with
    | register new registered =>
      exact ⟨new, fifoS2c_setClient_self _, isDisconnected_setClient_self _⟩
  have others : ∀ other, other ≠ client → workers.fifoS2c other = state.workers.fifoS2c other := by
    intro other apart
    rcases step.fifoS2c other with same | ⟨fifo, memory, impossible, -⟩ | ⟨impossible, -⟩
    · exact same
    · cases impossible
      exact absurd rfl apart
    · cases impossible
  constructor
  case formed => exact step.formed tidy.formed
  case known =>
    intro other unknown
    have apart : other ≠ client := by
      rintro rfl
      simp only [WorkersState.fifoS2c, show workers.clients other = none from unknown,
        Option.bind_none, reduceCtorEq] at opened
    exact (Function.update_of_ne apart ..).trans (tidy.known other (step.clients_none unknown))
  case descriptors =>
    intro fd other owner
    by_cases written : fd = s2c
    · subst written
      have mine : client = other := by simpa using owner
      exact .inr (mine ▸ opened)
    · by_cases read : fd = c2s
      · subst read
        have mine : client = other := by simpa [Function.update_of_ne written] using owner
        subst mine
        exact .inl (by simp [ServerState.fifoC2s])
      · have old : state.descriptors fd = some other := by
          simpa [Function.update_of_ne written, Function.update_of_ne read] using owner
        have apart : other ≠ client := by
          rintro rfl
          rcases tidy.descriptors fd other old with there | there
          · simp [ServerState.fifoC2s, tidy.known other new] at there
          · simp [WorkersState.fifoS2c, new] at there
        refine (tidy.descriptors fd other old).imp (fun there => ?_) fun there => ?_
        · simpa [ServerState.fifoC2s, Function.update_of_ne apart] using there
        · exact (others other apart).trans there
  case flagged => exact fun other flag => step.flag_kept (tidy.flagged other flag)
  case closed =>
    intro other flag
    have apart : other ≠ client := by
      rintro rfl
      rw [fresh] at flag
      cases flag
    have was : state.workers.isDisconnected other = true := by
      rcases step.flagged flag with old | ⟨impossible, -⟩ | ⟨impossible, -⟩
      · exact old
      · cases impossible
      · cases impossible
    refine (tidy.closed other was).workers was step rfl (before other).symm ?_
    simp [ServerState.fifoC2s, Function.update_of_ne apart]

/-- A client that is closed goes on; the others stay as they are. -/
theorem Tidy.closing {label : WorkersLabel} {workers : WorkersState} {caller : Caller}
    {stage : CloseStage} (tidy : Tidy workerCount state)
    (place : state.main = .closing client stage caller)
    (step : WorkersStep auth deadly workerCount state.workers label workers)
    (silent : label.results = []) (same : next.workers = workers)
    (connections : next.connections = state.connections)
    (flagged : next.flagged = state.flagged)
    (main : ∀ other, other ≠ client → next.main.remaining other = 0)
    (flags : ∀ other, label = .markClosed other → other = client)
    (descriptors : ∀ fd other, next.descriptors fd = some other →
      state.fifoC2s other = some fd ∨ workers.fifoS2c other = some fd)
    (mine : workers.isDisconnected client = true → Tidied next client) :
    Tidy workerCount next := by
  subst same
  have readEnd : next.fifoC2s = state.fifoC2s := by
    funext other
    simp only [ServerState.fifoC2s, connections]
  constructor
  case formed => exact step.formed tidy.formed
  case known =>
    intro other unknown
    rw [connections]
    exact tidy.known other (step.clients_none unknown)
  case descriptors =>
    intro fd other owner
    rw [readEnd]
    exact descriptors fd other owner
  case flagged =>
    intro other flag
    rw [flagged] at flag
    exact step.flag_kept (tidy.flagged other flag)
  case closed =>
    intro other flag
    by_cases here : other = client
    · subst here
      exact mine flag
    · have was : state.workers.isDisconnected other = true := by
        rcases step.flagged flag with old | ⟨closed, -⟩ | ⟨-, result, inside, -⟩
        · exact old
        · exact absurd (flags other closed) here
        · rw [silent] at inside
          cases inside
      have outside : state.main.remaining other = 0 := place ▸ remaining_closing_ne here _ _
      refine (tidy.closed other was).workers was step rfl ?_ (congrFun readEnd other)
      rw [main other here, outside]

/-- Closing a descriptor leaves no other open. -/
theorem descriptors_closeDescriptor {fd : Option Nat} {number : Nat} {other : ClientId}
    (owner : (state.closeDescriptor fd).descriptors number = some other) :
    state.descriptors number = some other ∧ fd ≠ some number := by
  cases fd with
  | none => exact ⟨owner, by simp⟩
  | some fd =>
    by_cases here : number = fd
    · simp [ServerState.closeDescriptor, here] at owner
    · refine ⟨?_, fun same => here (Option.some.inj same).symm⟩
      simpa [ServerState.closeDescriptor, Function.update_of_ne here] using owner

/-- The close of the FIFO that is read keeps everything tidy. -/
theorem Tidy.closeRead {caller : Caller} (tidy : Tidy workerCount state)
    (place : state.main = .closing client .readEnd caller) :
    Tidy workerCount
      { (state.closeDescriptor (state.fifoC2s client)).updateConnection client fun connection =>
          { connection with fifoC2s := none }
        with main := .closing client .writeEnd caller } := by
  have shut : ((state.closeDescriptor (state.fifoC2s client)).updateConnection client fun connection =>
      { connection with fifoC2s := none }).fifoC2s client = none := by
    cases there : state.connections client <;>
      simp [ServerState.updateConnection, ServerState.fifoC2s, there]
  have others : ∀ other, other ≠ client →
      ((state.closeDescriptor (state.fifoC2s client)).updateConnection client fun connection =>
        { connection with fifoC2s := none }).fifoC2s other = state.fifoC2s other := by
    intro other apart
    simp [ServerState.updateConnection, ServerState.fifoC2s, Function.update_of_ne apart]
  have workers : ((state.closeDescriptor (state.fifoC2s client)).updateConnection client
      fun connection => { connection with fifoC2s := none }).workers = state.workers :=
    closeDescriptor_workers _ _
  constructor
  case formed => exact workers ▸ tidy.formed
  case known =>
    intro other unknown
    refine updateConnection_none ?_
    rw [closeDescriptor_connections]
    exact tidy.known other (workers ▸ unknown)
  case descriptors =>
    intro fd other owner
    obtain ⟨old, open_⟩ := descriptors_closeDescriptor owner
    have still : state.fifoC2s other = some fd ∨ state.workers.fifoS2c other = some fd :=
      tidy.descriptors fd other old
    rw [← workers] at still
    by_cases here : other = client
    · subst here
      exact .inr (still.resolve_left open_)
    · exact still.imp_left fun there => (others other here).trans there
  case flagged =>
    intro other flag
    have before : state.flagged other = true := by
      rw [← closeDescriptor_flagged state (state.fifoC2s client)]
      exact flag
    exact workers ▸ tidy.flagged other before
  case closed =>
    intro other flag
    have before : state.workers.isDisconnected other = true := workers ▸ flag
    have tidied := tidy.closed other before
    by_cases here : other = client
    · subst here
      have far : state.main.remaining other = 2 := by
        rw [place, remaining_closing]
        rfl
      have now : (MainPc.closing other .writeEnd caller).remaining other = 1 :=
        remaining_closing ..
      constructor
      case early => exact now.trans_le (by omega)
      case queue =>
        intro _
        rw [show _ = state.workers from workers]
        exact tidied.queue far.le
      case readEnd => exact fun _ => shut
      case writeEnd => exact fun none => absurd (now.symm.trans none) (by omega)
    · refine tidied.kept ?_ ?_ ?_ ?_
      · rw [place]
        exact (remaining_closing_ne here _ _).trans (remaining_closing_ne here _ _).symm
      · rw [show _ = state.workers from workers]
        exact id
      · exact fun closed => (others other here).trans closed
      · rw [show _ = state.workers from workers]
        exact id

/-- `threadpool_remove_client` leaves the client no queue. -/
theorem remove_queue_none {before after : WorkersState} (formed : before.Formed workerCount)
    (step : WorkersStep auth deadly workerCount before (.remove client) after) :
    findClientQueue after.pool client = none := by
  cases step with
  | remove present gone => exact (threadpoolRemoveClient_spec client formed.pool).2.2

/-- The close of the FIFO that is written keeps everything tidy. -/
theorem Tidy.closeWrite {caller : Caller} {workers : WorkersState} (tidy : Tidy workerCount state)
    (place : state.main = .closing client .writeEnd caller)
    (step : WorkersStep auth deadly workerCount state.workers (.closeFifo client) workers) :
    Tidy workerCount
      { state.closeDescriptor (state.workers.fifoS2c client)
        with workers, main := caller.resume } := by
  have shut : workers.fifoS2c client = none := by
    cases step with
    | closeFifo present gone => exact fifoS2c_setClient_self _
  have others : ∀ other, other ≠ client → workers.fifoS2c other = state.workers.fifoS2c other := by
    intro other apart
    rcases step.fifoS2c other with same | ⟨fifo, memory, impossible, -⟩ | ⟨closed, -⟩
    · exact same
    · cases impossible
    · cases closed
      exact absurd rfl apart
  refine tidy.closing place step rfl rfl (closeDescriptor_connections _ _)
    (closeDescriptor_flagged _ _) (fun other _ => resume_outside caller other) (by simp) ?_ ?_
  · intro fd other owner
    obtain ⟨old, open_⟩ := descriptors_closeDescriptor owner
    have still := tidy.descriptors fd other old
    by_cases here : other = client
    · subst here
      exact .inl (still.resolve_right open_)
    · exact still.imp_right fun there => (others other here).trans there
  · intro flag
    have before : state.workers.isDisconnected client = true := by
      cases step with
      | closeFifo present gone => exact (isDisconnected_of_some present).trans gone
    have tidied := tidy.closed client before
    have far : state.main.remaining client = 1 := by
      rw [place, remaining_closing]
      rfl
    have readEnd : state.fifoC2s client = none := tidied.readEnd far.le
    constructor
    case early => exact (resume_outside caller client).trans_le (Nat.zero_le _)
    case queue =>
      exact fun _ => step.queue_none (isSome_of_isDisconnected before) (tidied.queue (by omega))
    case readEnd =>
      intro _
      simpa only [ServerState.fifoC2s, closeDescriptor_connections] using readEnd
    case writeEnd => exact fun _ => shut

/-- A client that is about to be closed is not flagged. -/
theorem beginClose_connected {before after : WorkersState}
    (step : WorkersStep auth deadly workerCount before (.beginClose client) after) :
    before.isDisconnected client = false := by
  cases step with
  | beginClose present connected stepped =>
    rw [isDisconnected_of_some present]
    exact connected

/-- Every step of the server in which no write fails keeps everything tidy. -/
theorem ServerStep.tidy {label : ServerLabel}
    (step : ServerStep auth deadly workerCount state label next)
    (written : ∀ worker copied results, label = .worker (.respond worker copied results) →
      ∀ result ∈ results, result.fails deadly = false)
    (tidy : Tidy workerCount state) : Tidy workerCount next := by
  -- what `close_client` does to the workers' part concerns no other descriptor
  have kept : ∀ {label : WorkersLabel} {workers : WorkersState},
      WorkersStep auth deadly workerCount state.workers label workers →
      (∀ client fifo memory, label ≠ .register client fifo memory) →
      (∀ client, label ≠ .closeFifo client) → ∀ fd other, state.descriptors fd = some other →
      state.fifoC2s other = some fd ∨ workers.fifoS2c other = some fd := by
    intro label workers step unaccepted unshut fd other owner
    refine (tidy.descriptors fd other owner).imp_right fun there => ?_
    rcases step.fifoS2c other with same | ⟨fifo, memory, impossible, -⟩ | ⟨impossible, -⟩
    · exact same.trans there
    · exact absurd impossible (unaccepted _ _ _)
    · exact absurd impossible (unshut _)
  cases step with
  | worker alive mine allowed step =>
    rename_i label workers
    have silent : ∀ result ∈ label.results, result.fails deadly = false := by
      cases label with
      | respond worker copied results => exact written worker copied results rfl
      | _ => simp [WorkersLabel.results]
    refine tidy.workers step silent ?_ ?_ ?_ rfl (fun _ _ => rfl) (fun _ => heard_none label)
      (fun _ => heard_fifoC2s label) rfl rfl
    · rintro _ rfl
      cases mine
    · rintro _ rfl
      cases mine
    · rintro _ _ _ rfl
      cases mine
  | leave =>
    exact tidy.main rfl (fun _ => rfl) (fun _ => updateConnection_none)
      (fun _ => fifoC2s_updateConnection fun _ => rfl) rfl tidy.flagged
  | move before after =>
    exact tidy.main rfl (before.same after) (fun _ => id) (fun _ => rfl) rfl tidy.flagged
  | beginCleanup before =>
    exact tidy.main rfl (before.same fun _ => rfl) (fun _ => id) (fun _ => rfl) rfl fun _ => id
  | accept before apart step => exact tidy.accept before step
  | received before after =>
    exact tidy.main rfl (before.same after) (fun _ => updateConnection_none)
      (fun _ => fifoC2s_updateConnection fun _ => rfl) rfl tidy.flagged
  | submit before after step =>
    exact tidy.workers step (by simp [WorkersLabel.results]) (by simp) (by simp) (by simp) rfl
      (fun client _ => before.same after client) (fun _ => id) (fun _ => rfl) rfl rfl
  | beginClose before step =>
    rename_i client caller workers
    refine tidy.workers step (by simp [WorkersLabel.results]) (by simp) (by simp) (by simp) rfl
      (fun other flag => ?_) (fun _ => id) (fun _ => rfl) rfl rfl
    have apart : other ≠ client := by
      rintro rfl
      rw [beginClose_connected step] at flag
      cases flag
    exact (remaining_closing_ne apart _ _).trans (before other).symm
  | endSession place step =>
    exact tidy.workers step (by simp [WorkersLabel.results]) (by simp) (by simp) (by simp) rfl
      (fun _ _ => rfl) (fun _ => id) (fun _ => rfl) rfl rfl
  | markClosed place step =>
    rename_i client caller workers
    refine tidy.closing place step rfl rfl rfl rfl (fun _ apart => remaining_closing_ne apart _ _)
      (by simp) (kept step (by simp) (by simp)) fun _ => ?_
    have far : (MainPc.closing client .queue caller).remaining client = 3 := remaining_closing ..
    exact ⟨far.le, fun near => absurd (far.symm.trans_le near) (by omega),
      fun near => absurd (far.symm.trans_le near) (by omega),
      fun near => absurd (far.symm.trans near) (by omega)⟩
  | remove place step =>
    rename_i client caller workers
    refine tidy.closing place step rfl rfl rfl rfl (fun _ apart => remaining_closing_ne apart _ _)
      (by simp) (kept step (by simp) (by simp)) fun _ => ?_
    have far : (MainPc.closing client .readEnd caller).remaining client = 2 := remaining_closing ..
    exact ⟨far.trans_le (by omega), fun _ => remove_queue_none tidy.formed step,
      fun near => absurd (far.symm.trans_le near) (by omega),
      fun near => absurd (far.symm.trans near) (by omega)⟩
  | closeRead place => exact tidy.closeRead place
  | closeWrite place step => exact tidy.closeWrite place step

/-! ## Whole runs -/

/-- While everything is tidy and held, nothing is left of a client whose flag is set and whom the
main loop is not closing. -/
theorem cleaned_of_flag (tidy : Tidy workerCount state) (held : Held workerCount state)
    (members : MembersHeld state) (flag : state.workers.isDisconnected client = true)
    (done : state.main.remaining client = 0) : Cleaned state client := by
  have tidied := tidy.closed client flag
  have out := held.out client (.inl flag)
  have through : ∀ name, name ∉ state.through client := by
    intro name inside
    have logged := (held.through client name inside).1
    rw [out] at logged
    cases logged
  have queue := tidied.queue (by omega)
  have readEnd := tidied.readEnd (by omega)
  have writeEnd := tidied.writeEnd done
  constructor
  case session =>
    refine ⟨out, ?_⟩
    by_contra named
    rw [(held.sessions client).named.mpr named] at out
    cases out
  case through => exact through
  case members =>
    intro canvas inside member there attached
    obtain ⟨other, holds⟩ := members.member inside there attached
    refine ⟨other, ?_, holds⟩
    rintro rfl
    exact through _ holds
  case queue => exact queue
  case requests =>
    rintro request waits rfl
    have queued := tidy.formed.pool.mem_queued.mpr ⟨waits, rfl⟩
    simp [Pool.queued, queue] at queued
  case readEnd => exact readEnd
  case writeEnd => exact writeEnd
  case descriptors =>
    intro fd owner
    rcases tidy.descriptors fd client owner with open_ | open_
    · rw [readEnd] at open_
      cases open_
    · rw [writeEnd] at open_
      cases open_

/-- In a run of the server in which no write fails and every step of a handler is tied, nothing is
left, behind each pass of `cleanup_inactive_clients`, of the clients whose `disconnected` flag was
set when the pass began. -/
theorem cleanup_leaves_nothing (auth : AuthDb) (deadly : Bool) (workerCount : Nat)
    (labels : List ServerLabel)
    (kept : (serverMachine auth deadly workerCount).EveryStep
      (CleanupKept auth deadly workerCount) {} labels) :
    (serverMachine auth deadly workerCount).Always PassCleans {} labels := by
  have preserved : ∀ state label next,
      Tidy workerCount state ∧ Held workerCount state ∧ MembersHeld state →
      CleanupKept auth deadly workerCount state label →
      (serverMachine auth deadly workerCount).step state label = some next →
      Tidy workerCount next ∧ Held workerCount next ∧ MembersHeld next := by
    rintro state label next ⟨tidy, held, members⟩ guarded stepped
    have step := serverMachine_step stepped
    have written : ∀ worker copied results, label = .worker (.respond worker copied results) →
        ∀ result ∈ results, result.fails deadly = false := by
      rintro worker copied results rfl
      exact guarded
    refine ⟨step.tidy written tidy, step.held ?_ written held, step.membersHeld members⟩
    rintro thread answers rfl
    exact guarded
  have good := Machine.always_of_guarded preserved
    ⟨tidy_initial, held_initial, membersHeld_initial⟩ kept
  refine good.imp fun state ⟨tidy, held, members⟩ place client flag => ?_
  exact cleaned_of_flag tidy held members (tidy.flagged client flag) (by rw [place]; rfl)

/-- A client that is accepted sends a line; the line is submitted and taken by a worker. -/
def firstLine : List ServerLabel :=
  [.main (.poll (some (1, 3, 4))), .main (.beginCleanup 1), .main (.visit true), .main .endCleanup,
    .main (.select [1]), .main .serve, .main (.read (.data (bytes "x\n"))), .main (.submit true),
    .main (.read .empty), .main .serve, .worker (.dequeue 0)]

/-- The client leaves, the main loop finds the end of its FIFO and closes it, and looks at it again
in the next cleanup. -/
def endOfFile : List ServerLabel :=
  [.leave 1, .main (.poll none), .main (.beginCleanup 2), .main (.visit true), .main .endCleanup,
    .main (.select [1]), .main .serve, .main (.read .ended), .main .close, .main (.advance {}),
    .main .close, .main .close, .main .close, .main .close, .main .serve, .main (.poll none),
    .main (.beginCleanup 3), .main (.visit true), .main .endCleanup]

/-- A client whose line is answered leaves and is closed: nothing is left of it. -/
theorem cleanup_leaves_nothing_visit :
    (serverMachine [] true 1).Always PassCleans {}
      (firstLine ++ [.worker (.advance 0 {}), .worker (.respond 0 true [.wrote 3])] ++ endOfFile) := by
  obtain ⟨taken, ran, working⟩ : ∃ taken, (serverMachine [] true 1).run {} firstLine = some taken ∧
      taken.workers.rpc.threads 0 = some ⟨1, .start (bytes "x\n")⟩ :=
    Option.map_eq_some_iff.mp (by decide +kernel : ((serverMachine [] true 1).run {} firstLine).map
      (fun taken => taken.workers.rpc.threads 0) = some (some ⟨1, .start (bytes "x\n")⟩))
  apply cleanup_leaves_nothing
  rw [List.append_assoc]
  refine Machine.everyStep_append ran (Machine.everyStep_of_labels ?_) ?_
  · simp [firstLine, CleanupKept]
  · intro next _
    refine ⟨?_, Machine.everyStep_of_labels ?_⟩
    · intro client pc here
      obtain ⟨rfl, rfl⟩ := Thread.mk.inj (Option.some.inj (working.symm.trans here))
      refine ⟨fun line name same _ logs => ?_, fun name impossible => by cases impossible⟩
      obtain rfl := Pc.start.inj same
      have other : (requestTokens (bytes "x\n")).head? ≠ some (bytes "Login") := by decide
      exact absurd (congrArg List.head? logs.1) other
    · simp [endOfFile, CleanupKept, WriteResult.fails]

/-- The client leaves before its response is written, and the write fails. -/
def failedWrite : List ServerLabel :=
  firstLine ++ [.leave 1, .worker (.advance 0 {}), .worker (.respond 0 true [.noReader]),
    .main (.poll none), .main (.beginCleanup 2), .main (.visit true), .main .endCleanup]

/-- The flag of the client is set, and the cleanup skips it: its descriptors stay open. -/
theorem failedWrite_uncleaned :
    ¬ (serverMachine [] false 1).Always PassCleans {} failedWrite := by
  intro always
  obtain ⟨last, ran, scene⟩ := Option.map_eq_some_iff.mp
    (by decide +kernel : ((serverMachine [] false 1).run {} failedWrite).map
      (fun last => (last.main, last.flagged 1, last.fifoC2s 1)) = some (.watching, true, some 3))
  obtain ⟨place, rest⟩ := Prod.mk.inj scene
  obtain ⟨flag, open_⟩ := Prod.mk.inj rest
  have cleaned := always.last ran place 1 flag
  rw [cleaned.readEnd] at open_
  cases open_

end AnimateService
