import AnimateService.OrderedStream
import AnimateService.Pool

/-!
# The workers

The worker threads of the pool at work on the requests of all clients, in every interleaving: the
main loop registers clients, submits their lines and closes them, a worker takes a request, runs
its handler step by step, and sends the response. The sections under the pool's mutex, under a
client's `output_mutex` and under the store's mutex are single steps. Workers are the threads
below `worker_count`; the main loop is the thread with that number.
-/
namespace AnimateService

open Transition

/-- The fields of `client_state_t` other than its session. -/
structure Client where
  /-- The fields under `output_mutex`, with what was written. -/
  stream : Stream
  /-- `requests_received`. -/
  requestsReceived : Nat := 0
  /-- The lines that were accepted from the client: a record of the run. -/
  submitted : List Bytes := []

/-- The `disconnected` flag is set. -/
def Client.disconnect (client : Client) : Client :=
  { client with
    stream := { client.stream with output := { client.stream.output with disconnected := true } } }

/-- `fifo_s2c_fd` is closed. -/
def Client.closeFifo (client : Client) : Client :=
  { client with
    stream := { client.stream with output := { client.stream.output with fifoS2c := none } } }

/-- The server without the reading side of its main loop. -/
structure WorkersState where
  /-- The sessions, what the handlers share, and where each thread is in its handler. -/
  rpc : RpcState := {}
  /-- The queues. -/
  pool : Pool := {}
  /-- The clients that were accepted. -/
  clients : ClientId → Option Client := fun _ => none
  /-- The request that each worker has taken and not destroyed. -/
  inHand : ThreadId → Option Request := fun _ => none
  /-- The requests that were handled, with the responses sent for them: a record of the run. -/
  answered : List (Request × Option Bytes) := []
  /-- The process has not been ended by a signal. -/
  alive : Bool := true

/-- What happens next, with the environment's choices. -/
inductive WorkersLabel where
  /-- The end of `accept_client`: a client with an open FIFO is registered. -/
  | register (client : ClientId) (fifo : Nat) (memory : Bool)
  /-- `threadpool_submit`. -/
  | submit (client : ClientId) (line : Bytes) (memory : Bool)
  /-- A worker takes a request and calls the handler. -/
  | dequeue (worker : ThreadId)
  /-- A worker, or the main loop inside `rpc_client_disconnected`, takes its next step. -/
  | advance (thread : ThreadId) (answers : Answers)
  /-- The handler has returned: a worker sends the response and destroys the request. -/
  | respond (worker : ThreadId) (copied : Bool) (results : List WriteResult)
  /-- `close_client` calls `rpc_client_disconnected`. -/
  | beginClose (client : ClientId)
  /-- `rpc_client_disconnected` has returned; the flag is set. -/
  | markClosed (client : ClientId)
  /-- `threadpool_remove_client`. -/
  | remove (client : ClientId)
  /-- The descriptor of the client's FIFO is closed. -/
  | closeFifo (client : ClientId)
  deriving DecidableEq, Repr

/-- The response that `worker_main` sends: the handler's, or -1 if there is memory for it. -/
def workerResponse (response : Option Bytes) (copied : Bool) : Option Bytes :=
  response.or (if copied then some (bytes "-1\n") else none)

/-- A write to the record of a client. -/
def WorkersState.setClient (state : WorkersState) (client : ClientId) (record : Client) :
    WorkersState :=
  { state with clients := Function.update state.clients client (some record) }

/-- A worker has taken a request from the pool. -/
def WorkersState.take (state : WorkersState) (worker : ThreadId) (request : Request) (pool : Pool) :
    WorkersState :=
  { state with
    rpc := state.rpc.setThread worker (some ⟨request.client, .start request.rpcLine⟩)
    pool
    inHand := Function.update state.inHand worker (some request) }

/-- A worker has destroyed its request. -/
def WorkersState.finish (state : WorkersState) (worker : ThreadId) (request : Request)
    (response : Option Bytes) : WorkersState :=
  { state with
    rpc := state.rpc.setThread worker none
    inHand := Function.update state.inHand worker none
    answered := state.answered ++ [(request, response)] }

/-- `send_ordered_response` for a worker's request. -/
def WorkersState.send (deadly : Bool) (state : WorkersState) (request : Request) (record : Client)
    (text : Bytes) (results : List WriteResult) : Option WorkersState :=
  ((streamMachine deadly).step record.stream ⟨request.seqNum, text, results⟩).map fun stream =>
    { state.setClient request.client { record with stream } with alive := !stream.killed }

/-- The server with `worker_count` workers. The default action of `SIGPIPE` is `deadly`. -/
def workersMachine (auth : AuthDb) (deadly : Bool) (workerCount : Nat) :
    Machine WorkersState WorkersLabel where
  step state label :=
    if state.alive then
      match label with
      | .register client fifo memory =>
        match state.clients client, threadpoolRegisterClient state.pool client memory with
        | none, .ok pool =>
          some ({ state with pool }.setClient client { stream := { output := { fifoS2c := some fifo } } })
        | _, _ => none
      | .submit client line memory =>
        match state.clients client with
        | some record =>
          match threadpoolSubmit state.pool client record.stream.output.disconnected
            record.requestsReceived line memory with
          | .ok pool =>
            some ({ state with pool }.setClient client
              { record with
                requestsReceived := (record.requestsReceived + 1) % 2 ^ 64
                submitted := record.submitted ++ [line] })
          | .error _ => some state
        | none => none
      | .dequeue worker =>
        match state.rpc.threads worker, dequeueFairRequest state.pool with
        | none, some (request, pool) =>
          if worker < workerCount then some (state.take worker request pool) else none
        | _, _ => none
      | .advance thread answers =>
        ((rpcMachine auth).step state.rpc (.step thread answers)).map fun rpc => { state with rpc }
      | .respond worker copied results =>
        match state.inHand worker, state.rpc.threads worker with
        | some request, some ⟨_, .finished response⟩ =>
          match workerResponse response copied with
          | some text =>
            (state.clients request.client).bind fun record =>
              (state.send deadly request record text results).map fun sent =>
                sent.finish worker request (some text)
          | none => if results = [] then some (state.finish worker request none) else none
        | _, _ => none
      | .beginClose client =>
        match state.clients client with
        | some record =>
          if record.stream.output.disconnected then none
          else
            ((rpcMachine auth).step state.rpc (.close workerCount client)).map fun rpc =>
              { state with rpc }
        | none => none
      | .markClosed client =>
        match state.clients client, state.rpc.threads workerCount with
        | some record, some ⟨closed, .finished _⟩ =>
          if closed = client then
            some ({ state with rpc := state.rpc.setThread workerCount none }.setClient client
              record.disconnect)
          else none
        | _, _ => none
      | .remove client =>
        match state.clients client with
        | some record =>
          if record.stream.output.disconnected then
            some { state with pool := threadpoolRemoveClient state.pool client }
          else none
        | none => none
      | .closeFifo client =>
        match state.clients client with
        | some record =>
          if record.stream.output.disconnected then some (state.setClient client record.closeFifo)
          else none
        | none => none
    else none

/-! ## What a step does -/

/-- The steps of the workers and the main loop, with all that they require. -/
inductive WorkersStep (auth : AuthDb) (deadly : Bool) (workerCount : Nat) (state : WorkersState) :
    WorkersLabel → WorkersState → Prop where
  /-- A new client. -/
  | register {client : ClientId} {fifo : Nat} {memory : Bool} {pool : Pool}
      (new : state.clients client = none)
      (registered : threadpoolRegisterClient state.pool client memory = .ok pool) :
    WorkersStep auth deadly workerCount state (.register client fifo memory)
      ({ state with pool }.setClient client { stream := { output := { fifoS2c := some fifo } } })
  /-- A line is accepted. -/
  | submit {client : ClientId} {line : Bytes} {memory : Bool} {record : Client} {pool : Pool}
      (present : state.clients client = some record)
      (submitted : threadpoolSubmit state.pool client record.stream.output.disconnected
        record.requestsReceived line memory = .ok pool) :
    WorkersStep auth deadly workerCount state (.submit client line memory)
      ({ state with pool }.setClient client
        { record with
          requestsReceived := (record.requestsReceived + 1) % 2 ^ 64
          submitted := record.submitted ++ [line] })
  /-- A line is refused. -/
  | refuse {client : ClientId} {line : Bytes} {memory : Bool} {record : Client} {error : PoolError}
      (present : state.clients client = some record)
      (refused : threadpoolSubmit state.pool client record.stream.output.disconnected
        record.requestsReceived line memory = .error error) :
    WorkersStep auth deadly workerCount state (.submit client line memory) state
  /-- A worker takes a request. -/
  | dequeue {worker : ThreadId} {request : Request} {pool : Pool}
      (idle : state.rpc.threads worker = none) (known : worker < workerCount)
      (dequeued : dequeueFairRequest state.pool = some (request, pool)) :
    WorkersStep auth deadly workerCount state (.dequeue worker) (state.take worker request pool)
  /-- A thread takes a step. -/
  | advance {thread : ThreadId} {answers : Answers} {rpc : RpcState}
      (stepped : (rpcMachine auth).step state.rpc (.step thread answers) = some rpc) :
    WorkersStep auth deadly workerCount state (.advance thread answers) { state with rpc }
  /-- A worker sends a response. -/
  | respond {worker : ThreadId} {copied : Bool} {results : List WriteResult} {request : Request}
      {client : ClientId} {response : Option Bytes} {text : Bytes} {record : Client}
      {sent : WorkersState} (held : state.inHand worker = some request)
      (working : state.rpc.threads worker = some ⟨client, .finished response⟩)
      (answer : workerResponse response copied = some text)
      (present : state.clients request.client = some record)
      (called : state.send deadly request record text results = some sent) :
    WorkersStep auth deadly workerCount state (.respond worker copied results)
      (sent.finish worker request (some text))
  /-- A worker has no response to send. -/
  | silent {worker : ThreadId} {copied : Bool} {request : Request} {client : ClientId}
      {response : Option Bytes} (held : state.inHand worker = some request)
      (working : state.rpc.threads worker = some ⟨client, .finished response⟩)
      (answer : workerResponse response copied = none) :
    WorkersStep auth deadly workerCount state (.respond worker copied [])
      (state.finish worker request none)
  /-- A client is going to be closed. -/
  | beginClose {client : ClientId} {record : Client} {rpc : RpcState}
      (present : state.clients client = some record)
      (connected : record.stream.output.disconnected = false)
      (stepped : (rpcMachine auth).step state.rpc (.close workerCount client) = some rpc) :
    WorkersStep auth deadly workerCount state (.beginClose client) { state with rpc }
  /-- Its session has ended. -/
  | markClosed {client : ClientId} {record : Client} {response : Option Bytes}
      (present : state.clients client = some record)
      (working : state.rpc.threads workerCount = some ⟨client, .finished response⟩) :
    WorkersStep auth deadly workerCount state (.markClosed client)
      ({ state with rpc := state.rpc.setThread workerCount none }.setClient client record.disconnect)
  /-- Its queue is removed. -/
  | remove {client : ClientId} {record : Client} (present : state.clients client = some record)
      (gone : record.stream.output.disconnected = true) :
    WorkersStep auth deadly workerCount state (.remove client)
      { state with pool := threadpoolRemoveClient state.pool client }
  /-- Its FIFO is closed. -/
  | closeFifo {client : ClientId} {record : Client} (present : state.clients client = some record)
      (gone : record.stream.output.disconnected = true) :
    WorkersStep auth deadly workerCount state (.closeFifo client)
      (state.setClient client record.closeFifo)

variable {auth : AuthDb} {deadly : Bool} {workerCount : Nat} {state next : WorkersState}

/-- Every step of the machine is one of these, of a process that is alive. -/
theorem workersMachine_step {label : WorkersLabel}
    (step : (workersMachine auth deadly workerCount).step state label = some next) :
    state.alive = true ∧ WorkersStep auth deadly workerCount state label next := by
  simp only [workersMachine] at step
  split at step
  · rename_i alive
    refine ⟨alive, ?_⟩
    cases label with
    | register client fifo memory =>
      dsimp only at step
      split at step
      · rename_i pool new registered
        cases step
        exact .register new registered
      · cases step
    | submit client line memory =>
      dsimp only at step
      split at step
      · rename_i record present
        split at step
        · rename_i pool submitted
          cases step
          exact .submit present submitted
        · rename_i error refused
          cases step
          exact .refuse present refused
      · cases step
    | dequeue worker =>
      dsimp only at step
      split at step
      · rename_i request pool idle dequeued
        split at step
        · rename_i known
          cases step
          exact .dequeue idle known dequeued
        · cases step
      · cases step
    | advance thread answers =>
      obtain ⟨rpc, stepped, rfl⟩ := Option.map_eq_some_iff.mp step
      exact .advance stepped
    | respond worker copied results =>
      dsimp only at step
      split at step
      · rename_i request client response held working
        split at step
        · rename_i text answer
          obtain ⟨record, present, sending⟩ := Option.bind_eq_some_iff.mp step
          obtain ⟨sent, called, rfl⟩ := Option.map_eq_some_iff.mp sending
          exact .respond held working answer present called
        · rename_i answer
          split at step
          · rename_i none
            subst none
            cases step
            exact .silent held working answer
          · cases step
      · cases step
    | beginClose client =>
      dsimp only at step
      split at step
      · rename_i record present
        split at step
        · cases step
        · rename_i connected
          obtain ⟨rpc, stepped, rfl⟩ := Option.map_eq_some_iff.mp step
          exact .beginClose present (by simpa using connected) stepped
      · cases step
    | markClosed client =>
      dsimp only at step
      split at step
      · rename_i record closed response present working
        split at step
        · rename_i same
          subst same
          cases step
          exact .markClosed present working
        · cases step
      · cases step
    | remove client =>
      dsimp only at step
      split at step
      · rename_i record present
        split at step
        · rename_i gone
          cases step
          exact .remove present gone
        · cases step
      · cases step
    | closeFifo client =>
      dsimp only at step
      split at step
      · rename_i record present
        split at step
        · rename_i gone
          cases step
          exact .closeFifo present gone
        · cases step
      · cases step
  · cases step

/-- A process that is alive can take each of them. -/
theorem WorkersStep.possible {label : WorkersLabel} (alive : state.alive = true)
    (step : WorkersStep auth deadly workerCount state label next) :
    (workersMachine auth deadly workerCount).step state label = some next := by
  simp only [workersMachine]
  rw [if_pos alive]
  cases step with
  | register new registered => simp only [new, registered]
  | submit present submitted => simp only [present, submitted]
  | refuse present refused => simp only [present, refused]
  | dequeue idle known dequeued => simp only [idle, dequeued, if_pos known]
  | advance stepped => simp only [stepped, Option.map_some]
  | respond held working answer present called =>
    simp only [held, working, answer, present, called, Option.bind_some, Option.map_some]
  | silent held working answer => simp only [held, working, answer, ↓reduceIte]
  | beginClose present connected stepped =>
    simp only [present, connected, stepped, Bool.false_eq_true, ↓reduceIte, Option.map_some]
  | markClosed present working => simp only [present, working, ↓reduceIte]
  | remove present gone => simp only [present, gone, ↓reduceIte]
  | closeFifo present gone => simp only [present, gone, ↓reduceIte]

/-! ## What holds at all times -/

/-- The workers are in the handlers of the requests that they hold, and requests are those of known
clients. -/
structure WorkersState.Formed (workerCount : Nat) (state : WorkersState) : Prop where
  /-- The queues are well formed. -/
  pool : state.pool.WellFormed
  /-- A worker handles the request it holds. -/
  matched : ∀ worker < workerCount,
    (state.rpc.threads worker).map Thread.client = (state.inHand worker).map Request.client
  /-- Only workers hold requests. -/
  others : ∀ thread, workerCount ≤ thread → state.inHand thread = none
  /-- A client that was not accepted has no requests in the pool. -/
  queued_known : ∀ client, state.clients client = none → state.pool.queued client = []
  /-- The client of a request in hand was accepted. -/
  held_known : ∀ worker request, state.inHand worker = some request →
    (state.clients request.client).isSome = true
  /-- The client of an answered request was accepted. -/
  answered_known : ∀ entry ∈ state.answered, (state.clients entry.1.client).isSome = true

/-- The idle server. -/
theorem workers_formed_initial : ({} : WorkersState).Formed workerCount where
  pool := Pool.wellFormed_empty
  matched := fun _ _ => rfl
  others := fun _ _ => rfl
  queued_known := fun _ _ => rfl
  held_known := by simp
  answered_known := by simp

/-- A worker that holds a request is in its handler. -/
theorem WorkersState.Formed.working (formed : state.Formed workerCount) {worker : ThreadId}
    {request : Request} (held : state.inHand worker = some request) :
    worker < workerCount ∧ ∃ pc, state.rpc.threads worker = some ⟨request.client, pc⟩ := by
  have known : worker < workerCount := by
    by_contra above
    rw [formed.others worker (Nat.le_of_not_lt above)] at held
    cases held
  have matched := formed.matched worker known
  rw [held] at matched
  obtain ⟨⟨client, pc⟩, working, same⟩ := Option.map_eq_some_iff.mp matched
  exact ⟨known, pc, by rw [working, ← same]⟩

/-- A worker in a handler holds the request. -/
theorem WorkersState.Formed.holding (formed : state.Formed workerCount) {worker : ThreadId}
    {client : ClientId} {pc : Pc} (known : worker < workerCount)
    (working : state.rpc.threads worker = some ⟨client, pc⟩) :
    ∃ request, state.inHand worker = some request ∧ request.client = client := by
  have matched := formed.matched worker known
  rw [working] at matched
  exact Option.map_eq_some_iff.mp matched.symm

/-- An idle worker holds nothing. -/
theorem WorkersState.Formed.idle (formed : state.Formed workerCount) {worker : ThreadId}
    (idle : state.rpc.threads worker = none) : state.inHand worker = none := by
  by_contra holds
  obtain ⟨request, held⟩ := Option.ne_none_iff_exists'.mp holds
  obtain ⟨-, pc, working⟩ := formed.working held
  rw [idle] at working
  cases working

/-- A step of a thread does not change which clients the threads work for. -/
theorem rpcMachine_step_clients {before after : RpcState} {thread : ThreadId} {answers : Answers}
    (stepped : (rpcMachine auth).step before (.step thread answers) = some after)
    (other : ThreadId) :
    (after.threads other).map Thread.client = (before.threads other).map Thread.client := by
  obtain ⟨client, pc, working, -, rfl⟩ := rpcMachine_step stepped
  by_cases same : other = thread
  · subst same
    simp [RpcState.advanceThread, working]
  · simp [RpcState.advanceThread, Function.update_of_ne same]

/-- A closing main loop has begun on its own thread. -/
theorem rpcMachine_close {before after : RpcState} {thread : ThreadId} {client : ClientId}
    (stepped : (rpcMachine auth).step before (.close thread client) = some after) :
    before.threads thread = none ∧ after = before.setThread thread (some ⟨client, .disconnect⟩) := by
  simp only [rpcMachine] at stepped
  split at stepped
  · rename_i idle
    exact ⟨idle, (Option.some.inj stepped).symm⟩
  · cases stepped

/-- The record of another client. -/
theorem clients_setClient_ne {client other : ClientId} {record : Client} (apart : client ≠ other) :
    (state.setClient other record).clients client = state.clients client :=
  Function.update_of_ne apart _ _

/-- The record that was written. -/
@[simp] theorem clients_setClient_self {client : ClientId} {record : Client} :
    (state.setClient client record).clients client = some record :=
  Function.update_self ..

/-- A change of the record of a client keeps what is known of it. -/
theorem isSome_setClient {client other : ClientId} {record : Client}
    (known : (state.clients other).isSome = true) :
    ((state.setClient client record).clients other).isSome = true := by
  by_cases same : other = client
  · simp [WorkersState.setClient, same]
  · simpa [WorkersState.setClient, Function.update_of_ne same] using known

/-- A client unknown after a change of a record was unknown before. -/
theorem clients_setClient_none {client other : ClientId} {record : Client}
    (unknown : (state.setClient client record).clients other = none) :
    other ≠ client ∧ state.clients other = none := by
  by_cases same : other = client
  · simp [WorkersState.setClient, same] at unknown
  · exact ⟨same, by simpa [WorkersState.setClient, Function.update_of_ne same] using unknown⟩

/-- A write to the record of a client keeps the server formed. -/
theorem WorkersState.Formed.setClient (formed : state.Formed workerCount) (client : ClientId)
    (record : Client) : (state.setClient client record).Formed workerCount where
  pool := formed.pool
  matched := formed.matched
  others := formed.others
  queued_known := fun other unknown => formed.queued_known other (clients_setClient_none unknown).2
  held_known := fun worker request held => isSome_setClient (formed.held_known worker request held)
  answered_known := fun entry member => isSome_setClient (formed.answered_known entry member)

/-- A change of the pool and the record of a known or new client keeps the server formed. -/
theorem WorkersState.Formed.setPool (formed : state.Formed workerCount) {pool : Pool}
    {client : ClientId} (record : Client) (good : pool.WellFormed)
    (same : ∀ other, other ≠ client → pool.queued other = state.pool.queued other) :
    ({ state with pool }.setClient client record).Formed workerCount where
  pool := good
  matched := formed.matched
  others := formed.others
  queued_known := by
    intro other unknown
    obtain ⟨apart, before⟩ := clients_setClient_none unknown
    exact (same other apart).trans (formed.queued_known other before)
  held_known := (formed.setClient client record).held_known
  answered_known := (formed.setClient client record).answered_known

/-- Sending changes the record of the request's client and may end the process. -/
theorem send_some {request : Request} {record : Client} {text : Bytes} {results : List WriteResult}
    {sent : WorkersState} (called : state.send deadly request record text results = some sent) :
    ∃ stream, (streamMachine deadly).step record.stream ⟨request.seqNum, text, results⟩ = some stream ∧
      sent = { state.setClient request.client { record with stream } with alive := !stream.killed } := by
  obtain ⟨stream, stepped, rfl⟩ := Option.map_eq_some_iff.mp called
  exact ⟨stream, stepped, rfl⟩

/-- A worker that destroys its request stays with the others. -/
theorem WorkersState.Formed.finish (formed : state.Formed workerCount) {worker : ThreadId}
    {request : Request} (held : state.inHand worker = some request) (response : Option Bytes) :
    (state.finish worker request response).Formed workerCount where
  pool := formed.pool
  matched := by
    intro other known
    by_cases same : other = worker
    · simp [WorkersState.finish, RpcState.setThread, same]
    · simpa [WorkersState.finish, RpcState.setThread, Function.update_of_ne same] using
        formed.matched other known
  others := by
    intro thread above
    by_cases same : thread = worker
    · simp [WorkersState.finish, same]
    · simpa [WorkersState.finish, Function.update_of_ne same] using formed.others thread above
  queued_known := formed.queued_known
  held_known := by
    intro other taken holds
    by_cases same : other = worker
    · simp [WorkersState.finish, same] at holds
    · simp only [WorkersState.finish, Function.update_of_ne same] at holds
      exact formed.held_known other taken holds
  answered_known := by
    intro entry member
    rcases List.mem_append.mp member with old | fresh
    · exact formed.answered_known entry old
    · rw [List.mem_singleton.mp fresh]
      exact formed.held_known worker request held

/-- Every step keeps the server formed. -/
theorem WorkersStep.formed {label : WorkersLabel} (formed : state.Formed workerCount)
    (step : WorkersStep auth deadly workerCount state label next) : next.Formed workerCount := by
  cases step with
  | register new registered =>
    obtain ⟨good, same, -⟩ := threadpoolRegisterClient_spec formed.pool registered
    exact formed.setPool _ good fun other _ => by rw [same]
  | submit present submitted =>
    obtain ⟨good, -, same⟩ := threadpoolSubmit_spec formed.pool submitted
    exact formed.setPool _ good fun other apart => by rw [same, Function.update_of_ne apart]
  | refuse present refused => exact formed
  | dequeue idle known dequeued =>
    rename_i worker request pool
    obtain ⟨good, rest, front, same⟩ := dequeueFairRequest_spec formed.pool dequeued
    have present : (state.clients request.client).isSome = true := by
      cases there : state.clients request.client with
      | some record => rfl
      | none =>
        rw [formed.queued_known _ there] at front
        cases front
    constructor
    case pool => exact good
    case matched =>
      intro other below
      by_cases here : other = worker
      · simp [WorkersState.take, RpcState.setThread, here]
      · simpa [WorkersState.take, RpcState.setThread, Function.update_of_ne here] using
          formed.matched other below
    case others =>
      intro thread above
      have apart : thread ≠ worker := fun here => absurd (here ▸ known) (Nat.not_lt_of_le above)
      simpa [WorkersState.take, Function.update_of_ne apart] using formed.others thread above
    case queued_known =>
      intro client unknown
      have apart : client ≠ request.client := by
        rintro rfl
        rw [show state.clients request.client = none from unknown] at present
        cases present
      exact (congrFun same client).trans
        ((Function.update_of_ne apart _ _).trans (formed.queued_known client unknown))
    case held_known =>
      intro other taken holds
      by_cases here : other = worker
      · subst here
        simp only [WorkersState.take, Function.update_self, Option.some.injEq] at holds
        exact holds ▸ present
      · simp only [WorkersState.take, Function.update_of_ne here] at holds
        exact formed.held_known other taken holds
    case answered_known => exact formed.answered_known
  | advance stepped =>
    exact
      { pool := formed.pool
        matched := fun other known =>
          (rpcMachine_step_clients stepped other).trans (formed.matched other known)
        others := formed.others
        queued_known := formed.queued_known
        held_known := formed.held_known
        answered_known := formed.answered_known }
  | respond held working answer present called =>
    rename_i worker copied results request client response text record sent
    obtain ⟨stream, -, rfl⟩ := send_some called
    have stored := formed.setClient request.client { record with stream }
    exact { stored.finish held (some text) with }
  | silent held working answer => exact formed.finish held none
  | beginClose present connected stepped =>
    obtain ⟨-, rfl⟩ := rpcMachine_close stepped
    refine { formed with matched := ?_ }
    intro other known
    have apart : other ≠ workerCount := Nat.ne_of_lt known
    simpa [RpcState.setThread, Function.update_of_ne apart] using formed.matched other known
  | markClosed present working =>
    rename_i client record response
    refine { formed.setClient client record.disconnect with matched := ?_ }
    intro other known
    have apart : other ≠ workerCount := Nat.ne_of_lt known
    simpa [RpcState.setThread, WorkersState.setClient, Function.update_of_ne apart] using
      formed.matched other known
  | remove present gone =>
    rename_i client record
    obtain ⟨good, same, -⟩ := threadpoolRemoveClient_spec client formed.pool
    refine { formed with pool := good, queued_known := ?_ }
    intro other unknown
    have apart : other ≠ client := by
      rintro rfl
      cases present.symm.trans unknown
    exact (congrFun same other).trans
      ((Function.update_of_ne apart _ _).trans (formed.queued_known other unknown))
  | closeFifo present gone => exact formed.setClient _ _

/-- Every run keeps the server formed. -/
theorem workersMachine_run_formed {labels : List WorkersLabel} {last : WorkersState}
    (ran : (workersMachine auth deadly workerCount).run {} labels = some last) :
    last.Formed workerCount := by
  have kept : ∀ state label next, state.Formed workerCount →
      (workersMachine auth deadly workerCount).step state label = some next →
      next.Formed workerCount :=
    fun state label next formed step => (workersMachine_step step).2.formed formed
  exact Machine.run_invariant kept workers_formed_initial ran

/-- A label that does not close a client. -/
def WorkersLabel.closes : WorkersLabel → Bool
  | .beginClose _ | .markClosed _ => true
  | _ => false

/-- More workers can do what fewer do. -/
theorem workersMachine_more {more : Nat} {label : WorkersLabel} (fewer : workerCount ≤ more)
    (open_ : label.closes = false)
    (step : (workersMachine auth deadly workerCount).step state label = some next) :
    (workersMachine auth deadly more).step state label = some next := by
  cases label with
  | dequeue worker =>
    simp only [workersMachine] at step ⊢
    split at step
    · rename_i alive
      rw [if_pos alive]
      split at step
      · rename_i request pool idle dequeued
        split at step
        · rename_i known
          rw [if_pos (Nat.lt_of_lt_of_le known fewer), step]
        · cases step
      · cases step
    · cases step
  | beginClose client => cases open_
  | markClosed client => cases open_
  | _ => exact step

/-- Whole runs go on as they do with more workers. -/
theorem workersMachine_run_more {more : Nat} {labels : List WorkersLabel}
    (fewer : workerCount ≤ more) (open_ : ∀ label ∈ labels, label.closes = false)
    (ran : (workersMachine auth deadly workerCount).run state labels = some next) :
    (workersMachine auth deadly more).run state labels = some next := by
  induction labels generalizing state with
  | nil => exact ran
  | cons label labels ih =>
    obtain ⟨middle, step, rest⟩ := Machine.run_cons_some.mp ran
    exact Machine.run_cons_some.mpr ⟨middle,
      workersMachine_more fewer (open_ label List.mem_cons_self) step,
      ih (fun other member => open_ other (List.mem_cons_of_mem _ member)) rest⟩

/-- With more workers the same states are visited. -/
theorem workersMachine_always_more {more : Nat} {property : WorkersState → Prop}
    {labels : List WorkersLabel} (fewer : workerCount ≤ more)
    (open_ : ∀ label ∈ labels, label.closes = false)
    (ran : (workersMachine auth deadly workerCount).run state labels = some next)
    (always : (workersMachine auth deadly workerCount).Always property state labels) :
    (workersMachine auth deadly more).Always property state labels := by
  induction labels generalizing state with
  | nil => exact always
  | cons label labels ih =>
    obtain ⟨middle, step, rest⟩ := Machine.run_cons_some.mp ran
    have same := workersMachine_more fewer (open_ label List.mem_cons_self) step
    exact Machine.always_cons always.1 same
      (ih (fun other member => open_ other (List.mem_cons_of_mem _ member)) rest
        (always.2 middle step))

/-- While no client is being closed, only workers are in a handler. -/
theorem WorkersStep.quiet {label : WorkersLabel}
    (step : WorkersStep auth deadly workerCount state label next) (open_ : label.closes = false)
    (quiet : ∀ thread, workerCount ≤ thread → state.rpc.threads thread = none) :
    ∀ thread, workerCount ≤ thread → next.rpc.threads thread = none := by
  intro thread above
  -- giving a worker other work does not concern the other threads
  have others : ∀ worker work, (thread = worker → work = none) →
      (state.rpc.setThread worker work).threads thread = none := by
    intro worker work idle
    by_cases here : thread = worker
    · subst here
      exact (Function.update_self ..).trans (idle rfl)
    · exact (Function.update_of_ne here ..).trans (quiet thread above)
  cases step with
  | register new registered => exact quiet thread above
  | submit present submitted => exact quiet thread above
  | refuse present refused => exact quiet thread above
  | dequeue idle known dequeued =>
    exact others _ _ fun here => absurd (here ▸ known) (Nat.not_lt_of_le above)
  | advance stepped =>
    have same := rpcMachine_step_clients stepped thread
    rw [quiet thread above] at same
    exact Option.map_eq_none_iff.mp same
  | respond held working answer present called =>
    obtain ⟨stream, -, rfl⟩ := send_some called
    exact others _ none fun _ => rfl
  | silent held working answer => exact others _ none fun _ => rfl
  | beginClose present connected stepped => cases open_
  | markClosed present working => cases open_
  | remove present gone => exact quiet thread above
  | closeFifo present gone => exact quiet thread above

/-- In whole runs the main loop is in no handler while it closes nobody. -/
theorem workersMachine_run_quiet {labels : List WorkersLabel} {last : WorkersState}
    (ran : (workersMachine auth deadly workerCount).run {} labels = some last)
    (open_ : ∀ label ∈ labels, label.closes = false) (thread : ThreadId)
    (above : workerCount ≤ thread) : last.rpc.threads thread = none := by
  have kept : ∀ state label next, label.closes = false →
      (∀ thread, workerCount ≤ thread → state.rpc.threads thread = none) →
      (workersMachine auth deadly workerCount).step state label = some next →
      ∀ thread, workerCount ≤ thread → next.rpc.threads thread = none :=
    fun state label next allowed quiet step => (workersMachine_step step).2.quiet allowed quiet
  exact Machine.run_invariant_on kept open_ (fun _ _ => rfl) ran thread above

end AnimateService
