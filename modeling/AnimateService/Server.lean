import AnimateService.Members
import AnimateService.Signals
import AnimateService.Workers
import AnimateService.WriteErrors

/-!
# The server

The main loop of `server_main.c` with the workers and the clients' ends of the FIFOs, in every
interleaving. The main loop accepts clients, visits them in `cleanup_inactive_clients`, waits in
`select`, reads, cuts the bytes into lines and submits them, and closes clients; whatever it does
under a mutex, and every test of a field that workers change, is a step of its own. A client may
close its ends at any time: from then on a write to its FIFO finds no reader. A client is named by
its PID, for `find_client` refuses a PID that was accepted before.
-/
namespace AnimateService

open Transition

/-- `CLIENT_READ_BUFFER`. -/
abbrev clientReadBuffer : Nat := 4096

/-- The loop of `process_buffered_lines` over the bytes after a part of a line: the lines that end
in them, and what is left behind the last. -/
def cutLines (line : Bytes) : Bytes → List Bytes × Bytes
  | [] => ([], line)
  | byte :: rest =>
    if byte = 10 then
      let (lines, left) := cutLines [] rest
      ((line ++ [byte]) :: lines, left)
    else cutLines (line ++ [byte]) rest

/-- `process_buffered_lines`: the lines to submit and what stays in the buffer. A buffer that is
full of one line without its end is submitted as it is. -/
def processBufferedLines (buffer : Bytes) : List Bytes × Bytes :=
  let (lines, left) := cutLines [] buffer
  if left.length = clientReadBuffer then (lines ++ [left], []) else (lines, left)

/-- The fields of `server_client_t` that only the main loop uses, and the client's own ends. -/
structure Connection where
  /-- `fifo_c2s_fd`; `none` is -1. -/
  fifoC2s : Option Nat
  /-- `read_buffer` up to `read_len`. -/
  readBuffer : Bytes := []
  /-- The client has closed its ends of both FIFOs. -/
  left : Bool := false
  deriving DecidableEq, Repr

/-- Where `close_client` was called. -/
inductive Caller where
  /-- In `cleanup_inactive_clients`, with the clients that it has not visited. -/
  | cleanup (now : Nat) (rest : List ClientId)
  /-- In `read_client_requests`, with the readable clients that it has not been called for. -/
  | reader (rest : List ClientId)
  deriving DecidableEq, Repr

/-- Where the main loop is in `close_client`. -/
inductive CloseStage where
  /-- At its test of `disconnected`. -/
  | entry
  /-- In `rpc_client_disconnected`. -/
  | session
  /-- At `threadpool_remove_client`. -/
  | queue
  /-- At the close of `fifo_c2s_fd`. -/
  | readEnd
  /-- At the close of `fifo_s2c_fd`. -/
  | writeEnd
  deriving DecidableEq, Repr

/-- Where the main loop is. -/
inductive MainPc where
  /-- At `server_take_pending_client`. -/
  | polling
  /-- At `cleanup_inactive_clients`. -/
  | polled
  /-- In its loop, with the clients that it has not visited. -/
  | cleaning (now : Nat) (rest : List ClientId)
  /-- Behind it, at `select`. -/
  | watching
  /-- In the loop over the readable clients. -/
  | serving (rest : List ClientId)
  /-- In the loop of `read_client_requests`. -/
  | reading (client : ClientId) (rest : List ClientId)
  /-- In `process_buffered_lines`, with the lines that it has not submitted. -/
  | submitting (client : ClientId) (lines : List Bytes) (rest : List ClientId)
  /-- In `close_client`. -/
  | closing (client : ClientId) (stage : CloseStage) (caller : Caller)
  deriving DecidableEq, Repr

/-- Where the main loop goes on after `close_client`. -/
def Caller.resume : Caller → MainPc
  | .cleanup now rest => .cleaning now rest
  | .reader rest => .serving rest

/-- Where the main loop goes on with the lines that are left to submit. -/
def MainPc.submit (client : ClientId) (lines : List Bytes) (rest : List ClientId) : MainPc :=
  if lines = [] then .reading client rest else .submitting client lines rest

/-- The server, its clients' ends of the FIFOs, and its open descriptors of FIFOs. -/
structure ServerState where
  /-- The workers, with what they share with the main loop. -/
  workers : WorkersState := {}
  /-- What only the main loop uses. -/
  connections : ClientId → Option Connection := fun _ => none
  /-- The list of clients from its head. -/
  clients : List ClientId := []
  /-- Where the main loop is. -/
  main : MainPc := .polling
  /-- The client to one of whose FIFOs a descriptor is open. -/
  descriptors : Nat → Option ClientId := fun _ => none
  /-- The clients whose flag was set when the last cleanup began: a record of the run. -/
  flagged : ClientId → Bool := fun _ => false
  /-- The names that have been connected to a canvas without a break since a section for the client
  connected them: a record of the run. -/
  through : ClientId → Set Bytes := fun _ => ∅

/-- The kernel's answer to a `read`. -/
inductive ReadResult where
  /-- Bytes that the client wrote. -/
  | data (chunk : Bytes)
  /-- The end of the file: nobody has the FIFO open for writing. -/
  | ended
  /-- `EINTR`. -/
  | interrupted
  /-- `EAGAIN`. -/
  | empty
  /-- Another error. -/
  | failed
  deriving DecidableEq, Repr

/-- A step of the main loop, with the environment's choices. -/
inductive MainEvent where
  /-- The pending PID is taken. A client is accepted with the descriptors of its FIFOs, or there is
  none, or it is refused. -/
  | poll (accepted : Option (ClientId × Nat × Nat))
  /-- `cleanup_inactive_clients` is called at a time. -/
  | beginCleanup (now : Nat)
  /-- It visits a client; `kill` finds the client's process. -/
  | visit (found : Bool)
  /-- It returns. -/
  | endCleanup
  /-- `select` finds clients readable; none after a timeout or a signal. -/
  | select (ready : List ClientId)
  /-- The next readable client, or the end of their loop. -/
  | serve
  /-- A `read`. -/
  | read (result : ReadResult)
  /-- A line is submitted. -/
  | submit (memory : Bool)
  /-- The next step of `close_client`. -/
  | close
  /-- The next step of `rpc_client_disconnected` inside it. -/
  | advance (answers : Answers)
  deriving DecidableEq, Repr

/-- What happens next. -/
inductive ServerLabel where
  /-- A step of a worker. -/
  | worker (label : WorkersLabel)
  /-- A step of the main loop. -/
  | main (event : MainEvent)
  /-- A client closes its ends of its FIFOs. -/
  | leave (client : ClientId)
  deriving DecidableEq, Repr

/-! ## The parts of a step -/

/-- The client's flag. -/
def WorkersState.isDisconnected (state : WorkersState) (client : ClientId) : Bool :=
  (state.clients client).any fun record => record.stream.output.disconnected

/-- The client whose response a step sends. -/
def WorkersState.recipient (state : WorkersState) : WorkersLabel → Option ClientId
  | .respond worker _ _ => (state.inHand worker).map Request.client
  | _ => none

/-- The kernel's answers to the writes of a step. -/
def WorkersLabel.results : WorkersLabel → List WriteResult
  | .respond _ _ results => results
  | _ => []

/-- A step of a worker. -/
def WorkersLabel.isWorkers (workerCount : Nat) : WorkersLabel → Bool
  | .dequeue _ | .respond _ _ _ => true
  | .advance thread _ => thread < workerCount
  | _ => false

/-- The client has closed its ends. -/
def ServerState.hasLeft (state : ServerState) (client : ClientId) : Bool :=
  (state.connections client).any Connection.left

/-- No write to the FIFO of a client that has closed its end finds a reader. -/
def ServerState.allows (state : ServerState) (label : WorkersLabel) : Bool :=
  !(state.workers.recipient label).any state.hasLeft ||
    label.results.all fun result => result = .interrupted ∨ result = .noReader

/-- A client to whose FIFO a write finds no reader has closed its ends, if only during the call. -/
def ServerState.heard (state : ServerState) (label : WorkersLabel) :
    ClientId → Option Connection := fun client =>
  if state.workers.recipient label = some client ∧ .noReader ∈ label.results then
    (state.connections client).map fun connection => { connection with left := true }
  else state.connections client

/-- The name that a thread's next step connects to a canvas. -/
def Pc.connects (answers : Answers) (session : Session) (store : HandleStore) (pc : Pc) :
    Option Bytes :=
  (pc.canvasStep answers session store store).connects store

/-- The record of who is connected through a client, after a step that leads to a state of the
workers. -/
def ServerState.follow (state : ServerState) (label : WorkersLabel) (next : WorkersState) :
    ClientId → Set Bytes :=
  match label with
  | .advance thread answers =>
    match state.workers.rpc.threads thread with
    | some ⟨client, pc⟩ => fun other =>
      {name | ConnectedNamed next.rpc.world.store name ∧ (name ∈ state.through other ∨
        other = client ∧ pc.connects answers (state.workers.rpc.sessions client)
          state.workers.rpc.world.store = some name)}
    | none => state.through
  | _ => state.through

/-- A step of the workers' part, with the records. -/
def ServerState.perform (auth : AuthDb) (deadly : Bool) (workerCount : Nat) (state : ServerState)
    (label : WorkersLabel) : Option ServerState :=
  ((workersMachine auth deadly workerCount).step state.workers label).map fun workers =>
    { state with
      workers
      connections := state.heard label
      through := state.follow label workers }

/-- A descriptor is closed. -/
def ServerState.closeDescriptor (state : ServerState) : Option Nat → ServerState
  | some fd => { state with descriptors := Function.update state.descriptors fd none }
  | none => state

/-- Closing concerns the descriptors only. -/
@[simp] theorem closeDescriptor_workers (state : ServerState) (fd : Option Nat) :
    (state.closeDescriptor fd).workers = state.workers := by
  cases fd <;> rfl

@[simp] theorem closeDescriptor_connections (state : ServerState) (fd : Option Nat) :
    (state.closeDescriptor fd).connections = state.connections := by
  cases fd <;> rfl

@[simp] theorem closeDescriptor_through (state : ServerState) (fd : Option Nat) :
    (state.closeDescriptor fd).through = state.through := by
  cases fd <;> rfl

@[simp] theorem closeDescriptor_flagged (state : ServerState) (fd : Option Nat) :
    (state.closeDescriptor fd).flagged = state.flagged := by
  cases fd <;> rfl

/-- `fifo_c2s_fd` of a client. -/
def ServerState.fifoC2s (state : ServerState) (client : ClientId) : Option Nat :=
  (state.connections client).bind Connection.fifoC2s

/-- `fifo_s2c_fd` of a client. -/
def WorkersState.fifoS2c (state : WorkersState) (client : ClientId) : Option Nat :=
  (state.clients client).bind fun record => record.stream.output.fifoS2c

/-- The record of a connection is written. -/
def ServerState.updateConnection (state : ServerState) (client : ClientId)
    (write : Connection → Connection) : ServerState :=
  { state with
    connections := Function.update state.connections client ((state.connections client).map write) }

/-- The end of `accept_client`: the client is registered and becomes the head of the list. -/
def ServerState.accept (auth : AuthDb) (deadly : Bool) (workerCount : Nat) (state : ServerState)
    (client : ClientId) (c2s s2c : Nat) : Option ServerState :=
  if 0 < client ∧ c2s ≠ s2c ∧ state.descriptors c2s = none ∧ state.descriptors s2c = none then
    (state.perform auth deadly workerCount (.register client s2c true)).map fun next =>
      { next with
        connections := Function.update next.connections client (some { fifoC2s := some c2s })
        clients := client :: next.clients
        main := .polled
        descriptors :=
          Function.update (Function.update next.descriptors c2s (some client)) s2c (some client) }
  else none

/-- A visit of `cleanup_inactive_clients`. -/
def ServerState.visit (state : ServerState) (now : Nat) (client : ClientId) (rest : List ClientId)
    (found : Bool) : MainPc :=
  let disconnectAfter := (state.workers.rpc.sessions client).disconnectAfter
  if state.workers.isDisconnected client then .cleaning now rest
  else if disconnectAfter ≠ 0 ∧ disconnectAfter ≤ now ∨ !found then
    .closing client .entry (.cleanup now rest)
  else .cleaning now rest

/-- The main loop watches the FIFO of a client. -/
def ServerState.watches (state : ServerState) (client : ClientId) : Bool :=
  !state.workers.isDisconnected client && (state.fifoC2s client).isSome

/-- A pass of the loop of `read_client_requests`. -/
def ServerState.read (state : ServerState) (client : ClientId) (rest : List ClientId)
    (result : ReadResult) : Option ServerState :=
  if state.workers.isDisconnected client then some { state with main := .serving rest }
  else
    match result with
    | .data chunk =>
      (state.connections client).bind fun connection =>
        let buffer := connection.readBuffer ++ chunk
        if chunk ≠ [] ∧ buffer.length ≤ clientReadBuffer then
          let (lines, left) := processBufferedLines buffer
          some { state.updateConnection client fun connection => { connection with readBuffer := left }
            with main := .submit client lines rest }
        else none
    | .ended =>
      if state.hasLeft client then some { state with main := .closing client .entry (.reader rest) }
      else none
    | .interrupted => some state
    | .empty => some { state with main := .serving rest }
    | .failed => some { state with main := .closing client .entry (.reader rest) }

/-- The next step of `close_client`. -/
def ServerState.close (auth : AuthDb) (deadly : Bool) (workerCount : Nat) (state : ServerState)
    (client : ClientId) (caller : Caller) : CloseStage → Option ServerState
  | .entry =>
    if state.workers.isDisconnected client then some { state with main := caller.resume }
    else
      (state.perform auth deadly workerCount (.beginClose client)).map fun next =>
        { next with main := .closing client .session caller }
  | .session =>
    (state.perform auth deadly workerCount (.markClosed client)).map fun next =>
      { next with main := .closing client .queue caller }
  | .queue =>
    (state.perform auth deadly workerCount (.remove client)).map fun next =>
      { next with main := .closing client .readEnd caller }
  | .readEnd =>
    let closed := state.closeDescriptor (state.fifoC2s client)
    some { closed.updateConnection client fun connection => { connection with fifoC2s := none }
      with main := .closing client .writeEnd caller }
  | .writeEnd =>
    let closed := state.closeDescriptor (state.workers.fifoS2c client)
    (closed.perform auth deadly workerCount (.closeFifo client)).map fun next =>
      { next with main := caller.resume }

/-- A step of the main loop. -/
def ServerState.mainStep (auth : AuthDb) (deadly : Bool) (workerCount : Nat) (state : ServerState) :
    MainPc → MainEvent → Option ServerState
  | .polling, .poll none => some { state with main := .polled }
  | .polling, .poll (some (client, c2s, s2c)) => state.accept auth deadly workerCount client c2s s2c
  | .polled, .beginCleanup now =>
    some { state with main := .cleaning now state.clients, flagged := state.workers.isDisconnected }
  | .cleaning now (client :: rest), .visit found =>
    some { state with main := state.visit now client rest found }
  | .cleaning _ [], .endCleanup => some { state with main := .watching }
  | .watching, .select ready =>
    if ready.all state.watches then
      some { state with main := .serving (state.clients.filter (· ∈ ready)) }
    else none
  | .serving [], .serve => some { state with main := .polling }
  | .serving (client :: rest), .serve =>
    some { state with
      main := if state.watches client then .reading client rest else .serving rest }
  | .reading client rest, .read result => state.read client rest result
  | .submitting client (line :: lines) rest, .submit memory =>
    (state.perform auth deadly workerCount (.submit client line memory)).map fun next =>
      { next with main := .submit client lines rest }
  | .closing client stage caller, .close =>
    state.close auth deadly workerCount client caller stage
  | .closing client .session caller, .advance answers =>
    (state.perform auth deadly workerCount (.advance workerCount answers)).map fun next =>
      { next with main := .closing client .session caller }
  | _, _ => none

/-- The server, from the start of its main loop. The default action of `SIGPIPE` is `deadly`. -/
def serverMachine (auth : AuthDb) (deadly : Bool) (workerCount : Nat) :
    Machine ServerState ServerLabel where
  step state
    | .worker label =>
      if label.isWorkers workerCount && state.allows label then
        state.perform auth deadly workerCount label
      else none
    | .main event =>
      if state.workers.alive then state.mainStep auth deadly workerCount state.main event else none
    | .leave client =>
      if (state.connections client).isSome then
        some (state.updateConnection client fun connection => { connection with left := true })
      else none

end AnimateService
