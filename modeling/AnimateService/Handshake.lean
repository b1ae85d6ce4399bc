import AnimateService.Library.NamedPipes
import AnimateService.PendingClient
import AnimateService.Text

/-!
# The connection handshake

How a client and the server come to share two FIFOs: `connection.c` and `client_connection.c`, with
`accept_client` and the end of `close_client` of `server_main.c`. Each system call is a step of its
own, so that the parties interleave as they do: the client asks with `SIGUSR1` and polls for
`SIGUSR2` ten times, the server creates the FIFOs, signals, and opens them, and both block in `open`
until the other has come. All processes have the same `ANIMATE_FIFO_DIR`, and nobody else touches
the FIFOs; what the directory holds at the start is left over from earlier servers. The child that
`run_ffmpeg` forks is left out: until it ends it has open whatever FIFOs the server had open when it
was forked. A failed write of a response is left out because it changes nothing here: it marks the
client as disconnected, and the FIFOs stay as they are.
-/
namespace AnimateService

open Transition NamedPipes

/-! ## Paths -/

/-- The FIFOs of a client, by what they carry. -/
inductive FifoKind where
  /-- From the client to the server. -/
  | c2s
  /-- From the server to the client. -/
  | s2c
  deriving DecidableEq, Repr

/-- The part of a path between the directory and the PID. -/
def FifoKind.text : FifoKind → Bytes
  | .c2s => bytes "/FIFO_C2S_"
  | .s2c => bytes "/FIFO_S2C_"

/-- `MAX_FIFO_NAME_LEN`. -/
def maxFifoNameLen : Nat := 256

/-- `ANIMATE_FIFO_DIR`, or the working directory where it is not set or empty. -/
def fifoDirectory : Option Bytes → Bytes
  | some (byte :: rest) => byte :: rest
  | _ => bytes "."

/-- The path of a FIFO. -/
def fifoPath (fifoDir : Option Bytes) (kind : FifoKind) (pid : Pid) : Bytes :=
  fifoDirectory fifoDir ++ (kind.text ++ decimalNat pid)

/-- `get_client_fifo_paths`. -/
def getClientFifoPaths (fifoDir : Option Bytes) (pathLen : Nat) (pid : Pid) :
    Option (Bytes × Bytes) :=
  if pathLen ≤ (fifoPath fifoDir .c2s pid).length ∨
      pathLen ≤ (fifoPath fifoDir .s2c pid).length then none
  else some (fifoPath fifoDir .c2s pid, fifoPath fifoDir .s2c pid)

/-- `get_fifo_paths`. -/
def getFifoPaths (fifoDir : Option Bytes) (pid : Pid) : Option (Bytes × Bytes) :=
  getClientFifoPaths fifoDir maxFifoNameLen pid

/-! ## The parties -/

/-- A FIFO, whatever its path. -/
abbrev Inode := Nat

/-- The FIFOs of a connection. -/
structure FifoPair where
  /-- What the client writes to. -/
  c2s : Inode
  /-- What it reads from. -/
  s2c : Inode
  deriving DecidableEq, Repr

/-- The FIFO of a kind. -/
def FifoPair.fifo (fifos : FifoPair) : FifoKind → Inode
  | .c2s => fifos.c2s
  | .s2c => fifos.s2c

/-- The FIFOs are determined by their kinds. -/
theorem fifoPair_ext {fifos other : FifoPair} (same : ∀ kind, fifos.fifo kind = other.fifo kind) :
    fifos = other := by
  have first : fifos.c2s = other.c2s := same .c2s
  have second : fifos.s2c = other.s2c := same .s2c
  cases fifos
  cases other
  cases first
  cases second
  rfl

/-- Who has FIFOs open. -/
inductive Party where
  | server
  | client (pid : Pid)
  deriving DecidableEq, Repr

/-- Where a client process is. -/
inductive ProcessPlace where
  /-- `send_connection_request` before `sigaction`. -/
  | installing
  /-- Before `kill(server_pid, SIGUSR1)`. -/
  | requesting
  /-- In the loop, which has looked at the flag so many times. -/
  | waiting (checks : Nat)
  /-- `open_client_fifos` before the first `open`. -/
  | openC2s
  /-- In `open(c2s_path, O_WRONLY)`. -/
  | enterC2s (c2s : Inode) (ticket : Option Nat)
  /-- Before the second. -/
  | openS2c (c2s : Inode)
  /-- In `open(s2c_path, O_RDONLY)`. -/
  | enterS2c (fifos : FifoPair) (ticket : Option Nat)
  /-- `open_client_fifos` has returned 0. -/
  | connected (fifos : FifoPair)
  deriving DecidableEq, Repr

/-- A client process. -/
structure ClientProcess where
  /-- Where it is. -/
  place : ProcessPlace := .installing
  /-- `SIGUSR2` was sent to it and is not delivered. -/
  usr2 : Bool := false
  /-- `sigusr2_received`. -/
  sigusr2Received : Bool := false
  deriving DecidableEq, Repr

/-- What `accept_client` does next. -/
inductive AcceptStage where
  /-- `get_fifo_paths`. -/
  | paths
  /-- `unlink` of what an earlier server left. -/
  | unlinkOld (kind : FifoKind)
  /-- `mkfifo`. -/
  | make (kind : FifoKind)
  /-- `unlink(c2s_path)` after the second `mkfifo` has failed. -/
  | unmake
  /-- `signal_client_ready`. -/
  | signal
  /-- `open(c2s_path, O_RDONLY | O_NONBLOCK)`. -/
  | openC2s
  /-- Before `open(s2c_path, O_WRONLY)`. -/
  | openS2c (c2s : Inode)
  /-- In it. -/
  | enterS2c (fifos : FifoPair) (ticket : Option Nat)
  /-- `calloc`, `pthread_mutex_init` and `threadpool_register_client`. -/
  | register (fifos : FifoPair)
  deriving DecidableEq, Repr

/-- What `accept_client` does next when it fails, and `close_client` at its end. -/
inductive LeaveStage where
  /-- `close(c2s_fd)`, and then `close(s2c_fd)` if there is one. -/
  | closeC2s (c2s : Inode) (s2c : Option Inode)
  /-- `close(s2c_fd)`. -/
  | closeS2c (s2c : Inode)
  /-- `unlink_fifos`. -/
  | unlink (kind : FifoKind)
  deriving DecidableEq, Repr

/-- Where the server's main loop is. -/
inductive ServerPlace where
  /-- Before `server_take_pending_client`. -/
  | idle
  /-- `server_take_pending_client` has read the slot. -/
  | taking
  /-- In `accept_client`. -/
  | accept (pid : Pid) (stage : AcceptStage)
  /-- It drops a client. -/
  | leave (pid : Pid) (stage : LeaveStage)
  deriving DecidableEq, Repr

/-- The server, the client processes and the FIFOs. -/
structure Handshake where
  /-- The directory. -/
  files : Bytes → Option Inode := fun _ => none
  /-- The FIFOs. -/
  pipes : Inode → Pipe Party := fun _ => {}
  /-- The FIFOs from here on are yet to be created. -/
  made : Nat := 0
  /-- What the server has created the FIFOs for: a record of the run. -/
  origin : Inode → Option (Pid × FifoKind) := fun _ => none
  /-- `SIGUSR1` is pending for the server, with the PID of its sender. -/
  usr1 : Option Pid := none
  /-- `pending_client_pid`. -/
  pending : PendingClient := {}
  /-- Where the main loop is. -/
  server : ServerPlace := .idle
  /-- The PIDs of its list of clients. -/
  clients : List Pid := []
  /-- The FIFOs of the clients that `close_client` has not closed. One of them may be marked as
  disconnected after a failed write; `close_client` returns at once for it. -/
  held : Pid → Option FifoPair := fun _ => none
  /-- The client processes. -/
  processes : Pid → Option ClientProcess := fun _ => none

/-- What happens next. -/
inductive HandshakeLabel where
  /-- A client program is started; its process has this PID. -/
  | start (pid : Pid)
  /-- A client process goes on. -/
  | client (pid : Pid)
  /-- It ends, for whatever reason. -/
  | exit (pid : Pid)
  /-- `SIGUSR2` is delivered to it. -/
  | deliverUsr2 (pid : Pid)
  /-- `SIGUSR1` is delivered to the server's main thread. -/
  | deliverUsr1
  /-- The main loop goes on; the call that it makes fails if the system lets it. -/
  | server (ok : Bool)
  /-- The main loop calls `close_client`. -/
  | close (pid : Pid)
  deriving DecidableEq, Repr

/-! ## Steps -/

namespace Handshake

/-- The main loop is somewhere else. -/
def goTo (state : Handshake) (place : ServerPlace) : Handshake := { state with server := place }

/-- A process changes or ends. -/
def setProcess (state : Handshake) (pid : Pid) (process : Option ClientProcess) : Handshake :=
  { state with processes := Function.update state.processes pid process }

/-- `unlink`; where it fails the path stays, and nobody looks. -/
def unlink (state : Handshake) (path : Bytes) (ok : Bool) : Handshake :=
  if ok then { state with files := Function.update state.files path none } else state

/-- `mkfifo` that succeeds. -/
def mkfifo (state : Handshake) (path : Bytes) (pid : Pid) (kind : FifoKind) : Handshake :=
  { state with
    files := Function.update state.files path (some state.made)
    origin := Function.update state.origin state.made (some (pid, kind))
    made := state.made + 1 }

/-- An `open` begins. -/
def openFifo (state : Handshake) (inode : Inode) (side : End) (party : Party) : Handshake :=
  { state with
    pipes := Function.update state.pipes inode ((state.pipes inode).openEnd side party) }

/-- A `close`, or the end of an `open` that was interrupted. -/
def closeFifo (state : Handshake) (inode : Inode) (side : End) (party : Party) : Handshake :=
  { state with
    pipes := Function.update state.pipes inode ((state.pipes inode).closeEnd side party) }

/-- The end of a process closes its FIFOs. -/
def terminate (state : Handshake) (pid : Pid) (place : ProcessPlace) : Handshake :=
  let gone := state.setProcess pid none
  match place with
  | .enterC2s c2s _ | .openS2c c2s => gone.closeFifo c2s .writing (.client pid)
  | .enterS2c fifos _ | .connected fifos =>
    (gone.closeFifo fifos.c2s .writing (.client pid)).closeFifo fifos.s2c .reading (.client pid)
  | _ => gone

/-- The next step of a client process: `send_connection_request` and `open_client_fifos`. A call
that fails ends the program. -/
def clientStep (fifoDir : Option Bytes) (state : Handshake) (pid : Pid) (process : ClientProcess) :
    Option Handshake :=
  let goes (next : Handshake) (place : ProcessPlace) : Option Handshake :=
    some (next.setProcess pid (some { process with place }))
  match process.place with
  | .installing => goes state .requesting
  | .requesting => goes { state with usr1 := some (state.usr1.getD pid) } (.waiting 0)
  | .waiting checks =>
    if checks < 10 then
      goes state (if process.sigusr2Received then .openC2s else .waiting (checks + 1))
    else some (state.terminate pid process.place)
  | .openC2s =>
    match getClientFifoPaths fifoDir maxFifoNameLen pid with
    | none => some (state.terminate pid process.place)
    | some (c2sPath, _) =>
      match state.files c2sPath with
      | none => some (state.terminate pid process.place)
      | some c2s =>
        goes (state.openFifo c2s .writing (.client pid))
          (.enterC2s c2s ((state.pipes c2s).ticket .writing))
  | .enterC2s c2s ticket =>
    if (state.pipes c2s).lets .writing ticket then goes state (.openS2c c2s) else none
  | .openS2c c2s =>
    match state.files (fifoPath fifoDir .s2c pid) with
    | none => some (state.terminate pid process.place)
    | some s2c =>
      goes (state.openFifo s2c .reading (.client pid))
        (.enterS2c ⟨c2s, s2c⟩ ((state.pipes s2c).ticket .reading))
  | .enterS2c fifos ticket =>
    if (state.pipes fifos.s2c).lets .reading ticket then goes state (.connected fifos) else none
  | .connected _ => none

/-- `SIGUSR2` is delivered: `sigusr2_handler` sets the flag, an `open` that waits fails, and before
`sigaction` the signal ends the process. -/
def receiveUsr2 (state : Handshake) (pid : Pid) (process : ClientProcess) : Handshake :=
  let noticed := state.setProcess pid
    (some { process with usr2 := false, sigusr2Received := true })
  match process.place with
  | .installing => state.terminate pid process.place
  | .enterC2s c2s ticket =>
    if (state.pipes c2s).lets .writing ticket then noticed else state.terminate pid process.place
  | .enterS2c fifos ticket =>
    if (state.pipes fifos.s2c).lets .reading ticket then noticed
    else state.terminate pid process.place
  | _ => noticed

/-- `create_fifos`, `signal_client_ready` and `accept_client`, in which the calls of
`get_fifo_paths` after the first return the same. -/
def acceptStep (fifoDir : Option Bytes) (state : Handshake) (pid : Pid) (ok : Bool) :
    AcceptStage → Option Handshake
  | .paths =>
    match getFifoPaths fifoDir pid with
    | none => some (state.goTo .idle)
    | some _ => some (state.goTo (.accept pid (.unlinkOld .c2s)))
  | .unlinkOld kind =>
    some ((state.unlink (fifoPath fifoDir kind pid) ok).goTo
      (.accept pid (match kind with | .c2s => .unlinkOld .s2c | .s2c => .make .c2s)))
  | .make kind =>
    if (state.files (fifoPath fifoDir kind pid)).isSome ∨ ok = false then
      some (state.goTo (match kind with | .c2s => .idle | .s2c => .accept pid .unmake))
    else
      some ((state.mkfifo (fifoPath fifoDir kind pid) pid kind).goTo
        (.accept pid (match kind with | .c2s => .make .s2c | .s2c => .signal)))
  | .unmake => some ((state.unlink (fifoPath fifoDir .c2s pid) ok).goTo .idle)
  | .signal =>
    match ok, state.processes pid with
    | true, some process =>
      some ((state.setProcess pid (some { process with usr2 := true })).goTo (.accept pid .openC2s))
    | _, _ => some (state.goTo (.leave pid (.unlink .c2s)))
  | .openC2s =>
    match ok, state.files (fifoPath fifoDir .c2s pid) with
    | true, some c2s =>
      some ((state.openFifo c2s .reading .server).goTo (.accept pid (.openS2c c2s)))
    | _, _ => some (state.goTo (.leave pid (.unlink .c2s)))
  | .openS2c c2s =>
    match ok, state.files (fifoPath fifoDir .s2c pid) with
    | true, some s2c =>
      some ((state.openFifo s2c .writing .server).goTo
        (.accept pid (.enterS2c ⟨c2s, s2c⟩ ((state.pipes s2c).ticket .writing))))
    | _, _ => some (state.goTo (.leave pid (.closeC2s c2s none)))
  | .enterS2c fifos ticket =>
    if (state.pipes fifos.s2c).lets .writing ticket then
      some (state.goTo (.accept pid (.register fifos)))
    else none
  | .register fifos =>
    if ok then
      some { state with
        server := .idle
        clients := pid :: state.clients
        held := Function.update state.held pid (some fifos) }
    else some (state.goTo (.leave pid (.closeC2s fifos.c2s (some fifos.s2c))))

/-- The closes of `accept_client` and `close_client`, and `unlink_fifos`. -/
def leaveStep (fifoDir : Option Bytes) (state : Handshake) (pid : Pid) (ok : Bool) :
    LeaveStage → Handshake
  | .closeC2s c2s s2c =>
    (state.closeFifo c2s .reading .server).goTo (.leave pid
      (match s2c with | none => .unlink .c2s | some s2c => .closeS2c s2c))
  | .closeS2c s2c => (state.closeFifo s2c .writing .server).goTo (.leave pid (.unlink .c2s))
  | .unlink kind =>
    (state.unlink (fifoPath fifoDir kind pid) ok).goTo
      (match kind with | .c2s => .leave pid (.unlink .s2c) | .s2c => .idle)

/-- The next step of the main loop: `server_take_pending_client` and `accept_client`. -/
def serverStep (fifoDir : Option Bytes) (state : Handshake) (ok : Bool) : Option Handshake :=
  match state.server with
  | .idle =>
    (pendingMachine.step state.pending .read).map fun pending =>
      { state with pending, server := .taking }
  | .taking =>
    (pendingMachine.step state.pending .clear).map fun pending =>
      let pid := state.pending.clientPid.getD 0
      { state with
        pending
        server := if pid = 0 ∨ pid ∈ state.clients then .idle else .accept pid .paths }
  | .accept pid stage => state.acceptStep fifoDir pid ok stage
  | .leave pid stage => some (state.leaveStep fifoDir pid ok stage)

/-- `SIGUSR1` is delivered: `sigusr1_handler` runs, and an `open` that waits fails with `EINTR`. -/
def receiveUsr1 (state : Handshake) (pid : Pid) : Option Handshake :=
  (pendingMachine.step state.pending (.handler pid)).map fun pending =>
    let noticed := { state with usr1 := none, pending }
    match state.server with
    | .accept pid (.enterS2c fifos ticket) =>
      if (state.pipes fifos.s2c).lets .writing ticket then noticed
      else
        (noticed.closeFifo fifos.s2c .writing .server).goTo
          (.leave pid (.closeC2s fifos.c2s none))
    | _ => noticed

/-- The main loop drops a client whose flag is not set. -/
def closeClient (state : Handshake) (pid : Pid) : Option Handshake :=
  match state.server, state.held pid with
  | .idle, some fifos =>
    some { state with
      server := .leave pid (.closeC2s fifos.c2s (some fifos.s2c))
      held := Function.update state.held pid none }
  | _, _ => none

end Handshake

/-- The handshake as a machine. No request is in `run_ffmpeg`, whose child has the server's ends of
the FIFOs open as well. -/
def handshakeMachine (fifoDir : Option Bytes) : Machine Handshake HandshakeLabel where
  step state
    | .start pid =>
      if pid = 0 ∨ (state.processes pid).isSome then none
      else some (state.setProcess pid (some {}))
    | .client pid => (state.processes pid).bind (state.clientStep fifoDir pid)
    | .exit pid =>
      (state.processes pid).map fun process => state.terminate pid process.place
    | .deliverUsr2 pid =>
      match state.processes pid with
      | some process => if process.usr2 then some (state.receiveUsr2 pid process) else none
      | none => none
    | .deliverUsr1 => state.usr1.bind state.receiveUsr1
    | .server ok => state.serverStep fifoDir ok
    | .close pid => state.closeClient pid

/-- The state in which a server starts, in a directory with what earlier ones have left. -/
def Handshake.begin (files : Bytes → Option Inode) (made : Nat) : Handshake := { files, made }

end AnimateService
