import AnimateService.ClientMain
import AnimateService.Server

/-!
# The client and the server

The client program and the server with the two FIFOs between them, in every interleaving and with
every cut of the bytes into reads and writes. The client writes a line and reads its response before
it takes the next line; the server cuts what it reads into lines. The record of the run has the
buffers that the client wrote, and the responses that it read with the number of buffers written
before.
-/
namespace AnimateService

open Transition

/-- Where the client program is. -/
inductive ClientPlace where
  /-- At the head of its loop. -/
  | looping
  /-- In `write_all`, with the bytes of the line that are left. -/
  | writing (written : Written) (left : Bytes)
  /-- In `read_response_line`, with the bytes in its buffer. -/
  | reading (written : Written) (buffer : Bytes)
  /-- Behind the loop, in `write_all` of the Disconnect. -/
  | parting (left : Bytes)
  /-- In `read_response_line` behind it. -/
  | waiting (buffer : Bytes)
  /-- At `close_client_fifos`. -/
  | ended
  deriving DecidableEq, Repr

/-- The client, the server, and the FIFOs between them. -/
structure LockState where
  /-- The variables of the client. -/
  client : ClientMain
  /-- Where it is. -/
  place : ClientPlace := .looping
  /-- The bytes in `FIFO_C2S`. -/
  c2s : Bytes := []
  /-- The number of bytes that the client has read from `FIFO_S2C`. -/
  got : Nat := 0
  /-- The server. -/
  server : ServerState := {}
  /-- The buffers that the client wrote or writes: a record of the run. -/
  lines : List Bytes := []
  /-- The responses that it read, with the number of buffers before each: a record of the run. -/
  replies : List (Nat × Bytes) := []

/-- What happens next. -/
inductive LockLabel where
  /-- The client takes a line from its input. -/
  | pass
  /-- Its `write` takes that many bytes. -/
  | write (count : Nat)
  /-- Its `read` returns a byte. -/
  | read
  /-- Its `read` returns 0. -/
  | readEnd
  /-- The server takes a step. -/
  | server (label : ServerLabel)
  deriving DecidableEq, Repr

/-- The bytes that were written to the client's `FIFO_S2C`. -/
def WorkersState.fifo (state : WorkersState) (client : ClientId) : Bytes :=
  ((state.clients client).map fun record => record.stream.fifo).getD []

/-- The server has closed its end of the client's `FIFO_S2C`, or ended. -/
def WorkersState.hungUp (state : WorkersState) (client : ClientId) : Bool :=
  !state.alive || (state.clients client).any fun record => record.stream.output.fifoS2c.isNone

namespace LockState

/-- A buffer is going to be written. -/
def begin (state : LockState) (line : Bytes) (place : ClientPlace) : LockState :=
  { state with place, lines := state.lines ++ [line] }

/-- The client leaves its loop. -/
def depart (state : LockState) : LockState :=
  if state.client.sentDisconnect then { state with place := .ended }
  else state.begin (bytes "Disconnect\n") (.parting (bytes "Disconnect\n"))

/-- A pass of the client's loop up to the write. -/
def pass (state : LockState) : LockState :=
  match state.client.pass with
  | .ended => state.depart
  | .skipped rest => { state with client := { state.client with input := rest } }
  | .wrote written rest =>
    { state with client := { state.client with input := rest } }.begin written.line
      (.writing written written.line)

/-- The client is behind the write of a line. -/
def wrote (state : LockState) (written : Written) : LockState :=
  if written.command = bytes "Disconnect" then
    { state with client := { state.client with sentDisconnect := true, going := false }
                 place := .ended }
  else { state with place := .reading written [] }

/-- Bytes go into `FIFO_C2S`. -/
def push (state : LockState) (taken : Bytes) : LockState := { state with c2s := state.c2s ++ taken }

/-- The client has a response in its buffer. -/
def record (state : LockState) (buffer : Bytes) : LockState :=
  { state with replies := state.replies ++ [(state.lines.length, buffer)] }

/-- The rest of a pass with the response. -/
def finish (state : LockState) (written : Written) (buffer : Bytes) : LockState :=
  let client := state.client.processReply written buffer
  { state.record buffer with client, place := if client.going then .looping else .ended }

/-- The bytes in `FIFO_S2C`. -/
def unread (state : LockState) (client : ClientId) : Bytes :=
  (state.server.workers.fifo client).drop state.got

/-- The main loop is at a read of the client's `FIFO_C2S`. -/
def isRead (state : LockState) (client : ClientId) : Bool :=
  match state.server.main with
  | .reading other _ => other = client ∧ state.server.workers.isDisconnected client = false
  | _ => false

/-- The bytes that a step of the server takes from `FIFO_C2S`. -/
def taken (state : LockState) (client : ClientId) : ServerLabel → Bytes
  | .main (.read (.data chunk)) => if state.isRead client then chunk else []
  | _ => []

/-- The client does not end before its program; the server reads what the client wrote, and the end
of the file behind it. -/
def allows (state : LockState) (client : ClientId) : ServerLabel → Bool
  | .leave other => other ≠ client ∨ state.place = .ended
  | .main (.read (.data chunk)) => !state.isRead client || chunk.isPrefixOf state.c2s
  | .main (.read .ended) => !state.isRead client || state.c2s = []
  | _ => true

end LockState

/-- A byte ends `read_response_line` if it is a newline or the buffer is full. -/
def endsResponse (buffer : Bytes) : Bool :=
  buffer.getLast? = some 10 ∨ ¬ buffer.length + 1 < maxResponseLen

/-- A client and the server as a machine. A read of the client finds the end of the file only where
the server has closed its end. -/
def lockMachine (auth : AuthDb) (deadly : Bool) (workerCount : Nat) (client : ClientId) :
    Machine LockState LockLabel where
  step state
    | .pass => if state.place = .looping then some state.pass else none
    | .write count =>
      match state.place with
      | .writing written left =>
        if 0 < count ∧ count ≤ left.length then
          let pushed := state.push (left.take count)
          some (if left.drop count = [] then pushed.wrote written
            else { pushed with place := .writing written (left.drop count) })
        else none
      | .parting left =>
        if 0 < count ∧ count ≤ left.length then
          let pushed := state.push (left.take count)
          some { pushed with
            place := if left.drop count = [] then .waiting [] else .parting (left.drop count) }
        else none
      | _ => none
    | .read =>
      (state.unread client).head?.bind fun byte =>
        let state := { state with got := state.got + 1 }
        match state.place with
        | .reading written buffer =>
          some (if endsResponse (buffer ++ [byte]) then state.finish written (buffer ++ [byte])
            else { state with place := .reading written (buffer ++ [byte]) })
        | .waiting buffer =>
          some (if endsResponse (buffer ++ [byte]) then
            { state.record (buffer ++ [byte]) with place := .ended }
            else { state with place := .waiting (buffer ++ [byte]) })
        | _ => none
    | .readEnd =>
      if state.unread client = [] ∧ state.server.workers.hungUp client then
        match state.place with
        | .reading written buffer =>
          some (if buffer = [] then state.depart else state.finish written buffer)
        | .waiting buffer =>
          some { (if buffer = [] then state else state.record buffer) with place := .ended }
        | _ => none
      else none
    | .server label =>
      if state.allows client label then
        ((serverMachine auth deadly workerCount).step state.server label).map fun server =>
          { state with server, c2s := state.c2s.drop (state.taken client label).length }
      else none

/-- The client behind `open_client_fifos`, with its input. -/
def LockState.start (input : Bytes) : LockState where
  client := { input }

end AnimateService
