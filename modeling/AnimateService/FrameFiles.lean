import AnimateService.CanvasHandles
import AnimateService.Library.Streams

/-!
# The files of `generate`

The file events of the requests are operations on buffered streams, so that the contents of the
`.dat` files follow from a run: `fopen` empties the file, `fwrite` takes the frame or fails, and
`fclose` sends the rest of the buffer. Each thread has at most one stream. What libanimate leaves in
the frame buffer, and what the C library and the disk do with it, is chosen with each step. A frame is
written in the step that renders it, although the mutex is released in between: only a thread with
the same file open could tell.
-/
namespace AnimateService

open OutputStreams Transition

/-- `with_suffix`. -/
def withSuffix (base suffix : Bytes) : Bytes := base ++ suffix

/-- The file of the frames of a request. -/
def GenerateJob.dat (job : GenerateJob) : Bytes := withSuffix job.base (bytes ".dat")

/-- What is written in a step, and how. -/
structure Transfer where
  /-- The `frame_size` bytes that `animate_generate_frame` leaves in the buffer. -/
  image : Bytes := []
  /-- How many of them `fwrite` takes. -/
  taken : Nat := 0
  /-- How many bytes the stream then sends. -/
  sent : Nat := 0
  /-- How many bytes a failing `fclose` sends. -/
  flushed : Nat := 0
  deriving DecidableEq, Repr

/-- `fwrite` returns `frame_size`. -/
def Transfer.complete (transfer : Transfer) : Bool := transfer.image.length ≤ transfer.taken

/-- What a file event does to the stream of its thread. -/
def FileEvent.operation (transfer : Transfer) : FileEvent → Option (Operation Bytes UInt8)
  | .opened base true => some (.opened (withSuffix base (bytes ".dat")))
  | .opened _ false => none
  | .wroteFrame _ _ _ => some (.wrote transfer.image transfer.taken transfer.sent)
  | .closed _ succeeded => some (.closed succeeded transfer.flushed)
  | .rendered _ _ _ _ _ => none

/-- The file events since an earlier moment, in their order. -/
def World.eventsSince (world earlier : World) : List FileEvent :=
  (world.files.take (world.files.length - earlier.files.length)).reverse

/-- The library calls since an earlier moment, in their order. -/
def World.callsSince (world earlier : World) : List Call :=
  (world.library.calls.take (world.library.calls.length - earlier.library.calls.length)).reverse

/-- What happens next, with what is written. -/
structure FilesLabel where
  /-- What happens next. -/
  action : RpcLabel
  /-- What is written. -/
  transfer : Transfer := {}

/-- The frame of a step is written completely if the stream takes all of it. -/
def FilesLabel.rpc (label : FilesLabel) : RpcLabel :=
  match label.action with
  | .request thread client line => .request thread client line
  | .close thread client => .close thread client
  | .step thread answers => .step thread { answers with written := label.transfer.complete }
  | .leave thread => .leave thread

/-- The requests and the files. -/
structure FilesState where
  /-- The sessions, the world and the threads. -/
  rpc : RpcState := {}
  /-- The files and the streams of the threads. -/
  disk : Disk ThreadId Bytes UInt8 := {}

/-- What a step does to the stream of its thread. -/
def FilesLabel.operations (label : FilesLabel) (before after : World) :
    List (Operation Bytes UInt8) :=
  (after.eventsSince before).filterMap (FileEvent.operation label.transfer)

/-- The requests of all clients with what they write; a gap in a file reads as zeros. -/
def filesMachine (auth : AuthDb) : Machine FilesState FilesLabel where
  step state label :=
    ((rpcMachine auth).step state.rpc label.rpc).map fun next =>
      { rpc := next
        disk := state.disk.performAll 0 label.action.thread
          (label.operations state.rpc.world next.world) }

section Steps

variable {auth : AuthDb} {state next : FilesState} {label : FilesLabel}

/-- A step with files is a step of the requests whose file events are performed. -/
theorem filesMachine_step :
    (filesMachine auth).step state label = some next ↔
      (rpcMachine auth).step state.rpc label.rpc = some next.rpc ∧
        next.disk = state.disk.performAll 0 label.action.thread
          (label.operations state.rpc.world next.rpc.world) := by
  simp only [filesMachine, Option.map_eq_some_iff]
  constructor
  · rintro ⟨after, step, rfl⟩
    exact ⟨step, rfl⟩
  · rintro ⟨step, disk⟩
    exact ⟨next.rpc, step, by rw [← disk]⟩

/-- Files never hold up the requests. -/
theorem filesMachine_possible {after : RpcState}
    (step : (rpcMachine auth).step state.rpc label.rpc = some after) :
    ∃ next, (filesMachine auth).step state label = some next := by
  simp only [filesMachine, step, Option.map_some]
  exact ⟨_, rfl⟩

/-- What is reached with files is reached by the requests. -/
theorem filesMachine_reachable (reached : (filesMachine auth).Reachable {} state) :
    (rpcMachine auth).Reachable {} state.rpc := by
  have onward : ∀ state label next, (rpcMachine auth).Reachable {} (FilesState.rpc state) →
      (filesMachine auth).step state label = some next →
      (rpcMachine auth).Reachable {} next.rpc :=
    fun _ _ _ before step => before.next (filesMachine_step.mp step).1
  exact (reached.invariant onward (Machine.Reachable.refl _) :)

/-- A label is about the same thread with what is written and without. -/
theorem FilesLabel.rpc_thread (label : FilesLabel) : label.rpc.thread = label.action.thread := by
  obtain ⟨action, transfer⟩ := label
  cases action <;> rfl

/-- Events that were added to the log are the events since. -/
theorem eventsSince_of_added {world earlier : World} (added : List FileEvent)
    (files : world.files = added ++ earlier.files) :
    world.eventsSince earlier = added.reverse := by
  rw [World.eventsSince, files, List.length_append, Nat.add_sub_cancel, List.take_left]

/-- Calls that were added to the log are the calls since. -/
theorem callsSince_of_added {world earlier : World} (added : List Call)
    (calls : world.library.calls = added ++ earlier.library.calls) :
    world.callsSince earlier = added.reverse := by
  rw [World.callsSince, calls, List.length_append, Nat.add_sub_cancel, List.take_left]

end Steps

end AnimateService
