import AnimateService.Library.Descriptors
import AnimateService.Library.Machine
import AnimateService.Output
import AnimateService.Pool

/-!
# Where responses go

The descriptors of the clients' FIFOs, by the numbers that the kernel gives them, with the workers
inside `send_ordered_response` and the main loop inside `close_client` and `accept_client`. A worker
keeps the client's `output_mutex` from its test to its last write; the main loop does not take it, so
a number that a worker is writing to can be closed, and given to the FIFO of another client.
-/
namespace AnimateService

open Descriptors Reorder Transition

/-- An open file of the server. -/
inductive OpenFile where
  /-- The reading end of a client's `FIFO_C2S`. -/
  | readEnd (client : ClientId)
  /-- The writing end of a client's `FIFO_S2C`. -/
  | writeEnd (client : ClientId)
  /-- Something else. -/
  | other
  deriving DecidableEq, Repr

/-- Where a worker is in `send_ordered_response`. -/
inductive SendPlace where
  /-- Before it locks the mutex. -/
  | entering
  /-- In its loop, at the test of the slot that is next. -/
  | looping
  /-- In `write_all`, with the descriptor that it was given and the bytes that are left. -/
  | writing (descriptor : Option Nat) (text : Bytes)
  deriving DecidableEq, Repr

/-- A call of `send_ordered_response`. -/
structure Sending where
  /-- The request that is answered. -/
  request : Request
  /-- The response. -/
  text : Bytes
  /-- Where the worker is. -/
  place : SendPlace := .entering
  deriving DecidableEq, Repr

/-- Where the main loop is in `close_client`. -/
inductive ClosingStage where
  /-- Behind the test of `disconnected`. -/
  | flag
  /-- At the close of `fifo_c2s_fd`. -/
  | closeRead
  /-- At the write of -1 to it. -/
  | clearRead
  /-- At the close of `fifo_s2c_fd`. -/
  | closeWrite
  /-- At the write of -1 to it. -/
  | clearWrite
  deriving DecidableEq, Repr

/-- Where the main loop is. -/
inductive AcceptPlace where
  /-- In neither function. -/
  | idle
  /-- In `close_client`. -/
  | closing (client : ClientId) (stage : ClosingStage)
  /-- In `accept_client`, where the FIFOs have been made. -/
  | accepting (client : ClientId)
  /-- It has opened `c2s_fd`. -/
  | readOpened (client : ClientId) (c2s : Nat)
  /-- It has opened `s2c_fd` as well. -/
  | bothOpened (client : ClientId) (c2s s2c : Nat)
  deriving DecidableEq, Repr

/-- A write call that transferred bytes of a response: a record of the run. -/
structure Delivery where
  /-- The client that submitted the request. -/
  client : ClientId
  /-- The client for which the FIFO was opened that the bytes went to. -/
  fifo : ClientId
  /-- The bytes. -/
  written : Bytes
  deriving DecidableEq, Repr

/-- The descriptors and those who use them. -/
structure DeliveryState where
  /-- The open files. -/
  table : Table OpenFile
  /-- The fields that `send_ordered_response` uses of each client that was accepted. -/
  outputs : ClientId → Option Output := fun _ => none
  /-- `fifo_c2s_fd` of each client; `none` is -1. -/
  fifoC2s : ClientId → Option Nat := fun _ => none
  /-- The worker that has a client's `output_mutex`. -/
  holder : ClientId → Option ThreadId := fun _ => none
  /-- What each worker is sending. -/
  sending : ThreadId → Option Sending := fun _ => none
  /-- Where the main loop is. -/
  main : AcceptPlace := .idle
  /-- The process has not been ended by a signal. -/
  alive : Bool := true
  /-- The writes. -/
  deliveries : List Delivery := []

/-- What happens next. -/
inductive DeliveryLabel where
  /-- A worker calls `send_ordered_response`. -/
  | send (worker : ThreadId) (request : Request) (text : Bytes)
  /-- It locks the mutex, and tests whether the response is to be sent. -/
  | lock (worker : ThreadId)
  /-- It tests the slot that is next. -/
  | next (worker : ThreadId)
  /-- A `write` in `write_all`, with the kernel's answer. -/
  | write (worker : ThreadId) (result : WriteResult)
  /-- The main loop calls `close_client`. -/
  | close (client : ClientId)
  /-- The next step of `close_client`. -/
  | closeStep
  /-- The main loop calls `accept_client`, and the FIFOs are made. -/
  | accept (client : ClientId)
  /-- `c2s_fd` is opened, or cannot be. -/
  | openRead (opened : Bool)
  /-- `s2c_fd` is opened, or cannot be. -/
  | openWrite (opened : Bool)
  /-- The client is registered, or something fails and both are closed. -/
  | register (done : Bool)
  deriving DecidableEq, Repr

namespace DeliveryState

/-- A write to a client's fields. -/
def setOutput (state : DeliveryState) (client : ClientId) (output : Output) : DeliveryState :=
  { state with outputs := Function.update state.outputs client (some output) }

/-- A worker goes on elsewhere in its call. -/
def setPlace (state : DeliveryState) (worker : ThreadId) (sending : Sending) (place : SendPlace) :
    DeliveryState :=
  { state with sending := Function.update state.sending worker (some { sending with place }) }

/-- A worker unlocks the mutex and returns. -/
def unlock (state : DeliveryState) (worker : ThreadId) (client : ClientId) : DeliveryState :=
  { state with
    holder := Function.update state.holder client none
    sending := Function.update state.sending worker none }

/-- A write call has transferred bytes. -/
def record (state : DeliveryState) (delivery : Delivery) : DeliveryState :=
  { state with deliveries := state.deliveries ++ [delivery] }

/-- A worker has bytes left to write, or is done with the response that is next. -/
def proceed (state : DeliveryState) (worker : ThreadId) (sending : Sending) (output : Output)
    (descriptor : Option Nat) (text : Bytes) : DeliveryState :=
  if text = [] then
    (state.setOutput sending.request.client output.advance).setPlace worker sending .looping
  else state.setPlace worker sending (.writing descriptor text)

/-- `write_all` has returned -1. -/
def fail (state : DeliveryState) (worker : ThreadId) (sending : Sending) (output : Output) :
    DeliveryState :=
  (state.setOutput sending.request.client
    { output.freeResponse (slot output.responsesSent) with disconnected := true }).unlock worker
      sending.request.client

/-- The step of a worker that locks the mutex. -/
def lock (state : DeliveryState) (worker : ThreadId) (sending : Sending) (output : Output) :
    DeliveryState :=
  if output.discards sending.request.seqNum then
    { state with sending := Function.update state.sending worker none }
  else
    { (state.setOutput sending.request.client
        (output.store sending.request.seqNum sending.text)).setPlace worker sending .looping with
      holder := Function.update state.holder sending.request.client (some worker) }

/-- The test of the slot that is next, and the call of `write_all` if it is ready. -/
def next (state : DeliveryState) (worker : ThreadId) (sending : Sending) (output : Output) :
    DeliveryState :=
  match output.front with
  | some text => state.proceed worker sending output output.fifoS2c text
  | none => state.unlock worker sending.request.client

/-- A `write` call in `write_all`. Bytes are taken only by a descriptor that is open for writing. -/
def write (deadly : Bool) (state : DeliveryState) (worker : ThreadId) (sending : Sending)
    (output : Output) (descriptor : Option Nat) (text : Bytes) :
    WriteResult → Option DeliveryState
  | .wrote count =>
    match descriptor.bind (fileAt state.table) with
    | some (.writeEnd fifo) =>
      if text.length < count then none
      else if count = 0 then some (state.fail worker sending output)
      else
        some ((state.record ⟨sending.request.client, fifo, text.take count⟩).proceed worker sending
          output descriptor (text.drop count))
    | _ => none
  | .interrupted => some state
  | .refused => some (state.fail worker sending output)
  | .noReader =>
    some (if deadly then { state with alive := false } else state.fail worker sending output)

/-- The next step of `close_client`, where `rpc_client_disconnected`, `threadpool_remove_client` and
`unlink_fifos` leave the descriptors alone. -/
def closeStep (state : DeliveryState) (client : ClientId) (output : Output) :
    ClosingStage → DeliveryState
  | .flag =>
    { state.setOutput client { output with disconnected := true } with
      main := .closing client .closeRead }
  | .closeRead =>
    match state.fifoC2s client with
    | some number =>
      { state with
        table := closeFile state.table number
        main := .closing client .clearRead }
    | none => { state with main := .closing client .closeWrite }
  | .clearRead =>
    { state with
      fifoC2s := Function.update state.fifoC2s client none
      main := .closing client .closeWrite }
  | .closeWrite =>
    match output.fifoS2c with
    | some number =>
      { state with
        table := closeFile state.table number
        main := .closing client .clearWrite }
    | none => { state with main := .idle }
  | .clearWrite => { state.setOutput client { output with fifoS2c := none } with main := .idle }

end DeliveryState

/-- The workers and the main loop as a machine. The default action of `SIGPIPE` is `deadly`. -/
def deliveryMachine (deadly : Bool) : Machine DeliveryState DeliveryLabel where
  step state label :=
    if state.alive then
      match label with
      | .send worker request text =>
        match state.sending worker, state.outputs request.client with
        | none, some _ =>
          some { state with
            sending := Function.update state.sending worker (some { request, text }) }
        | _, _ => none
      | .lock worker =>
        (state.sending worker).bind fun sending =>
          match sending.place, state.holder sending.request.client with
          | .entering, none =>
            (state.outputs sending.request.client).map (state.lock worker sending)
          | _, _ => none
      | .next worker =>
        (state.sending worker).bind fun sending =>
          match sending.place with
          | .looping => (state.outputs sending.request.client).map (state.next worker sending)
          | _ => none
      | .write worker result =>
        (state.sending worker).bind fun sending =>
          match sending.place with
          | .writing descriptor text =>
            (state.outputs sending.request.client).bind fun output =>
              state.write deadly worker sending output descriptor text result
          | _ => none
      | .close client =>
        match state.main, state.outputs client with
        | .idle, some output =>
          some (if output.disconnected then state
            else { state with main := .closing client .flag })
        | _, _ => none
      | .closeStep =>
        match state.main with
        | .closing client stage =>
          (state.outputs client).map fun output => state.closeStep client output stage
        | _ => none
      | .accept client =>
        match state.main, state.outputs client with
        | .idle, none => some { state with main := .accepting client }
        | _, _ => none
      | .openRead opened =>
        match state.main with
        | .accepting client =>
          some (if opened then
            { state with
              table := openFile state.table (.readEnd client)
              main := .readOpened client (lowestFree state.table) }
          else { state with main := .idle })
        | _ => none
      | .openWrite opened =>
        match state.main with
        | .readOpened client c2s =>
          some (if opened then
            { state with
              table := openFile state.table (.writeEnd client)
              main := .bothOpened client c2s (lowestFree state.table) }
          else { state with table := closeFile state.table c2s, main := .idle })
        | _ => none
      | .register done =>
        match state.main with
        | .bothOpened client c2s s2c =>
          some (if done then
            { state with
              outputs := Function.update state.outputs client (some { fifoS2c := some s2c })
              fifoC2s := Function.update state.fifoC2s client (some c2s)
              main := .idle }
          else
            { state with
              table := closeFile (closeFile state.table c2s) s2c
              main := .idle })
        | _ => none
    else none

/-- The server before it accepts clients, with other files open under some numbers. -/
def DeliveryState.start (opened : List Bool) : DeliveryState where
  table := opened.map fun taken => if taken then some .other else none

/-- Every write of a byte of a response reached the FIFO that was opened for the client that
submitted the request. -/
def DeliveryState.OwnFifo (state : DeliveryState) : Prop :=
  ∀ delivery ∈ state.deliveries, delivery.fifo = delivery.client

/-- A FIFO is not opened for writing under a number that a worker has been given in `write_all` and
has bytes left for. -/
def DeliveryState.Unused (state : DeliveryState) : DeliveryLabel → Prop
  | .openWrite true => ∀ worker sending text, state.sending worker = some sending →
      sending.place ≠ .writing (some (lowestFree state.table)) text
  | _ => True

/-! ## What holds at all times -/

/-- What the place of the main loop says about the client that it is at. -/
def DeliveryState.MainKnows (state : DeliveryState) : AcceptPlace → Prop
  | .idle => True
  | .closing client _ => (state.outputs client).isSome = true
  | .accepting client => state.outputs client = none
  | .readOpened client c2s =>
    state.outputs client = none ∧ fileAt state.table c2s = some (.readEnd client)
  | .bothOpened client c2s s2c =>
    state.outputs client = none ∧ fileAt state.table c2s = some (.readEnd client) ∧
      fileAt state.table s2c = some (.writeEnd client)

/-- A number is not that of the FIFO of another client. -/
def DeliveryState.NotOthers (state : DeliveryState) (client : ClientId) (number : Nat) : Prop :=
  ∀ other, fileAt state.table number = some (.writeEnd other) → other = client

/-- The numbers in the fields of clients, in the main loop and in the hands of workers are right. -/
structure DeliveryState.Sound (state : DeliveryState) : Prop where
  /-- `fifo_s2c_fd` is the client's FIFO, or closed where the main loop is about to clear it. -/
  fifoS2c : ∀ client output number, state.outputs client = some output →
    output.fifoS2c = some number → fileAt state.table number = some (.writeEnd client) ∨
      state.main = .closing client .clearWrite ∧ fileAt state.table number = none
  /-- So is `fifo_c2s_fd`. -/
  fifoC2s : ∀ client number, state.fifoC2s client = some number →
    fileAt state.table number = some (.readEnd client) ∨ state.main = .closing client .clearRead
  /-- A client that was not accepted has no fields. -/
  unknown : ∀ client, state.outputs client = none → state.fifoC2s client = none
  /-- The main loop knows its client. -/
  main : state.MainKnows state.main
  /-- A worker answers a request of a client that was accepted. -/
  known : ∀ worker sending, state.sending worker = some sending →
    (state.outputs sending.request.client).isSome = true
  /-- A worker in `write_all` has bytes left, and no other client's FIFO. -/
  writing : ∀ worker sending descriptor text, state.sending worker = some sending →
    sending.place = .writing descriptor text → text ≠ [] ∧
      ∀ number ∈ descriptor, state.NotOthers sending.request.client number
  /-- What was written went where it should. -/
  own : state.OwnFifo

/-- The numbers are right at the start. -/
theorem sound_start (opened : List Bool) : (DeliveryState.start opened).Sound := by
  constructor
  case main => trivial
  all_goals simp [DeliveryState.start, DeliveryState.OwnFifo]

variable {deadly : Bool} {state next : DeliveryState} {label : DeliveryLabel}

/-- A step of a worker: the files, the main loop and the numbers in the clients' fields stay. -/
structure SameFiles (state next : DeliveryState) : Prop where
  /-- The open files. -/
  table : next.table = state.table
  /-- The main loop. -/
  main : next.main = state.main
  /-- `fifo_c2s_fd`. -/
  fifoC2s : next.fifoC2s = state.fifoC2s
  /-- `fifo_s2c_fd`. -/
  fifoS2c : ∀ client,
    (next.outputs client).map Output.fifoS2c = (state.outputs client).map Output.fifoS2c

/-- A write to the fields of a client that keeps the number. -/
theorem SameFiles.setOutput {client : ClientId} {output after : Output}
    (found : state.outputs client = some output) (kept : after.fifoS2c = output.fifoS2c) :
    SameFiles state (state.setOutput client after) := by
  refine ⟨rfl, rfl, rfl, fun other => ?_⟩
  by_cases same : other = client
  · subst same
    simp [DeliveryState.setOutput, found, kept]
  · simp [DeliveryState.setOutput, Function.update_of_ne same]

/-- A step of a worker keeps the numbers right if it leaves the worker at a right one. -/
theorem DeliveryState.Sound.work (sound : state.Sound) (same : SameFiles state next)
    (moved : ∀ worker sending, next.sending worker = some sending →
      state.sending worker = some sending ∨
        (state.outputs sending.request.client).isSome = true ∧
          ∀ descriptor text, sending.place = .writing descriptor text → text ≠ [] ∧
            ∀ number ∈ descriptor, state.NotOthers sending.request.client number)
    (own : next.OwnFifo) : next.Sound := by
  obtain ⟨table, main, fifoC2s, fifoS2c⟩ := same
  have there : ∀ client, (next.outputs client).isSome = (state.outputs client).isSome := by
    intro client
    have mapped := congrArg Option.isSome (fifoS2c client)
    simpa using mapped
  have missing : ∀ client, state.outputs client = none → next.outputs client = none := by
    intro client none
    rw [← Option.isNone_iff_eq_none, ← Option.not_isSome, there, none]
    rfl
  refine ⟨?_, ?_, ?_, ?_, ?_, ?_, own⟩
  · intro client output number found field
    rw [table, main]
    have mapped := fifoS2c client
    rw [found, Option.map_some, field] at mapped
    obtain ⟨before, old, kept⟩ := Option.map_eq_some_iff.mp mapped.symm
    exact sound.fifoS2c client before number old kept
  · rw [table, main, fifoC2s]
    exact sound.fifoC2s
  · intro client none
    rw [fifoC2s]
    refine sound.unknown client ?_
    rw [← Option.isNone_iff_eq_none, ← Option.not_isSome, ← there, none]
    rfl
  · have knows := sound.main
    rw [main]
    cases place : state.main with
    | idle => trivial
    | closing client stage =>
      rw [place] at knows
      exact (there client).trans knows
    | accepting client =>
      rw [place] at knows
      exact missing client knows
    | readOpened client c2s =>
      rw [place] at knows
      exact ⟨missing client knows.1, table ▸ knows.2⟩
    | bothOpened client c2s s2c =>
      rw [place] at knows
      exact ⟨missing client knows.1, table ▸ knows.2⟩
  · intro worker sending found
    rw [there]
    rcases moved worker sending found with old | ⟨known, -⟩
    · exact sound.known worker sending old
    · exact known
  · intro worker sending descriptor text found place
    unfold DeliveryState.NotOthers
    rw [table]
    rcases moved worker sending found with old | ⟨-, right⟩
    · exact sound.writing worker sending descriptor text old place
    · exact right descriptor text place

/-! ## Steps of workers -/

variable {worker : ThreadId} {sending : Sending} {output : Output}

/-- A worker goes on elsewhere, where it has no other client's FIFO. -/
theorem DeliveryState.Sound.setPlace (sound : state.Sound)
    (there : state.sending worker = some sending) {place : SendPlace}
    (right : ∀ descriptor text, place = .writing descriptor text → text ≠ [] ∧
      ∀ number ∈ descriptor, state.NotOthers sending.request.client number) :
    (state.setPlace worker sending place).Sound := by
  refine sound.work ⟨rfl, rfl, rfl, fun _ => rfl⟩ (fun other found inside => ?_) sound.own
  by_cases same : other = worker
  · subst same
    obtain rfl : { sending with place } = found := by
      simpa [DeliveryState.setPlace] using inside
    exact .inr ⟨sound.known other sending there, right⟩
  · exact .inl (by simpa [DeliveryState.setPlace, Function.update_of_ne same] using inside)

/-- A client's fields are written, other than its numbers. -/
theorem DeliveryState.Sound.setOutput (sound : state.Sound) {client : ClientId} {after : Output}
    (found : state.outputs client = some output) (kept : after.fifoS2c = output.fifoS2c) :
    (state.setOutput client after).Sound :=
  sound.work (.setOutput found kept) (fun _ _ inside => .inl inside) sound.own

/-- A worker goes on in `write_all` or behind it. -/
theorem DeliveryState.Sound.proceed (sound : state.Sound)
    (there : state.sending worker = some sending)
    (found : state.outputs sending.request.client = some output) {descriptor : Option Nat}
    (right : ∀ number ∈ descriptor, state.NotOthers sending.request.client number) (text : Bytes) :
    (state.proceed worker sending output descriptor text).Sound := by
  unfold DeliveryState.proceed
  split
  · refine (sound.setOutput found ?_).setPlace there ?_
    · rfl
    · intro descriptor text place
      cases place
  · rename_i left
    refine sound.setPlace there ?_
    intro descriptor text place
    cases place
    exact ⟨left, right⟩

/-- A worker unlocks the mutex. -/
theorem DeliveryState.Sound.unlock (sound : state.Sound) (worker : ThreadId) (client : ClientId) :
    (state.unlock worker client).Sound := by
  refine sound.work ⟨rfl, rfl, rfl, fun _ => rfl⟩ (fun other found inside => .inl ?_) sound.own
  rw [DeliveryState.unlock] at inside
  by_cases same : other = worker
  · subst same
    simp at inside
  · simpa [Function.update_of_ne same] using inside

/-- `write_all` fails. -/
theorem DeliveryState.Sound.fail (sound : state.Sound)
    (found : state.outputs sending.request.client = some output) :
    (state.fail worker sending output).Sound := by
  have kept : { output.freeResponse (slot output.responsesSent) with
      disconnected := true }.fifoS2c = output.fifoS2c := rfl
  exact (sound.setOutput found kept).unlock worker sending.request.client

/-- The test under the mutex keeps the numbers right. -/
theorem DeliveryState.Sound.lock (sound : state.Sound)
    (there : state.sending worker = some sending)
    (found : state.outputs sending.request.client = some output) :
    (state.lock worker sending output).Sound := by
  unfold DeliveryState.lock
  split
  · refine sound.work ⟨rfl, rfl, rfl, fun _ => rfl⟩ (fun other moved inside => .inl ?_) sound.own
    by_cases same : other = worker
    · subst same
      simp at inside
    · simpa [Function.update_of_ne same] using inside
  · have kept : (output.store sending.request.seqNum sending.text).fifoS2c = output.fifoS2c := rfl
    have moved : ((state.setOutput sending.request.client
        (output.store sending.request.seqNum sending.text)).setPlace worker sending
          .looping).Sound :=
      (sound.setOutput found kept).setPlace there fun _ _ place => by cases place
    exact moved.work ⟨rfl, rfl, rfl, fun _ => rfl⟩ (fun _ _ inside => .inl inside) moved.own

/-- The test of the slot that is next, and the read of `fifo_s2c_fd`, keep the numbers right. -/
theorem DeliveryState.Sound.goOn (sound : state.Sound)
    (there : state.sending worker = some sending)
    (found : state.outputs sending.request.client = some output) :
    (state.next worker sending output).Sound := by
  unfold DeliveryState.next
  split
  · refine sound.proceed there found (fun number field other open_ => ?_) _
    rcases sound.fifoS2c _ output number found field with own | ⟨-, closed⟩
    · rw [own] at open_
      cases open_
      rfl
    · rw [closed] at open_
      cases open_
  · exact sound.unlock worker _

/-- A write call keeps the numbers right, and reaches the client's own FIFO. -/
theorem DeliveryState.Sound.write (sound : state.Sound)
    (there : state.sending worker = some sending)
    (found : state.outputs sending.request.client = some output) {descriptor : Option Nat}
    {text : Bytes} (place : sending.place = .writing descriptor text) {result : WriteResult}
    (wrote : state.write deadly worker sending output descriptor text result = some next) :
    next.Sound := by
  have right := (sound.writing worker sending descriptor text there place).2
  cases result with
  | wrote count =>
    unfold DeliveryState.write at wrote
    dsimp only at wrote
    split at wrote
    · rename_i fifo target
      split at wrote
      · cases wrote
      · split at wrote
        · cases wrote
          exact sound.fail found
        · cases wrote
          obtain ⟨number, given, reached⟩ := Option.bind_eq_some_iff.mp target
          have recorded : (state.record ⟨sending.request.client, fifo, text.take count⟩).Sound := by
            refine sound.work ⟨rfl, rfl, rfl, fun _ => rfl⟩ (fun _ _ inside => .inl inside) ?_
            intro delivery inside
            rcases List.mem_append.mp inside with old | new
            · exact sound.own delivery old
            · rw [List.mem_singleton.mp new]
              exact right number given fifo reached
          exact recorded.proceed there found right _
    · cases wrote
  | interrupted =>
    cases wrote
    exact sound
  | refused =>
    cases wrote
    exact sound.fail found
  | noReader =>
    cases deadly with
    | true =>
      cases wrote
      exact sound.work ⟨rfl, rfl, rfl, fun _ => rfl⟩ (fun _ _ inside => .inl inside) sound.own
    | false =>
      cases wrote
      exact sound.fail found

/-! ## Steps of the main loop -/

/-- The main loop is not between a close and the write of -1. -/
def AcceptPlace.settled : AcceptPlace → Bool
  | .closing _ .clearRead | .closing _ .clearWrite => false
  | _ => true

/-- While the main loop is settled every number in a client's fields is open. -/
theorem DeliveryState.Sound.settled (sound : state.Sound) (settled : state.main.settled = true) :
    (∀ client output number, state.outputs client = some output → output.fifoS2c = some number →
        fileAt state.table number = some (.writeEnd client)) ∧
      ∀ client number, state.fifoC2s client = some number →
        fileAt state.table number = some (.readEnd client) := by
  constructor
  · intro client output number found field
    rcases sound.fifoS2c client output number found field with own | ⟨clearing, -⟩
    · exact own
    · rw [clearing] at settled
      cases settled
  · intro client number field
    rcases sound.fifoC2s client number field with own | clearing
    · exact own
    · rw [clearing] at settled
      cases settled

/-- The main loop goes on with other files open, where the files of accepted clients are kept and no
worker has the number of a FIFO that is new. -/
theorem DeliveryState.Sound.refile (sound : state.Sound) (settled : state.main.settled = true)
    {table : Table OpenFile} {main : AcceptPlace}
    (kept : ∀ number client, (state.outputs client).isSome = true →
      (fileAt state.table number = some (.writeEnd client) →
        fileAt table number = some (.writeEnd client)) ∧
      (fileAt state.table number = some (.readEnd client) →
        fileAt table number = some (.readEnd client)))
    (only : ∀ number client, fileAt table number = some (.writeEnd client) →
      fileAt state.table number = some (.writeEnd client) ∨
        ∀ worker sending text, state.sending worker = some sending →
          sending.place ≠ .writing (some number) text)
    (knows : { state with table }.MainKnows main) : { state with table, main }.Sound := by
  obtain ⟨s2c, c2s⟩ := sound.settled settled
  refine ⟨?_, ?_, sound.unknown, knows, sound.known, ?_, sound.own⟩
  · intro client output number found field
    exact .inl ((kept number client (by rw [found]; rfl)).1 (s2c client output number found field))
  · intro client number field
    have accepted : (state.outputs client).isSome = true := by
      by_contra missing
      have none := sound.unknown client (by simpa using missing)
      rw [none] at field
      cases field
    exact .inl ((kept number client accepted).2 (c2s client number field))
  · intro worker sending descriptor text found place
    obtain ⟨left, right⟩ := sound.writing worker sending descriptor text found place
    refine ⟨left, fun number given other reached => ?_⟩
    rcases only number other reached with old | unused
    · exact right number given other old
    · exact absurd (given ▸ place) (unused worker sending text found)

/-- The main loop goes on with the same files. -/
theorem DeliveryState.Sound.moveMain (sound : state.Sound) (settled : state.main.settled = true)
    {main : AcceptPlace} (knows : state.MainKnows main) : { state with main }.Sound :=
  sound.refile settled (fun _ _ _ => ⟨id, id⟩) (fun _ _ same => .inl same) knows

/-- A file is opened that no worker writes to. -/
theorem DeliveryState.Sound.open (sound : state.Sound) (settled : state.main.settled = true)
    {file : OpenFile} {main : AcceptPlace}
    (unused : ∀ client, file = .writeEnd client → ∀ worker sending text,
      state.sending worker = some sending →
        sending.place ≠ .writing (some (lowestFree state.table)) text)
    (knows : { state with table := openFile state.table file }.MainKnows main) :
    { state with table := openFile state.table file, main }.Sound := by
  have free := fileAt_lowestFree state.table
  refine sound.refile settled (fun number client _ => ?_) (fun number client reached => ?_) knows
  · simp only [fileAt_openFile]
    by_cases same : number = lowestFree state.table
    · rw [same, free]
      exact ⟨(nomatch ·), (nomatch ·)⟩
    · rw [if_neg same]
      exact ⟨id, id⟩
  · rw [fileAt_openFile] at reached
    split at reached
    · rename_i same
      rw [same]
      exact .inr (unused client (Option.some.inj reached))
    · exact .inl reached

/-- A file of a client that was not accepted is closed. -/
theorem DeliveryState.Sound.shut (sound : state.Sound) (settled : state.main.settled = true)
    {number : Nat} {client : ClientId} (missing : state.outputs client = none)
    (own : fileAt state.table number = some (.readEnd client) ∨
      fileAt state.table number = some (.writeEnd client)) {main : AcceptPlace}
    (knows : { state with table := closeFile state.table number }.MainKnows main) :
    { state with table := closeFile state.table number, main }.Sound := by
  refine sound.refile settled (fun other accepted known => ?_) (fun other accepted reached => ?_)
    knows
  · have apart : accepted ≠ client := by
      rintro rfl
      rw [missing] at known
      cases known
    rw [fileAt_closeFile]
    by_cases same : other = number
    · subst same
      have others : fileAt state.table other ≠ some (.writeEnd accepted) ∧
          fileAt state.table other ≠ some (.readEnd accepted) := by
        rcases own with own | own <;> rw [own] <;> simp [Ne.symm apart]
      exact ⟨fun wrong => absurd wrong others.1, fun wrong => absurd wrong others.2⟩
    · rw [if_neg same]
      exact ⟨id, id⟩
  · rw [fileAt_closeFile] at reached
    split at reached
    · cases reached
    · exact .inl reached

/-- A client is registered with the two numbers that were opened for it. -/
theorem DeliveryState.Sound.enter (sound : state.Sound) (settled : state.main.settled = true)
    {client : ClientId} {c2s s2c : Nat} (missing : state.outputs client = none)
    (reading : fileAt state.table c2s = some (.readEnd client))
    (writing : fileAt state.table s2c = some (.writeEnd client)) :
    { state with
      outputs := Function.update state.outputs client (some { fifoS2c := some s2c })
      fifoC2s := Function.update state.fifoC2s client (some c2s)
      main := .idle }.Sound := by
  obtain ⟨oldS2c, oldC2s⟩ := sound.settled settled
  refine ⟨?_, ?_, ?_, trivial, ?_, sound.writing, sound.own⟩
  · intro other output number found field
    by_cases same : other = client
    · subst same
      simp only [Function.update_self, Option.some.injEq] at found
      subst found
      cases field
      exact .inl writing
    · simp only [Function.update_of_ne same] at found
      exact .inl (oldS2c other output number found field)
  · intro other number field
    by_cases same : other = client
    · subst same
      simp only [Function.update_self, Option.some.injEq] at field
      subst field
      exact .inl reading
    · simp only [Function.update_of_ne same] at field
      exact .inl (oldC2s other number field)
  · intro other none
    by_cases same : other = client
    · simp [same] at none
    · simp only [Function.update_of_ne same] at none ⊢
      exact sound.unknown other none
  · intro worker sending there
    have apart : sending.request.client ≠ client := by
      intro same
      have known := sound.known worker sending there
      rw [same, missing] at known
      cases known
    simp only [Function.update_of_ne apart]
    exact sound.known worker sending there

/-- What is open under another number than the one that is closed stays open. -/
theorem fileAt_closeFile_other {table : Table OpenFile} {number other : Nat}
    {file closed : OpenFile} (own : fileAt table number = some closed)
    (open_ : fileAt table other = some file) (apart : file ≠ closed) :
    fileAt (closeFile table number) other = some file := by
  refine (fileAt_closeFile ..).trans ((if_neg ?_).trans open_)
  rintro rfl
  exact apart (Option.some.inj (open_.symm.trans own))

/-- After a close the workers in `write_all` still have no other client's FIFO. -/
theorem DeliveryState.Sound.writing_closed (sound : state.Sound) (number : Nat) (worker : ThreadId)
    (sending : Sending) (descriptor : Option Nat) (text : Bytes)
    (moved : state.sending worker = some sending)
    (place : sending.place = .writing descriptor text) :
    text ≠ [] ∧ ∀ given ∈ descriptor, { state with table := closeFile state.table number }.NotOthers
      sending.request.client given := by
  obtain ⟨left, right⟩ := sound.writing worker sending descriptor text moved place
  refine ⟨left, fun given inside other reached => right given inside other ?_⟩
  rw [fileAt_closeFile] at reached
  split at reached
  · cases reached
  · exact reached

/-- The FIFO that the server reads from is closed. -/
theorem DeliveryState.Sound.closeRead (sound : state.Sound) {client : ClientId}
    (at_ : state.main = .closing client .closeRead) (found : state.outputs client = some output) :
    (state.closeStep client output .closeRead).Sound := by
  have known : (state.outputs client).isSome = true := by rw [found]; rfl
  have settled : state.main.settled = true := by rw [at_]; rfl
  obtain ⟨s2c, c2s⟩ := sound.settled settled
  unfold DeliveryState.closeStep
  dsimp only
  split
  · rename_i number field
    have own := c2s client number field
    refine ⟨?_, ?_, sound.unknown, known, sound.known, sound.writing_closed number, sound.own⟩
    · intro other after left there given
      exact .inl (fileAt_closeFile_other own (s2c other after left there given) (by simp))
    · intro other left given
      by_cases same : other = client
      · exact .inr (by rw [same])
      · exact .inl (fileAt_closeFile_other own (c2s other left given) (by simp [same]))
  · exact sound.moveMain settled known

/-- `fifo_c2s_fd` is cleared. -/
theorem DeliveryState.Sound.clearRead (sound : state.Sound) {client : ClientId}
    (at_ : state.main = .closing client .clearRead) (found : state.outputs client = some output) :
    (state.closeStep client output .clearRead).Sound := by
  have known : (state.outputs client).isSome = true := by rw [found]; rfl
  unfold DeliveryState.closeStep
  dsimp only
  refine ⟨?_, ?_, ?_, known, sound.known, sound.writing, sound.own⟩
  · intro other after number there given
    rcases sound.fifoS2c other after number there given with own | ⟨wrong, -⟩
    · exact .inl own
    · rw [at_] at wrong
      cases wrong
  · intro other number given
    by_cases same : other = client
    · simp [same] at given
    · simp only [Function.update_of_ne same] at given
      rcases sound.fifoC2s other number given with own | wrong
      · exact .inl own
      · rw [at_] at wrong
        cases wrong
        exact absurd rfl same
  · intro other missing
    by_cases same : other = client
    · simp [same]
    · exact (Function.update_of_ne same _ _).trans (sound.unknown other missing)

/-- The FIFO that the server writes to is closed. -/
theorem DeliveryState.Sound.closeWrite (sound : state.Sound) {client : ClientId}
    (at_ : state.main = .closing client .closeWrite) (found : state.outputs client = some output) :
    (state.closeStep client output .closeWrite).Sound := by
  have known : (state.outputs client).isSome = true := by rw [found]; rfl
  have settled : state.main.settled = true := by rw [at_]; rfl
  obtain ⟨s2c, c2s⟩ := sound.settled settled
  unfold DeliveryState.closeStep
  dsimp only
  split
  · rename_i number field
    have own := s2c client output number found field
    refine ⟨?_, ?_, sound.unknown, known, sound.known, sound.writing_closed number, sound.own⟩
    · intro other after left there given
      by_cases same : other = client
      · subst same
        rw [found] at there
        cases there
        rw [field] at given
        cases given
        exact .inr ⟨rfl, (fileAt_closeFile ..).trans (if_pos rfl)⟩
      · exact .inl (fileAt_closeFile_other own (s2c other after left there given) (by simp [same]))
    · intro other left given
      exact .inl (fileAt_closeFile_other own (c2s other left given) (by simp))
  · exact sound.moveMain settled trivial

/-- `fifo_s2c_fd` is cleared. -/
theorem DeliveryState.Sound.clearWrite (sound : state.Sound) {client : ClientId}
    (at_ : state.main = .closing client .clearWrite) :
    (state.closeStep client output .clearWrite).Sound := by
  unfold DeliveryState.closeStep
  dsimp only
  refine ⟨?_, ?_, ?_, trivial, ?_, sound.writing, sound.own⟩
  · intro other after number there given
    by_cases same : other = client
    · subst same
      simp only [DeliveryState.setOutput, Function.update_self, Option.some.injEq] at there
      subst there
      cases given
    · simp only [DeliveryState.setOutput, Function.update_of_ne same] at there
      rcases sound.fifoS2c other after number there given with own | ⟨wrong, -⟩
      · exact .inl own
      · rw [at_] at wrong
        cases wrong
        exact absurd rfl same
  · intro other number given
    rcases sound.fifoC2s other number given with own | wrong
    · exact .inl own
    · rw [at_] at wrong
      cases wrong
  · intro other missing
    by_cases same : other = client
    · simp [DeliveryState.setOutput, same] at missing
    · simp only [DeliveryState.setOutput, Function.update_of_ne same] at missing
      exact sound.unknown other missing
  · intro worker sending moved
    by_cases same : sending.request.client = client
    · simp [DeliveryState.setOutput, same]
    · simp only [DeliveryState.setOutput, Function.update_of_ne same]
      exact sound.known worker sending moved

/-- Each step of `close_client` keeps the numbers right. -/
theorem DeliveryState.Sound.closeStep (sound : state.Sound) {client : ClientId}
    {stage : ClosingStage} (at_ : state.main = .closing client stage)
    (found : state.outputs client = some output) : (state.closeStep client output stage).Sound := by
  cases stage with
  | flag =>
    have settled : state.main.settled = true := by rw [at_]; rfl
    have kept : { output with disconnected := true }.fifoS2c = output.fifoS2c := rfl
    refine (sound.setOutput found kept).moveMain settled ?_
    simp [DeliveryState.MainKnows, DeliveryState.setOutput]
  | closeRead => exact sound.closeRead at_ found
  | clearRead => exact sound.clearRead at_ found
  | closeWrite => exact sound.closeWrite at_ found
  | clearWrite => exact sound.clearWrite at_

/-- `accept_client` keeps the numbers right as long as the FIFO that it opens for writing gets a
number that is unused. -/
theorem DeliveryState.Sound.accept (sound : state.Sound) (guarded : state.Unused label)
    (kind : (∃ client, label = .accept client) ∨ (∃ opened, label = .openRead opened) ∨
      (∃ opened, label = .openWrite opened) ∨ ∃ done, label = .register done)
    (stepped : (deliveryMachine deadly).step state label = some next) : next.Sound := by
  have stepped := (Option.ite_none_right_eq_some.mp stepped).2
  have knows := sound.main
  have free := fileAt_lowestFree state.table
  rcases kind with ⟨client, rfl⟩ | ⟨opened, rfl⟩ | ⟨opened, rfl⟩ | ⟨done, rfl⟩
  · dsimp only at stepped
    split at stepped
    · rename_i place missing
      cases stepped
      exact sound.moveMain (by rw [place]; rfl) missing
    · cases stepped
  · dsimp only at stepped
    split at stepped
    · rename_i client place
      have settled : state.main.settled = true := by rw [place]; rfl
      rw [place] at knows
      cases opened with
      | true =>
        cases stepped
        refine sound.open settled (fun _ wrong => nomatch wrong) ⟨knows, ?_⟩
        exact (fileAt_openFile ..).trans (if_pos rfl)
      | false =>
        cases stepped
        exact sound.moveMain settled trivial
    · cases stepped
  · dsimp only at stepped
    split at stepped
    · rename_i client c2s place
      have settled : state.main.settled = true := by rw [place]; rfl
      rw [place] at knows
      obtain ⟨missing, reading⟩ := knows
      cases opened with
      | true =>
        cases stepped
        refine sound.open settled (fun _ _ => guarded) ⟨missing, ?_, ?_⟩
        · refine ((fileAt_openFile ..).trans (if_neg ?_)).trans reading
          rintro rfl
          rw [free] at reading
          cases reading
        · exact (fileAt_openFile ..).trans (if_pos rfl)
      | false =>
        cases stepped
        exact sound.shut settled missing (.inl reading) trivial
    · cases stepped
  · dsimp only at stepped
    split at stepped
    · rename_i client c2s s2c place
      have settled : state.main.settled = true := by rw [place]; rfl
      rw [place] at knows
      obtain ⟨missing, reading, writing⟩ := knows
      cases done with
      | true =>
        cases stepped
        exact sound.enter settled missing reading writing
      | false =>
        cases stepped
        have closed : { state with
            table := closeFile state.table c2s, main := .idle }.Sound :=
          sound.shut settled missing (.inl reading) trivial
        refine closed.shut rfl missing (.inr ?_) trivial
        refine ((fileAt_closeFile ..).trans (if_neg ?_)).trans writing
        rintro rfl
        rw [writing] at reading
        cases reading
    · cases stepped

/-- Every step keeps the numbers right, as long as a FIFO that is opened for writing gets a number
that is unused. -/
theorem DeliveryState.Sound.step (sound : state.Sound) (guarded : state.Unused label)
    (stepped : (deliveryMachine deadly).step state label = some next) : next.Sound := by
  have whole := stepped
  have stepped := (Option.ite_none_right_eq_some.mp stepped).2
  cases label with
  | send worker request text =>
    dsimp only at stepped
    split at stepped
    · rename_i output idle found
      cases stepped
      refine sound.work ⟨rfl, rfl, rfl, fun _ => rfl⟩ (fun other sending inside => ?_) sound.own
      by_cases same : other = worker
      · subst same
        obtain rfl : ({ request, text } : Sending) = sending := by simpa using inside
        exact .inr ⟨by rw [found]; rfl, fun _ _ place => by cases place⟩
      · exact .inl (by simpa [Function.update_of_ne same] using inside)
    · cases stepped
  | lock worker =>
    obtain ⟨sending, there, stepped⟩ := Option.bind_eq_some_iff.mp stepped
    split at stepped
    · obtain ⟨output, found, rfl⟩ := Option.map_eq_some_iff.mp stepped
      exact sound.lock there found
    · cases stepped
  | next worker =>
    obtain ⟨sending, there, stepped⟩ := Option.bind_eq_some_iff.mp stepped
    split at stepped
    · obtain ⟨output, found, rfl⟩ := Option.map_eq_some_iff.mp stepped
      exact sound.goOn there found
    · cases stepped
  | write worker result =>
    obtain ⟨sending, there, stepped⟩ := Option.bind_eq_some_iff.mp stepped
    split at stepped
    · rename_i place
      obtain ⟨output, found, wrote⟩ := Option.bind_eq_some_iff.mp stepped
      exact sound.write there found place wrote
    · cases stepped
  | close client =>
    dsimp only at stepped
    split at stepped
    · rename_i output place found
      cases stepped
      split
      · exact sound
      · exact sound.moveMain (by rw [place]; rfl) (by
          change (state.outputs client).isSome = true
          rw [found]
          rfl)
    · cases stepped
  | closeStep =>
    dsimp only at stepped
    split at stepped
    · rename_i client stage place
      obtain ⟨output, found, rfl⟩ := Option.map_eq_some_iff.mp stepped
      exact sound.closeStep place found
    · cases stepped
  | accept client => exact sound.accept guarded (.inl ⟨client, rfl⟩) whole
  | openRead opened => exact sound.accept guarded (.inr (.inl ⟨opened, rfl⟩)) whole
  | openWrite opened => exact sound.accept guarded (.inr (.inr (.inl ⟨opened, rfl⟩))) whole
  | register done => exact sound.accept guarded (.inr (.inr (.inr ⟨done, rfl⟩))) whole

/-! ## Runs -/

/-- A worker writes a byte to the FIFO that is open under its number. -/
theorem DeliveryState.write_byte (state : DeliveryState) (deadly : Bool) (worker : ThreadId)
    (sending : Sending) (output : Output) {number : Nat} {text : Bytes} {fifo : ClientId}
    (target : fileAt state.table number = some (.writeEnd fifo)) (left : text ≠ []) :
    state.write deadly worker sending output (some number) text (.wrote 1) =
      some ((state.record ⟨sending.request.client, fifo, text.take 1⟩).proceed worker sending
        output (some number) (text.drop 1)) := by
  have long : ¬ text.length < 1 := by
    have := List.length_pos_iff.mpr left
    omega
  simp only [DeliveryState.write, Option.bind_some, target, if_neg long, one_ne_zero, if_false]

/-- What is written stays in the record. -/
theorem DeliveryState.mem_proceed (state : DeliveryState) (worker : ThreadId) (sending : Sending)
    (output : Output) (descriptor : Option Nat) (text : Bytes) (delivery : Delivery) :
    delivery ∈ ((state.record delivery).proceed worker sending output descriptor text).deliveries := by
  unfold DeliveryState.proceed
  split <;> exact List.mem_append_right _ List.mem_cons_self

/-- A FIFO is opened under the number that a worker of another client writes to: its next byte goes
there. -/
theorem DeliveryState.Sound.misled (sound : state.Sound)
    (stepped : (deliveryMachine deadly).step state (.openWrite true) = some next)
    (used : ¬ state.Unused (.openWrite true)) :
    ∃ worker last, (deliveryMachine deadly).step next (.write worker (.wrote 1)) = some last ∧
      ¬ last.OwnFifo := by
  obtain ⟨alive, opened⟩ := Option.ite_none_right_eq_some.mp stepped
  simp only [DeliveryState.Unused, ne_eq, not_forall, not_not] at used
  obtain ⟨worker, sending, text, there, place⟩ := used
  split at opened
  · rename_i client c2s accepting
    cases opened
    have knows := sound.main
    rw [accepting] at knows
    obtain ⟨output, found⟩ := Option.isSome_iff_exists.mp (sound.known worker sending there)
    have apart : sending.request.client ≠ client := by
      intro same
      rw [same, knows.1] at found
      cases found
    have left : text ≠ [] := (sound.writing worker sending _ text there place).1
    have target : fileAt (openFile state.table (.writeEnd client)) (lowestFree state.table) =
        some (.writeEnd client) :=
      (fileAt_openFile ..).trans (if_pos rfl)
    let accepted : DeliveryState :=
      { state with
        table := openFile state.table (.writeEnd client)
        main := .bothOpened client c2s (lowestFree state.table) }
    have written := accepted.write_byte deadly worker sending output target left
    refine ⟨worker, _, ?_, fun own => apart (own ⟨sending.request.client, client, text.take 1⟩
      (accepted.mem_proceed worker sending output (some (lowestFree state.table)) (text.drop 1)
        _)).symm⟩
    change (if accepted.alive then (state.sending worker).bind _ else none) = _
    rw [if_pos (show accepted.alive = true from alive), there, Option.bind_some, place]
    change (state.outputs sending.request.client).bind _ = _
    rw [found]
    exact written
  · cases opened

/-- In every run in which no FIFO is opened for writing under a number that a worker has bytes left
for, every byte of a response goes to the client's own FIFO; and behind such a run, a FIFO that is
opened under such a number gets the worker's next byte. -/
theorem own_fifo_of_unused (deadly : Bool) (opened : List Bool) (labels : List DeliveryLabel)
    (unused : (deliveryMachine deadly).EveryStep DeliveryState.Unused (.start opened) labels) :
    (deliveryMachine deadly).Always DeliveryState.OwnFifo (.start opened) labels ∧
      ∀ state next, (deliveryMachine deadly).run (.start opened) labels = some state →
        (deliveryMachine deadly).step state (.openWrite true) = some next →
        ¬ state.Unused (.openWrite true) →
        ∃ worker last,
          (deliveryMachine deadly).step next (.write worker (.wrote 1)) = some last ∧
            ¬ last.OwnFifo := by
  have kept : ∀ state label next, DeliveryState.Sound state → state.Unused label →
      (deliveryMachine deadly).step state label = some next → next.Sound :=
    fun _ _ _ sound guarded stepped => sound.step guarded stepped
  have sound := Machine.always_of_guarded kept (sound_start opened) unused
  exact ⟨sound.imp fun _ known => known.own,
    fun _ _ ran stepped used => (sound.last ran).misled stepped used⟩

/-- A run in which a worker is in `write_all` for client 1 when the main loop closes that client and
goes on to accept client 2. -/
def handover : List DeliveryLabel :=
  [.accept 1, .openRead true, .openWrite true, .register true,
    .send 0 ⟨1, 0, [65]⟩ [79, 75, 10], .lock 0, .next 0,
    .close 1, .closeStep, .closeStep, .closeStep, .closeStep, .closeStep,
    .accept 2, .openRead true]

/-- The run above as far as it goes, where the next FIFO would get the number of the worker. -/
theorem own_fifo_of_unused_handover :
    (deliveryMachine false).Always DeliveryState.OwnFifo (.start [true, true, true]) handover ∧
      ∃ state next,
        (deliveryMachine false).run (.start [true, true, true]) handover = some state ∧
        (deliveryMachine false).step state (.openWrite true) = some next ∧
        ∃ worker last,
          (deliveryMachine false).step next (.write worker (.wrote 1)) = some last ∧
            ¬ last.OwnFifo := by
  have unused : (deliveryMachine false).EveryStep DeliveryState.Unused (.start [true, true, true])
      handover := by
    refine Machine.everyStep_cons rfl trivial (Machine.everyStep_cons rfl trivial
      (Machine.everyStep_cons rfl ?_ (Machine.everyStep_of_labels ?_)))
    · intro worker sending text there
      cases there
    · intro label inside state
      simp only [List.mem_cons, List.not_mem_nil, or_false] at inside
      rcases inside with rfl | rfl | rfl | rfl | rfl | rfl | rfl | rfl | rfl | rfl | rfl | rfl <;>
        trivial
  obtain ⟨own, misled⟩ := own_fifo_of_unused false [true, true, true] handover unused
  refine ⟨own, _, _, rfl, rfl, misled _ _ rfl rfl fun unused => ?_⟩
  exact unused 0 ⟨⟨1, 0, [65]⟩, [79, 75, 10], .writing (some 4) [79, 75, 10]⟩ [79, 75, 10] rfl rfl

/-- Client 2 gets the response to client 1. -/
theorem own_fifo_handover :
    ((deliveryMachine false).run (.start [true, true, true])
        (handover ++ [.openWrite true, .register true, .write 0 (.wrote 3)])).map
          DeliveryState.deliveries = some [⟨1, 2, [79, 75, 10]⟩] ∧
      ¬ ∀ deadly opened labels,
        (deliveryMachine deadly).Always DeliveryState.OwnFifo (.start opened) labels := by
  refine ⟨by decide, fun always => ?_⟩
  have own := (always false [true, true, true]
    (handover ++ [.openWrite true, .register true, .write 0 (.wrote 3)])).last rfl
  exact absurd (own ⟨1, 2, [79, 75, 10]⟩ (by decide)) (by decide)

end AnimateService
