import AnimateService.FrameFiles

/-!
# The frame loop of `generate`

`FrameLoop` is a run that brings a thread to the head of the frame loop and goes on from there, with
whatever the other threads do in between. A pass of the loop is one step of the thread: it looks the
canvas up again, renders and writes one frame, and goes on, ends, or leaves the loop because the
lookup or the write failed. What a run shows of the passes is their list in order.
-/
namespace AnimateService

open OutputStreams Transition

/-! ## Frame numbers -/

/-- How many frames a request asks for. -/
def GenerateJob.frames (job : GenerateJob) : Nat := job.last.toNat - job.first.toNat + 1

/-- The frame at a place in the order of the frames. -/
def GenerateJob.frameAt (job : GenerateJob) (index : Nat) : UInt64 :=
  job.first + UInt64.ofNat index

section Numbers

variable {job : GenerateJob} {index : Nat}

/-- The numbers of the requested frames do not wrap. -/
theorem frameAt_toNat (ordered : job.first ≤ job.last) (inside : index < job.frames) :
    (job.frameAt index).toNat = job.first.toNat + index := by
  have bound : job.last.toNat < 2 ^ 64 := job.last.toNat_lt
  have order : job.first.toNat ≤ job.last.toNat := UInt64.le_iff_toNat_le.mp ordered
  rw [GenerateJob.frames] at inside
  have small : index < 2 ^ 64 := by omega
  rw [GenerateJob.frameAt, UInt64.toNat_add, UInt64.toNat_ofNat', Nat.mod_eq_of_lt small,
    Nat.mod_eq_of_lt (by omega)]

/-- The loop goes on exactly while a requested frame is left; `SIZE_MAX` needs its own exit. -/
theorem goes_on_iff (ordered : job.first ≤ job.last) (inside : index < job.frames) :
    (job.frameAt index ≠ 0xffffffffffffffff ∧ job.frameAt index + 1 ≤ job.last) ↔
      index + 1 < job.frames := by
  have bound : job.last.toNat < 2 ^ 64 := job.last.toNat_lt
  have order : job.first.toNat ≤ job.last.toNat := UInt64.le_iff_toNat_le.mp ordered
  have number := frameAt_toNat ordered inside
  rw [GenerateJob.frames] at inside ⊢
  have greatest : job.frameAt index ≠ 0xffffffffffffffff ↔
      job.first.toNat + index ≠ 2 ^ 64 - 1 := by
    rw [← number, ne_eq, ← UInt64.toNat_inj]
    rfl
  rw [greatest, UInt64.le_iff_toNat_le, UInt64.toNat_add, number, UInt64.toNat_one]
  constructor
  · rintro ⟨below, more⟩
    rw [Nat.mod_eq_of_lt (by omega)] at more
    omega
  · intro more
    have below : job.first.toNat + index ≠ 2 ^ 64 - 1 := by omega
    rw [Nat.mod_eq_of_lt (by omega)]
    exact ⟨below, by omega⟩

/-- The frame after a frame is the next one. -/
theorem frameAt_succ : job.frameAt index + 1 = job.frameAt (index + 1) := by
  simp only [GenerateJob.frameAt, UInt64.ofNat_add, UInt64.add_assoc]
  rfl

end Numbers

/-! ## Passes of the loop -/

/-- What a run shows of one pass of the loop. -/
structure FramePass where
  /-- The name of the client's user. -/
  username : Bytes
  /-- The store in which the canvas is looked up. -/
  store : HandleStore
  /-- The library calls that are made. -/
  calls : List Call
  /-- What is written, and how. -/
  transfer : Transfer
  /-- `fclose` succeeds, if the pass comes to it. -/
  closed : Bool

/-- The lookup of the canvas fails. -/
def FramePass.Misses (job : GenerateJob) (pass : FramePass) : Prop :=
  canvasFor pass.store job.canvasId pass.username = none

/-- One frame is rendered, once, on the canvas that the handle of the request names at the time. -/
def FramePass.Renders (job : GenerateJob) (frame : UInt64) (pass : FramePass) : Prop :=
  ∃ record canvas, canvasFor pass.store job.canvasId pass.username = some record ∧
    canvasRecordPtr pass.store record = some canvas ∧
    pass.calls = [.generateFrame (some canvas) frame job.frameRate]

/-- What the stream takes of the frame. -/
def FramePass.part (job : GenerateJob) (pass : FramePass) : Bytes :=
  if canvasFor pass.store job.canvasId pass.username = none then []
  else pass.transfer.image.take pass.transfer.taken

/-- The step of a thread for a client, as a pass of the loop. -/
def framePasses (auth : AuthDb) (thread : ThreadId) (client : ClientId) (state : FilesState)
    (label : FilesLabel) : List FramePass :=
  match label.action with
  | .step other answers =>
    if other = thread then
      ((rpcMachine auth).step state.rpc label.rpc).toList.map fun next =>
        { username := (state.rpc.sessions client).username
          store := state.rpc.world.store
          calls := next.world.callsSince state.rpc.world
          transfer := label.transfer
          closed := answers.closed }
    else []
  | _ => []

/-- The request for frames that the rest of an operation serves. -/
def Resume.job? : Resume → Option GenerateJob
  | .generate _ job => some job
  | _ => none

/-- The request for frames that a command is. -/
def StoreCommand.job? : StoreCommand → Option GenerateJob
  | .generate job => some job
  | _ => none

/-- The request for frames that a thread serves. -/
def Pc.job? : Pc → Option GenerateJob
  | .locking command => command.job?
  | .canvasWait _ _ resume => resume.job?
  | .frame job _ => some job
  | _ => none

/-- How a pass ends: what it does to the file, and where the thread is then. -/
inductive PassEnds (job : GenerateJob) (frame : UInt64) (pass : FramePass) :
    List (Operation Bytes UInt8) → Pc → Prop where
  /-- The canvas is not found. -/
  | missing {response : Option Bytes} (misses : pass.Misses job) (silent : pass.calls = [])
      (replied : ∀ text, response = some text → text = responseCode rpcValue) :
    PassEnds job frame pass [.closed pass.closed pass.transfer.flushed] (.finished response)
  /-- The frame is not written completely. -/
  | short {response : Option Bytes} (renders : pass.Renders job frame)
      (torn : pass.transfer.complete = false)
      (replied : ∀ text, response = some text → text = responseGenerate (-1) 0) :
    PassEnds job frame pass
      [.wrote pass.transfer.image pass.transfer.taken pass.transfer.sent,
        .closed pass.closed pass.transfer.flushed] (.finished response)
  /-- The next frame comes. -/
  | more (renders : pass.Renders job frame) (whole : pass.transfer.complete = true)
      (left : frame ≠ 0xffffffffffffffff ∧ frame + 1 ≤ job.last) :
    PassEnds job frame pass [.wrote pass.transfer.image pass.transfer.taken pass.transfer.sent]
      (.frame job (frame + 1))
  /-- It was the last frame. -/
  | last {response : Option Bytes} (renders : pass.Renders job frame)
      (whole : pass.transfer.complete = true)
      (none_left : ¬ (frame ≠ 0xffffffffffffffff ∧ frame + 1 ≤ job.last)) :
    PassEnds job frame pass
      [.wrote pass.transfer.image pass.transfer.taken pass.transfer.sent,
        .closed pass.closed pass.transfer.flushed] (.finished response)

section Passes

variable {answers : Answers} {session : Session} {world : World} {job : GenerateJob}
  {frame : UInt64}

/-- A lookup does not change which library canvas a record is for. -/
theorem canvasRecordPtr_connect (store : HandleStore) (record other : CanvasPtr) (name : Bytes) :
    canvasRecordPtr (store.updateCanvas record fun canvas => canvas.connect name) other =
      canvasRecordPtr store other := by
  simp only [canvasRecordPtr, canvases_updateCanvas]
  split
  · cases store.canvases[other]? with
    | none => rfl
    | some canvas => exact (connect_object canvas name).1
  · rfl

/-- A pass in which the canvas is found renders one frame of it. -/
theorem generateFrame_calls {record : CanvasPtr}
    (found : canvasFor world.store job.canvasId session.username = some record) :
    (generateFrame answers session world job frame).1.library.calls =
      [.generateFrame (canvasRecordPtr world.store record) frame job.frameRate] ++
        world.library.calls := by
  rw [← canvasRecordPtr_connect world.store record record session.username]
  simp only [generateFrame, handlesGetCanvas_some found, finishGenerate]
  split
  · split
    · rfl
    · split <;> rfl
  · rfl

/-- A reply has the text that it is asked for, if any. -/
theorem reply_finished (answers : Answers) (text : Bytes) :
    ∃ response, answers.reply text = .finished response ∧
      ∀ given, response = some given → given = text := by
  refine ⟨_, rfl, fun given same => ?_⟩
  split at same
  · exact (Option.some.inj same).symm
  · cases same

/-- What `finishGenerate` does to the stream is the close. -/
theorem finishGenerate_ends (answers : Answers) (world : World) (record : CanvasPtr)
    (job : GenerateJob) : ∃ response tail, (finishGenerate answers world record job).2 =
        .finished response ∧
      (finishGenerate answers world record job).1.files =
        tail ++ .closed job.base answers.closed :: world.files ∧
      ∀ transfer, tail.filterMap (FileEvent.operation transfer) = [] := by
  unfold finishGenerate
  dsimp only
  split
  · exact ⟨_, [_], rfl, rfl, fun _ => rfl⟩
  · exact ⟨_, [], rfl, rfl, fun _ => rfl⟩

/-- Every pass ends in one of the four ways. -/
theorem generateFrame_ends (transfer : Transfer) (written : answers.written = transfer.complete) :
    PassEnds job frame
      { username := session.username
        store := world.store
        calls := (generateFrame answers session world job frame).1.callsSince world
        transfer
        closed := answers.closed }
      (((generateFrame answers session world job frame).1.eventsSince world).filterMap
        (FileEvent.operation transfer))
      (generateFrame answers session world job frame).2 := by
  cases found : canvasFor world.store job.canvasId session.username with
  | none =>
    have pass : generateFrame answers session world job frame =
        ({ world with files := .closed job.base answers.closed :: world.files },
          answers.reply (responseCode rpcValue)) := by
      simp only [generateFrame, handlesGetCanvas_none found]
    have calls : (generateFrame answers session world job frame).1.callsSince world = [] :=
      callsSince_of_added [] (by rw [pass]; rfl)
    obtain ⟨response, finished, text⟩ := reply_finished answers (responseCode rpcValue)
    rw [calls, pass, finished, eventsSince_of_added [.closed job.base answers.closed] rfl]
    exact .missing found rfl text
  | some record =>
    have calls := callsSince_of_added _ (@generateFrame_calls answers session world job frame _ found)
    obtain ⟨canvas, -, present, -, object, -⟩ := canvasFor_some found
    obtain ⟨object, held⟩ := Option.isSome_iff_exists.mp object
    have pointer : canvasRecordPtr world.store record = some object := by
      rw [canvasRecordPtr, present]
      exact held
    rw [pointer] at calls
    rw [calls]
    cases whole : transfer.complete with
    | false =>
      rw [whole] at written
      obtain ⟨response, finished, text⟩ := reply_finished answers (responseGenerate (-1) 0)
      have files : (generateFrame answers session world job frame).1.files =
          [.closed job.base answers.closed, .wroteFrame job.base frame false] ++ world.files := by
        simp only [generateFrame, handlesGetCanvas_some found, written, Bool.false_eq_true,
          ↓reduceIte]
        rfl
      have ends : (generateFrame answers session world job frame).2 = .finished response := by
        rw [← finished]
        simp only [generateFrame, handlesGetCanvas_some found, written, Bool.false_eq_true,
          ↓reduceIte]
      rw [ends, eventsSince_of_added _ files]
      exact .short ⟨record, object, found, pointer, rfl⟩ whole text
    | true =>
      rw [whole] at written
      by_cases left : frame ≠ 0xffffffffffffffff ∧ frame + 1 ≤ job.last
      · have files : (generateFrame answers session world job frame).1.files =
            [.wroteFrame job.base frame true] ++ world.files := by
          simp only [generateFrame, handlesGetCanvas_some found, written, ↓reduceIte, if_pos left]
          rfl
        have ends : (generateFrame answers session world job frame).2 = .frame job (frame + 1) := by
          simp only [generateFrame, handlesGetCanvas_some found, written, ↓reduceIte, if_pos left]
        rw [ends, eventsSince_of_added _ files]
        exact .more ⟨record, object, found, pointer, rfl⟩ whole left
      · obtain ⟨response, tail, finished, files, silent⟩ := finishGenerate_ends answers
          { world.apply (world.store.updateCanvas record fun canvas =>
              canvas.connect session.username)
              [.generateFrame (canvasRecordPtr (world.store.updateCanvas record fun canvas =>
                canvas.connect session.username) record) frame job.frameRate] with
            files := .wroteFrame job.base frame true :: world.files } record job
        have result : generateFrame answers session world job frame = finishGenerate answers
            { world.apply (world.store.updateCanvas record fun canvas =>
                canvas.connect session.username)
                [.generateFrame (canvasRecordPtr (world.store.updateCanvas record fun canvas =>
                  canvas.connect session.username) record) frame job.frameRate] with
              files := .wroteFrame job.base frame true :: world.files } record job := by
          simp only [generateFrame, handlesGetCanvas_some found, written, ↓reduceIte, if_neg left]
          rfl
        have added : (generateFrame answers session world job frame).1.files =
            (tail ++ [.closed job.base answers.closed, .wroteFrame job.base frame true]) ++
              world.files := by
          rw [result, files, List.append_assoc]
          rfl
        rw [eventsSince_of_added _ added, result, finished]
        have operations : (tail ++ [FileEvent.closed job.base answers.closed,
            .wroteFrame job.base frame true]).reverse.filterMap (FileEvent.operation transfer) =
              [.wrote transfer.image transfer.taken transfer.sent,
                .closed answers.closed transfer.flushed] := by
          rw [List.filterMap_reverse, List.filterMap_append, silent]
          rfl
        rw [operations]
        exact .last ⟨record, object, found, pointer, rfl⟩ whole left

/-- A pass stays with its request. -/
theorem generateFrame_job {other : GenerateJob}
    (serves : (generateFrame answers session world job frame).2.job? = some other) :
    job = other := by
  unfold generateFrame at serves
  split at serves
  · dsimp only at serves
    split at serves
    · split at serves
      · exact Option.some.inj serves
      · obtain ⟨response, tail, finished, -⟩ := finishGenerate_ends answers _ _ job
        rw [finished] at serves
        cases serves
    · cases serves
  · cases serves

end Passes

/-! ## The way to the loop -/

/-- A request for frames is served only where it was served before, and its loop begins with the
first frame when its file has been opened. -/
def Approaches (world : World) (served : Option GenerateJob) (result : World × Pc) : Prop :=
  ∀ job, result.2.job? = some job → served = some job ∧ ∀ frame, result.2 = .frame job frame →
    result.1.files = .opened job.base true :: world.files ∧ frame = job.first

section Approach

variable {auth : AuthDb} {answers : Answers} {session : Session} {world : World} {job : GenerateJob}

/-- A place without a request for frames does not approach its loop. -/
theorem approaches_nothing {served : Option GenerateJob} {result : World × Pc}
    (nothing : result.2.job? = none) : Approaches world served result := by
  intro job serves
  rw [nothing] at serves
  cases serves

/-- The rest of an operation. -/
theorem approaches_resume (resume : Resume) :
    Approaches world resume.job? (resumeAfterWait answers world resume) := by
  cases resume with
  | place canvas sprite canvasId spriteId x y =>
    refine approaches_nothing ?_
    simp only [resumeAfterWait]
    split <;> rfl
  | move move placement => exact approaches_nothing rfl
  | setParams placement vx vy ax ay => exact approaches_nothing rfl
  | generate canvas job =>
    unfold resumeAfterWait
    dsimp only
    split
    · split
      · rename_i opened
        intro other serves
        refine ⟨serves, fun frame here => ?_⟩
        cases here
        rw [opened]
        exact ⟨rfl, rfl⟩
      · exact approaches_nothing rfl
    · exact approaches_nothing rfl

/-- An operation that may have to wait. -/
theorem approaches_wait (record : CanvasPtr) (username : Bytes) (resume : Resume) :
    Approaches world resume.job? (waitThenResume answers world record username resume) := by
  unfold waitThenResume
  split
  · intro job serves
    exact ⟨serves, by simp⟩
  · exact approaches_resume resume

/-- An operation on a placement. -/
theorem approaches_through (username : Bytes) (placement : Nat) (resume : Resume) :
    Approaches world resume.job? (throughPlacement answers world username placement resume) := by
  cases found : canvasFor world.store (placementRecordCanvasId world.store placement) username with
  | none =>
    simp only [throughPlacement, handlesGetCanvas_none found]
    exact approaches_resume resume
  | some record =>
    simp only [throughPlacement, handlesGetCanvas_some found]
    exact @approaches_wait answers { world with store := _ } record username resume

/-- The first section of a command. -/
theorem approaches_section (command : StoreCommand) :
    Approaches world command.job? (lockedSection answers session world command) := by
  cases command with
  | destroyCanvas id => exact approaches_nothing rfl
  | destroySprite id => exact approaches_nothing rfl
  | destroyPlacement id => exact approaches_nothing rfl
  | shareCanvas canvasId target => exact approaches_nothing rfl
  | placeSprite canvasId spriteId x y =>
    simp only [lockedSection]
    split
    · exact @approaches_wait answers { world with store := _ } _ _ _
    · exact approaches_nothing rfl
  | movePlacement move id =>
    simp only [lockedSection]
    split
    · exact approaches_through _ _ _
    · exact approaches_nothing rfl
  | setAnimationParams id vx vy ax ay =>
    simp only [lockedSection]
    split
    · exact approaches_through _ _ _
    · exact approaches_nothing rfl
  | barrier canvasId =>
    refine approaches_nothing ?_
    simp only [lockedSection]
    split <;> rfl
  | generate job =>
    simp only [lockedSection]
    split
    · exact @approaches_wait answers { world with store := _ } _ _ _
    · exact approaches_nothing rfl

/-- A request for frames begins when its arguments are in order, and not with its loop. -/
theorem startRequest_job {line : Bytes}
    (serves : (startRequest auth answers session world line).2.2.job? = some job) :
    job.first ≤ job.last ∧
      ∀ frame, (startRequest auth answers session world line).2.2 ≠ .frame job frame := by
  revert serves
  apply startRequest_cases (motive := fun result => result.2.2.job? = some job →
    job.first ≤ job.last ∧ ∀ frame, result.2.2 ≠ .frame job frame)
  · intro answers code serves
    cases serves
  · intro arguments _ serves
    obtain ⟨text, answered⟩ := login_reply auth answers session arguments
    rw [answered] at serves
    cases serves
  · intro arguments _ serves
    cases serves
  · intro name arguments command _ _ _ _ _ parsed serves
    cases command with
    | createCanvas height width color =>
      simp only [beginCommand] at serves
      split at serves <;> cases serves
    | createSprite shape =>
      simp only [beginCommand] at serves
      split at serves <;> cases serves
    | store command =>
      refine ⟨?_, fun frame here => by cases here⟩
      cases command with
      | generate asked =>
        cases serves
        cases parseCommand_accepted parsed with
        | plain numbers => cases numbers
        | generate named checked => exact UInt64.not_lt.mp fun late => checked (.inl late)
      | _ => cases serves

/-- Any other step outside the loop. -/
theorem advance_approaches {pc : Pc} (begun : ∀ line, pc ≠ .start line)
    (outside : ∀ job frame, pc ≠ .frame job frame) :
    Approaches world pc.job? (advance auth answers session world pc).2 := by
  have answered : ∀ (world other : World) (id : UInt64) (undo : Call),
      Approaches world none (answerHandle answers other id undo) := by
    intro world other id undo
    refine approaches_nothing ?_
    unfold answerHandle
    split <;> rfl
  cases pc with
  | start line => exact absurd rfl (begun line)
  | frame job frame => exact absurd rfl (outside job frame)
  | addCanvas canvas width height => exact answered _ _ _ _
  | addSprite sprite => exact answered _ _ _ _
  | addPlacement placement canvasId spriteId => exact answered _ _ _ _
  | locking command => exact approaches_section command
  | barrierWait record user =>
    refine approaches_nothing ?_
    simp only [advance]
    split <;> rfl
  | canvasWait record user resume =>
    simp only [advance]
    split
    · intro job serves
      exact ⟨serves, by simp⟩
    · exact approaches_resume resume
  | disconnect =>
    refine approaches_nothing ?_
    simp only [advance]
    split <;> rfl
  | endSession => exact approaches_nothing rfl
  | finished response => exact approaches_nothing rfl

/-- A step serves the request for frames that was served before, or one whose frames are in
order. -/
theorem advance_job {pc : Pc}
    (serves : (advance auth answers session world pc).2.2.job? = some job) :
    pc.job? = some job ∨ job.first ≤ job.last := by
  by_cases begun : ∃ line, pc = .start line
  · obtain ⟨line, rfl⟩ := begun
    exact .inr (startRequest_job serves).1
  by_cases inside : ∃ job frame, pc = .frame job frame
  · obtain ⟨own, frame, rfl⟩ := inside
    exact .inl (congrArg some (generateFrame_job serves))
  refine .inl (advance_approaches (fun line here => begun ⟨line, here⟩)
    (fun job frame here => inside ⟨job, frame, here⟩) job serves).1

/-- A thread comes to the loop when it has opened the file, and begins with the first frame. -/
theorem advance_enters {pc : Pc} {frame : UInt64}
    (here : (advance auth answers session world pc).2.2 = .frame job frame)
    (outside : ∀ job frame, pc ≠ .frame job frame) :
    (advance auth answers session world pc).2.1.files = .opened job.base true :: world.files ∧
      frame = job.first := by
  have serves : (advance auth answers session world pc).2.2.job? = some job := by
    rw [here]
    rfl
  by_cases begun : ∃ line, pc = .start line
  · obtain ⟨line, rfl⟩ := begun
    exact absurd here ((startRequest_job serves).2 frame)
  · exact (advance_approaches (fun line here => begun ⟨line, here⟩) outside job serves).2 frame here

end Approach

/-! ## Requests in order -/

/-- The frames of every request that is served are in order. -/
def JobsOrdered (state : RpcState) : Prop :=
  ∀ thread client pc job, state.threads thread = some ⟨client, pc⟩ → pc.job? = some job →
    job.first ≤ job.last

section Machine

variable {auth : AuthDb} {state next : RpcState} {label : RpcLabel}

/-- Every step keeps the frames of the requests in order. -/
theorem JobsOrdered.kept (ordered : JobsOrdered state)
    (step : (rpcMachine auth).step state label = some next) : JobsOrdered next := by
  intro thread client pc job working serves
  rcases rpcMachine_came step working with
    same | ⟨answers, before, -, busy, -, rfl⟩ | ⟨line, rfl⟩ | rfl
  · exact ordered _ _ _ _ same serves
  · rcases advance_job serves with earlier | inOrder
    · exact ordered _ _ _ _ busy earlier
    · exact inOrder
  · cases serves
  · cases serves

/-- Hence they are in order in every state that is reached. -/
theorem jobsOrdered_reached (reached : (rpcMachine auth).Reachable {} state) : JobsOrdered state :=
  reached.invariant (fun _ _ _ ordered step => ordered.kept step)
    (fun _ _ _ _ working => by cases working)

end Machine

/-! ## Steps of the machine in the loop -/

section Files

variable {auth : AuthDb} {state next : FilesState} {label : FilesLabel} {thread : ThreadId}
  {client : ClientId} {job : GenerateJob} {frame : UInt64}

/-- A label about another thread is no pass, and the thread stays where it is. -/
theorem pass_elsewhere (step : (filesMachine auth).step state label = some next)
    (apart : label.action.thread ≠ thread) :
    framePasses auth thread client state label = [] ∧
      next.rpc.threads thread = state.rpc.threads thread := by
  constructor
  · unfold framePasses
    split
    · rename_i other answers action
      rw [if_neg]
      rintro rfl
      exact apart (by rw [action]; rfl)
    · rfl
  · have ran : (rpcMachine auth).run state.rpc [label.rpc] = some next.rpc :=
      Machine.run_cons_some.mpr ⟨next.rpc, (filesMachine_step.mp step).1, rfl⟩
    refine rpcMachine_run_elsewhere ran fun other member => ?_
    rw [List.mem_singleton.mp member, label.rpc_thread]
    exact apart

/-- A thread at work that does not leave is stepped by every label about it. -/
theorem own_label {pc : Pc} (step : (filesMachine auth).step state label = some next)
    (stays : label.action ≠ .leave thread) (own : label.action.thread = thread)
    (working : state.rpc.threads thread = some ⟨client, pc⟩) :
    pc.isFinished = false ∧ ∃ answers, label.action = .step thread answers := by
  obtain ⟨taken, -⟩ := filesMachine_step.mp step
  obtain ⟨action, transfer⟩ := label
  cases action with
  | request other served line =>
    obtain rfl : other = thread := own
    simp [FilesLabel.rpc, rpcMachine, working] at taken
  | close other served =>
    obtain rfl : other = thread := own
    simp [FilesLabel.rpc, rpcMachine, working] at taken
  | step other answers =>
    obtain rfl : other = thread := own
    obtain ⟨served, before, busy, unfinished, -⟩ := rpcMachine_step taken
    obtain ⟨rfl, rfl⟩ := Thread.mk.inj (Option.some.inj (busy.symm.trans working))
    exact ⟨unfinished, answers, rfl⟩
  | leave other =>
    obtain rfl : other = thread := own
    exact absurd rfl stays

/-- A thread in the loop takes one pass, or another thread takes a step. -/
theorem pass_step (step : (filesMachine auth).step state label = some next)
    (stays : label.action ≠ .leave thread) (own : label.action.thread = thread)
    (here : state.rpc.threads thread = some ⟨client, .frame job frame⟩) :
    ∃ pass operations pc, framePasses auth thread client state label = [pass] ∧
      pass.username = (state.rpc.sessions client).username ∧
      pass.store = state.rpc.world.store ∧ PassEnds job frame pass operations pc ∧
      next.rpc.threads thread = some ⟨client, pc⟩ ∧
      next.rpc.sessions client = state.rpc.sessions client ∧
      next.disk = state.disk.performAll 0 thread operations := by
  obtain ⟨-, answers, action⟩ := own_label step stays own here
  obtain ⟨taken, disk⟩ := filesMachine_step.mp step
  obtain ⟨_, transfer⟩ := label
  dsimp only at action
  subst action
  have passes : framePasses auth thread client state ⟨.step thread answers, transfer⟩ =
      [{ username := (state.rpc.sessions client).username
         store := state.rpc.world.store
         calls := next.rpc.world.callsSince state.rpc.world
         transfer
         closed := answers.closed }] := by
    simp only [framePasses, ↓reduceIte, taken, Option.toList_some, List.map_cons, List.map_nil]
  have advanced := rpcMachine_step_of here taken
  have ends := @generateFrame_ends { answers with written := transfer.complete }
    (state.rpc.sessions client) state.rpc.world job frame transfer rfl
  refine ⟨_, _, (generateFrame { answers with written := transfer.complete }
    (state.rpc.sessions client) state.rpc.world job frame).2, passes, rfl, rfl, ?_, ?_, ?_, disk⟩
  · rw [advanced]
    exact ends
  · rw [advanced]
    simp only [RpcState.advanceThread, advance, Function.update_self]
  · rw [advanced]
    simp only [RpcState.advanceThread, advance, Function.update_self]

end Files

end AnimateService
