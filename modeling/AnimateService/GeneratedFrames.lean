import AnimateService.FrameLoop

/-!
# What `generate` renders

The frame loop ends after at most as many passes as frames were asked for, whatever the other
threads do in between. While the canvas lives and the writes succeed, it renders every frame once and
in order, and a pass whose lookup or write fails is the last one. What is in the file follows
where no other request opens the file meanwhile and the stream sends what it has taken.
-/
namespace AnimateService

open LinkedList OutputStreams Transition

/-- A run in which a thread comes to the frame loop of a request and stays in the request. -/
structure FrameLoop (auth : AuthDb) where
  /-- The thread that handles the request. -/
  thread : ThreadId
  /-- The client whose request it is. -/
  client : ClientId
  /-- The request. -/
  job : GenerateJob
  /-- A state of the server before the loop. -/
  before : FilesState
  /-- The step that opens the file. -/
  opening : FilesLabel
  /-- The state in which the thread is at the head of the loop. -/
  entered : FilesState
  /-- What happens then, on all threads. -/
  labels : List FilesLabel
  /-- The state after that. -/
  last : FilesState
  /-- The server comes to the state before the loop. -/
  reached : (filesMachine auth).Reachable {} before
  /-- The thread is not in a loop there. -/
  outside : ∀ work, before.rpc.threads thread = some work → ∀ job frame, work.pc ≠ .frame job frame
  /-- It comes to the loop in one step. -/
  opens : (filesMachine auth).step before opening = some entered
  /-- It begins with the first frame. -/
  inside : entered.rpc.threads thread = some ⟨client, .frame job job.first⟩
  /-- The run goes on from there. -/
  ran : (filesMachine auth).run entered labels = some last
  /-- The thread does not leave the request. -/
  stays : ∀ label ∈ labels, label.action ≠ .leave thread

section Defs

variable {auth : AuthDb}

/-- The passes of the loop, in their order. -/
def FrameLoop.passes (loop : FrameLoop auth) : List FramePass :=
  (filesMachine auth).observed (framePasses auth loop.thread loop.client) loop.entered loop.labels

/-- The thread has its response. -/
def FrameLoop.Finished (loop : FrameLoop auth) : Prop :=
  ∃ response, loop.last.rpc.threads loop.thread = some ⟨loop.client, .finished response⟩

/-- The name of the user whose request it is. -/
def FrameLoop.username (loop : FrameLoop auth) : Bytes :=
  (loop.entered.rpc.sessions loop.client).username

/-- The content of the file of the request at the end of the run. -/
def FrameLoop.content (loop : FrameLoop auth) : Bytes := loop.last.disk.files loop.job.dat

/-- The steps of other threads are on requests of other clients. -/
def FrameLoop.AmongOthers (loop : FrameLoop auth) : Prop :=
  (filesMachine auth).EveryStep (fun state label => ∀ other answers work,
    label.action = .step other answers → other ≠ loop.thread →
    state.rpc.threads other = some work → work.client ≠ loop.client) loop.entered loop.labels

/-- No other thread has the file of the request open, or opens it. -/
def FrameLoop.AloneOnFile (loop : FrameLoop auth) : Prop :=
  loop.entered.disk.Alone loop.thread loop.job.dat ∧
    (filesMachine auth).EveryStep (fun state label => label.action.thread ≠ loop.thread →
      ∀ next, (filesMachine auth).step state label = some next →
        .opened loop.job.dat ∉ label.operations state.rpc.world next.rpc.world)
      loop.entered loop.labels

/-- The loop takes at most one pass for each frame, has ended when it has taken them all, and can
always take the next pass until it has ended. -/
def FrameLoop.Terminates (loop : FrameLoop auth) : Prop :=
  loop.passes.length ≤ loop.job.frames ∧
    (loop.passes.length = loop.job.frames → loop.Finished) ∧
    (¬ loop.Finished → ∀ answers transfer, ∃ next,
      (filesMachine auth).step loop.last ⟨.step loop.thread answers, transfer⟩ = some next)

/-- The canvas that the handle names at the head of the loop lives while the loop runs, and every
frame is written completely, until the thread has its response. -/
structure FrameLoop.Succeeds (loop : FrameLoop auth) (record : CanvasPtr) : Prop where
  /-- The handle names the canvas. -/
  named : canvasFor loop.entered.rpc.world.store loop.job.canvasId loop.username = some record
  /-- The canvas stays live. -/
  lives : (filesMachine auth).Always (fun state => state.rpc.world.store.CanvasLive record)
    loop.entered loop.labels
  /-- The writes succeed. -/
  whole : ∀ pass ∈ loop.passes, pass.transfer.complete = true
  /-- The other requests are those of others. -/
  among : loop.AmongOthers
  /-- The thread has its response. -/
  finished : loop.Finished

/-- Every requested frame is rendered exactly once and in order, on the canvas that the handle
names: the same for all frames if no other canvas has its handle. -/
def FrameLoop.RendersAll (loop : FrameLoop auth) (record : CanvasPtr) : Prop :=
  loop.passes.length = loop.job.frames ∧
    (∀ index (pass : FramePass), loop.passes[index]? = some pass →
      pass.Renders loop.job (loop.job.frameAt index)) ∧
    ((∀ other, loop.last.rpc.world.store.Leads loop.job.canvasId other → other = record) →
      ∀ index (pass : FramePass), loop.passes[index]? = some pass → pass.calls =
        [.generateFrame (canvasRecordPtr loop.entered.rpc.world.store record)
          (loop.job.frameAt index) loop.job.frameRate])

/-- The file holds the frames of the passes, one after the other. -/
def FrameLoop.HoldsFrames (loop : FrameLoop auth) : Prop :=
  loop.content = loop.passes.flatMap fun pass => pass.transfer.image

/-- The pass at a place fails: its lookup or its write. -/
def FrameLoop.FailsAt (loop : FrameLoop auth) (index : Nat) (pass : FramePass) : Prop :=
  loop.passes[index]? = some pass ∧ (pass.Misses loop.job ∨ pass.transfer.complete = false)

/-- The frames before a failed pass are rendered and written, and it is the last pass. If it did not
find the canvas, it renders nothing and the reply is the error code; if its write failed, the frame
is not written completely and the reply reports the data file as failed. -/
structure FrameLoop.StopsAt (loop : FrameLoop auth) (index : Nat) (pass : FramePass) : Prop where
  /-- There is no later pass. -/
  final : loop.passes.length = index + 1
  /-- The passes before it render and write their frames. -/
  before : ∀ earlier (other : FramePass), earlier < index → loop.passes[earlier]? = some other →
    other.Renders loop.job (loop.job.frameAt earlier) ∧ other.transfer.complete = true
  /-- Without the canvas nothing is rendered or written. -/
  missing : pass.Misses loop.job → pass.calls = [] ∧ pass.part loop.job = []
  /-- Otherwise the frame is rendered, but not written completely. -/
  short : ¬ pass.Misses loop.job → pass.Renders loop.job (loop.job.frameAt index) ∧
    (pass.part loop.job).length < pass.transfer.image.length
  /-- The reply is not a success. -/
  reply : ∃ response, loop.last.rpc.threads loop.thread =
      some ⟨loop.client, .finished response⟩ ∧ ∀ text, response = some text →
    (pass.Misses loop.job → text = responseCode rpcValue) ∧
      (¬ pass.Misses loop.job → text = responseGenerate (-1) 0)

/-- What the stream has taken by the end of a pass: the frames before it and what it took of its
own. -/
def FrameLoop.takenBy (loop : FrameLoop auth) (index : Nat) (pass : FramePass) : Bytes :=
  (loop.passes.take index).flatMap (fun before => before.transfer.image) ++ pass.part loop.job

/-- The stream sends all that it has taken: the close succeeds and no write has failed, or it is
sent all the same. -/
def FramePass.Sends (job : GenerateJob) (pass : FramePass) (written : Bytes) : Prop :=
  pass.closed = true ∧ (pass.Misses job ∨ pass.transfer.complete = true) ∨
    written.length ≤ pass.transfer.flushed

end Defs

/-! ## The passes of a run -/

/-- The passes so far render and write the frames in their order. -/
def InOrder (job : GenerateJob) (passes : List FramePass) : Prop :=
  ∀ index (pass : FramePass), passes[index]? = some pass →
    pass.Renders job (job.frameAt index) ∧ pass.transfer.complete = true

/-- Where a thread is after the passes so far: at the head of the loop for the next frame, or at the
end of the request. -/
inductive LoopAt (thread : ThreadId) (client : ClientId) (job : GenerateJob) (state : FilesState)
    (passes : List FramePass) : Prop where
  /-- The next frame comes. -/
  | looping (here : state.rpc.threads thread =
        some ⟨client, .frame job (job.frameAt passes.length)⟩)
      (inside : passes.length < job.frames) (done : InOrder job passes)
  /-- The last pass has ended the loop. -/
  | ended {front : List FramePass} {pass : FramePass}
      {operations : List (Operation Bytes UInt8)} {response : Option Bytes}
      (split : passes = front ++ [pass])
      (here : state.rpc.threads thread = some ⟨client, .finished response⟩)
      (inside : front.length < job.frames) (done : InOrder job front)
      (ends : PassEnds job (job.frameAt front.length) pass operations (.finished response))

section Runs

variable {auth : AuthDb} {state next : FilesState} {label : FilesLabel} {thread : ThreadId}
  {client : ClientId} {job : GenerateJob} {passes : List FramePass}

/-- One more pass is in order. -/
theorem InOrder.concat {pass : FramePass} (done : InOrder job passes)
    (renders : pass.Renders job (job.frameAt passes.length))
    (whole : pass.transfer.complete = true) : InOrder job (passes ++ [pass]) := by
  intro index other there
  by_cases before : index < passes.length
  · rw [List.getElem?_append_left before] at there
    exact done index other there
  · rw [List.getElem?_append_right (Nat.le_of_not_lt before), List.getElem?_singleton] at there
    split at there
    · rename_i first
      have same : index = passes.length := by omega
      obtain rfl := Option.some.inj there
      exact same ▸ ⟨renders, whole⟩
    · cases there

/-- A step moves the thread through the loop by one pass, or leaves it where it is. -/
theorem LoopAt.step (ordered : job.first ≤ job.last) (at_ : LoopAt thread client job state passes)
    (stays : label.action ≠ .leave thread)
    (step : (filesMachine auth).step state label = some next) :
    LoopAt thread client job next
      (passes ++ framePasses auth thread client state label) := by
  by_cases own : label.action.thread = thread
  · cases at_ with
    | looping here inside done =>
      obtain ⟨pass, operations, pc, seen, -, -, ends, there, -, -⟩ := pass_step step stays own here
      rw [seen]
      cases ends with
      | more renders whole left =>
        have more := (goes_on_iff ordered inside).mp left
        rw [frameAt_succ] at there
        refine .looping ?_ ?_ (done.concat renders whole)
        · rw [List.length_append, there]
          rfl
        · rw [List.length_append]
          exact more
      | missing misses silent replied =>
        exact .ended rfl there inside done (.missing misses silent replied)
      | short renders torn replied =>
        exact .ended rfl there inside done (.short renders torn replied)
      | last renders whole none_left =>
        exact .ended rfl there inside done (.last renders whole none_left)
    | ended split here inside done ends =>
      obtain ⟨unfinished, -⟩ := own_label step stays own here
      cases unfinished
  · obtain ⟨seen, kept⟩ : framePasses auth thread client state label = [] ∧
        next.rpc.threads thread = state.rpc.threads thread := pass_elsewhere step own
    rw [seen, List.append_nil]
    cases at_ with
    | looping here inside done => exact .looping (kept.trans here) inside done
    | ended split here inside done ends => exact .ended split (kept.trans here) inside done ends

/-! ## The file of a run -/

/-- What the passes so far have made of the file of the request, on which no other thread has a
stream: the stream has taken their frames, or it is closed. -/
inductive FileAt (thread : ThreadId) (client : ClientId) (job : GenerateJob) (state : FilesState)
    (passes : List FramePass) : Prop where
  /-- The stream is open. -/
  | writing {frame : UInt64} (alone : state.disk.Alone thread job.dat)
      (here : state.rpc.threads thread = some ⟨client, .frame job frame⟩)
      (carries : state.disk.Carries thread job.dat
        (passes.flatMap fun pass => pass.part job) false)
  /-- The stream is closed. -/
  | left {front : List FramePass} {pass : FramePass} {response : Option Bytes}
      (alone : state.disk.Alone thread job.dat)
      (here : state.rpc.threads thread = some ⟨client, .finished response⟩)
      (split : passes = front ++ [pass])
      (sent : state.disk.files job.dat <+: passes.flatMap fun pass => pass.part job)
      (whole : pass.Sends job (passes.flatMap fun pass => pass.part job) →
        state.disk.files job.dat = passes.flatMap fun pass => pass.part job)

/-- The stream takes nothing when the canvas is not found. -/
theorem part_missing {pass : FramePass} (misses : pass.Misses job) : pass.part job = [] :=
  if_pos misses

/-- A pass that renders does not miss its canvas. -/
theorem FramePass.Renders.found {pass : FramePass} {frame : UInt64}
    (renders : pass.Renders job frame) : ¬ pass.Misses job := by
  obtain ⟨record, canvas, found, -⟩ := renders
  intro misses
  rw [FramePass.Misses, found] at misses
  cases misses

/-- Of a frame that is rendered, the stream takes what `fwrite` takes. -/
theorem FramePass.Renders.part_eq {pass : FramePass} {frame : UInt64}
    (renders : pass.Renders job frame) :
    pass.part job = pass.transfer.image.take pass.transfer.taken :=
  if_neg renders.found

/-- A frame that is written completely is taken whole. -/
theorem FramePass.Renders.part_whole {pass : FramePass} {frame : UInt64}
    (renders : pass.Renders job frame) (whole : pass.transfer.complete = true) :
    pass.part job = pass.transfer.image := by
  rw [renders.part_eq, List.take_of_length_le (of_decide_eq_true whole)]

/-- A frame that is not written completely is taken in part. -/
theorem FramePass.Renders.part_torn {pass : FramePass} {frame : UInt64}
    (renders : pass.Renders job frame) (torn : pass.transfer.complete = false) :
    (pass.part job).length < pass.transfer.image.length := by
  have short : ¬ pass.transfer.image.length ≤ pass.transfer.taken := of_decide_eq_false torn
  rw [renders.part_eq, List.length_take]
  omega

/-- The write of a frame that is rendered. -/
theorem carries_wrote {disk : Disk ThreadId Bytes UInt8} {pass : FramePass} {frame : UInt64}
    (carries : disk.Carries thread job.dat (passes.flatMap fun pass => pass.part job) false)
    (renders : pass.Renders job frame) :
    (disk.perform 0 thread (.wrote pass.transfer.image pass.transfer.taken
      pass.transfer.sent)).Carries thread job.dat
        ((passes ++ [pass]).flatMap fun pass => pass.part job) (!pass.transfer.complete) := by
  have wrote := carries.wrote 0 pass.transfer.image pass.transfer.taken pass.transfer.sent
  have torn : (!pass.transfer.complete) =
      (false || decide (pass.transfer.taken < pass.transfer.image.length)) := by
    rw [Bool.false_or, Transfer.complete, ← decide_not, decide_eq_decide]
    exact Nat.not_le
  rw [← renders.part_eq] at wrote
  rw [List.flatMap_append, List.flatMap_singleton, torn]
  exact wrote

/-- A step does to the file what its pass says, or leaves it alone. -/
theorem FileAt.step (file : FileAt thread client job state passes)
    (stays : label.action ≠ .leave thread)
    (spared : label.action.thread ≠ thread →
      .opened job.dat ∉ label.operations state.rpc.world next.rpc.world)
    (step : (filesMachine auth).step state label = some next) :
    FileAt thread client job next (passes ++ framePasses auth thread client state label) := by
  by_cases own : label.action.thread = thread
  · cases file with
    | writing alone here carries =>
      obtain ⟨pass, operations, pc, seen, -, -, ends, there, -, disk⟩ := pass_step step stays own here
      rw [seen]
      -- closing the stream after a pass that left it with what the passes have taken
      have closes : ∀ (middle : Disk ThreadId Bytes UInt8) (failed : Bool) (response : Option Bytes),
          middle.Alone thread job.dat →
          middle.Carries thread job.dat ((passes ++ [pass]).flatMap fun pass => pass.part job)
            failed →
          (failed = false ↔ pass.Misses job ∨ pass.transfer.complete = true) →
          next.disk = middle.perform 0 thread (.closed pass.closed pass.transfer.flushed) →
          next.rpc.threads thread = some ⟨client, .finished response⟩ →
          FileAt thread client job next (passes ++ [pass]) := by
        intro middle failed response alone carries unfailed after there
        obtain ⟨-, sent, whole⟩ := carries.closed 0 pass.closed pass.transfer.flushed
        rw [← after] at sent whole
        refine .left (after ▸ alone.perform 0 _) there rfl sent fun sends => whole ?_
        rcases sends with ⟨closed, fine⟩ | all
        · exact .inl ⟨closed, unfailed.mpr fine⟩
        · exact .inr all
      cases ends with
      | missing misses silent replied =>
        refine closes state.disk false _ alone ?_ (iff_of_true rfl (.inl misses)) disk there
        rw [List.flatMap_append, List.flatMap_singleton, part_missing misses, List.append_nil]
        exact carries
      | short renders torn replied =>
        exact closes _ _ _ (alone.perform 0 _) (carries_wrote carries renders)
          (by simp [renders.found, torn]) disk there
      | more renders whole left =>
        have wrote := carries_wrote carries renders
        rw [whole] at wrote
        have after : next.disk = state.disk.perform 0 thread (.wrote pass.transfer.image
            pass.transfer.taken pass.transfer.sent) := disk
        exact .writing (after ▸ alone.perform 0 _) there (after ▸ wrote)
      | last renders whole none_left =>
        exact closes _ _ _ (alone.perform 0 _) (carries_wrote carries renders) (by simp [whole]) disk
          there
    | left alone here split sent whole =>
      obtain ⟨unfinished, -⟩ := own_label step stays own here
      cases unfinished
  · obtain ⟨seen, kept⟩ : framePasses auth thread client state label = [] ∧
        next.rpc.threads thread = state.rpc.threads thread := pass_elsewhere step own
    have elsewhere : ∀ operation ∈ label.operations state.rpc.world next.rpc.world,
        operation ≠ .opened job.dat := by
      rintro operation member rfl
      exact spared own member
    have disk := (filesMachine_step.mp step).2
    rw [seen, List.append_nil]
    cases file with
    | writing alone here carries =>
      have same := alone.spared_all 0 own elsewhere
      rw [← disk] at same
      exact .writing same.alone (kept.trans here) (carries.spared same)
    | left alone here split sent whole =>
      have same := alone.spared_all 0 own elsewhere
      rw [← disk] at same
      refine .left same.alone (kept.trans here) split ?_ ?_
      · rw [same.files]
        exact sent
      · rw [same.files]
        exact whole

end Runs

/-! ## A canvas that stays live -/

/-- A record is under a handle, has a member of a name, and is for one library canvas as long as it
is for any. -/
structure HandleStore.Offers (store : HandleStore) (record : CanvasPtr) (object : Object)
    (id : UInt64) (username : Bytes) : Prop where
  /-- The record is there. -/
  member : ∃ canvas, store.canvases[record]? = some canvas ∧ canvas.id = id ∧
    username ∈ canvas.names
  /-- It is for no other canvas. -/
  only : ∀ other, canvasRecordPtr store record = some other → other = object

section Offers

variable {store : HandleStore} {record : CanvasPtr} {object : Object} {id : UInt64}
  {username : Bytes}

/-- What a lookup finds is such a record. -/
theorem offers_of_found (found : canvasFor store id username = some record) :
    ∃ object, store.Offers record object id username ∧
      canvasRecordPtr store record = some object := by
  obtain ⟨canvas, user, present, named, live, -, member⟩ := canvasFor_some found
  obtain ⟨object, held⟩ := Option.isSome_iff_exists.mp live
  have pointer : canvasRecordPtr store record = some object := by
    rw [canvasRecordPtr, present]
    exact held
  obtain ⟨same, there, called⟩ := memberNamed_of_found present member
  obtain rfl := Option.some.inj (present.symm.trans there)
  refine ⟨object, ⟨⟨canvas, present, named, List.mem_of_getElem? called⟩, ?_⟩, pointer⟩
  intro other also
  exact Option.some.inj (also.symm.trans pointer)

/-- While it is live a lookup finds a canvas, and it is for its library canvas. -/
theorem HandleStore.Offers.found (offers : store.Offers record object id username)
    (valid : id ≠ invalidHandle) (live : store.CanvasLive record) :
    (∃ other, canvasFor store id username = some other) ∧
      canvasRecordPtr store record = some object := by
  obtain ⟨canvas, present, named, member⟩ := offers.member
  obtain ⟨same, there, alive, unmarked⟩ := live
  obtain rfl := Option.some.inj (present.symm.trans there)
  constructor
  · rw [← Option.isSome_iff_exists, Option.isSome_iff_ne_none]
    intro missing
    rw [canvasFor, if_neg valid] at missing
    have refused := newest?_none.mp missing canvas (List.mem_of_getElem? present)
    have hit : (findSharedUser canvas username).isSome = true := by
      rw [Option.isSome_iff_ne_none]
      exact fun absent => findSharedUser_none absent member
    simp [CanvasRecord.answers, named, alive, unmarked, hit] at refused
  · obtain ⟨held, pointer⟩ := Option.isSome_iff_exists.mp alive
    have here : canvasRecordPtr store record = some held := by
      rw [canvasRecordPtr, present]
      exact pointer
    rw [here, offers.only held here]

/-- A step keeps all that. -/
theorem HandleStore.Offers.advance {auth : AuthDb} {answers : Answers} {session : Session}
    {world : World} {pc : Pc} (offers : world.store.Offers record object id username) :
    (advance auth answers session world pc).2.1.store.Offers record object id username := by
  obtain ⟨⟨canvas, present, named, member⟩, only⟩ := offers
  constructor
  · rw [advance_store]
    obtain ⟨after, there, change⟩ := CanvasStep.apply_record present
      (pc.canvasStep answers session world.store
        (AnimateService.advance auth answers session world pc).2.1.store)
    exact ⟨after, there, change.mark.1.trans named, change.names.subset member⟩
  · intro other pointer
    rcases advance_pointer pointer with before | ⟨outside, -⟩
    · exact only other before
    · rw [List.getElem?_eq_none (Nat.le_of_eq outside.symm)] at present
      cases present

end Offers

section Lookups

variable {auth : AuthDb} {state next : FilesState} {label : FilesLabel} {thread : ThreadId}
  {client : ClientId} {job : GenerateJob} {passes : List FramePass} {record : CanvasPtr}
  {object : Object} {username : Bytes}

/-- What the steps of threads keep of the world is kept by every step. -/
theorem filesMachine_world (property : World → Prop)
    (kept : ∀ answers session world pc, property world →
      property (advance auth answers session world pc).2.1)
    (step : (filesMachine auth).step state label = some next)
    (holds : property state.rpc.world) : property next.rpc.world := by
  have taken := (filesMachine_step.mp step).1
  rcases rpcMachine_cases taken with
    ⟨thread, answers, served, pc, -, -, -, after⟩ | ⟨other, work, -, after, -⟩
  · rw [after]
    exact kept answers (state.rpc.sessions served) state.rpc.world pc holds
  · rw [after]
    exact holds

/-- Steps of other threads for other clients leave a session alone. -/
theorem session_elsewhere (step : (filesMachine auth).step state label = some next)
    (among : ∀ other answers work, label.action = .step other answers → other ≠ thread →
      state.rpc.threads other = some work → work.client ≠ client)
    (apart : label.action.thread ≠ thread) :
    next.rpc.sessions client = state.rpc.sessions client := by
  have taken := (filesMachine_step.mp step).1
  obtain ⟨action, transfer⟩ := label
  cases action with
  | step other answers =>
    obtain ⟨served, pc, busy, -, after⟩ := rpcMachine_step taken
    have distinct : client ≠ served := Ne.symm (among other answers _ rfl apart busy)
    rw [after, RpcState.advanceThread]
    exact Function.update_of_ne distinct _ _
  | _ =>
    obtain ⟨other, work, after, -⟩ := rpcMachine_other taken fun thread answers here => by cases here
    rw [after]
    rfl

/-- While the canvas is live, every pass finds a canvas under the handle, which still leads to it. -/
structure Finds (thread : ThreadId) (client : ClientId) (job : GenerateJob) (record : CanvasPtr)
    (object : Object) (username : Bytes) (state : FilesState) (passes : List FramePass) : Prop where
  /-- The record is still what it was. -/
  offers : state.rpc.world.store.Offers record object job.canvasId username
  /-- So is the user. -/
  session : (state.rpc.sessions client).username = username
  /-- The thread is in the request. -/
  working : ∃ pc, state.rpc.threads thread = some ⟨client, pc⟩ ∧
    ((∃ frame, pc = .frame job frame) ∨ pc.isFinished = true)
  /-- The passes so far. -/
  found : ∀ pass ∈ passes, ∃ other, canvasFor pass.store job.canvasId pass.username = some other ∧
    state.rpc.world.store.Leads job.canvasId other ∧
    canvasRecordPtr pass.store record = some object

/-- A step of the run adds a pass that finds a canvas, or none. -/
theorem Finds.step (finds : Finds thread client job record object username state passes)
    (valid : job.canvasId ≠ invalidHandle) (stays : label.action ≠ .leave thread)
    (live : state.rpc.world.store.CanvasLive record)
    (among : ∀ other answers work, label.action = .step other answers → other ≠ thread →
      state.rpc.threads other = some work → work.client ≠ client)
    (step : (filesMachine auth).step state label = some next) :
    Finds thread client job record object username next
      (passes ++ framePasses auth thread client state label) := by
  have offers := filesMachine_world
    (fun world => world.store.Offers record object job.canvasId username)
    (fun _ _ _ _ offers => offers.advance) step finds.offers
  have leads : ∀ other, state.rpc.world.store.Leads job.canvasId other →
      next.rpc.world.store.Leads job.canvasId other := fun other =>
    filesMachine_world (fun world => world.store.Leads job.canvasId other)
      (fun _ _ _ _ leads => advance_leads leads) step
  have earlier : ∀ pass ∈ passes, ∃ other, canvasFor pass.store job.canvasId pass.username =
      some other ∧ next.rpc.world.store.Leads job.canvasId other ∧
        canvasRecordPtr pass.store record = some object := by
    intro pass member
    obtain ⟨other, hit, led, pointer⟩ := finds.found pass member
    exact ⟨other, hit, leads other led, pointer⟩
  obtain ⟨pc, here, at_⟩ := finds.working
  by_cases own : label.action.thread = thread
  · obtain ⟨unfinished, -⟩ := own_label step stays own here
    rcases at_ with ⟨frame, rfl⟩ | finished
    · obtain ⟨pass, operations, pc, seen, name, store, ends, there, session, -⟩ :=
        pass_step step stays own here
      refine ⟨offers, by rw [session, finds.session], ⟨pc, there, ?_⟩, ?_⟩
      · cases ends with
        | more renders whole left => exact .inl ⟨_, rfl⟩
        | _ => exact .inr rfl
      · intro other member
        rw [seen] at member
        rcases List.mem_append.mp member with before | new
        · exact earlier other before
        · obtain rfl := List.mem_singleton.mp new
          rw [name, finds.session, store]
          obtain ⟨⟨hit, found⟩, pointer⟩ := finds.offers.found valid live
          exact ⟨hit, found, leads hit (leads_of_found found), pointer⟩
    · rw [finished] at unfinished
      cases unfinished
  · obtain ⟨seen, kept⟩ : framePasses auth thread client state label = [] ∧
        next.rpc.threads thread = state.rpc.threads thread := pass_elsewhere step own
    rw [seen, List.append_nil]
    exact ⟨offers, by rw [session_elsewhere step among own, finds.session], ⟨pc, kept.trans here, at_⟩,
      earlier⟩

end Lookups

/-! ## The whole loop -/

section Loop

variable {auth : AuthDb} (loop : FrameLoop auth)

/-- The frames of the request are in order, since it was accepted. -/
theorem FrameLoop.ordered : loop.job.first ≤ loop.job.last := by
  have entered := filesMachine_reachable (loop.reached.next loop.opens)
  exact jobsOrdered_reached entered loop.thread loop.client _ loop.job loop.inside rfl

/-- The step to the head of the loop opens the file. -/
theorem FrameLoop.opened : loop.opening.action.thread = loop.thread ∧
    loop.opening.operations loop.before.rpc.world loop.entered.rpc.world =
      [.opened loop.job.dat] := by
  have own : loop.opening.action.thread = loop.thread := by
    by_contra apart
    have kept : loop.entered.rpc.threads loop.thread = loop.before.rpc.threads loop.thread :=
      (@pass_elsewhere _ _ _ _ _ loop.client loop.opens apart).2
    exact loop.outside _ (kept.symm.trans loop.inside) loop.job _ rfl
  refine ⟨own, ?_⟩
  have taken := (filesMachine_step.mp loop.opens).1
  rcases rpcMachine_came taken loop.inside with
    same | ⟨answers, pc, -, busy, after, there⟩ | ⟨line, start⟩ | start
  · exact absurd rfl (loop.outside _ same loop.job _)
  · have files := (advance_enters there.symm (loop.outside _ busy)).1
    have events := eventsSince_of_added [FileEvent.opened loop.job.base true] files
    rw [FilesLabel.operations, after]
    exact congrArg (List.filterMap (FileEvent.operation loop.opening.transfer)) events
  · cases start
  · cases start

/-- Where the thread is after the passes of the loop. -/
theorem FrameLoop.loopAt : LoopAt loop.thread loop.client loop.job loop.last loop.passes := by
  have initially : LoopAt loop.thread loop.client loop.job loop.entered [] := by
    refine .looping ?_ (Nat.succ_pos _) ?_
    · rw [loop.inside]
      simp [GenerateJob.frameAt]
    · intro index pass there
      cases there
  have guarded : (filesMachine auth).EveryStep (fun _ label => label.action ≠ .leave loop.thread)
      loop.entered loop.labels :=
    Machine.everyStep_of_labels fun label member _ => loop.stays label member
  exact Machine.run_observed_on
    (fun state label next seen at_ stays step => at_.step loop.ordered stays step)
    initially guarded loop.ran

/-- What the passes have made of a file that no other thread writes to. -/
theorem FrameLoop.fileAt (alone : loop.AloneOnFile) :
    FileAt loop.thread loop.client loop.job loop.last loop.passes := by
  obtain ⟨own, operations⟩ := loop.opened
  have disk := (filesMachine_step.mp loop.opens).2
  rw [own, operations] at disk
  have initially : FileAt loop.thread loop.client loop.job loop.entered [] := by
    refine .writing alone.1 loop.inside ?_
    rw [disk]
    exact carries_opened 0 _ _ _
  have guarded := (Machine.everyStep_of_labels fun label member _ => loop.stays label member :
    (filesMachine auth).EveryStep (fun _ label => label.action ≠ .leave loop.thread)
      loop.entered loop.labels).and alone.2
  exact Machine.run_observed_on
    (fun state label next seen file met step =>
      file.step met.1 (fun apart => met.2 apart next step) step)
    initially guarded loop.ran

/-- Every pass of a loop whose canvas stays live finds a canvas. -/
theorem FrameLoop.finds {record : CanvasPtr} (succeeds : loop.Succeeds record) :
    ∃ object, canvasRecordPtr loop.entered.rpc.world.store record = some object ∧
      Finds loop.thread loop.client loop.job record object loop.username loop.last loop.passes := by
  obtain ⟨object, offers, pointer⟩ := offers_of_found succeeds.named
  have initially : Finds loop.thread loop.client loop.job record object loop.username
      loop.entered [] :=
    ⟨offers, rfl, ⟨_, loop.inside, .inl ⟨_, rfl⟩⟩, by simp⟩
  have guarded := ((Machine.everyStep_of_labels fun label member _ => loop.stays label member :
    (filesMachine auth).EveryStep (fun _ label => label.action ≠ .leave loop.thread)
      loop.entered loop.labels).and succeeds.lives.everyStep).and succeeds.among
  exact ⟨object, pointer, Machine.run_observed_on
    (fun state label next seen finds met step =>
      finds.step (leads_of_found succeeds.named).1 met.1.1 met.1.2 met.2 step)
    initially guarded loop.ran⟩

/-- The loop ends, whatever the other threads do. -/
theorem FrameLoop.terminates : loop.Terminates := by
  have at_ := loop.loopAt
  generalize same : loop.passes = passes at at_
  cases at_ with
  | looping here inside done =>
    refine ⟨by rw [same]; omega, fun all => ?_, fun unfinished answers transfer => ?_⟩
    · rw [same] at all
      omega
    · have step := @rpcMachine_advance auth loop.last.rpc loop.thread
        { answers with written := transfer.complete } loop.client _ here rfl
      exact filesMachine_possible step
  | ended split here inside done ends =>
    have finished : loop.Finished := ⟨_, here⟩
    refine ⟨?_, fun _ => finished, fun unfinished => absurd finished unfinished⟩
    rw [same, split, List.length_append, List.length_singleton]
    omega

/-- The passes that take place before the thread has its response are in order, and the last one
says how it ended. -/
theorem FrameLoop.ending (finished : loop.Finished) :
    ∃ front pass operations response, loop.passes = front ++ [pass] ∧
      loop.last.rpc.threads loop.thread = some ⟨loop.client, .finished response⟩ ∧
      front.length < loop.job.frames ∧ InOrder loop.job front ∧
      PassEnds loop.job (loop.job.frameAt front.length) pass operations (.finished response) := by
  obtain ⟨response, there⟩ := finished
  cases loop.loopAt with
  | looping here inside done =>
    rw [here] at there
    cases there
  | ended split here inside done ends => exact ⟨_, _, _, _, split, here, inside, done, ends⟩

/-- A loop that succeeds takes a pass for every frame, each in order. -/
theorem FrameLoop.all_inOrder {record : CanvasPtr} (succeeds : loop.Succeeds record) :
    loop.passes.length = loop.job.frames ∧ InOrder loop.job loop.passes := by
  obtain ⟨front, pass, operations, response, split, -, inside, done, ends⟩ :=
    loop.ending succeeds.finished
  have last : pass ∈ loop.passes := by
    rw [split]
    exact List.mem_append_right front (List.mem_singleton_self pass)
  cases ends with
  | missing misses silent replied =>
    obtain ⟨object, -, finds⟩ := loop.finds succeeds
    obtain ⟨other, found, -⟩ := finds.found pass last
    rw [FramePass.Misses, found] at misses
    cases misses
  | short renders torn replied =>
    rw [succeeds.whole pass last] at torn
    cases torn
  | last renders whole none_left =>
    have enough : ¬ front.length + 1 < loop.job.frames := fun more =>
      none_left ((goes_on_iff loop.ordered inside).mpr more)
    rw [split]
    refine ⟨?_, done.concat renders whole⟩
    rw [List.length_append, List.length_singleton]
    omega

/-- It renders the frames on one canvas if no other canvas has its handle. -/
theorem FrameLoop.rendersAll {record : CanvasPtr} (succeeds : loop.Succeeds record) :
    loop.RendersAll record := by
  obtain ⟨count, order⟩ := loop.all_inOrder succeeds
  obtain ⟨object, entered, finds⟩ := loop.finds succeeds
  refine ⟨count, fun index pass there => (order index pass there).1, fun alone index pass there => ?_⟩
  obtain ⟨hit, canvas, found, pointer, calls⟩ := (order index pass there).1
  obtain ⟨other, also, leads, same⟩ := finds.found pass (List.mem_of_getElem? there)
  have named : hit = record := by
    obtain rfl := Option.some.inj (found.symm.trans also)
    exact alone hit leads
  rw [named, same] at pointer
  rw [calls, entered, pointer]

/-- Passes in order have written the frames. -/
theorem InOrder.parts {job : GenerateJob} {passes : List FramePass} (done : InOrder job passes) :
    (passes.flatMap fun pass => pass.part job) = passes.flatMap fun pass => pass.transfer.image := by
  refine List.flatMap_congr fun pass member => ?_
  obtain ⟨index, there⟩ := List.mem_iff_getElem?.mp member
  obtain ⟨renders, whole⟩ := done index pass there
  exact renders.part_whole whole

/-- What the stream has taken by the end of the last pass is what it has taken in all passes. -/
theorem FrameLoop.file (alone : loop.AloneOnFile) (finished : loop.Finished) :
    ∃ front pass, loop.passes = front ++ [pass] ∧
      loop.content <+: loop.passes.flatMap (fun pass => pass.part loop.job) ∧
      (pass.Sends loop.job (loop.passes.flatMap fun pass => pass.part loop.job) →
        loop.content = loop.passes.flatMap fun pass => pass.part loop.job) := by
  obtain ⟨response, there⟩ := finished
  cases loop.fileAt alone with
  | writing spared here carries =>
    rw [here] at there
    cases there
  | left spared here split sent whole => exact ⟨_, _, split, sent, whole⟩

/-- After a loop that succeeds the file holds the frames, if every close succeeds and the file is
the request's own. -/
theorem FrameLoop.holdsFrames {record : CanvasPtr} (succeeds : loop.Succeeds record)
    (alone : loop.AloneOnFile) (closes : ∀ pass ∈ loop.passes, pass.closed = true) :
    loop.HoldsFrames := by
  obtain ⟨front, pass, split, -, whole⟩ := loop.file alone succeeds.finished
  have last : pass ∈ loop.passes := by
    rw [split]
    exact List.mem_append_right front (List.mem_singleton_self pass)
  rw [FrameLoop.HoldsFrames, ← (loop.all_inOrder succeeds).2.parts]
  exact whole (.inl ⟨closes pass last, .inr (succeeds.whole pass last)⟩)

/-- A pass that fails is the last one of a loop that has ended. -/
theorem FrameLoop.failed {index : Nat} {pass : FramePass} (fails : loop.FailsAt index pass) :
    ∃ front operations response, loop.passes = front ++ [pass] ∧ front.length = index ∧
      loop.last.rpc.threads loop.thread = some ⟨loop.client, .finished response⟩ ∧
      InOrder loop.job front ∧
      PassEnds loop.job (loop.job.frameAt index) pass operations (.finished response) := by
  obtain ⟨there, failure⟩ := fails
  have fine : ¬ (pass.Renders loop.job (loop.job.frameAt index) ∧
      pass.transfer.complete = true) := by
    rintro ⟨renders, whole⟩
    rcases failure with misses | torn
    · exact renders.found misses
    · rw [whole] at torn
      cases torn
  cases loop.loopAt with
  | looping here inside done => exact absurd (done index pass there) fine
  | ended split here inside done ends =>
    rename_i front last operations response
    rw [split] at there
    by_cases before : index < front.length
    · rw [List.getElem?_append_left before] at there
      exact absurd (done index pass there) fine
    · rw [List.getElem?_append_right (Nat.le_of_not_lt before), List.getElem?_singleton] at there
      split at there
      · rename_i first
        have same : front.length = index := by omega
        obtain rfl := Option.some.inj there
        exact ⟨front, operations, response, split, same, here, done, same ▸ ends⟩
      · cases there

/-- A pass that fails stops the loop. -/
theorem FrameLoop.stopsAt {index : Nat} {pass : FramePass} (fails : loop.FailsAt index pass) :
    loop.StopsAt index pass := by
  obtain ⟨front, operations, response, split, rfl, here, done, ends⟩ := loop.failed fails
  have before : ∀ earlier (other : FramePass), earlier < front.length →
      loop.passes[earlier]? = some other →
      other.Renders loop.job (loop.job.frameAt earlier) ∧ other.transfer.complete = true := by
    intro earlier other inside there
    rw [split, List.getElem?_append_left inside] at there
    exact done earlier other there
  have final : loop.passes.length = front.length + 1 := by
    rw [split, List.length_append, List.length_singleton]
  cases ends with
  | missing misses silent replied =>
    refine ⟨final, before, fun _ => ⟨silent, part_missing misses⟩, fun found => absurd misses found,
      response, here, fun text given => ⟨fun _ => replied text given, fun found => ?_⟩⟩
    exact absurd misses found
  | short renders torn replied =>
    refine ⟨final, before, fun misses => absurd misses renders.found,
      fun _ => ⟨renders, renders.part_torn torn⟩, response, here, fun text given =>
        ⟨fun misses => absurd misses renders.found, fun _ => replied text given⟩⟩
  | last renders whole none_left =>
    rcases fails.2 with misses | torn
    · exact absurd misses renders.found
    · rw [whole] at torn
      cases torn

/-- Then the file holds a front of what the stream has taken, and all of it if that is sent. -/
theorem FrameLoop.failed_content {index : Nat} {pass : FramePass} (fails : loop.FailsAt index pass)
    (alone : loop.AloneOnFile) : loop.content <+: loop.takenBy index pass ∧
      (pass.Sends loop.job (loop.takenBy index pass) →
        loop.content = loop.takenBy index pass) := by
  obtain ⟨front, operations, response, split, rfl, here, done, -⟩ := loop.failed fails
  obtain ⟨earlier, last, again, sent, whole⟩ := loop.file alone ⟨response, here⟩
  obtain ⟨-, same⟩ := List.append_inj' (again.symm.trans split) rfl
  obtain rfl := (List.cons.inj same).1
  have taken : loop.takenBy front.length last =
      loop.passes.flatMap fun pass => pass.part loop.job := by
    rw [FrameLoop.takenBy, split, List.take_left, List.flatMap_append, List.flatMap_singleton,
      done.parts]
  rw [taken]
  exact ⟨sent, whole⟩

/-- What `generate` renders and writes: the loop ends; if the canvas stays live and the writes
succeed every requested frame is rendered once and in order, and they are in the file if it is the
request's own and is closed without an error; a pass whose lookup or write fails is the last, with
the frames before it written, and the reply is not a success. -/
theorem generate_renders_requested : loop.Terminates ∧
    (∀ record, loop.Succeeds record → loop.RendersAll record ∧
      (loop.AloneOnFile → (∀ pass ∈ loop.passes, pass.closed = true) → loop.HoldsFrames)) ∧
    ∀ index pass, loop.FailsAt index pass → loop.StopsAt index pass ∧
      (loop.AloneOnFile → loop.content <+: loop.takenBy index pass ∧
        (pass.Sends loop.job (loop.takenBy index pass) →
          loop.content = loop.takenBy index pass)) :=
  ⟨loop.terminates, fun _ succeeds => ⟨loop.rendersAll succeeds, loop.holdsFrames succeeds⟩,
    fun _ _ fails => ⟨loop.stopsAt fails, loop.failed_content fails⟩⟩

end Loop

/-! ## Ann and Bob write files -/

/-- Labels with which nothing is written. -/
def plainly (labels : List RpcLabel) : List FilesLabel := labels.map fun action => { action }

/-- Ann's thread takes a pass with a frame of one byte. -/
def annsPass (image : UInt8) (taken sent : Nat) (answers : Answers) : FilesLabel where
  action := .step 0 answers
  transfer := { image := [image], taken, sent }

/-- Ann has asked for the two last frames that there are, and found her canvas. -/
def annAsked : FilesState :=
  ((filesMachine twoUsers).run {} (plainly (annAndBobConnected ++ [.request 0 0
    (bytes "generate 1 film 18446744073709551614 18446744073709551615 25\n"), .step 0 {}]))).get rfl

/-- She has opened her file. -/
def annEntered : FilesState :=
  ((filesMachine twoUsers).step annAsked { action := .step 0 {} }).get rfl

/-- Her request, with what happens next. -/
def annsLoop (labels : List FilesLabel)
    (possible : ((filesMachine twoUsers).run annEntered labels).isSome = true)
    (stays : ∀ label ∈ labels, label.action ≠ .leave 0) : FrameLoop twoUsers where
  thread := 0
  client := 0
  job := ⟨1, bytes "film", 0xfffffffffffffffe, 0xffffffffffffffff, 25⟩
  before := annAsked
  opening := { action := .step 0 {} }
  entered := annEntered
  labels
  last := ((filesMachine twoUsers).run annEntered labels).get possible
  reached := ⟨_, (Option.some_get _).symm⟩
  outside := by
    intro work there job frame here
    have locking : annAsked.rpc.threads 0 = some ⟨0, .locking (.generate
      ⟨1, bytes "film", 0xfffffffffffffffe, 0xffffffffffffffff, 25⟩)⟩ := rfl
    obtain rfl := Option.some.inj (locking.symm.trans there)
    cases here
  opens := (Option.some_get _).symm
  inside := rfl
  ran := (Option.some_get _).symm
  stays

/-- A step of another thread is on a request of another client than Ann. -/
def othersAreNotAnn (state : FilesState) (label : FilesLabel) : Bool :=
  match label.action with
  | .step other _ => other = 0 || (state.rpc.threads other).all fun work => work.client ≠ 0
  | _ => true

/-- A step of another thread does nothing to its stream. -/
def othersWriteNothing (state : FilesState) (label : FilesLabel) : Bool :=
  label.action.thread = 0 || ((filesMachine twoUsers).step state label).all fun next =>
    (label.operations state.rpc.world next.rpc.world).isEmpty

/-- The first canvas is live. -/
def firstCanvasLives (state : FilesState) : Bool :=
  (state.rpc.world.store.canvases[0]?).any fun canvas => canvas.canvas.isSome && !canvas.deleted

section Ann

variable {labels : List FilesLabel}
  {possible : ((filesMachine twoUsers).run annEntered labels).isSome = true}
  {stays : ∀ label ∈ labels, label.action ≠ .leave 0}

/-- Her loop succeeds if her canvas lives, the others are not Ann, and her writes are complete. -/
theorem annsLoop_succeeds
    (lives : (filesMachine twoUsers).checks firstCanvasLives annEntered labels = true)
    (among : (filesMachine twoUsers).checksSteps othersAreNotAnn annEntered labels = true)
    (whole : ((annsLoop labels possible stays).passes.all fun pass => pass.transfer.complete) = true)
    (finished : (annsLoop labels possible stays).Finished) :
    (annsLoop labels possible stays).Succeeds 0 where
  named := rfl
  lives := by
    refine (Machine.always_of_checks lives).imp fun state live => ?_
    obtain ⟨canvas, present, alive⟩ := (Option.any_eq_true _ _).mp live
    obtain ⟨object, unmarked⟩ := Bool.and_eq_true_iff.mp alive
    exact ⟨canvas, present, object, by simpa using unmarked⟩
  whole := List.all_eq_true.mp whole
  among := by
    refine Machine.everyStep_mono (fun state label next _ checked _ => ?_)
      (fun _ _ _ _ _ _ => trivial) (trivial : (fun _ => True) annEntered)
      (Machine.everyStep_of_checks among)
    intro other answers work here apart busy
    have foreign : other ≠ 0 := apart
    show work.client ≠ 0
    simpa [othersAreNotAnn, here, foreign, busy] using checked
  finished := finished

/-- Her file is her own if the others write nothing. -/
theorem annsLoop_alone
    (quiet : (filesMachine twoUsers).checksSteps othersWriteNothing annEntered labels = true) :
    (annsLoop labels possible stays).AloneOnFile := by
  constructor
  · intro other stream apart opened
    have streams : annEntered.disk.streams =
        Function.update (fun _ => none) 0 (some { name := bytes "film.dat" }) := rfl
    have foreign : other ≠ 0 := apart
    have here : annEntered.disk.streams other = some stream := opened
    rw [streams, Function.update_of_ne foreign] at here
    cases here
  · refine Machine.everyStep_mono (fun state label next _ checked _ => ?_)
      (fun _ _ _ _ _ _ => trivial) (trivial : (fun _ => True) annEntered)
      (Machine.everyStep_of_checks quiet)
    intro apart after step member
    have foreign : label.action.thread ≠ 0 := apart
    simp only [othersWriteNothing, foreign, decide_false, Bool.false_or, step, Option.all_some,
      List.isEmpty_iff] at checked
    rw [checked] at member
    cases member

end Ann

/-- Bob asks for the canvas between Ann's frames. -/
def bobLooks : List FilesLabel :=
  annsPass 7 1 0 {} :: plainly [.request 1 1 (bytes "share_canvas 1 bob\n"), .step 1 {},
    .step 1 {}] ++ [annsPass 8 1 0 {}]

/-- Her two frames are rendered, the last one past which the counter cannot go, and they are in her
file. -/
theorem generate_renders_requested_film : ∃ loop : FrameLoop twoUsers,
    loop.job.last = 0xffffffffffffffff ∧ loop.RendersAll 0 ∧ loop.content = [7, 8] := by
  have whole := (generate_renders_requested (annsLoop bobLooks rfl (by decide))).2.1 0
    (annsLoop_succeeds rfl rfl rfl ⟨_, rfl⟩)
  exact ⟨_, rfl, whole.1, whole.2 (annsLoop_alone rfl) (List.all_eq_true.mp rfl)⟩

/-- Bob opens a file of the same name between Ann's frames. -/
def bobOpens : List FilesLabel :=
  annsPass 7 1 1 {} :: plainly [.request 1 1 (bytes "generate 1 film 0 0 25\n"), .step 1 {},
    .step 1 {}] ++ [annsPass 8 1 1 {}]

/-- The file does not hold the frames when another request opens it, nor when the close fails, and
not those before a failed write when the stream loses what it had taken. -/
theorem generate_file_false :
    (¬ ∀ (loop : FrameLoop twoUsers) (record : CanvasPtr), loop.Succeeds record →
      (∀ pass ∈ loop.passes, pass.closed = true) → loop.HoldsFrames) ∧
    (¬ ∀ (loop : FrameLoop twoUsers) (record : CanvasPtr), loop.Succeeds record →
      loop.AloneOnFile → loop.HoldsFrames) ∧
    ¬ ∀ (loop : FrameLoop twoUsers) (index : Nat) (pass : FramePass), loop.FailsAt index pass →
      loop.AloneOnFile → (∀ pass ∈ loop.passes, pass.closed = true) →
      loop.content = loop.takenBy index pass := by
  refine ⟨fun held => ?_, fun held => ?_, fun held => ?_⟩
  · have frames := held (annsLoop bobOpens rfl (by decide)) 0
      (annsLoop_succeeds rfl rfl rfl ⟨_, rfl⟩) (List.all_eq_true.mp rfl)
    have overwritten : ([0, 8] : Bytes) = [7, 8] := frames
    cases overwritten
  · have frames := held (annsLoop [annsPass 7 1 0 {}, annsPass 8 1 0 { closed := false }] rfl
      (by decide)) 0 (annsLoop_succeeds rfl rfl rfl ⟨_, rfl⟩) (annsLoop_alone rfl)
    have lost : ([] : Bytes) = [7, 8] := frames
    cases lost
  · have frames := held (annsLoop [annsPass 7 1 0 {}, annsPass 8 0 0 {}] rfl (by decide)) 1 _
      ⟨rfl, .inr rfl⟩ (annsLoop_alone rfl) (List.all_eq_true.mp rfl)
    have lost : ([] : Bytes) = [7] := frames
    cases lost

end AnimateService
