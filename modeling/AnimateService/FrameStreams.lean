import AnimateService.FrameLoop
import AnimateService.Placements

/-!
# The streams of `generate`

A thread has a stream open exactly while it is in the frame loop, on the `.dat` file of its request.
Whatever fails on the way, and whatever other threads do, it opens no second one, writes to none
that is closed, closes each once, and leaves none behind.
-/
namespace AnimateService

open OutputStreams Transition

/-- The file that a thread has open at a place. -/
def Pc.dat? : Pc → Option Bytes
  | .frame job _ => some job.dat
  | _ => none

/-- The file that a thread has open. -/
def RpcState.dat? (state : RpcState) (thread : ThreadId) : Option Bytes :=
  (state.threads thread).bind fun work => work.pc.dat?

/-- The operations on the stream of a thread that a step is. -/
def streamOperations (auth : AuthDb) (thread : ThreadId) (state : FilesState) (label : FilesLabel) :
    List (Operation Bytes UInt8) :=
  if label.action.thread = thread then
    ((((rpcMachine auth).step state.rpc label.rpc).map fun next =>
      label.operations state.rpc.world next.world).getD [])
  else []

/-- The name of the files that an event is about, without their suffixes. -/
def FileEvent.base : FileEvent → Bytes
  | .opened base _ | .wroteFrame base _ _ | .closed base _ | .rendered base _ _ _ _ => base

/-! ## Steps -/

/-- The file events of a step are about the files of the request that is served, and they lead from
the file that is open before the step to the one behind it. -/
def Streams (world : World) (served : Option GenerateJob) (before : Option Bytes)
    (result : World × Pc) : Prop :=
  ∃ added, result.1.files = added ++ world.files ∧
    (∀ event ∈ added, ∃ job, served = some job ∧ event.base = job.base) ∧ ∀ transfer,
    lifetime before (added.reverse.filterMap (FileEvent.operation transfer)) = some result.2.dat?

section Steps

variable {auth : AuthDb} {answers : Answers} {session : Session} {world : World}

/-- A step without file events. -/
theorem streams_nothing {served : Option GenerateJob} {result : World × Pc}
    (files : result.1.files = world.files) (outside : result.2.dat? = none) :
    Streams world served none result :=
  ⟨[], files, by simp, fun _ => congrArg some outside.symm⟩

/-- The rest of an operation. -/
theorem streams_resume (resume : Resume) :
    Streams world resume.job? none (resumeAfterWait answers world resume) := by
  cases resume with
  | place canvas sprite canvasId spriteId x y =>
    refine streams_nothing rfl ?_
    simp only [resumeAfterWait]
    split <;> rfl
  | move move placement => exact streams_nothing rfl rfl
  | setParams placement vx vy ax ay => exact streams_nothing rfl rfl
  | generate canvas job =>
    unfold resumeAfterWait
    dsimp only
    split
    · split
      · rename_i opened
        exact ⟨[.opened job.base true], by rw [opened]; rfl, by simp [Resume.job?, FileEvent.base],
          fun _ => rfl⟩
      · rename_i failed
        refine ⟨[.opened job.base false], ?_, by simp [Resume.job?, FileEvent.base], fun _ => rfl⟩
        rw [Bool.eq_false_iff.mpr failed]
        rfl
    · exact streams_nothing rfl rfl

/-- An operation that may have to wait. -/
theorem streams_wait (record : CanvasPtr) (username : Bytes) (resume : Resume) :
    Streams world resume.job? none (waitThenResume answers world record username resume) := by
  unfold waitThenResume
  split
  · exact streams_nothing rfl rfl
  · exact streams_resume resume

/-- An operation on a placement. -/
theorem streams_through (username : Bytes) (placement : Nat) (resume : Resume) :
    Streams world resume.job? none (throughPlacement answers world username placement resume) := by
  unfold throughPlacement
  split
  · exact @streams_wait answers { world with store := _ } _ username resume
  · exact @streams_resume answers { world with store := _ } resume

/-- The first section of a command. -/
theorem streams_section (command : StoreCommand) :
    Streams world command.job? none (lockedSection answers session world command) := by
  cases command with
  | destroyCanvas id => exact streams_nothing rfl rfl
  | destroySprite id => exact streams_nothing rfl rfl
  | destroyPlacement id => exact streams_nothing rfl rfl
  | shareCanvas canvasId target => exact streams_nothing rfl rfl
  | placeSprite canvasId spriteId x y =>
    simp only [lockedSection]
    split
    · exact @streams_wait answers { world with store := _ } _ _ _
    · exact streams_nothing rfl rfl
  | movePlacement move id =>
    simp only [lockedSection]
    split
    · exact streams_through _ _ _
    · exact streams_nothing rfl rfl
  | setAnimationParams id vx vy ax ay =>
    simp only [lockedSection]
    split
    · exact streams_through _ _ _
    · exact streams_nothing rfl rfl
  | barrier canvasId =>
    refine streams_nothing rfl ?_
    simp only [lockedSection]
    split <;> rfl
  | generate job =>
    simp only [lockedSection]
    split
    · exact @streams_wait answers { world with store := _ } _ _ _
    · exact streams_nothing rfl rfl

/-- The beginning of a request. -/
theorem streams_start (line : Bytes) :
    Streams world none none (startRequest auth answers session world line).2 := by
  apply startRequest_cases (motive := fun result => Streams world none none result.2)
  · exact fun _ _ => streams_nothing rfl rfl
  · intro arguments _
    obtain ⟨text, answered⟩ := login_reply auth answers session arguments
    refine streams_nothing rfl ?_
    rw [answered]
    rfl
  · exact fun _ _ => streams_nothing rfl rfl
  · intro name arguments command _ _ _ _ _ _
    cases command with
    | createCanvas height width color =>
      refine streams_nothing rfl ?_
      simp only [beginCommand]
      split <;> rfl
    | createSprite shape =>
      refine streams_nothing rfl ?_
      simp only [beginCommand]
      split <;> rfl
    | store command => exact streams_nothing rfl rfl

/-- A pass of the frame loop. -/
theorem streams_frame (job : GenerateJob) (frame : UInt64) :
    Streams world (some job) (some job.dat) (generateFrame answers session world job frame) := by
  -- all are events of the request
  have own : ∀ events : List FileEvent, (∀ event ∈ events, event.base = job.base) →
      ∀ event ∈ events, ∃ served, some job = some served ∧ event.base = served.base :=
    fun events same event member => ⟨job, rfl, same event member⟩
  unfold generateFrame
  split
  · dsimp only
    split
    · split
      · exact ⟨[.wroteFrame job.base frame answers.written], rfl,
          own _ (by simp [FileEvent.base]), fun _ => rfl⟩
      · unfold finishGenerate
        dsimp only
        split
        · exact ⟨[.rendered job.base _ _ job.frameRate answers.rendered,
            .closed job.base answers.closed, .wroteFrame job.base frame answers.written], rfl,
            own _ (by simp [FileEvent.base]), fun _ => rfl⟩
        · exact ⟨[.closed job.base answers.closed, .wroteFrame job.base frame answers.written], rfl,
            own _ (by simp [FileEvent.base]), fun _ => rfl⟩
    · exact ⟨[.closed job.base answers.closed, .wroteFrame job.base frame answers.written], rfl,
        own _ (by simp [FileEvent.base]), fun _ => rfl⟩
  · exact ⟨[.closed job.base answers.closed], rfl, own _ (by simp [FileEvent.base]), fun _ => rfl⟩

/-- The file events of every step of a thread are about the file of its own request. -/
theorem advance_streams (pc : Pc) :
    Streams world pc.job? pc.dat? (advance auth answers session world pc).2 := by
  have answered : ∀ (store : HandleStore) (id : UInt64) (undo : Call),
      Streams world none none (answerHandle answers { world with store } id undo) := by
    intro store id undo
    unfold answerHandle
    split <;> exact streams_nothing rfl rfl
  cases pc with
  | start line => exact streams_start line
  | frame job frame => exact streams_frame job frame
  | addCanvas canvas width height => exact answered _ _ _
  | addSprite sprite => exact answered _ _ _
  | addPlacement placement canvasId spriteId => exact answered _ _ _
  | locking command => exact streams_section command
  | barrierWait record user =>
    refine streams_nothing rfl ?_
    simp only [advance]
    split <;> rfl
  | canvasWait record user resume =>
    simp only [advance]
    split
    · exact streams_nothing rfl rfl
    · exact streams_resume resume
  | disconnect =>
    simp only [advance]
    split <;> exact streams_nothing rfl rfl
  | endSession => exact streams_nothing rfl rfl
  | finished response => exact streams_nothing rfl rfl

end Steps

/-! ## Runs -/

section Runs

variable {auth : AuthDb} {state next : FilesState} {label : FilesLabel} {thread : ThreadId}

/-- The operations of a thread so far lead to the file that it has open, and its stream is on it. -/
structure StreamOf (thread : ThreadId) (state : FilesState)
    (operations : List (Operation Bytes UInt8)) : Prop where
  /-- They are in order. -/
  leads : lifetime none operations = some (state.rpc.dat? thread)
  /-- The stream is open. -/
  open_ : (state.disk.streams thread).map Stream.name = state.rpc.dat? thread

/-- What a step of a thread does to files leads to the file that it has open then. -/
theorem operations_lead (step : (filesMachine auth).step state label = some next)
    (own : label.action.thread = thread) :
    lifetime (state.rpc.dat? thread) (label.operations state.rpc.world next.rpc.world) =
      some (next.rpc.dat? thread) := by
  obtain ⟨taken, -⟩ := filesMachine_step.mp step
  by_cases steps : ∃ other answers, label.rpc = .step other answers
  · obtain ⟨other, answers, called⟩ := steps
    rw [called] at taken
    obtain ⟨client, pc, busy, -, after⟩ := rpcMachine_step taken
    obtain rfl : other = thread := by
      rw [← own, ← label.rpc_thread, called]
      rfl
    obtain ⟨added, files, -, leads⟩ := @advance_streams auth answers (state.rpc.sessions client)
      state.rpc.world pc
    have world : next.rpc.world.files = added ++ state.rpc.world.files := by
      rw [after]
      exact files
    have place : next.rpc.dat? other = (advance auth answers (state.rpc.sessions client)
        state.rpc.world pc).2.2.dat? := by
      simp [RpcState.dat?, after, RpcState.advanceThread]
    rw [FilesLabel.operations, eventsSince_of_added added world, place, RpcState.dat?, busy]
    exact leads label.transfer
  · -- the thread begins or leaves
    obtain ⟨other, work, after, outside, begins⟩ : ∃ other work,
        next.rpc = state.rpc.setThread other work ∧ state.rpc.dat? other = none ∧
          (work.bind fun taken => taken.pc.dat?) = none := by
      rcases rpcMachine_cases taken with
        ⟨other, answers, -, -, called, -⟩ | ⟨other, work, -, after, idle, begins⟩
      · exact absurd ⟨other, answers, called⟩ steps
      · refine ⟨other, work, after, ?_, ?_⟩
        · rcases idle with none | leaves
          · rw [RpcState.dat?, none]
            rfl
          · rw [leaves] at taken
            simp only [rpcMachine] at taken
            split at taken
            · rename_i finished
              rw [RpcState.dat?, finished]
              rfl
            · cases taken
        · cases work with
          | none => rfl
          | some work =>
            obtain ⟨client, pc⟩ := work
            rcases begins _ rfl with ⟨line, rfl⟩ | rfl <;> rfl
    have still : next.rpc.dat? thread = state.rpc.dat? thread := by
      by_cases here : thread = other
      · subst here
        rw [outside, RpcState.dat?, after]
        simpa [RpcState.setThread] using begins
      · simp [RpcState.dat?, after, RpcState.setThread, Function.update_of_ne here]
    have world : next.rpc.world.files = [] ++ state.rpc.world.files := by rw [after]; rfl
    rw [FilesLabel.operations, eventsSince_of_added [] world, still]
    cases state.rpc.dat? thread <;> rfl

/-- A step of the thread adds its operations. -/
theorem StreamOf.own {operations : List (Operation Bytes UInt8)}
    (stream : StreamOf thread state operations)
    (step : (filesMachine auth).step state label = some next) (own : label.action.thread = thread) :
    StreamOf thread next (operations ++ streamOperations auth thread state label) := by
  obtain ⟨taken, disk⟩ := filesMachine_step.mp step
  have seen : streamOperations auth thread state label =
      label.operations state.rpc.world next.rpc.world := by
    rw [streamOperations, if_pos own, taken]
    rfl
  have leads := operations_lead step own
  constructor
  · rw [seen, lifetime_append, stream.leads]
    exact leads
  · rw [disk, own]
    exact Disk.performAll_lifetime 0 (stream.open_ ▸ leads)

/-- A step of another thread does not concern it. -/
theorem StreamOf.other {operations : List (Operation Bytes UInt8)}
    (stream : StreamOf thread state operations)
    (step : (filesMachine auth).step state label = some next) (apart : label.action.thread ≠ thread) :
    StreamOf thread next (operations ++ streamOperations auth thread state label) := by
  obtain ⟨-, disk⟩ := filesMachine_step.mp step
  have place : next.rpc.dat? thread = state.rpc.dat? thread := by
    rw [RpcState.dat?, (@pass_elsewhere auth state next label thread 0 step apart).2]
    rfl
  have seen : streamOperations auth thread state label = [] := if_neg apart
  constructor
  · rw [seen, List.append_nil, place]
    exact stream.leads
  · rw [disk, Disk.performAll_streams_ne 0 (Ne.symm apart), place]
    exact stream.open_

/-- After every step, the stream of a thread is what its operations have made of it. -/
theorem StreamOf.step {operations : List (Operation Bytes UInt8)}
    (stream : StreamOf thread state operations)
    (step : (filesMachine auth).step state label = some next) :
    StreamOf thread next (operations ++ streamOperations auth thread state label) := by
  by_cases own : label.action.thread = thread
  · exact stream.own step own
  · exact stream.other step own

/-- No request leaks a stream. In every run of the requests with their files, whatever fails and
whatever the other threads do, the operations of a thread on its stream are in order (it opens one
only when it has none, and writes and closes only while it has one), and its stream is open exactly
while it is in the frame loop, on the `.dat` file of its request. -/
theorem streams_never_leak {labels : List FilesLabel} {last : FilesState}
    (ran : (filesMachine auth).run {} labels = some last) (thread : ThreadId) :
    lifetime none ((filesMachine auth).observed (streamOperations auth thread) {} labels) =
        some (last.rpc.dat? thread) ∧
      (last.disk.streams thread).map Stream.name = last.rpc.dat? thread := by
  have kept : ∀ state label next operations, StreamOf thread state operations →
      (filesMachine auth).step state label = some next →
      StreamOf thread next (operations ++ streamOperations auth thread state label) :=
    fun state label next operations stream step => stream.step step
  have stream := Machine.run_observed kept (⟨rfl, rfl⟩ : StreamOf thread {} []) ran
  rw [List.nil_append] at stream
  exact ⟨stream.leads, stream.open_⟩

end Runs

/-- Ann asks for two frames, and the disk is full at the second. -/
def tornFilm : List FilesLabel :=
  let asked : List RpcLabel := handled 0 0 "Login ann\n" 1 ++ handled 0 0 "create_canvas 1 1 0\n" 2 ++
    [.request 0 0 (bytes "generate 1 film 0 1 25\n"), .step 0 {}, .step 0 {}]
  asked.map (fun action => ({ action } : FilesLabel)) ++
    [{ action := .step 0 {}, transfer := { image := [7], taken := 1 } },
      { action := .step 0 {}, transfer := { image := [8], taken := 0 } }]

/-- Her stream is open before that and closed behind it. -/
theorem streams_never_leak_torn : ∃ middle last,
    (filesMachine [⟨bytes "ann", 5⟩]).run {} (tornFilm.take 11) = some middle ∧
      (middle.disk.streams 0).map Stream.name = some (bytes "film.dat") ∧
      (filesMachine [⟨bytes "ann", 5⟩]).run {} tornFilm = some last ∧
      (last.disk.streams 0).map Stream.name = none := by
  have opens : ((filesMachine [⟨bytes "ann", 5⟩]).run {} (tornFilm.take 11)).map
      (fun state => state.rpc.dat? 0) = some (some (bytes "film.dat")) := by decide +kernel
  have closes : ((filesMachine [⟨bytes "ann", 5⟩]).run {} tornFilm).map
      (fun state => state.rpc.dat? 0) = some none := by decide +kernel
  obtain ⟨middle, reached, inside⟩ := Option.map_eq_some_iff.mp opens
  obtain ⟨last, ran, outside⟩ := Option.map_eq_some_iff.mp closes
  exact ⟨middle, last, reached, (streams_never_leak reached 0).2.trans inside, ran,
    (streams_never_leak ran 0).2.trans outside⟩

/-! ## Names -/

section Names

variable {auth : AuthDb} {answers : Answers} {session : Session} {world : World}
  {job : GenerateJob}

/-- A request for frames is served when its name was accepted. -/
theorem startRequest_named {line : Bytes}
    (serves : (startRequest auth answers session world line).2.2.job? = some job) :
    validFilenameBase job.base = true := by
  revert serves
  apply startRequest_cases (motive := fun result => result.2.2.job? = some job →
    validFilenameBase job.base = true)
  · intro answers code serves
    cases serves
  · intro arguments _ serves
    obtain ⟨text, answered⟩ := login_reply auth answers session arguments
    rw [answered] at serves
    cases serves
  · intro arguments _ serves
    cases serves
  · intro name arguments command _ _ _ _ _ parsed serves
    cases command with
    | createCanvas height width color =>
      simp only [beginCommand] at serves
      split at serves <;> cases serves
    | createSprite shape =>
      simp only [beginCommand] at serves
      split at serves <;> cases serves
    | store command =>
      cases command with
      | generate asked =>
        cases serves
        cases parseCommand_accepted parsed with
        | plain numbers => cases numbers
        | generate named checked => exact named
      | _ => cases serves

/-- A step leads to a request for frames with an accepted name, if it does not come from one. -/
theorem advance_named {pc : Pc}
    (serves : (advance auth answers session world pc).2.2.job? = some job) :
    pc.job? = some job ∨ validFilenameBase job.base = true := by
  by_cases begun : ∃ line, pc = .start line
  · obtain ⟨line, rfl⟩ := begun
    exact .inr (startRequest_named serves)
  by_cases inside : ∃ job frame, pc = .frame job frame
  · obtain ⟨own, frame, rfl⟩ := inside
    exact .inl (congrArg some (generateFrame_job serves))
  · exact .inl (advance_approaches (fun line here => begun ⟨line, here⟩)
      (fun job frame here => inside ⟨job, frame, here⟩) job serves).1

end Names

/-- The requests for frames that are served have accepted names, and files were only ever used under
such names. -/
structure NamesFiles (state : RpcState) : Prop where
  /-- The requests. -/
  served : ∀ thread client pc job, state.threads thread = some ⟨client, pc⟩ →
    pc.job? = some job → validFilenameBase job.base = true
  /-- The events. -/
  events : ∀ event ∈ state.world.files, validFilenameBase event.base = true

section Places

variable {auth : AuthDb}

/-- After every step, requests for frames have accepted names, and files were used under such names
only. -/
theorem NamesFiles.step {state next : RpcState} {label : RpcLabel} (names : NamesFiles state)
    (step : (rpcMachine auth).step state label = some next) : NamesFiles next := by
  constructor
  · intro thread client pc job working serves
    rcases rpcMachine_came step working with
      same | ⟨answers, before, -, busy, -, rfl⟩ | ⟨line, rfl⟩ | rfl
    · exact names.served _ _ _ _ same serves
    · rcases advance_named serves with earlier | named
      · exact names.served _ _ _ _ busy earlier
      · exact named
    · cases serves
    · cases serves
  · rcases rpcMachine_cases step with
      ⟨thread, answers, client, pc, -, busy, -, rfl⟩ | ⟨thread, work, -, rfl, -⟩
    · obtain ⟨added, files, own, -⟩ := @advance_streams auth answers (state.sessions client)
        state.world pc
      intro event member
      have inside : event ∈ added ++ state.world.files := files ▸ member
      rcases List.mem_append.mp inside with late | early
      · obtain ⟨job, serves, same⟩ := own event late
        rw [same]
        exact names.served _ _ _ _ busy serves
      · exact names.events event early
    · exact names.events

/-- A file whose name no request may give is left alone. -/
def LeftAlone (files : Bytes → Bytes) (state : FilesState) : Prop :=
  ∀ name, (∀ base, validFilenameBase base = true → name ≠ withSuffix base (bytes ".dat")) →
    state.disk.files name = files name

/-- After every step, a file whose name no request may give is left alone. -/
theorem LeftAlone.step {files : Bytes → Bytes} {state next : FilesState} {label : FilesLabel}
    (alone : LeftAlone files state) (names : NamesFiles state.rpc)
    (streams : ∀ thread, (state.disk.streams thread).map Stream.name = state.rpc.dat? thread)
    (step : (filesMachine auth).step state label = some next) : LeftAlone files next := by
  obtain ⟨taken, disk⟩ := filesMachine_step.mp step
  have after := names.step taken
  intro name foreign
  refine Eq.trans ?_ (alone name foreign)
  rw [disk]
  refine Disk.performAll_files 0 ?_ ?_
  · -- the stream of the thread is on a file of its request
    rw [streams]
    intro open_
    obtain ⟨⟨client, pc⟩, working, place⟩ := Option.bind_eq_some_iff.mp open_
    cases pc with
    | frame job frame =>
      obtain rfl := Option.some.inj place
      exact foreign job.base (names.served _ _ _ _ working rfl) rfl
    | _ => cases place
  · rintro operation member rfl
    obtain ⟨event, seen, opens⟩ := List.mem_filterMap.mp member
    have logged : event ∈ next.rpc.world.files :=
      List.mem_of_mem_take (List.mem_reverse.mp seen)
    have named := after.events event logged
    cases event with
    | opened base succeeded =>
      cases succeeded with
      | true =>
        obtain rfl := Operation.opened.inj (Option.some.inj opens)
        exact foreign base named rfl
      | false => cases opens
    | wroteFrame base frame complete => cases opens
    | closed base succeeded => cases opens
    | rendered base width height frameRate succeeded => cases opens

/-- No request reaches another file. In every run of the requests, on any contents of the file
system, files are only used under names that were accepted, and the only files whose contents have
changed are those of frames, in the server's own directory: their names have no slash. -/
theorem files_stay_in_place {files : Bytes → Bytes} {labels : List FilesLabel} {last : FilesState}
    (ran : (filesMachine auth).run { disk := { files } } labels = some last) :
    (∀ event ∈ last.rpc.world.files, validFilenameBase event.base = true) ∧
      ∀ name, last.disk.files name ≠ files name → ∃ base, validFilenameBase base = true ∧
        name = withSuffix base (bytes ".dat") ∧ 47 ∉ name := by
  have kept : ∀ state label next,
      (NamesFiles state.rpc ∧ (∀ thread, ∃ operations, StreamOf thread state operations) ∧
        LeftAlone files state) →
      (filesMachine auth).step state label = some next →
      NamesFiles next.rpc ∧ (∀ thread, ∃ operations, StreamOf thread next operations) ∧
        LeftAlone files next := by
    rintro state label next ⟨names, streams, alone⟩ step
    refine ⟨names.step (filesMachine_step.mp step).1, fun thread => ?_, alone.step names ?_ step⟩
    · obtain ⟨operations, stream⟩ := streams thread
      exact ⟨_, stream.step step⟩
    · intro thread
      obtain ⟨operations, stream⟩ := streams thread
      exact stream.open_
  have initially : NamesFiles ({ disk := { files } } : FilesState).rpc ∧
      (∀ thread, ∃ operations, StreamOf thread { disk := { files } } operations) ∧
        LeftAlone files { disk := { files } } :=
    ⟨⟨by rintro thread client pc job ⟨⟩, by rintro event ⟨⟩⟩, fun thread => ⟨[], rfl, rfl⟩,
      fun _ _ => rfl⟩
  obtain ⟨names, -, alone⟩ := Machine.run_invariant kept initially ran
  refine ⟨names.events, fun name changed => ?_⟩
  by_contra foreign
  refine changed (alone name fun base valid same => foreign ⟨base, valid, same, ?_⟩)
  rw [same]
  intro slash
  rcases List.mem_append.mp slash with inside | behind
  · have plain := (of_decide_eq_true valid).2
    have allowed := List.all_eq_true.mp plain 47 inside
    exact absurd allowed (by decide)
  · exact absurd behind (by decide)

end Places

/-- Her film takes the place of the file that had its name. One in another directory stays. -/
theorem files_stay_in_place_torn : ∃ last,
    (filesMachine [⟨bytes "ann", 5⟩]).run { disk := { files := fun _ => [1] } } tornFilm =
        some last ∧
      last.disk.files (bytes "film.dat") ≠ [1] ∧ last.disk.files (bytes "films/film.dat") = [1] := by
  have replaced : ((filesMachine [⟨bytes "ann", 5⟩]).run { disk := { files := fun _ => [1] } }
      tornFilm).map (fun state => state.disk.files (bytes "film.dat")) = some [] := by
    decide +kernel
  obtain ⟨last, ran, emptied⟩ := Option.map_eq_some_iff.mp replaced
  refine ⟨last, ran, by rw [emptied]; decide, ?_⟩
  by_contra changed
  obtain ⟨-, -, -, plain⟩ := (files_stay_in_place ran).2 (bytes "films/film.dat") changed
  exact plain (by decide)

end AnimateService
