import Mathlib.Logic.Function.Basic
import AnimateService.CanvasSteps

/-!
# Requests on several threads

Any number of threads handle requests of any number of clients on one world. A step of the
machine is one step of one thread, so that the sections under the store's mutex are atomic and
everything between them interleaves. The main loop ends sessions on a thread of its own. Each
step changes the handle store as one `CanvasStep`, which carries the results about barriers over
to these interleavings.
-/
namespace AnimateService

open Transition

/-- The address of a `client_state_t`. -/
abbrev ClientId := Nat

/-- A worker, or the main loop. -/
abbrev ThreadId := Nat

/-- A thread inside `rpc_handle_request` or `rpc_client_disconnected`. -/
structure Thread where
  /-- The client whose request it is. -/
  client : ClientId
  /-- Where the thread is. -/
  pc : Pc
  deriving DecidableEq, Repr

/-- The sessions of the clients, what they share, and the threads at work. -/
structure RpcState where
  /-- The session of each client. -/
  sessions : ClientId → Session := fun _ => {}
  /-- The store, the library and the files. -/
  world : World := {}
  /-- What each thread is doing; `none` when it handles nothing. -/
  threads : ThreadId → Option Thread := fun _ => none

/-- What happens next, with the environment's choices. -/
inductive RpcLabel where
  /-- A thread begins to handle a request line of a client. -/
  | request (thread : ThreadId) (client : ClientId) (line : Bytes)
  /-- A thread begins to end a client's session. -/
  | close (thread : ThreadId) (client : ClientId)
  /-- A thread takes its next step. -/
  | step (thread : ThreadId) (answers : Answers)
  /-- A thread is done with its request. -/
  | leave (thread : ThreadId)
  deriving DecidableEq, Repr

/-- The handler has returned. -/
def Pc.isFinished : Pc → Bool
  | .finished _ => true
  | _ => false

/-- The member for whose flag a thread waits. -/
def Pc.waitsFor : Pc → Option (CanvasPtr × UserPtr)
  | .barrierWait record user => some (record, user)
  | .canvasWait record user _ => some (record, user)
  | _ => none

/-- A thread takes up a request or goes idle. -/
def RpcState.setThread (state : RpcState) (thread : ThreadId) (work : Option Thread) : RpcState :=
  { state with threads := Function.update state.threads thread work }

/-- A thread takes its next step for a client. -/
def RpcState.advanceThread (auth : AuthDb) (state : RpcState) (thread : ThreadId)
    (client : ClientId) (pc : Pc) (answers : Answers) : RpcState :=
  let (session, world, next) := advance auth answers (state.sessions client) state.world pc
  { sessions := Function.update state.sessions client session
    world
    threads := Function.update state.threads thread (some ⟨client, next⟩) }

/-- The requests of all clients, in every interleaving of their steps. -/
def rpcMachine (auth : AuthDb) : Machine RpcState RpcLabel where
  step state
    | .request thread client line =>
      match state.threads thread with
      | none => some (state.setThread thread (some ⟨client, .start line⟩))
      | some _ => none
    | .close thread client =>
      match state.threads thread with
      | none => some (state.setThread thread (some ⟨client, .disconnect⟩))
      | some _ => none
    | .step thread answers =>
      match state.threads thread with
      | some ⟨client, pc⟩ =>
        if pc.isFinished then none else some (state.advanceThread auth thread client pc answers)
      | none => none
    | .leave thread =>
      match state.threads thread with
      | some ⟨_, .finished _⟩ => some (state.setThread thread none)
      | _ => none

/-- The places that a request reaches before it touches the store. -/
def Pc.isEarly : Pc → Bool
  | .addCanvas _ _ _ | .addSprite _ | .locking _ | .disconnect | .finished _ => true
  | _ => false

/-- The places behind the sections and the waits of a canvas operation. -/
def Pc.isLate : Pc → Bool
  | .addPlacement _ _ _ | .frame _ _ | .finished _ => true
  | _ => false

/-! ## Where a step leads -/

section Places

variable {auth : AuthDb} {answers : Answers} {session : Session} {world : World} {pc : Pc}

/-- A request waits for nothing before its first section. -/
theorem Pc.waitsFor_of_early (early : pc.isEarly = true) : pc.waitsFor = none := by
  cases pc with
  | barrierWait | canvasWait => cases early
  | _ => rfl

/-- A place behind the waits of a canvas operation waits for nothing. -/
theorem Pc.waitsFor_of_late (late : pc.isLate = true) : pc.waitsFor = none := by
  cases pc with
  | barrierWait | canvasWait => cases late
  | _ => rfl

/-- Beginning a request leads no further than to its first section. -/
theorem startRequest_early (line : Bytes) :
    (startRequest auth answers session world line).2.2.isEarly = true := by
  apply startRequest_cases (motive := fun result => result.2.2.isEarly = true)
  · exact fun _ _ => rfl
  · intro arguments _
    obtain ⟨text, answered⟩ := login_reply auth answers session arguments
    rw [answered]
    rfl
  · exact fun _ _ => rfl
  · intro name arguments command _ _ _ _ _ _
    cases command with
    | createCanvas height width color =>
      simp only [beginCommand]
      split <;> rfl
    | createSprite shape =>
      simp only [beginCommand]
      split <;> rfl
    | store command => rfl

/-- An added record is answered. -/
theorem answerHandle_late (id : UInt64) (undo : Call) :
    (answerHandle answers world id undo).2.isLate = true := by
  unfold answerHandle
  split <;> rfl

/-- The rest of a canvas operation is behind its waits. -/
theorem resumeAfterWait_late (resume : Resume) :
    (resumeAfterWait answers world resume).2.isLate = true := by
  cases resume with
  | place canvas sprite canvasId spriteId x y =>
    simp only [resumeAfterWait]
    split <;> rfl
  | move move placement => rfl
  | setParams placement vx vy ax ay => rfl
  | generate canvas job =>
    simp only [resumeAfterWait]
    split
    · split <;> rfl
    · rfl

/-- A rendered frame leads behind the waits. -/
theorem generateFrame_late (job : GenerateJob) (frame : UInt64) :
    (generateFrame answers session world job frame).2.isLate = true := by
  unfold generateFrame
  split
  · dsimp only [finishGenerate]
    split
    · split
      · rfl
      · split <;> rfl
    · rfl
  · rfl

end Places

/-! ## What a step does to the store -/

/-- Beginning a request does not touch the store. -/
theorem startRequest_store (auth : AuthDb) (answers : Answers) (session : Session) (world : World)
    (line : Bytes) : (startRequest auth answers session world line).2.1.store = world.store := by
  apply startRequest_cases (motive := fun result => result.2.1.store = world.store)
  · exact fun _ _ => rfl
  · exact fun _ _ => rfl
  · exact fun _ _ => rfl
  · intro name arguments command _ _ _ _ _ _
    cases command <;> rfl

/-- The rest of a canvas operation does not touch the store. -/
theorem resumeAfterWait_store (answers : Answers) (world : World) (resume : Resume) :
    (resumeAfterWait answers world resume).1.store = world.store := by
  cases resume with
  | place canvas sprite canvasId spriteId x y => rfl
  | move move placement => rfl
  | setParams placement vx vy ax ay => rfl
  | generate canvas job =>
    unfold resumeAfterWait
    cases answers.buffers <;> cases answers.opened <;> rfl

/-- Neither does it with its wait. -/
theorem waitThenResume_store (answers : Answers) (world : World) (record : CanvasPtr)
    (username : Bytes) (resume : Resume) :
    (waitThenResume answers world record username resume).1.store = world.store := by
  unfold waitThenResume
  split
  · rfl
  · exact resumeAfterWait_store answers world resume

/-- A placement operation touches the store by its lookup of the canvas. -/
theorem throughPlacement_store (answers : Answers) (world : World) (username : Bytes)
    (placement : Nat) (resume : Resume) :
    (throughPlacement answers world username placement resume).1.store =
      (handlesGetCanvas world.store (placementRecordCanvasId world.store placement) username).2 := by
  unfold throughPlacement
  split
  · rename_i canvas store found
    rw [waitThenResume_store, found]
  · rename_i store found
    rw [resumeAfterWait_store, found]

/-- The error exit of an added record does not touch the store. -/
theorem answerHandle_store (answers : Answers) (world : World) (id : UInt64) (undo : Call) :
    (answerHandle answers world id undo).1.store = world.store := by
  unfold answerHandle
  split <;> rfl

/-- Rendering a frame touches the store by its lookup of the canvas. -/
theorem generateFrame_store (answers : Answers) (session : Session) (world : World)
    (job : GenerateJob) (frame : UInt64) :
    (generateFrame answers session world job frame).1.store =
      (handlesGetCanvas world.store job.canvasId session.username).2 := by
  unfold generateFrame
  split
  · rename_i record store found
    rw [found]
    dsimp only [World.apply]
    split
    · split
      · rfl
      · unfold finishGenerate
        dsimp only
        split <;> rfl
    · rfl
  · rename_i store found
    rw [found]

/-- The section that a step performs; `after` is the store it leaves, named for the sections on
sprites and placements. -/
def Pc.canvasStep (answers : Answers) (session : Session) (store after : HandleStore) :
    Pc → CanvasStep
  | .addCanvas canvas width height =>
    .createCanvas canvas width height session.username answers.memory
  | .locking (.destroyCanvas id) => .destroyCanvas id session.username
  | .locking (.placeSprite canvasId _ _ _) => .lookup canvasId session.username
  | .locking (.movePlacement _ id) | .locking (.setAnimationParams id _ _ _ _) =>
    match handlesGetPlacement store id session.username with
    | some placement => .lookup (placementRecordCanvasId store placement) session.username
    | none => .elsewhere after.nextId after.sprites after.placements
  | .locking (.shareCanvas canvasId target) =>
    .shareCanvas canvasId session.username target answers.memory
  | .locking (.barrier canvasId) => .barrier canvasId session.username
  | .locking (.generate job) | .frame job _ => .lookup job.canvasId session.username
  | .disconnect =>
    if session.loggedIn then .disconnect session.username
    else .elsewhere after.nextId after.sprites after.placements
  | _ => .elsewhere after.nextId after.sprites after.placements

/-- The section on a placement that is found is the lookup of its canvas. -/
theorem Pc.canvasStep_found {answers : Answers} {session : Session} {store after : HandleStore}
    {id : UInt64} {placement : Nat}
    (found : handlesGetPlacement store id session.username = some placement) :
    (∀ move, (Pc.locking (.movePlacement move id)).canvasStep answers session store after =
        .lookup (placementRecordCanvasId store placement) session.username) ∧
      ∀ vx vy ax ay,
        (Pc.locking (.setAnimationParams id vx vy ax ay)).canvasStep answers session store after =
          .lookup (placementRecordCanvasId store placement) session.username := by
  have step : (match handlesGetPlacement store id session.username with
      | some placement =>
        CanvasStep.lookup (placementRecordCanvasId store placement) session.username
      | none => .elsewhere after.nextId after.sprites after.placements) =
        .lookup (placementRecordCanvasId store placement) session.username := by
    rw [found]
  exact ⟨fun _ => step, fun _ _ _ _ => step⟩

/-- Where none is found, there is no section on a canvas. -/
theorem Pc.canvasStep_missing {answers : Answers} {session : Session} {store after : HandleStore}
    {id : UInt64} (missing : handlesGetPlacement store id session.username = none) :
    (∀ move, (Pc.locking (.movePlacement move id)).canvasStep answers session store after =
        .elsewhere after.nextId after.sprites after.placements) ∧
      ∀ vx vy ax ay,
        (Pc.locking (.setAnimationParams id vx vy ax ay)).canvasStep answers session store after =
          .elsewhere after.nextId after.sprites after.placements := by
  have step : (match handlesGetPlacement store id session.username with
      | some placement =>
        CanvasStep.lookup (placementRecordCanvasId store placement) session.username
      | none => .elsewhere after.nextId after.sprites after.placements) =
        .elsewhere after.nextId after.sprites after.placements := by
    rw [missing]
  exact ⟨fun _ => step, fun _ _ _ _ => step⟩

/-- The section at the end of a session. -/
theorem Pc.canvasStep_disconnect (answers : Answers) (session : Session)
    (store after : HandleStore) :
    Pc.disconnect.canvasStep answers session store after =
      if session.loggedIn then .disconnect session.username
      else .elsewhere after.nextId after.sprites after.placements := rfl

/-- The section of a step, by the place of the thread. -/
inductive SectionAt (answers : Answers) (session : Session) (after : HandleStore) :
    Pc → CanvasStep → Prop where
  /-- A canvas is recorded. -/
  | addCanvas (canvas : Object) (width height : UInt64) :
    SectionAt answers session after (.addCanvas canvas width height)
      (.createCanvas canvas width height session.username answers.memory)
  /-- A canvas is destroyed for a user. -/
  | destroyCanvas (id : UInt64) :
    SectionAt answers session after (.locking (.destroyCanvas id))
      (.destroyCanvas id session.username)
  /-- A canvas is shared. -/
  | shareCanvas (id : UInt64) (target : Bytes) :
    SectionAt answers session after (.locking (.shareCanvas id target))
      (.shareCanvas id session.username target answers.memory)
  /-- A user arrives at a barrier. -/
  | barrier (id : UInt64) :
    SectionAt answers session after (.locking (.barrier id)) (.barrier id session.username)
  /-- A session ends. -/
  | disconnect (logged : session.loggedIn = true) :
    SectionAt answers session after .disconnect (.disconnect session.username)
  /-- A canvas is looked up. -/
  | lookup {pc : Pc} (id : UInt64) :
    SectionAt answers session after pc (.lookup id session.username)
  /-- The canvases are left alone. -/
  | elsewhere {pc : Pc} :
    SectionAt answers session after pc (.elsewhere after.nextId after.sprites after.placements)

/-- The section that is read off a step is the one of its place. -/
theorem Pc.canvasStep_section (answers : Answers) (session : Session) (store after : HandleStore)
    (pc : Pc) :
    SectionAt answers session after pc (pc.canvasStep answers session store after) := by
  cases pc with
  | addCanvas canvas width height => exact .addCanvas canvas width height
  | locking command =>
    cases command with
    | destroyCanvas id => exact .destroyCanvas id
    | placeSprite canvasId spriteId x y => exact .lookup canvasId
    | movePlacement move id =>
      cases found : handlesGetPlacement store id session.username with
      | none =>
        rw [(Pc.canvasStep_missing found).1]
        exact .elsewhere
      | some placement =>
        rw [(Pc.canvasStep_found found).1]
        exact .lookup _
    | setAnimationParams id vx vy ax ay =>
      cases found : handlesGetPlacement store id session.username with
      | none =>
        rw [(Pc.canvasStep_missing found).2]
        exact .elsewhere
      | some placement =>
        rw [(Pc.canvasStep_found found).2]
        exact .lookup _
    | shareCanvas canvasId target => exact .shareCanvas canvasId target
    | barrier canvasId => exact .barrier canvasId
    | generate job => exact .lookup job.canvasId
    | destroySprite id => exact .elsewhere
    | destroyPlacement id => exact .elsewhere
  | frame job frame => exact .lookup job.canvasId
  | disconnect =>
    cases logged : session.loggedIn with
    | false =>
      rw [Pc.canvasStep_disconnect, if_neg (by simp [logged])]
      exact .elsewhere
    | true =>
      rw [Pc.canvasStep_disconnect, if_pos logged]
      exact .disconnect logged
  | _ => exact .elsewhere

/-- A step that keeps the canvases is a step elsewhere. -/
theorem eq_elsewhere {store after : HandleStore} (kept : after.canvases = store.canvases) :
    after = (CanvasStep.elsewhere after.nextId after.sprites after.placements).apply store := by
  simp only [CanvasStep.apply, ← kept]

/-- The first section of a command changes the store as its canvas step does. -/
theorem lockedSection_store (answers : Answers) (session : Session) (world : World)
    (command : StoreCommand) :
    (lockedSection answers session world command).1.store =
      ((Pc.locking command).canvasStep answers session world.store
        (lockedSection answers session world command).1.store).apply world.store := by
  cases command with
  | destroyCanvas id => rfl
  | destroySprite id =>
    refine eq_elsewhere ?_
    simp only [lockedSection, World.apply, handlesDestroySprite]
    split
    · rfl
    · split <;> rfl
  | placeSprite canvasId spriteId x y =>
    show _ = (handlesGetCanvas world.store canvasId session.username).2
    simp only [lockedSection]
    split
    · exact waitThenResume_store _ _ _ _ _
    · rfl
  | movePlacement move id =>
    simp only [lockedSection]
    split
    · rename_i placement found
      rw [(Pc.canvasStep_found found).1, throughPlacement_store]
      rfl
    · rename_i found
      rw [(Pc.canvasStep_missing found).1]
      exact eq_elsewhere rfl
  | destroyPlacement id =>
    refine eq_elsewhere ?_
    simp only [lockedSection, World.apply, handlesDestroyPlacement]
    split <;> rfl
  | setAnimationParams id vx vy ax ay =>
    simp only [lockedSection]
    split
    · rename_i placement found
      rw [(Pc.canvasStep_found found).2, throughPlacement_store]
      rfl
    · rename_i found
      rw [(Pc.canvasStep_missing found).2]
      exact eq_elsewhere rfl
  | shareCanvas canvasId target => rfl
  | barrier canvasId => rfl
  | generate job =>
    show _ = (handlesGetCanvas world.store job.canvasId session.username).2
    simp only [lockedSection]
    split
    · rename_i canvas store found
      rw [waitThenResume_store, found]
    · rename_i store found
      rw [found]

/-- Every step of a thread changes the store as one section. -/
theorem advance_store (auth : AuthDb) (answers : Answers) (session : Session) (world : World)
    (pc : Pc) :
    (advance auth answers session world pc).2.1.store =
      (pc.canvasStep answers session world.store
        (advance auth answers session world pc).2.1.store).apply world.store := by
  cases pc with
  | start line => exact eq_elsewhere (by rw [advance, startRequest_store])
  | addCanvas canvas width height =>
    simp only [advance, answerHandle_store]
    rfl
  | addSprite sprite =>
    refine eq_elsewhere ?_
    simp only [advance, answerHandle_store, handlesAddSprite]
    cases answers.memory <;> rfl
  | locking command => exact lockedSection_store answers session world command
  | barrierWait record user => exact eq_elsewhere rfl
  | canvasWait record user resume =>
    refine eq_elsewhere ?_
    simp only [advance]
    split
    · rfl
    · simp only [resumeAfterWait_store]
  | addPlacement placement canvasId spriteId =>
    refine eq_elsewhere ?_
    simp only [advance, answerHandle_store, handlesAddPlacement]
    cases answers.memory <;> rfl
  | frame job frame => exact generateFrame_store answers session world job frame
  | disconnect =>
    cases logged : session.loggedIn with
    | false =>
      rw [Pc.canvasStep_disconnect, if_neg (by simp [logged])]
      refine eq_elsewhere ?_
      simp only [advance, logged, Bool.false_eq_true, ↓reduceIte]
    | true =>
      rw [Pc.canvasStep_disconnect, if_pos logged]
      simp only [advance, logged, ↓reduceIte]
      rfl
  | endSession => exact eq_elsewhere rfl
  | finished response => exact eq_elsewhere rfl

/-! ## Steps of the machine -/

variable {auth : AuthDb} {state next : RpcState}

/-- A step of a thread advances it. -/
theorem rpcMachine_step {thread : ThreadId} {answers : Answers}
    (step : (rpcMachine auth).step state (.step thread answers) = some next) :
    ∃ client pc, state.threads thread = some ⟨client, pc⟩ ∧ pc.isFinished = false ∧
      next = state.advanceThread auth thread client pc answers := by
  simp only [rpcMachine] at step
  split at step
  · rename_i client pc working
    cases finished : pc.isFinished with
    | true => simp [finished] at step
    | false =>
      simp only [finished, Bool.false_eq_true, ↓reduceIte, Option.some.injEq] at step
      exact ⟨client, pc, working, finished, step.symm⟩
  · cases step

/-- A thread that has not finished can take a step. -/
theorem rpcMachine_advance {thread : ThreadId} {answers : Answers} {client : ClientId} {pc : Pc}
    (working : state.threads thread = some ⟨client, pc⟩) (unfinished : pc.isFinished = false) :
    (rpcMachine auth).step state (.step thread answers) =
      some (state.advanceThread auth thread client pc answers) := by
  simp only [rpcMachine, working, unfinished, Bool.false_eq_true, ↓reduceIte]

/-- A step of a thread whose place is known. -/
theorem rpcMachine_step_of {thread : ThreadId} {answers : Answers} {client : ClientId} {pc : Pc}
    (working : state.threads thread = some ⟨client, pc⟩)
    (step : (rpcMachine auth).step state (.step thread answers) = some next) :
    next = state.advanceThread auth thread client pc answers := by
  obtain ⟨served, at_pc, busy, -, rfl⟩ := rpcMachine_step step
  obtain ⟨rfl, rfl⟩ := Thread.mk.inj (Option.some.inj (busy.symm.trans working))
  rfl

/-- A label that is no step of a thread leaves the world and the sessions alone, and lets one
thread begin or go idle. -/
theorem rpcMachine_other {label : RpcLabel}
    (step : (rpcMachine auth).step state label = some next)
    (other : ∀ thread answers, label ≠ .step thread answers) :
    ∃ thread work, next = state.setThread thread work ∧
      (state.threads thread = none ∨ label = .leave thread) ∧
      ∀ taken, work = some taken → (∃ line, taken.pc = .start line) ∨ taken.pc = .disconnect := by
  cases label with
  | request thread client line =>
    simp only [rpcMachine] at step
    split at step
    · rename_i idle
      refine ⟨thread, _, (Option.some.inj step).symm, .inl idle, ?_⟩
      rintro taken ⟨⟩
      exact .inl ⟨line, rfl⟩
    · cases step
  | close thread client =>
    simp only [rpcMachine] at step
    split at step
    · rename_i idle
      refine ⟨thread, _, (Option.some.inj step).symm, .inl idle, ?_⟩
      rintro taken ⟨⟩
      exact .inr rfl
    · cases step
  | step thread answers => exact absurd rfl (other thread answers)
  | leave thread =>
    simp only [rpcMachine] at step
    split at step
    · exact ⟨thread, none, (Option.some.inj step).symm, .inr rfl, by simp⟩
    · cases step

/-- Every step of the machine: a thread that is at work advances, or a thread begins or goes idle
and all else is as it was. -/
theorem rpcMachine_cases {label : RpcLabel}
    (step : (rpcMachine auth).step state label = some next) :
    (∃ thread answers client pc, label = .step thread answers ∧
      state.threads thread = some ⟨client, pc⟩ ∧ pc.isFinished = false ∧
      next = state.advanceThread auth thread client pc answers) ∨
    (∃ thread work, (∀ other answers, label ≠ .step other answers) ∧
      next = state.setThread thread work ∧
      (state.threads thread = none ∨ label = .leave thread) ∧
      ∀ taken, work = some taken → (∃ line, taken.pc = .start line) ∨ taken.pc = .disconnect) := by
  by_cases stepping : ∃ thread answers, label = .step thread answers
  · obtain ⟨thread, answers, rfl⟩ := stepping
    obtain ⟨client, pc, working, unfinished, rfl⟩ := rpcMachine_step step
    exact .inl ⟨thread, answers, client, pc, rfl, working, unfinished, rfl⟩
  · have other : ∀ thread answers, label ≠ .step thread answers := fun thread answers same =>
      stepping ⟨thread, answers, same⟩
    obtain ⟨thread, work, changed⟩ := rpcMachine_other step other
    exact .inr ⟨thread, work, other, changed⟩

/-- Where a thread is after a step, it was before, or it advanced to it, or begins there. -/
theorem rpcMachine_came {label : RpcLabel} {thread : ThreadId} {client : ClientId} {pc : Pc}
    (step : (rpcMachine auth).step state label = some next)
    (there : next.threads thread = some ⟨client, pc⟩) :
    state.threads thread = some ⟨client, pc⟩ ∨
      (∃ answers before, label = .step thread answers ∧
        state.threads thread = some ⟨client, before⟩ ∧
        next = state.advanceThread auth thread client before answers ∧
        pc = (advance auth answers (state.sessions client) state.world before).2.2) ∨
      (∃ line, pc = .start line) ∨ pc = .disconnect := by
  rcases rpcMachine_cases step with
    ⟨other, answers, served, before, rfl, busy, -, rfl⟩ | ⟨other, work, -, rfl, -, begins⟩
  · by_cases same : thread = other
    · subst same
      simp only [RpcState.advanceThread, Function.update_self, Option.some.injEq,
        Thread.mk.injEq] at there
      obtain ⟨rfl, rfl⟩ := there
      exact .inr (.inl ⟨answers, before, rfl, busy, rfl, rfl⟩)
    · simp only [RpcState.advanceThread, Function.update_of_ne same] at there
      exact .inl there
  · by_cases same : thread = other
    · subst same
      simp only [RpcState.setThread, Function.update_self] at there
      exact .inr (.inr (begins _ there))
    · simp only [RpcState.setThread, Function.update_of_ne same] at there
      exact .inl there

/-- A thread that does not leave goes on where it is or takes a step. -/
theorem rpcMachine_thread {label : RpcLabel} {thread : ThreadId} {client : ClientId} {pc : Pc}
    (step : (rpcMachine auth).step state label = some next) (stays : label ≠ .leave thread)
    (working : state.threads thread = some ⟨client, pc⟩) :
    next.threads thread = some ⟨client, pc⟩ ∨
      pc.isFinished = false ∧ ∃ answers, label = .step thread answers ∧ next.threads thread =
        some ⟨client, (advance auth answers (state.sessions client) state.world pc).2.2⟩ := by
  rcases rpcMachine_cases step with
    ⟨other, answers, served, at_pc, rfl, busy, unfinished, rfl⟩ | ⟨other, work, -, rfl, reason, -⟩
  · by_cases same : other = thread
    · subst same
      obtain ⟨rfl, rfl⟩ := Thread.mk.inj (Option.some.inj (busy.symm.trans working))
      exact .inr ⟨unfinished, answers, rfl, by simp [RpcState.advanceThread]⟩
    · exact .inl (by simp [RpcState.advanceThread, Function.update_of_ne (Ne.symm same), working])
  · by_cases same : other = thread
    · subst same
      rcases reason with idle | rfl
      · rw [idle] at working
        cases working
      · exact absurd rfl stays
    · exact .inl (by simp [RpcState.setThread, Function.update_of_ne (Ne.symm same), working])

/-- A thread that has finished stays finished until it leaves. -/
theorem rpcMachine_run_finished {labels : List RpcLabel} {thread : ThreadId} {client : ClientId}
    {response : Option Bytes} (ran : (rpcMachine auth).run state labels = some next)
    (stays : RpcLabel.leave thread ∉ labels)
    (done : state.threads thread = some ⟨client, .finished response⟩) :
    next.threads thread = some ⟨client, .finished response⟩ := by
  have admitted : ∀ label ∈ labels, label ≠ .leave thread := by
    rintro label member rfl
    exact stays member
  have kept : ∀ before label after, label ≠ .leave thread →
      before.threads thread = some ⟨client, .finished response⟩ →
      (rpcMachine auth).step before label = some after →
      after.threads thread = some ⟨client, .finished response⟩ := by
    intro before label after apart finished step
    rcases rpcMachine_thread step apart finished with same | ⟨unfinished, -⟩
    · exact same
    · cases unfinished
  exact Machine.run_invariant_on kept admitted done ran

/-- The store of a state with one thread reassigned. -/
@[simp] theorem setThread_world (thread : ThreadId) (work : Option Thread) :
    (state.setThread thread work).world = state.world := rfl

/-- Every step of the machine changes the store as a run of sections. -/
theorem rpcMachine_canvasSteps {label : RpcLabel}
    (step : (rpcMachine auth).step state label = some next) :
    ∃ sections, canvasMachine.run state.world.store sections = some next.world.store := by
  rcases rpcMachine_cases step with
    ⟨thread, answers, client, pc, rfl, -, -, rfl⟩ | ⟨thread, work, -, rfl, -⟩
  · exact ⟨[pc.canvasStep answers (state.sessions client) state.world.store _],
      congrArg some (advance_store auth answers (state.sessions client) state.world pc).symm⟩
  · exact ⟨[], rfl⟩

/-- Every run of the requests changes the store as a run of sections. -/
theorem rpcMachine_run_canvasSteps {labels : List RpcLabel} {last : RpcState}
    (ran : (rpcMachine auth).run state labels = some last) :
    ∃ sections, canvasMachine.run state.world.store sections = some last.world.store :=
  Machine.run_project (fun _ _ _ step => rpcMachine_canvasSteps step) ran

end AnimateService
