import AnimateService.AccessControl
import AnimateService.FrameLoop
import AnimateService.Library.Potential

/-!
# How long a request takes

Every step of a handler brings its request closer to its end, except the one that finds the flag of
a barrier still set: that one changes nothing at all. So a request takes a bounded number of steps
besides those, whatever the other threads do in between, and nothing but a barrier can hold it up.
-/
namespace AnimateService

open Transition

/-- How many steps the rest of an operation takes at most. -/
def Resume.steps : Resume → Nat
  | .place _ _ _ _ _ _ => 1
  | .move _ _ | .setParams _ _ _ _ _ => 0
  | .generate _ job => job.frames

/-- How many steps a command takes at most, from its lock on. -/
def StoreCommand.steps : StoreCommand → Nat
  | .placeSprite _ _ _ _ => 3
  | .movePlacement _ _ | .setAnimationParams _ _ _ _ _ | .barrier _ => 2
  | .generate job => job.frames + 2
  | _ => 1

/-- How many steps a request takes at most. -/
def requestSteps (auth : AuthDb) (line : Bytes) : Nat :=
  match commandOf auth line with
  | some (.store command) => command.steps + 1
  | some _ => 2
  | none => 3

/-- How many steps a request takes at most from a place on. -/
def Pc.steps (auth : AuthDb) : Pc → Nat
  | .start line => requestSteps auth line
  | .addCanvas _ _ _ | .addSprite _ | .addPlacement _ _ _ | .barrierWait _ _ | .endSession => 1
  | .locking command => command.steps
  | .canvasWait _ _ resume => resume.steps + 1
  | .frame job number => job.last.toNat - number.toNat + 1
  | .disconnect => 2
  | .finished _ => 0

section Steps

variable {auth : AuthDb} {answers : Answers} {session : Session} {world : World} {pc : Pc}

/-- The end of a request is where no step is left. -/
theorem Pc.steps_eq_zero : pc.steps auth = 0 ↔ pc.isFinished = true := by
  cases pc with
  | start line =>
    simp only [Pc.steps, requestSteps, Pc.isFinished, Bool.false_eq_true, iff_false]
    split <;> simp
  | locking command => cases command <;> simp [Pc.steps, StoreCommand.steps, Pc.isFinished]
  | _ => simp [Pc.steps, Pc.isFinished]

/-- A response or the answer with a handle ends the request. -/
theorem answerHandle_steps (id : UInt64) (undo : Call) :
    (answerHandle answers world id undo).2.steps auth = 0 := by
  unfold answerHandle
  split <;> rfl

/-- The rest of an operation. -/
theorem resumeAfterWait_steps (resume : Resume) :
    (resumeAfterWait answers world resume).2.steps auth ≤ resume.steps := by
  cases resume with
  | place canvas sprite canvasId spriteId x y =>
    simp only [resumeAfterWait]
    split
    · exact Nat.le_refl _
    · exact Nat.zero_le _
  | move move placement => exact Nat.zero_le _
  | setParams placement vx vy ax ay => exact Nat.zero_le _
  | generate canvas job =>
    simp only [resumeAfterWait]
    split
    · split
      · exact Nat.le_refl _
      · exact Nat.zero_le _
    · exact Nat.zero_le _

/-- An operation that may have to wait. -/
theorem waitThenResume_steps (record : CanvasPtr) (username : Bytes) (resume : Resume) :
    (waitThenResume answers world record username resume).2.steps auth ≤ resume.steps + 1 := by
  unfold waitThenResume
  split
  · exact Nat.le_refl _
  · exact Nat.le_succ_of_le (resumeAfterWait_steps resume)

/-- An operation on a placement. -/
theorem throughPlacement_steps (username : Bytes) (placement : Nat) (resume : Resume) :
    (throughPlacement answers world username placement resume).2.steps auth ≤
      resume.steps + 1 := by
  unfold throughPlacement
  split
  · exact waitThenResume_steps _ _ _
  · exact Nat.le_succ_of_le (resumeAfterWait_steps resume)

/-- The first section of a command is one of its steps. -/
theorem lockedSection_steps (command : StoreCommand) :
    (lockedSection answers session world command).2.steps auth < command.steps := by
  cases command with
  | placeSprite canvasId spriteId x y =>
    simp only [lockedSection]
    split
    · exact Nat.lt_succ_of_le (waitThenResume_steps _ _ _)
    · exact Nat.succ_pos _
  | movePlacement move id =>
    simp only [lockedSection]
    split
    · exact Nat.lt_succ_of_le (throughPlacement_steps _ _ _)
    · exact Nat.succ_pos _
  | setAnimationParams id vx vy ax ay =>
    simp only [lockedSection]
    split
    · exact Nat.lt_succ_of_le (throughPlacement_steps _ _ _)
    · exact Nat.succ_pos _
  | barrier canvasId =>
    simp only [lockedSection]
    split
    · exact Nat.lt_succ_self _
    · exact Nat.succ_pos _
    · exact Nat.succ_pos _
    · exact Nat.succ_pos _
  | generate job =>
    simp only [lockedSection]
    split
    · exact Nat.lt_succ_of_le (waitThenResume_steps _ _ _)
    · exact Nat.succ_pos _
  | destroyCanvas id => exact Nat.succ_pos _
  | destroySprite id => exact Nat.succ_pos _
  | destroyPlacement id => exact Nat.succ_pos _
  | shareCanvas canvasId target => exact Nat.succ_pos _

/-- A pass of the frame loop is one of its steps, whatever the number of the frame. -/
theorem generateFrame_steps (job : GenerateJob) (frame : UInt64) :
    (generateFrame answers session world job frame).2.steps auth <
      (Pc.frame job frame).steps auth := by
  unfold generateFrame
  split
  · dsimp only
    split
    · split
      · rename_i goes_on
        obtain ⟨below, more⟩ := goes_on
        have least : frame.toNat ≠ 2 ^ 64 - 1 := fun same => below (UInt64.toNat_inj.mp same)
        have bound : frame.toNat < 2 ^ 64 := frame.toNat_lt
        have number : (frame + 1).toNat = frame.toNat + 1 := by
          rw [UInt64.toNat_add, UInt64.toNat_one, Nat.mod_eq_of_lt (by omega)]
        have order : (frame + 1).toNat ≤ job.last.toNat := UInt64.le_iff_toNat_le.mp more
        simp only [Pc.steps]
        omega
      · unfold finishGenerate
        dsimp only
        split <;> exact Nat.succ_pos _
    · exact Nat.succ_pos _
  · exact Nat.succ_pos _

/-- The beginning of a request is one of its steps. -/
theorem startRequest_steps (line : Bytes) :
    (startRequest auth answers session world line).2.2.steps auth < requestSteps auth line := by
  have positive : 0 < requestSteps auth line := by
    unfold requestSteps
    split <;> exact Nat.succ_pos _
  apply startRequest_cases (motive := fun result => result.2.2.steps auth < requestSteps auth line)
  · exact fun _ _ => positive
  · intro arguments _
    obtain ⟨text, answered⟩ := login_reply auth answers session arguments
    rw [answered]
    exact positive
  · intro arguments tokens
    have unknown : commandOf auth line = none := by
      replace tokens : requestTokens line = bytes "Disconnect" :: arguments := tokens
      rw [commandOf, tokens]
      rfl
    rw [requestSteps, unknown]
    exact Nat.lt_succ_self _
  · intro name arguments command tokens _ _ _ _ parsed
    have known : commandOf auth line = some command := by
      replace tokens : requestTokens line = name :: arguments := tokens
      rw [commandOf, tokens]
      show (parseCommand auth name arguments).toOption = some command
      rw [parsed]
      rfl
    rw [requestSteps, known]
    cases command with
    | createCanvas height width color =>
      simp only [beginCommand]
      split
      · exact Nat.lt_succ_self _
      · exact Nat.succ_pos _
    | createSprite shape =>
      simp only [beginCommand]
      split
      · exact Nat.lt_succ_self _
      · exact Nat.succ_pos _
    | store command => exact Nat.lt_succ_self _

/-- A step of a request finds a flag set and changes nothing, or brings the request closer to its
end. -/
theorem advance_steps (auth : AuthDb) (answers : Answers) (session : Session) (world : World)
    (unfinished : pc.isFinished = false) :
    pc.isBlocked world.store = true ∧
        advance auth answers session world pc = (session, world, pc) ∨
      pc.isBlocked world.store = false ∧
        (advance auth answers session world pc).2.2.steps auth < pc.steps auth := by
  cases pc with
  | start line => exact .inr ⟨rfl, startRequest_steps line⟩
  | addCanvas canvas width height =>
    exact .inr ⟨rfl, by rw [advance, answerHandle_steps]; exact Nat.one_pos⟩
  | addSprite sprite => exact .inr ⟨rfl, by rw [advance, answerHandle_steps]; exact Nat.one_pos⟩
  | addPlacement placement canvasId spriteId =>
    exact .inr ⟨rfl, by rw [advance, answerHandle_steps]; exact Nat.one_pos⟩
  | locking command => exact .inr ⟨rfl, lockedSection_steps command⟩
  | barrierWait record user =>
    cases flag : world.store.waiting record user with
    | true => exact .inl ⟨flag, by simp only [advance, flag, ↓reduceIte]⟩
    | false =>
      refine .inr ⟨flag, ?_⟩
      simp only [advance, flag, Bool.false_eq_true, ↓reduceIte]
      exact Nat.one_pos
  | canvasWait record user resume =>
    cases flag : world.store.waiting record user with
    | true => exact .inl ⟨flag, by simp only [advance, flag, ↓reduceIte]⟩
    | false =>
      refine .inr ⟨flag, ?_⟩
      simp only [advance, flag, Bool.false_eq_true, ↓reduceIte]
      exact Nat.lt_succ_of_le (resumeAfterWait_steps resume)
  | frame job frame => exact .inr ⟨rfl, generateFrame_steps job frame⟩
  | disconnect =>
    refine .inr ⟨rfl, ?_⟩
    simp only [advance]
    split
    · exact Nat.lt_succ_self _
    · exact Nat.succ_pos _
  | endSession => exact .inr ⟨rfl, Nat.one_pos⟩
  | finished response => cases unfinished

end Steps

/-! ## Runs -/

/-- A step of a thread counts unless it finds a flag set. -/
def ownSteps (thread : ThreadId) (state : RpcState) (label : RpcLabel) : Nat :=
  match label with
  | .step other _ =>
    if other = thread ∧
        (state.threads other).all (fun work => work.pc.isBlocked state.world.store) = false
    then 1 else 0
  | _ => 0

section Runs

variable {auth : AuthDb} {state next last : RpcState} {label : RpcLabel} {labels : List RpcLabel}
  {thread : ThreadId} {client : ClientId} {pc : Pc} {line : Bytes} {answers : Answers}

/-- A step of a thread at work. -/
theorem ownSteps_of_working (working : state.threads thread = some ⟨client, pc⟩) :
    ownSteps thread state (.step thread answers) =
      if pc.isBlocked state.world.store then 0 else 1 := by
  simp only [ownSteps, working, Option.all_some, true_and]
  cases pc.isBlocked state.world.store <;> rfl

/-- Another label does not count. -/
theorem ownSteps_of_other (other : ∀ answers, label ≠ .step thread answers) :
    ownSteps thread state label = 0 := by
  cases label with
  | step taken answers =>
    have apart : taken ≠ thread := fun same => other answers (same ▸ rfl)
    simp only [ownSteps, apart, false_and, ↓reduceIte]
  | _ => rfl

/-- What is left of a request after a step, together with the step if it counts. -/
theorem ownSteps_step (step : (rpcMachine auth).step state label = some next)
    (stays : label ≠ .leave thread) (working : state.threads thread = some ⟨client, pc⟩) :
    ∃ after, next.threads thread = some ⟨client, after⟩ ∧
      after.steps auth + ownSteps thread state label ≤ pc.steps auth := by
  by_cases own : ∃ answers, label = .step thread answers
  · obtain ⟨answers, rfl⟩ := own
    obtain ⟨served, at_pc, busy, unfinished, rfl⟩ := rpcMachine_step step
    obtain ⟨rfl, rfl⟩ := Thread.mk.inj (Option.some.inj (busy.symm.trans working))
    refine ⟨(advance auth answers (state.sessions served) state.world at_pc).2.2,
      by simp [RpcState.advanceThread], ?_⟩
    rw [ownSteps_of_working working]
    rcases advance_steps auth answers (state.sessions served) state.world unfinished with
      ⟨blocked, same⟩ | ⟨free, lower⟩
    · rw [same, if_pos blocked]
      exact Nat.le_refl _
    · rw [if_neg (by simp [free])]
      exact lower
  · have other : ∀ answers, label ≠ .step thread answers := fun answers same => own ⟨answers, same⟩
    rcases rpcMachine_thread step stays working with same | ⟨-, answers, rfl, -⟩
    · exact ⟨pc, same, (ownSteps_of_other other).symm ▸ Nat.le_refl _⟩
    · exact absurd rfl (other answers)

/-- What is left of a request after a run, together with the steps that counted. -/
theorem ownSteps_run (ran : (rpcMachine auth).run state labels = some last)
    (stays : RpcLabel.leave thread ∉ labels) (working : state.threads thread = some ⟨client, pc⟩) :
    ∃ after, last.threads thread = some ⟨client, after⟩ ∧
      (rpcMachine auth).spent (ownSteps thread) state labels + after.steps auth ≤ pc.steps auth := by
  induction labels generalizing state pc with
  | nil =>
    cases ran
    exact ⟨pc, working, (Nat.zero_add _).le⟩
  | cons label labels ih =>
    obtain ⟨next, step, rest⟩ := Machine.run_cons_some.mp ran
    obtain ⟨apart, later⟩ := not_or.mp (mt List.mem_cons.mpr stays)
    obtain ⟨between, there, first⟩ := ownSteps_step step (Ne.symm apart) working
    obtain ⟨after, ends, bound⟩ := ih rest later there
    refine ⟨after, ends, ?_⟩
    rw [Machine.spent_cons step]
    omega

/-- Whatever the other threads do, a request takes a bounded number of steps besides those that find
the flag of a barrier set, and it is answered once it has taken them all. Before that its thread can
always take a step: one that counts, or one that changes nothing because the flag is set. -/
theorem request_ends (ran : (rpcMachine auth).run state labels = some last)
    (stays : RpcLabel.leave thread ∉ labels)
    (begun : state.threads thread = some ⟨client, .start line⟩) :
    ∃ pc, last.threads thread = some ⟨client, pc⟩ ∧
      (rpcMachine auth).spent (ownSteps thread) state labels + pc.steps auth ≤
        requestSteps auth line ∧
      ((rpcMachine auth).spent (ownSteps thread) state labels = requestSteps auth line →
        pc.isFinished = true) ∧
      (pc.isFinished = false → ∀ answers,
        (pc.isBlocked last.world.store = true ∧
          (rpcMachine auth).step last (.step thread answers) = some last) ∨
        ownSteps thread last (.step thread answers) = 1 ∧
          ((rpcMachine auth).step last (.step thread answers)).isSome) := by
  obtain ⟨pc, there, bound⟩ := ownSteps_run ran stays begun
  change _ ≤ requestSteps auth line at bound
  refine ⟨pc, there, bound, ?_, ?_⟩
  · intro all
    have none_left : pc.steps auth = 0 := by omega
    exact Pc.steps_eq_zero.mp none_left
  · intro unfinished answers
    have possible := @rpcMachine_advance auth _ _ answers _ _ there unfinished
    rcases advance_steps auth answers (last.sessions client) last.world unfinished with
      ⟨blocked, same⟩ | ⟨free, -⟩
    · refine .inl ⟨blocked, possible.trans (congrArg some ?_)⟩
      simp only [RpcState.advanceThread, same, Function.update_eq_self, ← there]
    · refine .inr ⟨?_, possible ▸ rfl⟩
      rw [ownSteps_of_working there, if_neg (by simp [free])]

end Runs

/-- A thread that has a line with `Disconnect` of a client that is logged in. -/
def saysGoodbye : RpcState where
  sessions _ := { loggedIn := true, username := bytes "ann" }
  threads := Function.update (fun _ => none) 0 (some ⟨7, .start (bytes "Disconnect")⟩)

/-- The request `Disconnect` is done after its three steps. -/
theorem request_ends_goodbye : ∃ last pc,
    (rpcMachine []).run saysGoodbye [.step 0 {}, .step 0 {}, .step 0 {}] = some last ∧
      last.threads 0 = some ⟨7, pc⟩ ∧ pc.isFinished = true := by
  obtain ⟨last, ran⟩ := Option.isSome_iff_exists.mp
    (by decide +kernel :
      ((rpcMachine []).run saysGoodbye [.step 0 {}, .step 0 {}, .step 0 {}]).isSome = true)
  obtain ⟨pc, there, -, done, -⟩ := request_ends ran (by simp)
    (rfl : saysGoodbye.threads 0 = some ⟨7, .start (bytes "Disconnect")⟩)
  exact ⟨last, pc, ran, there, done (by decide +kernel)⟩

end AnimateService
