import AnimateService.Members
import AnimateService.RpcThreads

/-!
# What lets a barrier call through

A barrier call that waits returns once the flag of its member is clear. `CanvasStep.flag_lost`
says which sections clear a flag: the call that completes the barrier, and the two departures of
the member itself. Over a run of requests the call therefore returns 0 only after one of these.
-/
namespace AnimateService

open Rendezvous Transition

/-! ## The flag of one member -/

/-- The flag that a waiting thread reads. -/
theorem waiting_iff {store : HandleStore} {record : CanvasPtr} {user : UserPtr} :
    store.waiting record user = true ↔
      ∃ canvas, store.canvases[record]? = some canvas ∧ canvas.WaitingAt user := by
  unfold HandleStore.waiting CanvasRecord.WaitingAt
  cases store.canvases[record]? with
  | none => simp
  | some canvas => simp [Option.any_eq_true]

/-- The call that clears a set flag completes the barrier, or takes the member off the canvas. -/
theorem CanvasStep.flag_lost {store : HandleStore} {record : CanvasPtr} {user : UserPtr}
    {step : CanvasStep} (waits : store.waiting record user = true)
    (cleared : (step.apply store).waiting record user = false) :
    (∃ canvasId username canvas caller, step = .barrier canvasId username ∧
      canvasFor store canvasId username = some record ∧ store.canvases[record]? = some canvas ∧
      findSharedUser canvas username = some caller ∧
      ((canvas.connect username).arrive caller).barrier.Complete) ∨
    step.departure store record = some user := by
  obtain ⟨canvas, present, waiting⟩ := waiting_iff.mp waits
  obtain ⟨after, there, change⟩ := CanvasStep.apply_change present step
  have gone : user ∉ after.barrier.waiting := by
    intro still
    rw [waiting_iff.mpr ⟨after, there, still⟩] at cleared
    cases cleared
  generalize after.barrier = result at gone change
  cases change with
  | kept => exact absurd waiting gone
  | joined => exact absurd waiting gone
  | arrived called found member =>
    rename_i canvasId username caller
    refine .inl ⟨canvasId, username, canvas, caller, called, found, present, member, ?_⟩
    rw [barrier_connect_arrive member]
    by_contra short
    rw [Barrier.arrive, if_neg short] at gone
    exact gone (Set.mem_insert_of_mem _ waiting)
  | left departs =>
    rename_i leaver
    by_cases same : user = leaver
    · exact .inr (same ▸ departs)
    · exact absurd ⟨waiting, same⟩ gone

/-! ## Steps of threads -/

/-- The section of a step is a barrier call only at a barrier request. -/
theorem Pc.canvasStep_barrier {answers : Answers} {session : Session} {store after : HandleStore}
    {pc : Pc} {canvasId : UInt64} {username : Bytes}
    (called : pc.canvasStep answers session store after = .barrier canvasId username) :
    pc = .locking (.barrier canvasId) ∧ username = session.username := by
  have step := pc.canvasStep_section answers session store after
  rw [called] at step
  cases step
  exact ⟨rfl, rfl⟩

/-- The section of a step takes a member off a canvas only at a request to destroy it and at the
end of a session. -/
theorem Pc.canvasStep_departure {answers : Answers} {session : Session}
    {store after : HandleStore} {pc : Pc} {record : CanvasPtr} {user : UserPtr}
    (departs : (pc.canvasStep answers session store after).departure store record = some user) :
    MemberNamed store record user session.username ∧
      ((∃ canvasId, pc = .locking (.destroyCanvas canvasId) ∧
          canvasFor store canvasId session.username = some record) ∨
        (pc = .disconnect ∧ session.loggedIn = true)) := by
  have named : ((store.canvases[record]?).bind fun canvas =>
      findSharedUser canvas session.username) = some user →
      MemberNamed store record user session.username := by
    intro found
    obtain ⟨canvas, present, member⟩ := Option.bind_eq_some_iff.mp found
    exact memberNamed_of_found present member
  have step := pc.canvasStep_section answers session store after
  generalize pc.canvasStep answers session store after = leaving at step departs
  cases step with
  | destroyCanvas canvasId =>
    simp only [CanvasStep.departure] at departs
    split at departs
    · rename_i found
      exact ⟨named departs, .inl ⟨canvasId, rfl, found⟩⟩
    · cases departs
  | disconnect logged =>
    simp only [CanvasStep.departure] at departs
    split at departs
    · cases departs
    · exact ⟨named departs, .inr ⟨rfl, logged⟩⟩
  | _ => cases departs

/-- The step is a barrier call at whose arrival every connected member of the canvas waits. -/
def CompletesBarrier (state : RpcState) (label : RpcLabel) (record : CanvasPtr) : Prop :=
  ∃ thread answers client canvasId canvas user,
    label = .step thread answers ∧
    state.threads thread = some ⟨client, .locking (.barrier canvasId)⟩ ∧
    canvasFor state.world.store canvasId (state.sessions client).username = some record ∧
    state.world.store.canvases[record]? = some canvas ∧
    findSharedUser canvas (state.sessions client).username = some user ∧
    ((canvas.connect (state.sessions client).username).arrive user).barrier.Complete

/-- The step destroys the canvas for a user or disconnects that user. -/
def TakesLeave (state : RpcState) (label : RpcLabel) (record : CanvasPtr) (username : Bytes) : Prop :=
  ∃ thread answers client,
    label = .step thread answers ∧ (state.sessions client).username = username ∧
    ((∃ canvasId, state.threads thread = some ⟨client, .locking (.destroyCanvas canvasId)⟩ ∧
        canvasFor state.world.store canvasId username = some record) ∨
      (state.threads thread = some ⟨client, .disconnect⟩ ∧ (state.sessions client).loggedIn = true))

variable {auth : AuthDb} {state next : RpcState}

/-- The step that clears a member's flag completes the barrier, or is the member's departure. -/
theorem rpcMachine_flag_lost {label : RpcLabel} {record : CanvasPtr} {user : UserPtr}
    {username : Bytes} (step : (rpcMachine auth).step state label = some next)
    (named : MemberNamed state.world.store record user username)
    (waits : state.world.store.waiting record user = true)
    (cleared : next.world.store.waiting record user = false) :
    CompletesBarrier state label record ∨ TakesLeave state label record username := by
  rcases rpcMachine_cases step with
    ⟨thread, answers, client, pc, rfl, working, -, rfl⟩ | ⟨thread, work, -, rfl, -⟩
  · have store := advance_store auth answers (state.sessions client) state.world pc
    simp only [RpcState.advanceThread] at cleared
    rw [store] at cleared
    rcases CanvasStep.flag_lost waits cleared with
      ⟨canvasId, name, canvas, caller, called, found, present, member, complete⟩ | departs
    · obtain ⟨rfl, rfl⟩ := Pc.canvasStep_barrier called
      exact .inl ⟨thread, answers, client, canvasId, canvas, caller, rfl, working, found, present,
        member, complete⟩
    · obtain ⟨leaver, how⟩ := Pc.canvasStep_departure departs
      obtain rfl := leaver.unique named
      rcases how with ⟨canvasId, rfl, found⟩ | ⟨rfl, logged⟩
      · exact .inr ⟨thread, answers, client, rfl, rfl, .inl ⟨canvasId, working, found⟩⟩
      · exact .inr ⟨thread, answers, client, rfl, rfl, .inr ⟨working, logged⟩⟩
  · rw [setThread_world, waits] at cleared
    cases cleared

/-- Requests keep the names of members. -/
theorem rpcMachine_run_named {labels : List RpcLabel} {last : RpcState} {record : CanvasPtr}
    {user : UserPtr} {username : Bytes} (ran : (rpcMachine auth).run state labels = some last)
    (named : MemberNamed state.world.store record user username) :
    MemberNamed last.world.store record user username := by
  obtain ⟨sections, sectioned⟩ := rpcMachine_run_canvasSteps ran
  have kept : ∀ store section_ after, MemberNamed store record user username →
      canvasMachine.step store section_ = some after → MemberNamed after record user username := by
    intro store section_ after named step
    obtain rfl := Option.some.inj step
    exact section_.apply_named named
  exact Machine.run_invariant kept named sectioned

/-- A waiting barrier call that is let through lost its flag on the way, to a step that completes
the barrier or to a departure of its user. -/
theorem barrierWait_let_through {labels : List RpcLabel} {last : RpcState} {thread : ThreadId}
    {client : ClientId} {record : CanvasPtr} {user : UserPtr} {username : Bytes}
    {response : Option Bytes} (ran : (rpcMachine auth).run state labels = some last)
    (working : RpcLabel.leave thread ∉ labels)
    (waits : state.threads thread = some ⟨client, .barrierWait record user⟩)
    (flagged : state.world.store.waiting record user = true)
    (named : MemberNamed state.world.store record user username)
    (returned : last.threads thread = some ⟨client, .finished response⟩) :
    ∃ front label back reached, labels = front ++ label :: back ∧
      (rpcMachine auth).run state front = some reached ∧
      (CompletesBarrier reached label record ∨ TakesLeave reached label record username) := by
  -- the call leaves its wait at a step that finds the flag clear
  have after : ¬ last.threads thread = some ⟨client, .barrierWait record user⟩ := by
    rw [returned]
    simp
  obtain ⟨front, label, back, reached, passed, rfl, segment, waiting, step, through, -⟩ :=
    Machine.run_crossing (fun state => state.threads thread = some ⟨client, .barrierWait record user⟩)
      ran waits after
  have stays : label ≠ .leave thread := by
    rintro rfl
    exact working (by simp)
  have cleared : ¬ reached.world.store.waiting record user = true := by
    intro still
    rcases rpcMachine_thread step stays waiting with same | ⟨-, answers, -, moved⟩
    · exact through same
    · exact through (by simpa [advance, still] using moved)
  -- the flag was set when the wait began, so a step before that one cleared it
  obtain ⟨before, clearing, rest, held, after, rfl, early, set, taken, lost, -⟩ :=
    Machine.run_crossing (fun state => state.world.store.waiting record user = true)
      segment flagged cleared
  refine ⟨before, clearing, rest ++ label :: back, held, by simp, early, ?_⟩
  exact rpcMachine_flag_lost taken (rpcMachine_run_named early named) set (by simpa using lost)

/-- A barrier call that returns 0 does so at or after a step, since it set its flag, at which every
connected member of the canvas waits, or which disconnects its user or destroys the canvas for
that user. -/
theorem barrier_returns_after {labels : List RpcLabel} {last : RpcState} {thread : ThreadId}
    {client : ClientId} {canvasId : UInt64} {answers : Answers}
    (entering : state.threads thread = some ⟨client, .locking (.barrier canvasId)⟩)
    (ran : (rpcMachine auth).run state (.step thread answers :: labels) = some last)
    (working : RpcLabel.leave thread ∉ labels)
    (returned : last.threads thread = some ⟨client, .finished (some (responseCode 0))⟩) :
    ∃ record, canvasFor state.world.store canvasId (state.sessions client).username = some record ∧
      (CompletesBarrier state (.step thread answers) record ∨
        ∃ front label back reached, labels = front ++ label :: back ∧
          (rpcMachine auth).run state (.step thread answers :: front) = some reached ∧
          (CompletesBarrier reached label record ∨
            TakesLeave reached label record (state.sessions client).username)) := by
  obtain ⟨entered, step, rest⟩ := Machine.run_cons_some.mp ran
  obtain rfl := rpcMachine_step_of entering step
  cases found : canvasFor state.world.store canvasId (state.sessions client).username with
  | none =>
    have refused : (state.advanceThread auth thread client (.locking (.barrier canvasId))
        answers).threads thread = some ⟨client, answers.reply (responseCode rpcValue)⟩ := by
      simp [RpcState.advanceThread, advance, lockedSection, barrierSection,
        handlesGetCanvas_none found]
    rw [rpcMachine_run_finished rest working refused] at returned
    have texts : responseCode rpcValue ≠ responseCode 0 := by decide
    cases replied : answers.replied <;> simp [replied, texts] at returned
  | some record =>
    refine ⟨record, rfl, ?_⟩
    obtain ⟨canvas, user, present, member, ⟨complete, -⟩ | ⟨-, result⟩⟩ := barrierSection_some found
    · exact .inl ⟨thread, answers, client, canvasId, canvas, user, rfl, entering, found, present,
        member, complete⟩
    · have waits : (state.advanceThread auth thread client (.locking (.barrier canvasId))
          answers).threads thread = some ⟨client, .barrierWait record user⟩ := by
        simp [RpcState.advanceThread, advance, lockedSection, result]
      have store : (state.advanceThread auth thread client (.locking (.barrier canvasId))
          answers).world.store = state.world.store.updateCanvas record fun canvas =>
            (canvas.connect (state.sessions client).username).arrive user := by
        simp [RpcState.advanceThread, advance, lockedSection, result]
      have flagged : ((canvas.connect (state.sessions client).username).arrive user).WaitingAt
          user := by
        rw [← CanvasRecord.mem_waiting, barrier_connect_arrive member]
        exact Set.mem_insert user _
      have named := (CanvasStep.barrier canvasId (state.sessions client).username).apply_named
        (memberNamed_of_found present member)
      rw [CanvasStep.apply, result] at named
      rw [← store] at named
      obtain ⟨front, label, back, reached, split, segment, how⟩ :=
        barrierWait_let_through rest working waits (by
          rw [store]
          exact waiting_iff.mpr ⟨_, by simp [canvases_updateCanvas, present], flagged⟩)
          named returned
      exact .inr ⟨front, label, back, reached, split,
        Machine.run_cons_some.mpr ⟨_, step, segment⟩, how⟩

/-- Ann and Bob are about to meet at the barrier of the canvas that they share. -/
def meeting : RpcState where
  sessions client := { username := bytes (if client = 0 then "ann" else "bob"), loggedIn := true }
  world := { store := { nextId := 2, canvases :=
    [{ id := 1, canvas := some 0, width := 1, height := 1, deleted := false,
       users := [⟨bytes "ann", true, false⟩, ⟨bytes "bob", true, false⟩] }] } }
  threads thread := if thread < 2 then some ⟨thread, .locking (.barrier 1)⟩ else none

/-- Ann waits, wakes too early once, and is let through after Bob has arrived. -/
theorem barrier_returns_after_meeting : ∃ last,
    (rpcMachine []).run meeting [.step 0 {}, .step 0 {}, .step 1 {}, .step 0 {}] = some last ∧
    ∃ record, canvasFor meeting.world.store 1 (meeting.sessions 0).username = some record ∧
      (CompletesBarrier meeting (.step 0 {}) record ∨
        ∃ front label back reached,
          [RpcLabel.step 0 {}, .step 1 {}, .step 0 {}] = front ++ label :: back ∧
          (rpcMachine []).run meeting (.step 0 {} :: front) = some reached ∧
          (CompletesBarrier reached label record ∨
            TakesLeave reached label record (meeting.sessions 0).username)) :=
  ⟨_, rfl, barrier_returns_after rfl rfl (by simp) rfl⟩

end AnimateService
