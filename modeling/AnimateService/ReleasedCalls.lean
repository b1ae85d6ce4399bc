import AnimateService.CanvasWaits
import AnimateService.Placements

/-!
# Barrier calls that were released

The barrier of a canvas is used again and again, with one flag for each member and no number for
the round. A call that was released, or whose user left, still has to take the mutex once more to
read its flag. Until then another barrier call of the same user may set the flag for a later round.
The threads that sleep in `pthread_cond_wait` are kept apart here, with the broadcasts that wake
them, so that a thread which is awake can be told from one that waits for a broadcast.
-/
namespace AnimateService

open Rendezvous Transition

/-! ## Releases and broadcasts of a section -/

/-- The section clears all flags of the canvas. -/
def CanvasStep.releases (store : HandleStore) (record : CanvasPtr) : CanvasStep → Bool
  | .barrier canvasId username =>
    match (barrierSection store canvasId username).1 with
    | some (hit, .released _) => hit = record
    | _ => false
  | _ => false

/-- The section calls `pthread_cond_broadcast` for the canvas. -/
def CanvasStep.broadcasts (store : HandleStore) (record : CanvasPtr) : CanvasStep → Bool
  | .barrier canvasId username => (CanvasStep.barrier canvasId username).releases store record
  | .destroyCanvas canvasId username => canvasFor store canvasId username = some record
  | .disconnect username =>
    username ≠ [] && (store.canvases[record]?).any fun canvas =>
      (findSharedUser canvas username).isSome
  | _ => false

section Sections

variable {store : HandleStore} {record : CanvasPtr} {user : UserPtr} {step : CanvasStep}

/-- A completed barrier is a release. -/
theorem releases_of_complete {canvasId : UInt64} {username : Bytes} {canvas : CanvasRecord}
    {caller : UserPtr} (found : canvasFor store canvasId username = some record)
    (present : store.canvases[record]? = some canvas)
    (member : findSharedUser canvas username = some caller)
    (complete : ((canvas.connect username).arrive caller).barrier.Complete) :
    (CanvasStep.barrier canvasId username).releases store record = true := by
  obtain ⟨same, other, there, again, ⟨-, result⟩ | ⟨short, -⟩⟩ := barrierSection_some found
  · simp only [CanvasStep.releases, result, decide_true]
  · obtain rfl := Option.some.inj (present.symm.trans there)
    obtain rfl := Option.some.inj (member.symm.trans again)
    exact absurd complete short

/-- A set flag is cleared by a release or by the departure of its member. -/
theorem CanvasStep.released_of_lost (waits : store.waiting record user = true)
    (cleared : (step.apply store).waiting record user = false) :
    step.releases store record = true ∨ step.departure store record = some user := by
  rcases CanvasStep.flag_lost waits cleared with
    ⟨canvasId, username, canvas, caller, rfl, found, present, member, complete⟩ | departs
  · exact .inl (releases_of_complete found present member complete)
  · exact .inr departs

/-- A section that releases a canvas is a barrier call on it. -/
theorem CanvasStep.of_releases (released : step.releases store record = true) :
    ∃ canvasId username canvas caller, step = .barrier canvasId username ∧
      store.canvases[record]? = some canvas ∧
      (barrierSection store canvasId username).2 = store.updateCanvas record fun canvas =>
        ((canvas.connect username).arrive caller).release := by
  cases step with
  | barrier canvasId username =>
    simp only [CanvasStep.releases] at released
    cases found : canvasFor store canvasId username with
    | none => simp [barrierSection, handlesGetCanvas_none found] at released
    | some hit =>
      obtain ⟨canvas, caller, present, -, ⟨-, result⟩ | ⟨-, result⟩⟩ := barrierSection_some found
      · rw [result] at released
        obtain rfl : hit = record := of_decide_eq_true released
        exact ⟨canvasId, username, canvas, caller, rfl, present, by rw [result]⟩
      · rw [result] at released
        cases released
  | _ => cases released

/-- After a release, and after the departure of its member, a flag is clear. -/
theorem CanvasStep.flag_cleared (released : step.releases store record = true ∨
      step.departure store record = some user) :
    (step.apply store).waiting record user = false := by
  rw [← Bool.not_eq_true, waiting_iff]
  rintro ⟨after, there, waits⟩
  rcases released with released | departs
  · obtain ⟨canvasId, username, canvas, caller, rfl, present, result⟩ := of_releases released
    rw [CanvasStep.apply, result, canvases_updateCanvas, if_pos rfl, present] at there
    obtain rfl := Option.some.inj there
    have gone : user ∈ (((canvas.connect username).arrive caller).release).barrier.waiting := waits
    rw [CanvasRecord.barrier_release] at gone
    exact gone
  · cases present : store.canvases[record]? with
    | none =>
      obtain ⟨object, width, height, owner, rfl, -⟩ := CanvasStep.apply_added present there
      cases departs
    | some canvas =>
      obtain ⟨next, again, change⟩ := CanvasStep.apply_change present step
      obtain rfl := Option.some.inj (there.symm.trans again)
      have left : user ∈ after.barrier.waiting := waits
      rw [change.of_departure departs] at left
      exact left.2 rfl

/-- Both wake the threads that wait on the canvas. -/
theorem CanvasStep.broadcasts_of_released (released : step.releases store record = true ∨
      step.departure store record = some user) : step.broadcasts store record = true := by
  rcases released with released | departs
  · obtain ⟨canvasId, username, -, -, rfl, -, -⟩ := of_releases released
    exact released
  · cases step with
    | destroyCanvas canvasId username =>
      simp only [CanvasStep.departure] at departs
      split at departs
      · rename_i found
        exact decide_eq_true found
      · cases departs
    | disconnect username =>
      simp only [CanvasStep.departure] at departs
      split at departs
      · cases departs
      · rename_i named
        obtain ⟨canvas, present, member⟩ := Option.bind_eq_some_iff.mp departs
        simp [CanvasStep.broadcasts, named, present, member]
    | _ => cases departs

/-- A flag is set only by a barrier call of its member that goes to wait. -/
theorem CanvasStep.flag_gained (clear : store.waiting record user = false)
    (set_ : (step.apply store).waiting record user = true) :
    ∃ canvasId username canvas, step = .barrier canvasId username ∧
      (barrierSection store canvasId username).1 = some (record, .waits user canvas) := by
  obtain ⟨after, there, waits⟩ := waiting_iff.mp set_
  cases present : store.canvases[record]? with
  | none =>
    obtain ⟨object, width, height, owner, -, rfl⟩ := CanvasStep.apply_added present there
    obtain ⟨member, inside, flagged⟩ := waits
    -- the only member of a new record does not wait
    obtain rfl := List.mem_singleton.mp (List.mem_of_getElem? inside)
    cases flagged
  | some canvas =>
    have idle : ¬ user ∈ canvas.barrier.waiting := by
      intro waiting
      rw [waiting_iff.mpr ⟨canvas, present, waiting⟩] at clear
      cases clear
    obtain ⟨next, again, change⟩ := CanvasStep.apply_change present step
    obtain rfl := Option.some.inj (there.symm.trans again)
    have waiting : user ∈ after.barrier.waiting := waits
    generalize after.barrier = result at change waiting
    cases change with
    | kept => exact absurd waiting idle
    | joined => exact absurd waiting idle
    | left => exact absurd waiting.1 idle
    | arrived called found member =>
      rename_i canvasId username caller
      subst called
      obtain ⟨same, other, here, once, ⟨complete, -⟩ | ⟨short, entered⟩⟩ :=
        barrierSection_some found
      · obtain rfl := Option.some.inj (present.symm.trans here)
        obtain rfl := Option.some.inj (member.symm.trans once)
        rw [barrier_connect_arrive member] at complete
        rw [Barrier.arrive, if_pos complete] at waiting
        exact waiting.elim
      · obtain rfl := Option.some.inj (present.symm.trans here)
        obtain rfl := Option.some.inj (member.symm.trans once)
        rw [barrier_connect_arrive member] at short
        rw [Barrier.arrive, if_neg short] at waiting
        rcases waiting with rfl | before
        · exact ⟨canvasId, username, _, rfl, by rw [entered]⟩
        · exact absurd before idle

end Sections

/-! ## Sleeping threads -/

/-- The section that a thread performs under a label. -/
def RpcState.sectionOf (auth : AuthDb) (state : RpcState) : RpcLabel → Option CanvasStep
  | .step thread answers => (state.threads thread).map fun work =>
    work.pc.canvasStep answers (state.sessions work.client) state.world.store
      (advance auth answers (state.sessions work.client) state.world work.pc).2.1.store
  | _ => none

/-- The canvas on whose condition a thread waits. -/
def RpcState.waitsOn (state : RpcState) (thread : ThreadId) : Option CanvasPtr :=
  ((state.threads thread).bind fun work => work.pc.waitsFor).map Prod.fst

/-- The label is a step of the thread. -/
def RpcLabel.stepsBy (thread : ThreadId) : RpcLabel → Bool
  | .step actor _ => actor = thread
  | _ => false

/-- The requests, with the threads that sleep in `pthread_cond_wait`. -/
structure SleepState where
  /-- The sessions, the world and the threads. -/
  rpc : RpcState := {}
  /-- The thread has not been woken since it began to wait. -/
  asleep : ThreadId → Bool := fun _ => false

/-- Who sleeps after a step: a thread whose own step leaves it in a wait, and a thread that slept
before and that no broadcast for its canvas wakes. -/
def SleepState.asleepAfter (auth : AuthDb) (state : SleepState) (label : RpcLabel)
    (next : RpcState) (thread : ThreadId) : Bool :=
  if label.stepsBy thread then (next.waitsOn thread).isSome
  else state.asleep thread && !(state.rpc.waitsOn thread).any fun record =>
    (state.rpc.sectionOf auth label).any fun section_ =>
      section_.broadcasts state.rpc.world.store record

/-- The requests in every interleaving. A thread that sleeps may be woken without a broadcast, so
that its steps are never ruled out. -/
def sleepMachine (auth : AuthDb) : Machine SleepState RpcLabel where
  step state label := ((rpcMachine auth).step state.rpc label).map fun next =>
    { rpc := next, asleep := state.asleepAfter auth label next }

/-- The step releases the barrier of the canvas, or takes the member off it. -/
def RpcState.Releases (auth : AuthDb) (state : RpcState) (label : RpcLabel) (record : CanvasPtr)
    (user : UserPtr) : Prop :=
  ∃ section_, state.sectionOf auth label = some section_ ∧
    (section_.releases state.world.store record = true ∨
      section_.departure state.world.store record = some user)

/-- Once a barrier call that waits was released, or its user left, it is awake, and its next step
returns 0. -/
def ReleasedReturn (auth : AuthDb) (labels : List RpcLabel) : Prop :=
  ∀ front label middle back reached last thread client record user,
    labels = front ++ label :: (middle ++ back) →
    (sleepMachine auth).run {} front = some reached →
    reached.rpc.threads thread = some ⟨client, .barrierWait record user⟩ →
    reached.rpc.Releases auth label record user →
    (sleepMachine auth).run reached (label :: middle) = some last →
    (∀ answers, .step thread answers ∉ middle) →
    last.asleep thread = false ∧ ∀ answers next,
      (sleepMachine auth).step last (.step thread answers) = some next →
      next.rpc.threads thread = some ⟨client, answers.reply (responseCode 0)⟩

/-- A barrier call begins to wait only if no other call still waits in `canvas_record_barrier` for
the same user on the same canvas although the flag is clear, that is, without having noticed that
it was released. -/
def NobodyOvertaken (state : SleepState) (label : RpcLabel) : Prop :=
  ∀ thread answers client canvasId record user canvas, label = .step thread answers →
    state.rpc.threads thread = some ⟨client, .locking (.barrier canvasId)⟩ →
    (barrierSection state.rpc.world.store canvasId (state.rpc.sessions client).username).1 =
      some (record, .waits user canvas) →
    ∀ other waiter, state.rpc.threads other = some ⟨waiter, .barrierWait record user⟩ →
      state.rpc.world.store.waiting record user = true

section Sleepers

variable {auth : AuthDb} {state next : SleepState} {label : RpcLabel} {thread : ThreadId}
  {client : ClientId} {record : CanvasPtr} {user : UserPtr}

/-- A step of the sleepers is a step of the requests. -/
theorem sleepMachine_step (step : (sleepMachine auth).step state label = some next) :
    (rpcMachine auth).step state.rpc label = some next.rpc ∧
      next.asleep = state.asleepAfter auth label next.rpc := by
  obtain ⟨after, taken, rfl⟩ := Option.map_eq_some_iff.mp step
  exact ⟨taken, rfl⟩

/-- The store changes as by the section of the label. -/
theorem rpcMachine_sectionOf {before after : RpcState}
    (step : (rpcMachine auth).step before label = some after) :
    (∃ section_, before.sectionOf auth label = some section_ ∧
        after.world.store = section_.apply before.world.store) ∨
      before.sectionOf auth label = none ∧ after.world = before.world := by
  rcases rpcMachine_cases step with
    ⟨actor, answers, served, pc, rfl, working, -, rfl⟩ | ⟨actor, work, no_step, rfl, -⟩
  · refine .inl ⟨_, by rw [RpcState.sectionOf, working]; rfl, ?_⟩
    exact advance_store auth answers (before.sessions served) before.world pc
  · refine .inr ⟨?_, rfl⟩
    cases label with
    | step actor answers => exact absurd rfl (no_step actor answers)
    | _ => rfl

/-- A thread that waits takes a step only under its own label. -/
theorem rpcMachine_waits {before after : RpcState}
    (step : (rpcMachine auth).step before label = some after)
    (waits : before.threads thread = some ⟨client, .barrierWait record user⟩)
    (others : ∀ answers, label ≠ .step thread answers) :
    after.threads thread = some ⟨client, .barrierWait record user⟩ := by
  have stays : label ≠ .leave thread := by
    rintro rfl
    simp [rpcMachine, waits] at step
  rcases rpcMachine_thread step stays waits with same | ⟨-, answers, own, -⟩
  · exact same
  · exact absurd own (others answers)

/-- The next step of a waiting thread returns exactly where its flag is clear. -/
theorem waits_returns {answers : Answers}
    (waits : state.rpc.threads thread = some ⟨client, .barrierWait record user⟩)
    (step : (sleepMachine auth).step state (.step thread answers) = some next) :
    next.rpc.threads thread = some ⟨client,
      if state.rpc.world.store.waiting record user then .barrierWait record user
      else answers.reply (responseCode 0)⟩ := by
  obtain ⟨taken, -⟩ := sleepMachine_step step
  rw [rpcMachine_step_of waits taken]
  simp [RpcState.advanceThread, advance]

/-- Where nobody is overtaken, a clear flag that a thread is to read stays clear. -/
theorem flag_stays_clear (step : (sleepMachine auth).step state label = some next)
    (spares : NobodyOvertaken state label)
    (waits : state.rpc.threads thread = some ⟨client, .barrierWait record user⟩)
    (clear : state.rpc.world.store.waiting record user = false) :
    next.rpc.world.store.waiting record user = false := by
  obtain ⟨taken, -⟩ := sleepMachine_step step
  rcases rpcMachine_sectionOf taken with ⟨section_, performed, store⟩ | ⟨-, world⟩
  · rw [store]
    by_contra set_
    obtain ⟨canvasId, username, canvas, rfl, entered⟩ :=
      CanvasStep.flag_gained clear (by simpa using set_)
    cases label with
    | step actor answers =>
      obtain ⟨⟨served, pc⟩, working, called⟩ := Option.map_eq_some_iff.mp performed
      obtain ⟨rfl, rfl⟩ := Pc.canvasStep_barrier called
      rw [spares actor answers served canvasId record user canvas rfl working entered thread client
        waits] at clear
      cases clear
    | _ => cases performed
  · rw [world]
    exact clear

/-- A label that is no step of a thread is not counted as one. -/
theorem stepsBy_others (others : ∀ answers, label ≠ .step thread answers) :
    label.stepsBy thread = false := by
  cases label with
  | step actor answers =>
    refine decide_eq_false ?_
    rintro rfl
    exact others answers rfl
  | _ => rfl

/-- A thread that is awake falls asleep by its own steps only. -/
theorem awake_stays (step : (sleepMachine auth).step state label = some next)
    (awake : state.asleep thread = false) (others : ∀ answers, label ≠ .step thread answers) :
    next.asleep thread = false := by
  rw [(sleepMachine_step step).2, SleepState.asleepAfter, stepsBy_others others, awake]
  rfl

/-- A release clears the flag and wakes the thread. -/
theorem released_awake (step : (sleepMachine auth).step state label = some next)
    (waits : state.rpc.threads thread = some ⟨client, .barrierWait record user⟩)
    (released : state.rpc.Releases auth label record user) :
    next.rpc.world.store.waiting record user = false ∧ next.asleep thread = false ∧
      next.rpc.threads thread = some ⟨client, .barrierWait record user⟩ := by
  obtain ⟨section_, performed, how⟩ := released
  obtain ⟨taken, slept⟩ := sleepMachine_step step
  have others : ∀ answers, label ≠ .step thread answers := by
    rintro answers rfl
    rw [RpcState.sectionOf, waits] at performed
    cases performed
    rcases how with released | departs
    · cases released
    · cases departs
  refine ⟨?_, ?_, rpcMachine_waits taken waits others⟩
  · rcases rpcMachine_sectionOf taken with ⟨same, again, store⟩ | ⟨none_, -⟩
    · obtain rfl := Option.some.inj (performed.symm.trans again)
      rw [store]
      exact CanvasStep.flag_cleared how
    · rw [none_] at performed
      cases performed
  · have waitsOn : state.rpc.waitsOn thread = some record := by
      rw [RpcState.waitsOn, waits]
      rfl
    rw [slept, SleepState.asleepAfter, stepsBy_others others, waitsOn, performed]
    simp [CanvasStep.broadcasts_of_released how]

/-- Where nobody is overtaken, a call that was released stays awake with its flag clear until it
takes a step. -/
theorem released_stays {labels : List RpcLabel} {last : SleepState}
    (ran : (sleepMachine auth).run state labels = some last)
    (spares : (sleepMachine auth).EveryStep NobodyOvertaken state labels)
    (others : ∀ answers, .step thread answers ∉ labels)
    (waits : state.rpc.threads thread = some ⟨client, .barrierWait record user⟩)
    (clear : state.rpc.world.store.waiting record user = false)
    (awake : state.asleep thread = false) :
    last.rpc.threads thread = some ⟨client, .barrierWait record user⟩ ∧
      last.rpc.world.store.waiting record user = false ∧ last.asleep thread = false := by
  induction labels generalizing state with
  | nil =>
    cases ran
    exact ⟨waits, clear, awake⟩
  | cons label labels ih =>
    obtain ⟨next, step, rest⟩ := Machine.run_cons_some.mp ran
    obtain ⟨met, later⟩ := spares next step
    have apart : ∀ answers, label ≠ .step thread answers := by
      rintro answers rfl
      exact others answers List.mem_cons_self
    exact ih rest later (fun answers inside => others answers (List.mem_cons_of_mem label inside))
      (rpcMachine_waits (sleepMachine_step step).1 waits apart)
      (flag_stays_clear step met waits clear) (awake_stays step awake apart)

/-! ## Where a clear flag comes from -/

/-- The call that waits on a thread was released in the run that led here, and has not taken a step
since. -/
def ReleasedBefore (auth : AuthDb) (front : List RpcLabel) (state : SleepState)
    (thread : ThreadId) (client : ClientId) (record : CanvasPtr) (user : UserPtr) : Prop :=
  ∃ before label since reached, front = before ++ label :: since ∧
    (sleepMachine auth).run {} before = some reached ∧
    reached.rpc.threads thread = some ⟨client, .barrierWait record user⟩ ∧
    reached.rpc.Releases auth label record user ∧
    (sleepMachine auth).run reached (label :: since) = some state ∧
    ∀ answers, .step thread answers ∉ since

/-- A waiting call whose flag is clear was released. -/
def ClearIsReleased (auth : AuthDb) (front : List RpcLabel) (state : SleepState) : Prop :=
  ∀ thread client record user,
    state.rpc.threads thread = some ⟨client, .barrierWait record user⟩ →
    state.rpc.world.store.waiting record user = true ∨
      ReleasedBefore auth front state thread client record user

/-- A thread's own step leaves it waiting only with its flag set. -/
theorem own_step_flagged {answers : Answers}
    (step : (sleepMachine auth).step state (.step thread answers) = some next)
    (waits : next.rpc.threads thread = some ⟨client, .barrierWait record user⟩) :
    next.rpc.world.store.waiting record user = true := by
  obtain ⟨taken, -⟩ := sleepMachine_step step
  obtain ⟨served, pc, working, -, result⟩ := rpcMachine_step taken
  rw [result] at waits ⊢
  have place : (advance auth answers (state.rpc.sessions served) state.rpc.world pc).2.2.waitsFor =
      some (record, user) := by
    have same := congrArg (fun work => work.bind fun work => work.pc.waitsFor) waits
    simpa [RpcState.advanceThread, Pc.waitsFor] using same
  exact (advance_waits place).1

/-- After the next step, too, a waiting call whose flag is clear was released. -/
theorem clearIsReleased_step {front : List RpcLabel}
    (ran : (sleepMachine auth).run {} front = some state)
    (before : ClearIsReleased auth front state)
    (step : (sleepMachine auth).step state label = some next) :
    ClearIsReleased auth (front ++ [label]) next := by
  intro thread client record user waits
  by_cases own : ∃ answers, label = .step thread answers
  · obtain ⟨answers, rfl⟩ := own
    exact .inl (own_step_flagged step waits)
  · have others : ∀ answers, label ≠ .step thread answers := fun answers same => own ⟨answers, same⟩
    obtain ⟨taken, -⟩ := sleepMachine_step step
    -- no other thread makes this one wait
    have waited : state.rpc.threads thread = some ⟨client, .barrierWait record user⟩ := by
      rcases rpcMachine_came taken waits with
        same | ⟨answers, -, own_step, -⟩ | ⟨line, begun⟩ | begun
      · exact same
      · exact absurd own_step (others answers)
      · cases begun
      · cases begun
    rcases before thread client record user waited with flagged |
        ⟨early, releasing, since, reached, split, segment, held, released, onward, apart⟩
    · cases still : next.rpc.world.store.waiting record user with
      | true => exact .inl rfl
      | false =>
        rcases rpcMachine_sectionOf taken with ⟨section_, performed, store⟩ | ⟨-, world⟩
        · rw [store] at still
          refine .inr ⟨front, label, [], state, rfl, ran, waited,
            ⟨section_, performed, section_.released_of_lost flagged still⟩, ?_, by simp⟩
          exact Machine.run_cons_some.mpr ⟨next, step, rfl⟩
        · rw [world, flagged] at still
          cases still
    · refine .inr ⟨early, releasing, since ++ [label], reached, by simp [split], segment, held,
        released, Machine.run_concat onward step, ?_⟩
      intro answers inside
      rcases List.mem_append.mp inside with earlier | last
      · exact apart answers earlier
      · exact others answers (List.mem_singleton.mp last).symm

/-- In every run from the start, clear flags of waiting calls come from releases. -/
theorem clearIsReleased {front : List RpcLabel}
    (ran : (sleepMachine auth).run {} front = some state) : ClearIsReleased auth front state := by
  refine Machine.run_history ?_ ?_ ran
  · intro thread client record user waits
    cases waits
  · exact fun front label reached next segment held step => clearIsReleased_step segment held step

end Sleepers

/-- In every run, every barrier call that waits and is released, or whose user leaves, is awake
from then on and returns 0 at its next step, exactly if no barrier call ever begins to wait for a
user on a canvas while another call of that user on that canvas, released already, still has to
take its next step. -/
theorem released_calls_return_iff (auth : AuthDb) (labels : List RpcLabel) :
    ReleasedReturn auth labels ↔
      (sleepMachine auth).EveryStep NobodyOvertaken {} labels := by
  constructor
  · intro returns
    refine Machine.everyStep_of_segments ?_
    rintro front label back reached next split segment step thread answers client canvasId record
      user canvas rfl calling entered other waiter waits
    by_contra clear
    rcases clearIsReleased segment other waiter record user waits with flagged |
        ⟨before, releasing, since, start, parts, early, held, released, onward, apart⟩
    · exact clear flagged
    · -- the call that begins to wait sets the flag that the released call is about to read
      have distinct : thread ≠ other := by
        rintro rfl
        rw [waits] at calling
        cases calling
      have others : ∀ answers_, RpcLabel.step thread answers ≠ .step other answers_ := by
        rintro answers_ same
        cases same
        exact distinct rfl
      obtain ⟨taken, -⟩ := sleepMachine_step step
      have own : next.rpc.threads thread = some ⟨client, .barrierWait record user⟩ := by
        rw [rpcMachine_step_of calling taken]
        simp [RpcState.advanceThread, advance, lockedSection, entered]
      have still := rpcMachine_waits taken waits others
      have further : (sleepMachine auth).run start
          (releasing :: (since ++ [.step thread answers])) = some next :=
        Machine.run_concat onward step
      have together := returns before releasing (since ++ [.step thread answers]) back start next
        other waiter record user (by simp [split, parts]) early held released
        further (by
          intro answers_ inside
          rcases List.mem_append.mp inside with earlier | last
          · exact apart answers_ earlier
          · exact others answers_ (List.mem_singleton.mp last).symm)
      have woken : ∃ after, (sleepMachine auth).step next (.step other {}) = some after :=
        ⟨_, Option.map_eq_some_iff.mpr ⟨_, rpcMachine_advance still rfl, rfl⟩⟩
      obtain ⟨after, taken_other⟩ := woken
      have back_to_wait := waits_returns still taken_other
      rw [if_pos (own_step_flagged step own), together.2 {} after taken_other] at back_to_wait
      cases back_to_wait
  · intro spares front label middle back reached last thread client record user split segment waits
      released onward apart
    subst split
    obtain ⟨between, step, rest⟩ := Machine.run_cons_some.mp onward
    obtain ⟨clear, awake, still⟩ := released_awake step waits released
    have later : (sleepMachine auth).EveryStep NobodyOvertaken between middle := by
      refine Machine.everyStep_of_segments ?_
      intro early each tail here next_ parts run_ step_
      have whole : front ++ label :: (middle ++ back) =
          (front ++ label :: early) ++ each :: (tail ++ back) := by simp [parts]
      rw [whole] at spares
      exact spares.at (Machine.run_append_some.mpr ⟨reached, segment,
        Machine.run_cons_some.mpr ⟨between, step, run_⟩⟩) step_
    obtain ⟨waits_last, clear_last, awake_last⟩ := released_stays rest later apart still clear awake
    refine ⟨awake_last, ?_⟩
    intro answers next step_
    rw [waits_returns waits_last step_, clear_last]
    rfl

/-- Ann waits for Bob, whose barrier call releases her. -/
def annReleased : List RpcLabel :=
  annAndBobConnected ++ [.request 0 0 (bytes "barrier 1\n"), .step 0 {}, .step 0 {},
    .request 1 1 (bytes "barrier 1\n"), .step 1 {}]

/-- Another barrier request of Ann's is served before her first one has taken the mutex again. -/
def annAgain : List RpcLabel :=
  [.request 2 0 (bytes "barrier 1\n"), .step 2 {}, .step 2 {}]

/-- Ann's first call, though released, goes back to wait for the round of her second one. -/
theorem released_calls_return_false : ¬ ReleasedReturn [⟨bytes "ann", 1⟩, ⟨bytes "bob", 1⟩]
    (annReleased ++ .step 1 {} :: (annAgain ++ [])) := by
  intro returns
  have returned := returns annReleased (.step 1 {}) annAgain [] _ _ 0 0 0 0 rfl rfl rfl
    ⟨_, rfl, .inl rfl⟩ rfl (by simp [annAgain])
  exact absurd (returned.2 {} _ rfl) (by decide)

end AnimateService
