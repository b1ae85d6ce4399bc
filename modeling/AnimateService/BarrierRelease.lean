import AnimateService.CanvasSteps

/-!
# When a barrier is released

A barrier call that completes the barrier releases it, but the two departures do not look whether
the members left behind are now complete: they wake the waiting threads, whose flags are still
set. `barriers_move_iff` says exactly which departures stall a canvas.
-/
namespace AnimateService

open Rendezvous Transition

/-- No canvas has a waiting member while all its connected members wait. -/
def BarriersMove (store : HandleStore) : Prop :=
  ∀ (record : CanvasPtr) (canvas : CanvasRecord), store.canvases[record]? = some canvas →
    ¬ canvas.barrier.Stalled

/-- Nobody leaves a canvas on which somebody else waits and nobody else is awaited. -/
def NobodyAwaitedLeaves (store : HandleStore) (step : CanvasStep) : Prop :=
  ∀ (record : CanvasPtr) (canvas : CanvasRecord) (user : UserPtr),
    store.canvases[record]? = some canvas → step.departure store record = some user →
      ¬ canvas.barrier.AwaitsOnly user

/-- One section keeps the barriers moving exactly when it is no such departure. -/
theorem barriersMove_step {store : HandleStore} (step : CanvasStep) (moving : BarriersMove store) :
    BarriersMove (step.apply store) ↔ NobodyAwaitedLeaves store step := by
  constructor
  · intro after record canvas user present departs awaited
    obtain ⟨next, there, change⟩ := CanvasStep.apply_change present step
    have moved := after record next there
    have result : next.barrier = canvas.barrier.leave user := change.of_departure departs
    rw [result, Barrier.leave_stalled_iff] at moved
    exact moved awaited
  · intro freely record canvas present
    cases before : store.canvases[record]? with
    | none =>
      obtain ⟨object, width, height, owner, -, rfl⟩ := CanvasStep.apply_added before present
      rintro ⟨⟨user, member, there, waits⟩, -⟩
      -- the only member of a new record does not wait
      obtain rfl := List.mem_singleton.mp (List.mem_of_getElem? there)
      cases waits
    | some old =>
      obtain ⟨next, there, change⟩ := CanvasStep.apply_change before step
      obtain rfl := Option.some.inj (present.symm.trans there)
      have quiet := moving record old before
      generalize canvas.barrier = after at change ⊢
      cases change with
      | kept stays => exact quiet
      | joined stays user => exact Barrier.join_not_stalled quiet
      | arrived called found member => exact Barrier.arrive_not_stalled
      | left departs =>
        rw [Barrier.leave_stalled_iff]
        exact freely record old _ before departs

/-- In a run from the empty store, no canvas ever has a waiting member while all its connected
members wait, exactly if nobody ever leaves a canvas on which somebody else waits and nobody
else is awaited. -/
theorem barriers_move_iff (steps : List CanvasStep) :
    canvasMachine.Always BarriersMove {} steps ↔
      canvasMachine.EveryStep NobodyAwaitedLeaves {} steps := by
  have kept : ∀ store step next, (fun _ => True) store → canvasMachine.step store step = some next →
      (fun _ : HandleStore => True) next := fun _ _ _ _ _ => trivial
  refine Machine.always_iff_everyStep kept ?_ trivial (by simp [BarriersMove])
  intro store step next _ moving stepped
  obtain rfl := Option.some.inj stepped
  exact barriersMove_step step moving

/-- A canvas on which somebody waits and the barrier test succeeds is stalled. -/
theorem barrier_stalled {canvas : CanvasRecord}
    (waits : canvas.users.any SharedUser.barrierWaiting = true)
    (complete : canvasBarrierComplete canvas = true) : canvas.barrier.Stalled := by
  obtain ⟨member, inside, waiting⟩ := List.any_eq_true.mp waits
  obtain ⟨user, present⟩ := List.mem_iff_getElem?.mp inside
  exact ⟨⟨user, member, present, waiting⟩, CanvasRecord.canvasBarrierComplete_iff.mp complete⟩

/-- Ann waits for Bob on a canvas that they share, and Bob destroys the canvas. -/
def abandonedBarrier : List CanvasStep :=
  [.createCanvas 0 1 1 (bytes "ann") true, .shareCanvas 1 (bytes "ann") (bytes "bob") true,
    .lookup 1 (bytes "bob"), .barrier 1 (bytes "ann"), .destroyCanvas 1 (bytes "bob")]

/-- Ann is left waiting for nobody. -/
theorem abandonedBarrier_stalls : ¬ canvasMachine.Always BarriersMove {} abandonedBarrier := by
  intro always
  have ends : canvasMachine.run {} abandonedBarrier =
      some { nextId := 2, canvases :=
        [{ id := 1, canvas := some 0, width := 1, height := 1, deleted := false,
           users := [⟨bytes "ann", true, true⟩, ⟨bytes "bob", false, false⟩] }] } := by decide
  exact always.last ends 0 _ rfl (barrier_stalled rfl rfl)

end AnimateService
