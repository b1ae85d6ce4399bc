import AnimateService.BarrierSafety
import AnimateService.Operations

/-!
# How a request comes to wait

A request waits in `canvas_record_barrier` or in `canvas_record_wait_for_barrier`, always for a
flag that is set, and it begins to wait in the section in which it has looked up what it needs.
`advance_waits` says everything that is known of a step which leaves a request waiting.
-/
namespace AnimateService

open Rendezvous Transition

/-- A section looks up what it needs and begins to wait for a flag of the canvas at an address. -/
inductive BeginsWait (username : Bytes) (store : HandleStore) (record : CanvasPtr)
    (user : UserPtr) : Pc → Pc → Prop where
  /-- A user arrives at a barrier. -/
  | barrier {canvasId : UInt64} (found : canvasFor store canvasId username = some record) :
    BeginsWait username store record user (.locking (.barrier canvasId)) (.barrierWait record user)
  /-- A sprite is to be placed on the canvas. -/
  | place {canvasId spriteId : UInt64} {x y : Int} {sprite : Nat}
      (found : canvasFor store canvasId username = some record)
      (held : handlesGetSprite store spriteId username = some sprite) :
    BeginsWait username store record user (.locking (.placeSprite canvasId spriteId x y))
      (.canvasWait record user (.place record sprite canvasId spriteId x y))
  /-- A placement on the canvas is to be moved. -/
  | move {move : PlacementMove} {id : UInt64} {placement : Nat}
      (held : handlesGetPlacement store id username = some placement)
      (found : canvasFor store (placementRecordCanvasId store placement) username = some record) :
    BeginsWait username store record user (.locking (.movePlacement move id))
      (.canvasWait record user (.move move placement))
  /-- A placement on the canvas is to be animated. -/
  | setParams {id : UInt64} {vx vy ax ay : Int} {placement : Nat}
      (held : handlesGetPlacement store id username = some placement)
      (found : canvasFor store (placementRecordCanvasId store placement) username = some record) :
    BeginsWait username store record user (.locking (.setAnimationParams id vx vy ax ay))
      (.canvasWait record user (.setParams placement vx vy ax ay))
  /-- The canvas is to be rendered. -/
  | generate {job : GenerateJob} (found : canvasFor store job.canvasId username = some record) :
    BeginsWait username store record user (.locking (.generate job))
      (.canvasWait record user (.generate record job))

variable {auth : AuthDb} {answers : Answers} {session : Session} {world : World} {pc : Pc}
  {username : Bytes} {record : CanvasPtr} {user : UserPtr}

/-- Connecting a member sets and clears no flag. -/
theorem waiting_connect (store : HandleStore) (hit record : CanvasPtr) (username : Bytes)
    (user : UserPtr) :
    (store.updateCanvas hit fun canvas => canvas.connect username).waiting record user =
      store.waiting record user := by
  simp only [HandleStore.waiting, canvases_updateCanvas]
  by_cases here : hit = record
  · subst here
    cases present : store.canvases[hit]? with
    | none => simp
    | some canvas =>
      simp only [↓reduceIte, Option.map_some, Option.bind_some, CanvasRecord.connect]
      split
      · simp only [CanvasRecord.users_updateUser]
        split
        · cases canvas.users[user]? <;> rfl
        · rfl
      · rfl
  · rw [if_neg here]

/-- A connection does not change for whom an operation has to wait. -/
theorem barrierToWaitFor_connect (store : HandleStore) (record : CanvasPtr)
    (name username : Bytes) :
    barrierToWaitFor (store.updateCanvas record fun canvas => canvas.connect name) record username =
      barrierToWaitFor store record username := by
  simp only [barrierToWaitFor, waiting_connect, canvases_updateCanvas, ↓reduceIte]
  cases store.canvases[record]? with
  | none => rfl
  | some canvas => simp only [Option.map_some, Option.bind_some, findSharedUser_connect]

/-- The flag that `canvas_record_wait_for_barrier` waits for is that of the user, and it is set. -/
theorem barrierToWaitFor_some {store : HandleStore}
    (waits : barrierToWaitFor store record username = some user) :
    MemberNamed store record user username ∧ store.waiting record user = true := by
  obtain ⟨member, flagged⟩ := Option.filter_eq_some_iff.mp waits
  obtain ⟨canvas, present, hit⟩ := Option.bind_eq_some_iff.mp member
  exact ⟨memberNamed_of_found present hit, flagged⟩

/-- The rest of an operation waits for nothing. -/
theorem resumeAfterWait_waitsFor (resume : Resume) :
    (resumeAfterWait answers world resume).2.waitsFor = none :=
  Pc.waitsFor_of_late (resumeAfterWait_late resume)

/-- An operation waits where its user has arrived at the barrier. -/
theorem waitThenResume_waitsFor {found : CanvasPtr} {resume : Resume}
    (waits : (waitThenResume answers world found username resume).2.waitsFor =
      some (record, user)) :
    found = record ∧ barrierToWaitFor world.store record username = some user ∧
      (waitThenResume answers world found username resume).2 = .canvasWait record user resume := by
  unfold waitThenResume at waits ⊢
  split at waits
  · rename_i member flagged
    cases waits
    exact ⟨rfl, flagged, rfl⟩
  · rw [resumeAfterWait_waitsFor] at waits
    cases waits

/-- An operation on a placement waits where the user has arrived at the barrier of its canvas. -/
theorem throughPlacement_waitsFor {placement : Nat} {resume : Resume}
    (waits : (throughPlacement answers world username placement resume).2.waitsFor =
      some (record, user)) :
    canvasFor world.store (placementRecordCanvasId world.store placement) username = some record ∧
      MemberNamed world.store record user username ∧
      (throughPlacement answers world username placement resume).1.store.waiting record user =
        true ∧
      (throughPlacement answers world username placement resume).2 =
        .canvasWait record user resume := by
  have store := throughPlacement_store answers world username placement resume
  cases found : canvasFor world.store (placementRecordCanvasId world.store placement) username with
  | none =>
    simp only [throughPlacement, handlesGetCanvas_none found, resumeAfterWait_waitsFor] at waits
    cases waits
  | some hit =>
    rw [store]
    have looked := handlesGetCanvas_some found
    simp only [throughPlacement, looked] at waits ⊢
    obtain ⟨rfl, flagged, blocked⟩ := waitThenResume_waitsFor waits
    rw [barrierToWaitFor_connect] at flagged
    obtain ⟨named, set_⟩ := barrierToWaitFor_some flagged
    rw [← waiting_connect] at set_
    exact ⟨rfl, named, set_, blocked⟩

/-- A section that leaves its request waiting. -/
theorem lockedSection_waits {command : StoreCommand}
    (waits : (lockedSection answers session world command).2.waitsFor = some (record, user)) :
    BeginsWait session.username world.store record user (.locking command)
        (lockedSection answers session world command).2 ∧
      MemberNamed world.store record user session.username ∧
      (lockedSection answers session world command).1.store.waiting record user = true := by
  cases command with
  | destroyCanvas id => cases waits
  | destroySprite id => cases waits
  | destroyPlacement id => cases waits
  | shareCanvas id target => cases waits
  | placeSprite canvasId spriteId x y =>
    cases found : canvasFor world.store canvasId session.username with
    | none =>
      simp only [lockedSection, handlesGetCanvas_none found] at waits
      cases waits
    | some hit =>
      have looked := handlesGetCanvas_some found
      have sprites := (handlesGetCanvas_elsewhere world.store canvasId session.username).1
      rw [looked] at sprites
      cases held : handlesGetSprite world.store spriteId session.username with
      | none =>
        have held_after : handlesGetSprite (world.store.updateCanvas hit fun canvas =>
            canvas.connect session.username) spriteId session.username = none := by
          rw [← held, handlesGetSprite, handlesGetSprite, sprites]
        simp only [lockedSection, looked, held_after] at waits
        cases waits
      | some sprite =>
        have held_after : handlesGetSprite (world.store.updateCanvas hit fun canvas =>
            canvas.connect session.username) spriteId session.username = some sprite := by
          rw [← held, handlesGetSprite, handlesGetSprite, sprites]
        simp only [lockedSection, looked, held_after, waitThenResume_store] at waits ⊢
        obtain ⟨rfl, flagged, blocked⟩ := waitThenResume_waitsFor waits
        rw [barrierToWaitFor_connect] at flagged
        obtain ⟨named, set_⟩ := barrierToWaitFor_some flagged
        rw [← waiting_connect] at set_
        exact ⟨blocked ▸ .place found held, named, set_⟩
  | movePlacement move id =>
    cases held : handlesGetPlacement world.store id session.username with
    | none =>
      simp only [lockedSection, held] at waits
      cases waits
    | some placement =>
      simp only [lockedSection, held] at waits ⊢
      obtain ⟨found, named, set_, blocked⟩ := throughPlacement_waitsFor waits
      exact ⟨blocked ▸ .move held found, named, set_⟩
  | setAnimationParams id vx vy ax ay =>
    cases held : handlesGetPlacement world.store id session.username with
    | none =>
      simp only [lockedSection, held] at waits
      cases waits
    | some placement =>
      simp only [lockedSection, held] at waits ⊢
      obtain ⟨found, named, set_, blocked⟩ := throughPlacement_waitsFor waits
      exact ⟨blocked ▸ .setParams held found, named, set_⟩
  | barrier canvasId =>
    cases found : canvasFor world.store canvasId session.username with
    | none =>
      simp only [lockedSection, barrierSection, handlesGetCanvas_none found] at waits
      cases waits
    | some hit =>
      obtain ⟨canvas, member, present, named, ⟨-, result⟩ | ⟨-, result⟩⟩ :=
        barrierSection_some found
      · simp only [lockedSection, result] at waits
        cases waits
      · simp only [lockedSection, result] at waits ⊢
        cases waits
        refine ⟨.barrier found, memberNamed_of_found present named, ?_⟩
        have flagged : ((canvas.connect session.username).arrive user).WaitingAt user := by
          rw [← CanvasRecord.mem_waiting, barrier_connect_arrive named]
          exact Set.mem_insert user _
        exact waiting_iff.mpr ⟨_, by simp [canvases_updateCanvas, present], flagged⟩
  | generate job =>
    cases found : canvasFor world.store job.canvasId session.username with
    | none =>
      simp only [lockedSection, handlesGetCanvas_none found] at waits
      cases waits
    | some hit =>
      have looked := handlesGetCanvas_some found
      simp only [lockedSection, looked, waitThenResume_store] at waits ⊢
      obtain ⟨rfl, flagged, blocked⟩ := waitThenResume_waitsFor waits
      rw [barrierToWaitFor_connect] at flagged
      obtain ⟨named, set_⟩ := barrierToWaitFor_some flagged
      rw [← waiting_connect] at set_
      exact ⟨blocked ▸ .generate found, named, set_⟩

/-- An added record's answer waits for nothing. -/
theorem answerHandle_waitsFor (id : UInt64) (undo : Call) :
    (answerHandle answers world id undo).2.waitsFor = none :=
  Pc.waitsFor_of_late (answerHandle_late id undo)

/-- A step that leaves a request waiting leaves it where it waits, with everything else, or is a
section that begins to wait. The flag is set in either case. -/
theorem advance_waits
    (waits : (advance auth answers session world pc).2.2.waitsFor = some (record, user)) :
    (advance auth answers session world pc).2.1.store.waiting record user = true ∧
    ((advance auth answers session world pc).2 = (world, pc) ∨
      BeginsWait session.username world.store record user pc
          (advance auth answers session world pc).2.2 ∧
        MemberNamed world.store record user session.username) := by
  cases pc with
  | start line =>
    rw [advance, Pc.waitsFor_of_early (startRequest_early line)] at waits
    cases waits
  | addCanvas canvas width height =>
    simp only [advance, answerHandle_waitsFor] at waits
    cases waits
  | addSprite sprite =>
    simp only [advance, answerHandle_waitsFor] at waits
    cases waits
  | addPlacement placement canvasId spriteId =>
    simp only [advance, answerHandle_waitsFor] at waits
    cases waits
  | locking command =>
    obtain ⟨begun, named, flagged⟩ := lockedSection_waits waits
    exact ⟨flagged, .inr ⟨begun, named⟩⟩
  | barrierWait canvas member =>
    cases flagged : world.store.waiting canvas member with
    | false =>
      simp only [advance, flagged, Bool.false_eq_true, ↓reduceIte] at waits
      cases waits
    | true =>
      simp only [advance, flagged, ↓reduceIte] at waits ⊢
      cases waits
      exact ⟨flagged, .inl trivial⟩
  | canvasWait canvas member resume =>
    cases flagged : world.store.waiting canvas member with
    | false =>
      simp only [advance, flagged, Bool.false_eq_true, ↓reduceIte, resumeAfterWait_waitsFor] at waits
      cases waits
    | true =>
      simp only [advance, flagged, ↓reduceIte] at waits ⊢
      cases waits
      exact ⟨flagged, .inl trivial⟩
  | frame job frame =>
    rw [advance, Pc.waitsFor_of_late (generateFrame_late job frame)] at waits
    cases waits
  | disconnect =>
    simp only [advance] at waits
    split at waits <;> cases waits
  | endSession => cases waits
  | finished response => cases waits

end AnimateService
