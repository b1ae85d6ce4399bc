import AnimateService.CanvasBarrier
import AnimateService.Rpc
import AnimateService.Library.Machine

/-!
# Sections that change canvas members

The sections under the store's mutex, as far as they touch the members of canvases, are the steps
of a machine on the handle store. `CanvasStep.apply_change` says everything that a section can do
to the barrier of a canvas: keep it, join the member it was looked up for, arrive at it, or leave
it. What holds of barriers over whole runs is derived from that.
-/
namespace AnimateService

open LinkedList Rendezvous Transition

/-! ## The lookups of canvases -/

/-- Reading a canvas record after a write to one address. -/
theorem canvases_updateCanvas (store : HandleStore) (record other : CanvasPtr)
    (write : CanvasRecord → CanvasRecord) :
    (store.updateCanvas record write).canvases[other]? =
      if record = other then (store.canvases[other]?).map write else store.canvases[other]? := by
  simp only [HandleStore.updateCanvas, List.getElem?_modify]
  split
  · rfl
  · simp

/-- Two writes to one address are one write. -/
theorem updateCanvas_updateCanvas (store : HandleStore) (record : CanvasPtr)
    (first second : CanvasRecord → CanvasRecord) :
    (store.updateCanvas record first).updateCanvas record second =
      store.updateCanvas record fun canvas => second (first canvas) := by
  simp only [HandleStore.updateCanvas, List.modify_modify_eq]
  rfl

/-- A write is determined by what it does to the record at its address. -/
theorem updateCanvas_congr {store : HandleStore} {record : CanvasPtr} {canvas : CanvasRecord}
    (present : store.canvases[record]? = some canvas) {write other : CanvasRecord → CanvasRecord}
    (same : write canvas = other canvas) :
    store.updateCanvas record write = store.updateCanvas record other := by
  have canvases : (store.updateCanvas record write).canvases =
      (store.updateCanvas record other).canvases := by
    apply List.ext_getElem?
    intro index
    simp only [canvases_updateCanvas]
    by_cases here : record = index
    · subst here
      simp [present, same]
    · simp [here]
  simpa [HandleStore.updateCanvas] using canvases

/-- Reading a canvas record after a function acted on one address. -/
theorem canvases_onCanvas (store : HandleStore) (record other : CanvasPtr)
    (act : CanvasRecord → CanvasRecord × List Call) :
    (store.onCanvas record act).1.canvases[other]? =
      if record = other then (store.canvases[other]?).map fun canvas => (act canvas).1
      else store.canvases[other]? := by
  unfold HandleStore.onCanvas
  split
  · rename_i canvas present
    simp only [List.getElem?_set]
    split
    · rename_i same
      subst same
      have inside : record < store.canvases.length := (List.getElem?_eq_some_iff.mp present).1
      rw [if_pos inside, present]
      rfl
    · rfl
  · rename_i absent
    split
    · rename_i same
      subst same
      simp [absent]
    · rfl

/-- A canvas that is found is live and has the member it was looked up for. -/
theorem canvasFor_some {store : HandleStore} {id : UInt64} {username : Bytes} {record : CanvasPtr}
    (found : canvasFor store id username = some record) :
    ∃ canvas user, store.canvases[record]? = some canvas ∧ canvas.id = id ∧
      canvas.canvas.isSome = true ∧ canvas.deleted = false ∧
      findSharedUser canvas username = some user := by
  unfold canvasFor at found
  split at found
  · cases found
  · obtain ⟨canvas, present, accepted⟩ := newest?_some found
    simp only [CanvasRecord.answers, Bool.and_eq_true, decide_eq_true_eq,
      Bool.not_eq_eq_eq_not, Bool.not_true, Option.isSome_iff_exists] at accepted
    obtain ⟨⟨⟨named, live⟩, kept⟩, user, member⟩ := accepted
    exact ⟨canvas, user, present, named, Option.isSome_iff_exists.mpr live, kept, member⟩

/-- A lookup that finds a canvas connects its member. -/
theorem handlesGetCanvas_some {store : HandleStore} {id : UInt64} {username : Bytes}
    {record : CanvasPtr} (found : canvasFor store id username = some record) :
    handlesGetCanvas store id username =
      (some record, store.updateCanvas record fun canvas => canvas.connect username) := by
  simp only [handlesGetCanvas, found]

/-- A lookup that finds nothing changes nothing. -/
theorem handlesGetCanvas_none {store : HandleStore} {id : UInt64} {username : Bytes}
    (missing : canvasFor store id username = none) :
    handlesGetCanvas store id username = (none, store) := by
  simp only [handlesGetCanvas, missing]

/-- Connecting a member does not change which member a name finds. -/
theorem findSharedUser_connect (canvas : CanvasRecord) (username name : Bytes) :
    findSharedUser (canvas.connect username) name = findSharedUser canvas name := by
  unfold CanvasRecord.connect
  split
  · exact CanvasRecord.findSharedUser_updateUser _ _ fun _ => rfl
  · rfl

/-- Connecting keeps the library canvas, the mark and the handle. -/
theorem connect_object (canvas : CanvasRecord) (username : Bytes) :
    (canvas.connect username).canvas = canvas.canvas ∧
      (canvas.connect username).deleted = canvas.deleted ∧
      (canvas.connect username).id = canvas.id := by
  unfold CanvasRecord.connect
  split <;> exact ⟨rfl, rfl, rfl⟩

/-- A departure leaves the object of a canvas and its mark alone. -/
theorem depart_object (canvas : CanvasRecord) (username : Bytes) :
    (canvas.depart username).canvas = canvas.canvas ∧
      (canvas.depart username).deleted = canvas.deleted ∧
      (canvas.depart username).id = canvas.id := by
  unfold CanvasRecord.depart
  split <;> exact ⟨rfl, rfl, rfl⟩

/-! ## The sections as steps -/

/-- One section under the store's mutex. What it does elsewhere than to the canvases is left open:
sections on sprites and placements are `elsewhere`, with whatever they leave there. -/
inductive CanvasStep where
  | createCanvas (canvas : Object) (width height : UInt64) (owner : Bytes) (memory : Bool)
  | shareCanvas (canvasId : UInt64) (username target : Bytes) (memory : Bool)
  | lookup (canvasId : UInt64) (username : Bytes)
  | barrier (canvasId : UInt64) (username : Bytes)
  | destroyCanvas (canvasId : UInt64) (username : Bytes)
  | disconnect (username : Bytes)
  | elsewhere (nextId : UInt64) (sprites : List SpriteRecord) (placements : List PlacementRecord)
  deriving DecidableEq, Repr

/-- The store after a section. -/
def CanvasStep.apply (store : HandleStore) : CanvasStep → HandleStore
  | .createCanvas canvas width height owner memory =>
    (handlesAddCanvas store canvas width height owner memory).2
  | .shareCanvas canvasId username target memory =>
    (shareSection store canvasId username target memory).2
  | .lookup canvasId username => (handlesGetCanvas store canvasId username).2
  | .barrier canvasId username => (barrierSection store canvasId username).2
  | .destroyCanvas canvasId username => (handlesDestroyCanvasForUser store canvasId username).2.1
  | .disconnect username => (handlesDisconnectUser store username).1
  | .elsewhere nextId sprites placements => { store with nextId, sprites, placements }

/-- The sections in any order. -/
def canvasMachine : Machine HandleStore CanvasStep where
  step store section_ := some (section_.apply store)

/-- The member that a section takes off a canvas. -/
def CanvasStep.departure (store : HandleStore) (record : CanvasPtr) : CanvasStep → Option UserPtr
  | .destroyCanvas canvasId username =>
    if canvasFor store canvasId username = some record then
      (store.canvases[record]?).bind fun canvas => findSharedUser canvas username
    else none
  | .disconnect username =>
    if username = [] then none
    else (store.canvases[record]?).bind fun canvas => findSharedUser canvas username
  | _ => none

/-- What a section does to the record of a canvas that exists. -/
inductive RecordChange (store : HandleStore) (record : CanvasPtr) (canvas : CanvasRecord) :
    CanvasStep → CanvasRecord → Prop where
  /-- The section is about something else. -/
  | kept {step : CanvasStep} (stays : step.departure store record = none) :
    RecordChange store record canvas step canvas
  /-- The member that the canvas was looked up for is connected. -/
  | looked {canvasId : UInt64} {username : Bytes} {user : UserPtr}
      (found : canvasFor store canvasId username = some record)
      (member : findSharedUser canvas username = some user) :
    RecordChange store record canvas (.lookup canvasId username) (canvas.connect username)
  /-- Sharing first looks the canvas up. -/
  | shared {canvasId : UInt64} {username target : Bytes} {memory : Bool} {user : UserPtr}
      (found : canvasFor store canvasId username = some record)
      (member : findSharedUser canvas username = some user) :
    RecordChange store record canvas (.shareCanvas canvasId username target memory)
      (canvasRecordShare (canvas.connect username) target memory).2
  /-- A barrier call completes the barrier. -/
  | completed {canvasId : UInt64} {username : Bytes} {user : UserPtr}
      (found : canvasFor store canvasId username = some record)
      (member : findSharedUser canvas username = some user)
      (complete : ((canvas.connect username).arrive user).barrier.Complete) :
    RecordChange store record canvas (.barrier canvasId username)
      ((canvas.connect username).arrive user).release
  /-- A barrier call waits. -/
  | arrived {canvasId : UInt64} {username : Bytes} {user : UserPtr}
      (found : canvasFor store canvasId username = some record)
      (member : findSharedUser canvas username = some user)
      (short : ¬ ((canvas.connect username).arrive user).barrier.Complete) :
    RecordChange store record canvas (.barrier canvasId username)
      ((canvas.connect username).arrive user)
  /-- A member destroys the canvas. -/
  | destroyed {canvasId : UInt64} {username : Bytes} {user : UserPtr}
      (found : canvasFor store canvasId username = some record)
      (member : findSharedUser canvas username = some user) :
    RecordChange store record canvas (.destroyCanvas canvasId username)
      ((canvas.connect username).destroyFor username).1
  /-- A member is disconnected. -/
  | disconnected {username : Bytes} {user : UserPtr} (named : username ≠ [])
      (member : findSharedUser canvas username = some user) :
    RecordChange store record canvas (.disconnect username) (canvas.disconnect username).1

/-- The record that a successful lookup finds. -/
theorem canvasFor_present {store : HandleStore} {id : UInt64} {username : Bytes}
    {record : CanvasPtr} {canvas : CanvasRecord}
    (found : canvasFor store id username = some record)
    (present : store.canvases[record]? = some canvas) :
    ∃ user, findSharedUser canvas username = some user := by
  obtain ⟨looked, user, there, -, -, -, member⟩ := canvasFor_some found
  obtain rfl := Option.some.inj (present.symm.trans there)
  exact ⟨user, member⟩

/-- The store after a barrier call whose canvas was found. -/
theorem barrierSection_some {store : HandleStore} {canvasId : UInt64} {username : Bytes}
    {record : CanvasPtr} (found : canvasFor store canvasId username = some record) :
    ∃ canvas user, store.canvases[record]? = some canvas ∧
      findSharedUser canvas username = some user ∧
      (((canvas.connect username).arrive user).barrier.Complete ∧
          barrierSection store canvasId username =
            (some (record, .released ((canvas.connect username).arrive user).release),
              store.updateCanvas record fun canvas =>
                ((canvas.connect username).arrive user).release) ∨
        ¬ ((canvas.connect username).arrive user).barrier.Complete ∧
          barrierSection store canvasId username =
            (some (record, .waits user ((canvas.connect username).arrive user)),
              store.updateCanvas record fun canvas => (canvas.connect username).arrive user)) := by
  obtain ⟨canvas, user, present, -, -, -, member⟩ := canvasFor_some found
  have looked : (store.updateCanvas record fun canvas => canvas.connect username).canvases[record]? =
      some (canvas.connect username) := by
    simp [canvases_updateCanvas, present]
  have found_again : findSharedUser (canvas.connect username) username = some user := by
    rw [findSharedUser_connect, member]
  refine ⟨canvas, user, present, member, ?_⟩
  simp only [barrierSection, handlesGetCanvas_some found, looked]
  rcases CanvasRecord.canvasRecordBarrier_spec found_again with ⟨released, complete⟩ | ⟨waits, short⟩
  · refine .inl ⟨complete, ?_⟩
    simp only [released, updateCanvas_updateCanvas]
    exact congrArg (Prod.mk _) (updateCanvas_congr present rfl)
  · refine .inr ⟨short, ?_⟩
    simp only [waits, updateCanvas_updateCanvas]
    exact congrArg (Prod.mk _) (updateCanvas_congr present rfl)

/-- What a section does to a canvas that exists. -/
theorem CanvasStep.apply_record {store : HandleStore} {record : CanvasPtr} {canvas : CanvasRecord}
    (present : store.canvases[record]? = some canvas) (step : CanvasStep) :
    ∃ after, (step.apply store).canvases[record]? = some after ∧
      RecordChange store record canvas step after := by
  cases step with
  | createCanvas object width height owner memory =>
    refine ⟨canvas, ?_, .kept rfl⟩
    have inside : record < store.canvases.length := (List.getElem?_eq_some_iff.mp present).1
    cases memory with
    | false => exact present
    | true => simpa [CanvasStep.apply, handlesAddCanvas, List.getElem?_append_left inside] using present
  | shareCanvas canvasId username target memory =>
    cases found : canvasFor store canvasId username with
    | none => exact ⟨canvas, by simpa [apply, shareSection, handlesGetCanvas_none found], .kept rfl⟩
    | some hit =>
      simp only [apply, shareSection, handlesGetCanvas_some found, updateCanvas_updateCanvas,
        canvases_updateCanvas, present]
      by_cases same : hit = record
      · subst same
        obtain ⟨user, member⟩ := canvasFor_present found present
        exact ⟨_, by simp, .shared found member⟩
      · exact ⟨canvas, by simp [same], .kept rfl⟩
  | lookup canvasId username =>
    cases found : canvasFor store canvasId username with
    | none => exact ⟨canvas, by simpa [apply, handlesGetCanvas_none found], .kept rfl⟩
    | some hit =>
      simp only [apply, handlesGetCanvas_some found, canvases_updateCanvas, present]
      by_cases same : hit = record
      · subst same
        obtain ⟨user, member⟩ := canvasFor_present found present
        exact ⟨_, by simp, .looked found member⟩
      · exact ⟨canvas, by simp [same], .kept rfl⟩
  | barrier canvasId username =>
    cases found : canvasFor store canvasId username with
    | none =>
      exact ⟨canvas, by simpa [apply, barrierSection, handlesGetCanvas_none found], .kept rfl⟩
    | some hit =>
      obtain ⟨looked, user, there, member, outcome⟩ := barrierSection_some found
      by_cases same : hit = record
      · subst same
        obtain rfl := Option.some.inj (present.symm.trans there)
        rcases outcome with ⟨complete, result⟩ | ⟨short, result⟩
        · refine ⟨_, ?_, .completed found member complete⟩
          simp [apply, result, canvases_updateCanvas, present]
        · refine ⟨_, ?_, .arrived found member short⟩
          simp [apply, result, canvases_updateCanvas, present]
      · refine ⟨canvas, ?_, .kept rfl⟩
        rcases outcome with ⟨-, result⟩ | ⟨-, result⟩ <;>
          simp [apply, result, canvases_updateCanvas, same, present]
  | destroyCanvas canvasId username =>
    cases found : canvasFor store canvasId username with
    | none =>
      simp only [apply, handlesDestroyCanvasForUser, handlesGetCanvas_none found]
      exact ⟨canvas, present, .kept (by simp [departure, found])⟩
    | some hit =>
      simp only [apply, handlesDestroyCanvasForUser, handlesGetCanvas_some found, canvases_onCanvas,
        canvases_updateCanvas]
      by_cases same : hit = record
      · subst same
        obtain ⟨user, member⟩ := canvasFor_present found present
        exact ⟨_, by simp [present], .destroyed found member⟩
      · exact ⟨canvas, by simp [same, present], .kept (by simp [departure, found, same])⟩
  | disconnect username =>
    simp only [apply, handlesDisconnectUser]
    by_cases anonymous : username = []
    · rw [if_pos anonymous]
      exact ⟨canvas, present, .kept (by simp [departure, anonymous])⟩
    · simp only [if_neg anonymous, List.getElem?_map, present, Option.map_some]
      refine ⟨(canvas.disconnect username).1, rfl, ?_⟩
      cases member : findSharedUser canvas username with
      | none =>
        simp only [CanvasRecord.disconnect, member]
        exact .kept (by simp [departure, present, member])
      | some user => exact .disconnected anonymous member
  | elsewhere nextId sprites placements => exact ⟨canvas, present, .kept rfl⟩

/-! ## What a section does to a barrier -/

/-- What a section does to the barrier of a canvas. -/
inductive MemberChange (store : HandleStore) (record : CanvasPtr) (canvas : CanvasRecord)
    (step : CanvasStep) : Barrier UserPtr → Prop where
  /-- The section is about something else. -/
  | kept (stays : step.departure store record = none) :
    MemberChange store record canvas step canvas.barrier
  /-- The member that the canvas was looked up for is connected. -/
  | joined (stays : step.departure store record = none) (user : UserPtr) :
    MemberChange store record canvas step (canvas.barrier.join user)
  /-- A member arrives at the barrier. -/
  | arrived {canvasId : UInt64} {username : Bytes} {user : UserPtr}
      (called : step = .barrier canvasId username)
      (found : canvasFor store canvasId username = some record)
      (member : findSharedUser canvas username = some user) :
    MemberChange store record canvas step ((canvas.barrier.join user).arrive user)
  /-- A member leaves. -/
  | left {user : UserPtr} (departs : step.departure store record = some user) :
    MemberChange store record canvas step (canvas.barrier.leave user)

/-- The barrier of a canvas whose member arrives. -/
theorem barrier_connect_arrive {canvas : CanvasRecord} {username : Bytes} {user : UserPtr}
    (member : findSharedUser canvas username = some user) :
    ((canvas.connect username).arrive user).barrier = (canvas.barrier.join user).mark user := by
  have found_again : findSharedUser (canvas.connect username) username = some user := by
    rw [findSharedUser_connect, member]
  rw [CanvasRecord.barrier_arrive found_again, CanvasRecord.barrier_connect member]

/-- The change of a record as a change of its barrier. -/
theorem RecordChange.barrier {store : HandleStore} {record : CanvasPtr}
    {canvas after : CanvasRecord} {step : CanvasStep}
    (present : store.canvases[record]? = some canvas)
    (change : RecordChange store record canvas step after) :
    MemberChange store record canvas step after.barrier := by
  cases change with
  | kept stays => exact .kept stays
  | looked found member =>
    rw [CanvasRecord.barrier_connect member]
    exact .joined rfl _
  | shared found member =>
    rw [CanvasRecord.barrier_share, CanvasRecord.barrier_connect member]
    exact .joined rfl _
  | completed found member complete =>
    have change := MemberChange.arrived rfl found member
    rw [barrier_connect_arrive member] at complete
    rw [Barrier.arrive, if_pos complete] at change
    rw [CanvasRecord.barrier_release, barrier_connect_arrive member]
    exact change
  | arrived found member short =>
    have change := MemberChange.arrived rfl found member
    rw [barrier_connect_arrive member] at short
    rw [Barrier.arrive, if_neg short] at change
    rw [barrier_connect_arrive member]
    exact change
  | destroyed found member =>
    rename_i canvasId username user
    have found_again : findSharedUser (canvas.connect username) username = some user := by
      rw [findSharedUser_connect, member]
    rw [CanvasRecord.barrier_congr CanvasRecord.destroyFor_users,
      CanvasRecord.barrier_depart found_again, CanvasRecord.barrier_connect member,
      Barrier.leave_join]
    exact .left (by simp [CanvasStep.departure, found, present, member])
  | disconnected named member =>
    rw [CanvasRecord.barrier_congr CanvasRecord.disconnect_users,
      CanvasRecord.barrier_depart member]
    exact .left (by simp [CanvasStep.departure, named, present, member])

/-- What a section does to the barrier of a canvas that exists. -/
theorem CanvasStep.apply_change {store : HandleStore} {record : CanvasPtr} {canvas : CanvasRecord}
    (present : store.canvases[record]? = some canvas) (step : CanvasStep) :
    ∃ after, (step.apply store).canvases[record]? = some after ∧
      MemberChange store record canvas step after.barrier := by
  obtain ⟨after, there, change⟩ := CanvasStep.apply_record present step
  exact ⟨after, there, change.barrier present⟩

/-- A section with a departure leaves the barrier and does nothing else to it. -/
theorem MemberChange.of_departure {store : HandleStore} {record : CanvasPtr}
    {canvas : CanvasRecord} {step : CanvasStep} {after : Barrier UserPtr} {user : UserPtr}
    (change : MemberChange store record canvas step after)
    (departs : step.departure store record = some user) : after = canvas.barrier.leave user := by
  cases change with
  | kept stays =>
    rw [stays] at departs
    cases departs
  | joined stays other =>
    rw [stays] at departs
    cases departs
  | arrived called found member =>
    subst called
    cases departs
  | left leaves =>
    obtain rfl := Option.some.inj (leaves.symm.trans departs)
    rfl

/-- A record that was not there before a section is the new record of a created canvas. -/
theorem CanvasStep.apply_added {store : HandleStore} {record : CanvasPtr} {canvas : CanvasRecord}
    {step : CanvasStep} (absent : store.canvases[record]? = none)
    (present : (step.apply store).canvases[record]? = some canvas) :
    ∃ object width height owner, step = .createCanvas object width height owner true ∧
      canvas = { id := store.nextId, canvas := some object, width, height, deleted := false,
                 users := [⟨copyUsername owner, true, false⟩] } := by
  cases step with
  | createCanvas object width height owner memory =>
    cases memory with
    | false => simp [CanvasStep.apply, handlesAddCanvas, absent] at present
    | true =>
      have outside : store.canvases.length ≤ record := List.getElem?_eq_none_iff.mp absent
      simp only [CanvasStep.apply, handlesAddCanvas, ↓reduceIte,
        List.getElem?_append_right outside] at present
      have fresh := List.mem_of_getElem? present
      exact ⟨object, width, height, owner, rfl, List.mem_singleton.mp fresh⟩
  | shareCanvas canvasId username target memory =>
    simp only [CanvasStep.apply, shareSection] at present
    split at present <;> rename_i found <;>
      simp only [handlesGetCanvas] at found <;> split at found <;> cases found <;>
      simp [canvases_updateCanvas, absent] at present
  | lookup canvasId username =>
    simp only [CanvasStep.apply, handlesGetCanvas] at present
    split at present <;> simp [canvases_updateCanvas, absent] at present
  | barrier canvasId username =>
    simp only [CanvasStep.apply] at present
    cases found : canvasFor store canvasId username with
    | none => simp [barrierSection, handlesGetCanvas_none found, absent] at present
    | some hit =>
      obtain ⟨looked, user, -, -, ⟨-, result⟩ | ⟨-, result⟩⟩ := barrierSection_some found <;>
        simp [result, canvases_updateCanvas, absent] at present
  | destroyCanvas canvasId username =>
    simp only [CanvasStep.apply, handlesDestroyCanvasForUser] at present
    cases found : canvasFor store canvasId username with
    | none => simp [handlesGetCanvas_none found, absent] at present
    | some hit =>
      simp [handlesGetCanvas_some found, canvases_onCanvas, canvases_updateCanvas, absent] at present
  | disconnect username =>
    simp only [CanvasStep.apply, handlesDisconnectUser] at present
    split at present <;> simp [absent] at present
  | elsewhere nextId sprites placements => simp [CanvasStep.apply, absent] at present

/-- What holds of the records of created canvases and is kept by every change of a record holds
of all records after a section if it does before. -/
theorem CanvasStep.apply_all {property : CanvasRecord → Prop} {store : HandleStore}
    {step : CanvasStep}
    (created : ∀ id object width height owner, step = .createCanvas object width height owner true →
      property { id, canvas := some object, width, height, deleted := false,
                 users := [⟨copyUsername owner, true, false⟩] })
    (changed : ∀ record canvas after, canvas ∈ store.canvases → property canvas →
      RecordChange store record canvas step after → property after)
    (before : ∀ canvas ∈ store.canvases, property canvas) :
    ∀ canvas ∈ (step.apply store).canvases, property canvas := by
  intro canvas member
  obtain ⟨record, present⟩ := List.mem_iff_getElem?.mp member
  cases there : store.canvases[record]? with
  | none =>
    obtain ⟨object, width, height, owner, rfl, rfl⟩ := CanvasStep.apply_added there present
    exact created store.nextId object width height owner rfl
  | some old =>
    obtain ⟨after, found, change⟩ := CanvasStep.apply_record there step
    obtain rfl := Option.some.inj (present.symm.trans found)
    have inside := List.mem_of_getElem? there
    exact changed record old canvas inside (before old inside) change

/-- What no change of a record touches is the same in all records after a section that creates
none. -/
theorem CanvasStep.apply_field {Field : Type} (field : CanvasRecord → Field) {store : HandleStore}
    {step : CanvasStep}
    (creates : ∀ canvas width height owner, step ≠ .createCanvas canvas width height owner true)
    (kept : ∀ record canvas after, store.canvases[record]? = some canvas →
      RecordChange store record canvas step after → field after = field canvas) :
    (step.apply store).canvases.map field = store.canvases.map field := by
  apply List.ext_getElem?
  intro record
  rw [List.getElem?_map, List.getElem?_map]
  cases present : store.canvases[record]? with
  | none =>
    cases there : (step.apply store).canvases[record]? with
    | none => rfl
    | some canvas =>
      obtain ⟨object, width, height, owner, created, -⟩ := CanvasStep.apply_added present there
      exact absurd created (creates object width height owner)
  | some canvas =>
    obtain ⟨after, there, change⟩ := CanvasStep.apply_record present step
    rw [there, Option.map_some, Option.map_some, kept record canvas after present change]

/-! ## Only connected members wait -/

/-- Whatever a section does to a barrier, only connected members wait at it. -/
theorem MemberChange.wellFormed {store : HandleStore} {record : CanvasPtr} {canvas : CanvasRecord}
    {step : CanvasStep} {after : Barrier UserPtr}
    (change : MemberChange store record canvas step after) (formed : canvas.barrier.WellFormed) :
    after.WellFormed := by
  cases change with
  | kept stays => exact formed
  | joined stays user => exact formed.join
  | arrived called found member => exact formed.join.arrive (Set.mem_insert _ _)
  | left departs => exact formed.leave

/-- A section lets only connected members wait. -/
theorem CanvasStep.apply_wellFormed {store : HandleStore} (step : CanvasStep)
    (formed : ∀ canvas ∈ store.canvases, canvas.barrier.WellFormed) :
    ∀ canvas ∈ (step.apply store).canvases, canvas.barrier.WellFormed := by
  intro canvas inside
  obtain ⟨record, present⟩ := List.mem_iff_getElem?.mp inside
  cases old : store.canvases[record]? with
  | none =>
    obtain ⟨object, width, height, owner, rfl, rfl⟩ := CanvasStep.apply_added old present
    rintro user ⟨member, there, waits⟩
    rw [List.mem_singleton.mp (List.mem_of_getElem? there)] at waits
    cases waits
  | some before =>
    obtain ⟨after, found, change⟩ := CanvasStep.apply_change old step
    obtain rfl := Option.some.inj (present.symm.trans found)
    exact change.wellFormed (formed before (List.mem_of_getElem? old))

end AnimateService
