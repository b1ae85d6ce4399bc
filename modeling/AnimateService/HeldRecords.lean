import AnimateService.CanvasLife
import AnimateService.CanvasWaits
import AnimateService.Placements

/-!
# Records that are held over a wait

`canvas_record_wait_for_barrier` gives up the store's mutex in the middle of an operation that has
fetched its canvas, sprite or placement already. Another request of the same user can destroy one of
them meanwhile. `waiting_records_live_iff` says which steps do so.
-/
namespace AnimateService

open LinkedList Transition

/-! ## Records and what ends them -/

/-- The address of a record. -/
inductive RecordAddress where
  | canvas (record : CanvasPtr)
  | sprite (record : Nat)
  | placement (record : Nat)
  deriving DecidableEq, Repr

/-- The record has its library object and is not marked as deleted. -/
def HandleStore.Live (store : HandleStore) : RecordAddress → Prop
  | .canvas record => store.CanvasLive record
  | .sprite record => ∃ sprite, store.sprites[record]? = some sprite ∧
      sprite.sprite.isSome = true ∧ sprite.deleted = false
  | .placement record => ∃ placement, store.placements[record]? = some placement ∧
      placement.placement.isSome = true ∧ placement.deleted = false

/-- The records whose library objects an operation passes to the library after its wait. -/
def Resume.passes : Resume → List RecordAddress
  | .place canvas sprite _ _ _ _ => [.canvas canvas, .sprite sprite]
  | .move _ placement | .setParams placement _ _ _ _ => [.placement placement]
  | .generate canvas _ => [.canvas canvas]

/-- The step of a request destroys the object of a record. -/
inductive Ends (answers : Answers) (username : Bytes) (store : HandleStore) :
    Pc → RecordAddress → Prop where
  /-- The last connected member destroys a canvas. -/
  | canvas {id : UInt64} {record : CanvasPtr} {canvas : CanvasRecord}
      (found : canvasFor store id username = some record)
      (present : store.canvases[record]? = some canvas)
      (last : canvasHasConnectedUser (canvas.depart username) = false) :
    Ends answers username store (.locking (.destroyCanvas id)) (.canvas record)
  /-- A sprite is destroyed. -/
  | sprite {id : UInt64} {record : Nat} (found : handlesGetSprite store id username = some record)
      (succeeds : answers.spriteFails = false) :
    Ends answers username store (.locking (.destroySprite id)) (.sprite record)
  /-- A placement is destroyed. -/
  | placement {id : UInt64} {record : Nat}
      (found : handlesGetPlacement store id username = some record) :
    Ends answers username store (.locking (.destroyPlacement id)) (.placement record)

/-- The record behind a lookup of a sprite. -/
theorem handlesGetSprite_some {store : HandleStore} {id : UInt64} {username : Bytes} {record : Nat}
    (found : handlesGetSprite store id username = some record) :
    ∃ sprite, store.sprites[record]? = some sprite ∧ sprite.id = id ∧
      sprite.sprite.isSome = true ∧ sprite.deleted = false ∧ sprite.owner = username := by
  unfold handlesGetSprite at found
  split at found
  · cases found
  · obtain ⟨sprite, present, accepted⟩ := newest?_some found
    simp only [Bool.and_eq_true, decide_eq_true_eq, Bool.not_eq_eq_eq_not, Bool.not_true] at accepted
    obtain ⟨⟨⟨named, object⟩, unmarked⟩, owned⟩ := accepted
    exact ⟨sprite, present, named, object, unmarked, owned⟩

/-- The record behind a lookup of a placement. -/
theorem handlesGetPlacement_some {store : HandleStore} {id : UInt64} {username : Bytes}
    {record : Nat} (found : handlesGetPlacement store id username = some record) :
    ∃ placement, store.placements[record]? = some placement ∧ placement.id = id ∧
      placement.placement.isSome = true ∧ placement.deleted = false ∧
      placement.owner = username := by
  unfold handlesGetPlacement at found
  split at found
  · cases found
  · obtain ⟨placement, present, accepted⟩ := newest?_some found
    simp only [Bool.and_eq_true, decide_eq_true_eq, Bool.not_eq_eq_eq_not, Bool.not_true] at accepted
    obtain ⟨⟨⟨named, object⟩, unmarked⟩, owned⟩ := accepted
    exact ⟨placement, present, named, object, unmarked, owned⟩

section Operations

variable {store : HandleStore} {operation : StoreOperation} {record : Nat}

/-- The store after a sprite was destroyed. -/
theorem handlesDestroySprite_eq {id : UInt64} {username : Bytes}
    (found : handlesGetSprite store id username = some record) :
    (handlesDestroySprite store id username false).2.1 = { store with
      sprites := store.sprites.modify record fun sprite =>
        { sprite with sprite := none, deleted := true } } := by
  simp only [handlesDestroySprite, found]
  cases spriteRecordPtr store record <;> rfl

/-- A destruction that fails, or that finds nothing, changes nothing. -/
theorem handlesDestroySprite_kept {id : UInt64} {username : Bytes} {failed : Bool}
    (kept : failed = true ∨ handlesGetSprite store id username = none) :
    (handlesDestroySprite store id username failed).2.1 = store := by
  cases found : handlesGetSprite store id username with
  | none => simp only [handlesDestroySprite, found]
  | some record =>
    obtain rfl := kept.resolve_right (by rw [found]; exact Option.some_ne_none record)
    obtain ⟨sprite, present, -, object, -⟩ := handlesGetSprite_some found
    obtain ⟨pointer, there⟩ := Option.isSome_iff_exists.mp object
    simp only [handlesDestroySprite, found, spriteRecordPtr, present, Option.bind_some, there]

/-- An operation leaves a live sprite live unless it destroys it. -/
theorem perform_sprite_live (live : store.Live (.sprite record)) :
    (operation.perform store).2.Live (.sprite record) ↔
      ¬ ∃ id username, operation = .destroySprite id username false ∧
        handlesGetSprite store id username = some record := by
  obtain ⟨sprite, present, object, unmarked⟩ := live
  have inside : record < store.sprites.length := (List.getElem?_eq_some_iff.mp present).1
  by_cases destroys : ∃ id username failed, operation = .destroySprite id username failed
  · obtain ⟨id, username, failed, rfl⟩ := destroys
    have unharmed : failed = true ∨ handlesGetSprite store id username = none →
        (handlesDestroySprite store id username failed).2.1.Live (.sprite record) := by
      intro kept
      rw [handlesDestroySprite_kept kept]
      exact ⟨sprite, present, object, unmarked⟩
    simp only [StoreOperation.perform, StoreOperation.destroySprite.injEq]
    cases failed with
    | true =>
      refine iff_of_true (unharmed (.inl rfl)) ?_
      rintro ⟨_, _, ⟨-, -, impossible⟩, -⟩
      cases impossible
    | false =>
      cases found : handlesGetSprite store id username with
      | none =>
        refine iff_of_true (unharmed (.inr found)) ?_
        rintro ⟨_, _, ⟨rfl, rfl, -⟩, hit⟩
        rw [found] at hit
        cases hit
      | some hit =>
        rw [handlesDestroySprite_eq found]
        by_cases same : hit = record
        · subst same
          refine iff_of_false ?_ (not_not.mpr ⟨id, username, ⟨rfl, rfl, rfl⟩, found⟩)
          rintro ⟨after, there, alive, -⟩
          simp only [List.getElem?_modify, present, Option.map_eq_map, Option.map_some] at there
          obtain rfl := Option.some.inj there
          cases alive
        · refine iff_of_true ⟨sprite, ?_, object, unmarked⟩ ?_
          · simpa [List.getElem?_modify, same] using present
          · rintro ⟨_, _, ⟨rfl, rfl, -⟩, again⟩
            exact same (Option.some.inj (found.symm.trans again))
  · have spared : ¬ ∃ id username, operation = .destroySprite id username false ∧
        handlesGetSprite store id username = some record := by
      rintro ⟨id, username, same, -⟩
      exact destroys ⟨id, username, false, same⟩
    refine iff_of_true ?_ spared
    rcases (StoreOperation.perform_elsewhere store operation).1 with
      kept | ⟨added, owner, rfl⟩ | ⟨id, username, failed, rfl⟩
    · exact ⟨sprite, by rw [kept, present], object, unmarked⟩
    · exact ⟨sprite, by
        simp [StoreOperation.perform, handlesAddSprite, List.getElem?_append_left inside, present],
        object, unmarked⟩
    · exact absurd ⟨id, username, failed, rfl⟩ destroys

/-- An operation leaves a live placement live unless it destroys it. -/
theorem perform_placement_live (live : store.Live (.placement record)) :
    (operation.perform store).2.Live (.placement record) ↔
      ¬ ∃ id username, operation = .destroyPlacement id username ∧
        handlesGetPlacement store id username = some record := by
  obtain ⟨placement, present, object, unmarked⟩ := live
  have inside : record < store.placements.length := (List.getElem?_eq_some_iff.mp present).1
  by_cases destroys : ∃ id username, operation = .destroyPlacement id username
  · obtain ⟨id, username, rfl⟩ := destroys
    simp only [StoreOperation.perform, StoreOperation.destroyPlacement.injEq]
    cases found : handlesGetPlacement store id username with
    | none =>
      simp only [handlesDestroyPlacement, found]
      refine iff_of_true ⟨placement, present, object, unmarked⟩ ?_
      rintro ⟨_, _, ⟨rfl, rfl⟩, hit⟩
      rw [found] at hit
      cases hit
    | some hit =>
      simp only [handlesDestroyPlacement, found]
      by_cases same : hit = record
      · subst same
        refine iff_of_false ?_ (not_not.mpr ⟨id, username, ⟨rfl, rfl⟩, found⟩)
        rintro ⟨after, there, alive, -⟩
        simp only [List.getElem?_modify, present, Option.map_eq_map, Option.map_some] at there
        obtain rfl := Option.some.inj there
        cases alive
      · refine iff_of_true ⟨placement, ?_, object, unmarked⟩ ?_
        · simpa [List.getElem?_modify, same] using present
        · rintro ⟨_, _, ⟨rfl, rfl⟩, again⟩
          exact same (Option.some.inj (found.symm.trans again))
  · have spared : ¬ ∃ id username, operation = .destroyPlacement id username ∧
        handlesGetPlacement store id username = some record := by
      rintro ⟨id, username, same, -⟩
      exact destroys ⟨id, username, same⟩
    refine iff_of_true ?_ spared
    rcases (StoreOperation.perform_elsewhere store operation).2 with
      kept | ⟨added, canvasId, spriteId, owner, rfl⟩ | ⟨id, username, rfl⟩
    · exact ⟨placement, by rw [kept, present], object, unmarked⟩
    · exact ⟨placement, by
        simp [StoreOperation.perform, handlesAddPlacement, List.getElem?_append_left inside,
          present], object, unmarked⟩
    · exact absurd ⟨id, username, rfl⟩ destroys

end Operations

/-! ## Steps -/

section Steps

variable {auth : AuthDb} {answers : Answers} {session : Session} {world : World} {pc : Pc}

/-- A sprite is destroyed by a request to do so. -/
theorem Pc.operation_destroySprite {store : HandleStore} {id : UInt64} {username : Bytes}
    {failed : Bool}
    (performs : pc.operation answers session store = some (.destroySprite id username failed)) :
    pc = .locking (.destroySprite id) ∧ username = session.username ∧
      failed = answers.spriteFails := by
  cases Pc.operation_performs performs
  exact ⟨rfl, rfl, rfl⟩

/-- A placement is destroyed by a request to do so. -/
theorem Pc.operation_destroyPlacement {store : HandleStore} {id : UInt64} {username : Bytes}
    (performs : pc.operation answers session store = some (.destroyPlacement id username)) :
    pc = .locking (.destroyPlacement id) ∧ username = session.username := by
  cases Pc.operation_performs performs
  exact ⟨rfl, rfl⟩

/-- A step leaves a live record live unless it destroys its object. -/
theorem advance_live {record : RecordAddress} (live : world.store.Live record) :
    (advance auth answers session world pc).2.1.store.Live record ↔
      ¬ Ends answers session.username world.store pc record := by
  cases record with
  | canvas record =>
    show HandleStore.CanvasLive _ record ↔ _
    rw [advance_store]
    refine (CanvasStep.apply_live _ live).trans (not_congr ⟨?_, ?_⟩)
    · rintro ⟨canvasId, username, canvas, same, found, present, last⟩
      have step := pc.canvasStep_section answers session world.store
        (advance auth answers session world pc).2.1.store
      rw [same] at step
      cases step
      exact .canvas found present last
    · intro ends
      cases ends with
      | canvas found present last => exact ⟨_, _, _, rfl, found, present, last⟩
  | sprite record =>
    rw [advance_operation]
    cases performs : pc.operation answers session world.store with
    | none =>
      refine iff_of_true live fun ends => ?_
      cases ends
      cases performs
    | some operation =>
      refine (perform_sprite_live live).trans (not_congr ⟨?_, ?_⟩)
      · rintro ⟨id, username, rfl, found⟩
        obtain ⟨rfl, rfl, succeeds⟩ := Pc.operation_destroySprite performs
        exact .sprite found succeeds.symm
      · intro ends
        cases ends with
        | sprite found succeeds =>
          cases performs
          exact ⟨_, _, by rw [succeeds], found⟩
  | placement record =>
    rw [advance_operation]
    cases performs : pc.operation answers session world.store with
    | none =>
      refine iff_of_true live fun ends => ?_
      cases ends
      cases performs
    | some operation =>
      refine (perform_placement_live live).trans (not_congr ⟨?_, ?_⟩)
      · rintro ⟨id, username, rfl, found⟩
        obtain ⟨rfl, rfl⟩ := Pc.operation_destroyPlacement performs
        exact .placement found
      · intro ends
        cases ends with
        | placement found =>
          cases performs
          exact ⟨_, _, rfl, found⟩

end Steps

/-! ## Threads that wait -/

/-- The records that a waiting operation holds. -/
def Pc.holds : Pc → List RecordAddress
  | .canvasWait _ _ resume => resume.passes
  | _ => []

/-- Every record that a waiting operation holds is live. -/
def HeldLive (state : RpcState) : Prop :=
  ∀ thread work, state.threads thread = some work →
    ∀ record ∈ work.pc.holds, state.world.store.Live record

/-- The step destroys no object that a waiting operation holds. -/
def SparesHeld (state : RpcState) (label : RpcLabel) : Prop :=
  ∀ thread answers client pc, label = .step thread answers →
    state.threads thread = some ⟨client, pc⟩ →
    ∀ other work, state.threads other = some work → ∀ record ∈ work.pc.holds,
      ¬ Ends answers (state.sessions client).username state.world.store pc record

/-- An operation goes on after `canvas_record_wait_for_barrier`: it has waited until its flag is
clear, or it has just fetched its records and need not wait. -/
inductive GoesOn (username : Bytes) (store : HandleStore) : Pc → Resume → Prop where
  /-- The wait is over. -/
  | waited {record : CanvasPtr} {user : UserPtr} {resume : Resume}
      (passed : store.waiting record user = false) :
    GoesOn username store (.canvasWait record user resume) resume
  /-- A sprite is placed. -/
  | place {canvasId spriteId : UInt64} {x y : Int} {record : CanvasPtr} {sprite : Nat}
      (found : canvasFor store canvasId username = some record)
      (held : handlesGetSprite store spriteId username = some sprite)
      (free : barrierToWaitFor store record username = none) :
    GoesOn username store (.locking (.placeSprite canvasId spriteId x y))
      (.place record sprite canvasId spriteId x y)
  /-- A placement is moved. -/
  | move {move : PlacementMove} {id : UInt64} {placement : Nat}
      (held : handlesGetPlacement store id username = some placement)
      (free : ∀ record, canvasFor store (placementRecordCanvasId store placement) username =
        some record → barrierToWaitFor store record username = none) :
    GoesOn username store (.locking (.movePlacement move id)) (.move move placement)
  /-- A placement is animated. -/
  | setParams {id : UInt64} {vx vy ax ay : Int} {placement : Nat}
      (held : handlesGetPlacement store id username = some placement)
      (free : ∀ record, canvasFor store (placementRecordCanvasId store placement) username =
        some record → barrierToWaitFor store record username = none) :
    GoesOn username store (.locking (.setAnimationParams id vx vy ax ay))
      (.setParams placement vx vy ax ay)
  /-- A canvas is rendered. -/
  | generate {job : GenerateJob} {record : CanvasPtr}
      (found : canvasFor store job.canvasId username = some record)
      (free : barrierToWaitFor store record username = none) :
    GoesOn username store (.locking (.generate job)) (.generate record job)

/-- Whatever an operation passes to the library when it goes on is live. -/
def GoesOnLive (state : RpcState) (label : RpcLabel) : Prop :=
  ∀ thread answers client pc resume, label = .step thread answers →
    state.threads thread = some ⟨client, pc⟩ →
    GoesOn (state.sessions client).username state.world.store pc resume →
    ∀ record ∈ resume.passes, state.world.store.Live record

section Waits

variable {auth : AuthDb} {answers : Answers} {session : Session} {world : World} {pc : Pc}
  {store : HandleStore} {username : Bytes} {record : CanvasPtr} {user : UserPtr}

/-- An operation on a placement goes on where its canvas is missing or need not be waited for. -/
theorem throughPlacement_goesOn {placement : Nat} {resume : Resume}
    (free : ∀ record, canvasFor world.store (placementRecordCanvasId world.store placement)
      username = some record → barrierToWaitFor world.store record username = none) :
    throughPlacement answers world username placement resume = resumeAfterWait answers
      { world with store := (throughPlacement answers world username placement resume).1.store }
      resume := by
  rw [throughPlacement_store]
  cases found : canvasFor world.store (placementRecordCanvasId world.store placement) username with
  | none => simp only [throughPlacement, handlesGetCanvas_none found]
  | some record =>
    simp only [throughPlacement, handlesGetCanvas_some found, waitThenResume,
      barrierToWaitFor_connect, free record found]

/-- An operation that goes on does in this step what comes after the wait. -/
theorem GoesOn.advance {resume : Resume}
    (goesOn : GoesOn session.username world.store pc resume) :
    (advance auth answers session world pc).2 = resumeAfterWait answers
      { world with store := (advance auth answers session world pc).2.1.store } resume := by
  cases goesOn with
  | waited passed =>
    simp only [AnimateService.advance, passed, Bool.false_eq_true, ↓reduceIte,
      resumeAfterWait_store]
  | place found held free =>
    rename_i canvasId spriteId x y record sprite
    have looked := handlesGetCanvas_some found
    have sprites := (handlesGetCanvas_elsewhere world.store canvasId session.username).1
    rw [looked] at sprites
    have held_after : handlesGetSprite (world.store.updateCanvas record fun canvas =>
        canvas.connect session.username) spriteId session.username = some sprite := by
      rw [← held, handlesGetSprite, handlesGetSprite, sprites]
    simp only [AnimateService.advance, lockedSection, looked, held_after, waitThenResume,
      barrierToWaitFor_connect, free, resumeAfterWait_store]
  | move held free =>
    simp only [AnimateService.advance, lockedSection, held]
    exact throughPlacement_goesOn free
  | setParams held free =>
    simp only [AnimateService.advance, lockedSection, held]
    exact throughPlacement_goesOn free
  | generate found free =>
    simp only [AnimateService.advance, lockedSection, handlesGetCanvas_some found, waitThenResume,
      barrierToWaitFor_connect, free, resumeAfterWait_store]

/-- What was looked up just now is live. -/
theorem live_of_found {id : UInt64} :
    (∀ record, canvasFor store id username = some record → store.Live (.canvas record)) ∧
    (∀ sprite, handlesGetSprite store id username = some sprite → store.Live (.sprite sprite)) ∧
    ∀ placement, handlesGetPlacement store id username = some placement →
      store.Live (.placement placement) := by
  refine ⟨fun record found => canvasLive_of_found found, fun sprite found => ?_,
    fun placement found => ?_⟩
  · obtain ⟨node, present, -, object, unmarked, -⟩ := handlesGetSprite_some found
    exact ⟨node, present, object, unmarked⟩
  · obtain ⟨node, present, -, object, unmarked, -⟩ := handlesGetPlacement_some found
    exact ⟨node, present, object, unmarked⟩

/-- A request that begins to wait holds live records. -/
theorem BeginsWait.live {next : Pc} (begins : BeginsWait username store record user pc next) :
    ∀ address ∈ next.holds, store.Live address := by
  cases begins with
  | barrier found => simp [Pc.holds]
  | place found held =>
    simpa [Pc.holds, Resume.passes] using ⟨live_of_found.1 _ found, live_of_found.2.1 _ held⟩
  | move held found => simpa [Pc.holds, Resume.passes] using live_of_found.2.2 _ held
  | setParams held found => simpa [Pc.holds, Resume.passes] using live_of_found.2.2 _ held
  | generate found => simpa [Pc.holds, Resume.passes] using live_of_found.1 _ found

/-- A request that begins to wait destroys nothing. -/
theorem BeginsWait.spares {next : Pc} (begins : BeginsWait username store record user pc next)
    (address : RecordAddress) : ¬ Ends answers session.username store pc address := by
  intro ends
  cases begins <;> cases ends

/-- An operation that need not wait has just fetched what it passes on. -/
theorem GoesOn.live {resume : Resume} (goesOn : GoesOn username store pc resume) :
    (∀ address ∈ pc.holds, store.Live address) →
      ∀ address ∈ resume.passes, store.Live address := by
  intro held
  cases goesOn with
  | waited passed => exact held
  | place found sprite free =>
    simpa [Resume.passes] using ⟨live_of_found.1 _ found, live_of_found.2.1 _ sprite⟩
  | move placement free => simpa [Resume.passes] using live_of_found.2.2 _ placement
  | setParams placement free => simpa [Resume.passes] using live_of_found.2.2 _ placement
  | generate found free => simpa [Resume.passes] using live_of_found.1 _ found

/-- A place that holds records waits. -/
theorem Pc.waitsFor_of_holds {address : RecordAddress} (held : address ∈ pc.holds) :
    ∃ record user, pc.waitsFor = some (record, user) := by
  cases pc with
  | canvasWait record user resume => exact ⟨record, user, rfl⟩
  | _ => cases held

/-- The thread that takes a step holds live records after it if it held such before. -/
theorem advance_holds (held : ∀ address ∈ pc.holds, world.store.Live address) :
    ∀ address ∈ (advance auth answers session world pc).2.2.holds,
      (advance auth answers session world pc).2.1.store.Live address := by
  intro address inside
  obtain ⟨record, user, waits⟩ := Pc.waitsFor_of_holds inside
  rcases (advance_waits waits).2 with same | ⟨begins, -⟩
  · rw [same] at inside ⊢
    exact held address inside
  · rw [advance_live (begins.live address inside)]
    exact begins.spares address

end Waits

/-! ## Runs -/

section Runs

variable {auth : AuthDb} {state next : RpcState} {label : RpcLabel}

/-- A step keeps the records of waiting operations live exactly if it destroys none of them. -/
theorem heldLive_step (held : HeldLive state)
    (step : (rpcMachine auth).step state label = some next) :
    HeldLive next ↔ SparesHeld state label := by
  rcases rpcMachine_cases step with
    ⟨thread, answers, client, pc, rfl, working, -, rfl⟩ | ⟨thread, work, no_step, rfl, -, begun⟩
  · constructor
    · rintro after actor given served place ⟨⟩ there other work busy address inside ends
      obtain ⟨rfl, rfl⟩ := Thread.mk.inj (Option.some.inj (there.symm.trans working))
      have apart : other ≠ thread := by
        rintro rfl
        rw [there] at busy
        obtain rfl := Option.some.inj busy
        cases ends <;> cases inside
      have stays : (state.advanceThread auth thread served place answers).threads other =
          some work := by
        simp [RpcState.advanceThread, Function.update_of_ne apart, busy]
      exact (advance_live (held other work busy address inside)).mp
        (after other work stays address inside) ends
    · intro spares other work busy address inside
      by_cases same : other = thread
      · subst same
        simp only [RpcState.advanceThread, Function.update_self, Option.some.injEq] at busy
        subst busy
        exact advance_holds (held other _ working) address inside
      · simp only [RpcState.advanceThread, Function.update_of_ne same] at busy
        refine (advance_live (held other work busy address inside)).mpr ?_
        exact spares thread answers client pc rfl working other work busy address inside
  · refine iff_of_true ?_ fun thread answers _ _ same => absurd same (no_step thread answers)
    intro other taken busy address inside
    by_cases same : other = thread
    · subst same
      simp only [RpcState.setThread, Function.update_self] at busy
      rcases begun taken busy with ⟨line, place⟩ | place <;> rw [place] at inside <;> cases inside
    · simp only [RpcState.setThread, Function.update_of_ne same] at busy
      exact held other taken busy address inside

/-- Operations that hold live records go on with live records. -/
theorem goesOnLive_of_held (held : HeldLive state) : GoesOnLive state label :=
  fun thread _ _ _ _ _ working goesOn => goesOn.live (held thread _ working)

end Runs

/-- In every run, the records that an operation holds over its wait stay live, and it goes on with
live records, exactly if no step destroys a canvas, sprite or placement that a waiting operation
holds. -/
theorem waiting_records_live_iff (auth : AuthDb) (labels : List RpcLabel) :
    ((rpcMachine auth).Always HeldLive {} labels ∧
      (rpcMachine auth).EveryStep GoesOnLive {} labels) ↔
      (rpcMachine auth).EveryStep SparesHeld {} labels := by
  have initially : HeldLive {} := by
    intro thread work busy
    cases busy
  have kept : ∀ state label next, (fun _ => True) state →
      (rpcMachine auth).step state label = some next → (fun _ : RpcState => True) next :=
    fun _ _ _ _ _ => trivial
  have exactly : (rpcMachine auth).Always HeldLive {} labels ↔
      (rpcMachine auth).EveryStep SparesHeld {} labels :=
    Machine.always_iff_everyStep kept (fun _ _ _ _ held step => heldLive_step held step) trivial
      initially
  rw [← exactly]
  refine and_iff_left_of_imp fun always => Machine.everyStep_of_segments ?_
  intro front label back reached next split segment step
  exact goesOnLive_of_held (Machine.always_iff_segments.mp always front (label :: back) reached
    split segment)

/-- Ann waits at the barrier and, on another worker, to place a sprite. -/
def annPlacesLater : List RpcLabel :=
  annAndBobConnected ++ handled 0 0 "create_rectangle 1 1 0 0\n" 2 ++
  [.request 0 0 (bytes "barrier 1\n"), .step 0 {}, .step 0 {},
    .request 2 0 (bytes "place_sprite 1 2 0 0\n"), .step 2 {}, .step 2 {}]

/-- Ann destroys the sprite, and Bob lets her through. -/
def spriteDestroyed : List RpcLabel :=
  handled 3 0 "destroy_sprite 2\n" 2 ++ handled 1 1 "barrier 1\n" 2

/-- The sprite that Ann's request passes to the library is gone. -/
theorem waiting_records_live_false :
    ¬ (rpcMachine [⟨bytes "ann", 1⟩, ⟨bytes "bob", 1⟩]).EveryStep GoesOnLive {}
      (annPlacesLater ++ spriteDestroyed ++ [.step 2 {}]) := by
  intro always
  have ends : ∃ state next, (rpcMachine [⟨bytes "ann", 1⟩, ⟨bytes "bob", 1⟩]).run {}
        (annPlacesLater ++ spriteDestroyed) = some state ∧
      (rpcMachine [⟨bytes "ann", 1⟩, ⟨bytes "bob", 1⟩]).step state (.step 2 {}) = some next ∧
      state.threads 2 = some ⟨0, .canvasWait 0 0 (.place 0 0 1 2 0 0)⟩ ∧
      state.world.store.waiting 0 0 = false ∧
      (state.world.store.sprites[0]?).bind SpriteRecord.sprite = none :=
    ⟨_, _, rfl, rfl, rfl, rfl, rfl⟩
  obtain ⟨state, next, ran, step, waits, clear, gone⟩ := ends
  obtain ⟨sprite, present, object, -⟩ := always.at ran step 2 {} 0 _ _ rfl waits (.waited clear)
    (.sprite 0) (by simp [Resume.passes])
  simp [present] at gone
  rw [gone] at object
  cases object

end AnimateService
