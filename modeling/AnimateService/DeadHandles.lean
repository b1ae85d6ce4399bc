import AnimateService.AccessControl
import AnimateService.DestroyedOnce

/-!
# Destroyed handles stay dead

Every record keeps its handle and, once it is marked as destroyed, its mark. As long as the counter
has given a handle out only once, a marked record is the only one with its handle, so that every
later request that names the handle finds nothing. A canvas is marked by a destruction only if no
member stays connected to it. Otherwise it lives on for all its members, the one that destroyed it
included: the next lookup connects that member again.
-/
namespace AnimateService

open Transition LinkedList

/-- The handle of every record, and whether the record is marked as destroyed. -/
def HandleStore.marks (store : HandleStore) : List (UInt64 × Bool) :=
  store.canvases.map (fun canvas => (canvas.id, canvas.deleted)) ++
  store.sprites.map (fun sprite => (sprite.id, sprite.deleted)) ++
  store.placements.map fun placement => (placement.id, placement.deleted)

/-- The step of a thread adds a record when there is memory. -/
def Pc.adds : Pc → Bool
  | .addCanvas _ _ _ | .addSprite _ | .addPlacement _ _ _ => true
  | _ => false

/-- The handle that a step of a thread gives out. -/
def Pc.gives (answers : Answers) (store : HandleStore) (pc : Pc) : List UInt64 :=
  if pc.adds && answers.memory then [store.nextId] else []

/-- The handles that the steps of a run give out. -/
def handlesGiven (state : RpcState) : RpcLabel → List UInt64
  | .step thread answers =>
    match state.threads thread with
    | some work => work.pc.gives answers state.world.store
    | none => []
  | _ => []

/-! ## Marks under a step -/

/-- One step adds the records of the handles it gives out, and takes no mark back. -/
structure MarksKept (before : List (UInt64 × Bool)) (given : List UInt64)
    (after : List (UInt64 × Bool)) : Prop where
  /-- The handles of the records. -/
  handles : ∀ id, (after.map Prod.fst).count id = (before.map Prod.fst).count id + given.count id
  /-- The marks. -/
  marked : ∀ id, (id, true) ∈ before → (id, true) ∈ after

/-- Nothing changes. -/
theorem marksKept_refl (marks : List (UInt64 × Bool)) : MarksKept marks [] marks where
  handles := fun _ => rfl
  marked := fun _ => id

/-- One more record. -/
theorem marksKept_concat (marks : List (UInt64 × Bool)) (id : UInt64) :
    MarksKept marks [id] (marks ++ [(id, false)]) where
  handles := by
    intro other
    rw [List.map_append, List.count_append]
    rfl
  marked := fun _ => List.mem_append_left _

/-- Writing to one record, where it is marked. -/
theorem marksKept_modify {Record : Type} {mark : Record → UInt64 × Bool}
    {write : Record → Record} (marks : ∀ record, mark (write record) = ((mark record).1, true))
    (records : List Record) (index : Nat) :
    MarksKept (records.map mark) [] ((records.modify index write).map mark) where
  handles := by
    have same : ((records.modify index write).map mark).map Prod.fst =
        (records.map mark).map Prod.fst := by
      apply List.ext_getElem?
      intro other
      simp only [List.getElem?_map, List.getElem?_modify]
      by_cases here : index = other
      · cases records[other]? with
        | none => rfl
        | some record => simp [here, marks]
      · simp [here]
    intro id
    rw [same]
    rfl
  marked := by
    intro id inside
    obtain ⟨record, member, marked⟩ := List.mem_map.mp inside
    obtain ⟨other, present⟩ := List.mem_iff_getElem?.mp member
    by_cases here : index = other
    · refine List.mem_map.mpr ⟨write record, List.mem_of_getElem? (i := other) ?_, ?_⟩
      · simp [here, present]
      · rw [marks, marked]
    · refine List.mem_map.mpr ⟨record, List.mem_of_getElem? (i := other) ?_, marked⟩
      simp [here, present]

/-- Three lists of records at once. -/
theorem MarksKept.append {first second third first' second' third' : List (UInt64 × Bool)}
    {one two three given : List UInt64} (canvases : MarksKept first one first')
    (sprites : MarksKept second two second') (placements : MarksKept third three third')
    (all : one ++ two ++ three = given) :
    MarksKept (first ++ second ++ third) given (first' ++ second' ++ third') where
  handles := by
    intro id
    rw [← all]
    simp only [List.map_append, List.count_append, canvases.handles, sprites.handles,
      placements.handles]
    omega
  marked := by
    intro id inside
    rcases List.mem_append.mp inside with inside | inside
    · rcases List.mem_append.mp inside with inside | inside
      · exact List.mem_append_left _ (List.mem_append_left _ (canvases.marked id inside))
      · exact List.mem_append_left _ (List.mem_append_right _ (sprites.marked id inside))
    · exact List.mem_append_right _ (placements.marked id inside)

section Steps

variable {auth : AuthDb} {answers : Answers} {session : Session} {world : World} {pc : Pc}

/-- A section that creates no canvas keeps the marks of canvases. -/
theorem CanvasStep.marksKept {store : HandleStore} {step : CanvasStep}
    (creates : ∀ canvas width height owner, step ≠ .createCanvas canvas width height owner true) :
    MarksKept (store.canvases.map fun canvas => (canvas.id, canvas.deleted)) []
      ((step.apply store).canvases.map fun canvas => (canvas.id, canvas.deleted)) where
  handles := by
    have same := CanvasStep.apply_field CanvasRecord.id creates
      fun record canvas after present (change : RecordChange store record canvas step after) =>
        change.mark.1
    intro id
    rw [List.map_map, List.map_map]
    exact congrArg (List.count id) same
  marked := by
    intro id inside
    obtain ⟨canvas, member, marked⟩ := List.mem_map.mp inside
    obtain ⟨record, present⟩ := List.mem_iff_getElem?.mp member
    obtain ⟨after, there, change⟩ := CanvasStep.apply_record present step
    obtain ⟨handle, mark⟩ := change.mark
    refine List.mem_map.mpr ⟨after, List.mem_of_getElem? there, ?_⟩
    rw [handle, mark (congrArg Prod.snd marked)]
    exact congrArg (fun mark => (mark.1, true)) marked

/-- A step that adds no sprite keeps the marks of sprites. -/
theorem advance_spriteMarks (calm : pc.adds = false) :
    MarksKept (world.store.sprites.map fun sprite => (sprite.id, sprite.deleted)) []
      ((advance auth answers session world pc).2.1.store.sprites.map
        fun sprite => (sprite.id, sprite.deleted)) := by
  rw [advance_operation]
  cases performs : pc.operation answers session world.store with
  | none => exact marksKept_refl _
  | some operation =>
    show MarksKept _ _ ((operation.perform world.store).2.sprites.map _)
    rcases @StoreOperation.perform_sprites world.store operation with
      kept | ⟨record, written⟩ | ⟨sprite, owner, rfl, -⟩
    · rw [kept]
      exact marksKept_refl _
    · rw [written]
      exact marksKept_modify (fun _ => rfl) _ _
    · have unrecorded := (Pc.operation_addSprite performs).1
      cases pc with
      | addSprite sprite => cases calm
      | _ => cases unrecorded

/-- A step that adds no placement keeps the marks of placements. -/
theorem advance_placementMarks (calm : pc.adds = false) :
    MarksKept (world.store.placements.map fun placement => (placement.id, placement.deleted)) []
      ((advance auth answers session world pc).2.1.store.placements.map
        fun placement => (placement.id, placement.deleted)) := by
  rw [advance_operation]
  cases performs : pc.operation answers session world.store with
  | none => exact marksKept_refl _
  | some operation =>
    show MarksKept _ _ ((operation.perform world.store).2.placements.map _)
    rcases @StoreOperation.perform_placements world.store operation with
      kept | ⟨record, written⟩ | ⟨placement, canvasId, spriteId, owner, rfl, -⟩
    · rw [kept]
      exact marksKept_refl _
    · rw [written]
      exact marksKept_modify (fun _ => rfl) _ _
    · have unrecorded := (Pc.operation_addPlacement performs).1
      cases pc with
      | addPlacement placement canvasId spriteId => cases calm
      | _ => cases unrecorded

/-- Every step of a request adds the records of the handles it gives out, and takes no mark back. -/
theorem advance_marks (pc : Pc) :
    MarksKept world.store.marks (pc.gives answers world.store)
      (advance auth answers session world pc).2.1.store.marks := by
  cases calm : pc.adds with
  | false =>
    have canvases : MarksKept (world.store.canvases.map fun canvas => (canvas.id, canvas.deleted))
        [] ((advance auth answers session world pc).2.1.store.canvases.map
          fun canvas => (canvas.id, canvas.deleted)) := by
      rw [advance_store]
      refine CanvasStep.marksKept fun canvas width height owner same => ?_
      obtain ⟨flying, -⟩ := Pc.canvasStep_create same
      cases pc with
      | addCanvas canvas width height => cases calm
      | _ => cases flying
    refine canvases.append (advance_spriteMarks calm) (advance_placementMarks calm) ?_
    rw [Pc.gives, calm]
    rfl
  | true =>
    rw [Pc.gives, calm, Bool.true_and]
    cases pc with
    | addCanvas canvas width height =>
      simp only [advance, answerHandle_store]
      cases answers.memory with
      | false => exact marksKept_refl _
      | true =>
        refine @MarksKept.append _ _ _ _ _ _ [world.store.nextId] [] [] _ ?_ (marksKept_refl _)
          (marksKept_refl _) rfl
        simp only [handlesAddCanvas, ↓reduceIte, List.map_append]
        exact marksKept_concat _ _
    | addSprite sprite =>
      simp only [advance, answerHandle_store]
      cases answers.memory with
      | false => exact marksKept_refl _
      | true =>
        refine @MarksKept.append _ _ _ _ _ _ [] [world.store.nextId] [] _ (marksKept_refl _) ?_
          (marksKept_refl _) rfl
        simp only [handlesAddSprite, ↓reduceIte, List.map_append]
        exact marksKept_concat _ _
    | addPlacement placement canvasId spriteId =>
      simp only [advance, answerHandle_store]
      cases answers.memory with
      | false => exact marksKept_refl _
      | true =>
        refine @MarksKept.append _ _ _ _ _ _ [] [] [world.store.nextId] _ (marksKept_refl _)
          (marksKept_refl _) ?_ rfl
        simp only [handlesAddPlacement, ↓reduceIte, List.map_append]
        exact marksKept_concat _ _
    | _ => cases calm

end Steps

/-! ## Marked handles are refused -/

/-- The handles that a command names. -/
def StoreCommand.names : StoreCommand → List UInt64
  | .destroyCanvas id | .destroySprite id | .destroyPlacement id => [id]
  | .movePlacement _ id | .setAnimationParams id _ _ _ _ => [id]
  | .shareCanvas canvasId _ | .barrier canvasId => [canvasId]
  | .placeSprite canvasId spriteId _ _ => [canvasId, spriteId]
  | .generate job => [job.canvasId]

/-- No lookup of the handle finds a record. -/
structure HandleStore.Dead (store : HandleStore) (id : UInt64) : Prop where
  /-- No canvas. -/
  canvas : ∀ username, canvasFor store id username = none
  /-- No sprite. -/
  sprite : ∀ username, handlesGetSprite store id username = none
  /-- No placement. -/
  placement : ∀ username, handlesGetPlacement store id username = none

/-- The records with a handle are those marked and those not marked. -/
theorem count_handles (marks : List (UInt64 × Bool)) (id : UInt64) :
    (marks.map Prod.fst).count id = marks.count (id, true) + marks.count (id, false) := by
  induction marks with
  | nil => rfl
  | cons mark marks ih =>
    obtain ⟨handle, marked⟩ := mark
    rw [List.map_cons, List.count_cons, List.count_cons, List.count_cons, ih]
    by_cases same : handle = id
    · cases marked <;> simp [same] <;> omega
    · simp [same]

/-- A handle that is marked and that no other record has is dead. -/
theorem dead_of_marked {store : HandleStore} {id : UInt64} (marked : (id, true) ∈ store.marks)
    (once : (store.marks.map Prod.fst).count id ≤ 1) : store.Dead id := by
  have unmarked : (id, false) ∉ store.marks := by
    intro inside
    have one := List.count_pos_iff.mpr marked
    have other := List.count_pos_iff.mpr inside
    rw [count_handles] at once
    omega
  constructor
  · intro username
    cases found : canvasFor store id username with
    | none => rfl
    | some record =>
      obtain ⟨canvas, user, present, handle, -, mark, -⟩ := canvasFor_some found
      refine absurd ?_ unmarked
      refine List.mem_append_left _ (List.mem_append_left _ (List.mem_map.mpr ⟨canvas, ?_, ?_⟩))
      · exact List.mem_of_getElem? present
      · rw [handle, mark]
  · intro username
    cases found : handlesGetSprite store id username with
    | none => rfl
    | some record =>
      obtain ⟨sprite, present, handle, -, mark, -⟩ := handlesGetSprite_some found
      refine absurd ?_ unmarked
      refine List.mem_append_left _ (List.mem_append_right _ (List.mem_map.mpr ⟨sprite, ?_, ?_⟩))
      · exact List.mem_of_getElem? present
      · rw [handle, mark]
  · intro username
    cases found : handlesGetPlacement store id username with
    | none => rfl
    | some record =>
      obtain ⟨placement, present, handle, -, mark, -⟩ := handlesGetPlacement_some found
      refine absurd ?_ unmarked
      refine List.mem_append_right _ (List.mem_map.mpr ⟨placement, ?_, ?_⟩)
      · exact List.mem_of_getElem? present
      · rw [handle, mark]

/-- A request that names a dead handle is answered with the value error. It calls nothing and
changes nothing, but for `place_sprite` with a dead sprite, which looks its canvas up first. -/
theorem StoreCommand.refused {auth : AuthDb} {answers : Answers} {session : Session} {world : World}
    {id : UInt64} {command : StoreCommand} (dead : world.store.Dead id)
    (names : id ∈ command.names) :
    ∃ store, advance auth answers session world (.locking command) =
        (session, { world with store }, answers.reply (responseCode rpcValue)) ∧
      (store = world.store ∨ ∃ canvasId x y, command = .placeSprite canvasId id x y ∧
        store = (handlesGetCanvas world.store canvasId session.username).2) := by
  have missing : handlesGetCanvas world.store id session.username = (none, world.store) :=
    handlesGetCanvas_none (dead.canvas session.username)
  have nowhere := dead.placement session.username
  cases command with
  | placeSprite canvasId spriteId x y =>
    rcases List.mem_cons.mp names with rfl | names
    · exact ⟨world.store, by simp [advance, lockedSection, missing], .inl rfl⟩
    · obtain rfl := List.mem_singleton.mp names
      refine ⟨_, ?_, .inr ⟨canvasId, x, y, rfl, rfl⟩⟩
      have elsewhere := (handlesGetCanvas_elsewhere world.store canvasId session.username).1
      have lost : handlesGetSprite (handlesGetCanvas world.store canvasId session.username).2 id
          session.username = none := by
        rw [← dead.sprite session.username]
        simp only [handlesGetSprite, elsewhere]
      simp only [advance, lockedSection, lost]
      cases (handlesGetCanvas world.store canvasId session.username).1 <;> rfl
  | destroyCanvas other =>
    obtain rfl := List.mem_singleton.mp names
    refine ⟨world.store, ?_, .inl rfl⟩
    simp only [advance, lockedSection, handlesDestroyCanvasForUser, missing]
    rfl
  | destroySprite other =>
    obtain rfl := List.mem_singleton.mp names
    refine ⟨world.store, ?_, .inl rfl⟩
    simp only [advance, lockedSection, handlesDestroySprite, dead.sprite session.username]
    rfl
  | destroyPlacement other =>
    obtain rfl := List.mem_singleton.mp names
    refine ⟨world.store, ?_, .inl rfl⟩
    simp only [advance, lockedSection, handlesDestroyPlacement, nowhere]
    rfl
  | movePlacement move other =>
    obtain rfl := List.mem_singleton.mp names
    exact ⟨world.store, by simp only [advance, lockedSection, nowhere], .inl rfl⟩
  | setAnimationParams other vx vy ax ay =>
    obtain rfl := List.mem_singleton.mp names
    exact ⟨world.store, by simp only [advance, lockedSection, nowhere], .inl rfl⟩
  | shareCanvas other target =>
    obtain rfl := List.mem_singleton.mp names
    exact ⟨world.store, by simp only [advance, lockedSection, shareSection, missing], .inl rfl⟩
  | barrier other =>
    obtain rfl := List.mem_singleton.mp names
    exact ⟨world.store, by simp only [advance, lockedSection, barrierSection, missing], .inl rfl⟩
  | generate job =>
    obtain rfl := List.mem_singleton.mp names
    exact ⟨world.store, by simp only [advance, lockedSection, missing], .inl rfl⟩

/-! ## Destructions -/

/-- The request that destroys an object of a kind. -/
def ObjectKind.destruction : ObjectKind → UInt64 → StoreCommand
  | .canvas, id => .destroyCanvas id
  | .sprite, id => .destroySprite id
  | .placement, id => .destroyPlacement id

/-- Its response when it succeeds. -/
def ObjectKind.destroyed : ObjectKind → Bytes
  | .sprite => responseU64 0
  | _ => responseCode 0

/-- In this step, the destruction of a handle by a user is answered as successful. -/
def Destroys (user : Bytes) (kind : ObjectKind) (id : UInt64) (state : RpcState)
    (label : RpcLabel) : Prop :=
  ∃ thread answers client, label = .step thread answers ∧
    state.threads thread = some ⟨client, .locking (kind.destruction id)⟩ ∧
    (state.sessions client).username = user ∧
    (lockedSection answers (state.sessions client) state.world (kind.destruction id)).2 =
      .finished (some kind.destroyed)

section Destructions

variable {answers : Answers} {session : Session} {world : World} {id : UInt64}

/-- A response is the text it was made of. -/
theorem reply_text {text other : Bytes} (same : answers.reply text = .finished (some other)) :
    text = other := by
  unfold Answers.reply at same
  split at same
  · exact Option.some.inj (Pc.finished.inj same)
  · cases same

/-- A canvas that is destroyed and has no connected member left is marked. -/
theorem destroyCanvas_marks {record : CanvasPtr} {store : HandleStore} {username : Bytes}
    (found : canvasFor store id username = some record)
    (nobody : ∀ canvas ∈ ((CanvasStep.destroyCanvas id username).apply store).canvases,
      canvas.id = id → canvasHasConnectedUser canvas = false) :
    ∃ canvas ∈ ((CanvasStep.destroyCanvas id username).apply store).canvases,
      canvas.id = id ∧ canvas.deleted = true := by
  obtain ⟨canvas, user, present, handle, object, unmarked, member⟩ := canvasFor_some found
  obtain ⟨after, there, change⟩ :=
    CanvasStep.apply_record present (.destroyCanvas id username)
  have inside := List.mem_of_getElem? there
  have named : after.id = id := change.mark.1.trans handle
  refine ⟨after, inside, named, ?_⟩
  have left := nobody after inside named
  cases change with
  | kept stays => simp [CanvasStep.departure, found, present, member] at stays
  | destroyed again shared =>
    rw [destroyFor_settled ⟨object, unmarked⟩, CanvasRecord.settled] at left ⊢
    split at left
    · rename_i connected
      rw [connected] at left
      cases left
    · rename_i alone
      rw [if_neg alone]
      rfl

/-- A destruction that is answered as successful leaves a mark, for a canvas if it left no member
connected. -/
theorem destruction_marks {kind : ObjectKind}
    (answered : (lockedSection answers session world (kind.destruction id)).2 =
      .finished (some kind.destroyed))
    (nobody : kind = .canvas →
      ∀ canvas ∈ (lockedSection answers session world (kind.destruction id)).1.store.canvases,
        canvas.id = id → canvasHasConnectedUser canvas = false) :
    (id, true) ∈ (lockedSection answers session world (kind.destruction id)).1.store.marks := by
  cases kind with
  | canvas =>
    cases found : canvasFor world.store id session.username with
    | none =>
      simp only [ObjectKind.destruction, lockedSection, handlesDestroyCanvasForUser,
        handlesGetCanvas_none found] at answered
      cases reply_text answered
    | some record =>
      obtain ⟨canvas, inside, handle, mark⟩ := destroyCanvas_marks found (nobody rfl)
      refine List.mem_append_left _ (List.mem_append_left _ (List.mem_map.mpr ⟨canvas, inside, ?_⟩))
      rw [handle, mark]
  | sprite =>
    cases found : handlesGetSprite world.store id session.username with
    | none =>
      simp only [ObjectKind.destruction, lockedSection, handlesDestroySprite, found] at answered
      cases reply_text answered
    | some record =>
      obtain ⟨sprite, present, handle, object, -⟩ := handlesGetSprite_some found
      obtain ⟨pointer, there⟩ := Option.isSome_iff_exists.mp object
      cases fails : answers.spriteFails with
      | true =>
        have pointed : spriteRecordPtr world.store record = some pointer := by
          rw [spriteRecordPtr, present]
          exact there
        simp only [ObjectKind.destruction, lockedSection, handlesDestroySprite, found, fails,
          pointed] at answered
        cases reply_text answered
      | false =>
        refine List.mem_append_left _ (List.mem_append_right _ ?_)
        simp only [ObjectKind.destruction, lockedSection, World.apply, fails,
          handlesDestroySprite_eq found]
        refine List.mem_map.mpr ⟨{ sprite with sprite := none, deleted := true },
          List.mem_of_getElem? (i := record) ?_, by rw [handle]⟩
        simp [present]
  | placement =>
    cases found : handlesGetPlacement world.store id session.username with
    | none =>
      simp only [ObjectKind.destruction, lockedSection, handlesDestroyPlacement, found] at answered
      cases reply_text answered
    | some record =>
      obtain ⟨placement, present, handle, -⟩ := handlesGetPlacement_some found
      refine List.mem_append_right _ ?_
      simp only [ObjectKind.destruction, lockedSection, World.apply, handlesDestroyPlacement, found]
      refine List.mem_map.mpr ⟨{ placement with placement := none, deleted := true },
        List.mem_of_getElem? (i := record) ?_, by rw [handle]⟩
      simp [present]

end Destructions

/-! ## Runs -/

section Runs

variable {auth : AuthDb} {state next : RpcState} {label : RpcLabel}

/-- Every step of the machine adds the records of the handles it gives out, and takes no mark
back. -/
theorem rpcMachine_marks (step : (rpcMachine auth).step state label = some next) :
    MarksKept state.world.store.marks (handlesGiven state label) next.world.store.marks := by
  rcases rpcMachine_cases step with
    ⟨thread, answers, client, pc, rfl, working, -, rfl⟩ | ⟨thread, work, other, rfl, -⟩
  · simp only [handlesGiven, working]
    exact advance_marks pc
  · cases label with
    | step thread answers => exact absurd rfl (other thread answers)
    | _ => exact marksKept_refl _

/-- The records with a handle are as many as it was given out. -/
theorem run_handles {labels : List RpcLabel} (ran : (rpcMachine auth).run {} labels = some next)
    (id : UInt64) : (next.world.store.marks.map Prod.fst).count id =
      ((rpcMachine auth).observed handlesGiven {} labels).count id := by
  have preserved : ∀ before label after given,
      (before.world.store.marks.map Prod.fst).count id = given.count id →
      (rpcMachine auth).step before label = some after →
      (after.world.store.marks.map Prod.fst).count id =
        (given ++ handlesGiven before label).count id := by
    intro before label after given counted step
    rw [(rpcMachine_marks step).handles, counted, List.count_append]
  have initially : (({} : RpcState).world.store.marks.map Prod.fst).count id =
      ([] : List UInt64).count id := rfl
  exact Machine.run_observed preserved initially ran

/-- A mark stays over a run. -/
theorem run_marked {labels : List RpcLabel} (ran : (rpcMachine auth).run state labels = some next)
    {id : UInt64} (marked : (id, true) ∈ state.world.store.marks) :
    (id, true) ∈ next.world.store.marks := by
  have preserved : ∀ before label after, (id, true) ∈ before.world.store.marks →
      (rpcMachine auth).step before label = some after → (id, true) ∈ after.world.store.marks :=
    fun before label after marked step => (rpcMachine_marks step).marked id marked
  exact Machine.run_invariant preserved marked ran

/-- After a user's destruction of a handle was answered as successful, and for a canvas left no
member connected, every later request that names the handle is answered with the value error and
calls nothing, unless the counter gave the handle out twice. It changes nothing, but for
`place_sprite` with a destroyed sprite, which looks its canvas up before. -/
theorem destroyed_handle_stays_dead {front back : List RpcLabel} {reached later : RpcState}
    {user : Bytes} {kind : ObjectKind} {id : UInt64} {thread : ThreadId} {client : ClientId}
    {command : StoreCommand} (answers : Answers)
    (before : (rpcMachine auth).run {} front = some reached)
    (destroys : Destroys user kind id reached label)
    (step : (rpcMachine auth).step reached label = some next)
    (nobody : kind = .canvas → ∀ canvas ∈ next.world.store.canvases,
      canvas.id = id → canvasHasConnectedUser canvas = false)
    (after : (rpcMachine auth).run next back = some later)
    (once : ((rpcMachine auth).observed handlesGiven {} (front ++ label :: back)).count id ≤ 1)
    (working : later.threads thread = some ⟨client, .locking command⟩)
    (names : id ∈ command.names) :
    ∃ last store, (rpcMachine auth).step later (.step thread answers) = some last ∧
      last.sessions = later.sessions ∧ last.world = { later.world with store } ∧
      last.threads thread = some ⟨client, answers.reply (responseCode rpcValue)⟩ ∧
      (store = later.world.store ∨ ∃ canvasId x y, command = .placeSprite canvasId id x y ∧
        store = (handlesGetCanvas later.world.store canvasId
          (later.sessions client).username).2) := by
  have marked : (id, true) ∈ next.world.store.marks := by
    obtain ⟨other, taken, requester, rfl, there, -, answered⟩ := destroys
    obtain rfl := rpcMachine_step_of there step
    exact destruction_marks answered nobody
  have whole : (rpcMachine auth).run {} (front ++ label :: back) = some later := by
    rw [Machine.run_append, before, Option.bind_some, Machine.run_cons, step]
    exact after
  have dead : later.world.store.Dead id := by
    apply dead_of_marked (run_marked after marked)
    rw [run_handles whole]
    exact once
  obtain ⟨store, refused, kept⟩ := @StoreCommand.refused auth answers (later.sessions client)
    later.world id command dead names
  refine ⟨_, store, rpcMachine_advance working rfl, ?_, ?_, ?_, kept⟩
  · simp [RpcState.advanceThread, refused]
  · simp [RpcState.advanceThread, refused]
  · simp [RpcState.advanceThread, refused]

end Runs

/-- Ann makes a canvas and is about to destroy it. -/
def annsOnlyCanvas : List RpcLabel :=
  handled 0 0 "Login ann\n" 1 ++ handled 0 0 "create_canvas 1 1 0\n" 2 ++
  [.request 0 0 (bytes "destroy_canvas 1\n"), .step 0 {}]

/-- Ann's barrier call on the canvas that she destroyed is refused. -/
theorem destroyed_handle_stays_dead_barrier : ∃ next later last,
    (rpcMachine annAlone).run {} (annsOnlyCanvas ++ [.step 0 {}]) = some next ∧
    (rpcMachine annAlone).run next [.leave 0, .request 0 0 (bytes "barrier 1\n"), .step 0 {}] =
      some later ∧
    (rpcMachine annAlone).step later (.step 0 {}) = some last ∧
    last.sessions = later.sessions ∧ last.world = later.world ∧
    last.threads 0 = some ⟨0, .finished (some (responseCode rpcValue))⟩ := by
  have ends : ∃ reached next later,
      (rpcMachine annAlone).run {} annsOnlyCanvas = some reached ∧
      Destroys (bytes "ann") .canvas 1 reached (.step 0 {}) ∧
      (rpcMachine annAlone).step reached (.step 0 {}) = some next ∧
      (∀ canvas ∈ next.world.store.canvases, canvas.id = 1 →
        canvasHasConnectedUser canvas = false) ∧
      (rpcMachine annAlone).run next [.leave 0, .request 0 0 (bytes "barrier 1\n"), .step 0 {}] =
        some later ∧
      later.threads 0 = some ⟨0, .locking (.barrier 1)⟩ :=
    ⟨_, _, _, rfl, ⟨0, {}, 0, rfl, rfl, rfl, rfl⟩, rfl, by decide, rfl, rfl⟩
  obtain ⟨reached, next, later, before, destroys, step, nobody, after, working⟩ := ends
  have once : ((rpcMachine annAlone).observed handlesGiven {} (annsOnlyCanvas ++ .step 0 {} ::
      [.leave 0, .request 0 0 (bytes "barrier 1\n"), .step 0 {}])).count 1 ≤ 1 := by
    decide
  obtain ⟨last, store, refused, sessions, shared, answered, rfl | ⟨canvasId, x, y, other, -⟩⟩ :=
    destroyed_handle_stays_dead {} before destroys step (fun _ => nobody) after once working
      List.mem_cons_self
  · exact ⟨next, later, last, Machine.run_concat before step, after, refused, sessions, shared,
      answered⟩
  · cases other

/-! ## The counter wraps -/

/-- Ann is logged in. -/
def annLoggedIn : Session := { username := bytes "ann", balance := 5, loggedIn := true }

/-- Ann is logged in, and nothing is going on but her request, if there is one. -/
structure AnnAt (pc : Option Pc) (world : World) (state : RpcState) : Prop where
  /-- The first thread handles her request. -/
  working : state.threads 0 = pc.map (Thread.mk 0)
  /-- The other threads handle nothing. -/
  idle : ∀ thread, thread ≠ 0 → state.threads thread = none
  /-- Her session. -/
  session : state.sessions 0 = annLoggedIn
  /-- What all requests share. -/
  shared : state.world = world

/-- Ann sends a request. -/
theorem AnnAt.asks {world : World} {state : RpcState} (ann : AnnAt none world state)
    (line : Bytes) : ∃ next, (rpcMachine annAlone).step state (.request 0 0 line) = some next ∧
      AnnAt (some (.start line)) world next := by
  have free : state.threads 0 = none := ann.working
  refine ⟨state.setThread 0 (some ⟨0, .start line⟩), by simp only [rpcMachine, free], ?_, ?_,
    ann.session, ann.shared⟩
  · simp [RpcState.setThread]
  · intro thread apart
    simp [RpcState.setThread, apart, ann.idle]

/-- Her request takes a step. -/
theorem AnnAt.advances {pc next : Pc} {world after : World} {state : RpcState}
    (ann : AnnAt (some pc) world state) (unfinished : pc.isFinished = false)
    (does : advance annAlone {} annLoggedIn world pc = (annLoggedIn, after, next)) :
    ∃ advanced, (rpcMachine annAlone).step state (.step 0 {}) = some advanced ∧
      AnnAt (some next) after advanced := by
  have does : advance annAlone {} (state.sessions 0) state.world pc =
      (annLoggedIn, after, next) := by
    rw [ann.session, ann.shared]
    exact does
  refine ⟨_, rpcMachine_advance ann.working unfinished, ?_, ?_, ?_, ?_⟩
  · simp [RpcState.advanceThread, does]
  · intro thread apart
    simp [RpcState.advanceThread, apart, ann.idle]
  · simp [RpcState.advanceThread, does]
  · simp [RpcState.advanceThread, does]

/-- Her request is done. -/
theorem AnnAt.leaves {response : Option Bytes} {world : World} {state : RpcState}
    (ann : AnnAt (some (.finished response)) world state) :
    ∃ next, (rpcMachine annAlone).step state (.leave 0) = some next ∧ AnnAt none world next := by
  have done : state.threads 0 = some ⟨0, .finished response⟩ := ann.working
  refine ⟨state.setThread 0 none, by simp only [rpcMachine, done], ?_, ?_, ann.session,
    ann.shared⟩
  · simp [RpcState.setThread]
  · intro thread apart
    simp [RpcState.setThread, apart, ann.idle]

/-- Ann's next canvas is created. -/
theorem AnnAt.creates {world : World} {state : RpcState} (ann : AnnAt none world state) :
    ∃ reached canvas created, (rpcMachine annAlone).run state
      [.request 0 0 (bytes "create_canvas 1 1 0\n"), .step 0 {}] = some reached ∧
      AnnAt (some (.addCanvas canvas 1 1)) created reached ∧ created.store = world.store := by
  obtain ⟨started, asked, ann⟩ := ann.asks (bytes "create_canvas 1 1 0\n")
  obtain ⟨reached, taken, ann⟩ := ann.advances rfl (show _ =
    (annLoggedIn, beginCommand {} world (.createCanvas 1 1 0)) from rfl)
  refine ⟨reached, _, _, ?_, ann, rfl⟩
  rw [Machine.run_cons, asked, Option.bind_some, Machine.run_cons, taken]
  rfl

/-- It is recorded under the next handle, valid or not. -/
theorem AnnAt.records {canvas : Object} {world : World} {state : RpcState}
    (ann : AnnAt (some (.addCanvas canvas 1 1)) world state) :
    ∃ after last recorded, (rpcMachine annAlone).step state (.step 0 {}) = some after ∧
      (rpcMachine annAlone).run after [.leave 0] = some last ∧ AnnAt none recorded last ∧
      recorded.store.nextId = world.store.nextId + 1 := by
  have answered : ∃ recorded response, advance annAlone {} annLoggedIn world
      (.addCanvas canvas 1 1) = (annLoggedIn, recorded, .finished response) ∧
      recorded.store.nextId = world.store.nextId + 1 := by
    simp only [advance, answerHandle, handlesAddCanvas, ↓reduceIte]
    split <;> exact ⟨_, _, rfl, rfl⟩
  obtain ⟨recorded, response, answered, counter⟩ := answered
  obtain ⟨after, taken, ann⟩ := ann.advances rfl answered
  obtain ⟨last, left, ann⟩ := ann.leaves
  refine ⟨after, last, recorded, taken, ?_, ann, counter⟩
  rw [Machine.run_cons, left]
  rfl

/-- Any number of canvases takes as many handles. -/
theorem AnnAt.canvases {world : World} {state : RpcState} (ann : AnnAt none world state)
    (count : Nat) : ∃ labels last after, (rpcMachine annAlone).run state labels = some last ∧
      AnnAt none after last ∧ after.store.nextId = world.store.nextId + UInt64.ofNat count := by
  induction count with
  | zero => exact ⟨[], state, world, rfl, ann, (UInt64.add_zero _).symm⟩
  | succ count ih =>
    obtain ⟨labels, last, after, ran, ann, counter⟩ := ih
    obtain ⟨reached, canvas, created, more, ann, same⟩ := ann.creates
    obtain ⟨next, final, recorded, taken, left, ann, one⟩ := ann.records
    refine ⟨labels ++ ([.request 0 0 (bytes "create_canvas 1 1 0\n"), .step 0 {}] ++
      [.step 0 {}, .leave 0]), final, recorded, ?_, ann, ?_⟩
    · rw [Machine.run_append, ran, Option.bind_some, Machine.run_append, more, Option.bind_some,
        Machine.run_cons, taken]
      exact left
    · rw [one, same, counter, UInt64.ofNat_add, UInt64.add_assoc]
      rfl

/-! ## Handles that come back -/

/-- A step does not share a canvas with a user. -/
def SharesNot (user : Bytes) (id : UInt64) (state : RpcState) (label : RpcLabel) : Prop :=
  ∀ thread answers client, label = .step thread answers →
    state.threads thread ≠ some ⟨client, .locking (.shareCanvas id user)⟩

/-- Whatever happens after a user's destruction of a handle, short of sharing the canvas with that
user again, the user's requests that name the handle are refused and change nothing. -/
def StaysDead (auth : AuthDb) (kind : ObjectKind) : Prop :=
  ∀ (front back : List RpcLabel) (label : RpcLabel) (reached next later : RpcState) (user : Bytes)
    (id : UInt64) (thread : ThreadId) (client : ClientId) (command : StoreCommand)
    (answers : Answers), (rpcMachine auth).run {} front = some reached →
    Destroys user kind id reached label → (rpcMachine auth).step reached label = some next →
    (rpcMachine auth).run next back = some later →
    (kind = .canvas → (rpcMachine auth).EveryStep (SharesNot user id) next back) →
    later.threads thread = some ⟨client, .locking command⟩ →
    (later.sessions client).username = user → id ∈ command.names →
    advance auth answers (later.sessions client) later.world (.locking command) =
      (later.sessions client, later.world, answers.reply (responseCode rpcValue))

/-- Ann's destruction of a shared canvas leaves her a member. -/
theorem sharedCanvas_comes_back : ¬ StaysDead twoUsers .canvas := by
  intro claimed
  have ends : ∃ reached next later,
      (rpcMachine twoUsers).run {} (annAndBobConnected ++
        [.request 0 0 (bytes "destroy_canvas 1\n"), .step 0 {}]) = some reached ∧
      Destroys (bytes "ann") .canvas 1 reached (.step 0 {}) ∧
      (rpcMachine twoUsers).step reached (.step 0 {}) = some next ∧
      (rpcMachine twoUsers).run next
        [.leave 0, .request 0 0 (bytes "destroy_canvas 1\n"), .step 0 {}] = some later ∧
      later.threads 0 = some ⟨0, .locking (.destroyCanvas 1)⟩ ∧
      (later.sessions 0).username = bytes "ann" ∧
      (advance twoUsers {} (later.sessions 0) later.world (.locking (.destroyCanvas 1))).2.2 =
        .finished (some (responseCode 0)) :=
    ⟨_, _, _, rfl, ⟨0, {}, 0, rfl, rfl, rfl, rfl⟩, rfl, rfl, rfl, rfl, rfl⟩
  obtain ⟨reached, next, later, before, destroys, step, after, working, user, again⟩ := ends
  have unshared : (rpcMachine twoUsers).EveryStep (SharesNot (bytes "ann") 1) next
      [.leave 0, .request 0 0 (bytes "destroy_canvas 1\n"), .step 0 {}] := by
    intro left _
    refine ⟨by simp [SharesNot], fun asked begins =>
      ⟨by simp [SharesNot], fun final _ => ⟨?_, trivial⟩⟩⟩
    rintro thread answers client ⟨⟩ sharing
    simp only [rpcMachine] at begins
    split at begins
    · obtain rfl := Option.some.inj begins
      simp [RpcState.setThread] at sharing
    · cases begins
  have refused := claimed _ _ _ _ _ _ _ _ _ _ _ {} before destroys step after (fun _ => unshared)
    working user List.mem_cons_self
  rw [refused] at again
  cases reply_text again

/-- A request that names a destroyed sprite connects Ann to the canvas that she had left. -/
theorem deadSprite_connects : ¬ StaysDead twoUsers .sprite := by
  intro claimed
  have ends : ∃ reached next later,
      (rpcMachine twoUsers).run {} (annAndBobConnected ++
        handled 0 0 "create_rectangle 1 1 0 0\n" 2 ++ handled 0 0 "destroy_canvas 1\n" 2 ++
        [.request 0 0 (bytes "destroy_sprite 2\n"), .step 0 {}]) = some reached ∧
      Destroys (bytes "ann") .sprite 2 reached (.step 0 {}) ∧
      (rpcMachine twoUsers).step reached (.step 0 {}) = some next ∧
      (rpcMachine twoUsers).run next
        [.leave 0, .request 0 0 (bytes "place_sprite 1 2 0 0\n"), .step 0 {}] = some later ∧
      later.threads 0 = some ⟨0, .locking (.placeSprite 1 2 0 0)⟩ ∧
      (later.sessions 0).username = bytes "ann" ∧
      (advance twoUsers {} (later.sessions 0) later.world
        (.locking (.placeSprite 1 2 0 0))).2.1.store ≠ later.world.store :=
    ⟨_, _, _, rfl, ⟨0, {}, 0, rfl, rfl, rfl, rfl⟩, rfl, rfl, rfl, rfl, by decide⟩
  obtain ⟨reached, next, later, before, destroys, step, after, working, user, changed⟩ := ends
  have refused := claimed _ _ _ _ _ _ _ _ _ _ _ {} before destroys step after (by simp) working user
    (List.mem_cons_of_mem 1 List.mem_cons_self)
  exact changed (by rw [refused])

/-- Ann makes a sprite and is about to destroy it. -/
def annsSprite : List RpcLabel :=
  handled 0 0 "Login ann\n" 1 ++ handled 0 0 "create_rectangle 1 1 0 0\n" 2 ++
  [.request 0 0 (bytes "destroy_sprite 1\n"), .step 0 {}]

/-- Ann asks for another sprite, which is the newest record under the next handle, and then for its
destruction. -/
theorem AnnAt.anotherSprite {world : World} {state : RpcState} (ann : AnnAt none world state)
    (counter : world.store.nextId = 1) :
    ∃ later shared sprite, (rpcMachine annAlone).run state
      (handled 0 0 "create_rectangle 1 1 0 0\n" 2 ++
        [.request 0 0 (bytes "destroy_sprite 1\n"), .step 0 {}]) = some later ∧
      AnnAt (some (.locking (.destroySprite 1))) shared later ∧
      shared.store.sprites = world.store.sprites ++
        [{ id := 1, sprite := some sprite, owner := bytes "ann", deleted := false }] := by
  obtain ⟨asked, one, ann⟩ := ann.asks (bytes "create_rectangle 1 1 0 0\n")
  obtain ⟨made, two, ann⟩ := ann.advances rfl (show _ = (annLoggedIn,
    beginCommand {} world (.createSprite (.rectangle 1 1 0 false))) from rfl)
  have valid : (1 : UInt64) ≠ invalidHandle := by decide
  obtain ⟨recorded, three, ann⟩ := ann.advances rfl (show _ = (annLoggedIn,
    { world with
      library := { next := world.library.next + 1, calls := _ :: world.library.calls }
      store := (handlesAddSprite world.store world.library.next (bytes "ann") true).2 },
    .finished (some (responseU64 1))) by
      simp only [advance, answerHandle, handlesAddSprite, ↓reduceIte, counter, if_neg valid]
      rfl)
  obtain ⟨left, four, ann⟩ := ann.leaves
  obtain ⟨again, five, ann⟩ := ann.asks (bytes "destroy_sprite 1\n")
  obtain ⟨later, six, ann⟩ := ann.advances rfl (show _ =
    (annLoggedIn, _, .locking (.destroySprite 1)) from rfl)
  refine ⟨later, _, world.library.next, ?_, ann, ?_⟩
  · have labels : handled 0 0 "create_rectangle 1 1 0 0\n" 2 ++
        [.request 0 0 (bytes "destroy_sprite 1\n"), .step 0 {}] =
      [.request 0 0 (bytes "create_rectangle 1 1 0 0\n"), .step 0 {}, .step 0 {}, .leave 0,
        .request 0 0 (bytes "destroy_sprite 1\n"), .step 0 {}] := rfl
    rw [labels]
    simp only [Machine.run_cons, one, two, three, four, five, six, Option.bind_some,
      Machine.run_nil]
  · simp only [handlesAddSprite, ↓reduceIte, counter]
    rfl

/-- When the counter has wrapped, the handle of a destroyed sprite is given to another one. -/
theorem sprite_comes_back : ¬ StaysDead annAlone .sprite := by
  intro claimed
  have ends : ∃ reached next world,
      (rpcMachine annAlone).run {} annsSprite = some reached ∧
      Destroys (bytes "ann") .sprite 1 reached (.step 0 {}) ∧
      (rpcMachine annAlone).step reached (.step 0 {}) = some next ∧
      AnnAt (some (.finished (some (responseU64 0)))) world next ∧ world.store.nextId = 2 := by
    refine ⟨_, _, _, rfl, ⟨0, {}, 0, rfl, rfl, rfl, rfl⟩, rfl, ⟨rfl, ?_, rfl, rfl⟩, rfl⟩
    intro thread apart
    simp [RpcState.setThread, RpcState.advanceThread, apart]
  obtain ⟨reached, next, world, before, destroys, step, ann, two⟩ := ends
  obtain ⟨left, leaves, ann⟩ := ann.leaves
  obtain ⟨labels, wrapped, after, ran, ann, counter⟩ := ann.canvases (2 ^ 64 - 1)
  rw [two] at counter
  obtain ⟨later, shared, sprite, more, ann, sprites⟩ := ann.anotherSprite counter
  have back : (rpcMachine annAlone).run next (.leave 0 :: (labels ++
      (handled 0 0 "create_rectangle 1 1 0 0\n" 2 ++
        [.request 0 0 (bytes "destroy_sprite 1\n"), .step 0 {}]))) = some later := by
    rw [Machine.run_cons, leaves, Option.bind_some, Machine.run_append, ran]
    exact more
  have refused := claimed _ _ _ _ _ _ _ _ _ _ _ {} before destroys step back (by simp) ann.working
    (by rw [ann.session]; rfl) List.mem_cons_self
  have found : ∃ record, handlesGetSprite later.world.store 1 (bytes "ann") = some record := by
    rw [← Option.isSome_iff_exists, Option.isSome_iff_ne_none]
    intro missing
    rw [handlesGetSprite, if_neg (by decide), newest?_none] at missing
    have accepted := missing _ (by
      rw [ann.shared, sprites]
      exact List.mem_append_right _ List.mem_cons_self)
    simp at accepted
  obtain ⟨record, found⟩ := found
  have user : (later.sessions 0).username = bytes "ann" := by
    rw [ann.session]
    rfl
  have answer := congrArg (fun result => result.2.2) refused
  have code : (handlesDestroySprite later.world.store 1 (bytes "ann")
      ({} : Answers).spriteFails).1 = 0 := by
    simp only [handlesDestroySprite, found]
    cases spriteRecordPtr later.world.store record <;> rfl
  simp only [advance, lockedSection, user, code] at answer
  cases reply_text answer

/-- A shared canvas comes back, a destroyed sprite may connect its user to a canvas, and once the
counter has wrapped a sprite comes back. -/
theorem destroyed_handle_false : ¬ StaysDead twoUsers .canvas ∧ ¬ StaysDead twoUsers .sprite ∧
    ¬ StaysDead annAlone .sprite :=
  ⟨sharedCanvas_comes_back, deadSprite_connects, sprite_comes_back⟩

end AnimateService
