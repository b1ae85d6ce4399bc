import Mathlib.Data.Fintype.Card
import AnimateService.HandleBook
import AnimateService.RpcThreads

/-!
# Requests as operations on the store

Each step of a request performs at most one operation on the handle store. What an operation does
to the records of sprites and placements is one of three things: nothing, the end of one record, or
one more record.
-/
namespace AnimateService

/-- The operation that a step performs. -/
def Pc.operation (answers : Answers) (session : Session) (store : HandleStore) :
    Pc → Option StoreOperation
  | .addCanvas canvas width height =>
    some (.addCanvas canvas width height session.username answers.memory)
  | .addSprite sprite => some (.addSprite sprite session.username answers.memory)
  | .addPlacement placement canvasId spriteId =>
    some (.addPlacement placement canvasId spriteId session.username answers.memory)
  | .locking (.destroyCanvas id) => some (.destroyCanvas id session.username)
  | .locking (.destroySprite id) => some (.destroySprite id session.username answers.spriteFails)
  | .locking (.destroyPlacement id) => some (.destroyPlacement id session.username)
  | .locking (.placeSprite canvasId _ _ _) => some (.getCanvas canvasId session.username)
  | .locking (.movePlacement _ id) | .locking (.setAnimationParams id _ _ _ _) =>
    (handlesGetPlacement store id session.username).map fun placement =>
      .getCanvas (placementRecordCanvasId store placement) session.username
  | .locking (.shareCanvas canvasId target) =>
    some (.share canvasId session.username target answers.memory)
  | .locking (.barrier canvasId) => some (.barrier canvasId session.username)
  | .locking (.generate job) | .frame job _ => some (.getCanvas job.canvasId session.username)
  | .disconnect => if session.loggedIn then some (.disconnect session.username) else none
  | _ => none

/-- The places that look a canvas up. -/
def Pc.looksUp : Pc → Bool
  | .locking (.placeSprite _ _ _ _) | .locking (.movePlacement _ _)
  | .locking (.setAnimationParams _ _ _ _ _) | .locking (.generate _) | .frame _ _ => true
  | _ => false

/-- The store after an operation, if there is one. -/
def HandleStore.after (store : HandleStore) (operation : Option StoreOperation) : HandleStore :=
  operation.elim store fun operation => (operation.perform store).2

/-- The number of records. None of them is freed before `handles_destroy`. -/
def HandleStore.records (store : HandleStore) : Nat :=
  store.canvases.length + store.sprites.length + store.placements.length

/-- The records are all allocated: each has an address of its own, which is not `NULL`. -/
def HandleStore.Allocated (store : HandleStore) : Prop :=
  ∃ address : Fin store.records → UInt64, Function.Injective address ∧ ∀ record, address record ≠ 0

/-- There are fewer of them than there are addresses. -/
theorem HandleStore.Allocated.records_lt {store : HandleStore} (allocated : store.Allocated) :
    store.records < 2 ^ 64 := by
  obtain ⟨address, distinct, present⟩ := allocated
  -- the addresses from 1 on
  have inside : ∀ record, (address record).toNat - 1 < 2 ^ 64 - 1 := by
    intro record
    have bounded := (address record).toNat_lt
    omega
  have apart : Function.Injective fun record => (⟨_, inside record⟩ : Fin (2 ^ 64 - 1)) := by
    intro first second same
    have first_pos : (address first).toNat ≠ 0 := fun zero =>
      present first (UInt64.toNat_inj.mp zero)
    have second_pos : (address second).toNat ≠ 0 := fun zero =>
      present second (UInt64.toNat_inj.mp zero)
    have equal : (address first).toNat - 1 = (address second).toNat - 1 := congrArg Fin.val same
    exact distinct (UInt64.toNat_inj.mp (by omega))
  have few := Fintype.card_le_of_injective _ apart
  rw [Fintype.card_fin, Fintype.card_fin] at few
  exact Nat.lt_of_le_of_lt few (by decide)

variable {auth : AuthDb} {answers : Answers} {session : Session} {world : World}

/-- The places that perform an operation, and the operation of each. -/
inductive Performs (answers : Answers) (session : Session) (store : HandleStore) :
    Pc → StoreOperation → Prop where
  /-- A canvas is recorded. -/
  | addCanvas (canvas : Object) (width height : UInt64) :
    Performs answers session store (.addCanvas canvas width height)
      (.addCanvas canvas width height session.username answers.memory)
  /-- A sprite is recorded. -/
  | addSprite (sprite : Object) :
    Performs answers session store (.addSprite sprite)
      (.addSprite sprite session.username answers.memory)
  /-- A placement is recorded. -/
  | addPlacement (placement : Object) (canvasId spriteId : UInt64) :
    Performs answers session store (.addPlacement placement canvasId spriteId)
      (.addPlacement placement canvasId spriteId session.username answers.memory)
  /-- A canvas is destroyed. -/
  | destroyCanvas (id : UInt64) :
    Performs answers session store (.locking (.destroyCanvas id)) (.destroyCanvas id session.username)
  /-- A sprite is destroyed. -/
  | destroySprite (id : UInt64) :
    Performs answers session store (.locking (.destroySprite id))
      (.destroySprite id session.username answers.spriteFails)
  /-- A placement is destroyed. -/
  | destroyPlacement (id : UInt64) :
    Performs answers session store (.locking (.destroyPlacement id))
      (.destroyPlacement id session.username)
  /-- A canvas is shared. -/
  | share (canvasId : UInt64) (target : Bytes) :
    Performs answers session store (.locking (.shareCanvas canvasId target))
      (.share canvasId session.username target answers.memory)
  /-- The user arrives at a barrier. -/
  | barrier (canvasId : UInt64) :
    Performs answers session store (.locking (.barrier canvasId))
      (.barrier canvasId session.username)
  /-- A canvas is looked up, by its handle or by that of a placement. -/
  | lookup (pc : Pc) (id : UInt64) (looks : pc.looksUp = true) :
    Performs answers session store pc (.getCanvas id session.username)
  /-- The session ends. -/
  | disconnect : Performs answers session store .disconnect (.disconnect session.username)

/-- What a place performs. -/
theorem Pc.operation_performs {store : HandleStore} {pc : Pc} {operation : StoreOperation}
    (performs : pc.operation answers session store = some operation) :
    Performs answers session store pc operation := by
  cases pc with
  | locking command =>
    cases command with
    | movePlacement move id =>
      obtain ⟨placement, -, rfl⟩ := Option.map_eq_some_iff.mp performs
      exact .lookup _ _ rfl
    | setAnimationParams id vx vy ax ay =>
      obtain ⟨placement, -, rfl⟩ := Option.map_eq_some_iff.mp performs
      exact .lookup _ _ rfl
    | _ =>
      cases performs
      first | exact .lookup _ _ rfl | constructor
  | addCanvas _ _ _ | addSprite _ | addPlacement _ _ _ =>
    cases performs
    constructor
  | frame job frame =>
    cases performs
    exact .lookup _ _ rfl
  | disconnect =>
    obtain ⟨-, same⟩ := Option.ite_none_right_eq_some.mp performs
    cases same
    exact .disconnect
  | _ => cases performs

/-- A write to a canvas record adds none. -/
theorem updateCanvas_records (store : HandleStore) (record : CanvasPtr)
    (write : CanvasRecord → CanvasRecord) :
    (store.updateCanvas record write).records = store.records := by
  simp [HandleStore.records, HandleStore.updateCanvas]

/-- The records that an operation adds. -/
def StoreOperation.adds : StoreOperation → Nat
  | .addCanvas _ _ _ _ memory | .addSprite _ _ memory | .addPlacement _ _ _ _ memory =>
    if memory then 1 else 0
  | _ => 0

/-- A lookup adds no record and gives no handle out. -/
theorem handlesGetCanvas_records (store : HandleStore) (id : UInt64) (username : Bytes) :
    (handlesGetCanvas store id username).2.records = store.records ∧
      (handlesGetCanvas store id username).2.nextId = store.nextId := by
  unfold handlesGetCanvas
  split
  · exact ⟨updateCanvas_records _ _ _, rfl⟩
  · exact ⟨rfl, rfl⟩

/-- Who adds no record counts none. -/
theorem addsNone_records {store after : HandleStore}
    (kept : after.records = store.records ∧ after.nextId = store.nextId) :
    after.records = store.records + 0 ∧ after.nextId = store.nextId + UInt64.ofNat 0 :=
  ⟨kept.1, kept.2.trans (UInt64.add_zero _).symm⟩

/-- An operation counts the records that it adds. -/
theorem StoreOperation.perform_records (store : HandleStore) (operation : StoreOperation) :
    (operation.perform store).2.records = store.records + operation.adds ∧
      (operation.perform store).2.nextId = store.nextId + UInt64.ofNat operation.adds := by
  cases operation with
  | addCanvas canvas width height owner memory =>
    cases memory with
    | false => exact addsNone_records ⟨rfl, rfl⟩
    | true =>
      refine ⟨?_, rfl⟩
      simp only [StoreOperation.perform, handlesAddCanvas, ↓reduceIte, HandleStore.records,
        List.length_append, List.length_singleton, StoreOperation.adds]
      omega
  | addSprite sprite owner memory =>
    cases memory with
    | false => exact addsNone_records ⟨rfl, rfl⟩
    | true =>
      refine ⟨?_, rfl⟩
      simp only [StoreOperation.perform, handlesAddSprite, ↓reduceIte, HandleStore.records,
        List.length_append, List.length_singleton, StoreOperation.adds]
      omega
  | addPlacement placement canvasId spriteId owner memory =>
    cases memory with
    | false => exact addsNone_records ⟨rfl, rfl⟩
    | true =>
      refine ⟨?_, rfl⟩
      simp only [StoreOperation.perform, handlesAddPlacement, ↓reduceIte, HandleStore.records,
        List.length_append, List.length_singleton, StoreOperation.adds]
      omega
  | getCanvas id username =>
    exact addsNone_records (handlesGetCanvas_records store id username)
  | share id username target memory =>
    refine addsNone_records ?_
    have found := handlesGetCanvas_records store id username
    simp only [StoreOperation.perform, shareSection]
    split <;> rename_i result <;> rw [result] at found
    · exact ⟨(updateCanvas_records _ _ _).trans found.1, found.2⟩
    · exact found
  | barrier id username =>
    refine addsNone_records ?_
    have found := handlesGetCanvas_records store id username
    simp only [StoreOperation.perform, barrierSection]
    split <;> rename_i result <;> rw [result] at found
    · split
      · dsimp only
        split
        · exact found
        · exact ⟨(updateCanvas_records _ _ _).trans found.1, found.2⟩
        · exact ⟨(updateCanvas_records _ _ _).trans found.1, found.2⟩
      · exact found
    · exact found
  | destroyCanvas id username =>
    refine addsNone_records ?_
    have found := handlesGetCanvas_records store id username
    simp only [StoreOperation.perform, handlesDestroyCanvasForUser]
    split <;> rename_i result <;> rw [result] at found
    · exact found
    · unfold HandleStore.onCanvas
      split
      · exact ⟨(by simp [HandleStore.records] : _ = _).trans found.1, found.2⟩
      · exact found
  | destroySprite id username failed =>
    refine addsNone_records ?_
    simp only [StoreOperation.perform, handlesDestroySprite]
    split
    · exact ⟨rfl, rfl⟩
    · split
      · exact ⟨rfl, rfl⟩
      · exact ⟨by simp [HandleStore.records], rfl⟩
  | destroyPlacement id username =>
    refine addsNone_records ?_
    simp only [StoreOperation.perform, handlesDestroyPlacement]
    split
    · exact ⟨rfl, rfl⟩
    · exact ⟨by simp [HandleStore.records], rfl⟩
  | disconnect username =>
    refine addsNone_records ?_
    simp only [StoreOperation.perform, handlesDisconnectUser]
    split
    · exact ⟨rfl, rfl⟩
    · exact ⟨by simp [HandleStore.records], rfl⟩

/-- A section on a placement that was found looks its canvas up. -/
theorem throughPlacement_operation {id : UInt64} {placement : Nat} (resume : Resume)
    (found : handlesGetPlacement world.store id session.username = some placement) :
    (throughPlacement answers world session.username placement resume).1.store =
      world.store.after ((handlesGetPlacement world.store id session.username).map fun placement =>
        .getCanvas (placementRecordCanvasId world.store placement) session.username) := by
  rw [found, throughPlacement_store]
  rfl

/-- The first section of a command is its operation. -/
theorem lockedSection_operation (command : StoreCommand) :
    (lockedSection answers session world command).1.store =
      world.store.after ((Pc.locking command).operation answers session world.store) := by
  cases command with
  | placeSprite canvasId spriteId x y =>
    show _ = (handlesGetCanvas world.store canvasId session.username).2
    simp only [lockedSection]
    split
    · exact waitThenResume_store _ _ _ _ _
    · rfl
  | movePlacement move id =>
    show _ = world.store.after ((handlesGetPlacement world.store id session.username).map
      fun placement => .getCanvas (placementRecordCanvasId world.store placement) session.username)
    simp only [lockedSection]
    split
    · rename_i placement found
      exact throughPlacement_operation _ found
    · rename_i found
      rw [found]
      rfl
  | setAnimationParams id vx vy ax ay =>
    show _ = world.store.after ((handlesGetPlacement world.store id session.username).map
      fun placement => .getCanvas (placementRecordCanvasId world.store placement) session.username)
    simp only [lockedSection]
    split
    · rename_i placement found
      exact throughPlacement_operation _ found
    · rename_i found
      rw [found]
      rfl
  | generate job =>
    show _ = (handlesGetCanvas world.store job.canvasId session.username).2
    simp only [lockedSection]
    split
    · rename_i canvas store found
      rw [waitThenResume_store, found]
    · rename_i store found
      rw [found]
  | destroyCanvas id => rfl
  | destroySprite id => rfl
  | destroyPlacement id => rfl
  | shareCanvas canvasId target => rfl
  | barrier canvasId => rfl

/-- Every step of a request changes the store as its operation does. -/
theorem advance_operation (pc : Pc) :
    (advance auth answers session world pc).2.1.store =
      world.store.after (pc.operation answers session world.store) := by
  cases pc with
  | start line => exact startRequest_store auth answers session world line
  | addCanvas canvas width height => exact answerHandle_store _ _ _ _
  | addSprite sprite => exact answerHandle_store _ _ _ _
  | addPlacement placement canvasId spriteId => exact answerHandle_store _ _ _ _
  | locking command => exact lockedSection_operation command
  | barrierWait record user => rfl
  | canvasWait record user resume =>
    simp only [advance]
    split
    · rfl
    · exact resumeAfterWait_store answers world resume
  | frame job frame => exact generateFrame_store answers session world job frame
  | disconnect =>
    show _ = world.store.after
      (if session.loggedIn then some (.disconnect session.username) else none)
    simp only [advance]
    split <;> rfl
  | endSession => rfl
  | finished response => rfl

/-! ## Sprites and placements under an operation -/

/-- A lookup touches canvases only. -/
theorem handlesGetCanvas_elsewhere (store : HandleStore) (id : UInt64) (username : Bytes) :
    (handlesGetCanvas store id username).2.sprites = store.sprites ∧
      (handlesGetCanvas store id username).2.placements = store.placements := by
  unfold handlesGetCanvas
  split <;> exact ⟨rfl, rfl⟩

/-- Whatever is neither an addition nor a destruction touches canvases only. -/
theorem StoreOperation.perform_elsewhere (store : HandleStore) (operation : StoreOperation) :
    ((operation.perform store).2.sprites = store.sprites ∨
      (∃ sprite owner, operation = .addSprite sprite owner true) ∨
      ∃ id username failed, operation = .destroySprite id username failed) ∧
    ((operation.perform store).2.placements = store.placements ∨
      (∃ placement canvasId spriteId owner,
        operation = .addPlacement placement canvasId spriteId owner true) ∨
      ∃ id username, operation = .destroyPlacement id username) := by
  cases operation with
  | addCanvas canvas width height owner memory =>
    cases memory <;> exact ⟨.inl rfl, .inl rfl⟩
  | addSprite sprite owner memory =>
    cases memory with
    | false => exact ⟨.inl rfl, .inl rfl⟩
    | true => exact ⟨.inr (.inl ⟨sprite, owner, rfl⟩), .inl rfl⟩
  | addPlacement placement canvasId spriteId owner memory =>
    cases memory with
    | false => exact ⟨.inl rfl, .inl rfl⟩
    | true => exact ⟨.inl rfl, .inr (.inl ⟨placement, canvasId, spriteId, owner, rfl⟩)⟩
  | getCanvas id username =>
    obtain ⟨sprites, placements⟩ := handlesGetCanvas_elsewhere store id username
    exact ⟨.inl sprites, .inl placements⟩
  | share id username target memory =>
    obtain ⟨sprites, placements⟩ := handlesGetCanvas_elsewhere store id username
    simp only [StoreOperation.perform, shareSection]
    split <;> rename_i found <;> rw [found] at sprites placements <;>
      exact ⟨.inl sprites, .inl placements⟩
  | barrier id username =>
    obtain ⟨sprites, placements⟩ := handlesGetCanvas_elsewhere store id username
    simp only [StoreOperation.perform, barrierSection]
    split <;> rename_i found <;> rw [found] at sprites placements
    · split
      · split <;> exact ⟨.inl sprites, .inl placements⟩
      · exact ⟨.inl sprites, .inl placements⟩
    · exact ⟨.inl sprites, .inl placements⟩
  | destroyCanvas id username =>
    obtain ⟨sprites, placements⟩ := handlesGetCanvas_elsewhere store id username
    simp only [StoreOperation.perform, handlesDestroyCanvasForUser]
    split <;> rename_i found <;> rw [found] at sprites placements
    · exact ⟨.inl sprites, .inl placements⟩
    · simp only [HandleStore.onCanvas]
      split <;> exact ⟨.inl sprites, .inl placements⟩
  | destroySprite id username failed =>
    refine ⟨.inr (.inr ⟨id, username, failed, rfl⟩), .inl ?_⟩
    simp only [StoreOperation.perform, handlesDestroySprite]
    split
    · rfl
    · split <;> rfl
  | destroyPlacement id username =>
    refine ⟨.inl ?_, .inr (.inr ⟨id, username, rfl⟩)⟩
    simp only [StoreOperation.perform, handlesDestroyPlacement]
    split <;> rfl
  | disconnect username =>
    simp only [StoreOperation.perform, handlesDisconnectUser]
    split <;> exact ⟨.inl rfl, .inl rfl⟩

/-- The sprite records after an operation. -/
theorem StoreOperation.perform_sprites {store : HandleStore} {operation : StoreOperation} :
    (operation.perform store).2.sprites = store.sprites ∨
      (∃ record, (operation.perform store).2.sprites = store.sprites.modify record fun sprite =>
        { sprite with sprite := none, deleted := true }) ∨
      ∃ sprite owner, operation = .addSprite sprite owner true ∧
        (operation.perform store).2.sprites = store.sprites ++
          [{ id := store.nextId, sprite := some sprite, owner := copyUsername owner,
             deleted := false }] := by
  rcases (perform_elsewhere store operation).1 with
    kept | ⟨sprite, owner, rfl⟩ | ⟨id, username, failed, rfl⟩
  · exact .inl kept
  · exact .inr (.inr ⟨sprite, owner, rfl, rfl⟩)
  · simp only [StoreOperation.perform, handlesDestroySprite]
    split
    · exact .inl rfl
    · split
      · exact .inl rfl
      · exact .inr (.inl ⟨_, rfl⟩)

/-- The placement records after an operation. -/
theorem StoreOperation.perform_placements {store : HandleStore} {operation : StoreOperation} :
    (operation.perform store).2.placements = store.placements ∨
      (∃ record, (operation.perform store).2.placements =
        store.placements.modify record fun placement =>
          { placement with placement := none, deleted := true }) ∨
      ∃ placement canvasId spriteId owner,
        operation = .addPlacement placement canvasId spriteId owner true ∧
        (operation.perform store).2.placements = store.placements ++
          [{ id := store.nextId, placement := some placement, canvasId, spriteId,
             owner := copyUsername owner, deleted := false }] := by
  rcases (perform_elsewhere store operation).2 with
    kept | ⟨placement, canvasId, spriteId, owner, rfl⟩ | ⟨id, username, rfl⟩
  · exact .inl kept
  · exact .inr (.inr ⟨placement, canvasId, spriteId, owner, rfl, rfl⟩)
  · simp only [StoreOperation.perform, handlesDestroyPlacement]
    split
    · exact .inl rfl
    · exact .inr (.inl ⟨_, rfl⟩)

end AnimateService
