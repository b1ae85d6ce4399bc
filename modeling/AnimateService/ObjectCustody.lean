import AnimateService.HeldRecords
import AnimateService.Library.Custody

/-!
# Library objects in the custody of requests

A canvas, sprite or placement that libanimate returns is carried by its request until it is
recorded in the handle store, or destroyed at once where it could not be. From its record it is
destroyed by a request, or by `handles_destroy` in the end. Every step of a request does one such
thing to each kind of object, or nothing. The one step that does two things is the one that records
an object under the handle 0 of a counter that has wrapped: it takes that for a failure.
-/
namespace AnimateService

open Custody Transition

/-! ## Objects in the log, in the store and in hand -/

/-- What libanimate hands out. -/
inductive ObjectKind where
  | canvas
  | sprite
  | placement
  deriving DecidableEq, Repr

/-- The object of a kind that a call returned. -/
def Call.issues : ObjectKind → Call → Option Object
  | .canvas, .createCanvas _ _ _ result => result
  | .sprite, .createSprite _ result => result
  | .placement, .placeSprite _ _ _ _ result => result
  | _, _ => none

/-- The object of a kind that a call destroyed. -/
def Call.retires : ObjectKind → Call → Option Object
  | .canvas, .destroyCanvas canvas => some canvas
  | .sprite, .destroySprite sprite false => some sprite
  | .placement, .destroyPlacement placement => some placement
  | _, _ => none

/-- The sprite that a call tried to destroy. -/
def Call.tries : Call → Option Object
  | .destroySprite sprite _ => some sprite
  | _ => none

/-- The pointers of the records of a kind. -/
def HandleStore.slots (store : HandleStore) : ObjectKind → List (Option Object)
  | .canvas => store.canvases.map CanvasRecord.canvas
  | .sprite => store.sprites.map SpriteRecord.sprite
  | .placement => store.placements.map PlacementRecord.placement

/-- The object of a kind that a request has obtained and not recorded yet. -/
def Pc.carries : ObjectKind → Pc → Option Object
  | .canvas, .addCanvas canvas _ _ => some canvas
  | .sprite, .addSprite sprite => some sprite
  | .placement, .addPlacement placement _ _ => some placement
  | _, _ => none

/-- The objects of a kind as a request finds them. -/
def World.holding (world : World) (kind : ObjectKind) (pc : Pc) : Holding Object where
  issued := world.library.calls.filterMap (Call.issues kind)
  retired := world.library.calls.filterMap (Call.retires kind)
  slots := world.store.slots kind
  carried := pc.carries kind

/-- The request records its object under the invalid handle, and destroys it. -/
def RecordsInvalid (answers : Answers) (store : HandleStore) (kind : ObjectKind) (pc : Pc) :
    Prop :=
  pc.carries kind ≠ none ∧ answers.memory = true ∧ store.nextId = invalidHandle ∧
    (kind = .sprite → answers.spriteFails = false)

/-! ## Slots -/

/-- Nothing but the creation of a canvas and its last destruction touches the pointers. -/
theorem CanvasStep.apply_objects {store : HandleStore} (gone : DestroyedCanvasesGone store)
    {step : CanvasStep}
    (creates : ∀ canvas width height owner, step ≠ .createCanvas canvas width height owner true)
    (frees : ∀ record, ¬ step.Frees store record) :
    (step.apply store).canvases.map CanvasRecord.canvas =
      store.canvases.map CanvasRecord.canvas := by
  refine CanvasStep.apply_field CanvasRecord.canvas creates ?_
  intro record canvas after present change
  have marked := gone canvas (List.mem_of_getElem? present)
  exact (change.object present marked).resolve_right (frees record)

/-- The last destruction of a canvas clears its pointer. -/
theorem CanvasStep.frees_objects {store : HandleStore} {record : CanvasPtr} {step : CanvasStep}
    (frees : step.Frees store record) :
    (step.apply store).canvases.map CanvasRecord.canvas =
      (store.canvases.map CanvasRecord.canvas).set record none := by
  obtain ⟨canvasId, username, canvas, rfl, found, present, last⟩ := frees
  obtain ⟨hit, -, there, -, object, unmarked, -⟩ := canvasFor_some found
  obtain rfl := Option.some.inj (present.symm.trans there)
  have inside : record < store.canvases.length := (List.getElem?_eq_some_iff.mp present).1
  apply List.ext_getElem?
  intro index
  simp only [CanvasStep.apply, handlesDestroyCanvasForUser, handlesGetCanvas_some found,
    List.getElem?_map, canvases_onCanvas, canvases_updateCanvas, List.getElem?_set]
  by_cases same : record = index
  · subst same
    have cleared : ((canvas.connect username).destroyFor username).1.canvas = none := by
      rw [destroyFor_settled ⟨object, unmarked⟩, CanvasRecord.settled, last]
      rfl
    simp only [↓reduceIte, present, Option.map_some, cleared, List.length_map, inside]
  · simp [same]

/-- The operation is about canvases that exist. -/
def StoreOperation.isCalm : StoreOperation → Bool
  | .getCanvas _ _ | .share _ _ _ _ | .barrier _ _ | .disconnect _ => true
  | _ => false

/-- The request neither records an object nor destroys one. -/
def Pc.isCalm : Pc → Bool
  | .addCanvas _ _ _ | .addSprite _ | .addPlacement _ _ _ => false
  | .locking (.destroyCanvas _) | .locking (.destroySprite _) | .locking (.destroyPlacement _) =>
    false
  | _ => true

variable {auth : AuthDb} {answers : Answers} {session : Session} {world : World} {pc : Pc}

/-- The operation of such a request is about canvases that exist. -/
theorem Pc.operation_calm {store : HandleStore} {operation : StoreOperation}
    (calm : pc.isCalm = true) (performs : pc.operation answers session store = some operation) :
    operation.isCalm = true := by
  cases Pc.operation_performs performs with
  | addCanvas | addSprite | addPlacement | destroyCanvas | destroySprite | destroyPlacement =>
    cases calm
  | share | barrier | lookup | disconnect => rfl

/-- A calm operation keeps sprites and placements. -/
theorem StoreOperation.perform_calm {store : HandleStore} {operation : StoreOperation}
    (calm : operation.isCalm = true) :
    (operation.perform store).2.sprites = store.sprites ∧
      (operation.perform store).2.placements = store.placements := by
  obtain ⟨sprites, placements⟩ := StoreOperation.perform_elsewhere store operation
  constructor
  · rcases sprites with kept | ⟨sprite, owner, rfl⟩ | ⟨id, username, failed, rfl⟩
    · exact kept
    · cases calm
    · cases calm
  · rcases placements with kept | ⟨placement, canvasId, spriteId, owner, rfl⟩ | ⟨id, username, rfl⟩
    · exact kept
    · cases calm
    · cases calm

/-- A calm step keeps the pointers of all records. -/
theorem advance_slots_calm (gone : DestroyedCanvasesGone world.store) (calm : pc.isCalm = true)
    (kind : ObjectKind) :
    (advance auth answers session world pc).2.1.store.slots kind = world.store.slots kind := by
  have elsewhere : (advance auth answers session world pc).2.1.store.sprites =
        world.store.sprites ∧
      (advance auth answers session world pc).2.1.store.placements = world.store.placements := by
    rw [advance_operation]
    cases performs : pc.operation answers session world.store with
    | none => exact ⟨rfl, rfl⟩
    | some operation =>
      exact StoreOperation.perform_calm (Pc.operation_calm calm performs)
  cases kind with
  | sprite => exact congrArg (List.map SpriteRecord.sprite) elsewhere.1
  | placement => exact congrArg (List.map PlacementRecord.placement) elsewhere.2
  | canvas =>
    show List.map CanvasRecord.canvas _ = _
    rw [advance_store]
    have step := pc.canvasStep_section answers session world.store
      (advance auth answers session world pc).2.1.store
    apply CanvasStep.apply_objects gone
    · intro canvas width height owner same
      obtain ⟨flying, -⟩ := Pc.canvasStep_create same
      cases pc with
      | addCanvas canvas width height => cases calm
      | _ => cases flying
    · rintro record ⟨canvasId, username, canvas, same, -⟩
      rw [same] at step
      cases step
      cases calm

/-! ## Calls of a calm step -/

/-- The call neither returns an object nor destroys one. -/
def Call.IsNeutral (call : Call) : Prop :=
  ∀ kind, call.issues kind = none ∧ call.retires kind = none

/-- What a calm step does to the library: one call returned an object, which the request now
carries, or no call was about the life of an object. -/
inductive Begets (before : Library) : Library → Pc → Prop where
  /-- Nothing was returned. -/
  | nothing {after : Library} {next : Pc} (made : Option Call)
      (neutral : ∀ call ∈ made, call.IsNeutral)
      (spares : ∀ call ∈ made, call.tries = none)
      (logged : after = { before with calls := made.toList ++ before.calls })
      (idle : ∀ kind, next.carries kind = none) :
    Begets before after next
  /-- An object was returned. -/
  | object {after : Library} {next : Pc} (call : Call) (kind : ObjectKind)
      (logged : after = { next := before.next + 1, calls := call :: before.calls })
      (issues : ∀ other, call.issues other = if other = kind then some before.next else none)
      (retires : ∀ other, call.retires other = none) (spares : call.tries = none)
      (carries : ∀ other, next.carries other = if other = kind then some before.next else none) :
    Begets before after next

/-- A step without a call, to a place without an object. -/
theorem begets_silent (library : Library) {next : Pc} (idle : ∀ kind, next.carries kind = none) :
    Begets library library next :=
  .nothing none (by simp) (by simp) rfl idle

/-- A step with one neutral call. -/
theorem begets_neutral {library : Library} {call : Call} {next : Pc} (neutral : call.IsNeutral)
    (spares : call.tries = none) (idle : ∀ kind, next.carries kind = none) :
    Begets library (library.emit [call]) next :=
  .nothing (some call) (by simpa using neutral) (by simpa using spares) rfl idle

/-- A response carries no object. -/
theorem carries_reply (text : Bytes) (kind : ObjectKind) :
    (answers.reply text).carries kind = none := by
  cases kind <;> rfl

/-- A response that was not preceded by a call. -/
theorem begets_reply (library : Library) (text : Bytes) :
    Begets library library (answers.reply text) :=
  begets_silent library (carries_reply text)

/-- A request that begins may obtain a canvas or a sprite. -/
theorem startRequest_begets (line : Bytes) :
    Begets world.library (startRequest auth answers session world line).2.1.library
      (startRequest auth answers session world line).2.2 := by
  apply startRequest_cases (motive := fun result =>
    Begets world.library result.2.1.library result.2.2)
  · exact fun _ _ => begets_reply world.library _
  · intro arguments _
    obtain ⟨text, answered⟩ := login_reply auth answers session arguments
    rw [answered]
    exact begets_reply world.library text
  · exact fun _ _ => begets_silent world.library fun kind => by cases kind <;> rfl
  · intro name arguments command _ _ _ _ _ _
    cases command with
    | createCanvas height width color =>
      cases created : answers.created with
      | true =>
        simp only [beginCommand, Library.create, created, ↓reduceIte]
        refine .object _ .canvas rfl ?_ ?_ rfl ?_ <;> intro other <;> cases other <;> rfl
      | false =>
        simp only [beginCommand, Library.create, created, Bool.false_eq_true, ↓reduceIte]
        exact begets_neutral (fun kind => by cases kind <;> exact ⟨rfl, rfl⟩) rfl (carries_reply _)
    | createSprite shape =>
      cases created : answers.created with
      | true =>
        simp only [beginCommand, Library.create, created, ↓reduceIte]
        refine .object _ .sprite rfl ?_ ?_ rfl ?_ <;> intro other <;> cases other <;> rfl
      | false =>
        simp only [beginCommand, Library.create, created, Bool.false_eq_true, ↓reduceIte]
        exact begets_neutral (fun kind => by cases kind <;> exact ⟨rfl, rfl⟩) rfl (carries_reply _)
    | store command => exact begets_silent world.library fun kind => by cases kind <;> rfl

/-- An operation that goes on may obtain a placement. -/
theorem resumeAfterWait_begets (resume : Resume) :
    Begets world.library (resumeAfterWait answers world resume).1.library
      (resumeAfterWait answers world resume).2 := by
  cases resume with
  | place canvas sprite canvasId spriteId x y =>
    cases created : answers.created with
    | true =>
      simp only [resumeAfterWait, Library.create, created, ↓reduceIte]
      refine .object _ .placement rfl ?_ ?_ rfl ?_ <;> intro other <;> cases other <;> rfl
    | false =>
      simp only [resumeAfterWait, Library.create, created, Bool.false_eq_true, ↓reduceIte]
      exact begets_neutral (fun kind => by cases kind <;> exact ⟨rfl, rfl⟩) rfl (carries_reply _)
  | move move placement =>
    exact begets_neutral (fun kind => by cases kind <;> exact ⟨rfl, rfl⟩) rfl (carries_reply _)
  | setParams placement vx vy ax ay =>
    exact begets_neutral (fun kind => by cases kind <;> exact ⟨rfl, rfl⟩) rfl (carries_reply _)
  | generate canvas job =>
    have size : (Call.frameSizeBytes (canvasRecordPtr world.store canvas)).IsNeutral :=
      fun kind => by cases kind <;> exact ⟨rfl, rfl⟩
    simp only [resumeAfterWait]
    split
    · split
      · exact begets_neutral size rfl fun kind => by cases kind <;> rfl
      · exact begets_neutral size rfl (carries_reply _)
    · exact begets_neutral size rfl (carries_reply _)

/-- A canvas operation that may have to wait begets at most what it returns. -/
theorem waitThenResume_begets (record : CanvasPtr) (username : Bytes) (resume : Resume) :
    Begets world.library (waitThenResume answers world record username resume).1.library
      (waitThenResume answers world record username resume).2 := by
  unfold waitThenResume
  split
  · exact begets_silent world.library fun kind => by cases kind <;> rfl
  · exact resumeAfterWait_begets resume

/-- An operation on a placement. -/
theorem throughPlacement_begets (username : Bytes) (placement : Nat) (resume : Resume) :
    Begets world.library (throughPlacement answers world username placement resume).1.library
      (throughPlacement answers world username placement resume).2 := by
  unfold throughPlacement
  split
  · rename_i canvas store found
    exact @waitThenResume_begets answers { world with store } canvas username resume
  · rename_i store found
    exact @resumeAfterWait_begets answers { world with store } resume

/-- The first section of a command that destroys nothing. -/
theorem lockedSection_begets {command : StoreCommand} (calm : (Pc.locking command).isCalm = true) :
    Begets world.library (lockedSection answers session world command).1.library
      (lockedSection answers session world command).2 := by
  cases command with
  | destroyCanvas id => cases calm
  | destroySprite id => cases calm
  | destroyPlacement id => cases calm
  | placeSprite canvasId spriteId x y =>
    simp only [lockedSection]
    split
    · rename_i canvas sprite looked held
      exact @waitThenResume_begets answers
        { world with store := (handlesGetCanvas world.store canvasId session.username).2 } canvas
        session.username (.place canvas sprite canvasId spriteId x y)
    · exact begets_reply world.library _
  | movePlacement move id =>
    simp only [lockedSection]
    split
    · exact throughPlacement_begets _ _ _
    · exact begets_reply world.library _
  | setAnimationParams id vx vy ax ay =>
    simp only [lockedSection]
    split
    · exact throughPlacement_begets _ _ _
    · exact begets_reply world.library _
  | shareCanvas canvasId target => exact begets_reply world.library _
  | barrier canvasId =>
    simp only [lockedSection]
    split
    · exact begets_silent world.library fun kind => by cases kind <;> rfl
    · exact begets_reply world.library _
    · exact begets_reply world.library _
    · exact begets_reply world.library _
  | generate job =>
    simp only [lockedSection]
    split
    · rename_i canvas store found
      exact @waitThenResume_begets answers { world with store } canvas _ _
    · exact begets_reply world.library _

/-- A frame. -/
theorem generateFrame_begets (job : GenerateJob) (frame : UInt64) :
    Begets world.library (generateFrame answers session world job frame).1.library
      (generateFrame answers session world job frame).2 := by
  have drawn : ∀ canvas, (Call.generateFrame canvas frame job.frameRate).IsNeutral :=
    fun canvas kind => by cases kind <;> exact ⟨rfl, rfl⟩
  unfold generateFrame
  split
  · dsimp only [finishGenerate]
    split
    · split
      · exact begets_neutral (drawn _) rfl fun kind => by cases kind <;> rfl
      · split <;> exact begets_neutral (drawn _) rfl (carries_reply _)
    · exact begets_neutral (drawn _) rfl (carries_reply _)
  · exact begets_reply world.library _

/-- Every calm step. -/
theorem advance_begets (gone : DestroyedCanvasesGone world.store) (calm : pc.isCalm = true) :
    Begets world.library (advance auth answers session world pc).2.1.library
      (advance auth answers session world pc).2.2 := by
  cases pc with
  | start line => exact startRequest_begets line
  | addCanvas canvas width height => cases calm
  | addSprite sprite => cases calm
  | addPlacement placement canvasId spriteId => cases calm
  | locking command => exact lockedSection_begets calm
  | barrierWait record user =>
    refine begets_silent world.library fun kind => ?_
    simp only [advance]
    split <;> cases kind <;> rfl
  | canvasWait record user resume =>
    simp only [advance]
    split
    · exact begets_silent world.library fun kind => by cases kind <;> rfl
    · exact resumeAfterWait_begets resume
  | frame job frame => exact generateFrame_begets job frame
  | disconnect =>
    simp only [advance]
    split
    · refine .nothing none (by simp) (by simp) ?_ fun kind => by cases kind <;> rfl
      simp [World.apply, Library.emit, handlesDisconnectUser_calls gone]
    · exact begets_reply world.library _
  | endSession => exact begets_reply world.library _
  | finished response => exact begets_silent world.library fun kind => by cases kind <;> rfl

/-! ## Every step is one event -/

/-- Every object that the log issued has been handed out. -/
def IssuedOld (library : Library) : Prop :=
  ∀ kind, ∀ object ∈ library.calls.filterMap (Call.issues kind), object < library.next

/-- A step of a request, as an event of each kind of object. -/
structure CustodyStep (answers : Answers) (before : World) (pc : Pc) (after : World) (next : Pc) :
    Prop where
  /-- The event of a kind: an object is duplicated exactly where it is recorded under the invalid
  handle, and only sprites are lost. -/
  moves : ∀ kind, ∃ event, Move event (before.holding kind pc) (after.holding kind next) ∧
    (event = .duplicate ↔ RecordsInvalid answers before.store kind pc) ∧
    (event = .lose → kind = .sprite)
  /-- At most one call is made, and only what is in a slot or carried is tried to be destroyed. -/
  tries : ∃ made : Option Call,
    after.library.calls = made.toList ++ before.library.calls ∧
    ∀ call ∈ made, ∀ sprite, call.tries = some sprite →
      sprite ∈ (before.store.slots .sprite).reduceOption ∨ pc.carries .sprite = some sprite
  /-- What was issued has been handed out. -/
  old : IssuedOld after.library

/-- Calls about no object change neither what was issued nor what was retired. -/
theorem filterMap_neutral {made : Option Call} {calls : List Call}
    (neutral : ∀ call ∈ made, call.IsNeutral) (kind : ObjectKind) :
    (made.toList ++ calls).filterMap (Call.issues kind) = calls.filterMap (Call.issues kind) ∧
      (made.toList ++ calls).filterMap (Call.retires kind) =
        calls.filterMap (Call.retires kind) := by
  cases made with
  | none => exact ⟨rfl, rfl⟩
  | some call =>
    obtain ⟨issues, retires⟩ := neutral call rfl kind
    exact ⟨List.filterMap_cons_none issues, List.filterMap_cons_none retires⟩

/-- A calm request carries nothing. -/
theorem Pc.carries_calm (calm : pc.isCalm = true) (kind : ObjectKind) : pc.carries kind = none := by
  cases pc with
  | addCanvas canvas width height => cases calm
  | addSprite sprite => cases calm
  | addPlacement placement canvasId spriteId => cases calm
  | _ => cases kind <;> rfl

/-- A request that carries nothing records nothing under the invalid handle. -/
theorem not_recordsInvalid {store : HandleStore} (empty : ∀ kind, pc.carries kind = none)
    (kind : ObjectKind) : ¬ RecordsInvalid answers store kind pc :=
  fun invalid => invalid.1 (empty kind)

/-- Neutral calls keep what was issued handed out. -/
theorem IssuedOld.neutral {before after : Library} (old : IssuedOld before) {made : Option Call}
    (neutral : ∀ call ∈ made, call.IsNeutral)
    (logged : after = { before with calls := made.toList ++ before.calls }) : IssuedOld after := by
  intro kind
  rw [logged, (filterMap_neutral neutral kind).1]
  exact old kind

section Events

variable {after : World} {next : Pc}

/-- A step without any change of custody. -/
theorem custodyStep_rest (old : IssuedOld world.library) {made : Option Call}
    (neutral : ∀ call ∈ made, call.IsNeutral)
    (tries : ∀ call ∈ made, ∀ sprite, call.tries = some sprite →
      sprite ∈ (world.store.slots .sprite).reduceOption)
    (logged : after.library = { world.library with calls := made.toList ++ world.library.calls })
    (slots : ∀ kind, after.store.slots kind = world.store.slots kind)
    (empty : ∀ kind, pc.carries kind = none) (idle : ∀ kind, next.carries kind = none) :
    CustodyStep answers world pc after next where
  moves := by
    intro kind
    refine ⟨.rest, ?_, iff_of_false (by simp) (not_recordsInvalid empty kind), by simp⟩
    obtain ⟨issued, retired⟩ := @filterMap_neutral made world.library.calls neutral kind
    simp only [World.holding, logged, issued, retired, slots kind, idle kind, empty kind]
    exact .rest
  tries := ⟨made, by rw [logged], fun call inside sprite tried =>
    .inl (tries call inside sprite tried)⟩
  old := old.neutral neutral logged

/-- A step that retires the object of a record. -/
theorem custodyStep_release (old : IssuedOld world.library) {call : Call} {kind : ObjectKind}
    {object : Object} {slot : Nat}
    (logged : after.library = { world.library with calls := call :: world.library.calls })
    (issues : ∀ other, call.issues other = none)
    (retires : ∀ other, call.retires other = if other = kind then some object else none)
    (tries : ∀ sprite, call.tries = some sprite → kind = .sprite ∧ sprite = object)
    (held : (world.store.slots kind)[slot]? = some (some object))
    (slots : ∀ other, after.store.slots other =
      if other = kind then (world.store.slots other).set slot none else world.store.slots other)
    (empty : ∀ kind, pc.carries kind = none) (idle : ∀ kind, next.carries kind = none) :
    CustodyStep answers world pc after next where
  moves := by
    intro other
    by_cases same : other = kind
    · subst same
      refine ⟨.release, ?_, iff_of_false (by simp) (not_recordsInvalid empty other), by simp⟩
      simp only [World.holding, logged, List.filterMap_cons, issues, retires, slots, idle, empty,
        ↓reduceIte]
      exact .release held
    · refine ⟨.rest, ?_, iff_of_false (by simp) (not_recordsInvalid empty other), by simp⟩
      simp only [World.holding, logged, List.filterMap_cons, issues, retires, slots, idle, empty,
        if_neg same]
      exact .rest
  tries := by
    refine ⟨some call, by rw [logged]; rfl, ?_⟩
    intro made inside sprite tried
    obtain rfl := Option.some.inj inside
    obtain ⟨rfl, rfl⟩ := tries sprite tried
    exact .inl (List.reduceOption_mem_iff.mpr (List.mem_of_getElem? held))
  old := by
    intro other object inside
    rw [logged] at inside ⊢
    simp only [List.filterMap_cons, issues] at inside
    exact old other object inside

/-- The error exit of an addition destroys the object, unless it is a sprite whose destruction
fails. -/
def Undoes (answers : Answers) (undo : Call) (kind : ObjectKind) (object : Object) : Prop :=
  (∀ other, undo.issues other = none) ∧ (∀ other, undo.retires other =
    if other = kind ∧ (kind = .sprite → answers.spriteFails = false) then some object else none) ∧
    ∀ sprite, undo.tries = some sprite → kind = .sprite ∧ sprite = object

/-- A step that records an object, or destroys it. -/
theorem custodyStep_added (old : IssuedOld world.library) {kind : ObjectKind} {object : Object}
    {store : HandleStore} {id : UInt64} {undo : Call}
    (carried : ∀ other, pc.carries other = if other = kind then some object else none)
    (undoes : Undoes answers undo kind object)
    (refused : answers.memory = false → id = invalidHandle ∧
      ∀ other, store.slots other = world.store.slots other)
    (added : answers.memory = true → id = world.store.nextId ∧ ∀ other, store.slots other =
      if other = kind then world.store.slots other ++ [some object] else world.store.slots other) :
    CustodyStep answers world pc (answerHandle answers { world with store } id undo).1
      (answerHandle answers { world with store } id undo).2 := by
  obtain ⟨issues, retires, tries⟩ := undoes
  have tried : ∀ call ∈ some undo, ∀ sprite, call.tries = some sprite →
      sprite ∈ (world.store.slots .sprite).reduceOption ∨ pc.carries .sprite = some sprite := by
    intro call inside sprite attempt
    obtain rfl := Option.some.inj inside
    obtain ⟨rfl, rfl⟩ := tries sprite attempt
    exact .inr (by rw [carried, if_pos rfl])
  have undone : IssuedOld (world.library.emit [undo]) := by
    intro other object inside
    simp only [Library.emit, List.reverse_singleton, List.singleton_append, List.filterMap_cons,
      issues] at inside
    exact old other object inside
  cases memory : answers.memory with
  | false =>
    obtain ⟨invalid, slots⟩ := refused memory
    have stays : ∀ other, ¬ RecordsInvalid answers world.store other pc := by
      rintro other ⟨-, available, -⟩
      rw [memory] at available
      cases available
    rw [answerHandle, if_pos invalid]
    refine ⟨fun other => ?_, ⟨some undo, rfl, tried⟩, undone⟩
    by_cases same : other = kind
    · subst same
      by_cases fails : other = .sprite → answers.spriteFails = false
      · refine ⟨.discard, ?_, iff_of_false (by simp) (stays other), by simp⟩
        simp only [World.holding, World.apply, Library.emit, List.reverse_singleton,
          List.singleton_append, List.filterMap_cons, issues, retires, carried, slots,
          carries_reply, ↓reduceIte, if_pos fails, true_and]
        exact .discard
      · refine ⟨.lose, ?_, iff_of_false (by simp) (stays other), fun _ => ?_⟩
        · simp only [World.holding, World.apply, Library.emit, List.reverse_singleton,
            List.singleton_append, List.filterMap_cons, issues, retires, carried, slots,
            carries_reply, ↓reduceIte, if_neg fails, true_and]
          exact .lose
        · exact (Classical.not_imp.mp fails).1
    · refine ⟨.rest, ?_, iff_of_false (by simp) (stays other), by simp⟩
      simp only [World.holding, World.apply, Library.emit, List.reverse_singleton,
        List.singleton_append, List.filterMap_cons, issues, retires, carried, slots,
        carries_reply, same, false_and, ↓reduceIte]
      exact .rest
  | true =>
    obtain ⟨handle, slots⟩ := added memory
    by_cases invalid : id = invalidHandle
    · rw [answerHandle, if_pos invalid]
      have wrapped : world.store.nextId = invalidHandle := handle.symm.trans invalid
      refine ⟨fun other => ?_, ⟨some undo, rfl, tried⟩, undone⟩
      by_cases same : other = kind
      · subst same
        by_cases fails : other = .sprite → answers.spriteFails = false
        · refine ⟨.duplicate, ?_, iff_of_true rfl ⟨?_, memory, wrapped, fails⟩, by simp⟩
          · simp only [World.holding, World.apply, Library.emit, List.reverse_singleton,
              List.singleton_append, List.filterMap_cons, issues, retires, carried, slots,
              carries_reply, ↓reduceIte, if_pos fails, true_and]
            exact .duplicate
          · rw [carried, if_pos rfl]
            exact Option.some_ne_none object
        · refine ⟨.store, ?_, iff_of_false (by simp) fun duplicates => fails duplicates.2.2.2, by simp⟩
          simp only [World.holding, World.apply, Library.emit, List.reverse_singleton,
            List.singleton_append, List.filterMap_cons, issues, retires, carried, slots,
            carries_reply, ↓reduceIte, if_neg fails, true_and]
          exact .store
      · refine ⟨.rest, ?_, iff_of_false (by simp) fun duplicates => ?_, by simp⟩
        · simp only [World.holding, World.apply, Library.emit, List.reverse_singleton,
            List.singleton_append, List.filterMap_cons, issues, retires, carried, slots,
            carries_reply, same, false_and, ↓reduceIte]
          exact .rest
        · exact duplicates.1 (by rw [carried, if_neg same])
    · rw [answerHandle, if_neg invalid]
      refine ⟨fun other => ?_, ⟨none, rfl, by simp⟩, old⟩
      have stays : ¬ RecordsInvalid answers world.store other pc :=
        fun duplicates => invalid (handle.trans duplicates.2.2.1)
      by_cases same : other = kind
      · subst same
        refine ⟨.store, ?_, iff_of_false (by simp) stays, by simp⟩
        simp only [World.holding, carried, slots, carries_reply, ↓reduceIte]
        exact .store
      · refine ⟨.rest, ?_, iff_of_false (by simp) stays, by simp⟩
        simp only [World.holding, carried, slots, carries_reply, if_neg same]
        exact .rest

end Events

/-- A calm step issues an object or rests. -/
theorem custodyStep_calm (gone : DestroyedCanvasesGone world.store) (old : IssuedOld world.library)
    (calm : pc.isCalm = true) :
    CustodyStep answers world pc (advance auth answers session world pc).2.1
      (advance auth answers session world pc).2.2 := by
  have slots : ∀ kind, (advance auth answers session world pc).2.1.store.slots kind =
      world.store.slots kind := advance_slots_calm gone calm
  have begets : Begets world.library (advance auth answers session world pc).2.1.library
      (advance auth answers session world pc).2.2 := advance_begets gone calm
  generalize (advance auth answers session world pc).2 = result at slots begets ⊢
  obtain ⟨after, next⟩ := result
  dsimp only at slots begets
  have empty := Pc.carries_calm calm
  cases begets with
  | nothing made neutral spares logged idle =>
    refine custodyStep_rest old neutral ?_ logged slots empty idle
    intro call inside sprite tried
    rw [spares call inside] at tried
    cases tried
  | object call kind logged issues retires spares carries =>
    constructor
    · intro other
      by_cases same : other = kind
      · subst same
        refine ⟨.issue, ?_, iff_of_false (by simp) (not_recordsInvalid empty other), by simp⟩
        have fresh : world.library.next ∉
            world.library.calls.filterMap (Call.issues other) :=
          fun inside => absurd (old other _ inside) (lt_irrefl _)
        simp only [World.holding, logged, List.filterMap_cons, issues, retires, carries, slots other,
          empty other, ↓reduceIte]
        exact .issue fresh
      · refine ⟨.rest, ?_, iff_of_false (by simp) (not_recordsInvalid empty other), by simp⟩
        simp only [World.holding, logged, List.filterMap_cons, issues, retires, carries, slots other,
          empty other, if_neg same]
        exact .rest
    · refine ⟨some call, by rw [logged]; rfl, ?_⟩
      intro made inside sprite tried
      obtain rfl := Option.some.inj inside
      rw [spares] at tried
      cases tried
    · intro other object inside
      simp only [logged, List.filterMap_cons, issues] at inside ⊢
      by_cases same : other = kind
      · rw [if_pos same] at inside
        rcases List.mem_cons.mp inside with rfl | before
        · exact Nat.lt_succ_self _
        · exact Nat.lt_succ_of_lt (old other object before)
      · rw [if_neg same] at inside
        exact Nat.lt_succ_of_lt (old other object inside)

/-! ## The steps that record or destroy an object -/

/-- Clearing the pointer of a record clears its slot. -/
theorem map_modify_eq_set {Record Slot : Type} {pointer : Record → Slot} {clear : Record → Record}
    (records : List Record) (index : Nat) {cleared : Slot}
    (clears : ∀ record, pointer (clear record) = cleared) :
    (records.modify index clear).map pointer = (records.map pointer).set index cleared := by
  apply List.ext_getElem?
  intro other
  by_cases same : index = other
  · subst same
    cases present : records[index]? with
    | none =>
      have beyond := List.getElem?_eq_none_iff.mp present
      simp [Nat.not_lt.mpr beyond]
    | some record =>
      have inside := (List.getElem?_eq_some_iff.mp present).1
      simp [clears, inside]
  · simp [same]

/-- A canvas is recorded, or destroyed. -/
theorem addCanvas_custody (old : IssuedOld world.library) (canvas : Object)
    (width height : UInt64) :
    CustodyStep answers world (.addCanvas canvas width height)
      (advance auth answers session world (.addCanvas canvas width height)).2.1
      (advance auth answers session world (.addCanvas canvas width height)).2.2 := by
  have carried : ∀ other, (Pc.addCanvas canvas width height).carries other =
      if other = .canvas then some canvas else none := fun other => by cases other <;> rfl
  have undoes : Undoes answers (.destroyCanvas canvas) .canvas canvas := by
    refine ⟨fun other => by cases other <;> rfl, fun other => ?_, by simp [Call.tries]⟩
    cases other <;> simp [Call.retires]
  simp only [advance]
  apply custodyStep_added old carried undoes
  · intro refused
    rw [refused]
    exact ⟨rfl, fun other => rfl⟩
  · intro available
    rw [available]
    refine ⟨rfl, fun other => ?_⟩
    cases other <;> simp [handlesAddCanvas, HandleStore.slots]

/-- A sprite is recorded, or destroyed. -/
theorem addSprite_custody (old : IssuedOld world.library) (sprite : Object) :
    CustodyStep answers world (.addSprite sprite)
      (advance auth answers session world (.addSprite sprite)).2.1
      (advance auth answers session world (.addSprite sprite)).2.2 := by
  have carried : ∀ other, (Pc.addSprite sprite).carries other =
      if other = .sprite then some sprite else none := fun other => by cases other <;> rfl
  have undoes : Undoes answers (.destroySprite sprite answers.spriteFails) .sprite sprite := by
    refine ⟨fun other => by cases other <;> rfl, fun other => ?_,
      fun other tried => ⟨rfl, (Option.some.inj tried).symm⟩⟩
    cases fails : answers.spriteFails <;> cases other <;> simp [Call.retires]
  simp only [advance]
  apply custodyStep_added old carried undoes
  · intro refused
    rw [refused]
    exact ⟨rfl, fun other => rfl⟩
  · intro available
    rw [available]
    refine ⟨rfl, fun other => ?_⟩
    cases other <;> simp [handlesAddSprite, HandleStore.slots]

/-- A placement is recorded, or destroyed. -/
theorem addPlacement_custody (old : IssuedOld world.library) (placement : Object)
    (canvasId spriteId : UInt64) :
    CustodyStep answers world (.addPlacement placement canvasId spriteId)
      (advance auth answers session world (.addPlacement placement canvasId spriteId)).2.1
      (advance auth answers session world (.addPlacement placement canvasId spriteId)).2.2 := by
  have carried : ∀ other, (Pc.addPlacement placement canvasId spriteId).carries other =
      if other = .placement then some placement else none := fun other => by cases other <;> rfl
  have undoes : Undoes answers (.destroyPlacement placement) .placement placement := by
    refine ⟨fun other => by cases other <;> rfl, fun other => ?_, by simp [Call.tries]⟩
    cases other <;> simp [Call.retires]
  simp only [advance]
  apply custodyStep_added old carried undoes
  · intro refused
    rw [refused]
    exact ⟨rfl, fun other => rfl⟩
  · intro available
    rw [available]
    refine ⟨rfl, fun other => ?_⟩
    cases other <;> simp [handlesAddPlacement, HandleStore.slots]

/-- The canvas goes with its last connected member. -/
theorem destroyCanvas_custody (gone : DestroyedCanvasesGone world.store)
    (old : IssuedOld world.library) (id : UInt64) :
    CustodyStep answers world (.locking (.destroyCanvas id))
      (lockedSection answers session world (.destroyCanvas id)).1
      (lockedSection answers session world (.destroyCanvas id)).2 := by
  have empty : ∀ kind, (Pc.locking (.destroyCanvas id)).carries kind = none :=
    fun kind => by cases kind <;> rfl
  obtain ⟨sprites, placements⟩ :=
    StoreOperation.perform_elsewhere world.store (.destroyCanvas id session.username)
  have sprites := sprites.resolve_right (by simp)
  have placements := placements.resolve_right (by simp)
  have unfreed : (∀ object, ¬ LastLeaves world.store id session.username object) →
      ∀ record, ¬ (CanvasStep.destroyCanvas id session.username).Frees world.store record := by
    rintro nobody record ⟨_, _, canvas, ⟨rfl, rfl⟩, found, present, last⟩
    obtain ⟨hit, -, there, -, alive, -⟩ := canvasFor_some found
    obtain rfl := Option.some.inj (present.symm.trans there)
    obtain ⟨object, alive⟩ := Option.isSome_iff_exists.mp alive
    exact nobody object ⟨record, canvas, found, present, alive, last⟩
  rcases handlesDestroyCanvasForUser_calls world.store id session.username with
    ⟨object, last, calls⟩ | ⟨nobody, calls⟩
  · obtain ⟨record, canvas, found, present, alive, alone⟩ := last
    have cleared := CanvasStep.frees_objects
      ⟨id, session.username, canvas, rfl, found, present, alone⟩
    refine @custodyStep_release answers world _ _ _ old (.destroyCanvas object) .canvas object record
      ?_ (fun other => by cases other <;> rfl) (fun other => by cases other <;> rfl)
      (by simp [Call.tries]) ?_ ?_ empty (carries_reply _)
    · simp [lockedSection, World.apply, Library.emit, calls]
    · simp [HandleStore.slots, present, alive]
    · intro other
      cases other with
      | canvas => exact cleared
      | sprite => exact congrArg (List.map SpriteRecord.sprite) sprites
      | placement => exact congrArg (List.map PlacementRecord.placement) placements
  · have kept := @CanvasStep.apply_objects world.store gone (.destroyCanvas id session.username)
      (by simp) (unfreed nobody)
    refine @custodyStep_rest answers world _ _ _ old none (by simp) (by simp) ?_ ?_ empty (carries_reply _)
    · simp [lockedSection, World.apply, Library.emit, calls]
    · intro other
      cases other with
      | canvas => exact kept
      | sprite => exact congrArg (List.map SpriteRecord.sprite) sprites
      | placement => exact congrArg (List.map PlacementRecord.placement) placements

/-- The sprite goes unless the library reports a failure. -/
theorem destroySprite_custody (old : IssuedOld world.library) (id : UInt64) :
    CustodyStep answers world (.locking (.destroySprite id))
      (lockedSection answers session world (.destroySprite id)).1
      (lockedSection answers session world (.destroySprite id)).2 := by
  have empty : ∀ kind, (Pc.locking (.destroySprite id)).carries kind = none :=
    fun kind => by cases kind <;> rfl
  cases found : handlesGetSprite world.store id session.username with
  | none =>
    refine @custodyStep_rest answers world _ _ _ old none (by simp) (by simp) ?_ ?_ empty (carries_reply _)
    · simp [lockedSection, World.apply, handlesDestroySprite, found, Library.emit]
    · intro kind
      simp [lockedSection, World.apply, handlesDestroySprite, found]
  | some record =>
    obtain ⟨sprite, present, -, object, -⟩ := handlesGetSprite_some found
    obtain ⟨object, alive⟩ := Option.isSome_iff_exists.mp object
    have pointer : spriteRecordPtr world.store record = some object := by
      rw [spriteRecordPtr, present]
      exact alive
    have slot : (world.store.slots .sprite)[record]? = some (some object) := by
      simp [HandleStore.slots, present, alive]
    cases fails : answers.spriteFails with
    | true =>
      refine @custodyStep_rest answers world _ _ _ old (some (.destroySprite object true)) ?_ ?_ ?_
        ?_ empty (carries_reply _)
      · intro call inside
        obtain rfl := Option.some.inj inside
        exact fun kind => by cases kind <;> exact ⟨rfl, rfl⟩
      · intro call inside sprite tried
        obtain rfl := Option.some.inj inside
        obtain rfl := Option.some.inj tried
        exact List.reduceOption_mem_iff.mpr (List.mem_of_getElem? slot)
      · simp [lockedSection, World.apply, handlesDestroySprite, found, pointer, fails, Library.emit]
      · intro kind
        simp [lockedSection, World.apply, handlesDestroySprite, found, pointer, fails]
    | false =>
      refine @custodyStep_release answers world _ _ _ old (.destroySprite object false) .sprite object
        record ?_ (fun other => by cases other <;> rfl) (fun other => by cases other <;> rfl) ?_ slot
        ?_ empty (carries_reply _)
      · simp [lockedSection, World.apply, handlesDestroySprite, found, pointer, fails, Library.emit]
      · exact fun sprite tried => ⟨rfl, (Option.some.inj tried).symm⟩
      · intro other
        cases other with
        | sprite =>
          simp only [lockedSection, World.apply, handlesDestroySprite, found, pointer, fails,
            HandleStore.slots, ↓reduceIte]
          exact map_modify_eq_set _ _ fun _ => rfl
        | canvas =>
          simp [lockedSection, World.apply, handlesDestroySprite, found, pointer, fails,
            HandleStore.slots]
        | placement =>
          simp [lockedSection, World.apply, handlesDestroySprite, found, pointer, fails,
            HandleStore.slots]

/-- The placement goes. -/
theorem destroyPlacement_custody (old : IssuedOld world.library) (id : UInt64) :
    CustodyStep answers world (.locking (.destroyPlacement id))
      (lockedSection answers session world (.destroyPlacement id)).1
      (lockedSection answers session world (.destroyPlacement id)).2 := by
  have empty : ∀ kind, (Pc.locking (.destroyPlacement id)).carries kind = none :=
    fun kind => by cases kind <;> rfl
  cases found : handlesGetPlacement world.store id session.username with
  | none =>
    refine @custodyStep_rest answers world _ _ _ old none (by simp) (by simp) ?_ ?_ empty (carries_reply _)
    · simp [lockedSection, World.apply, handlesDestroyPlacement, found, Library.emit]
    · intro kind
      simp [lockedSection, World.apply, handlesDestroyPlacement, found]
  | some record =>
    obtain ⟨placement, present, -, object, -⟩ := handlesGetPlacement_some found
    obtain ⟨object, alive⟩ := Option.isSome_iff_exists.mp object
    have pointer : placementRecordPtr world.store record = some object := by
      rw [placementRecordPtr, present]
      exact alive
    refine @custodyStep_release answers world _ _ _ old (.destroyPlacement object) .placement object
      record ?_ (fun other => by cases other <;> rfl) (fun other => by cases other <;> rfl)
      (by simp [Call.tries]) ?_
      ?_ empty (carries_reply _)
    · simp [lockedSection, World.apply, handlesDestroyPlacement, found, pointer, Library.emit]
    · simp [HandleStore.slots, present, alive]
    · intro other
      cases other with
      | placement =>
        simp only [lockedSection, World.apply, handlesDestroyPlacement, found, HandleStore.slots,
          ↓reduceIte]
        exact map_modify_eq_set _ _ fun _ => rfl
      | canvas => simp [lockedSection, World.apply, handlesDestroyPlacement, found, HandleStore.slots]
      | sprite => simp [lockedSection, World.apply, handlesDestroyPlacement, found, HandleStore.slots]

/-- Every step of a request is one event of each kind of object. -/
theorem advance_custody (gone : DestroyedCanvasesGone world.store) (old : IssuedOld world.library)
    (pc : Pc) :
    CustodyStep answers world pc (advance auth answers session world pc).2.1
      (advance auth answers session world pc).2.2 := by
  cases pc with
  | addCanvas canvas width height => exact addCanvas_custody old canvas width height
  | addSprite sprite => exact addSprite_custody old sprite
  | addPlacement placement canvasId spriteId =>
    exact addPlacement_custody old placement canvasId spriteId
  | locking command =>
    cases command with
    | destroyCanvas id => exact destroyCanvas_custody gone old id
    | destroySprite id => exact destroySprite_custody old id
    | destroyPlacement id => exact destroyPlacement_custody old id
    | _ => exact custodyStep_calm gone old rfl
  | _ => exact custodyStep_calm gone old rfl

end AnimateService
