import AnimateService.ObjectCustody

/-!
# Requests that use a canvas

A library call uses a canvas if it places a sprite on it, works on a placement that lies on it or
renders a frame of it. Most requests come to such a call after `canvas_record_wait_for_barrier`.
Three ways lead past it: `handles_destroy_placement`, the frame loop of `handle_generate`, which
looks its canvas up for every frame, and the error exit of `place_sprite`, which destroys the
placement again. `advance_logs` says that there are no others.
-/
namespace AnimateService

open Transition

/-! ## Calls on a canvas -/

/-- A call changes or renders the contents of a canvas; earlier calls tell where placements lie. -/
inductive Call.Touches (calls : List Call) (canvas : Object) : Call → Prop where
  /-- A sprite is placed on the canvas. -/
  | place (sprite : Option Object) (x y : Int) (result : Option Object) :
    Touches calls canvas (.placeSprite (some canvas) sprite x y result)
  /-- A frame of the canvas is rendered. -/
  | frame (frame frameRate : UInt64) : Touches calls canvas (.generateFrame (some canvas) frame frameRate)
  /-- A placement on the canvas is moved, animated or destroyed. -/
  | placement {call : Call} {placement : Object} (works : call.placement? = some placement)
      (placed : PlacedOn calls placement canvas) : Touches calls canvas call

/-- The placement of a record lies on a canvas. -/
def World.LiesOn (world : World) (record : Nat) (canvas : Object) : Prop :=
  ∃ placement, placementRecordPtr world.store record = some placement ∧
    PlacedOn world.library.calls placement canvas

/-- The rest of a canvas operation uses a canvas. -/
inductive Resume.Uses (world : World) (canvas : Object) : Resume → Prop where
  /-- A sprite is placed on it. -/
  | place {record : CanvasPtr} {sprite : Nat} {canvasId spriteId : UInt64} {x y : Int}
      (pointer : canvasRecordPtr world.store record = some canvas) :
    Uses world canvas (.place record sprite canvasId spriteId x y)
  /-- A placement on it is moved. -/
  | move {move : PlacementMove} {placement : Nat} (lies : world.LiesOn placement canvas) :
    Uses world canvas (.move move placement)
  /-- A placement on it is animated. -/
  | setParams {placement : Nat} {vx vy ax ay : Int} (lies : world.LiesOn placement canvas) :
    Uses world canvas (.setParams placement vx vy ax ay)

/-- A step uses a canvas on a way that does not lead through
`canvas_record_wait_for_barrier`. -/
inductive Pc.UsesPast (answers : Answers) (username : Bytes) (world : World) (canvas : Object) :
    Pc → Prop where
  /-- A placement on it is destroyed. -/
  | destroyPlacement {id : UInt64} {placement : Nat}
      (found : handlesGetPlacement world.store id username = some placement)
      (lies : world.LiesOn placement canvas) :
    UsesPast answers username world canvas (.locking (.destroyPlacement id))
  /-- A placement on it gets no handle. -/
  | addPlacement {placement : Object} {canvasId spriteId : UInt64}
      (refused : answers.memory = false ∨ world.store.nextId = invalidHandle)
      (placed : PlacedOn world.library.calls placement canvas) :
    UsesPast answers username world canvas (.addPlacement placement canvasId spriteId)
  /-- A frame of it is rendered. -/
  | frame {job : GenerateJob} {frame : UInt64} {record : CanvasPtr}
      (found : canvasFor world.store job.canvasId username = some record)
      (pointer : canvasRecordPtr world.store record = some canvas) :
    UsesPast answers username world canvas (.frame job frame)

/-- A canvas operation can go on from here. -/
def Pc.operates : Pc → Bool
  | .locking _ | .canvasWait _ _ _ => true
  | _ => false

/-- A way past the wait leads through here. -/
def Pc.leadsPast : Pc → Bool
  | .locking (.destroyPlacement _) | .addPlacement _ _ _ | .frame _ _ => true
  | _ => false

/-- A step uses a canvas: past the wait for its barrier, or behind it. -/
def Pc.UsesCanvas (answers : Answers) (username : Bytes) (world : World) (pc : Pc)
    (canvas : Object) : Prop :=
  pc.UsesPast answers username world canvas ∨
    ∃ resume, GoesOn username world.store pc resume ∧ resume.Uses world canvas

/-- A log grows by at most one call, which touches the canvases that are used. -/
def Logs (before after : List Call) (uses : Object → Prop) : Prop :=
  ∃ made : Option Call, after = made.toList ++ before ∧
    ∀ canvas, (∃ call, made = some call ∧ call.Touches before canvas) ↔ uses canvas

/-! ## What a call touches -/

section Logs

variable {before after calls : List Call} {uses : Object → Prop} {canvas : Object}

/-- A log that stays as it is uses nothing. -/
theorem logs_nothing (same : after = before) (unused : ∀ canvas, ¬ uses canvas) :
    Logs before after uses :=
  ⟨none, same, fun canvas => iff_of_false (by simp) (unused canvas)⟩

/-- One call is logged. -/
theorem logs_call {call : Call} (logged : after = call :: before)
    (touches : ∀ canvas, call.Touches before canvas ↔ uses canvas) : Logs before after uses :=
  ⟨some call, logged, fun canvas => by simpa using touches canvas⟩

/-- One call is logged that touches nothing. -/
theorem logs_apart {call : Call} (logged : after = call :: before)
    (apart : ∀ canvas, ¬ call.Touches before canvas) (unused : ∀ canvas, ¬ uses canvas) :
    Logs before after uses :=
  logs_call logged fun canvas => iff_of_false (apart canvas) (unused canvas)

/-- A sprite is placed on one canvas. -/
theorem touches_placeSprite {target sprite result : Option Object} {x y : Int} :
    (Call.placeSprite target sprite x y result).Touches calls canvas ↔ target = some canvas := by
  constructor
  · intro touches
    cases touches with
    | place => rfl
    | placement works placed => cases works
  · rintro rfl
    exact .place sprite x y result

/-- A frame is rendered of one canvas. -/
theorem touches_generateFrame {target : Option Object} {frame frameRate : UInt64} :
    (Call.generateFrame target frame frameRate).Touches calls canvas ↔ target = some canvas := by
  constructor
  · intro touches
    cases touches with
    | frame => rfl
    | placement works placed => cases works
  · rintro rfl
    exact .frame frame frameRate

/-- A call on a placement touches the canvas that it lies on. -/
theorem touches_placement {call : Call} {placement : Option Object}
    (works : call.placement? = placement)
    (others : ∀ target sprite x y result, call ≠ .placeSprite target sprite x y result)
    (still : ∀ target frame frameRate, call ≠ .generateFrame target frame frameRate) :
    call.Touches calls canvas ↔ ∃ object, placement = some object ∧ PlacedOn calls object canvas := by
  constructor
  · intro touches
    cases touches with
    | place sprite x y result => exact absurd rfl (others _ _ _ _ _)
    | frame frame frameRate => exact absurd rfl (still _ _ _)
    | placement hit placed => exact ⟨_, works.symm.trans hit, placed⟩
  · rintro ⟨object, found, placed⟩
    exact .placement (works.trans found) placed

/-- A call of another kind touches nothing. -/
theorem not_touches {call : Call} (idle : call.placement? = none)
    (others : ∀ target sprite x y result, call ≠ .placeSprite target sprite x y result)
    (still : ∀ target frame frameRate, call ≠ .generateFrame target frame frameRate) :
    ¬ call.Touches calls canvas := by
  rw [touches_placement idle others still]
  rintro ⟨object, impossible, -⟩
  cases impossible

end Logs

/-! ## What a step touches -/

section Steps

variable {auth : AuthDb} {answers : Answers} {session : Session} {world : World} {pc : Pc}
  {username : Bytes}

/-- The rest of a canvas operation touches what it uses. The lookups that came before it in the same
section have left the library and the pointers of the records alone. -/
theorem resumeAfterWait_logs {later : World} (library : later.library = world.library)
    (canvases : ∀ record, canvasRecordPtr later.store record = canvasRecordPtr world.store record)
    (placements : ∀ record,
      placementRecordPtr later.store record = placementRecordPtr world.store record)
    (resume : Resume) :
    Logs world.library.calls (resumeAfterWait answers later resume).1.library.calls
      fun canvas => resume.Uses world canvas := by
  cases resume with
  | place record sprite canvasId spriteId x y =>
    have uses : ∀ canvas, canvasRecordPtr later.store record = some canvas ↔
        (Resume.place record sprite canvasId spriteId x y).Uses world canvas := by
      intro canvas
      rw [canvases]
      constructor
      · exact .place
      · intro used
        cases used with
        | place pointer => exact pointer
    cases created : answers.created with
    | false =>
      simp only [resumeAfterWait, created, Library.create, library]
      exact logs_call rfl fun canvas => touches_placeSprite.trans (uses canvas)
    | true =>
      simp only [resumeAfterWait, created, Library.create, library, ↓reduceIte]
      exact logs_call rfl fun canvas => touches_placeSprite.trans (uses canvas)
  | move move placement =>
    simp only [resumeAfterWait, World.apply, Library.emit, library, placements]
    refine logs_call rfl fun canvas => (touches_placement rfl (by simp) (by simp)).trans ⟨.move, ?_⟩
    intro used
    cases used with
    | move lies => exact lies
  | setParams placement vx vy ax ay =>
    simp only [resumeAfterWait, World.apply, Library.emit, library, placements]
    refine logs_call rfl fun canvas => (touches_placement rfl (by simp) (by simp)).trans ⟨.setParams, ?_⟩
    intro used
    cases used with
    | setParams lies => exact lies
  | generate record job =>
    have logged : (resumeAfterWait answers later (.generate record job)).1.library.calls =
        .frameSizeBytes (canvasRecordPtr later.store record) :: world.library.calls := by
      rw [← library]
      unfold resumeAfterWait
      cases answers.buffers <;> cases answers.opened <;> rfl
    refine logs_apart logged (fun canvas => not_touches rfl (by simp) (by simp)) ?_
    intro canvas used
    cases used

/-- An operation goes on with what it has looked up. -/
theorem GoesOn.unique {store : HandleStore} {resume other : Resume}
    (goesOn : GoesOn username store pc resume) (again : GoesOn username store pc other) :
    resume = other := by
  cases goesOn with
  | waited passed =>
    cases again
    rfl
  | place found held free =>
    cases again with
    | place hit kept open_ =>
      rw [Option.some.inj (found.symm.trans hit), Option.some.inj (held.symm.trans kept)]
  | move held free =>
    cases again with
    | move kept open_ => rw [Option.some.inj (held.symm.trans kept)]
  | setParams held free =>
    cases again with
    | setParams kept open_ => rw [Option.some.inj (held.symm.trans kept)]
  | generate found free =>
    cases again with
    | generate hit open_ => rw [Option.some.inj (found.symm.trans hit)]

/-- An operation that goes on neither records nor destroys an object. -/
theorem GoesOn.calm {store : HandleStore} {resume : Resume}
    (goesOn : GoesOn username store pc resume) : pc.isCalm = true := by
  cases goesOn <;> rfl

/-- An operation that goes on has come to its wait. -/
theorem GoesOn.not_past {resume : Resume} {canvas : Object}
    (goesOn : GoesOn username world.store pc resume) :
    ¬ pc.UsesPast answers username world canvas := by
  intro past
  cases goesOn <;> cases past

/-- The pointer of a canvas record is its slot. -/
theorem canvasRecordPtr_slots (store : HandleStore) (record : CanvasPtr) :
    canvasRecordPtr store record = ((store.slots .canvas)[record]?).join := by
  simp only [canvasRecordPtr, HandleStore.slots, List.getElem?_map]
  cases store.canvases[record]? <;> rfl

/-- The pointer of a placement record is its slot. -/
theorem placementRecordPtr_slots (store : HandleStore) (record : Nat) :
    placementRecordPtr store record = ((store.slots .placement)[record]?).join := by
  simp only [placementRecordPtr, HandleStore.slots, List.getElem?_map]
  cases store.placements[record]? <;> rfl

/-- A step in which an operation goes on touches what the operation uses. -/
theorem goesOn_logs {resume : Resume} (gone : DestroyedCanvasesGone world.store)
    (goesOn : GoesOn session.username world.store pc resume) :
    Logs world.library.calls (advance auth answers session world pc).2.1.library.calls
      (pc.UsesCanvas answers session.username world) := by
  have uses : ∀ canvas, pc.UsesCanvas answers session.username world canvas ↔
      resume.Uses world canvas := by
    intro canvas
    constructor
    · rintro (past | ⟨other, again, used⟩)
      · exact absurd past goesOn.not_past
      · rwa [goesOn.unique again]
    · exact fun used => .inr ⟨resume, goesOn, used⟩
  have slots : ∀ kind, (advance auth answers session world pc).2.1.store.slots kind =
      world.store.slots kind := advance_slots_calm gone goesOn.calm
  obtain ⟨made, logged, touches⟩ := @resumeAfterWait_logs answers world
    { world with store := (advance auth answers session world pc).2.1.store } rfl
    (fun record => by simp only [canvasRecordPtr_slots, slots])
    (fun record => by simp only [placementRecordPtr_slots, slots]) resume
  refine ⟨made, ?_, fun canvas => (touches canvas).trans (uses canvas).symm⟩
  rw [congrArg (fun result : World × Pc => result.1.library.calls) goesOn.advance]
  exact logged

/-- Elsewhere no canvas operation goes on. -/
theorem Pc.stays {store : HandleStore} (elsewhere : pc.operates = false) (resume : Resume) :
    ¬ GoesOn username store pc resume := by
  intro goesOn
  cases goesOn <;> cases elsewhere

/-- Elsewhere nothing leads past the wait. -/
theorem Pc.not_usesPast {canvas : Object} (elsewhere : pc.leadsPast = false) :
    ¬ pc.UsesPast answers username world canvas := by
  intro past
  cases past <;> cases elsewhere

/-- A place that neither goes on nor leads past the wait uses nothing. -/
theorem Pc.unused (stays : ∀ resume, ¬ GoesOn username world.store pc resume)
    (through : pc.leadsPast = false) (canvas : Object) :
    ¬ pc.UsesCanvas answers username world canvas := by
  rintro (past | ⟨resume, goesOn, -⟩)
  · exact Pc.not_usesPast through past
  · exact stays resume goesOn

/-- Beginning a request uses no canvas. -/
theorem startRequest_logs (line : Bytes) :
    Logs world.library.calls (startRequest auth answers session world line).2.1.library.calls
      ((Pc.start line).UsesCanvas answers session.username world) := by
  have unused := @Pc.unused answers world (.start line) session.username (Pc.stays rfl) rfl
  apply startRequest_cases (motive := fun result => Logs world.library.calls
    result.2.1.library.calls ((Pc.start line).UsesCanvas answers session.username world))
  · exact fun _ _ => logs_nothing rfl unused
  · exact fun _ _ => logs_nothing rfl unused
  · exact fun _ _ => logs_nothing rfl unused
  · intro name arguments command _ _ _ _ _ _
    cases command with
    | createCanvas height width color =>
      exact logs_apart (Library.create_calls ..)
        (fun canvas => not_touches rfl (by simp) (by simp)) unused
    | createSprite shape =>
      exact logs_apart (Library.create_calls ..)
        (fun canvas => not_touches rfl (by simp) (by simp)) unused
    | store command => exact logs_nothing rfl unused

/-- The error exit of an added record uses the canvas under a placement that gets no handle. -/
theorem answerHandle_logs {later : World} (library : later.library = world.library) (id : UInt64)
    {undo : Call} {uses : Object → Prop}
    (touches : ∀ canvas, undo.Touches world.library.calls canvas ∧ id = invalidHandle ↔ uses canvas) :
    Logs world.library.calls (answerHandle answers later id undo).1.library.calls uses := by
  unfold answerHandle
  split
  · rename_i refused
    have logged : (later.apply later.store [undo]).library.calls =
        undo :: world.library.calls := by
      simp [World.apply, Library.emit, library]
    refine logs_call logged fun canvas => ?_
    rw [← touches canvas, and_iff_left refused]
  · rename_i accepted
    refine logs_nothing (congrArg Library.calls library) fun canvas used => ?_
    exact accepted ((touches canvas).mpr used).2

/-- An operation on a placement waits exactly where its user has arrived at the barrier of the
placement's canvas, and calls nothing then. -/
theorem throughPlacement_held {placement : Nat} {resume : Resume}
    (held : ¬ ∀ record, canvasFor world.store (placementRecordCanvasId world.store placement)
      username = some record → barrierToWaitFor world.store record username = none) :
    (throughPlacement answers world username placement resume).1.library = world.library := by
  push Not at held
  obtain ⟨record, found, waits⟩ := held
  obtain ⟨user, waits⟩ := Option.ne_none_iff_exists'.mp waits
  simp only [throughPlacement, handlesGetCanvas_some found, waitThenResume,
    barrierToWaitFor_connect, waits]

/-- The first section of a command touches what it uses. -/
theorem lockedSection_logs (gone : DestroyedCanvasesGone world.store) (command : StoreCommand) :
    Logs world.library.calls (lockedSection answers session world command).1.library.calls
      ((Pc.locking command).UsesCanvas answers session.username world) := by
  -- an operation that goes on is dealt with by what it goes on with
  by_cases proceeds : ∃ resume, GoesOn session.username world.store (.locking command) resume
  · obtain ⟨resume, goesOn⟩ := proceeds
    exact @goesOn_logs [] answers session world _ resume gone goesOn
  have stays : ∀ resume, ¬ GoesOn session.username world.store (.locking command) resume :=
    not_exists.mp proceeds
  have unused := @Pc.unused answers world (.locking command) session.username stays
  cases command with
  | destroyCanvas id =>
    rcases handlesDestroyCanvasForUser_calls world.store id session.username with
      ⟨object, -, calls⟩ | ⟨-, calls⟩
    · have logged : (lockedSection answers session world (.destroyCanvas id)).1.library.calls =
          .destroyCanvas object :: world.library.calls := by
        simp [lockedSection, World.apply, Library.emit, calls]
      exact logs_apart logged (fun canvas => not_touches rfl (by simp) (by simp)) (unused rfl)
    · exact logs_nothing (by simp [lockedSection, World.apply, Library.emit, calls]) (unused rfl)
  | destroySprite id =>
    rcases (handlesDestroySprite_calls world.store id session.username answers.spriteFails).2 with
      calls | ⟨sprite, reported, calls⟩
    · exact logs_nothing (by simp [lockedSection, World.apply, Library.emit, calls]) (unused rfl)
    · have logged : (lockedSection answers session world (.destroySprite id)).1.library.calls =
          .destroySprite sprite reported :: world.library.calls := by
        simp [lockedSection, World.apply, Library.emit, calls]
      exact logs_apart logged (fun canvas => not_touches rfl (by simp) (by simp)) (unused rfl)
  | placeSprite canvasId spriteId x y =>
    refine logs_nothing ?_ (unused rfl)
    cases found : canvasFor world.store canvasId session.username with
    | none => simp only [lockedSection, handlesGetCanvas_none found]
    | some record =>
      have looked := handlesGetCanvas_some found
      have sprites := (handlesGetCanvas_elsewhere world.store canvasId session.username).1
      rw [looked] at sprites
      have again : handlesGetSprite (world.store.updateCanvas record fun canvas =>
          canvas.connect session.username) spriteId session.username =
            handlesGetSprite world.store spriteId session.username := by
        rw [handlesGetSprite, handlesGetSprite, sprites]
      cases held : handlesGetSprite world.store spriteId session.username with
      | none => simp only [lockedSection, looked, again, held]
      | some sprite =>
        cases waits : barrierToWaitFor world.store record session.username with
        | none => exact absurd (.place found held waits) (stays _)
        | some user =>
          simp only [lockedSection, looked, again, held, waitThenResume, barrierToWaitFor_connect,
            waits]
  | movePlacement move id =>
    refine logs_nothing ?_ (unused rfl)
    cases held : handlesGetPlacement world.store id session.username with
    | none => simp only [lockedSection, held]
    | some placement =>
      simp only [lockedSection, held]
      rw [throughPlacement_held fun free => stays _ (.move held free)]
  | destroyPlacement id =>
    cases found : handlesGetPlacement world.store id session.username with
    | none =>
      refine logs_nothing (by simp [lockedSection, handlesDestroyPlacement, found, World.apply,
        Library.emit]) ?_
      rintro canvas (past | ⟨resume, goesOn, -⟩)
      · cases past with
        | destroyPlacement hit lies =>
          rw [found] at hit
          cases hit
      · exact stays resume goesOn
    | some record =>
      obtain ⟨placement, present, -, object, -⟩ := handlesGetPlacement_some found
      obtain ⟨object, alive⟩ := Option.isSome_iff_exists.mp object
      have pointer : placementRecordPtr world.store record = some object := by
        rw [placementRecordPtr, present]
        exact alive
      have logged : (lockedSection answers session world (.destroyPlacement id)).1.library.calls =
          .destroyPlacement object :: world.library.calls := by
        simp [lockedSection, handlesDestroyPlacement, found, pointer, World.apply, Library.emit]
      refine logs_call logged fun canvas => (touches_placement rfl (by simp) (by simp)).trans ⟨?_, ?_⟩
      · rintro ⟨placed, same, lies⟩
        obtain rfl := Option.some.inj same
        exact .inl (.destroyPlacement found ⟨object, pointer, lies⟩)
      · rintro (past | ⟨resume, goesOn, -⟩)
        · cases past with
          | destroyPlacement hit lies =>
            obtain rfl := Option.some.inj (found.symm.trans hit)
            obtain ⟨placed, there, lies⟩ := lies
            obtain rfl := Option.some.inj (pointer.symm.trans there)
            exact ⟨object, rfl, lies⟩
        · exact absurd goesOn (stays resume)
  | setAnimationParams id vx vy ax ay =>
    refine logs_nothing ?_ (unused rfl)
    cases held : handlesGetPlacement world.store id session.username with
    | none => simp only [lockedSection, held]
    | some placement =>
      simp only [lockedSection, held]
      rw [throughPlacement_held fun free => stays _ (.setParams held free)]
  | shareCanvas canvasId target => exact logs_nothing rfl (unused rfl)
  | barrier canvasId => exact logs_nothing rfl (unused rfl)
  | generate job =>
    refine logs_nothing ?_ (unused rfl)
    cases found : canvasFor world.store job.canvasId session.username with
    | none => simp only [lockedSection, handlesGetCanvas_none found]
    | some record =>
      cases waits : barrierToWaitFor world.store record session.username with
      | none => exact absurd (.generate found waits) (stays _)
      | some user =>
        simp only [lockedSection, handlesGetCanvas_some found, waitThenResume,
          barrierToWaitFor_connect, waits]

/-- A frame touches the canvas that it renders. -/
theorem generateFrame_logs (gone : DestroyedCanvasesGone world.store) (job : GenerateJob)
    (frame : UInt64) :
    Logs world.library.calls (generateFrame answers session world job frame).1.library.calls
      ((Pc.frame job frame).UsesCanvas answers session.username world) := by
  have slots := @advance_slots_calm [] answers session world (.frame job frame) gone rfl .canvas
  have store : (advance [] answers session world (.frame job frame)).2.1.store =
    (handlesGetCanvas world.store job.canvasId session.username).2 := generateFrame_store ..
  rw [store] at slots
  cases found : canvasFor world.store job.canvasId session.username with
  | none =>
    refine logs_nothing (by simp only [generateFrame, handlesGetCanvas_none found]) ?_
    rintro canvas (past | ⟨resume, goesOn, -⟩)
    · cases past with
      | frame hit pointer =>
        rw [found] at hit
        cases hit
    · cases goesOn
  | some record =>
    have logged : (generateFrame answers session world job frame).1.library.calls =
        .generateFrame (canvasRecordPtr
          (handlesGetCanvas world.store job.canvasId session.username).2 record) frame
            job.frameRate :: world.library.calls := by
      rw [handlesGetCanvas_some found]
      simp only [generateFrame, handlesGetCanvas_some found, finishGenerate]
      split
      · split
        · rfl
        · split <;> rfl
      · rfl
    refine logs_call logged fun canvas => touches_generateFrame.trans ?_
    rw [canvasRecordPtr_slots, slots, ← canvasRecordPtr_slots]
    constructor
    · exact fun pointer => .inl (.frame found pointer)
    · rintro (past | ⟨resume, goesOn, -⟩)
      · cases past with
        | frame hit pointer =>
          obtain rfl := Option.some.inj (found.symm.trans hit)
          exact pointer
      · cases goesOn

/-- Every step logs at most one call, which touches the canvases that the step uses. -/
theorem advance_logs (gone : DestroyedCanvasesGone world.store) (pc : Pc) :
    Logs world.library.calls (advance auth answers session world pc).2.1.library.calls
      (pc.UsesCanvas answers session.username world) := by
  cases pc with
  | start line => exact startRequest_logs line
  | addCanvas canvas width height =>
    have unused := @Pc.unused answers world (.addCanvas canvas width height) session.username
      (Pc.stays rfl) rfl
    exact answerHandle_logs rfl _ fun target => iff_of_false
      (fun undone => not_touches rfl (by simp) (by simp) undone.1) (unused target)
  | addSprite sprite =>
    have unused := @Pc.unused answers world (.addSprite sprite) session.username
      (Pc.stays rfl) rfl
    exact answerHandle_logs rfl _ fun target => iff_of_false
      (fun undone => not_touches rfl (by simp) (by simp) undone.1) (unused target)
  | locking command => exact lockedSection_logs gone command
  | barrierWait record user => exact logs_nothing rfl (Pc.unused (Pc.stays rfl) rfl)
  | canvasWait record user resume =>
    cases flagged : world.store.waiting record user with
    | false => exact goesOn_logs gone (.waited flagged)
    | true =>
      refine logs_nothing (by simp only [advance, flagged, ↓reduceIte]) (Pc.unused ?_ rfl)
      intro other goesOn
      cases goesOn with
      | waited passed =>
        rw [flagged] at passed
        cases passed
  | addPlacement placement canvasId spriteId =>
    have refused : (handlesAddPlacement world.store placement canvasId spriteId session.username
        answers.memory).1 = invalidHandle ↔
          answers.memory = false ∨ world.store.nextId = invalidHandle := by
      cases answers.memory <;> simp [handlesAddPlacement]
    refine answerHandle_logs rfl _ fun canvas =>
      (and_congr (touches_placement rfl (by simp) (by simp)) refused).trans ?_
    constructor
    · rintro ⟨⟨object, same, placed⟩, refused⟩
      obtain rfl := Option.some.inj same
      exact .inl (.addPlacement refused placed)
    · rintro (past | ⟨resume, goesOn, -⟩)
      · cases past with
        | addPlacement refused placed => exact ⟨⟨placement, rfl, placed⟩, refused⟩
      · cases goesOn
  | frame job frame => exact generateFrame_logs gone job frame
  | disconnect =>
    refine logs_nothing ?_ (Pc.unused (Pc.stays rfl) rfl)
    simp only [advance]
    split
    · simp [World.apply, Library.emit, handlesDisconnectUser_calls gone]
    · rfl
  | endSession => exact logs_nothing rfl (Pc.unused (Pc.stays rfl) rfl)
  | finished response => exact logs_nothing rfl (Pc.unused (Pc.stays rfl) rfl)

end Steps

end AnimateService
