import AnimateService.LibraryUse
import AnimateService.RpcThreads

/-!
# Placements and their canvases

A canvas can be destroyed while placements on it are recorded, or while one is between its
library call and its record; `handles_destroy` takes care to destroy placements before canvases.
`placements_safe_iff` says which steps let a placement outlive its canvas, over every
interleaving of requests and with the end of the store after any of them.
-/
namespace AnimateService

open Transition

/-- No library call was made on a placement whose canvas was destroyed, and none would be made if
the store ended here. -/
def PlacementsSafe (state : RpcState) : Prop :=
  ∀ spriteFails,
    SafeCalls (state.world.library.emit (handlesDestroy state.world.store spriteFails)).calls

/-- A placement safe store's records are usable. -/
theorem placementsSafe_iff {state : RpcState} :
    PlacementsSafe state ↔ SafeCalls state.world.library.calls ∧
      ∀ placement, RecordsPlacement state.world.store placement →
        Usable state.world.library.calls placement := by
  simp only [PlacementsSafe, safeCalls_handlesDestroy]
  exact ⟨fun safe => safe fun _ => false, fun safe _ => safe⟩

/-- A step destroys no canvas with recorded placements on it, and records no placement whose
canvas is gone. -/
def PlacementsGoFirst (state : RpcState) (label : RpcLabel) : Prop :=
  ∀ thread answers client pc, label = .step thread answers →
    state.threads thread = some ⟨client, pc⟩ →
    (∀ id canvas placement, pc = .locking (.destroyCanvas id) →
      LastLeaves state.world.store id (state.sessions client).username canvas →
      RecordsPlacement state.world.store placement →
      ¬ PlacedOn state.world.library.calls placement canvas) ∧
    (∀ placement, pc.unrecordedPlacement = some placement →
      Usable state.world.library.calls placement)

/-! ## Canvases in flight -/

/-- A thread has created a canvas and not recorded it yet. -/
def InFlight (state : RpcState) (thread : ThreadId) (canvas : Object) : Prop :=
  ∃ work, state.threads thread = some work ∧ work.pc.unrecordedCanvas = some canvas

/-- What holds of the log, the records and the threads whatever the requests do. -/
structure LibraryBooks (state : RpcState) : Prop where
  /-- Placements in the log have been handed out. -/
  placementsOld : ∀ placement canvas, PlacedOn state.world.library.calls placement canvas →
    placement < state.world.library.next
  /-- So have the canvases under them. -/
  canvasesOld : ∀ placement canvas, PlacedOn state.world.library.calls placement canvas →
    canvas < state.world.library.next
  /-- So have the recorded canvases. -/
  recordsOld : ∀ canvas, RecordsCanvas state.world.store canvas → canvas < state.world.library.next
  /-- So have the canvases in flight. -/
  flightOld : ∀ thread canvas, InFlight state thread canvas → canvas < state.world.library.next
  /-- A placement is on one canvas. -/
  placedOnce : ∀ placement canvas other, PlacedOn state.world.library.calls placement canvas →
    PlacedOn state.world.library.calls placement other → canvas = other
  /-- Nothing is placed on a canvas in flight. -/
  flightUnplaced : ∀ thread canvas placement, InFlight state thread canvas →
    ¬ PlacedOn state.world.library.calls placement canvas
  /-- A canvas in flight is not recorded. -/
  flightUnrecorded : ∀ thread canvas, InFlight state thread canvas →
    ¬ RecordsCanvas state.world.store canvas
  /-- A canvas is in flight on one thread. -/
  flightOnce : ∀ thread other canvas, InFlight state thread canvas → InFlight state other canvas →
    thread = other
  /-- Canvases marked as destroyed are. -/
  gone : DestroyedCanvasesGone state.world.store

/-- Destroying what is marked and has no connected member leaves nothing marked. -/
theorem maybeDestroyCanvas_gone {canvas : CanvasRecord}
    (marked : canvas.deleted = true → canvas.canvas = none ∨ canvasHasConnectedUser canvas = false) :
    (maybeDestroyCanvas canvas).1.deleted = true → (maybeDestroyCanvas canvas).1.canvas = none := by
  unfold maybeDestroyCanvas
  split
  · rename_i object pointer
    split
    · exact fun _ => rfl
    · rename_i kept
      intro deleted
      rcases marked deleted with gone | alone
      · exact gone
      · exact absurd (by rw [show canvas.deleted = true from deleted, alone]; rfl) kept
  · rename_i pointer
    exact fun _ => pointer

/-- A change of a record keeps marked canvases destroyed. -/
theorem RecordChange.gone {store : HandleStore} {record : CanvasPtr} {canvas after : CanvasRecord}
    {step : CanvasStep} (change : RecordChange store record canvas step after)
    (before : canvas.deleted = true → canvas.canvas = none) :
    after.deleted = true → after.canvas = none := by
  have connected : ∀ name, (canvas.connect name).deleted = canvas.deleted := fun name => by
    unfold CanvasRecord.connect
    split <;> rfl
  have looked : ∀ name, (canvas.connect name).deleted = true →
      (canvas.connect name).canvas = none := fun name => by
    rw [connected, (connect_object _ _).1]
    exact before
  cases change with
  | kept stays => exact before
  | looked found member => exact looked _
  | shared found member =>
    unfold canvasRecordShare
    split
    · exact looked _
    · split <;> exact looked _
  | completed found member complete => exact looked _
  | arrived found member short => exact looked _
  | destroyed found member =>
    rename_i canvasId username user
    obtain ⟨same, live, -⟩ := depart_object (canvas.connect username) username
    refine maybeDestroyCanvas_gone ?_
    split
    · rw [live, same]
      exact fun deleted => .inl (looked username deleted)
    · rename_i alone
      exact fun _ => .inr (by simpa [canvasHasConnectedUser] using alone)
  | disconnected named member =>
    rename_i username user
    obtain ⟨same, live, -⟩ := depart_object canvas username
    simp only [CanvasRecord.disconnect, member]
    refine maybeDestroyCanvas_gone ?_
    rw [live, same]
    exact fun deleted => .inl (before deleted)

/-- Destroying never gives a record a library canvas. -/
theorem maybeDestroyCanvas_canvas {canvas : CanvasRecord} {object : Object}
    (live : (maybeDestroyCanvas canvas).1.canvas = some object) : canvas.canvas = some object := by
  unfold maybeDestroyCanvas at live
  split at live
  · split at live
    · cases live
    · exact live
  · exact live

/-- Neither does any other change of a record. -/
theorem RecordChange.canvas {store : HandleStore} {record : CanvasPtr}
    {canvas after : CanvasRecord} {step : CanvasStep} {object : Object}
    (change : RecordChange store record canvas step after) (live : after.canvas = some object) :
    canvas.canvas = some object := by
  cases change with
  | kept stays => exact live
  | looked found member => rwa [(connect_object _ _).1] at live
  | shared found member =>
    rw [← (connect_object canvas _).1]
    unfold canvasRecordShare at live
    split at live
    · exact live
    · split at live <;> exact live
  | completed found member complete =>
    rw [← (connect_object canvas _).1]
    exact live
  | arrived found member short =>
    rw [← (connect_object canvas _).1]
    exact live
  | destroyed found member =>
    rename_i canvasId username user
    have departed := maybeDestroyCanvas_canvas live
    rw [← (connect_object canvas username).1, ← (depart_object (canvas.connect username) username).1]
    split at departed <;> exact departed
  | disconnected named member =>
    rename_i username user
    simp only [CanvasRecord.disconnect, member] at live
    rw [← (depart_object canvas username).1]
    exact maybeDestroyCanvas_canvas live

/-- The section of a step creates a canvas record only for the canvas in flight. -/
theorem Pc.canvasStep_create {answers : Answers} {session : Session} {store after : HandleStore}
    {pc : Pc} {object : Object} {width height : UInt64} {owner : Bytes} {memory : Bool}
    (created : pc.canvasStep answers session store after =
      .createCanvas object width height owner memory) :
    pc.unrecordedCanvas = some object ∧ owner = session.username := by
  have step := pc.canvasStep_section answers session store after
  rw [created] at step
  cases step
  exact ⟨rfl, rfl⟩

/-- A step records no library canvas but the one in flight. -/
theorem advance_canvases {auth : AuthDb} {answers : Answers} {session : Session} {world : World}
    {pc : Pc} {object : Object}
    (recorded : RecordsCanvas (advance auth answers session world pc).2.1.store object) :
    RecordsCanvas world.store object ∨ pc.unrecordedCanvas = some object := by
  obtain ⟨canvas, member, live⟩ := recorded
  rw [advance_store] at member
  have all : ∀ canvas ∈ ((pc.canvasStep answers session world.store
      (advance auth answers session world pc).2.1.store).apply world.store).canvases,
      canvas.canvas = some object →
        RecordsCanvas world.store object ∨ pc.unrecordedCanvas = some object := by
    refine CanvasStep.apply_all ?_ ?_ ?_
    · intro id created width height owner step found
      obtain ⟨flying, -⟩ := Pc.canvasStep_create step
      exact .inr (flying.trans found)
    · intro record canvas after inside _ change found
      exact .inl ⟨canvas, inside, change.canvas found⟩
    · exact fun canvas inside found => .inl ⟨canvas, inside, found⟩
  exact all canvas member live

/-- A step keeps marked canvases destroyed. -/
theorem advance_gone {auth : AuthDb} {answers : Answers} {session : Session} {world : World}
    (gone : DestroyedCanvasesGone world.store) (pc : Pc) :
    DestroyedCanvasesGone (advance auth answers session world pc).2.1.store := by
  rw [advance_store]
  refine CanvasStep.apply_all ?_ ?_ gone
  · intro id object width height owner step deleted
    cases deleted
  · exact fun record canvas after _ before change => change.gone before

/-! ## The books are kept -/

section Step

variable {auth : AuthDb} {state : RpcState} {thread : ThreadId} {client : ClientId} {pc : Pc}
  {answers : Answers} {made : Option Call}

/-- A placement in the log after a step was there before, or was just made on a recorded canvas. -/
theorem placedOn_after {username : Bytes} {before after : World} {next : Pc}
    (step : LibraryStep username before pc after next made) {placement canvas : Object}
    (placed : PlacedOn after.library.calls placement canvas) :
    PlacedOn before.library.calls placement canvas ∨
      (placement = before.library.next ∧ before.library.next < after.library.next ∧
        RecordsCanvas before.store canvas ∧
        ∃ sprite x y, made = some (.placeSprite (some canvas) sprite x y (some placement))) := by
  obtain ⟨sprite, x, y, member⟩ := placed
  rw [step.logged] at member
  rcases List.mem_append.mp member with new | old
  · have call := Option.mem_toList.mp new
    obtain ⟨fresh, grows, recorded⟩ := step.places _ _ _ _ _ call
    exact .inr ⟨fresh, grows, recorded canvas rfl, sprite, x, y, call⟩
  · exact .inl ⟨sprite, x, y, old⟩

/-- A canvas in flight after a step of a thread was in flight before, or is new on that thread. -/
theorem inFlight_after {username : Bytes}
    (step : LibraryStep username state.world pc
      (advance auth answers (state.sessions client) state.world pc).2.1
      (advance auth answers (state.sessions client) state.world pc).2.2 made)
    {other : ThreadId} {canvas : Object}
    (flying : InFlight (state.advanceThread auth thread client pc answers) other canvas) :
    (other ≠ thread ∧ InFlight state other canvas) ∨
      (other = thread ∧ canvas = state.world.library.next ∧ state.world.library.next <
        (advance auth answers (state.sessions client) state.world pc).2.1.library.next) := by
  obtain ⟨work, there, unrecorded⟩ := flying
  simp only [RpcState.advanceThread] at there
  by_cases same : other = thread
  · subst same
    rw [Function.update_self] at there
    obtain rfl := Option.some.inj there
    exact .inr ⟨rfl, step.creates canvas unrecorded⟩
  · rw [Function.update_of_ne same] at there
    exact .inl ⟨same, work, there, unrecorded⟩

/-- A step of a thread keeps the books. -/
theorem LibraryBooks.advance (books : LibraryBooks state)
    (working : state.threads thread = some ⟨client, pc⟩) :
    LibraryBooks (state.advanceThread auth thread client pc answers) := by
  obtain ⟨made, step⟩ := advance_library auth answers (state.sessions client) state.world books.gone pc
  have flown : ∀ canvas, pc.unrecordedCanvas = some canvas → InFlight state thread canvas :=
    fun canvas unrecorded => ⟨_, working, unrecorded⟩
  have recorded : ∀ canvas, RecordsCanvas
      (state.advanceThread auth thread client pc answers).world.store canvas →
        RecordsCanvas state.world.store canvas ∨ InFlight state thread canvas :=
    fun canvas live => (advance_canvases live).imp_right (flown canvas)
  have grows := step.grows
  constructor
  case placementsOld =>
    intro placement canvas placed
    rcases placedOn_after step placed with old | ⟨rfl, grown, -⟩
    · exact lt_of_lt_of_le (books.placementsOld _ _ old) grows
    · exact grown
  case canvasesOld =>
    intro placement canvas placed
    rcases placedOn_after step placed with old | ⟨-, -, live, -⟩
    · exact lt_of_lt_of_le (books.canvasesOld _ _ old) grows
    · exact lt_of_lt_of_le (books.recordsOld _ live) grows
  case recordsOld =>
    intro canvas live
    rcases recorded canvas live with old | flying
    · exact lt_of_lt_of_le (books.recordsOld _ old) grows
    · exact lt_of_lt_of_le (books.flightOld _ _ flying) grows
  case flightOld =>
    intro other canvas flying
    rcases inFlight_after step flying with ⟨-, old⟩ | ⟨-, rfl, grown⟩
    · exact lt_of_lt_of_le (books.flightOld _ _ old) grows
    · exact grown
  case placedOnce =>
    intro placement canvas other placed replaced
    rcases placedOn_after step placed with old | ⟨rfl, -, -, sprite, x, y, call⟩
    · rcases placedOn_after step replaced with again | ⟨rfl, -⟩
      · exact books.placedOnce _ _ _ old again
      · exact absurd (books.placementsOld _ _ old) (lt_irrefl _)
    · rcases placedOn_after step replaced with again | ⟨-, -, -, sprite', x', y', call'⟩
      · exact absurd (books.placementsOld _ _ again) (lt_irrefl _)
      · have same := Option.some.inj (call.symm.trans call')
        simp only [Call.placeSprite.injEq, Option.some.injEq] at same
        exact same.1
  case flightUnplaced =>
    intro other canvas placement flying placed
    rcases inFlight_after step flying with ⟨-, old⟩ | ⟨-, rfl, -⟩
    · rcases placedOn_after step placed with before | ⟨-, -, live, -⟩
      · exact books.flightUnplaced _ _ _ old before
      · exact books.flightUnrecorded _ _ old live
    · rcases placedOn_after step placed with before | ⟨-, -, live, -⟩
      · exact absurd (books.canvasesOld _ _ before) (lt_irrefl _)
      · exact absurd (books.recordsOld _ live) (lt_irrefl _)
  case flightUnrecorded =>
    intro other canvas flying live
    rcases inFlight_after step flying with ⟨apart, old⟩ | ⟨-, rfl, -⟩
    · rcases recorded canvas live with before | here
      · exact books.flightUnrecorded _ _ old before
      · exact apart (books.flightOnce _ _ _ old here)
    · rcases recorded _ live with before | here
      · exact absurd (books.recordsOld _ before) (lt_irrefl _)
      · exact absurd (books.flightOld _ _ here) (lt_irrefl _)
  case flightOnce =>
    intro first second canvas flying again
    rcases inFlight_after step flying with ⟨-, old⟩ | ⟨rfl, rfl, -⟩
    · rcases inFlight_after step again with ⟨-, before⟩ | ⟨-, rfl, -⟩
      · exact books.flightOnce _ _ _ old before
      · exact absurd (books.flightOld _ _ old) (lt_irrefl _)
    · rcases inFlight_after step again with ⟨-, before⟩ | ⟨rfl, -, -⟩
      · exact absurd (books.flightOld _ _ before) (lt_irrefl _)
      · rfl
  case gone => exact advance_gone books.gone pc

/-- A thread that takes up a request or goes idle has no canvas in flight. -/
theorem LibraryBooks.setThread (books : LibraryBooks state) {work : Option Thread}
    (grounded : ∀ taken, work = some taken → taken.pc.unrecordedCanvas = none) :
    LibraryBooks (state.setThread thread work) := by
  have flown : ∀ other canvas, InFlight (state.setThread thread work) other canvas →
      InFlight state other canvas := by
    rintro other canvas ⟨taken, there, unrecorded⟩
    simp only [RpcState.setThread] at there
    by_cases same : other = thread
    · rw [same, Function.update_self] at there
      rw [grounded taken there] at unrecorded
      cases unrecorded
    · rw [Function.update_of_ne same] at there
      exact ⟨taken, there, unrecorded⟩
  exact
    { placementsOld := books.placementsOld
      canvasesOld := books.canvasesOld
      recordsOld := books.recordsOld
      flightOld := fun other canvas flying => books.flightOld _ _ (flown other canvas flying)
      placedOnce := books.placedOnce
      flightUnplaced := fun other canvas placement flying =>
        books.flightUnplaced _ _ _ (flown other canvas flying)
      flightUnrecorded := fun other canvas flying =>
        books.flightUnrecorded _ _ (flown other canvas flying)
      flightOnce := fun first second canvas flying again =>
        books.flightOnce _ _ _ (flown first canvas flying) (flown second canvas again)
      gone := books.gone }

/-- Every step of the machine keeps the books. -/
theorem LibraryBooks.kept {next : RpcState} {label : RpcLabel} (books : LibraryBooks state)
    (step : (rpcMachine auth).step state label = some next) : LibraryBooks next := by
  rcases rpcMachine_cases step with
    ⟨thread, answers, client, pc, rfl, working, -, rfl⟩ | ⟨thread, work, -, rfl, -, begins⟩
  · exact books.advance working
  · refine books.setThread fun taken same => ?_
    rcases begins taken same with ⟨line, at_start⟩ | at_end
    · rw [at_start]
      rfl
    · rw [at_end]
      rfl

/-! ## Which steps are safe -/

/-- A step that goes by the guard keeps placements safe. -/
theorem placementsSafe_advance (books : LibraryBooks state)
    (working : state.threads thread = some ⟨client, pc⟩) (safe : PlacementsSafe state)
    (guarded : PlacementsGoFirst state (.step thread answers)) :
    PlacementsSafe (state.advanceThread auth thread client pc answers) := by
  obtain ⟨made, step⟩ := advance_library auth answers (state.sessions client) state.world books.gone pc
  obtain ⟨cleared, attached⟩ := guarded thread answers client pc rfl working
  rw [placementsSafe_iff] at safe ⊢
  obtain ⟨calls, usable⟩ := safe
  have available : ∀ placement, RecordsPlacement state.world.store placement ∨
      pc.unrecordedPlacement = some placement → Usable state.world.library.calls placement :=
    fun placement => Or.rec (usable placement) (attached placement)
  constructor
  · simp only [RpcState.advanceThread, step.logged]
    cases made with
    | none => exact calls
    | some call => exact ⟨fun placement used => available placement (step.uses placement used), calls⟩
  · intro placement live
    have owned := step.placements placement live
    obtain ⟨canvas, ⟨sprite, x, y, placed⟩, kept⟩ := available placement owned
    simp only [RpcState.advanceThread, step.logged]
    refine ⟨canvas, ⟨sprite, x, y, List.mem_append_right _ placed⟩, fun member => ?_⟩
    rcases List.mem_append.mp member with new | old
    · rcases step.destroys canvas (Option.mem_toList.mp new) with flying | ⟨id, rfl, last⟩
      · exact books.flightUnplaced thread canvas placement ⟨_, working, flying⟩ ⟨sprite, x, y, placed⟩
      · rcases owned with recorded | unrecorded
        · exact cleared id canvas placement rfl last recorded ⟨sprite, x, y, placed⟩
        · cases unrecorded
    · exact kept old

/-- The last connected member of a canvas is known from the store. -/
theorem LastLeaves.unique {store : HandleStore} {id : UInt64} {username : Bytes}
    {canvas other : Object} (last : LastLeaves store id username canvas)
    (again : LastLeaves store id username other) : canvas = other := by
  obtain ⟨record, old, found, present, pointer, -⟩ := last
  obtain ⟨same, there, hit, here, live, -⟩ := again
  obtain rfl := Option.some.inj (found.symm.trans hit)
  obtain rfl := Option.some.inj (present.symm.trans here)
  exact Option.some.inj (pointer.symm.trans live)

/-- A step that destroys a canvas under a recorded placement is not safe. -/
theorem destroyCanvas_needs (books : LibraryBooks state) {id : UInt64} {canvas placement : Object}
    (safe : PlacementsSafe
      (state.advanceThread auth thread client (.locking (.destroyCanvas id)) answers))
    (last : LastLeaves state.world.store id (state.sessions client).username canvas)
    (live : RecordsPlacement state.world.store placement) :
    ¬ PlacedOn state.world.library.calls placement canvas := by
  intro placed
  rw [placementsSafe_iff] at safe
  obtain ⟨-, usable⟩ := safe
  rcases handlesDestroyCanvasForUser_calls state.world.store id (state.sessions client).username with
    ⟨object, leaves, calls⟩ | ⟨stays, -⟩
  · obtain rfl := last.unique leaves
    have log : (state.advanceThread auth thread client (.locking (.destroyCanvas id))
        answers).world.library.calls = .destroyCanvas canvas :: state.world.library.calls := by
      simp [RpcState.advanceThread, advance, lockedSection, World.apply, Library.emit, calls]
    have recorded : RecordsPlacement (state.advanceThread auth thread client
        (.locking (.destroyCanvas id)) answers).world.store placement := by
      obtain ⟨record, member, pointer⟩ := live
      refine ⟨record, ?_, pointer⟩
      rw [← handlesDestroyCanvasForUser_placements state.world.store id
        (state.sessions client).username] at member
      exact member
    obtain ⟨other, ⟨sprite, x, y, again⟩, kept⟩ := usable placement recorded
    rw [log] at again kept
    have there : PlacedOn state.world.library.calls placement other := by
      refine ⟨sprite, x, y, ?_⟩
      simpa using again
    obtain rfl := books.placedOnce _ _ _ placed there
    exact kept List.mem_cons_self
  · exact stays canvas last

/-- A step that records a placement, or destroys it for want of memory, needs its canvas. -/
theorem addPlacement_needs {placement : Object} {canvasId spriteId : UInt64}
    (safe : PlacementsSafe
      (state.advanceThread auth thread client (.addPlacement placement canvasId spriteId) answers)) :
    Usable state.world.library.calls placement := by
  rw [placementsSafe_iff] at safe
  obtain ⟨calls, usable⟩ := safe
  have undone : Usable (.destroyPlacement placement :: state.world.library.calls) placement →
      Usable state.world.library.calls placement := by
    rw [← List.singleton_append]
    exact (usable_append (by simp) (by simp)).mp
  cases memory : answers.memory with
  | false =>
    have log : (state.advanceThread auth thread client (.addPlacement placement canvasId spriteId)
        answers).world.library.calls = .destroyPlacement placement :: state.world.library.calls := by
      simp [RpcState.advanceThread, advance, handlesAddPlacement, memory, answerHandle, World.apply,
        Library.emit]
    rw [log] at calls
    exact calls.1 placement rfl
  | true =>
    have recorded : RecordsPlacement (state.advanceThread auth thread client
        (.addPlacement placement canvasId spriteId) answers).world.store placement := by
      simp only [RpcState.advanceThread, advance, answerHandle_store]
      exact (handlesAddPlacement_records _ _ _ _ _ _ _).mpr (.inr ⟨memory, rfl⟩)
    have needed := usable placement recorded
    simp only [RpcState.advanceThread, advance, answerHandle] at needed
    split at needed
    · exact undone needed
    · exact needed

/-- One step keeps placements safe exactly if it goes by the guard. -/
theorem placementsSafe_step {next : RpcState} {label : RpcLabel} (books : LibraryBooks state)
    (safe : PlacementsSafe state) (step : (rpcMachine auth).step state label = some next) :
    PlacementsSafe next ↔ PlacementsGoFirst state label := by
  rcases rpcMachine_cases step with
    ⟨thread, answers, client, pc, rfl, working, -, rfl⟩ | ⟨thread, work, no_step, rfl, -⟩
  · refine ⟨fun after => ?_, placementsSafe_advance books working safe⟩
    rintro _ _ _ _ ⟨⟩ found
    obtain ⟨rfl, rfl⟩ := Thread.mk.inj (Option.some.inj (working.symm.trans found))
    constructor
    · rintro id canvas placement rfl last live
      exact destroyCanvas_needs books after last live
    · intro placement unrecorded
      cases pc <;> cases unrecorded
      exact addPlacement_needs after
  · refine ⟨fun _ => ?_, fun _ => safe⟩
    intro thread answers client pc same
    exact absurd same (no_step thread answers)

/-- The books of a server that starts. -/
theorem libraryBooks_initial : LibraryBooks {} := by
  constructor <;> simp [PlacedOn, RecordsCanvas, InFlight, DestroyedCanvasesGone]

/-- In a run of requests from the start of the server, followed by the end of the store or not, no
library call is made on a placement of a destroyed canvas, exactly if no step of the run destroys
a canvas with recorded placements on it or records a placement whose canvas is gone. -/
theorem placements_safe_iff (auth : AuthDb) (labels : List RpcLabel) :
    (rpcMachine auth).Always PlacementsSafe {} labels ↔
      (rpcMachine auth).EveryStep PlacementsGoFirst {} labels := by
  have kept : ∀ state label next, LibraryBooks state →
      (rpcMachine auth).step state label = some next → LibraryBooks next :=
    fun _ _ _ books step => books.kept step
  have initially : PlacementsSafe {} := by
    rw [placementsSafe_iff]
    simp [SafeCalls, RecordsPlacement]
  exact Machine.always_iff_everyStep kept
    (fun _ _ _ books safe step => placementsSafe_step books safe step) libraryBooks_initial initially

end Step

/-- One request on a thread, in the given number of steps with a helpful environment. -/
def handled (thread : ThreadId) (client : ClientId) (line : String) (steps : Nat) : List RpcLabel :=
  .request thread client (bytes line) :: List.replicate steps (.step thread {}) ++ [.leave thread]

/-- Ann makes a canvas and shares it with Bob, who looks it up. -/
def annAndBobConnected : List RpcLabel :=
  handled 0 0 "Login ann\n" 1 ++ handled 0 0 "create_canvas 1 1 0\n" 2 ++
  handled 0 0 "share_canvas 1 bob\n" 2 ++ handled 1 1 "Login bob\n" 1 ++
  handled 1 1 "share_canvas 1 bob\n" 2

/-- Ann destroys a canvas and then moves the placement that she had made on it. -/
def orphanedPlacement : List RpcLabel :=
  handled 0 0 "Login ann\n" 1 ++ handled 0 0 "create_canvas 1 1 0\n" 2 ++
  handled 0 0 "create_rectangle 1 1 0 0\n" 2 ++ handled 0 0 "place_sprite 1 2 0 0\n" 3 ++
  handled 0 0 "destroy_canvas 1\n" 2 ++ handled 0 0 "placement_up 3\n" 2

/-- The library is asked to move a placement of a destroyed canvas. -/
theorem orphanedPlacement_unsafe :
    ¬ (rpcMachine [⟨bytes "ann", 1⟩]).Always PlacementsSafe {} orphanedPlacement := by
  have ends : ∃ last, (rpcMachine [⟨bytes "ann", 1⟩]).run {} orphanedPlacement = some last ∧
      last.world.library.calls = [.movePlacement .up (some 2), .destroyCanvas 0,
        .placeSprite (some 0) (some 1) 0 0 (some 2),
        .createSprite (.rectangle 1 1 0 false) (some 1), .createCanvas 1 1 0 (some 0)] :=
    ⟨_, rfl, by decide⟩
  obtain ⟨last, ran, log⟩ := ends
  intro always
  have calls := (placementsSafe_iff.mp (always.last ran)).1
  rw [log] at calls
  obtain ⟨canvas, ⟨sprite, x, y, placed⟩, kept⟩ := calls.1 2 rfl
  simp at placed kept
  exact kept placed.1

end AnimateService
