import AnimateService.CanvasSteps

/-!
# What a step asks of the library

A placement can be used while the canvas that it was placed on has not been destroyed; both can
be read off the log of library calls. `LibraryStep` is what one step of a request does to that
log and to the objects that the store records: it makes at most one call, uses only placements
that the store records or that it is about to record, and destroys a canvas only for its last
connected member or when it could not be recorded.
-/
namespace AnimateService

/-- The placement that a call works on. -/
def Call.placement? : Call → Option Object
  | .movePlacement _ placement => placement
  | .setAnimationParams placement _ _ _ _ => placement
  | .destroyPlacement placement => some placement
  | _ => none

/-- The log places a placement on a canvas. -/
def PlacedOn (calls : List Call) (placement canvas : Object) : Prop :=
  ∃ sprite x y, Call.placeSprite (some canvas) sprite x y (some placement) ∈ calls

/-- The canvas of a placement is not destroyed yet. -/
def Usable (calls : List Call) (placement : Object) : Prop :=
  ∃ canvas, PlacedOn calls placement canvas ∧ Call.destroyCanvas canvas ∉ calls

/-- Every call on a placement was made while the placement's canvas was not destroyed. -/
def SafeCalls : List Call → Prop
  | [] => True
  | call :: earlier =>
    (∀ placement, call.placement? = some placement → Usable earlier placement) ∧ SafeCalls earlier

/-- The store records a placement that is not destroyed. -/
def RecordsPlacement (store : HandleStore) (placement : Object) : Prop :=
  ∃ record ∈ store.placements, record.placement = some placement

/-- The store records a canvas that is not destroyed. -/
def RecordsCanvas (store : HandleStore) (canvas : Object) : Prop :=
  ∃ record ∈ store.canvases, record.canvas = some canvas

/-! ## The end of the store -/

/-- Calls that neither place nor destroy a canvas leave placements as usable as they were. -/
theorem usable_append {made calls : List Call} {placement : Object}
    (places : ∀ canvas sprite x y result, Call.placeSprite canvas sprite x y result ∉ made)
    (destroys : ∀ canvas, Call.destroyCanvas canvas ∉ made) :
    Usable (made ++ calls) placement ↔ Usable calls placement := by
  simp only [Usable, PlacedOn, List.mem_append, places, destroys, false_or]

/-- Destroying placements is safe exactly if their canvases are there. -/
theorem safeCalls_destroyPlacements (placements : List Object) (calls : List Call) :
    SafeCalls ((placements.map Call.destroyPlacement).reverse ++ calls) ↔
      SafeCalls calls ∧ ∀ placement ∈ placements, Usable calls placement := by
  induction placements generalizing calls with
  | nil => simp
  | cons placement placements ih =>
    have kept : ∀ other, Usable (.destroyPlacement placement :: calls) other ↔ Usable calls other :=
      fun other => by
        rw [← List.singleton_append]
        exact usable_append (by simp) (by simp)
    simp only [List.map_cons, List.reverse_cons, List.append_assoc, List.cons_append,
      List.nil_append, ih, kept, SafeCalls, Call.placement?, Option.some.injEq, forall_eq',
      List.mem_cons, forall_eq_or_imp]
    tauto

/-- Calls that work on no placement are safe. -/
theorem safeCalls_append {made calls : List Call} (idle : ∀ call ∈ made, call.placement? = none) :
    SafeCalls (made ++ calls) ↔ SafeCalls calls := by
  induction made with
  | nil => rfl
  | cons call made ih =>
    rw [List.cons_append, SafeCalls, ih fun other member => idle other (List.mem_cons_of_mem _ member)]
    simp [idle call List.mem_cons_self]

/-- `handles_destroy` destroys every recorded placement before any canvas, so its calls are safe
exactly if the placements are usable when it starts. -/
theorem safeCalls_handlesDestroy (library : Library) (store : HandleStore)
    (spriteFails : Object → Bool) :
    SafeCalls (library.emit (handlesDestroy store spriteFails)).calls ↔
      SafeCalls library.calls ∧
        ∀ placement, RecordsPlacement store placement → Usable library.calls placement := by
  simp only [Library.emit, handlesDestroy, List.reverse_append, List.append_assoc]
  rw [safeCalls_append, safeCalls_append, safeCalls_destroyPlacements]
  · simp only [List.mem_filterMap, List.mem_reverse, RecordsPlacement]
  · intro call member
    obtain ⟨canvas, -, rfl⟩ := List.mem_map.mp (List.mem_reverse.mp member)
    rfl
  · intro call member
    obtain ⟨sprite, -, rfl⟩ := List.mem_map.mp (List.mem_reverse.mp member)
    rfl

/-! ## The calls of one step -/

/-- The canvas that a thread has created and not recorded yet. -/
def Pc.unrecordedCanvas : Pc → Option Object
  | .addCanvas canvas _ _ => some canvas
  | _ => none

/-- The placement that a thread has made and not recorded yet. -/
def Pc.unrecordedPlacement : Pc → Option Object
  | .addPlacement placement _ _ => some placement
  | _ => none

/-- A user that destroys a canvas is its last connected member, so that the library canvas is
destroyed as well. -/
def LastLeaves (store : HandleStore) (id : UInt64) (username : Bytes) (object : Object) : Prop :=
  ∃ record canvas, canvasFor store id username = some record ∧
    store.canvases[record]? = some canvas ∧ canvas.canvas = some object ∧
    canvasHasConnectedUser (canvas.depart username) = false

/-- A step of a user's request, as far as the library and the recorded objects are concerned. -/
structure LibraryStep (username : Bytes) (before : World) (pc : Pc) (after : World) (next : Pc)
    (made : Option Call) : Prop where
  /-- At most one call is logged. -/
  logged : after.library.calls = made.toList ++ before.library.calls
  /-- Identities are not handed out twice. -/
  grows : before.library.next ≤ after.library.next
  /-- Placements are used while they are recorded, or when they could not be. -/
  uses : ∀ placement, made.bind Call.placement? = some placement →
    RecordsPlacement before.store placement ∨ pc.unrecordedPlacement = some placement
  /-- Canvases are destroyed by their last member, or when they could not be recorded. -/
  destroys : ∀ canvas, made = some (.destroyCanvas canvas) →
    pc.unrecordedCanvas = some canvas ∨
      ∃ id, pc = .locking (.destroyCanvas id) ∧ LastLeaves before.store id username canvas
  /-- A new placement is on a recorded canvas or on none. -/
  places : ∀ canvas sprite x y placement,
    made = some (.placeSprite canvas sprite x y (some placement)) →
      placement = before.library.next ∧ before.library.next < after.library.next ∧
        ∀ object, canvas = some object → RecordsCanvas before.store object
  /-- A canvas that is not recorded yet is new. -/
  creates : ∀ canvas, next.unrecordedCanvas = some canvas →
    canvas = before.library.next ∧ before.library.next < after.library.next
  /-- Placements are recorded once they are made. -/
  placements : ∀ placement, RecordsPlacement after.store placement →
    RecordsPlacement before.store placement ∨ pc.unrecordedPlacement = some placement

variable {username : Bytes} {before after : World} {pc next : Pc}

/-- A step that calls nothing. -/
theorem LibraryStep.quiet (library : after.library = before.library)
    (placements : ∀ placement, RecordsPlacement after.store placement →
      RecordsPlacement before.store placement ∨ pc.unrecordedPlacement = some placement)
    (settled : next.unrecordedCanvas = none) :
    LibraryStep username before pc after next none where
  logged := by rw [library]; rfl
  grows := by rw [library]
  uses := by simp
  destroys := by simp
  places := by simp
  creates := by simp [settled]
  placements := placements

/-- A step that makes one call other than to place a sprite. -/
theorem LibraryStep.calling {call : Call}
    (logged : after.library.calls = call :: before.library.calls)
    (grows : before.library.next ≤ after.library.next)
    (uses : ∀ placement, call.placement? = some placement →
      RecordsPlacement before.store placement ∨ pc.unrecordedPlacement = some placement)
    (destroys : ∀ canvas, call = .destroyCanvas canvas →
      pc.unrecordedCanvas = some canvas ∨
        ∃ id, pc = .locking (.destroyCanvas id) ∧ LastLeaves before.store id username canvas)
    (places : ∀ canvas sprite x y result, call ≠ .placeSprite canvas sprite x y result)
    (placements : ∀ placement, RecordsPlacement after.store placement →
      RecordsPlacement before.store placement ∨ pc.unrecordedPlacement = some placement)
    (settled : next.unrecordedCanvas = none) :
    LibraryStep username before pc after next (some call) where
  logged := logged
  grows := grows
  uses := by simpa using uses
  destroys := by simpa using destroys
  places := by
    intro canvas sprite x y placement same
    exact absurd (Option.some.inj same) (places _ _ _ _ _)
  creates := by simp [settled]
  placements := placements

/-- A response is no canvas in flight. -/
@[simp] theorem unrecordedCanvas_reply (answers : Answers) (text : Bytes) :
    (answers.reply text).unrecordedCanvas = none := rfl

/-- The creation of a library object at the start of a command. -/
theorem beginCommand_library (answers : Answers) (world : World) (line : Bytes)
    (command : Command) :
    ∃ made, LibraryStep username world (.start line) (beginCommand answers world command).1
      (beginCommand answers world command).2 made := by
  cases command with
  | createCanvas height width color =>
    cases created : answers.created with
    | true =>
      refine ⟨some (.createCanvas height width color (some world.library.next)), ?_⟩
      simp only [beginCommand, created, Library.create, ↓reduceIte]
      exact
        { logged := rfl
          grows := Nat.le_succ _
          uses := by simp [Call.placement?]
          destroys := by simp
          places := by simp
          creates := by simp [Pc.unrecordedCanvas]
          placements := fun _ => .inl }
    | false =>
      refine ⟨some (.createCanvas height width color none), ?_⟩
      simp only [beginCommand, created, Library.create]
      exact .calling rfl le_rfl (by simp [Call.placement?]) (by simp) (by simp) (fun _ => .inl) rfl
  | createSprite shape =>
    cases created : answers.created with
    | true =>
      refine ⟨some (.createSprite shape (some world.library.next)), ?_⟩
      simp only [beginCommand, created, Library.create, ↓reduceIte]
      exact .calling rfl (Nat.le_succ _) (by simp [Call.placement?]) (by simp) (by simp)
        (fun _ => .inl) rfl
    | false =>
      refine ⟨some (.createSprite shape none), ?_⟩
      simp only [beginCommand, created, Library.create]
      exact .calling rfl le_rfl (by simp [Call.placement?]) (by simp) (by simp) (fun _ => .inl) rfl
  | store command => exact ⟨none, .quiet rfl (fun _ => .inl) rfl⟩

/-- The step that parses a request. -/
theorem startRequest_library (auth : AuthDb) (answers : Answers) (session : Session)
    (world : World) (line : Bytes) :
    ∃ made, LibraryStep username world (.start line)
      (startRequest auth answers session world line).2.1
      (startRequest auth answers session world line).2.2 made := by
  have answered : ∀ (answers : Answers) (text : Bytes), ∃ made,
      LibraryStep username world (.start line) world (answers.reply text) made :=
    fun _ _ => ⟨none, .quiet rfl (fun _ => .inl) rfl⟩
  apply startRequest_cases (motive := fun result =>
    ∃ made, LibraryStep username world (.start line) result.2.1 result.2.2 made)
  · exact fun answers code => answered answers (responseCode code)
  · intro arguments _
    obtain ⟨text, replied⟩ := login_reply auth answers session arguments
    rw [replied]
    exact answered answers text
  · exact fun _ _ => ⟨none, .quiet rfl (fun _ => .inl) rfl⟩
  · exact fun _ _ command _ _ _ _ _ _ => beginCommand_library answers world line command

/-- A pointer read from a canvas record is that of a recorded canvas. -/
theorem canvasRecordPtr_some {store : HandleStore} {record : CanvasPtr} {object : Object}
    (found : canvasRecordPtr store record = some object) : RecordsCanvas store object := by
  obtain ⟨canvas, present, pointer⟩ := Option.bind_eq_some_iff.mp found
  exact ⟨canvas, List.mem_of_getElem? present, pointer⟩

/-- A pointer read from a placement record is that of a recorded placement. -/
theorem placementRecordPtr_some {store : HandleStore} {record : Nat} {object : Object}
    (found : placementRecordPtr store record = some object) : RecordsPlacement store object := by
  obtain ⟨placement, present, pointer⟩ := Option.bind_eq_some_iff.mp found
  exact ⟨placement, List.mem_of_getElem? present, pointer⟩

/-- The rest of a canvas operation after its wait, in the same section as a lookup or later. -/
theorem resumeAfterWait_library (before world : World) (library : world.library = before.library)
    (placements : world.store.placements = before.store.placements)
    (canvases : ∀ object, RecordsCanvas world.store object → RecordsCanvas before.store object)
    (answers : Answers) (resume : Resume) :
    ∃ made, LibraryStep username before pc (resumeAfterWait answers world resume).1
      (resumeAfterWait answers world resume).2 made := by
  have recorded : ∀ object, RecordsPlacement world.store object →
      RecordsPlacement before.store object := by
    simp only [RecordsPlacement, placements, imp_self, implies_true]
  cases resume with
  | place canvas sprite canvasId spriteId x y =>
    cases created : answers.created with
    | true =>
      refine ⟨some (.placeSprite (canvasRecordPtr world.store canvas)
        (spriteRecordPtr world.store sprite) x y (some world.library.next)), ?_⟩
      simp only [resumeAfterWait, created, Library.create, ↓reduceIte]
      exact
        { logged := by simp [library]
          grows := by simp [library]
          uses := by simp [Call.placement?]
          destroys := by simp
          places := by
            simp only [Option.some.injEq, Call.placeSprite.injEq]
            rintro _ _ _ _ _ ⟨rfl, -, -, -, rfl⟩
            exact ⟨by rw [library], by rw [library]; exact Nat.lt_succ_self _,
              fun object found => canvases object (canvasRecordPtr_some found)⟩
          creates := by simp [Pc.unrecordedCanvas]
          placements := fun placement live => .inl (recorded placement live) }
    | false =>
      refine ⟨some (.placeSprite (canvasRecordPtr world.store canvas)
        (spriteRecordPtr world.store sprite) x y none), ?_⟩
      simp only [resumeAfterWait, created, Library.create]
      exact
        { logged := by simp [library]
          grows := by simp [library]
          uses := by simp [Call.placement?]
          destroys := by simp
          places := by simp
          creates := by simp
          placements := fun placement live => .inl (recorded placement live) }
  | move move placement =>
    refine ⟨some (.movePlacement move (placementRecordPtr world.store placement)), .calling
      (by simp [resumeAfterWait, World.apply, Library.emit, library])
      (by simp [resumeAfterWait, World.apply, Library.emit, library]) ?_ (by simp) (by simp)
      (fun placement live => .inl (recorded placement live)) rfl⟩
    exact fun object found => .inl (recorded object (placementRecordPtr_some found))
  | setParams placement vx vy ax ay =>
    refine ⟨some (.setAnimationParams (placementRecordPtr world.store placement) vx vy ax ay),
      .calling (by simp [resumeAfterWait, World.apply, Library.emit, library])
      (by simp [resumeAfterWait, World.apply, Library.emit, library]) ?_ (by simp) (by simp)
      (fun placement live => .inl (recorded placement live)) rfl⟩
    exact fun object found => .inl (recorded object (placementRecordPtr_some found))
  | generate canvas job =>
    refine ⟨some (.frameSizeBytes (canvasRecordPtr world.store canvas)), ?_⟩
    unfold resumeAfterWait
    cases answers.buffers <;> cases answers.opened <;>
      exact .calling (by simp [World.apply, Library.emit, library])
        (by simp [World.apply, Library.emit, library]) (by simp [Call.placement?]) (by simp)
        (by simp) (fun placement live => .inl (recorded placement live)) rfl

/-- A canvas operation that may have to wait uses the library on live objects. -/
theorem waitThenResume_library (before world : World) (library : world.library = before.library)
    (placements : world.store.placements = before.store.placements)
    (canvases : ∀ object, RecordsCanvas world.store object → RecordsCanvas before.store object)
    (answers : Answers) (record : CanvasPtr) (name : Bytes) (resume : Resume) :
    ∃ made, LibraryStep username before pc (waitThenResume answers world record name resume).1
      (waitThenResume answers world record name resume).2 made := by
  unfold waitThenResume
  split
  · refine ⟨none, .quiet library (fun placement live => .inl ?_) rfl⟩
    simpa only [RecordsPlacement, placements] using live
  · exact resumeAfterWait_library before world library placements canvases answers resume

/-- A lookup keeps the placement records. -/
theorem handlesGetCanvas_placements (store : HandleStore) (id : UInt64) (name : Bytes) :
    (handlesGetCanvas store id name).2.placements = store.placements := by
  unfold handlesGetCanvas
  split <;> rfl

/-- A lookup keeps the recorded canvases. -/
theorem handlesGetCanvas_canvases (store : HandleStore) (id : UInt64) (name : Bytes)
    (object : Object) (recorded : RecordsCanvas (handlesGetCanvas store id name).2 object) :
    RecordsCanvas store object := by
  obtain ⟨canvas, member, pointer⟩ := recorded
  obtain ⟨record, present⟩ := List.mem_iff_getElem?.mp member
  cases found : canvasFor store id name with
  | none =>
    rw [handlesGetCanvas_none found] at present
    exact ⟨canvas, List.mem_of_getElem? present, pointer⟩
  | some hit =>
    simp only [handlesGetCanvas_some found, canvases_updateCanvas] at present
    split at present
    · obtain ⟨old, there, rfl⟩ := Option.map_eq_some_iff.mp present
      rw [(connect_object _ _).1] at pointer
      exact ⟨old, List.mem_of_getElem? there, pointer⟩
    · exact ⟨canvas, List.mem_of_getElem? present, pointer⟩

/-- A step that looks a canvas up and goes on with it. -/
theorem lookup_library (world : World) (id : UInt64) (name : Bytes) (answers : Answers)
    (record : CanvasPtr) (resume : Resume) :
    ∃ made, LibraryStep username world pc
      (waitThenResume answers { world with store := (handlesGetCanvas world.store id name).2 }
        record name resume).1
      (waitThenResume answers { world with store := (handlesGetCanvas world.store id name).2 }
        record name resume).2 made :=
  waitThenResume_library world { world with store := (handlesGetCanvas world.store id name).2 } rfl
    (handlesGetCanvas_placements _ _ _) (handlesGetCanvas_canvases _ _ _) answers record name resume

/-- A step that looks a canvas up and does not go on. -/
theorem lookup_quiet (world : World) (id : UInt64) (name : Bytes)
    (settled : next.unrecordedCanvas = none) :
    LibraryStep username world pc
      { world with store := (handlesGetCanvas world.store id name).2 } next none := by
  refine .quiet rfl (fun placement live => .inl ?_) settled
  simpa only [RecordsPlacement, handlesGetCanvas_placements] using live

/-- The section of an operation on a placement that was found. -/
theorem throughPlacement_library (answers : Answers) (world : World) (name : Bytes)
    (placement : Nat) (resume : Resume) :
    ∃ made, LibraryStep username world pc (throughPlacement answers world name placement resume).1
      (throughPlacement answers world name placement resume).2 made := by
  unfold throughPlacement
  split
  · rename_i canvas store found
    obtain rfl : store = _ := (congrArg Prod.snd found).symm
    exact lookup_library world _ name answers canvas resume
  · rename_i store found
    obtain rfl : store = _ := (congrArg Prod.snd found).symm
    exact resumeAfterWait_library world { world with store := (handlesGetCanvas world.store _ name).2 }
      rfl (handlesGetCanvas_placements _ _ _) (handlesGetCanvas_canvases _ _ _) answers resume

/-- The library call of `maybe_destroy_canvas`. -/
theorem maybeDestroyCanvas_calls {canvas : CanvasRecord} {object : Object}
    (pointer : canvas.canvas = some object) :
    (maybeDestroyCanvas canvas).2 =
      if canvas.deleted && !canvasHasConnectedUser canvas then [.destroyCanvas object] else [] := by
  unfold maybeDestroyCanvas
  rw [pointer]
  dsimp only
  split <;> rfl

/-- The library calls of a member that destroys a canvas. -/
theorem destroyFor_calls {canvas : CanvasRecord} {object : Object} (name : Bytes)
    (pointer : canvas.canvas = some object) (kept : canvas.deleted = false) :
    (canvas.destroyFor name).2 =
      if canvasHasConnectedUser (canvas.depart name) then [] else [.destroyCanvas object] := by
  obtain ⟨same, live, -⟩ := depart_object canvas name
  unfold CanvasRecord.destroyFor
  cases connected : canvasHasConnectedUser (canvas.depart name) with
  | true =>
    simp only [connected, ↓reduceIte]
    rw [maybeDestroyCanvas_calls (same.trans pointer), live, kept]
    rfl
  | false =>
    simp only [connected, Bool.false_eq_true, ↓reduceIte]
    have marked : ({ canvas.depart name with deleted := true } : CanvasRecord).canvas = some object :=
      same.trans pointer
    rw [maybeDestroyCanvas_calls marked]
    exact if_pos (by simpa [canvasHasConnectedUser] using connected)

/-- Connecting a member first does not change who is connected after the member departed. -/
theorem connected_connect_depart (canvas : CanvasRecord) (name : Bytes) :
    canvasHasConnectedUser ((canvas.connect name).depart name) =
      canvasHasConnectedUser (canvas.depart name) := by
  cases member : findSharedUser canvas name with
  | none => simp only [CanvasRecord.connect, member]
  | some user =>
    have found_again : findSharedUser (canvas.connect name) name = some user := by
      rw [findSharedUser_connect, member]
    rw [Bool.eq_iff_iff, CanvasRecord.canvasHasConnectedUser_iff,
      CanvasRecord.canvasHasConnectedUser_iff, CanvasRecord.barrier_depart found_again,
      CanvasRecord.barrier_connect member, CanvasRecord.barrier_depart member,
      Rendezvous.Barrier.leave_join]

/-- Every canvas that is marked as destroyed has lost its library canvas. -/
def DestroyedCanvasesGone (store : HandleStore) : Prop :=
  ∀ canvas ∈ store.canvases, canvas.deleted = true → canvas.canvas = none

/-- Disconnecting a user destroys no canvas: only a canvas that is marked as destroyed could be. -/
theorem handlesDisconnectUser_calls {store : HandleStore} (gone : DestroyedCanvasesGone store)
    (name : Bytes) : (handlesDisconnectUser store name).2 = [] := by
  unfold handlesDisconnectUser
  split
  · rfl
  · simp only [List.flatMap_eq_nil_iff, List.mem_reverse]
    intro canvas member
    obtain ⟨same, live, -⟩ := depart_object canvas name
    unfold CanvasRecord.disconnect
    split
    · cases pointer : canvas.canvas with
      | none =>
        unfold maybeDestroyCanvas
        rw [same, pointer]
      | some object =>
        have kept : canvas.deleted = false := by
          by_contra marked
          rw [gone canvas member (by simpa using marked)] at pointer
          cases pointer
        rw [maybeDestroyCanvas_calls (same.trans pointer), live, kept]
        rfl
    · rfl

/-- Destroying a canvas calls the library exactly for its last connected member. -/
theorem handlesDestroyCanvasForUser_calls (store : HandleStore) (id : UInt64) (name : Bytes) :
    (∃ object, LastLeaves store id name object ∧
      (handlesDestroyCanvasForUser store id name).2.2 = [.destroyCanvas object]) ∨
    (∀ object, ¬ LastLeaves store id name object) ∧
      (handlesDestroyCanvasForUser store id name).2.2 = [] := by
  unfold handlesDestroyCanvasForUser
  cases found : canvasFor store id name with
  | none =>
    rw [handlesGetCanvas_none found]
    refine .inr ⟨?_, rfl⟩
    rintro object ⟨record, canvas, hit, -⟩
    rw [found] at hit
    cases hit
  | some record =>
    obtain ⟨canvas, user, present, -, live, kept, -⟩ := canvasFor_some found
    obtain ⟨object, pointer⟩ := Option.isSome_iff_exists.mp live
    have looked : (store.updateCanvas record fun canvas => canvas.connect name).canvases[record]? =
        some (canvas.connect name) := by
      simp [canvases_updateCanvas, present]
    have live_again : (canvas.connect name).deleted = false := by
      unfold CanvasRecord.connect
      split <;> exact kept
    rw [handlesGetCanvas_some found]
    simp only [HandleStore.onCanvas, looked]
    rw [destroyFor_calls name ((connect_object canvas name).1.trans pointer) live_again,
      connected_connect_depart]
    cases connected : canvasHasConnectedUser (canvas.depart name) with
    | false => exact .inl ⟨object, ⟨record, canvas, found, present, pointer, connected⟩, rfl⟩
    | true =>
      refine .inr ⟨?_, rfl⟩
      rintro other ⟨hit, same, again, there, -, alone⟩
      obtain rfl := Option.some.inj (found.symm.trans again)
      obtain rfl := Option.some.inj (present.symm.trans there)
      rw [connected] at alone
      cases alone

/-- Destroying a canvas keeps the placement records. -/
theorem handlesDestroyCanvasForUser_placements (store : HandleStore) (id : UInt64) (name : Bytes) :
    (handlesDestroyCanvasForUser store id name).2.1.placements = store.placements := by
  unfold handlesDestroyCanvasForUser
  split
  · rename_i after found
    obtain rfl : after = _ := (congrArg Prod.snd found).symm
    exact handlesGetCanvas_placements store id name
  · rename_i record after found
    obtain rfl : after = _ := (congrArg Prod.snd found).symm
    simp only [HandleStore.onCanvas]
    split
    · exact handlesGetCanvas_placements store id name
    · exact handlesGetCanvas_placements store id name

/-- Destroying a sprite calls the library at most for that sprite and keeps the placements. -/
theorem handlesDestroySprite_calls (store : HandleStore) (id : UInt64) (name : Bytes)
    (failed : Bool) :
    (handlesDestroySprite store id name failed).2.1.placements = store.placements ∧
      ((handlesDestroySprite store id name failed).2.2 = [] ∨
        ∃ sprite reported, (handlesDestroySprite store id name failed).2.2 =
          [.destroySprite sprite reported]) := by
  unfold handlesDestroySprite
  split
  · exact ⟨rfl, .inl rfl⟩
  · rename_i record found
    cases pointer : spriteRecordPtr store record with
    | none => exact ⟨rfl, .inl rfl⟩
    | some sprite => cases failed <;> exact ⟨rfl, .inr ⟨sprite, _, rfl⟩⟩

/-- Destroying a placement calls the library at most for a placement that was recorded. -/
theorem handlesDestroyPlacement_calls (store : HandleStore) (id : UInt64) (name : Bytes) :
    (∀ placement, RecordsPlacement (handlesDestroyPlacement store id name).2.1 placement →
      RecordsPlacement store placement) ∧
    ((handlesDestroyPlacement store id name).2.2 = [] ∨
      ∃ placement, RecordsPlacement store placement ∧
        (handlesDestroyPlacement store id name).2.2 = [.destroyPlacement placement]) := by
  unfold handlesDestroyPlacement
  split
  · exact ⟨fun _ live => live, .inl rfl⟩
  · rename_i record found
    constructor
    · rintro placement ⟨after, member, live⟩
      obtain ⟨index, present⟩ := List.mem_iff_getElem?.mp member
      simp only [List.getElem?_modify] at present
      obtain ⟨before, there, same⟩ := Option.map_eq_some_iff.mp present
      by_cases here : record = index
      · rw [if_pos here] at same
        subst same
        cases live
      · rw [if_neg here] at same
        subst same
        exact ⟨before, List.mem_of_getElem? there, live⟩
    · cases pointer : placementRecordPtr store record with
      | none => exact .inl rfl
      | some placement => exact .inr ⟨placement, placementRecordPtr_some pointer, rfl⟩

/-- Sharing a canvas keeps the placement records. -/
theorem shareSection_placements (store : HandleStore) (id : UInt64) (name target : Bytes)
    (memory : Bool) : (shareSection store id name target memory).2.placements = store.placements := by
  unfold shareSection
  split
  · rename_i record after found
    obtain rfl : after = _ := (congrArg Prod.snd found).symm
    exact handlesGetCanvas_placements store id name
  · rename_i after found
    obtain rfl : after = _ := (congrArg Prod.snd found).symm
    exact handlesGetCanvas_placements store id name

/-- A barrier call keeps the placement records. -/
theorem barrierSection_placements (store : HandleStore) (id : UInt64) (name : Bytes) :
    (barrierSection store id name).2.placements = store.placements := by
  cases found : canvasFor store id name with
  | none => simp only [barrierSection, handlesGetCanvas_none found]
  | some record =>
    obtain ⟨canvas, user, -, -, ⟨-, result⟩ | ⟨-, result⟩⟩ := barrierSection_some found <;>
      rw [result] <;> rfl

/-- The section of a command makes at most one library call. -/
theorem lockedSection_library (answers : Answers) (session : Session) (world : World)
    (command : StoreCommand) :
    ∃ made, LibraryStep session.username world (.locking command)
      (lockedSection answers session world command).1
      (lockedSection answers session world command).2 made := by
  cases command with
  | destroyCanvas id =>
    have placements := handlesDestroyCanvasForUser_placements world.store id session.username
    have recorded : ∀ placement,
        RecordsPlacement (handlesDestroyCanvasForUser world.store id session.username).2.1 placement →
          RecordsPlacement world.store placement := by
      simp only [RecordsPlacement, placements, imp_self, implies_true]
    rcases handlesDestroyCanvasForUser_calls world.store id session.username with
      ⟨object, last, calls⟩ | ⟨-, calls⟩
    · refine ⟨some (.destroyCanvas object), .calling ?_ ?_ (by simp [Call.placement?]) ?_ (by simp)
        (fun placement live => .inl (recorded placement live)) rfl⟩
      · simp [lockedSection, World.apply, Library.emit, calls]
      · simp [lockedSection, World.apply, Library.emit]
      · rintro canvas same
        cases same
        exact .inr ⟨id, rfl, last⟩
    · refine ⟨none, .quiet ?_ (fun placement live => .inl (recorded placement live)) rfl⟩
      simp [lockedSection, World.apply, Library.emit, calls]
  | destroySprite id =>
    obtain ⟨placements, calls⟩ :=
      handlesDestroySprite_calls world.store id session.username answers.spriteFails
    have recorded : ∀ placement, RecordsPlacement
        (handlesDestroySprite world.store id session.username answers.spriteFails).2.1 placement →
          RecordsPlacement world.store placement := by
      simp only [RecordsPlacement, placements, imp_self, implies_true]
    rcases calls with calls | ⟨sprite, reported, calls⟩
    · refine ⟨none, .quiet ?_ (fun placement live => .inl (recorded placement live)) rfl⟩
      simp [lockedSection, World.apply, Library.emit, calls]
    · refine ⟨some (.destroySprite sprite reported), .calling ?_ ?_ (by simp [Call.placement?])
        (by simp) (by simp) (fun placement live => .inl (recorded placement live)) rfl⟩
      · simp [lockedSection, World.apply, Library.emit, calls]
      · simp [lockedSection, World.apply, Library.emit]
  | placeSprite canvasId spriteId x y =>
    simp only [lockedSection]
    split
    · exact lookup_library world canvasId session.username answers _ _
    · exact ⟨none, lookup_quiet world canvasId session.username rfl⟩
  | movePlacement move id =>
    simp only [lockedSection]
    split
    · exact throughPlacement_library answers world session.username _ _
    · exact ⟨none, .quiet rfl (fun _ => .inl) rfl⟩
  | destroyPlacement id =>
    obtain ⟨recorded, calls⟩ := handlesDestroyPlacement_calls world.store id session.username
    rcases calls with calls | ⟨placement, live, calls⟩
    · refine ⟨none, .quiet ?_ (fun placement live => .inl (recorded placement live)) rfl⟩
      simp [lockedSection, World.apply, Library.emit, calls]
    · refine ⟨some (.destroyPlacement placement), .calling ?_ ?_ ?_ (by simp) (by simp)
        (fun placement live => .inl (recorded placement live)) rfl⟩
      · simp [lockedSection, World.apply, Library.emit, calls]
      · simp [lockedSection, World.apply, Library.emit]
      · rintro other same
        cases same
        exact .inl live
  | setAnimationParams id vx vy ax ay =>
    simp only [lockedSection]
    split
    · exact throughPlacement_library answers world session.username _ _
    · exact ⟨none, .quiet rfl (fun _ => .inl) rfl⟩
  | shareCanvas canvasId target =>
    refine ⟨none, .quiet rfl (fun placement live => .inl ?_) rfl⟩
    simpa only [RecordsPlacement, lockedSection, shareSection_placements] using live
  | barrier canvasId =>
    refine ⟨none, .quiet rfl (fun placement live => .inl ?_) ?_⟩
    · simpa only [RecordsPlacement, lockedSection, barrierSection_placements] using live
    · simp only [lockedSection]
      split <;> rfl
  | generate job =>
    simp only [lockedSection]
    split
    · rename_i canvas store found
      obtain rfl : store = _ := (congrArg Prod.snd found).symm
      exact lookup_library world job.canvasId session.username answers _ _
    · rename_i store found
      obtain rfl : store = _ := (congrArg Prod.snd found).symm
      exact ⟨none, lookup_quiet world job.canvasId session.username rfl⟩

/-- The step that answers the handle of an added record, or destroys the object again. -/
theorem answerHandle_library (answers : Answers) (world : World) (id : UInt64) (undo : Call)
    (library : world.library = before.library)
    (uses : ∀ placement, undo.placement? = some placement →
      RecordsPlacement before.store placement ∨ pc.unrecordedPlacement = some placement)
    (destroys : ∀ canvas, undo = .destroyCanvas canvas → pc.unrecordedCanvas = some canvas)
    (places : ∀ canvas sprite x y result, undo ≠ .placeSprite canvas sprite x y result)
    (placements : ∀ placement, RecordsPlacement world.store placement →
      RecordsPlacement before.store placement ∨ pc.unrecordedPlacement = some placement) :
    ∃ made, LibraryStep username before pc (answerHandle answers world id undo).1
      (answerHandle answers world id undo).2 made := by
  unfold answerHandle
  split
  · exact ⟨some undo, .calling (by simp [World.apply, Library.emit, library])
      (by simp [World.apply, Library.emit, library]) uses
      (fun canvas same => .inl (destroys canvas same)) places placements rfl⟩
  · exact ⟨none, .quiet library placements rfl⟩

/-- The step that renders a frame. -/
theorem generateFrame_library (answers : Answers) (session : Session) (world : World)
    (job : GenerateJob) (frame : UInt64) :
    ∃ made, LibraryStep username world pc (generateFrame answers session world job frame).1
      (generateFrame answers session world job frame).2 made := by
  have recorded : ∀ placement, RecordsPlacement
      (handlesGetCanvas world.store job.canvasId session.username).2 placement →
        RecordsPlacement world.store placement ∨ pc.unrecordedPlacement = some placement := by
    simp only [RecordsPlacement, handlesGetCanvas_placements]
    exact fun _ => .inl
  unfold generateFrame
  split
  · rename_i record store found
    obtain rfl : store = _ := (congrArg Prod.snd found).symm
    refine ⟨some (.generateFrame (canvasRecordPtr (handlesGetCanvas world.store job.canvasId
      session.username).2 record) frame job.frameRate), ?_⟩
    dsimp only [finishGenerate, World.apply]
    split
    · split
      · exact .calling rfl le_rfl (by simp [Call.placement?]) (by simp) (by simp) recorded rfl
      · split
        · exact .calling rfl le_rfl (by simp [Call.placement?]) (by simp) (by simp) recorded rfl
        · exact .calling rfl le_rfl (by simp [Call.placement?]) (by simp) (by simp) recorded rfl
    · exact .calling rfl le_rfl (by simp [Call.placement?]) (by simp) (by simp) recorded rfl
  · rename_i store found
    obtain rfl : store = _ := (congrArg Prod.snd found).symm
    exact ⟨none, .quiet rfl recorded rfl⟩

/-- Recording a canvas keeps the placement records. -/
theorem handlesAddCanvas_placements (store : HandleStore) (canvas : Object) (width height : UInt64)
    (owner : Bytes) (memory : Bool) :
    (handlesAddCanvas store canvas width height owner memory).2.placements = store.placements := by
  cases memory <;> rfl

/-- Recording a sprite keeps the placement records. -/
theorem handlesAddSprite_placements (store : HandleStore) (sprite : Object) (owner : Bytes)
    (memory : Bool) :
    (handlesAddSprite store sprite owner memory).2.placements = store.placements := by
  cases memory <;> rfl

/-- The placement records after one was added. -/
theorem handlesAddPlacement_records (store : HandleStore) (placement : Object)
    (canvasId spriteId : UInt64) (owner : Bytes) (memory : Bool) (object : Object) :
    RecordsPlacement (handlesAddPlacement store placement canvasId spriteId owner memory).2 object ↔
      RecordsPlacement store object ∨ memory = true ∧ object = placement := by
  cases memory with
  | false => simp [handlesAddPlacement]
  | true => simp [handlesAddPlacement, RecordsPlacement, or_and_right, exists_or, eq_comm]

/-- Every step of a request makes at most one library call. -/
theorem advance_library (auth : AuthDb) (answers : Answers) (session : Session) (world : World)
    (gone : DestroyedCanvasesGone world.store) (pc : Pc) :
    ∃ made, LibraryStep session.username world pc (advance auth answers session world pc).2.1
      (advance auth answers session world pc).2.2 made := by
  cases pc with
  | start line => exact startRequest_library auth answers session world line
  | addCanvas canvas width height =>
    refine answerHandle_library answers { world with store := (handlesAddCanvas world.store canvas
      width height session.username answers.memory).2 } _ _ rfl (by simp [Call.placement?]) ?_
      (by simp) ?_
    · rintro other same
      cases same
      rfl
    · simp only [RecordsPlacement, handlesAddCanvas_placements]
      exact fun _ => .inl
  | addSprite sprite =>
    refine answerHandle_library answers { world with store := (handlesAddSprite world.store sprite
      session.username answers.memory).2 } _ _ rfl (by simp [Call.placement?]) (by simp) (by simp) ?_
    simp only [RecordsPlacement, handlesAddSprite_placements]
    exact fun _ => .inl
  | locking command => exact lockedSection_library answers session world command
  | barrierWait record user =>
    refine ⟨none, .quiet rfl (fun _ => .inl) ?_⟩
    simp only [advance]
    split <;> rfl
  | canvasWait record user resume =>
    simp only [advance]
    split
    · exact ⟨none, .quiet rfl (fun _ => .inl) rfl⟩
    · exact resumeAfterWait_library world world rfl rfl (fun _ => id) answers resume
  | addPlacement placement canvasId spriteId =>
    refine answerHandle_library answers { world with store := (handlesAddPlacement world.store
      placement canvasId spriteId session.username answers.memory).2 } _ _ rfl ?_ (by simp) (by simp) ?_
    · rintro other same
      cases same
      exact .inr rfl
    · intro other live
      rcases (handlesAddPlacement_records _ _ _ _ _ _ _).mp live with old | ⟨-, rfl⟩
      · exact .inl old
      · exact .inr rfl
  | frame job frame => exact generateFrame_library answers session world job frame
  | disconnect =>
    simp only [advance]
    split
    · refine ⟨none, .quiet ?_ (fun placement live => .inl ?_) rfl⟩
      · simp [World.apply, Library.emit, handlesDisconnectUser_calls gone]
      · simp only [World.apply, RecordsPlacement, handlesDisconnectUser] at live
        split at live <;> exact live
    · exact ⟨none, .quiet rfl (fun _ => .inl) rfl⟩
  | endSession => exact ⟨none, .quiet rfl (fun _ => .inl) rfl⟩
  | finished response => exact ⟨none, .quiet rfl (fun _ => .inl) rfl⟩

end AnimateService
