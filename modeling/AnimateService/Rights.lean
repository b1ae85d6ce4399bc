import AnimateService.LibraryUse
import AnimateService.Members
import AnimateService.Operations

/-!
# Rights in the store

A user may use the canvases that have a member of that name and the sprites and placements that
it owns. `RightfulStep` is what one step of a request uses: whatever it passes to the library is
either an object of the request's own making or one that the store lets its user use, and what a
thread holds while it waits are records of that kind.
-/
namespace AnimateService

open LinkedList

/-- The canvas that a call works on. -/
def Call.canvas? : Call → Option Object
  | .destroyCanvas canvas => some canvas
  | .placeSprite canvas _ _ _ _ | .frameSizeBytes canvas | .generateFrame canvas _ _ => canvas
  | _ => none

/-- The sprite that a call works on. -/
def Call.sprite? : Call → Option Object
  | .destroySprite sprite _ => some sprite
  | .placeSprite _ sprite _ _ _ => sprite
  | _ => none

/-- The canvas has the user among its members. -/
def Admits (store : HandleStore) (user : Bytes) (canvas : Object) : Prop :=
  ∃ record ∈ store.canvases, record.canvas = some canvas ∧ user ∈ record.names

/-- The sprite is the user's. -/
def OwnsSprite (store : HandleStore) (user : Bytes) (sprite : Object) : Prop :=
  ∃ record ∈ store.sprites, record.sprite = some sprite ∧ record.owner = user

/-- The placement is the user's. -/
def OwnsPlacement (store : HandleStore) (user : Bytes) (placement : Object) : Prop :=
  ∃ record ∈ store.placements, record.placement = some placement ∧ record.owner = user

/-- The user is a member of the canvas record at an address. -/
def MemberAt (store : HandleStore) (user : Bytes) (record : CanvasPtr) : Prop :=
  ∃ canvas, store.canvases[record]? = some canvas ∧ user ∈ canvas.names

/-- The sprite record at an address is the user's. -/
def SpriteAt (store : HandleStore) (user : Bytes) (record : Nat) : Prop :=
  ∃ sprite, store.sprites[record]? = some sprite ∧ sprite.owner = user

/-- The placement record at an address is the user's. -/
def PlacementAt (store : HandleStore) (user : Bytes) (record : Nat) : Prop :=
  ∃ placement, store.placements[record]? = some placement ∧ placement.owner = user

/-- The records behind a wait are the user's to use. -/
def Resume.Holds (store : HandleStore) (user : Bytes) : Resume → Prop
  | .place canvas sprite _ _ _ _ => MemberAt store user canvas ∧ SpriteAt store user sprite
  | .move _ placement | .setParams placement _ _ _ _ => PlacementAt store user placement
  | .generate canvas _ => MemberAt store user canvas

/-- A thread waits for records that are the user's to use. -/
def Pc.Holds (store : HandleStore) (user : Bytes) : Pc → Prop
  | .canvasWait _ _ resume => resume.Holds store user
  | _ => True

/-- The sprite that a thread has created and not recorded yet. -/
def Pc.unrecordedSprite : Pc → Option Object
  | .addSprite sprite => some sprite
  | _ => none

/-- What a step of a user's request passes to the library, and what it goes on with. -/
structure RightfulStep (user : Bytes) (before : World) (pc : Pc) (after : World) (next : Pc)
    (made : List Call) : Prop where
  /-- The calls it logs. -/
  logged : after.library.calls = made ++ before.library.calls
  /-- Canvases. -/
  canvases : ∀ call ∈ made, ∀ canvas, call.canvas? = some canvas →
    pc.unrecordedCanvas = some canvas ∨ Admits before.store user canvas
  /-- Sprites. -/
  sprites : ∀ call ∈ made, ∀ sprite, call.sprite? = some sprite →
    pc.unrecordedSprite = some sprite ∨ OwnsSprite before.store user sprite
  /-- Placements. -/
  placements : ∀ call ∈ made, ∀ placement, call.placement? = some placement →
    pc.unrecordedPlacement = some placement ∨ OwnsPlacement before.store user placement
  /-- A canvas to be recorded was created in this step. -/
  canvasMade : ∀ canvas, next.unrecordedCanvas = some canvas →
    ∃ height width color, .createCanvas height width color (some canvas) ∈ made
  /-- So was a sprite. -/
  spriteMade : ∀ sprite, next.unrecordedSprite = some sprite →
    ∃ shape, .createSprite shape (some sprite) ∈ made
  /-- So was a placement. -/
  placementMade : ∀ placement, next.unrecordedPlacement = some placement →
    ∃ canvas sprite x y, .placeSprite canvas sprite x y (some placement) ∈ made
  /-- What the thread holds from here on. -/
  holds : next.Holds after.store user

section Steps

variable {user : Bytes} {before world after : World} {pc next : Pc} {answers : Answers}

/-- A thread that has nothing to record and nothing to resume. -/
def Pc.isFree (pc : Pc) : Prop :=
  pc.unrecordedCanvas = none ∧ pc.unrecordedSprite = none ∧ pc.unrecordedPlacement = none

/-- A response is free. -/
@[simp] theorem isFree_reply (text : Bytes) : (answers.reply text).isFree := ⟨rfl, rfl, rfl⟩

/-- A response holds nothing. -/
@[simp] theorem holds_reply (store : HandleStore) (text : Bytes) :
    (answers.reply text).Holds store user := trivial

/-- A step that calls nothing. -/
theorem RightfulStep.quiet (library : after.library = before.library) (free : next.isFree)
    (holds : next.Holds after.store user) : RightfulStep user before pc after next [] where
  logged := by rw [library]; rfl
  canvases := by simp
  sprites := by simp
  placements := by simp
  canvasMade := by simp [free.1]
  spriteMade := by simp [free.2.1]
  placementMade := by simp [free.2.2]
  holds := holds

/-- A step that makes calls and leads to a place that is free. -/
theorem RightfulStep.calling {made : List Call}
    (logged : after.library.calls = made ++ before.library.calls)
    (canvases : ∀ call ∈ made, ∀ canvas, call.canvas? = some canvas →
      pc.unrecordedCanvas = some canvas ∨ Admits before.store user canvas)
    (sprites : ∀ call ∈ made, ∀ sprite, call.sprite? = some sprite →
      pc.unrecordedSprite = some sprite ∨ OwnsSprite before.store user sprite)
    (placements : ∀ call ∈ made, ∀ placement, call.placement? = some placement →
      pc.unrecordedPlacement = some placement ∨ OwnsPlacement before.store user placement)
    (free : next.isFree) (holds : next.Holds after.store user) :
    RightfulStep user before pc after next made where
  logged := logged
  canvases := canvases
  sprites := sprites
  placements := placements
  canvasMade := by simp [free.1]
  spriteMade := by simp [free.2.1]
  placementMade := by simp [free.2.2]
  holds := holds

/-! ## Records that a thread holds -/

/-- The canvas of a record with the member admits it. -/
theorem MemberAt.admits {store : HandleStore} {record : CanvasPtr} {canvas : Object}
    (member : MemberAt store user record) (pointer : canvasRecordPtr store record = some canvas) :
    Admits store user canvas := by
  obtain ⟨found, present, inside⟩ := member
  rw [canvasRecordPtr, present] at pointer
  exact ⟨found, List.mem_of_getElem? present, pointer, inside⟩

/-- The sprite of a record of the user is the user's. -/
theorem SpriteAt.owns {store : HandleStore} {record : Nat} {sprite : Object}
    (owned : SpriteAt store user record) (pointer : spriteRecordPtr store record = some sprite) :
    OwnsSprite store user sprite := by
  obtain ⟨found, present, named⟩ := owned
  rw [spriteRecordPtr, present] at pointer
  exact ⟨found, List.mem_of_getElem? present, pointer, named⟩

/-- The placement of a record of the user is the user's. -/
theorem PlacementAt.owns {store : HandleStore} {record : Nat} {placement : Object}
    (owned : PlacementAt store user record)
    (pointer : placementRecordPtr store record = some placement) :
    OwnsPlacement store user placement := by
  obtain ⟨found, present, named⟩ := owned
  rw [placementRecordPtr, present] at pointer
  exact ⟨found, List.mem_of_getElem? present, pointer, named⟩

/-- A canvas is found for its members only. -/
theorem canvasFor_memberAt {store : HandleStore} {id : UInt64} {record : CanvasPtr}
    (found : canvasFor store id user = some record) : MemberAt store user record := by
  obtain ⟨canvas, index, present, -, -, -, member⟩ := canvasFor_some found
  obtain ⟨shared, there, named⟩ := CanvasRecord.findSharedUser_some member
  exact ⟨canvas, present, List.mem_map.mpr ⟨shared, List.mem_of_getElem? there, named⟩⟩

/-- A sprite is found for its owner only. -/
theorem handlesGetSprite_at {store : HandleStore} {id : UInt64} {record : Nat}
    (found : handlesGetSprite store id user = some record) : SpriteAt store user record := by
  unfold handlesGetSprite at found
  split at found
  · cases found
  · obtain ⟨sprite, present, accepted⟩ := newest?_some found
    simp only [Bool.and_eq_true, decide_eq_true_eq] at accepted
    exact ⟨sprite, present, accepted.2⟩

/-- A placement is found for its owner only. -/
theorem handlesGetPlacement_at {store : HandleStore} {id : UInt64} {record : Nat}
    (found : handlesGetPlacement store id user = some record) : PlacementAt store user record := by
  unfold handlesGetPlacement at found
  split at found
  · cases found
  · obtain ⟨placement, present, accepted⟩ := newest?_some found
    simp only [Bool.and_eq_true, decide_eq_true_eq] at accepted
    exact ⟨placement, present, accepted.2⟩

/-- What a lookup returns is what it found. -/
theorem handlesGetCanvas_found {store : HandleStore} {id : UInt64} {name : Bytes}
    {record : CanvasPtr} (found : (handlesGetCanvas store id name).1 = some record) :
    canvasFor store id name = some record := by
  unfold handlesGetCanvas at found
  split at found
  · rename_i there
    exact there.trans found
  · cases found

/-- The store after a lookup of a canvas, as far as rights are concerned. -/
structure LookedUp (user : Bytes) (before after : HandleStore) : Prop where
  /-- Nobody is admitted who was not before. -/
  admits : ∀ canvas, Admits after user canvas → Admits before user canvas
  /-- Members stay. -/
  member : ∀ record, MemberAt before user record → MemberAt after user record
  /-- Sprites are untouched. -/
  sprites : after.sprites = before.sprites
  /-- Placements are untouched. -/
  placements : after.placements = before.placements

/-- A lookup gives no rights. -/
theorem handlesGetCanvas_lookedUp (store : HandleStore) (id : UInt64) (name : Bytes) :
    LookedUp user store (handlesGetCanvas store id name).2 := by
  obtain ⟨sprites, placements⟩ := handlesGetCanvas_elsewhere store id name
  cases found : canvasFor store id name with
  | none =>
    rw [handlesGetCanvas_none found]
    exact ⟨fun _ held => held, fun _ held => held, rfl, rfl⟩
  | some hit =>
    refine ⟨?_, ?_, sprites, placements⟩
    · rintro canvas ⟨record, inside, pointer, member⟩
      obtain ⟨index, present⟩ := List.mem_iff_getElem?.mp inside
      simp only [handlesGetCanvas_some found, canvases_updateCanvas] at present
      split at present
      · obtain ⟨old, there, rfl⟩ := Option.map_eq_some_iff.mp present
        rw [(connect_object _ _).1] at pointer
        rw [names_connect] at member
        exact ⟨old, List.mem_of_getElem? there, pointer, member⟩
      · exact ⟨record, List.mem_of_getElem? present, pointer, member⟩
    · rintro record ⟨canvas, present, member⟩
      by_cases same : hit = record
      · refine ⟨canvas.connect name, ?_, by rwa [names_connect]⟩
        simp [handlesGetCanvas_some found, canvases_updateCanvas, same, present]
      · refine ⟨canvas, ?_, member⟩
        simpa [handlesGetCanvas_some found, canvases_updateCanvas, same] using present

/-! ## The steps -/

/-- The rest of a canvas operation uses the records that it holds. -/
theorem resumeAfterWait_rights (before world : World) (library : world.library = before.library)
    (looked : LookedUp user before.store world.store) {resume : Resume}
    (holds : resume.Holds world.store user) :
    ∃ made, RightfulStep user before pc (resumeAfterWait answers world resume).1
      (resumeAfterWait answers world resume).2 made := by
  have owned : ∀ {record placement}, PlacementAt world.store user record →
      placementRecordPtr world.store record = some placement →
      OwnsPlacement before.store user placement := by
    intro record placement held pointer
    simpa only [OwnsPlacement, looked.placements] using held.owns pointer
  cases resume with
  | place canvas sprite canvasId spriteId x y =>
    obtain ⟨member, owner⟩ := holds
    have canvases : ∀ object, canvasRecordPtr world.store canvas = some object →
        Admits before.store user object :=
      fun object pointer => looked.admits object (member.admits pointer)
    have sprites : ∀ object, spriteRecordPtr world.store sprite = some object →
        OwnsSprite before.store user object := by
      intro object pointer
      simpa only [OwnsSprite, looked.sprites] using owner.owns pointer
    cases created : answers.created with
    | true =>
      refine ⟨[.placeSprite (canvasRecordPtr world.store canvas)
        (spriteRecordPtr world.store sprite) x y (some world.library.next)], ?_⟩
      simp only [resumeAfterWait, created, Library.create, ↓reduceIte]
      exact
        { logged := by simp [library]
          canvases := by simpa [Call.canvas?] using fun object pointer => .inr (canvases object pointer)
          sprites := by simpa [Call.sprite?] using fun object pointer => .inr (sprites object pointer)
          placements := by simp [Call.placement?]
          canvasMade := by simp [Pc.unrecordedCanvas]
          spriteMade := by simp [Pc.unrecordedSprite]
          placementMade := by simp [Pc.unrecordedPlacement]
          holds := trivial }
    | false =>
      refine ⟨[.placeSprite (canvasRecordPtr world.store canvas)
        (spriteRecordPtr world.store sprite) x y none], ?_⟩
      simp only [resumeAfterWait, created, Library.create]
      refine .calling (by simp [library]) ?_ ?_ (by simp [Call.placement?]) (by simp) (by simp)
      · simpa [Call.canvas?] using fun object pointer => .inr (canvases object pointer)
      · simpa [Call.sprite?] using fun object pointer => .inr (sprites object pointer)
  | move move placement =>
    refine ⟨[.movePlacement move (placementRecordPtr world.store placement)], .calling
      (by simp [resumeAfterWait, World.apply, Library.emit, library]) (by simp [Call.canvas?])
      (by simp [Call.sprite?]) ?_ (by simp [resumeAfterWait]) (by simp [resumeAfterWait])⟩
    simpa [Call.placement?] using fun object pointer => .inr (owned holds pointer)
  | setParams placement vx vy ax ay =>
    refine ⟨[.setAnimationParams (placementRecordPtr world.store placement) vx vy ax ay], .calling
      (by simp [resumeAfterWait, World.apply, Library.emit, library]) (by simp [Call.canvas?])
      (by simp [Call.sprite?]) ?_ (by simp [resumeAfterWait]) (by simp [resumeAfterWait])⟩
    simpa [Call.placement?] using fun object pointer => .inr (owned holds pointer)
  | generate canvas job =>
    have canvases : ∀ object, canvasRecordPtr world.store canvas = some object →
        pc.unrecordedCanvas = some object ∨ Admits before.store user object :=
      fun object pointer => .inr (looked.admits object (holds.admits pointer))
    refine ⟨[.frameSizeBytes (canvasRecordPtr world.store canvas)], ?_⟩
    unfold resumeAfterWait
    cases answers.buffers <;> cases answers.opened <;>
      exact .calling (by simp [World.apply, Library.emit, library])
        (by simpa [Call.canvas?] using canvases) (by simp [Call.sprite?]) (by simp [Call.placement?])
        ⟨rfl, rfl, rfl⟩ trivial

/-- A canvas operation that may have to wait uses the records that it holds. -/
theorem waitThenResume_rights (before world : World) (library : world.library = before.library)
    (looked : LookedUp user before.store world.store) {record : CanvasPtr} {name : Bytes}
    {resume : Resume} (holds : resume.Holds world.store user) :
    ∃ made, RightfulStep user before pc (waitThenResume answers world record name resume).1
      (waitThenResume answers world record name resume).2 made := by
  unfold waitThenResume
  split
  · exact ⟨[], .quiet library ⟨rfl, rfl, rfl⟩ holds⟩
  · exact resumeAfterWait_rights before world library looked holds

/-- The section of an operation on a placement that was found. -/
theorem throughPlacement_rights {name : Bytes} {placement : Nat} {resume : Resume}
    (holds : ∀ store, store.placements = world.store.placements → resume.Holds store user) :
    ∃ made, RightfulStep user world pc
      (throughPlacement answers world name placement resume).1
      (throughPlacement answers world name placement resume).2 made := by
  have looked : LookedUp user world.store _ := handlesGetCanvas_lookedUp world.store
    (placementRecordCanvasId world.store placement) name
  have held := holds _ looked.placements
  unfold throughPlacement
  split
  · rename_i canvas store found
    obtain rfl : store = _ := (congrArg Prod.snd found).symm
    exact waitThenResume_rights world { world with store := (handlesGetCanvas world.store _ name).2 }
      rfl looked held
  · rename_i store found
    obtain rfl : store = _ := (congrArg Prod.snd found).symm
    exact resumeAfterWait_rights world { world with store := (handlesGetCanvas world.store _ name).2 }
      rfl looked held

/-- The library calls of a user's disconnection work on canvases that admit it. -/
theorem handlesDisconnectUser_rights {store : HandleStore} {call : Call}
    (made : call ∈ (handlesDisconnectUser store user).2) :
    ∃ canvas, call = .destroyCanvas canvas ∧ Admits store user canvas := by
  unfold handlesDisconnectUser at made
  split at made
  · cases made
  · obtain ⟨record, inside, called⟩ := List.mem_flatMap.mp made
    unfold CanvasRecord.disconnect at called
    split at called
    · rename_i index member
      obtain ⟨shared, there, named⟩ := CanvasRecord.findSharedUser_some member
      unfold maybeDestroyCanvas at called
      split at called
      · rename_i canvas pointer
        split at called
        · refine ⟨canvas, List.mem_singleton.mp called, record, List.mem_reverse.mp inside,
            (depart_object record user).1 ▸ pointer, ?_⟩
          exact List.mem_map.mpr ⟨shared, List.mem_of_getElem? there, named⟩
        · cases called
      · cases called
    · cases called

/-- The library call that destroys a sprite works on a sprite of the user. -/
theorem handlesDestroySprite_rights {store : HandleStore} {id : UInt64} {failed : Bool} {call : Call}
    (made : call ∈ (handlesDestroySprite store id user failed).2.2) :
    ∃ sprite reported, call = .destroySprite sprite reported ∧ OwnsSprite store user sprite := by
  unfold handlesDestroySprite at made
  split at made
  · cases made
  · rename_i record found
    have owner := handlesGetSprite_at found
    cases pointer : spriteRecordPtr store record with
    | none => simp [pointer] at made
    | some sprite =>
      cases failed <;> simp only [pointer] at made <;>
        exact ⟨sprite, _, List.mem_singleton.mp made, owner.owns pointer⟩

/-- The library call that destroys a placement works on a placement of the user. -/
theorem handlesDestroyPlacement_rights {store : HandleStore} {id : UInt64} {call : Call}
    (made : call ∈ (handlesDestroyPlacement store id user).2.2) :
    ∃ placement, call = .destroyPlacement placement ∧ OwnsPlacement store user placement := by
  unfold handlesDestroyPlacement at made
  split at made
  · cases made
  · rename_i record found
    obtain ⟨placement, pointer, rfl⟩ := List.mem_map.mp made
    exact ⟨placement, rfl, (handlesGetPlacement_at found).owns (Option.mem_toList.mp pointer)⟩

/-- The library call that destroys a canvas works on a canvas that admits the user. -/
theorem handlesDestroyCanvasForUser_rights {store : HandleStore} {id : UInt64} {call : Call}
    (made : call ∈ (handlesDestroyCanvasForUser store id user).2.2) :
    ∃ canvas, call = .destroyCanvas canvas ∧ Admits store user canvas := by
  rcases handlesDestroyCanvasForUser_calls store id user with
    ⟨canvas, ⟨record, old, found, present, pointer, -⟩, calls⟩ | ⟨-, calls⟩
  · rw [calls] at made
    refine ⟨canvas, List.mem_singleton.mp made, (canvasFor_memberAt found).admits ?_⟩
    rw [canvasRecordPtr, present]
    exact pointer
  · rw [calls] at made
    cases made

/-- A section that calls what its operation returns and answers. -/
theorem RightfulStep.answering {store : HandleStore} {made : List Call} {text : Bytes}
    (canvases : ∀ call ∈ made, ∀ canvas, call.canvas? = some canvas →
      pc.unrecordedCanvas = some canvas ∨ Admits world.store user canvas)
    (sprites : ∀ call ∈ made, ∀ sprite, call.sprite? = some sprite →
      pc.unrecordedSprite = some sprite ∨ OwnsSprite world.store user sprite)
    (placements : ∀ call ∈ made, ∀ placement, call.placement? = some placement →
      pc.unrecordedPlacement = some placement ∨ OwnsPlacement world.store user placement) :
    ∃ logged, RightfulStep user world pc (world.apply store made) (answers.reply text) logged :=
  ⟨made.reverse, .calling rfl (by simpa using canvases) (by simpa using sprites)
    (by simpa using placements) (isFree_reply text) trivial⟩

/-- A section uses what its user may use. -/
theorem lockedSection_rights {session : Session} (command : StoreCommand) :
    ∃ made, RightfulStep session.username world (.locking command)
      (lockedSection answers session world command).1
      (lockedSection answers session world command).2 made := by
  cases command with
  | destroyCanvas id =>
    refine RightfulStep.answering ?_ ?_ ?_ <;> intro call made <;>
      obtain ⟨canvas, rfl, admitted⟩ := handlesDestroyCanvasForUser_rights made
    · rintro _ ⟨⟩
      exact .inr admitted
    · rintro _ ⟨⟩
    · rintro _ ⟨⟩
  | destroySprite id =>
    refine RightfulStep.answering ?_ ?_ ?_ <;> intro call made <;>
      obtain ⟨sprite, reported, rfl, owned⟩ := handlesDestroySprite_rights made
    · rintro _ ⟨⟩
    · rintro _ ⟨⟩
      exact .inr owned
    · rintro _ ⟨⟩
  | destroyPlacement id =>
    refine RightfulStep.answering ?_ ?_ ?_ <;> intro call made <;>
      obtain ⟨placement, rfl, owned⟩ := handlesDestroyPlacement_rights made
    · rintro _ ⟨⟩
    · rintro _ ⟨⟩
    · rintro _ ⟨⟩
      exact .inr owned
  | placeSprite canvasId spriteId x y =>
    have looked : LookedUp session.username world.store _ :=
      handlesGetCanvas_lookedUp world.store canvasId session.username
    simp only [lockedSection]
    split
    · rename_i canvas sprite there found
      have owner := handlesGetSprite_at found
      refine waitThenResume_rights world
        { world with store := (handlesGetCanvas world.store canvasId session.username).2 } rfl
        looked ⟨looked.member canvas (canvasFor_memberAt (handlesGetCanvas_found there)), owner⟩
    · exact ⟨[], .quiet rfl (isFree_reply _) trivial⟩
  | movePlacement move id =>
    simp only [lockedSection]
    split
    · rename_i placement found
      obtain ⟨record, present, owner⟩ := handlesGetPlacement_at found
      exact throughPlacement_rights fun store same => ⟨record, same ▸ present, owner⟩
    · exact ⟨[], .quiet rfl (isFree_reply _) trivial⟩
  | setAnimationParams id vx vy ax ay =>
    simp only [lockedSection]
    split
    · rename_i placement found
      obtain ⟨record, present, owner⟩ := handlesGetPlacement_at found
      exact throughPlacement_rights fun store same => ⟨record, same ▸ present, owner⟩
    · exact ⟨[], .quiet rfl (isFree_reply _) trivial⟩
  | shareCanvas canvasId target => exact ⟨[], .quiet rfl (isFree_reply _) trivial⟩
  | barrier canvasId =>
    simp only [lockedSection]
    split
    · exact ⟨[], .quiet rfl ⟨rfl, rfl, rfl⟩ trivial⟩
    all_goals exact ⟨[], .quiet rfl (isFree_reply _) trivial⟩
  | generate job =>
    have looked : LookedUp session.username world.store _ :=
      handlesGetCanvas_lookedUp world.store job.canvasId session.username
    simp only [lockedSection]
    split
    · rename_i canvas store found
      obtain rfl : store = _ := (congrArg Prod.snd found).symm
      have there := handlesGetCanvas_found (congrArg Prod.fst found)
      exact waitThenResume_rights world
        { world with store := (handlesGetCanvas world.store job.canvasId session.username).2 } rfl
        looked (looked.member canvas (canvasFor_memberAt there))
    · exact ⟨[], .quiet rfl (isFree_reply _) trivial⟩

/-- The answer to an added record, or the end of the object that could not be recorded. -/
theorem answerHandle_rights {id : UInt64} {undo : Call} (library : world.library = before.library)
    (canvases : ∀ canvas, undo.canvas? = some canvas → pc.unrecordedCanvas = some canvas)
    (sprites : ∀ sprite, undo.sprite? = some sprite → pc.unrecordedSprite = some sprite)
    (placements : ∀ placement, undo.placement? = some placement →
      pc.unrecordedPlacement = some placement) :
    ∃ made, RightfulStep user before pc (answerHandle answers world id undo).1
      (answerHandle answers world id undo).2 made := by
  unfold answerHandle
  split
  · refine ⟨[undo], .calling (by simp [World.apply, Library.emit, library]) ?_ ?_ ?_
      (isFree_reply _) trivial⟩
    · simpa using fun canvas works => .inl (canvases canvas works)
    · simpa using fun sprite works => .inl (sprites sprite works)
    · simpa using fun placement works => .inl (placements placement works)
  · exact ⟨[], .quiet library (isFree_reply _) trivial⟩

/-- Rendering uses the canvas that was looked up for its frame. -/
theorem generateFrame_rights {session : Session} {job : GenerateJob} {frame : UInt64} :
    ∃ made, RightfulStep session.username world pc
      (generateFrame answers session world job frame).1
      (generateFrame answers session world job frame).2 made := by
  have looked : LookedUp session.username world.store _ :=
    handlesGetCanvas_lookedUp world.store job.canvasId session.username
  unfold generateFrame
  split
  · rename_i record store found
    obtain rfl : store = _ := (congrArg Prod.snd found).symm
    have member := canvasFor_memberAt (handlesGetCanvas_found (congrArg Prod.fst found))
    have canvases : ∀ canvas, canvasRecordPtr
        (handlesGetCanvas world.store job.canvasId session.username).2 record = some canvas →
          pc.unrecordedCanvas = some canvas ∨ Admits world.store session.username canvas :=
      fun canvas pointer =>
        .inr (looked.admits canvas ((looked.member record member).admits pointer))
    refine ⟨[.generateFrame (canvasRecordPtr (handlesGetCanvas world.store job.canvasId
      session.username).2 record) frame job.frameRate], ?_⟩
    dsimp only [finishGenerate, World.apply]
    split
    · split
      · exact .calling rfl (by simpa [Call.canvas?] using canvases) (by simp [Call.sprite?])
          (by simp [Call.placement?]) ⟨rfl, rfl, rfl⟩ trivial
      · split <;>
          exact .calling rfl (by simpa [Call.canvas?] using canvases) (by simp [Call.sprite?])
            (by simp [Call.placement?]) ⟨rfl, rfl, rfl⟩ trivial
    · exact .calling rfl (by simpa [Call.canvas?] using canvases) (by simp [Call.sprite?])
        (by simp [Call.placement?]) ⟨rfl, rfl, rfl⟩ trivial
  · exact ⟨[], .quiet rfl (isFree_reply _) trivial⟩

/-- The creation of a library object uses nothing. -/
theorem beginCommand_rights (command : Command) :
    ∃ made, RightfulStep user world pc (beginCommand answers world command).1
      (beginCommand answers world command).2 made := by
  cases command with
  | createCanvas height width color =>
    cases created : answers.created with
    | true =>
      refine ⟨[.createCanvas height width color (some world.library.next)], ?_⟩
      simp only [beginCommand, created, Library.create, ↓reduceIte]
      exact
        { logged := rfl
          canvases := by simp [Call.canvas?]
          sprites := by simp [Call.sprite?]
          placements := by simp [Call.placement?]
          canvasMade := by simp [Pc.unrecordedCanvas]
          spriteMade := by simp [Pc.unrecordedSprite]
          placementMade := by simp [Pc.unrecordedPlacement]
          holds := trivial }
    | false =>
      refine ⟨[.createCanvas height width color none], ?_⟩
      simp only [beginCommand, created, Library.create]
      exact .calling rfl (by simp [Call.canvas?]) (by simp [Call.sprite?])
        (by simp [Call.placement?]) (isFree_reply _) trivial
  | createSprite shape =>
    cases created : answers.created with
    | true =>
      refine ⟨[.createSprite shape (some world.library.next)], ?_⟩
      simp only [beginCommand, created, Library.create, ↓reduceIte]
      exact
        { logged := rfl
          canvases := by simp [Call.canvas?]
          sprites := by simp [Call.sprite?]
          placements := by simp [Call.placement?]
          canvasMade := by simp [Pc.unrecordedCanvas]
          spriteMade := by simp [Pc.unrecordedSprite]
          placementMade := by simp [Pc.unrecordedPlacement]
          holds := trivial }
    | false =>
      refine ⟨[.createSprite shape none], ?_⟩
      simp only [beginCommand, created, Library.create]
      exact .calling rfl (by simp [Call.canvas?]) (by simp [Call.sprite?])
        (by simp [Call.placement?]) (isFree_reply _) trivial
  | store command => exact ⟨[], .quiet rfl ⟨rfl, rfl, rfl⟩ trivial⟩

/-- The step that parses a request uses nothing. -/
theorem startRequest_rights {auth : AuthDb} {session : Session} {line : Bytes} :
    ∃ made, RightfulStep user world pc (startRequest auth answers session world line).2.1
      (startRequest auth answers session world line).2.2 made := by
  have answered : ∀ (answers : Answers) (text : Bytes), ∃ made,
      RightfulStep user world pc world (answers.reply text) made :=
    fun _ text => ⟨[], .quiet rfl (isFree_reply text) trivial⟩
  apply startRequest_cases (motive := fun result =>
    ∃ made, RightfulStep user world pc result.2.1 result.2.2 made)
  · exact fun answers code => answered answers (responseCode code)
  · intro arguments _
    obtain ⟨text, replied⟩ := login_reply auth answers session arguments
    rw [replied]
    exact answered answers text
  · exact fun _ _ => ⟨[], .quiet rfl ⟨rfl, rfl, rfl⟩ trivial⟩
  · exact fun _ _ command _ _ _ _ _ _ => beginCommand_rights command

/-- Every step of a request uses what its user made or may use, if the thread holds no more. -/
theorem advance_rights {auth : AuthDb} {session : Session}
    (holds : pc.Holds world.store session.username) :
    ∃ made, RightfulStep session.username world pc
      (advance auth answers session world pc).2.1 (advance auth answers session world pc).2.2 made := by
  cases pc with
  | start line => exact startRequest_rights
  | addCanvas canvas width height =>
    exact answerHandle_rights rfl (by simp [Call.canvas?, Pc.unrecordedCanvas])
      (by simp [Call.sprite?]) (by simp [Call.placement?])
  | addSprite sprite =>
    exact answerHandle_rights rfl (by simp [Call.canvas?])
      (by simp [Call.sprite?, Pc.unrecordedSprite]) (by simp [Call.placement?])
  | addPlacement placement canvasId spriteId =>
    exact answerHandle_rights rfl (by simp [Call.canvas?]) (by simp [Call.sprite?])
      (by simp [Call.placement?, Pc.unrecordedPlacement])
  | locking command => exact lockedSection_rights command
  | barrierWait record user =>
    refine ⟨[], .quiet rfl ?_ ?_⟩ <;> simp only [advance] <;> split
    · exact ⟨rfl, rfl, rfl⟩
    · exact isFree_reply _
    · trivial
    · trivial
  | canvasWait record user resume =>
    simp only [advance]
    split
    · exact ⟨[], .quiet rfl ⟨rfl, rfl, rfl⟩ holds⟩
    · exact resumeAfterWait_rights world world rfl
        ⟨fun _ held => held, fun _ held => held, rfl, rfl⟩ holds
  | frame job frame => exact generateFrame_rights
  | disconnect =>
    simp only [advance]
    split
    · refine ⟨_, .calling rfl ?_ ?_ ?_ ⟨rfl, rfl, rfl⟩ trivial⟩ <;> intro call made <;>
        obtain ⟨canvas, rfl, admitted⟩ := handlesDisconnectUser_rights (List.mem_reverse.mp made)
      · rintro _ ⟨⟩
        exact .inr admitted
      · rintro _ ⟨⟩
      · rintro _ ⟨⟩
    · exact ⟨[], .quiet rfl (isFree_reply _) trivial⟩
  | endSession => exact ⟨[], .quiet rfl (isFree_reply _) trivial⟩
  | finished response => exact ⟨[], .quiet rfl ⟨rfl, rfl, rfl⟩ trivial⟩

end Steps

end AnimateService
