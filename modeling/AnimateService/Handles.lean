import AnimateService.Animate
import AnimateService.Auth
import AnimateService.Library.Scan

/-!
# The handle store

`handles.c`: canvases with their members, sprites and placements under one counter of handles.
Every list of the store grows at its head and never loses a record before `handles_destroy`; it
is kept here oldest record first, and the index of a record or a member stands for its address.
The functions below return the library calls they make. Those that run under the store's mutex
are pure state changes; waiting on `barrier_cond` is left to the callers.
-/
namespace AnimateService

open LinkedList

/-- The address of a canvas record. -/
abbrev CanvasPtr := Nat

/-- The address of a member within its canvas record. -/
abbrev UserPtr := Nat

/-- `INVALID_HANDLE`. -/
def invalidHandle : UInt64 := 0

/-- `shared_user_t`. -/
structure SharedUser where
  /-- The member's name. -/
  username : Bytes
  /-- The member takes part in the barrier. -/
  connected : Bool
  /-- The member has arrived at the barrier and was not let through yet. -/
  barrierWaiting : Bool
  deriving DecidableEq, Repr

/-- `struct canvas_record` without its condition variable. -/
structure CanvasRecord where
  /-- The handle. -/
  id : UInt64
  /-- The library canvas, `NULL` once it is destroyed. -/
  canvas : Option Object
  /-- The width given at creation. -/
  width : UInt64
  /-- The height given at creation. -/
  height : UInt64
  /-- The last connected member destroyed the canvas. -/
  deleted : Bool
  /-- The members, oldest first. -/
  users : List SharedUser
  deriving DecidableEq, Repr

/-- `struct sprite_record`. -/
structure SpriteRecord where
  /-- The handle. -/
  id : UInt64
  /-- The library sprite, `NULL` once it is destroyed. -/
  sprite : Option Object
  /-- The name of the user that created it. -/
  owner : Bytes
  /-- The sprite was destroyed by a request. -/
  deleted : Bool
  deriving DecidableEq, Repr

/-- `struct placement_record`. -/
structure PlacementRecord where
  /-- The handle. -/
  id : UInt64
  /-- The library placement, `NULL` once it is destroyed. -/
  placement : Option Object
  /-- The handle of the canvas it was placed on. -/
  canvasId : UInt64
  /-- The handle of the sprite that was placed. -/
  spriteId : UInt64
  /-- The name of the user that created it. -/
  owner : Bytes
  /-- The placement was destroyed by a request. -/
  deleted : Bool
  deriving DecidableEq, Repr

/-- `struct handle_store` without its mutex. -/
structure HandleStore where
  /-- The next handle; it wraps like the `uint64_t` it is. -/
  nextId : UInt64 := 1
  /-- The canvas records, oldest first. -/
  canvases : List CanvasRecord := []
  /-- The sprite records, oldest first. -/
  sprites : List SpriteRecord := []
  /-- The placement records, oldest first. -/
  placements : List PlacementRecord := []
  deriving DecidableEq, Repr

/-- `copy_username`: the first 32 bytes of the name. -/
def copyUsername (source : Bytes) : Bytes := source.take maxUsernameLen

/-! ## Members of one canvas -/

/-- `find_shared_user`. -/
def findSharedUser (canvas : CanvasRecord) (username : Bytes) : Option UserPtr :=
  newest? (fun user => user.username = username) canvas.users

/-- `canvas_has_connected_user`. -/
def canvasHasConnectedUser (canvas : CanvasRecord) : Bool :=
  canvas.users.any SharedUser.connected

/-- `canvas_barrier_complete`: no connected member is still to arrive. -/
def canvasBarrierComplete (canvas : CanvasRecord) : Bool :=
  canvas.users.all fun user => !user.connected || user.barrierWaiting

/-- Write to the member at an address. -/
def CanvasRecord.updateUser (canvas : CanvasRecord) (user : UserPtr)
    (write : SharedUser → SharedUser) : CanvasRecord :=
  { canvas with users := canvas.users.modify user write }

/-- `user->connected = true` for the member of that name, as a lookup of the canvas does. -/
def CanvasRecord.connect (canvas : CanvasRecord) (username : Bytes) : CanvasRecord :=
  match findSharedUser canvas username with
  | some user => canvas.updateUser user fun member => { member with connected := true }
  | none => canvas

/-- Clear both flags of the member of that name, as destroying and disconnecting do. -/
def CanvasRecord.depart (canvas : CanvasRecord) (username : Bytes) : CanvasRecord :=
  match findSharedUser canvas username with
  | some user =>
    canvas.updateUser user fun member => { member with connected := false, barrierWaiting := false }
  | none => canvas

/-- `maybe_destroy_canvas`. -/
def maybeDestroyCanvas (canvas : CanvasRecord) : CanvasRecord × List Call :=
  match canvas.canvas with
  | some object =>
    if canvas.deleted && !canvasHasConnectedUser canvas then
      ({ canvas with canvas := none }, [.destroyCanvas object])
    else (canvas, [])
  | none => (canvas, [])

/-- The part of `handles_destroy_canvas_for_user` after its lookup. -/
def CanvasRecord.destroyFor (canvas : CanvasRecord) (username : Bytes) : CanvasRecord × List Call :=
  let departed := canvas.depart username
  maybeDestroyCanvas
    (if canvasHasConnectedUser departed then departed else { departed with deleted := true })

/-- The body of the loop of `handles_disconnect_user`. -/
def CanvasRecord.disconnect (canvas : CanvasRecord) (username : Bytes) :
    CanvasRecord × List Call :=
  match findSharedUser canvas username with
  | some _ => maybeDestroyCanvas (canvas.depart username)
  | none => (canvas, [])

/-- `canvas_record_share`: 0 with the member added, or present already; -1 without memory. -/
def canvasRecordShare (canvas : CanvasRecord) (username : Bytes) (memory : Bool) :
    Int × CanvasRecord :=
  match findSharedUser canvas username with
  | some _ => (0, canvas)
  | none =>
    if memory then
      (0, { canvas with users := canvas.users ++ [⟨copyUsername username, false, false⟩] })
    else (-1, canvas)

/-- How `canvas_record_barrier` goes on once it has looked for its user and tested the barrier. -/
inductive BarrierEntry where
  /-- The user is no member: return -1. -/
  | refused
  /-- Every connected member had arrived; all flags are cleared: return 0. -/
  | released (canvas : CanvasRecord)
  /-- The member's flag is set and its thread waits until it is cleared. -/
  | waits (user : UserPtr) (canvas : CanvasRecord)
  deriving DecidableEq, Repr

/-- The member's flag is set, before the barrier is tested. -/
def CanvasRecord.arrive (canvas : CanvasRecord) (user : UserPtr) : CanvasRecord :=
  canvas.updateUser user fun member => { member with barrierWaiting := true }

/-- Clear every member's flag, as the call that completes the barrier does. -/
def CanvasRecord.release (canvas : CanvasRecord) : CanvasRecord :=
  { canvas with users := canvas.users.map fun member => { member with barrierWaiting := false } }

/-- `canvas_record_barrier` up to its return or its wait. -/
def canvasRecordBarrier (canvas : CanvasRecord) (username : Bytes) : BarrierEntry :=
  match findSharedUser canvas username with
  | none => .refused
  | some user =>
    let arrived := canvas.arrive user
    if canvasBarrierComplete arrived then .released arrived.release else .waits user arrived

/-! ## Adding records -/

/-- `handles_add_canvas`: the new handle, `INVALID_HANDLE` without memory. -/
def handlesAddCanvas (store : HandleStore) (canvas : Object) (width height : UInt64)
    (owner : Bytes) (memory : Bool) : UInt64 × HandleStore :=
  if memory then
    (store.nextId,
      { store with
        nextId := store.nextId + 1
        canvases := store.canvases ++
          [{ id := store.nextId, canvas := some canvas, width, height, deleted := false,
             users := [⟨copyUsername owner, true, false⟩] }] })
  else (invalidHandle, store)

/-- `handles_add_sprite`. -/
def handlesAddSprite (store : HandleStore) (sprite : Object) (owner : Bytes) (memory : Bool) :
    UInt64 × HandleStore :=
  if memory then
    (store.nextId,
      { store with
        nextId := store.nextId + 1
        sprites := store.sprites ++
          [{ id := store.nextId, sprite := some sprite, owner := copyUsername owner,
             deleted := false }] })
  else (invalidHandle, store)

/-- `handles_add_placement`. -/
def handlesAddPlacement (store : HandleStore) (placement : Object) (canvasId spriteId : UInt64)
    (owner : Bytes) (memory : Bool) : UInt64 × HandleStore :=
  if memory then
    (store.nextId,
      { store with
        nextId := store.nextId + 1
        placements := store.placements ++
          [{ id := store.nextId, placement := some placement, canvasId, spriteId,
             owner := copyUsername owner, deleted := false }] })
  else (invalidHandle, store)

/-! ## Lookups -/

/-- The canvas records that `handles_get_canvas` accepts. -/
def CanvasRecord.answers (canvas : CanvasRecord) (id : UInt64) (username : Bytes) : Bool :=
  canvas.id = id && canvas.canvas.isSome && !canvas.deleted &&
    (findSharedUser canvas username).isSome

/-- The address that `handles_get_canvas` returns. -/
def canvasFor (store : HandleStore) (id : UInt64) (username : Bytes) : Option CanvasPtr :=
  if id = invalidHandle then none
  else newest? (fun canvas => canvas.answers id username) store.canvases

/-- Write to the canvas record at an address. -/
def HandleStore.updateCanvas (store : HandleStore) (record : CanvasPtr)
    (write : CanvasRecord → CanvasRecord) : HandleStore :=
  { store with canvases := store.canvases.modify record write }

/-- `handles_get_canvas`: the record's address; the member it was found for becomes connected. -/
def handlesGetCanvas (store : HandleStore) (id : UInt64) (username : Bytes) :
    Option CanvasPtr × HandleStore :=
  match canvasFor store id username with
  | some record => (some record, store.updateCanvas record fun canvas => canvas.connect username)
  | none => (none, store)

/-- `handles_get_sprite`. -/
def handlesGetSprite (store : HandleStore) (id : UInt64) (username : Bytes) : Option Nat :=
  if id = invalidHandle then none
  else newest? (fun record => record.id = id && record.sprite.isSome && !record.deleted &&
    record.owner = username) store.sprites

/-- `handles_get_placement`. -/
def handlesGetPlacement (store : HandleStore) (id : UInt64) (username : Bytes) : Option Nat :=
  if id = invalidHandle then none
  else newest? (fun record => record.id = id && record.placement.isSome && !record.deleted &&
    record.owner = username) store.placements

/-- `canvas_record_ptr`. -/
def canvasRecordPtr (store : HandleStore) (record : CanvasPtr) : Option Object :=
  (store.canvases[record]?).bind CanvasRecord.canvas

/-- `sprite_record_ptr`. -/
def spriteRecordPtr (store : HandleStore) (record : Nat) : Option Object :=
  (store.sprites[record]?).bind SpriteRecord.sprite

/-- `placement_record_ptr`. -/
def placementRecordPtr (store : HandleStore) (record : Nat) : Option Object :=
  (store.placements[record]?).bind PlacementRecord.placement

/-- `placement_record_canvas_id`. -/
def placementRecordCanvasId (store : HandleStore) (record : Nat) : UInt64 :=
  ((store.placements[record]?).map PlacementRecord.canvasId).getD invalidHandle

/-- `user->barrier_waiting`, read through the addresses that a waiting thread holds. -/
def HandleStore.waiting (store : HandleStore) (record : CanvasPtr) (user : UserPtr) : Bool :=
  ((store.canvases[record]?).bind fun canvas => canvas.users[user]?).any SharedUser.barrierWaiting

/-! ## Destroying and disconnecting -/

/-- Let a function act on the canvas record at an address and make library calls. -/
def HandleStore.onCanvas (store : HandleStore) (record : CanvasPtr)
    (act : CanvasRecord → CanvasRecord × List Call) : HandleStore × List Call :=
  match store.canvases[record]? with
  | some canvas => ({ store with canvases := store.canvases.set record (act canvas).1 }, (act canvas).2)
  | none => (store, [])

/-- `handles_destroy_canvas_for_user`. -/
def handlesDestroyCanvasForUser (store : HandleStore) (id : UInt64) (username : Bytes) :
    Int × HandleStore × List Call :=
  match handlesGetCanvas store id username with
  | (none, store) => (-1, store, [])
  | (some record, store) => (0, store.onCanvas record fun canvas => canvas.destroyFor username)

/-- `handles_destroy_sprite`; `failed` is the library's answer. -/
def handlesDestroySprite (store : HandleStore) (id : UInt64) (username : Bytes) (failed : Bool) :
    Int × HandleStore × List Call :=
  match handlesGetSprite store id username with
  | none => (-1, store, [])
  | some record =>
    match spriteRecordPtr store record, failed with
    | some sprite, true => (1, store, [.destroySprite sprite true])
    | sprite, _ =>
      (0, { store with
        sprites := store.sprites.modify record fun record =>
          { record with sprite := none, deleted := true } },
        sprite.toList.map fun sprite => .destroySprite sprite false)

/-- `handles_destroy_placement`. -/
def handlesDestroyPlacement (store : HandleStore) (id : UInt64) (username : Bytes) :
    Int × HandleStore × List Call :=
  match handlesGetPlacement store id username with
  | none => (-1, store, [])
  | some record =>
    (0, { store with
      placements := store.placements.modify record fun placement =>
        { placement with placement := none, deleted := true } },
      (placementRecordPtr store record).toList.map Call.destroyPlacement)

/-- `handles_disconnect_user`; the empty name of a client that never logged in is ignored. -/
def handlesDisconnectUser (store : HandleStore) (username : Bytes) : HandleStore × List Call :=
  if username = [] then (store, [])
  else
    ({ store with canvases := store.canvases.map fun canvas => (canvas.disconnect username).1 },
      store.canvases.reverse.flatMap fun canvas => (canvas.disconnect username).2)

/-- The library calls of `handles_destroy`: the placements first, then the canvases, then the
sprites, each list from its newest record. The result of destroying a sprite is not looked at. -/
def handlesDestroy (store : HandleStore) (spriteFails : Object → Bool) : List Call :=
  (store.placements.reverse.filterMap PlacementRecord.placement).map Call.destroyPlacement ++
  (store.canvases.reverse.filterMap CanvasRecord.canvas).map Call.destroyCanvas ++
  (store.sprites.reverse.filterMap SpriteRecord.sprite).map fun sprite =>
    Call.destroySprite sprite (spriteFails sprite)

end AnimateService
