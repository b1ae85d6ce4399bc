import Mathlib.Data.Finset.Basic
import AnimateService.Library.Machine
import AnimateService.Rpc

/-!
# A book of handles

What the handle store is for, without its lists and flags: a map from handles to canvases with
their members, and two maps from handles to the sprites and placements of their owners. The book
is kept by following the store's operations and the handles that they return. It does not say
which handle an addition returns.
-/
namespace AnimateService

open Transition

/-- One section under the store's mutex; what the environment answers in it is part of it. -/
inductive StoreOperation where
  /-- `handles_add_canvas`. -/
  | addCanvas (canvas : Object) (width height : UInt64) (owner : Bytes) (memory : Bool)
  /-- `handles_add_sprite`. -/
  | addSprite (sprite : Object) (owner : Bytes) (memory : Bool)
  /-- `handles_add_placement`. -/
  | addPlacement (placement : Object) (canvasId spriteId : UInt64) (owner : Bytes) (memory : Bool)
  /-- `handles_get_canvas`. -/
  | getCanvas (id : UInt64) (username : Bytes)
  /-- `handles_get_canvas` and `canvas_record_share`. -/
  | share (id : UInt64) (username target : Bytes) (memory : Bool)
  /-- `handles_get_canvas` and `canvas_record_barrier` up to its wait. -/
  | barrier (id : UInt64) (username : Bytes)
  /-- `handles_destroy_canvas_for_user`. -/
  | destroyCanvas (id : UInt64) (username : Bytes)
  /-- `handles_destroy_sprite`. -/
  | destroySprite (id : UInt64) (username : Bytes) (failed : Bool)
  /-- `handles_destroy_placement`. -/
  | destroyPlacement (id : UInt64) (username : Bytes)
  /-- `handles_disconnect_user`. -/
  | disconnect (username : Bytes)
  deriving DecidableEq, Repr

/-- The handle of an addition, unless it failed. -/
def handleOf (id : UInt64) : Option UInt64 := if id = invalidHandle then none else some id

/-- The handle that an operation returns, if it is an addition, and the store after it. -/
def StoreOperation.perform (store : HandleStore) : StoreOperation → Option UInt64 × HandleStore
  | .addCanvas canvas width height owner memory =>
    let (id, store) := handlesAddCanvas store canvas width height owner memory
    (handleOf id, store)
  | .addSprite sprite owner memory =>
    let (id, store) := handlesAddSprite store sprite owner memory
    (handleOf id, store)
  | .addPlacement placement canvasId spriteId owner memory =>
    let (id, store) := handlesAddPlacement store placement canvasId spriteId owner memory
    (handleOf id, store)
  | .getCanvas id username => (none, (handlesGetCanvas store id username).2)
  | .share id username target memory => (none, (shareSection store id username target memory).2)
  | .barrier id username => (none, (barrierSection store id username).2)
  | .destroyCanvas id username => (none, (handlesDestroyCanvasForUser store id username).2.1)
  | .destroySprite id username failed => (none, (handlesDestroySprite store id username failed).2.1)
  | .destroyPlacement id username => (none, (handlesDestroyPlacement store id username).2.1)
  | .disconnect username => (none, (handlesDisconnectUser store username).1)

/-- The operation adds a record. -/
def StoreOperation.isAddition : StoreOperation → Bool
  | .addCanvas _ _ _ _ _ | .addSprite _ _ _ | .addPlacement _ _ _ _ _ => true
  | _ => false

/-- A username of 1 to 32 characters. -/
def ProperName (username : Bytes) : Prop := 0 < username.length ∧ username.length ≤ maxUsernameLen

/-- The operation gives records proper names only. -/
def StoreOperation.WellNamed : StoreOperation → Prop
  | .addCanvas _ _ _ username _ | .addSprite _ username _ | .addPlacement _ _ _ username _
  | .getCanvas _ username | .barrier _ username | .destroyCanvas _ username
  | .destroySprite _ username _ | .destroyPlacement _ username | .disconnect username =>
    ProperName username
  | .share _ username target _ => ProperName username ∧ ProperName target

/-! ## The book -/

/-- A canvas in the book. -/
structure CanvasEntry where
  /-- The number of canvases that were added before it. -/
  record : CanvasPtr
  /-- The library canvas. -/
  object : Object
  /-- Its creator and all users it was shared with. -/
  members : Finset Bytes
  /-- The members that take part in its barrier. -/
  connected : Finset Bytes
  /-- A `destroy_canvas` left no member connected. -/
  destroyed : Bool
  deriving DecidableEq

/-- A sprite or a placement in the book. -/
structure OwnedEntry where
  /-- The number of its kind that were added before it. -/
  record : Nat
  /-- The library object. -/
  object : Object
  /-- Its creator. -/
  owner : Bytes
  /-- It was destroyed successfully. -/
  destroyed : Bool
  deriving DecidableEq

/-- The book. -/
structure HandleBook where
  /-- The canvases under their handles. -/
  canvases : UInt64 → Option CanvasEntry := fun _ => none
  /-- The sprites. -/
  sprites : UInt64 → Option OwnedEntry := fun _ => none
  /-- The placements. -/
  placements : UInt64 → Option OwnedEntry := fun _ => none
  /-- The canvases added so far. -/
  canvasCount : Nat := 0
  /-- The sprites added so far. -/
  spriteCount : Nat := 0
  /-- The placements added so far. -/
  placementCount : Nat := 0

/-- The user may use the canvas. -/
def CanvasEntry.admits (entry : CanvasEntry) (username : Bytes) : Bool :=
  !entry.destroyed && username ∈ entry.members

/-- The user may use the sprite or placement. -/
def OwnedEntry.admits (entry : OwnedEntry) (username : Bytes) : Bool :=
  !entry.destroyed && entry.owner = username

/-- A member takes part. -/
def CanvasEntry.join (username : Bytes) (entry : CanvasEntry) : CanvasEntry :=
  { entry with connected := insert username entry.connected }

/-- A user takes part no more. -/
def CanvasEntry.leave (username : Bytes) (entry : CanvasEntry) : CanvasEntry :=
  { entry with connected := entry.connected.erase username }

/-- A member takes part and shares the canvas. -/
def CanvasEntry.share (username target : Bytes) (memory : Bool) (entry : CanvasEntry) :
    CanvasEntry :=
  { entry.join username with
    members := if memory then insert target entry.members else entry.members }

/-- A member destroys the canvas for itself; the last one that takes part destroys it. -/
def CanvasEntry.destroyFor (username : Bytes) (entry : CanvasEntry) : CanvasEntry :=
  { entry.leave username with destroyed := (entry.leave username).connected = ∅ }

/-- An operation on a canvas that the user may use. -/
def HandleBook.onCanvas (book : HandleBook) (id : UInt64) (username : Bytes)
    (change : CanvasEntry → CanvasEntry) : HandleBook :=
  match book.canvases id with
  | some entry =>
    if entry.admits username then
      { book with canvases := Function.update book.canvases id (some (change entry)) }
    else book
  | none => book

/-- The destruction of a sprite or placement that the user may use. -/
def destroyOwned (entries : UInt64 → Option OwnedEntry) (id : UInt64) (username : Bytes) :
    UInt64 → Option OwnedEntry :=
  match entries id with
  | some entry =>
    if entry.admits username then
      Function.update entries id (some { entry with destroyed := true })
    else entries
  | none => entries

/-- The book after an operation that returned a handle, if it added anything. -/
def HandleBook.follow (book : HandleBook) (handle : Option UInt64) : StoreOperation → HandleBook
  | .addCanvas object _ _ owner _ =>
    match handle with
    | some id =>
      { book with
        canvases := Function.update book.canvases id
          (some ⟨book.canvasCount, object, {owner}, {owner}, false⟩)
        canvasCount := book.canvasCount + 1 }
    | none => book
  | .addSprite object owner _ =>
    match handle with
    | some id =>
      { book with
        sprites := Function.update book.sprites id (some ⟨book.spriteCount, object, owner, false⟩)
        spriteCount := book.spriteCount + 1 }
    | none => book
  | .addPlacement object _ _ owner _ =>
    match handle with
    | some id =>
      { book with
        placements :=
          Function.update book.placements id (some ⟨book.placementCount, object, owner, false⟩)
        placementCount := book.placementCount + 1 }
    | none => book
  | .getCanvas id username | .barrier id username =>
    book.onCanvas id username (CanvasEntry.join username)
  | .share id username target memory =>
    book.onCanvas id username (CanvasEntry.share username target memory)
  | .destroyCanvas id username => book.onCanvas id username (CanvasEntry.destroyFor username)
  | .destroySprite id username failed =>
    if failed then book else { book with sprites := destroyOwned book.sprites id username }
  | .destroyPlacement id username =>
    { book with placements := destroyOwned book.placements id username }
  | .disconnect username =>
    { book with canvases := fun id => (book.canvases id).map (CanvasEntry.leave username) }

/-- The store, the book, and the handles returned so far. -/
structure BookedStore where
  /-- The store. -/
  store : HandleStore := {}
  /-- The book. -/
  book : HandleBook := {}
  /-- The handles, in the order of their additions. -/
  returned : List UInt64 := []

/-- The operations in any order, with the book that follows them. -/
def storeMachine : Machine BookedStore StoreOperation where
  step state operation :=
    let (handle, store) := operation.perform state.store
    some
      { store
        book := state.book.follow handle operation
        returned := state.returned ++ handle.toList }

end AnimateService
