import AnimateService.Text

/-!
# Calls to libanimate

The animation library is not part of the repository. A canvas, sprite or placement is an
identity that the library hands out once and never again, and every call is kept in a log with
its arguments and its result, so that what the service asks of the library is a property of the
log. Pointers are optional where the calling code does not exclude `NULL`.
-/
namespace AnimateService

/-- A canvas, sprite or placement of the library. -/
abbrev Object := Nat

/-- The arguments of `animate_create_sprite`, `animate_create_rectangle` and
`animate_create_circle`. -/
inductive SpriteShape where
  | file (path : Bytes)
  | rectangle (width height color : UInt64) (filled : Bool)
  | circle (radius color : UInt64) (filled : Bool)
  deriving DecidableEq, Repr

/-- `animate_placement_up`, `_down`, `_top` and `_bottom`. -/
inductive PlacementMove where
  | up
  | down
  | top
  | bottom
  deriving DecidableEq, Repr

/-- One call to the library. -/
inductive Call where
  | createCanvas (height width color : UInt64) (result : Option Object)
  | destroyCanvas (canvas : Object)
  | createSprite (shape : SpriteShape) (result : Option Object)
  | destroySprite (sprite : Object) (failed : Bool)
  | placeSprite (canvas sprite : Option Object) (x y : Int) (result : Option Object)
  | movePlacement (move : PlacementMove) (placement : Option Object)
  | setAnimationParams (placement : Option Object) (vx vy ax ay : Int)
  | destroyPlacement (placement : Object)
  | frameSizeBytes (canvas : Option Object)
  | generateFrame (canvas : Option Object) (frame frameRate : UInt64)
  deriving DecidableEq, Repr

/-- The library as the service sees it: the identity of the next object and the calls so far,
the latest first. -/
structure Library where
  /-- Identities from here on have not been handed out. -/
  next : Object := 0
  /-- The log of calls. -/
  calls : List Call := []
  deriving DecidableEq, Repr

/-- Log calls that return no object, in the order in which they are made. -/
def Library.emit (library : Library) (made : List Call) : Library :=
  { library with calls := made.reverse ++ library.calls }

/-- Log a call that returns a new object, or `NULL` when `succeeds` is false. -/
def Library.create (library : Library) (succeeds : Bool) (call : Option Object → Call) :
    Option Object × Library :=
  if succeeds then
    (some library.next, { next := library.next + 1, calls := call (some library.next) :: library.calls })
  else (none, { library with calls := call none :: library.calls })

/-- A creation is logged with its result. -/
theorem Library.create_calls (library : Library) (succeeds : Bool) (call : Option Object → Call) :
    (library.create succeeds call).2.calls =
      call (library.create succeeds call).1 :: library.calls := by
  cases succeeds <;> rfl

end AnimateService
