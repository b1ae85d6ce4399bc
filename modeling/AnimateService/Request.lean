import AnimateService.Handles

/-!
# Requests

The text half of `rpc.c`: the tokens of a request line, the parsers of its arguments, the
commands with the argument checks that precede any access to the handle store, and the
response texts.
-/
namespace AnimateService

/-- `RPC_FAIL`. -/
def rpcFail : Int := -1
/-- `RPC_VALUE`. -/
def rpcValue : Int := -2
/-- `RPC_INTERNAL`. -/
def rpcInternal : Int := -3

/-! ## Responses -/

/-- `response_code` and `response_i32`. -/
def responseCode (code : Int) : Bytes := decimalInt code ++ [10]

/-- `response_u64`. -/
def responseU64 (value : UInt64) : Bytes := bytes "0 " ++ decimalNat value.toNat ++ [10]

/-- `response_generate`. -/
def responseGenerate (dat movie : Int) : Bytes :=
  bytes "0 " ++ decimalInt dat ++ [32] ++ decimalInt movie ++ [10]

/-! ## Tokens and arguments -/

/-- `tokenize`: the number of tokens, `max_tokens + 1` when there are more, and the tokens
stored. -/
def tokenize (line : Bytes) (maxTokens : Nat) : Nat × List Bytes :=
  let all := strtok line
  if maxTokens < all.length then (maxTokens + 1, all.take maxTokens) else (all.length, all)

/-- `parse_u64`. -/
def parseU64 (text : Bytes) : Option UInt64 :=
  let conversion := strtoull text
  if text.head? = some 45 ∨ conversion.outOfRange ∨ ¬ conversion.converted ∨ conversion.rest ≠ [] then
    none
  else some (UInt64.ofNat conversion.value.toNat)

/-- `parse_size`; a `size_t` has 64 bits, so its own bound never rejects. -/
def parseSize (text : Bytes) : Option UInt64 := parseU64 text

/-- `parse_ssize`; an `ssize_t` has 64 bits, so its own bounds never reject. -/
def parseSsize (text : Bytes) : Option Int :=
  let conversion := strtoll text
  if conversion.outOfRange ∨ ¬ conversion.converted ∨ conversion.rest ≠ [] then none
  else some conversion.value

/-- `parse_color`. -/
def parseColor (text : Bytes) : Option UInt64 :=
  (parseU64 text).filter fun value => value ≤ 0xffffffff

/-- `parse_bool_token`. -/
def parseBoolToken (text : Bytes) : Option Bool :=
  ((parseU64 text).filter fun value => value ≤ 1).map fun value => value ≠ 0

/-- `valid_filename_base`: not empty and without the characters of paths and shells. -/
def validFilenameBase (text : Bytes) : Bool :=
  text ≠ [] ∧ text.all fun byte => byte ∉ bytes "/\\;&|<>`$"

/-! ## Commands -/

/-- The arguments of `handle_generate`. -/
structure GenerateJob where
  /-- The canvas to render. -/
  canvasId : UInt64
  /-- The name of the output files without their suffix. -/
  base : Bytes
  /-- The first frame. -/
  first : UInt64
  /-- The last frame, not before the first. -/
  last : UInt64
  /-- The frame rate, not zero. -/
  frameRate : UInt64
  deriving DecidableEq, Repr

/-- A command whose work on the handle store begins with one section under the store's mutex. -/
inductive StoreCommand where
  | destroyCanvas (id : UInt64)
  | destroySprite (id : UInt64)
  | placeSprite (canvasId spriteId : UInt64) (x y : Int)
  | movePlacement (move : PlacementMove) (id : UInt64)
  | destroyPlacement (id : UInt64)
  | setAnimationParams (id : UInt64) (vx vy ax ay : Int)
  | shareCanvas (canvasId : UInt64) (username : Bytes)
  | barrier (canvasId : UInt64)
  | generate (job : GenerateJob)
  deriving DecidableEq, Repr

/-- A command with its arguments: the two that create a library object first, and the others. -/
inductive Command where
  | createCanvas (height width color : UInt64)
  | createSprite (shape : SpriteShape)
  | store (command : StoreCommand)
  deriving DecidableEq, Repr

/-- The arguments of `create_canvas`. -/
def parseCreateCanvas : List Bytes → Option Command
  | [height, width, color] => do
    let height ← parseSize height
    let width ← parseSize width
    let color ← parseColor color
    if height = 0 ∨ width = 0 then none else some (.createCanvas height width color)
  | _ => none

/-- The arguments of `create_rectangle`. -/
def parseCreateRectangle : List Bytes → Option Command
  | [width, height, color, filled] => do
    let width ← parseSize width
    let height ← parseSize height
    let color ← parseColor color
    let filled ← parseBoolToken filled
    if width = 0 ∨ height = 0 then none
    else some (.createSprite (.rectangle width height color filled))
  | _ => none

/-- The arguments of `create_circle`. -/
def parseCreateCircle : List Bytes → Option Command
  | [radius, color, filled] => do
    let radius ← parseSize radius
    let color ← parseColor color
    let filled ← parseBoolToken filled
    if radius = 0 then none else some (.createSprite (.circle radius color filled))
  | _ => none

/-- The single handle that five commands take. -/
def parseHandle (command : UInt64 → StoreCommand) : List Bytes → Option Command
  | [id] => (parseU64 id).map fun id => .store (command id)
  | _ => none

/-- The arguments of `place_sprite`. -/
def parsePlaceSprite : List Bytes → Option Command
  | [canvasId, spriteId, x, y] => do
    let canvasId ← parseU64 canvasId
    let spriteId ← parseU64 spriteId
    let x ← parseSsize x
    let y ← parseSsize y
    some (.store (.placeSprite canvasId spriteId x y))
  | _ => none

/-- The arguments of `set_animation_params`. -/
def parseSetAnimationParams : List Bytes → Option Command
  | [id, vx, vy, ax, ay] => do
    let id ← parseU64 id
    let vx ← parseSsize vx
    let vy ← parseSsize vy
    let ax ← parseSsize ax
    let ay ← parseSsize ay
    some (.store (.setAnimationParams id vx vy ax ay))
  | _ => none

/-- The arguments of `share_canvas`; the user must be in the database. -/
def parseShareCanvas (auth : AuthDb) : List Bytes → Option Command
  | [canvasId, username] => do
    let canvasId ← parseU64 canvasId
    if authValidUsername username ∧ authUserExists auth username then
      some (.store (.shareCanvas canvasId username))
    else none
  | _ => none

/-- The argument checks at the head of `handle_generate`, once there are five arguments. -/
def parseGenerate (canvasId base first last frameRate : Bytes) : Option Command := do
  let canvasId ← parseU64 canvasId
  if validFilenameBase base then
    let first ← parseSize first
    let last ← parseSize last
    let frameRate ← parseSize frameRate
    if last < first ∨ frameRate = 0 then none
    else some (.store (.generate { canvasId, base, first, last, frameRate }))
  else none

/-- The command chain of `rpc_handle_request` after the login check: the command with its
arguments, or the error code of the response. -/
def parseCommand (auth : AuthDb) (command : Bytes) (arguments : List Bytes) : Except Int Command :=
  let value (parsed : Option Command) : Except Int Command :=
    match parsed with
    | some command => .ok command
    | none => .error rpcValue
  if command = bytes "create_canvas" then value (parseCreateCanvas arguments)
  else if command = bytes "create_sprite" then
    match arguments with
    | [path] => .ok (.createSprite (.file path))
    | _ => .error rpcFail
  else if command = bytes "create_rectangle" then value (parseCreateRectangle arguments)
  else if command = bytes "create_circle" then value (parseCreateCircle arguments)
  else if command = bytes "destroy_canvas" then value (parseHandle .destroyCanvas arguments)
  else if command = bytes "destroy_sprite" then value (parseHandle .destroySprite arguments)
  else if command = bytes "place_sprite" then value (parsePlaceSprite arguments)
  else if command = bytes "placement_up" then value (parseHandle (.movePlacement .up) arguments)
  else if command = bytes "placement_down" then value (parseHandle (.movePlacement .down) arguments)
  else if command = bytes "placement_top" then value (parseHandle (.movePlacement .top) arguments)
  else if command = bytes "placement_bottom" then
    value (parseHandle (.movePlacement .bottom) arguments)
  else if command = bytes "destroy_placement" then value (parseHandle .destroyPlacement arguments)
  else if command = bytes "set_animation_params" then value (parseSetAnimationParams arguments)
  else if command = bytes "share_canvas" then value (parseShareCanvas auth arguments)
  else if command = bytes "barrier" then value (parseHandle .barrier arguments)
  else if command = bytes "generate" then
    match arguments with
    | [canvasId, base, first, last, frameRate] =>
      value (parseGenerate canvasId base first last frameRate)
    | _ => .error rpcFail
  else .error rpcFail

/-! ## Who a command shares a canvas with -/

/-- The user that a command shares a canvas with. -/
def Command.target : Command → Option Bytes
  | .store (.shareCanvas _ target) => some target
  | _ => none

/-! ## What is accepted -/

/-- A command whose arguments are numbers of any value. -/
def StoreCommand.isPlain : StoreCommand → Bool
  | .shareCanvas _ _ => false
  | .generate _ => false
  | _ => true

/-- What the argument checks establish of an accepted command. -/
inductive Command.Accepted (auth : AuthDb) : Command → Prop where
  /-- A canvas has a size. -/
  | createCanvas {height width color : UInt64} (sized : ¬ (height = 0 ∨ width = 0)) :
    Accepted auth (.createCanvas height width color)
  /-- Any path is tried. -/
  | file (path : Bytes) : Accepted auth (.createSprite (.file path))
  /-- A rectangle has a size. -/
  | rectangle {width height color : UInt64} {filled : Bool} (sized : ¬ (width = 0 ∨ height = 0)) :
    Accepted auth (.createSprite (.rectangle width height color filled))
  /-- A circle has a radius. -/
  | circle {radius color : UInt64} {filled : Bool} (sized : radius ≠ 0) :
    Accepted auth (.createSprite (.circle radius color filled))
  /-- Numbers are not checked further. -/
  | plain {command : StoreCommand} (numbers : command.isPlain = true) :
    Accepted auth (.store command)
  /-- A canvas is shared with a user in the database. -/
  | shareCanvas {canvasId : UInt64} {username : Bytes} (valid : authValidUsername username = true)
      (known : authUserExists auth username = true) :
    Accepted auth (.store (.shareCanvas canvasId username))
  /-- The frames are in order, and there is a rate. -/
  | generate {job : GenerateJob} (named : validFilenameBase job.base = true)
      (checked : ¬ (job.last < job.first ∨ job.frameRate = 0)) :
    Accepted auth (.store (.generate job))

section Accepted

variable {auth : AuthDb} {arguments : List Bytes} {command : Command}

/-- The checks of `create_canvas`. -/
theorem parseCreateCanvas_accepted (parsed : parseCreateCanvas arguments = some command) :
    command.Accepted auth := by
  unfold parseCreateCanvas at parsed
  split at parsed
  · simp only [Option.bind_eq_bind, Option.bind_eq_some_iff] at parsed
    obtain ⟨height, -, width, -, color, -, made⟩ := parsed
    split at made
    · cases made
    · rename_i sized
      cases made
      exact .createCanvas sized
  · cases parsed

/-- The checks of `create_rectangle`. -/
theorem parseCreateRectangle_accepted (parsed : parseCreateRectangle arguments = some command) :
    command.Accepted auth := by
  unfold parseCreateRectangle at parsed
  split at parsed
  · simp only [Option.bind_eq_bind, Option.bind_eq_some_iff] at parsed
    obtain ⟨width, -, height, -, color, -, filled, -, made⟩ := parsed
    split at made
    · cases made
    · rename_i sized
      cases made
      exact .rectangle sized
  · cases parsed

/-- The checks of `create_circle`. -/
theorem parseCreateCircle_accepted (parsed : parseCreateCircle arguments = some command) :
    command.Accepted auth := by
  unfold parseCreateCircle at parsed
  split at parsed
  · simp only [Option.bind_eq_bind, Option.bind_eq_some_iff] at parsed
    obtain ⟨radius, -, color, -, filled, -, made⟩ := parsed
    split at made
    · cases made
    · rename_i sized
      cases made
      exact .circle sized
  · cases parsed

/-- A single handle is not checked further. -/
theorem parseHandle_accepted {wrap : UInt64 → StoreCommand} (plain : ∀ id, (wrap id).isPlain = true)
    (parsed : parseHandle wrap arguments = some command) : command.Accepted auth := by
  unfold parseHandle at parsed
  split at parsed
  · obtain ⟨id, -, rfl⟩ := Option.map_eq_some_iff.mp parsed
    exact .plain (plain id)
  · cases parsed

/-- Nor are the numbers of `place_sprite`. -/
theorem parsePlaceSprite_accepted (parsed : parsePlaceSprite arguments = some command) :
    command.Accepted auth := by
  unfold parsePlaceSprite at parsed
  split at parsed
  · simp only [Option.bind_eq_bind, Option.bind_eq_some_iff] at parsed
    obtain ⟨canvasId, -, spriteId, -, x, -, y, -, made⟩ := parsed
    cases made
    exact .plain rfl
  · cases parsed

/-- Nor are those of `set_animation_params`. -/
theorem parseSetAnimationParams_accepted
    (parsed : parseSetAnimationParams arguments = some command) : command.Accepted auth := by
  unfold parseSetAnimationParams at parsed
  split at parsed
  · simp only [Option.bind_eq_bind, Option.bind_eq_some_iff] at parsed
    obtain ⟨id, -, vx, -, vy, -, ax, -, ay, -, made⟩ := parsed
    cases made
    exact .plain rfl
  · cases parsed

/-- The checks of `share_canvas`. -/
theorem parseShareCanvas_accepted (parsed : parseShareCanvas auth arguments = some command) :
    command.Accepted auth := by
  unfold parseShareCanvas at parsed
  split at parsed
  · simp only [Option.bind_eq_bind, Option.bind_eq_some_iff] at parsed
    obtain ⟨canvasId, -, made⟩ := parsed
    split at made
    · rename_i checked
      cases made
      exact .shareCanvas checked.1 checked.2
    · cases made
  · cases parsed

/-- The checks of `generate`. -/
theorem parseGenerate_accepted {canvasId base first last frameRate : Bytes}
    (parsed : parseGenerate canvasId base first last frameRate = some command) :
    command.Accepted auth := by
  unfold parseGenerate at parsed
  simp only [Option.bind_eq_bind, Option.bind_eq_some_iff] at parsed
  obtain ⟨canvasId, -, made⟩ := parsed
  split at made
  · rename_i named
    simp only [Option.bind_eq_some_iff] at made
    obtain ⟨first, -, last, -, frameRate, -, made⟩ := made
    split at made
    · cases made
    · rename_i checked
      cases made
      exact .generate named checked
  · cases made

/-- Whatever the command, it has passed its checks. -/
theorem parseCommand_accepted {name : Bytes}
    (parsed : parseCommand auth name arguments = .ok command) : command.Accepted auth := by
  have value : ∀ {parsed : Option Command}, (match parsed with
      | some command => Except.ok command
      | none => .error rpcValue) = Except.ok command → parsed = some command := by
    rintro (_ | command) same
    · cases same
    · exact congrArg some (Except.ok.inj same)
  have next : ∀ {condition : Prop} [Decidable condition] {here rest : Except Int Command},
      (if condition then here else rest) = .ok command → here = .ok command ∨ rest = .ok command := by
    intro condition _ here rest chosen
    split at chosen
    · exact .inl chosen
    · exact .inr chosen
  unfold parseCommand at parsed
  rcases next parsed with here | parsed
  · exact parseCreateCanvas_accepted (value here)
  rcases next parsed with here | parsed
  · split at here
    · cases here
      exact .file _
    · cases here
  rcases next parsed with here | parsed
  · exact parseCreateRectangle_accepted (value here)
  rcases next parsed with here | parsed
  · exact parseCreateCircle_accepted (value here)
  rcases next parsed with here | parsed
  · exact parseHandle_accepted (fun _ => rfl) (value here)
  rcases next parsed with here | parsed
  · exact parseHandle_accepted (fun _ => rfl) (value here)
  rcases next parsed with here | parsed
  · exact parsePlaceSprite_accepted (value here)
  rcases next parsed with here | parsed
  · exact parseHandle_accepted (fun _ => rfl) (value here)
  rcases next parsed with here | parsed
  · exact parseHandle_accepted (fun _ => rfl) (value here)
  rcases next parsed with here | parsed
  · exact parseHandle_accepted (fun _ => rfl) (value here)
  rcases next parsed with here | parsed
  · exact parseHandle_accepted (fun _ => rfl) (value here)
  rcases next parsed with here | parsed
  · exact parseHandle_accepted (fun _ => rfl) (value here)
  rcases next parsed with here | parsed
  · exact parseSetAnimationParams_accepted (value here)
  rcases next parsed with here | parsed
  · exact parseShareCanvas_accepted (value here)
  rcases next parsed with here | parsed
  · exact parseHandle_accepted (fun _ => rfl) (value here)
  rcases next parsed with here | parsed
  · split at here
    · exact parseGenerate_accepted (value here)
    · cases here
  · cases parsed

/-- A canvas is shared with a valid name only. -/
theorem parseCommand_target {name target : Bytes}
    (parsed : parseCommand auth name arguments = .ok command)
    (shares : command.target = some target) : authValidUsername target = true := by
  cases parseCommand_accepted parsed with
  | shareCanvas valid known =>
    cases shares
    exact valid
  | plain numbers =>
    rename_i plain
    cases plain with
    | shareCanvas canvasId username => cases numbers
    | _ => cases shares
  | _ => cases shares

end Accepted

end AnimateService
