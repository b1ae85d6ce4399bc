import AnimateService.Request

/-!
# Handling a request

`rpc_handle_request` as the steps between which other threads may run: the part before the store
is touched, each section under the store's mutex, the waits on `barrier_cond`, and the rest of a
session's end. `advance` is one such step. A condition wait may return at any time, so the step
of a waiting thread tests its flag and goes back to wait while it is set. What the environment
decides during a step (allocation, the library, files, the clock) is in `Answers`.
-/
namespace AnimateService

/-- The session fields of `client_state_t`. -/
structure Session where
  /-- The name of the logged-in user, empty before a login and after a disconnection. -/
  username : Bytes := []
  /-- The balance found at login. -/
  balance : Int := 0
  /-- The client is logged in. -/
  loggedIn : Bool := false
  /-- The time from which the main loop closes the client; 0 when it is not to be closed. -/
  disconnectAfter : Nat := 0
  deriving DecidableEq, Repr

/-- What the environment answers during one step. -/
structure Answers where
  /-- The request line could be copied. -/
  lineCopied : Bool := true
  /-- The refusal of `require_login` could be allocated. -/
  refusal : Bool := true
  /-- The response string could be allocated. -/
  replied : Bool := true
  /-- The store's record could be allocated. -/
  memory : Bool := true
  /-- The library returned an object rather than `NULL`. -/
  created : Bool := true
  /-- `animate_destroy_sprite` reported a failure. -/
  spriteFails : Bool := false
  /-- The clock. -/
  now : Nat := 0
  /-- The file names and the frame buffer could be allocated. -/
  buffers : Bool := true
  /-- The frame file could be opened. -/
  opened : Bool := true
  /-- The frame was written completely. -/
  written : Bool := true
  /-- The frame file was closed without an error. -/
  closed : Bool := true
  /-- `run_ffmpeg` returned 0. -/
  rendered : Bool := true
  deriving DecidableEq, Repr

/-- What `handle_generate` does to its files. -/
inductive FileEvent where
  | opened (base : Bytes) (succeeded : Bool)
  | wroteFrame (base : Bytes) (frame : UInt64) (complete : Bool)
  | closed (base : Bytes) (succeeded : Bool)
  | rendered (base : Bytes) (width height frameRate : UInt64) (succeeded : Bool)
  deriving DecidableEq, Repr

/-- What all requests share: the handle store, the library and the file system. -/
structure World where
  /-- The handle store. -/
  store : HandleStore := {}
  /-- The library and its log. -/
  library : Library := {}
  /-- The file events, the latest first. -/
  files : List FileEvent := []
  deriving DecidableEq, Repr

/-- Replace the store and log the library calls that were made with it. -/
def World.apply (world : World) (store : HandleStore) (made : List Call) : World :=
  { world with store, library := world.library.emit made }

/-- The rest of a canvas operation after `canvas_record_wait_for_barrier`, with the record
addresses that were fetched before the wait. -/
inductive Resume where
  | place (canvas : CanvasPtr) (sprite : Nat) (canvasId spriteId : UInt64) (x y : Int)
  | move (move : PlacementMove) (placement : Nat)
  | setParams (placement : Nat) (vx vy ax ay : Int)
  | generate (canvas : CanvasPtr) (job : GenerateJob)
  deriving DecidableEq, Repr

/-- Where a thread is in the handling of a request. -/
inductive Pc where
  /-- At the start of `rpc_handle_request` with the line of the request. -/
  | start (line : Bytes)
  /-- `animate_create_canvas` returned; `handles_add_canvas` comes next. -/
  | addCanvas (canvas : Object) (width height : UInt64)
  /-- A sprite was created; `handles_add_sprite` comes next. -/
  | addSprite (sprite : Object)
  /-- At the lock of the store's mutex for a command. -/
  | locking (command : StoreCommand)
  /-- In the loop of `canvas_record_barrier`. -/
  | barrierWait (record : CanvasPtr) (user : UserPtr)
  /-- In the loop of `canvas_record_wait_for_barrier`. -/
  | canvasWait (record : CanvasPtr) (user : UserPtr) (resume : Resume)
  /-- `animate_place_sprite` returned; `handles_add_placement` comes next. -/
  | addPlacement (placement : Object) (canvasId spriteId : UInt64)
  /-- At the head of the frame loop of `handle_generate`. -/
  | frame (job : GenerateJob) (frame : UInt64)
  /-- At the start of `rpc_client_disconnected`. -/
  | disconnect
  /-- `handles_disconnect_user` returned; the session fields are reset next. -/
  | endSession
  /-- The response, `NULL` when it could not be allocated. -/
  | finished (response : Option Bytes)
  deriving DecidableEq, Repr

/-- A response string, or `NULL` without memory. -/
def Answers.reply (answers : Answers) (text : Bytes) : Pc :=
  .finished (if answers.replied then some text else none)

/-- The Login branch of `rpc_handle_request`. -/
def login (auth : AuthDb) (answers : Answers) (session : Session) (arguments : List Bytes) :
    Session × Pc :=
  match arguments with
  | [name] =>
    if authValidUsername name then
      match authLookup auth name with
      | none =>
        ({ session with disconnectAfter := answers.now + 1 },
          answers.reply (bytes "Reject UNAUTHORISED\n"))
      | some balance =>
        if balance ≤ 0 then
          ({ session with disconnectAfter := answers.now + 1 },
            answers.reply (bytes "Reject BALANCE\n"))
        else
          ({ session with username := copyUsername name, balance, loggedIn := true },
            answers.reply (responseCode balance))
    else (session, answers.reply (responseCode rpcFail))
  | _ => (session, answers.reply (responseCode rpcFail))

/-- `require_login`: the refusal of a client that is not logged in. Without memory for it the result
is `NULL`, as for a client that is logged in. -/
def requireLogin (answers : Answers) (session : Session) : Option Bytes :=
  if session.loggedIn = false ∧ answers.refusal = true then some (responseCode rpcValue) else none

/-- The part of a command before its first section: the library call that creates an object. -/
def beginCommand (answers : Answers) (world : World) : Command → World × Pc
  | .createCanvas height width color =>
    let (canvas, library) := world.library.create answers.created (.createCanvas height width color)
    ({ world with library },
      match canvas with
      | some canvas => .addCanvas canvas width height
      | none => answers.reply (responseCode rpcInternal))
  | .createSprite shape =>
    let (sprite, library) := world.library.create answers.created (.createSprite shape)
    ({ world with library },
      match sprite with
      | some sprite => .addSprite sprite
      | none => answers.reply (responseCode rpcInternal))
  | .store command => (world, .locking command)

/-- `rpc_handle_request` up to its first access to the handle store. -/
def startRequest (auth : AuthDb) (answers : Answers) (session : Session) (world : World)
    (line : Bytes) : Session × World × Pc :=
  if answers.lineCopied then
    let (count, tokens) := tokenize (cString line) 16
    if count = 0 ∨ 16 < count then (session, world, answers.reply (responseCode rpcFail))
    else
      match tokens with
      | [] => (session, world, answers.reply (responseCode rpcFail))
      | command :: arguments =>
        if command = bytes "Login" then
          let (session, pc) := login auth answers session arguments
          (session, world, pc)
        else if command = bytes "Disconnect" then (session, world, .disconnect)
        else
          match requireLogin answers session with
          | some refusal => (session, world, .finished (some refusal))
          | none =>
            match parseCommand auth command arguments with
            | .ok command => (session, beginCommand answers world command)
            | .error code => (session, world, answers.reply (responseCode code))
  else (session, world, answers.reply (responseCode rpcInternal))

/-- Whom `require_login` lets through. -/
theorem requireLogin_eq_none {answers : Answers} {session : Session} :
    requireLogin answers session = none ↔ session.loggedIn = true ∨ answers.refusal = false := by
  cases logged : session.loggedIn <;> simp [requireLogin, logged]

/-- The four ways in which a request begins: it is answered at once, it is a login, it ends the
session, or it is a command of a client that is logged in, or whose refusal found no memory. -/
theorem startRequest_cases {auth : AuthDb} {answers : Answers} {session : Session} {world : World}
    {line : Bytes} {motive : Session × World × Pc → Prop}
    (answered : ∀ answers code, motive (session, world, Answers.reply answers (responseCode code)))
    (logsIn : ∀ arguments, (tokenize (cString line) 16).2 = bytes "Login" :: arguments →
      motive ((login auth answers session arguments).1, world,
        (login auth answers session arguments).2))
    (disconnects : ∀ arguments,
      (tokenize (cString line) 16).2 = bytes "Disconnect" :: arguments →
      motive (session, world, .disconnect))
    (begins : ∀ name arguments command, (tokenize (cString line) 16).2 = name :: arguments →
      name ≠ bytes "Login" → name ≠ bytes "Disconnect" → answers.lineCopied = true →
      session.loggedIn = true ∨ answers.refusal = false →
      parseCommand auth name arguments = .ok command →
      motive (session, beginCommand answers world command)) :
    motive (startRequest auth answers session world line) := by
  unfold startRequest
  split
  · rename_i copied
    dsimp only
    split
    · exact answered _ _
    · split
      · exact answered _ _
      · rename_i name arguments tokens
        split
        · rename_i named
          subst named
          exact logsIn arguments tokens
        · rename_i notLogin
          split
          · rename_i named
            subst named
            exact disconnects arguments tokens
          · rename_i notDisconnect
            split
            · rename_i refusal refused
              obtain ⟨-, same⟩ := Option.ite_none_right_eq_some.mp refused
              rw [← Option.some.inj same]
              exact answered {} rpcValue
            · rename_i through
              split
              · rename_i command parsed
                exact begins name arguments command tokens notLogin notDisconnect copied
                  (requireLogin_eq_none.mp through) parsed
              · exact answered _ _
  · exact answered _ _

/-- A login is answered at once. -/
theorem login_reply (auth : AuthDb) (answers : Answers) (session : Session)
    (arguments : List Bytes) : ∃ text, (login auth answers session arguments).2 =
      answers.reply text := by
  unfold login
  split
  · split
    · split
      · exact ⟨_, rfl⟩
      · split <;> exact ⟨_, rfl⟩
    · exact ⟨_, rfl⟩
  · exact ⟨_, rfl⟩

/-- The member that `canvas_record_wait_for_barrier` waits for, if it waits at all. -/
def barrierToWaitFor (store : HandleStore) (record : CanvasPtr) (username : Bytes) :
    Option UserPtr :=
  ((store.canvases[record]?).bind fun canvas => findSharedUser canvas username).filter
    fun user => store.waiting record user

/-- A canvas operation after its wait, up to the unlock and, for `generate`, to its frame loop. -/
def resumeAfterWait (answers : Answers) (world : World) : Resume → World × Pc
  | .place canvas sprite canvasId spriteId x y =>
    let (placement, library) := world.library.create answers.created
      (.placeSprite (canvasRecordPtr world.store canvas) (spriteRecordPtr world.store sprite) x y)
    ({ world with library },
      match placement with
      | some placement => .addPlacement placement canvasId spriteId
      | none => answers.reply (responseCode rpcInternal))
  | .move move placement =>
    (world.apply world.store [.movePlacement move (placementRecordPtr world.store placement)],
      answers.reply (responseCode 0))
  | .setParams placement vx vy ax ay =>
    (world.apply world.store
      [.setAnimationParams (placementRecordPtr world.store placement) vx vy ax ay],
      answers.reply (responseCode 0))
  | .generate canvas job =>
    let world := world.apply world.store [.frameSizeBytes (canvasRecordPtr world.store canvas)]
    if answers.buffers then
      let world := { world with files := .opened job.base answers.opened :: world.files }
      if answers.opened then (world, .frame job job.first)
      else (world, answers.reply (responseGenerate (-1) 0))
    else (world, answers.reply (responseCode rpcInternal))

/-- `canvas_record_wait_for_barrier`, and the rest of the operation when it need not wait. -/
def waitThenResume (answers : Answers) (world : World) (record : CanvasPtr) (username : Bytes)
    (resume : Resume) : World × Pc :=
  match barrierToWaitFor world.store record username with
  | some user => (world, .canvasWait record user resume)
  | none => resumeAfterWait answers world resume

/-- A placement operation once its placement is found: a missing canvas is not waited for. -/
def throughPlacement (answers : Answers) (world : World) (username : Bytes) (placement : Nat)
    (resume : Resume) : World × Pc :=
  match handlesGetCanvas world.store (placementRecordCanvasId world.store placement) username with
  | (some canvas, store) => waitThenResume answers { world with store } canvas username resume
  | (none, store) => resumeAfterWait answers { world with store } resume

/-- The store after `canvas_record_share` in the section of `share_canvas`. -/
def shareSection (store : HandleStore) (canvasId : UInt64) (username target : Bytes)
    (memory : Bool) : Option Int × HandleStore :=
  match handlesGetCanvas store canvasId username with
  | (some record, store) =>
    ((store.canvases[record]?).map fun canvas => (canvasRecordShare canvas target memory).1,
      store.updateCanvas record fun canvas => (canvasRecordShare canvas target memory).2)
  | (none, store) => (none, store)

/-- The section of `barrier` up to its return or its wait: the record and what became of it. -/
def barrierSection (store : HandleStore) (canvasId : UInt64) (username : Bytes) :
    Option (CanvasPtr × BarrierEntry) × HandleStore :=
  match handlesGetCanvas store canvasId username with
  | (some record, store) =>
    match store.canvases[record]? with
    | some canvas =>
      let entry := canvasRecordBarrier canvas username
      (some (record, entry),
        match entry with
        | .refused => store
        | .released canvas => store.updateCanvas record fun _ => canvas
        | .waits _ canvas => store.updateCanvas record fun _ => canvas)
    | none => (none, store)
  | (none, store) => (none, store)

/-- The first section of a command under the store's mutex. -/
def lockedSection (answers : Answers) (session : Session) (world : World) :
    StoreCommand → World × Pc
  | .destroyCanvas id =>
    let (code, store, made) := handlesDestroyCanvasForUser world.store id session.username
    (world.apply store made, answers.reply (responseCode (if code = 0 then 0 else rpcValue)))
  | .destroySprite id =>
    let (code, store, made) :=
      handlesDestroySprite world.store id session.username answers.spriteFails
    (world.apply store made,
      answers.reply (if code = -1 then responseCode rpcValue
        else responseU64 (UInt64.ofNat code.toNat)))
  | .placeSprite canvasId spriteId x y =>
    match handlesGetCanvas world.store canvasId session.username with
    | (canvas, store) =>
      match canvas, handlesGetSprite store spriteId session.username with
      | some canvas, some sprite =>
        waitThenResume answers { world with store } canvas session.username
          (.place canvas sprite canvasId spriteId x y)
      | _, _ => ({ world with store }, answers.reply (responseCode rpcValue))
  | .movePlacement move id =>
    match handlesGetPlacement world.store id session.username with
    | some placement =>
      throughPlacement answers world session.username placement (.move move placement)
    | none => (world, answers.reply (responseCode rpcValue))
  | .destroyPlacement id =>
    let (code, store, made) := handlesDestroyPlacement world.store id session.username
    (world.apply store made, answers.reply (responseCode (if code = 0 then 0 else rpcValue)))
  | .setAnimationParams id vx vy ax ay =>
    match handlesGetPlacement world.store id session.username with
    | some placement =>
      throughPlacement answers world session.username placement (.setParams placement vx vy ax ay)
    | none => (world, answers.reply (responseCode rpcValue))
  | .shareCanvas canvasId target =>
    let (code, store) := shareSection world.store canvasId session.username target answers.memory
    ({ world with store },
      answers.reply (responseCode
        (match code with
        | some code => if code = 0 then 0 else rpcInternal
        | none => rpcValue)))
  | .barrier canvasId =>
    let (entered, store) := barrierSection world.store canvasId session.username
    ({ world with store },
      match entered with
      | some (record, .waits user _) => .barrierWait record user
      | some (_, .released _) => answers.reply (responseCode 0)
      | some (_, .refused) => answers.reply (responseCode rpcInternal)
      | none => answers.reply (responseCode rpcValue))
  | .generate job =>
    match handlesGetCanvas world.store job.canvasId session.username with
    | (some canvas, store) =>
      waitThenResume answers { world with store } canvas session.username (.generate canvas job)
    | (none, store) => ({ world with store }, answers.reply (responseCode rpcValue))

/-- The end of `handle_generate` after its last frame: close the file, then run `ffmpeg` with
the size of the canvas record of that frame. -/
def finishGenerate (answers : Answers) (world : World) (record : CanvasPtr) (job : GenerateJob) :
    World × Pc :=
  let world := { world with files := .closed job.base answers.closed :: world.files }
  if answers.closed then
    let width := ((world.store.canvases[record]?).map CanvasRecord.width).getD 0
    let height := ((world.store.canvases[record]?).map CanvasRecord.height).getD 0
    ({ world with
      files := .rendered job.base width height job.frameRate answers.rendered :: world.files },
      answers.reply (responseGenerate 0 (if answers.rendered then 0 else -1)))
  else (world, answers.reply (responseGenerate (-1) 0))

/-- One pass of the frame loop of `handle_generate`; `SIZE_MAX` as the last frame leaves the loop
by its own exit. -/
def generateFrame (answers : Answers) (session : Session) (world : World) (job : GenerateJob)
    (frame : UInt64) : World × Pc :=
  match handlesGetCanvas world.store job.canvasId session.username with
  | (some record, store) =>
    let world := world.apply store
      [.generateFrame (canvasRecordPtr store record) frame job.frameRate]
    let world := { world with files := .wroteFrame job.base frame answers.written :: world.files }
    if answers.written then
      if frame ≠ 0xffffffffffffffff ∧ frame + 1 ≤ job.last then (world, .frame job (frame + 1))
      else finishGenerate answers world record job
    else
      ({ world with files := .closed job.base answers.closed :: world.files },
        answers.reply (responseGenerate (-1) 0))
  | (none, store) =>
    ({ world with store, files := .closed job.base answers.closed :: world.files },
      answers.reply (responseCode rpcValue))

/-- The handle of an added record: the response, or the error exit that destroys the object the
handle was for. -/
def answerHandle (answers : Answers) (world : World) (id : UInt64) (undo : Call) : World × Pc :=
  if id = invalidHandle then
    (world.apply world.store [undo], answers.reply (responseCode rpcInternal))
  else (world, answers.reply (responseU64 id))

/-- `rpc_client_disconnected` after `handles_disconnect_user`: reset the session. -/
def Session.ended (session : Session) (now : Nat) : Session :=
  { session with disconnectAfter := now + 1, loggedIn := false, username := [] }

/-- One step of a thread that handles a request of a client. -/
def advance (auth : AuthDb) (answers : Answers) (session : Session) (world : World) :
    Pc → Session × World × Pc
  | .start line => startRequest auth answers session world line
  | .addCanvas canvas width height =>
    let (id, store) :=
      handlesAddCanvas world.store canvas width height session.username answers.memory
    (session, answerHandle answers { world with store } id (.destroyCanvas canvas))
  | .addSprite sprite =>
    let (id, store) := handlesAddSprite world.store sprite session.username answers.memory
    (session, answerHandle answers { world with store } id (.destroySprite sprite answers.spriteFails))
  | .locking command => (session, lockedSection answers session world command)
  | .barrierWait record user =>
    (session, world,
      if world.store.waiting record user then .barrierWait record user
      else answers.reply (responseCode 0))
  | .canvasWait record user resume =>
    if world.store.waiting record user then (session, world, .canvasWait record user resume)
    else (session, resumeAfterWait answers world resume)
  | .addPlacement placement canvasId spriteId =>
    let (id, store) := handlesAddPlacement world.store placement canvasId spriteId
      session.username answers.memory
    (session, answerHandle answers { world with store } id (.destroyPlacement placement))
  | .frame job frame => (session, generateFrame answers session world job frame)
  | .disconnect =>
    if session.loggedIn then
      let (store, made) := handlesDisconnectUser world.store session.username
      (session, world.apply store made, .endSession)
    else (session, world, answers.reply (responseCode 0))
  | .endSession => (session.ended answers.now, world, answers.reply (responseCode 0))
  | .finished response => (session, world, .finished response)

/-- The steps of a request while no other thread changes the session or the world; the environment
answers each of them. -/
def serve (auth : AuthDb) (session : Session) (world : World) (pc : Pc) :
    List Answers → Session × World × Pc
  | [] => (session, world, pc)
  | answers :: rest =>
    let (session, world, pc) := advance auth answers session world pc
    serve auth session world pc rest

/-- Serving takes one step and goes on. -/
theorem serve_cons (auth : AuthDb) (session : Session) (world : World) (pc : Pc) (answers : Answers)
    (rest : List Answers) :
    serve auth session world pc (answers :: rest) =
      serve auth (advance auth answers session world pc).1 (advance auth answers session world pc).2.1
        (advance auth answers session world pc).2.2 rest := rfl

/-- `rpc_handle_request` by itself: the response, the session and the world after it. There is no
result while the request waits at a barrier or the answers do not reach its end. -/
def rpcHandleRequest (auth : AuthDb) (session : Session) (world : World) (line : Bytes)
    (answers : List Answers) : Option (Option Bytes × Session × World) :=
  match serve auth session world (.start line) answers with
  | (session, world, .finished response) => some (response, session, world)
  | _ => none

/-- `rpc_client_disconnected` by itself, as the main loop calls it. -/
def rpcClientDisconnected (session : Session) (world : World) (now : Nat) : Session × World :=
  if session.loggedIn then
    let (store, made) := handlesDisconnectUser world.store session.username
    (session.ended now, world.apply store made)
  else (session, world)

end AnimateService
