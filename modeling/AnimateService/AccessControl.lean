import AnimateService.Memberships
import AnimateService.Rights
import AnimateService.Sessions

/-!
# Access control

Requests of any number of clients, each handled as one step. A request that has to wait at a barrier
is two steps, and between them its client is left alone: it is not closed, and no request that it
has pipelined behind the first is handled, so that the two are one step of this client. The run keeps
a history of the moments at which a request touches the store or the library, and who may use a
canvas, a sprite or a placement is read off that history alone: from the objects that a user's
requests created and from the canvases that were shared with it by a user with access. A client that
is not logged in is let through where there is no memory to refuse it; the result is about the runs
in which that does not happen.
-/
namespace AnimateService

open LinkedList Transition

/-- One step in the handling of a request. -/
structure Moment where
  /-- The client of the request. -/
  client : ClientId
  /-- Its session at that moment. -/
  session : Session
  /-- The request line. -/
  line : Bytes
  /-- The store and the library before. -/
  before : World
  /-- The store and the library after it. -/
  after : World

/-- The user of the client. -/
def Moment.user (moment : Moment) : Bytes := moment.session.username

/-- The library calls made. -/
def Moment.made (moment : Moment) : List Call :=
  moment.after.library.calls.take
    (moment.after.library.calls.length - moment.before.library.calls.length)

/-- The command of a request line. -/
def commandOf (auth : AuthDb) (line : Bytes) : Option Command :=
  match requestTokens line with
  | command :: arguments => (parseCommand auth command arguments).toOption
  | [] => none

/-! ## Who may use what -/

/-- A canvas is created. -/
def Moment.Creates (moment : Moment) (canvas : Object) : Prop :=
  ∃ height width color, .createCanvas height width color (some canvas) ∈ moment.made

/-- A `share_canvas` on a canvas succeeds. -/
def Moment.Shares (auth : AuthDb) (moment : Moment) (canvas : Object) (target : Bytes) : Prop :=
  ∃ id record memory, commandOf auth moment.line = some (.store (.shareCanvas id target)) ∧
    canvasFor moment.before.store id moment.user = some record ∧
    canvasRecordPtr moment.before.store record = some canvas ∧
    shareSection moment.before.store id moment.user target memory = (some 0, moment.after.store)

/-- The user created the canvas, or it was shared with the user by one that had access; the latest
moment is the first of the history. -/
inductive HasAccess (auth : AuthDb) : List Moment → Object → Bytes → Prop where
  /-- The user creates the canvas. -/
  | created {moment : Moment} {past : List Moment} {canvas : Object}
      (creates : moment.Creates canvas) : HasAccess auth (moment :: past) canvas moment.user
  /-- A user with access shares the canvas. -/
  | shared {moment : Moment} {past : List Moment} {canvas : Object} {target : Bytes}
      (access : HasAccess auth past canvas moment.user) (shares : moment.Shares auth canvas target) :
      HasAccess auth (moment :: past) canvas target
  /-- Access is never lost. -/
  | earlier {moment : Moment} {past : List Moment} {canvas : Object} {user : Bytes}
      (access : HasAccess auth past canvas user) : HasAccess auth (moment :: past) canvas user

/-- The user created the sprite. -/
def CreatedSprite (history : List Moment) (sprite : Object) (user : Bytes) : Prop :=
  ∃ moment ∈ history, moment.user = user ∧ ∃ shape, .createSprite shape (some sprite) ∈ moment.made

/-- The user created the placement. -/
def CreatedPlacement (history : List Moment) (placement : Object) (user : Bytes) : Prop :=
  ∃ moment ∈ history, moment.user = user ∧
    ∃ canvas sprite x y, .placeSprite canvas sprite x y (some placement) ∈ moment.made

/-- The client is logged in under a name of the database with a positive balance. -/
def Session.InGoodStanding (auth : AuthDb) (session : Session) : Prop :=
  session.loggedIn = true ∧ ∃ balance, authLookup auth session.username = some balance ∧ 0 < balance

/-- A request uses and changes only what its user has access to. -/
structure Moment.Rightful (auth : AuthDb) (past : List Moment) (moment : Moment) : Prop where
  /-- Canvases that it passes to the library. -/
  canvases : ∀ call ∈ moment.made, ∀ canvas, call.canvas? = some canvas →
    moment.session.InGoodStanding auth ∧ HasAccess auth past canvas moment.user
  /-- Canvas records that it changes, or adds for a canvas that it created. -/
  records : ∀ record, moment.after.store.canvases[record]? ≠ moment.before.store.canvases[record]? →
    moment.session.InGoodStanding auth ∧ ∃ canvas,
      (canvasRecordPtr moment.before.store record = some canvas ∨
        moment.before.store.canvases[record]? = none ∧
          canvasRecordPtr moment.after.store record = some canvas) ∧
      HasAccess auth past canvas moment.user
  /-- Sprites that it passes to the library. -/
  sprites : ∀ call ∈ moment.made, ∀ sprite, call.sprite? = some sprite →
    CreatedSprite past sprite moment.user
  /-- Placements that it passes to the library. -/
  placements : ∀ call ∈ moment.made, ∀ placement, call.placement? = some placement →
    CreatedPlacement past placement moment.user
  /-- A client that is not logged in changes nothing. -/
  outsider : moment.session.loggedIn = false → moment.after.store = moment.before.store

/-! ## Requests -/

/-- The moments of a request, the first one first. -/
def moments (auth : AuthDb) (client : ClientId) (line : Bytes) (session : Session) (world : World)
    (pc : Pc) : List Answers → List Moment
  | [] => []
  | answers :: rest =>
    let (next, after, place) := advance auth answers session world pc
    ⟨client, session, line, world, after⟩ :: moments auth client line next after place rest

/-- The clients, what they share, the requests that wait, and the history. -/
structure AccessState where
  /-- The sessions of the clients accepted so far. -/
  clients : ClientId → Option Session := fun _ => none
  /-- The store, the library and the files. -/
  world : World := {}
  /-- The requests that wait at a barrier. -/
  waiting : List (ClientId × Bytes × Pc) := []
  /-- The moments of the requests so far, the latest first. -/
  history : List Moment := []

/-- What happens next, with the environment's answers. -/
inductive AccessLabel where
  /-- `accept_client` succeeds. -/
  | accept (client : ClientId)
  /-- A request is handled. -/
  | request (client : ClientId) (line : Bytes) (answers : List Answers)
  /-- A request that waited is let through. -/
  | resume (index : Nat) (answers : List Answers)
  /-- `close_client`. -/
  | close (client : ClientId) (now : Nat)
  deriving DecidableEq, Repr

/-- A request of the client waits. -/
def AccessState.isBusy (state : AccessState) (client : ClientId) : Bool :=
  state.waiting.any fun entry => entry.1 = client

/-- The state after a request was handled to its end or to a wait. -/
def AccessState.handle (auth : AuthDb) (state : AccessState) (client : ClientId) (line : Bytes)
    (session : Session) (pc : Pc) (waiting : List (ClientId × Bytes × Pc)) (answers : List Answers) :
    Option AccessState :=
  let (next, world, place) := serve auth session state.world pc answers
  let clients := Function.update state.clients client (some next)
  let history := (moments auth client line session state.world pc answers).reverse ++ state.history
  if place.isFinished then some { clients, world, waiting, history }
  else if place.isBlocked world.store then
    some { clients, world, waiting := waiting ++ [(client, line, place)], history }
  else none

/-- Requests one at a time; while a client's request waits, no other request of it is handled and it
is not closed. -/
def accessMachine (auth : AuthDb) : Machine AccessState AccessLabel where
  step state
    | .accept client =>
      match state.clients client with
      | none => some { state with clients := Function.update state.clients client (some {}) }
      | some _ => none
    | .request client line answers =>
      match state.clients client with
      | some session =>
        if state.isBusy client then none
        else state.handle auth client line session (.start line) state.waiting answers
      | none => none
    | .resume index answers =>
      match state.waiting[index]? with
      | some (client, line, pc) =>
        match state.clients client with
        | some session =>
          state.handle auth client line session pc (state.waiting.eraseIdx index) answers
        | none => none
      | none => none
    | .close client now =>
      match state.clients client with
      | some session =>
        if state.isBusy client then none
        else
          let (session, world) := rpcClientDisconnected session state.world now
          some { state with clients := Function.update state.clients client (some session), world }
      | none => none

/-! ## The books -/

/-- Whatever a record says of its users is borne out by the history. -/
structure Books (auth : AuthDb) (history : List Moment) (store : HandleStore) : Prop where
  /-- The members of a canvas have access to it. -/
  canvases : ∀ record ∈ store.canvases, ∀ canvas, record.canvas = some canvas →
    ∀ name ∈ record.names, HasAccess auth history canvas name
  /-- The owner of a sprite created it. -/
  sprites : ∀ record ∈ store.sprites, ∀ sprite, record.sprite = some sprite →
    CreatedSprite history sprite record.owner
  /-- The owner of a placement created it. -/
  placements : ∀ record ∈ store.placements, ∀ placement, record.placement = some placement →
    CreatedPlacement history placement record.owner
  /-- Nobody is connected to a canvas that is gone. -/
  unused : ∀ record ∈ store.canvases, record.Unused
  /-- Only connected members wait. -/
  formed : ∀ record ∈ store.canvases, record.barrier.WellFormed

/-- A user that is admitted has access. -/
theorem Books.access {auth : AuthDb} {history : List Moment} {store : HandleStore}
    (books : Books auth history store) {user : Bytes} {canvas : Object}
    (admitted : Admits store user canvas) : HasAccess auth history canvas user := by
  obtain ⟨record, inside, pointer, member⟩ := admitted
  exact books.canvases record inside canvas pointer user member

/-- A user that owns a sprite created it. -/
theorem Books.sprite {auth : AuthDb} {history : List Moment} {store : HandleStore}
    (books : Books auth history store) {user : Bytes} {sprite : Object}
    (owned : OwnsSprite store user sprite) : CreatedSprite history sprite user := by
  obtain ⟨record, inside, pointer, rfl⟩ := owned
  exact books.sprites record inside sprite pointer

/-- A user that owns a placement created it. -/
theorem Books.placement {auth : AuthDb} {history : List Moment} {store : HandleStore}
    (books : Books auth history store) {user : Bytes} {placement : Object}
    (owned : OwnsPlacement store user placement) : CreatedPlacement history placement user := by
  obtain ⟨record, inside, pointer, rfl⟩ := owned
  exact books.placements record inside placement pointer

/-- A section adds to the users of a canvas its creator and those it is shared with. -/
theorem Books.canvases_step {auth : AuthDb} {history later : List Moment} {store : HandleStore}
    {step : CanvasStep} (books : Books auth history store)
    (grows : ∀ canvas user, HasAccess auth history canvas user → HasAccess auth later canvas user)
    (created : ∀ object width height owner, step = .createCanvas object width height owner true →
      HasAccess auth later object (copyUsername owner))
    (shared : ∀ id username target record canvas object,
      step = .shareCanvas id username target true → canvasFor store id username = some record →
      store.canvases[record]? = some canvas → canvas.canvas = some object →
      findSharedUser canvas target = none → HasAccess auth later object (copyUsername target)) :
    ∀ record ∈ (step.apply store).canvases, ∀ canvas, record.canvas = some canvas →
      ∀ name ∈ record.names, HasAccess auth later canvas name := by
  intro record inside canvas pointer name member
  obtain ⟨index, present⟩ := List.mem_iff_getElem?.mp inside
  cases old : store.canvases[index]? with
  | none =>
    obtain ⟨object, width, height, owner, rfl, rfl⟩ := CanvasStep.apply_added old present
    obtain rfl := Option.some.inj pointer
    obtain rfl : name = copyUsername owner := by simpa [CanvasRecord.names] using member
    exact created object width height owner rfl
  | some before =>
    obtain ⟨after, found, change⟩ := CanvasStep.apply_record old step
    obtain rfl := Option.some.inj (present.symm.trans found)
    have held := change.canvas pointer
    rcases change.named member with known | ⟨id, username, target, rfl, there, missing, rfl⟩
    · exact grows canvas name
        (books.canvases before (List.mem_of_getElem? old) canvas held name known)
    · exact shared id username target index before canvas rfl there old held missing

/-- A section leaves nobody connected to a canvas that is gone. -/
theorem Books.unused_step {auth : AuthDb} {history : List Moment} {store : HandleStore}
    (books : Books auth history store) (step : CanvasStep) :
    ∀ record ∈ (step.apply store).canvases, record.Unused := by
  intro record inside
  obtain ⟨index, present⟩ := List.mem_iff_getElem?.mp inside
  cases old : store.canvases[index]? with
  | none =>
    obtain ⟨object, width, height, owner, rfl, rfl⟩ := CanvasStep.apply_added old present
    rintro ⟨⟩
  | some before =>
    obtain ⟨after, found, change⟩ := CanvasStep.apply_record old step
    obtain rfl := Option.some.inj (present.symm.trans found)
    exact change.unused old (books.unused before (List.mem_of_getElem? old))

/-! ## The place of a request -/

/-- The session holds a name that fits, of a user with a balance while it is logged in. -/
structure Session.Sound (auth : AuthDb) (session : Session) : Prop where
  /-- The name fits. -/
  short : session.username.length ≤ maxUsernameLen
  /-- The user is in the database with a positive balance. -/
  standing : session.loggedIn = true →
    ∃ balance, authLookup auth session.username = some balance ∧ 0 < balance

/-- A place that a client reaches without being logged in. -/
def Pc.isIdle : Pc → Bool
  | .start _ | .disconnect | .endSession | .finished _ => true
  | _ => false

/-- The place belongs to the request line. -/
def Pc.Serves (auth : AuthDb) (line : Bytes) : Pc → Prop
  | .start text => text = line
  | .locking command => commandOf auth line = some (.store command)
  | _ => True

section Advance

variable {auth : AuthDb} {answers : Answers} {session : Session} {world : World} {pc : Pc}
  {line : Bytes}

/-- A login gives a session to users with a positive balance only. -/
theorem StartOutcome.sound {result : Session × World × Pc}
    (outcome : StartOutcome auth answers session world line result) (sound : session.Sound auth) :
    result.1.Sound auth := by
  cases outcome with
  | login logs named logged =>
    obtain ⟨-, valid, rich⟩ := logs
    exact ⟨named ▸ authValidUsername_length valid, fun _ => named ▸ rich⟩
  | answered named logged =>
    exact ⟨named ▸ sound.short, fun active => named ▸ sound.standing (logged ▸ active)⟩
  | disconnect request => exact sound
  | working through other store working => exact sound

/-- Beginning a request, a client that is not let through without a login gets a session or an
answer. -/
theorem StartOutcome.active {result : Session × World × Pc}
    (outcome : StartOutcome auth answers session world line result)
    (required : ¬ LetThrough auth answers session line) :
    result.1.loggedIn = true ∨ result.2.2.isIdle = true := by
  cases outcome with
  | login logs named logged => exact .inl logged
  | answered named logged => exact .inr rfl
  | disconnect request => exact .inr rfl
  | working through other store working => exact .inl (through.resolve_right required)

/-- Beginning a request keeps the session or answers the request. -/
theorem StartOutcome.settles {result : Session × World × Pc}
    (outcome : StartOutcome auth answers session world line result) :
    result.1 = session ∨ ∃ response, result.2.2 = .finished response := by
  cases outcome with
  | login logs named logged => exact .inr ⟨_, rfl⟩
  | answered named logged => exact .inr ⟨_, rfl⟩
  | disconnect request => exact .inl rfl
  | working through other store working => exact .inl rfl

/-- No request begins again. -/
theorem StartOutcome.begun {result : Session × World × Pc} {text : Bytes}
    (outcome : StartOutcome auth answers session world line result) : result.2.2 ≠ .start text := by
  rintro again
  cases outcome with
  | working through other store working =>
    obtain rfl : _ = Pc.start text := again
    exact working
  | _ => cases again

/-- A client that is not logged in and not let through begins nothing. -/
theorem StartOutcome.outsider {result : Session × World × Pc}
    (outcome : StartOutcome auth answers session world line result)
    (required : ¬ LetThrough auth answers session line) (out : session.loggedIn = false) :
    result.2.1 = world := by
  cases outcome with
  | login logs named logged => rfl
  | answered named logged => rfl
  | disconnect request => rfl
  | working through other store working =>
    rcases through with logged | through
    · rw [out] at logged
      cases logged
    · exact absurd through required

/-- Every session stays sound. -/
theorem advance_sound (sound : session.Sound auth) (pc : Pc) :
    (advance auth answers session world pc).1.Sound auth := by
  by_cases idle : pc.isIdle = true
  · cases pc with
    | start line => exact (startRequest_outcome line).sound sound
    | disconnect =>
      simp only [advance]
      split <;> exact sound
    | endSession => exact ⟨Nat.zero_le _, fun logged => by cases logged⟩
    | finished response => exact sound
    | _ => cases idle
  · cases pc with
    | start line => exact absurd rfl idle
    | disconnect => exact absurd rfl idle
    | endSession => exact absurd rfl idle
    | canvasWait record user resume =>
      simp only [advance]
      split <;> exact sound
    | _ => exact sound

/-- A thread stays with its session, or it has ended or changed it and has finished. -/
theorem advance_settles (pc : Pc) :
    (advance auth answers session world pc).1 = session ∨
      ∃ response, (advance auth answers session world pc).2.2 = .finished response := by
  cases pc with
  | start line => exact (startRequest_outcome line).settles
  | disconnect =>
    simp only [advance]
    split <;> exact .inl rfl
  | endSession => exact .inr ⟨_, rfl⟩
  | canvasWait record user resume =>
    simp only [advance]
    split <;> exact .inl rfl
  | _ => exact .inl rfl

/-- A step never leads back to the beginning. -/
theorem advance_begun (pc : Pc) (text : Bytes) :
    (advance auth answers session world pc).2.2 ≠ .start text := by
  have past : ∀ {place : Pc}, place.pastLock = true → place ≠ .start text := by
    rintro place behind rfl
    cases behind
  cases pc with
  | start line => exact (startRequest_outcome line).begun
  | addCanvas canvas width height => exact past (answerHandle_pastLock _ _)
  | addSprite sprite => exact past (answerHandle_pastLock _ _)
  | locking command => exact past (lockedSection_pastLock command)
  | disconnect =>
    simp only [advance]
    split
    · rintro ⟨⟩
    · rintro ⟨⟩
  | endSession => rintro ⟨⟩
  | _ => exact past (advance_pastLock rfl).2

/-- The step does not let its client through without a login. -/
def Pc.Required (auth : AuthDb) (answers : Answers) (session : Session) (pc : Pc) : Prop :=
  ∀ line, pc = .start line → ¬ LetThrough auth answers session line

/-- Only a client that is logged in gets beyond the idle places. -/
theorem advance_active (required : pc.Required auth answers session)
    (active : session.loggedIn = true ∨ pc.isIdle = true) :
    (advance auth answers session world pc).1.loggedIn = true ∨
      (advance auth answers session world pc).2.2.isIdle = true := by
  by_cases idle : pc.isIdle = true
  · cases pc with
    | start line => exact (startRequest_outcome line).active (required line rfl)
    | disconnect =>
      refine .inr ?_
      simp only [advance]
      split <;> rfl
    | endSession => exact .inr rfl
    | finished response => exact .inr rfl
    | _ => cases idle
  · have logged := active.resolve_right idle
    have settles : (advance auth answers session world pc).1 = session ∨ _ := advance_settles pc
    rcases settles with same | ⟨response, finished⟩
    · exact .inl (by rw [same]; exact logged)
    · exact .inr (by rw [finished]; rfl)

/-- From an idle place a client that is not logged in reaches neither store nor library. -/
theorem advance_outsider (required : pc.Required auth answers session) (idle : pc.isIdle = true)
    (out : session.loggedIn = false) :
    (advance auth answers session world pc).2.1 = world := by
  cases pc with
  | start line => exact (startRequest_outcome line).outsider (required line rfl) out
  | disconnect => simp [advance, out]
  | endSession => rfl
  | finished response => rfl
  | _ => cases idle

/-- Behind the lock any line will do. -/
theorem Pc.serves_of_pastLock (past : pc.pastLock = true) : pc.Serves auth line := by
  cases pc <;> trivial

/-- The first step leads to the section of the line's command. -/
theorem startRequest_serves :
    (startRequest auth answers session world line).2.2.Serves auth line := by
  apply startRequest_cases (motive := fun result => result.2.2.Serves auth line)
  · exact fun _ _ => trivial
  · intro arguments _
    obtain ⟨text, answered⟩ := login_reply auth answers session arguments
    rw [answered]
    trivial
  · exact fun _ _ => trivial
  · intro name arguments command tokens _ _ _ _ found
    replace tokens : requestTokens line = name :: arguments := tokens
    cases command with
    | createCanvas height width color =>
      simp only [beginCommand]
      split <;> trivial
    | createSprite shape =>
      simp only [beginCommand]
      split <;> trivial
    | store command =>
      simp only [beginCommand, Pc.Serves, commandOf, tokens, found, Except.toOption]

/-- A place keeps belonging to its line. -/
theorem advance_serves (serves : pc.Serves auth line) :
    (advance auth answers session world pc).2.2.Serves auth line := by
  cases pc with
  | start text =>
    obtain rfl : text = line := serves
    exact startRequest_serves
  | addCanvas canvas width height => exact Pc.serves_of_pastLock (answerHandle_pastLock _ _)
  | addSprite sprite => exact Pc.serves_of_pastLock (answerHandle_pastLock _ _)
  | locking command => exact Pc.serves_of_pastLock (lockedSection_pastLock command)
  | disconnect =>
    simp only [advance]
    split <;> trivial
  | endSession => trivial
  | _ => exact Pc.serves_of_pastLock (advance_pastLock rfl).2

end Advance

/-! ## One moment -/

/-- The calls of a moment are those that its step logged. -/
theorem Moment.made_eq {moment : Moment} {made : List Call}
    (logged : moment.after.library.calls = made ++ moment.before.library.calls) :
    moment.made = made := by
  rw [Moment.made, logged, List.length_append, Nat.add_sub_cancel, List.take_left]

/-- Every moment of a history was rightful at its time. -/
def Rightfully (auth : AuthDb) : List Moment → Prop
  | [] => True
  | moment :: past => moment.Rightful auth past ∧ Rightfully auth past

/-- What holds while a request is handled. -/
structure HandledSoFar (auth : AuthDb) (line : Bytes) (history : List Moment) (session : Session)
    (world : World) (pc : Pc) : Prop where
  /-- The records are borne out by the history. -/
  books : Books auth history world.store
  /-- The session belongs to a user with a balance. -/
  sound : session.Sound auth
  /-- The place belongs to the line. -/
  serves : pc.Serves auth line
  /-- Only a client that is logged in gets beyond the idle places. -/
  active : session.loggedIn = true ∨ pc.isIdle = true
  /-- The thread holds what its user may use. -/
  holds : pc.Holds world.store session.username
  /-- Its user created the canvas to be recorded. -/
  canvas : ∀ canvas, pc.unrecordedCanvas = some canvas →
    HasAccess auth history canvas session.username
  /-- So it did with a sprite. -/
  sprite : ∀ sprite, pc.unrecordedSprite = some sprite →
    CreatedSprite history sprite session.username
  /-- So it did with a placement. -/
  placement : ∀ placement, pc.unrecordedPlacement = some placement →
    CreatedPlacement history placement session.username
  /-- Nothing in the history was wrong. -/
  rightful : Rightfully auth history

section Moments

variable {auth : AuthDb} {answers : Answers} {session : Session} {world : World} {pc : Pc}
  {line : Bytes} {history : List Moment} {client : ClientId}

/-- What a user created before, it created. -/
theorem CreatedSprite.earlier {moment : Moment} {sprite : Object} {user : Bytes}
    (created : CreatedSprite history sprite user) :
    CreatedSprite (moment :: history) sprite user := by
  obtain ⟨found, inside, made⟩ := created
  exact ⟨found, List.mem_cons_of_mem _ inside, made⟩

/-- A placement that a user created earlier the user has created. -/
theorem CreatedPlacement.earlier {moment : Moment} {placement : Object} {user : Bytes}
    (created : CreatedPlacement history placement user) :
    CreatedPlacement (moment :: history) placement user := by
  obtain ⟨found, inside, made⟩ := created
  exact ⟨found, List.mem_cons_of_mem _ inside, made⟩

/-- A place with anything to record or to share is not idle. -/
theorem HandledSoFar.logged (handling : HandledSoFar auth line history session world pc)
    (busy : pc.isIdle = false) : session.loggedIn = true :=
  handling.active.resolve_right (by simp [busy])

/-- A step of a client that is not logged in changes nothing. -/
theorem HandledSoFar.outsider (handling : HandledSoFar auth line history session world pc)
    (required : pc.Required auth answers session) (out : session.loggedIn = false) :
    (advance auth answers session world pc).2.1 = world :=
  advance_outsider required (handling.active.resolve_left (by simp [out])) out

/-- A record that a step changes has its user among the members. -/
theorem HandledSoFar.record (handling : HandledSoFar auth line history session world pc)
    {record : CanvasPtr}
    (changed : (advance auth answers session world pc).2.1.store.canvases[record]? ≠
      world.store.canvases[record]?) :
    ∃ canvas, (canvasRecordPtr world.store record = some canvas ∨
        world.store.canvases[record]? = none ∧
          canvasRecordPtr (advance auth answers session world pc).2.1.store record = some canvas) ∧
      HasAccess auth history canvas session.username := by
  have store := advance_store auth answers session world pc
  cases old : world.store.canvases[record]? with
  | none =>
    cases present : (advance auth answers session world pc).2.1.store.canvases[record]? with
    | none => exact absurd (present.trans old.symm) changed
    | some canvas =>
      have there := present
      rw [store] at there
      obtain ⟨object, width, height, owner, created, rfl⟩ := CanvasStep.apply_added old there
      obtain ⟨flying, -⟩ := Pc.canvasStep_create created
      refine ⟨object, .inr ⟨rfl, ?_⟩, handling.canvas object flying⟩
      rw [canvasRecordPtr, present]
      rfl
  | some before =>
    obtain ⟨after, present, change⟩ := CanvasStep.apply_record old
      (pc.canvasStep answers session world.store (advance auth answers session world pc).2.1.store)
    rw [← store] at present
    have inside := List.mem_of_getElem? old
    have other : after ≠ before := by
      rintro rfl
      exact changed (present.trans old.symm)
    obtain ⟨name, user, member⟩ := change.member other
    obtain rfl := Pc.canvasStep_user handling.sound.short user
    cases pointer : before.canvas with
    | none =>
      exact absurd (change.gone_kept old (handling.books.unused before inside)
        (handling.books.formed before inside) pointer) other
    | some canvas =>
      refine ⟨canvas, .inl ?_, handling.books.canvases before inside canvas pointer _ member⟩
      rw [canvasRecordPtr, old]
      exact pointer

/-- A step uses and changes only what its user has access to. -/
theorem HandledSoFar.rightful_step (handling : HandledSoFar auth line history session world pc)
    (client : ClientId) {answers : Answers} (required : pc.Required auth answers session) :
    Moment.Rightful auth history
      ⟨client, session, line, world, (advance auth answers session world pc).2.1⟩ := by
  obtain ⟨made, step⟩ : ∃ made, RightfulStep session.username world pc
      (advance auth answers session world pc).2.1 (advance auth answers session world pc).2.2 made :=
    advance_rights handling.holds
  cases logged : session.loggedIn with
  | false =>
    have same : (advance auth answers session world pc).2.1 = world :=
      handling.outsider required logged
    have silent : Moment.made
        ⟨client, session, line, world, (advance auth answers session world pc).2.1⟩ = [] :=
      Moment.made_eq (by rw [same]; rfl)
    exact
      { canvases := by simp [silent]
        records := by simp [same]
        sprites := by simp [silent]
        placements := by simp [silent]
        outsider := fun _ => congrArg World.store same }
  | true =>
    have standing : session.InGoodStanding auth := ⟨logged, handling.sound.standing logged⟩
    have calls : Moment.made
        ⟨client, session, line, world, (advance auth answers session world pc).2.1⟩ = made :=
      Moment.made_eq step.logged
    constructor
    case canvases =>
      rw [calls]
      intro call inside canvas works
      rcases step.canvases call inside canvas works with own | admitted
      · exact ⟨standing, handling.canvas canvas own⟩
      · exact ⟨standing, handling.books.access admitted⟩
    case records => exact fun record changed => ⟨standing, handling.record changed⟩
    case sprites =>
      rw [calls]
      intro call inside sprite works
      rcases step.sprites call inside sprite works with own | owned
      · exact handling.sprite sprite own
      · exact handling.books.sprite owned
    case placements =>
      rw [calls]
      intro call inside placement works
      rcases step.placements call inside placement works with own | owned
      · exact handling.placement placement own
      · exact handling.books.placement owned
    case outsider => exact fun out => by simp [logged] at out

/-- A command that shares a canvas names a valid user. -/
theorem commandOf_target {id : UInt64} {target : Bytes}
    (shares : commandOf auth line = some (.store (.shareCanvas id target))) :
    copyUsername target = target := by
  unfold commandOf at shares
  split at shares
  · rename_i command arguments tokens
    cases parsed : parseCommand auth command arguments with
    | error code =>
      rw [parsed] at shares
      cases shares
    | ok found =>
      rw [parsed] at shares
      obtain rfl := Option.some.inj shares
      exact copyUsername_short (authValidUsername_length (parseCommand_target parsed rfl))
  · cases shares

/-- An operation that adds a sprite is that of the thread that created it. -/
theorem Pc.operation_addSprite {store : HandleStore} {sprite : Object} {owner : Bytes}
    {memory : Bool} (adds : pc.operation answers session store = some (.addSprite sprite owner memory)) :
    pc.unrecordedSprite = some sprite ∧ owner = session.username := by
  cases Pc.operation_performs adds
  exact ⟨rfl, rfl⟩

/-- An operation that adds a placement is that of the thread that made it. -/
theorem Pc.operation_addPlacement {store : HandleStore} {placement : Object}
    {canvasId spriteId : UInt64} {owner : Bytes} {memory : Bool}
    (adds : pc.operation answers session store =
      some (.addPlacement placement canvasId spriteId owner memory)) :
    pc.unrecordedPlacement = some placement ∧ owner = session.username := by
  cases Pc.operation_performs adds
  exact ⟨rfl, rfl⟩

/-- The canvases after a step are borne out by the history with that step. -/
theorem HandledSoFar.canvases_step (handling : HandledSoFar auth line history session world pc)
    (client : ClientId) (answers : Answers) :
    ∀ record ∈ (advance auth answers session world pc).2.1.store.canvases, ∀ canvas,
      record.canvas = some canvas → ∀ name ∈ record.names,
      HasAccess auth (⟨client, session, line, world,
        (advance auth answers session world pc).2.1⟩ :: history) canvas name := by
  have store := advance_store auth answers session world pc
  have own : copyUsername session.username = session.username :=
    copyUsername_short handling.sound.short
  intro record inside
  rw [store] at inside
  revert record inside
  refine handling.books.canvases_step (fun canvas user => .earlier) ?_ ?_
  · intro object width height owner created
    obtain ⟨flying, rfl⟩ := Pc.canvasStep_create created
    exact .earlier (own.symm ▸ handling.canvas object flying)
  · intro id username target record canvas object shares found present pointer missing
    rw [shares] at store
    obtain ⟨rfl, rfl, memory⟩ := Pc.canvasStep_share shares
    have command : commandOf auth line = some (.store (.shareCanvas id target)) := handling.serves
    have pointed : canvasRecordPtr world.store record = some object := by
      rw [canvasRecordPtr, present]
      exact pointer
    have access := handling.books.access ((canvasFor_memberAt found).admits pointed)
    rw [commandOf_target command]
    refine .shared access ⟨id, record, true, command, found, pointed, ?_⟩
    exact Prod.ext (shareSection_succeeds found present missing) store.symm

/-- The sprites after a step are borne out by the history. -/
theorem HandledSoFar.sprites_step (handling : HandledSoFar auth line history session world pc)
    (answers : Answers) :
    ∀ record ∈ (advance auth answers session world pc).2.1.store.sprites, ∀ sprite,
      record.sprite = some sprite → CreatedSprite history sprite record.owner := by
  rw [advance_operation]
  cases performs : pc.operation answers session world.store with
  | none => exact handling.books.sprites
  | some operation =>
    intro record inside sprite pointer
    have after : (world.store.after (some operation)).sprites =
      (operation.perform world.store).2.sprites := rfl
    rw [after] at inside
    have change : (operation.perform world.store).2.sprites = world.store.sprites ∨ _ :=
      StoreOperation.perform_sprites
    rcases change with kept | ⟨ended, destroyed⟩ | ⟨made, owner, rfl, added⟩
    · exact handling.books.sprites record (kept ▸ inside) sprite pointer
    · obtain ⟨old, there, rfl | rfl⟩ := mem_modify (destroyed ▸ inside)
      · exact handling.books.sprites record there sprite pointer
      · cases pointer
    · obtain ⟨own, rfl⟩ := Pc.operation_addSprite performs
      rw [added] at inside
      rcases List.mem_append.mp inside with old | new
      · exact handling.books.sprites record old sprite pointer
      · obtain rfl := List.mem_singleton.mp new
        obtain rfl := Option.some.inj pointer
        exact (copyUsername_short handling.sound.short).symm ▸ handling.sprite made own

/-- The placements after a step are borne out by the history. -/
theorem HandledSoFar.placements_step (handling : HandledSoFar auth line history session world pc)
    (answers : Answers) :
    ∀ record ∈ (advance auth answers session world pc).2.1.store.placements, ∀ placement,
      record.placement = some placement → CreatedPlacement history placement record.owner := by
  rw [advance_operation]
  cases performs : pc.operation answers session world.store with
  | none => exact handling.books.placements
  | some operation =>
    intro record inside placement pointer
    have after : (world.store.after (some operation)).placements =
      (operation.perform world.store).2.placements := rfl
    rw [after] at inside
    have change : (operation.perform world.store).2.placements = world.store.placements ∨ _ :=
      StoreOperation.perform_placements
    rcases change with
      kept | ⟨ended, destroyed⟩ | ⟨made, canvasId, spriteId, owner, rfl, added⟩
    · exact handling.books.placements record (kept ▸ inside) placement pointer
    · obtain ⟨old, there, rfl | rfl⟩ := mem_modify (destroyed ▸ inside)
      · exact handling.books.placements record there placement pointer
      · cases pointer
    · obtain ⟨own, rfl⟩ := Pc.operation_addPlacement performs
      rw [added] at inside
      rcases List.mem_append.mp inside with old | new
      · exact handling.books.placements record old placement pointer
      · obtain rfl := List.mem_singleton.mp new
        obtain rfl := Option.some.inj pointer
        exact (copyUsername_short handling.sound.short).symm ▸ handling.placement made own

/-- One step in the handling of a request. -/
theorem HandledSoFar.step (handling : HandledSoFar auth line history session world pc)
    (client : ClientId) {answers : Answers} (required : pc.Required auth answers session) :
    HandledSoFar auth line
      (⟨client, session, line, world, (advance auth answers session world pc).2.1⟩ :: history)
      (advance auth answers session world pc).1 (advance auth answers session world pc).2.1
      (advance auth answers session world pc).2.2 := by
  obtain ⟨made, step⟩ : ∃ made, RightfulStep session.username world pc
      (advance auth answers session world pc).2.1 (advance auth answers session world pc).2.2 made :=
    advance_rights handling.holds
  have calls : Moment.made
      ⟨client, session, line, world, (advance auth answers session world pc).2.1⟩ = made :=
    Moment.made_eq step.logged
  have settles : (advance auth answers session world pc).1 = session ∨ _ := advance_settles pc
  have store := advance_store auth answers session world pc
  constructor
  case books =>
    constructor
    case canvases => exact handling.canvases_step client answers
    case sprites =>
      exact fun record inside sprite pointer =>
        (handling.sprites_step answers record inside sprite pointer).earlier
    case placements =>
      exact fun record inside placement pointer =>
        (handling.placements_step answers record inside placement pointer).earlier
    case unused =>
      rw [store]
      exact handling.books.unused_step _
    case formed =>
      rw [store]
      exact CanvasStep.apply_wellFormed _ handling.books.formed
  case sound => exact advance_sound handling.sound pc
  case serves => exact advance_serves handling.serves
  case active => exact advance_active required handling.active
  case holds =>
    rcases settles with same | ⟨response, finished⟩
    · rw [same]
      exact step.holds
    · rw [finished]
      trivial
  case canvas =>
    intro canvas flying
    rcases settles with same | ⟨response, finished⟩
    · obtain ⟨height, width, color, created⟩ := step.canvasMade canvas flying
      rw [same]
      exact .created ⟨height, width, color, calls.symm ▸ created⟩
    · rw [finished] at flying
      cases flying
  case sprite =>
    intro sprite flying
    rcases settles with same | ⟨response, finished⟩
    · obtain ⟨shape, created⟩ := step.spriteMade sprite flying
      rw [same]
      exact ⟨_, List.mem_cons_self, rfl, shape, calls.symm ▸ created⟩
    · rw [finished] at flying
      cases flying
  case placement =>
    intro placement flying
    rcases settles with same | ⟨response, finished⟩
    · obtain ⟨canvas, sprite, x, y, created⟩ := step.placementMade placement flying
      rw [same]
      exact ⟨_, List.mem_cons_self, rfl, canvas, sprite, x, y, calls.symm ▸ created⟩
    · rw [finished] at flying
      cases flying
  case rightful => exact ⟨handling.rightful_step client required, handling.rightful⟩

end Moments

/-! ## Whole requests -/

section Requests

variable {auth : AuthDb} {session : Session} {world : World} {pc : Pc} {line : Bytes}
  {history : List Moment}

/-- A request that has been handled up to a place is handled on from there, moment by moment. -/
theorem HandledSoFar.serve (handling : HandledSoFar auth line history session world pc)
    (client : ClientId) (rest : List Answers)
    (required : ∀ first ∈ rest.head?, pc.Required auth first session) :
    HandledSoFar auth line ((moments auth client line session world pc rest).reverse ++ history)
      (serve auth session world pc rest).1 (serve auth session world pc rest).2.1
      (serve auth session world pc rest).2.2 := by
  induction rest generalizing session world pc history with
  | nil => exact handling
  | cons answers rest ih =>
    have later := ih (handling.step client (required answers rfl))
      fun _ _ line again => absurd again (advance_begun pc line)
    rw [serve_cons]
    simpa only [moments, List.reverse_cons, List.append_assoc, List.singleton_append] using later

/-- Members stay members. -/
theorem MemberAt.apply {store : HandleStore} {user : Bytes} {record : CanvasPtr}
    (member : MemberAt store user record) (step : CanvasStep) :
    MemberAt (step.apply store) user record := by
  obtain ⟨canvas, present, inside⟩ := member
  obtain ⟨after, there, change⟩ := CanvasStep.apply_record present step
  exact ⟨after, there, change.names.subset inside⟩

/-- Sprites stay with their owners. -/
theorem SpriteAt.after {store : HandleStore} {user : Bytes} {record : Nat}
    (owned : SpriteAt store user record) (operation : Option StoreOperation) :
    SpriteAt (store.after operation) user record := by
  obtain ⟨sprite, present, rfl⟩ := owned
  cases operation with
  | none => exact ⟨sprite, present, rfl⟩
  | some operation =>
    have change : (operation.perform store).2.sprites = store.sprites ∨ _ :=
      StoreOperation.perform_sprites
    have after : (store.after (some operation)).sprites = (operation.perform store).2.sprites := rfl
    rw [SpriteAt, after]
    rcases change with kept | ⟨ended, destroyed⟩ | ⟨made, creator, -, added⟩
    · exact ⟨sprite, kept ▸ present, rfl⟩
    · rw [destroyed]
      refine getElem?_modify_kept ?_ present
      exact fun _ => rfl
    · rw [added]
      exact ⟨sprite, List.getElem?_append_left (List.getElem?_eq_some_iff.mp present).1 ▸ present,
        rfl⟩

/-- Placements stay with their owners. -/
theorem PlacementAt.after {store : HandleStore} {user : Bytes} {record : Nat}
    (owned : PlacementAt store user record) (operation : Option StoreOperation) :
    PlacementAt (store.after operation) user record := by
  obtain ⟨placement, present, rfl⟩ := owned
  cases operation with
  | none => exact ⟨placement, present, rfl⟩
  | some operation =>
    have change : (operation.perform store).2.placements = store.placements ∨ _ :=
      StoreOperation.perform_placements
    have after : (store.after (some operation)).placements =
      (operation.perform store).2.placements := rfl
    rw [PlacementAt, after]
    rcases change with kept | ⟨ended, destroyed⟩ | ⟨made, canvasId, spriteId, creator, -, added⟩
    · exact ⟨placement, kept ▸ present, rfl⟩
    · rw [destroyed]
      refine getElem?_modify_kept ?_ present
      exact fun _ => rfl
    · rw [added]
      exact ⟨placement, List.getElem?_append_left (List.getElem?_eq_some_iff.mp present).1 ▸ present,
        rfl⟩

/-- Whatever a thread holds it holds after the steps of others. -/
theorem Pc.Holds.later {store after : HandleStore} {user : Bytes} (holds : pc.Holds store user)
    (members : ∀ record, MemberAt store user record → MemberAt after user record)
    (sprites : ∀ record, SpriteAt store user record → SpriteAt after user record)
    (placements : ∀ record, PlacementAt store user record → PlacementAt after user record) :
    pc.Holds after user := by
  cases pc with
  | canvasWait record index resume =>
    cases resume with
    | place canvas sprite canvasId spriteId x y =>
      exact ⟨members canvas holds.1, sprites sprite holds.2⟩
    | move move placement => exact placements placement holds
    | setParams placement vx vy ax ay => exact placements placement holds
    | generate canvas job => exact members canvas holds
  | _ => trivial

/-- Whatever a thread holds it holds after a request of another. -/
theorem Pc.Holds.serve {user : Bytes} {other : Pc} (holds : other.Holds world.store user)
    (rest : List Answers) : other.Holds (serve auth session world pc rest).2.1.store user := by
  induction rest generalizing session world pc with
  | nil => exact holds
  | cons answers rest ih =>
    rw [serve_cons]
    refine ih (holds.later ?_ ?_ ?_)
    · intro record member
      rw [advance_store]
      exact member.apply _
    · intro record owned
      rw [advance_operation]
      exact owned.after _
    · intro record owned
      rw [advance_operation]
      exact owned.after _

/-- A thread past every lock keeps its session to its end. -/
theorem serve_pastLock (past : pc.pastLock = true) (rest : List Answers) :
    (serve auth session world pc rest).1 = session := by
  induction rest generalizing world pc with
  | nil => rfl
  | cons answers rest ih =>
    have step : (advance auth answers session world pc).1 = session ∧ _ := advance_pastLock past
    rw [serve_cons, step.1]
    exact ih step.2

end Requests

/-! ## Runs -/

/-- A place in the loop of a wait. -/
def Pc.isWait : Pc → Bool
  | .barrierWait _ _ | .canvasWait _ _ _ => true
  | _ => false

/-- What holds between requests. -/
structure AccessState.Sound (auth : AuthDb) (state : AccessState) : Prop where
  /-- The records are borne out by the history. -/
  books : Books auth state.history state.world.store
  /-- The sessions belong to users with a balance. -/
  sessions : ∀ client session, state.clients client = some session → session.Sound auth
  /-- Requests wait for clients that are logged in, and hold what their users may use. -/
  waiting : ∀ client line pc, (client, line, pc) ∈ state.waiting → pc.isWait = true ∧
    ∃ session, state.clients client = some session ∧ session.loggedIn = true ∧
      pc.Holds state.world.store session.username
  /-- Nothing in the history was wrong. -/
  rightful : Rightfully auth state.history

/-- A blocked thread is in the loop of a wait. -/
theorem Pc.isWait_of_blocked {store : HandleStore} {pc : Pc} (blocked : pc.isBlocked store = true) :
    pc.isWait = true := by
  cases pc <;> first | rfl | cases blocked

/-- A request that is handled to its end or to a wait. -/
theorem AccessState.Sound.handle {auth : AuthDb} {state next : AccessState} {client : ClientId}
    {line : Bytes} {session : Session} {pc : Pc} {waiting : List (ClientId × Bytes × Pc)}
    {answers : List Answers} (sound : state.Sound auth)
    (handling : HandledSoFar auth line state.history session state.world pc)
    (fewer : ∀ entry ∈ waiting, entry ∈ state.waiting)
    (present : state.clients client = some session)
    (alone : (∀ line pc, (client, line, pc) ∉ waiting) ∨ pc.pastLock = true)
    (required : ∀ first ∈ answers.head?, pc.Required auth first session)
    (done : state.handle auth client line session pc waiting answers = some next) :
    next.Sound auth := by
  have served := handling.serve client answers required
  have sessions : ∀ other kept, Function.update state.clients client
      (some (serve auth session state.world pc answers).1) other = some kept → kept.Sound auth := by
    intro other kept there
    by_cases same : other = client
    · rw [same, Function.update_self] at there
      exact Option.some.inj there ▸ served.sound
    · rw [Function.update_of_ne same] at there
      exact sound.sessions other kept there
  have waits : ∀ other text place, (other, text, place) ∈ waiting → place.isWait = true ∧
      ∃ kept, Function.update state.clients client
        (some (serve auth session state.world pc answers).1) other = some kept ∧
        kept.loggedIn = true ∧
        place.Holds (serve auth session state.world pc answers).2.1.store kept.username := by
    intro other text place inside
    obtain ⟨wait, kept, there, logged, holds⟩ := sound.waiting other text place (fewer _ inside)
    refine ⟨wait, kept, ?_, logged, holds.serve answers⟩
    by_cases same : other = client
    · subst same
      obtain rfl := Option.some.inj (present.symm.trans there)
      rcases alone with nobody | past
      · exact absurd inside (nobody text place)
      · rw [Function.update_self, serve_pastLock past]
    · rw [Function.update_of_ne same, there]
  simp only [AccessState.handle] at done
  split at done
  · cases done
    exact ⟨served.books, sessions, waits, served.rightful⟩
  · split at done
    · rename_i unfinished blocked
      cases done
      refine ⟨served.books, sessions, ?_, served.rightful⟩
      intro other text place inside
      rcases List.mem_append.mp inside with old | new
      · exact waits other text place old
      · obtain ⟨rfl, rfl, rfl⟩ : other = client ∧ text = line ∧ place = _ := by
          simpa using new
        have wait := Pc.isWait_of_blocked blocked
        refine ⟨wait, _, Function.update_self _ _ _, ?_, served.holds⟩
        refine served.logged ?_
        revert wait
        cases (serve auth session state.world pc answers).2.2 <;> simp [Pc.isWait, Pc.isIdle]
    · cases done

/-- Closing a client ends its session and the participation of its user. -/
theorem AccessState.Sound.close {auth : AuthDb} {state : AccessState} {client : ClientId}
    {session : Session} {now : Nat} (sound : state.Sound auth)
    (present : state.clients client = some session) (free : state.isBusy client = false) :
    AccessState.Sound auth { state with
      clients := Function.update state.clients client
        (some (rpcClientDisconnected session state.world now).1)
      world := (rpcClientDisconnected session state.world now).2 } := by
  have alone : ∀ text place, (client, text, place) ∉ state.waiting := by
    intro text place inside
    have busy := List.any_eq_false.mp free _ inside
    simp at busy
  have sessions : ∀ other kept, Function.update state.clients client
      (some (rpcClientDisconnected session state.world now).1) other = some kept →
        kept.Sound auth := by
    intro other kept there
    by_cases same : other = client
    · rw [same, Function.update_self] at there
      obtain rfl := Option.some.inj there
      simp only [rpcClientDisconnected]
      split
      · exact ⟨Nat.zero_le _, fun logged => by cases logged⟩
      · exact sound.sessions client session present
    · rw [Function.update_of_ne same] at there
      exact sound.sessions other kept there
  have store : (rpcClientDisconnected session state.world now).2.store =
      state.world.store.after
        (if session.loggedIn then some (.disconnect session.username) else none) := by
    simp only [rpcClientDisconnected]
    split <;> rfl
  have canvases : ∃ step, (rpcClientDisconnected session state.world now).2.store =
      CanvasStep.apply state.world.store step ∧ (∀ object width height owner memory,
        step ≠ .createCanvas object width height owner memory) ∧
      ∀ id username target memory, step ≠ .shareCanvas id username target memory := by
    simp only [rpcClientDisconnected]
    split
    · exact ⟨.disconnect session.username, rfl, by simp, by simp⟩
    · exact ⟨.elsewhere _ _ _, rfl, by simp, by simp⟩
  obtain ⟨step, applied, creates, shares⟩ := canvases
  have elsewhere : (rpcClientDisconnected session state.world now).2.store.sprites =
      state.world.store.sprites ∧ (rpcClientDisconnected session state.world now).2.store.placements =
      state.world.store.placements := by
    simp only [rpcClientDisconnected, handlesDisconnectUser]
    split
    · split <;> exact ⟨rfl, rfl⟩
    · exact ⟨rfl, rfl⟩
  refine ⟨?_, sessions, ?_, sound.rightful⟩
  · constructor
    case canvases =>
      rw [applied]
      exact sound.books.canvases_step (fun _ _ => id)
        (fun object width height owner same => absurd same (creates _ _ _ _ _))
        (fun id username target _ _ _ same => absurd same (shares _ _ _ _))
    case sprites => exact elsewhere.1 ▸ sound.books.sprites
    case placements => exact elsewhere.2 ▸ sound.books.placements
    case unused => exact applied ▸ sound.books.unused_step step
    case formed => exact applied ▸ CanvasStep.apply_wellFormed step sound.books.formed
  · intro other text place inside
    obtain ⟨wait, kept, there, logged, holds⟩ := sound.waiting other text place inside
    have apart : other ≠ client := by
      rintro rfl
      exact alone text place inside
    refine ⟨wait, kept, (Function.update_of_ne apart _ _).trans there, logged, ?_⟩
    · refine holds.later (fun record member => ?_) (fun record owned => ?_) fun record owned => ?_
      · rw [applied]
        exact member.apply step
      · rw [store]
        exact owned.after _
      · rw [store]
        exact owned.after _

/-- A wait is past every lock. -/
theorem Pc.pastLock_of_isWait {pc : Pc} (wait : pc.isWait = true) : pc.pastLock = true := by
  cases pc <;> first | rfl | cases wait

/-- Nobody is let through to a command without a login. -/
def LoginRequired (auth : AuthDb) (state : AccessState) : AccessLabel → Prop
  | .request client line answers => ∀ session, state.clients client = some session →
      ∀ first ∈ answers.head?, ¬ LetThrough auth first session line
  | _ => True

/-- Every step that lets nobody through without a login keeps the state sound. -/
theorem AccessState.Sound.step {auth : AuthDb} {state next : AccessState} {label : AccessLabel}
    (sound : state.Sound auth) (required : LoginRequired auth state label)
    (step : (accessMachine auth).step state label = some next) :
    next.Sound auth := by
  cases label with
  | accept client =>
    simp only [accessMachine] at step
    split at step <;> cases step
    rename_i absent
    refine ⟨sound.books, ?_, ?_, sound.rightful⟩
    · intro other session there
      by_cases same : other = client
      · subst same
        dsimp only at there
        rw [Function.update_self] at there
        obtain rfl := Option.some.inj there
        exact ⟨Nat.zero_le _, fun logged => by cases logged⟩
      · exact sound.sessions other session ((Function.update_of_ne same _ _).symm.trans there)
    · intro other line pc inside
      obtain ⟨wait, session, there, rest⟩ := sound.waiting other line pc inside
      have apart : other ≠ client := by
        rintro rfl
        exact absurd (absent.symm.trans there) (by simp)
      exact ⟨wait, session, (Function.update_of_ne apart _ _).trans there, rest⟩
  | request client line answers =>
    simp only [accessMachine] at step
    split at step
    · rename_i session present
      split at step
      · cases step
      · rename_i free
        refine sound.handle ?_ (fun _ => id) present (.inl ?_) ?_ step
        · exact
            { books := sound.books
              sound := sound.sessions client session present
              serves := rfl
              active := .inr rfl
              holds := trivial
              canvas := fun _ flying => by cases flying
              sprite := fun _ flying => by cases flying
              placement := fun _ flying => by cases flying
              rightful := sound.rightful }
        · intro text place inside
          refine free (List.any_eq_true.mpr ⟨_, inside, by simp⟩)
        · rintro first member text ⟨⟩
          exact required session present first member
    · cases step
  | resume index answers =>
    simp only [accessMachine] at step
    split at step
    · rename_i client line pc there
      split at step
      · rename_i session present
        obtain ⟨wait, kept, known, logged, holds⟩ :=
          sound.waiting client line pc (List.mem_of_getElem? there)
        obtain rfl := Option.some.inj (present.symm.trans known)
        have past := Pc.pastLock_of_isWait wait
        refine sound.handle ?_ (fun entry => List.mem_of_mem_eraseIdx) present (.inr past) ?_ step
        rotate_left
        · rintro first - text rfl
          cases past
        have flying : pc.unrecordedCanvas = none ∧ pc.unrecordedSprite = none ∧
            pc.unrecordedPlacement = none := by
          cases pc <;> first | exact ⟨rfl, rfl, rfl⟩ | cases wait
        exact
          { books := sound.books
            sound := sound.sessions client session present
            serves := Pc.serves_of_pastLock past
            active := .inl logged
            holds := holds
            canvas := by simp [flying.1]
            sprite := by simp [flying.2.1]
            placement := by simp [flying.2.2]
            rightful := sound.rightful }
      · cases step
    · cases step
  | close client now =>
    simp only [accessMachine] at step
    split at step
    · rename_i session present
      split at step
      · cases step
      · rename_i free
        cases step
        exact sound.close present (by simpa using free)
    · cases step

/-- Before anything happened nothing was wrong. -/
theorem accessState_sound (auth : AuthDb) : AccessState.Sound auth {} where
  books := ⟨by simp, by simp, by simp, by simp, by simp⟩
  sessions := by simp
  waiting := by simp
  rightful := trivial

/-- A moment of a history was rightful after what came before it. -/
theorem Rightfully.moment {auth : AuthDb} {later past : List Moment} {moment : Moment}
    (rightful : Rightfully auth (later ++ moment :: past)) : moment.Rightful auth past := by
  induction later with
  | nil => exact rightful.1
  | cons latest later ih => exact ih rightful.2

/-- In every run in which nobody is let through without a login, at every moment of every request, a
request uses and changes only what its user had access to by then, and one of a client that is not
logged in changes nothing. -/
theorem requests_are_rightful {auth : AuthDb} {labels : List AccessLabel} {last : AccessState}
    {later past : List Moment} {moment : Moment}
    (required : (accessMachine auth).EveryStep (LoginRequired auth) {} labels)
    (ran : (accessMachine auth).run {} labels = some last)
    (happened : last.history = later ++ moment :: past) : moment.Rightful auth past := by
  have kept : ∀ state label next, state.Sound auth → LoginRequired auth state label →
      (accessMachine auth).step state label = some next → next.Sound auth :=
    fun state label next sound required step => sound.step required step
  have sound := (Machine.always_of_guarded kept (accessState_sound auth) required).last ran
  exact (happened ▸ sound.rightful).moment

/-- There is memory for the refusal of the request. -/
def AccessLabel.refuses : AccessLabel → Bool
  | .request _ _ answers => answers.head?.all Answers.refusal
  | _ => true

/-- Then nobody is let through. -/
theorem loginRequired_of_refuses {auth : AuthDb} {label : AccessLabel}
    (refuses : label.refuses = true) (state : AccessState) : LoginRequired auth state label := by
  cases label with
  | request client line answers =>
    intro session _ first member through
    have allocated : first.refusal = true := by
      rw [AccessLabel.refuses, Option.mem_def.mp member] at refuses
      exact refuses
    cases through.refusal.symm.trans allocated
  | _ => trivial

/-- Ann and bob have a balance. -/
def twoUsers : AuthDb := [⟨bytes "ann", 5⟩, ⟨bytes "bob", 1⟩]

/-- Ann creates a canvas and shares it with bob, who renders a frame of it. -/
def sharedCanvas : List AccessLabel :=
  [.accept 0, .accept 1, .request 0 (bytes "Login ann") [{}],
    .request 0 (bytes "create_canvas 2 3 255") [{}, {}],
    .request 0 (bytes "share_canvas 1 bob") [{}, {}], .request 1 (bytes "Login bob") [{}],
    .request 1 (bytes "generate 1 film 0 0 25") [{}, {}, {}]]

/-- Bob's frame was rightful after what ann did. -/
theorem requests_are_rightful_shared : ∃ last moment past,
    (accessMachine twoUsers).run {} sharedCanvas = some last ∧ last.history = moment :: past ∧
      moment.user = bytes "bob" ∧ moment.made = [.generateFrame (some 0) 0 25] ∧
      moment.Rightful twoUsers past := by
  obtain ⟨last, ran, seen⟩ := Option.map_eq_some_iff.mp (by decide +kernel :
    ((accessMachine twoUsers).run {} sharedCanvas).map (fun last =>
      last.history.head?.map fun moment => (moment.user, moment.made)) =
        some (some (bytes "bob", [.generateFrame (some 0) 0 25])))
  obtain ⟨moment, newest, known⟩ := Option.map_eq_some_iff.mp seen
  obtain ⟨past, happened⟩ := List.head?_eq_some_iff.mp newest
  obtain ⟨user, made⟩ := Prod.mk.inj known
  have latest : last.history = [] ++ moment :: past := happened
  have required : (accessMachine twoUsers).EveryStep (LoginRequired twoUsers) {} sharedCanvas :=
    Machine.everyStep_of_labels fun label member state => loginRequired_of_refuses
      ((by decide : ∀ label ∈ sharedCanvas, label.refuses = true) label member) state
  exact ⟨last, moment, past, ran, happened, user, made, requests_are_rightful required ran latest⟩

/-- Nobody has logged in, and there is no memory to say so. -/
def unrefusedCanvas : List AccessLabel :=
  [.accept 0, .request 0 (bytes "create_canvas 1 1 0") [{ refusal := false }, {}]]

/-- The canvas is created all the same. -/
theorem unrefusedCanvas_wrongful : ∃ last moment past,
    (accessMachine twoUsers).run {} unrefusedCanvas = some last ∧ last.history = moment :: past ∧
      ¬ moment.Rightful twoUsers past := by
  obtain ⟨last, ran, seen⟩ := Option.map_eq_some_iff.mp (by decide +kernel :
    ((accessMachine twoUsers).run {} unrefusedCanvas).map (fun last =>
      last.history.head?.map fun moment => (moment.session.loggedIn,
        moment.before.store.canvases.length, moment.after.store.canvases.length)) =
          some (some (false, 0, 1)))
  obtain ⟨moment, newest, known⟩ := Option.map_eq_some_iff.mp seen
  obtain ⟨past, happened⟩ := List.head?_eq_some_iff.mp newest
  obtain ⟨out, sizes⟩ := Prod.mk.inj known
  obtain ⟨before, after⟩ := Prod.mk.inj sizes
  refine ⟨last, moment, past, ran, happened, fun rightful => ?_⟩
  have same := rightful.outsider out
  rw [same, before] at after
  cases after

end AnimateService
