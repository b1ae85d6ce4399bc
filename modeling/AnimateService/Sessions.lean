import AnimateService.Members
import AnimateService.RpcThreads

/-!
# Sessions and connected users

The session of a client and the members that are connected for it are linked by the username
alone. Here each request is one step, from its line to its response or to its wait at a barrier,
and clients are accepted, fail to be written to, and are closed in any order. `RequestOutcome` is
what a request can do to its client's session and to the members of canvases.
-/
namespace AnimateService

open Transition

/-- The fields of `client_state_t` that decide whether the client has a session. -/
structure ClientSession where
  /-- The session. -/
  session : Session := {}
  /-- The client is closed or a write to it failed. -/
  disconnected : Bool := false
  deriving DecidableEq, Repr

/-- All clients, what they share, and the requests that wait at a barrier. -/
structure SessionsState where
  /-- The clients accepted so far. -/
  clients : ClientId → Option ClientSession := fun _ => none
  /-- The store, the library and the files. -/
  world : World := {}
  /-- The requests that wait, with their clients. -/
  waiting : List (ClientId × Pc) := []

/-- What happens next, with the environment's answers. -/
inductive SessionsLabel where
  /-- `accept_client` succeeds. -/
  | accept (client : ClientId)
  /-- A request is handled. -/
  | request (client : ClientId) (line : Bytes) (answers : List Answers)
  /-- A request that waited is let through and handled to its end or its next wait. -/
  | resume (index : Nat) (answers : List Answers)
  /-- `send_ordered_response` fails to write to a client. -/
  | writeFails (client : ClientId)
  /-- `close_client`. -/
  | close (client : ClientId) (now : Nat)
  deriving DecidableEq, Repr

/-- A thread waits at a barrier for a flag that is still set. -/
def Pc.isBlocked (store : HandleStore) : Pc → Bool
  | .barrierWait record user => store.waiting record user
  | .canvasWait record user _ => store.waiting record user
  | _ => false

/-- The state after a client's request was handled to its end or to a wait. -/
def SessionsState.settle (state : SessionsState) (client : ClientId) (record : ClientSession)
    (waiting : List (ClientId × Pc)) (result : Session × World × Pc) : Option SessionsState :=
  let (session, world, pc) := result
  let clients := Function.update state.clients client (some { record with session })
  if pc.isFinished then some { clients, world, waiting }
  else if pc.isBlocked world.store then some { clients, world, waiting := waiting ++ [(client, pc)] }
  else none

/-- Requests one at a time. -/
def sessionsMachine (auth : AuthDb) : Machine SessionsState SessionsLabel where
  step state
    | .accept client =>
      match state.clients client with
      | none => some { state with clients := Function.update state.clients client (some {}) }
      | some _ => none
    | .request client line answers =>
      match state.clients client with
      | some record =>
        state.settle client record state.waiting
          (serve auth record.session state.world (.start line) answers)
      | none => none
    | .resume index answers =>
      match state.waiting[index]? with
      | some (client, pc) =>
        match state.clients client with
        | some record =>
          state.settle client record (state.waiting.eraseIdx index)
            (serve auth record.session state.world pc answers)
        | none => none
      | none => none
    | .writeFails client =>
      match state.clients client with
      | some record =>
        if record.disconnected then none
        else
          some { state with
            clients := Function.update state.clients client (some { record with disconnected := true }) }
      | none => none
    | .close client now =>
      match state.clients client with
      | some record =>
        if record.disconnected then some state
        else
          let (session, world) := rpcClientDisconnected record.session state.world now
          some { state with
            clients := Function.update state.clients client (some ⟨session, true⟩), world }
      | none => none

/-! ## What a request does to the session -/

/-- The tokens that the handler reads from a request line. -/
def requestTokens (line : Bytes) : List Bytes := (tokenize (cString line) 16).2

/-- The request is a Login or a Disconnect. -/
def SessionRequest (line : Bytes) : Prop :=
  (requestTokens line).head? = some (bytes "Login") ∨
    (requestTokens line).head? = some (bytes "Disconnect")

/-- The request logs its client in under a name. -/
def LogsIn (auth : AuthDb) (line name : Bytes) : Prop :=
  requestTokens line = [bytes "Login", name] ∧ authValidUsername name = true ∧
    ∃ balance, authLookup auth name = some balance ∧ 0 < balance

/-- A client that is not logged in is let through to a command: there was no memory for the refusal
of `require_login`. -/
def LetThrough (auth : AuthDb) (answers : Answers) (session : Session) (line : Bytes) : Prop :=
  session.loggedIn = false ∧ answers.lineCopied = true ∧ answers.refusal = false ∧
    ¬ SessionRequest line ∧ ∃ name arguments command, requestTokens line = name :: arguments ∧
      parseCommand auth name arguments = .ok command

/-- With memory for it the refusal is the answer. -/
theorem LetThrough.refusal {auth : AuthDb} {answers : Answers} {session : Session} {line : Bytes}
    (through : LetThrough auth answers session line) : answers.refusal = false := through.2.2.1

/-- A place behind the first section of a canvas operation. -/
def Pc.pastLock : Pc → Bool
  | .barrierWait _ _ | .canvasWait _ _ _ | .addPlacement _ _ _ | .frame _ _ | .finished _ => true
  | _ => false

/-- A place in the handling of a command other than Login and Disconnect; a canvas is shared with
a valid name only. -/
def Pc.Working : Pc → Prop
  | .start _ | .disconnect | .endSession => False
  | .locking (.shareCanvas _ target) => authValidUsername target = true
  | _ => True

/-- A response ends the work. -/
@[simp] theorem working_reply (answers : Answers) (text : Bytes) : (answers.reply text).Working := trivial

/-! ## Where a step leads -/

variable {auth : AuthDb} {answers : Answers} {session : Session} {world : World} {pc : Pc}

/-- Whatever is past every lock is at work. -/
theorem Pc.working_of_pastLock (past : pc.pastLock = true) : pc.Working := by
  cases pc <;> trivial

/-- Whatever is behind its waits is past every lock. -/
theorem Pc.pastLock_of_late (late : pc.isLate = true) : pc.pastLock = true := by
  cases pc with
  | addPlacement | frame | finished => rfl
  | _ => cases late

/-- A canvas operation stays past its lock. -/
theorem resumeAfterWait_pastLock (resume : Resume) :
    (resumeAfterWait answers world resume).2.pastLock = true :=
  Pc.pastLock_of_late (resumeAfterWait_late resume)

/-- An added record is answered. -/
theorem answerHandle_pastLock (id : UInt64) (undo : Call) :
    (answerHandle answers world id undo).2.pastLock = true :=
  Pc.pastLock_of_late (answerHandle_late id undo)

/-- A canvas operation that may have to wait stays past its lock. -/
theorem waitThenResume_pastLock (record : CanvasPtr) (name : Bytes) (resume : Resume) :
    (waitThenResume answers world record name resume).2.pastLock = true := by
  unfold waitThenResume
  split
  · rfl
  · exact resumeAfterWait_pastLock resume

/-- An operation on a placement stays past its lock. -/
theorem throughPlacement_pastLock (name : Bytes) (placement : Nat) (resume : Resume) :
    (throughPlacement answers world name placement resume).2.pastLock = true := by
  unfold throughPlacement
  split
  · exact waitThenResume_pastLock _ _ _
  · exact resumeAfterWait_pastLock resume

/-- The section of a command leads past its lock. -/
theorem lockedSection_pastLock (command : StoreCommand) :
    (lockedSection answers session world command).2.pastLock = true := by
  cases command with
  | placeSprite canvasId spriteId x y =>
    simp only [lockedSection]
    split
    · exact waitThenResume_pastLock _ _ _
    · rfl
  | movePlacement move id =>
    simp only [lockedSection]
    split
    · exact throughPlacement_pastLock _ _ _
    · rfl
  | setAnimationParams id vx vy ax ay =>
    simp only [lockedSection]
    split
    · exact throughPlacement_pastLock _ _ _
    · rfl
  | barrier canvasId =>
    simp only [lockedSection]
    split <;> rfl
  | generate job =>
    simp only [lockedSection]
    split
    · exact waitThenResume_pastLock _ _ _
    · rfl
  | destroyCanvas id => rfl
  | destroySprite id => rfl
  | destroyPlacement id => rfl
  | shareCanvas canvasId target => rfl

/-- A step past every lock keeps the session and stays there. -/
theorem advance_pastLock (past : pc.pastLock = true) :
    (advance auth answers session world pc).1 = session ∧
      (advance auth answers session world pc).2.2.pastLock = true := by
  cases pc with
  | barrierWait record user =>
    refine ⟨rfl, ?_⟩
    simp only [advance]
    split <;> rfl
  | canvasWait record user resume =>
    simp only [advance]
    split
    · exact ⟨rfl, rfl⟩
    · exact ⟨rfl, resumeAfterWait_pastLock resume⟩
  | addPlacement placement canvasId spriteId => exact ⟨rfl, answerHandle_pastLock _ _⟩
  | frame job frame => exact ⟨rfl, Pc.pastLock_of_late (generateFrame_late job frame)⟩
  | finished response => exact ⟨rfl, rfl⟩
  | _ => cases past

/-- A step at work keeps the session and stays at work. -/
theorem advance_working (working : pc.Working) :
    (advance auth answers session world pc).1 = session ∧
      (advance auth answers session world pc).2.2.Working := by
  by_cases past : pc.pastLock = true
  · obtain ⟨same, after⟩ := advance_pastLock past
    exact ⟨same, Pc.working_of_pastLock after⟩
  · cases pc with
    | start line => cases working
    | disconnect => cases working
    | endSession => cases working
    | addCanvas canvas width height =>
      exact ⟨rfl, Pc.working_of_pastLock (answerHandle_pastLock _ _)⟩
    | addSprite sprite => exact ⟨rfl, Pc.working_of_pastLock (answerHandle_pastLock _ _)⟩
    | locking command => exact ⟨rfl, Pc.working_of_pastLock (lockedSection_pastLock command)⟩
    | _ => exact absurd rfl past

/-! ## Whom a request connects -/

/-- What holds of every session: there is a name exactly while the client is logged in, and it
fits its buffer. -/
structure Session.Formed (session : Session) : Prop where
  /-- The name fits. -/
  short : session.username.length ≤ maxUsernameLen
  /-- Somebody is logged in exactly under a name. -/
  named : session.loggedIn = true ↔ session.username ≠ []

/-- A name that fits is copied whole. -/
theorem copyUsername_short {name : Bytes} (short : name.length ≤ maxUsernameLen) :
    copyUsername name = name := List.take_of_length_le short

/-- The user of a step's section is the client's. -/
theorem Pc.canvasStep_user {store after : HandleStore} {name : Bytes}
    (short : session.username.length ≤ maxUsernameLen)
    (user : (pc.canvasStep answers session store after).user = some name) :
    name = session.username := by
  have step := pc.canvasStep_section answers session store after
  generalize pc.canvasStep answers session store after = named at step user
  cases step with
  | addCanvas canvas width height =>
    exact (Option.some.inj user).symm.trans (copyUsername_short short)
  | elsewhere => cases user
  | _ => exact (Option.some.inj user).symm

/-- Behind every lock no member is added. -/
theorem Pc.canvasStep_formed_pastLock {store after : HandleStore} (past : pc.pastLock = true) :
    (pc.canvasStep answers session store after).Formed := by
  cases pc <;> first | cases past; done | trivial

/-- At work, members are added with proper names. -/
theorem Pc.canvasStep_formed {store after : HandleStore} (working : pc.Working)
    (formed : session.Formed) (named : session.username ≠ []) :
    (pc.canvasStep answers session store after).Formed := by
  have step := pc.canvasStep_section answers session store after
  generalize pc.canvasStep answers session store after = adding at step
  cases step with
  | addCanvas canvas width height =>
    rw [CanvasStep.Formed, copyUsername_short formed.short]
    exact named
  | shareCanvas id target =>
    exact ⟨copyUsername_short (authValidUsername_length working), authValidUsername_ne_nil working⟩
  | _ => trivial

/-- What a request does to the members while its session stays as it is. -/
structure Served (session : Session) (before : HandleStore) (result : Session × World × Pc) :
    Prop where
  /-- The session is kept. -/
  session_eq : result.1 = session
  /-- Names stay distinct. -/
  formed : NamesFormed result.2.1.store
  /-- Nobody is connected but the client's user. -/
  connected : ∀ name, ConnectedNamed result.2.1.store name →
    ConnectedNamed before name ∨ name = session.username

/-- The steps of a request within a class of places that they do not leave. -/
theorem serve_keeps {allowed : Pc → Prop} (short : session.username.length ≤ maxUsernameLen)
    (closed : ∀ answers world pc, allowed pc → (advance auth answers session world pc).1 = session ∧
      allowed (advance auth answers session world pc).2.2)
    (proper : ∀ answers store after pc, allowed pc →
      (pc.canvasStep answers session store after).Formed)
    (rest : List Answers) (inside : allowed pc) (formed : NamesFormed world.store) :
    Served session world.store (serve auth session world pc rest) ∧
      allowed (serve auth session world pc rest).2.2 := by
  induction rest generalizing world pc with
  | nil => exact ⟨⟨rfl, formed, fun _ => .inl⟩, inside⟩
  | cons answers rest ih =>
    obtain ⟨same, stays⟩ := closed answers world pc inside
    have store := advance_store auth answers session world pc
    have after : NamesFormed (advance auth answers session world pc).2.1.store := by
      rw [store]
      exact CanvasStep.apply_formed (proper answers _ _ pc inside) formed
    obtain ⟨served, kept⟩ := ih stays after
    rw [serve_cons, same]
    refine ⟨⟨served.session_eq, served.formed, fun name there => ?_⟩, kept⟩
    rcases served.connected name there with here | mine
    · rw [store] at here
      rcases CanvasStep.apply_connected here with old | user
      · exact .inl old
      · exact .inr (Pc.canvasStep_user short user)
    · exact .inr mine

/-- The first step of a request. -/
inductive StartOutcome (auth : AuthDb) (answers : Answers) (session : Session) (world : World)
    (line : Bytes) : Session × World × Pc → Prop where
  /-- The client is logged in under a name. -/
  | login {name : Bytes} {after : Session} {response : Option Bytes} (logs : LogsIn auth line name)
      (named : after.username = name) (logged : after.loggedIn = true) :
    StartOutcome auth answers session world line (after, world, .finished response)
  /-- The request is answered without a change of the user. -/
  | answered {after : Session} {response : Option Bytes}
      (named : after.username = session.username) (logged : after.loggedIn = session.loggedIn) :
    StartOutcome auth answers session world line (after, world, .finished response)
  /-- The session is to be ended. -/
  | disconnect (request : SessionRequest line) :
    StartOutcome auth answers session world line (session, world, .disconnect)
  /-- The command of a client that is logged in, or let through, is at work. -/
  | working {begun : World} {pc : Pc}
      (through : session.loggedIn = true ∨ LetThrough auth answers session line)
      (other : ¬ SessionRequest line) (store : begun.store = world.store) (working : pc.Working) :
    StartOutcome auth answers session world line (session, begun, pc)

/-- A Login changes the session or is answered. -/
theorem login_outcome {line : Bytes} {arguments : List Bytes}
    (tokens : requestTokens line = bytes "Login" :: arguments) :
    StartOutcome auth answers session world line ((login auth answers session arguments).1, world,
      (login auth answers session arguments).2) := by
  unfold login
  split
  · rename_i name
    split
    · rename_i valid
      split
      · exact .answered rfl rfl
      · rename_i balance found
        split
        · exact .answered rfl rfl
        · rename_i positive
          exact .login ⟨tokens, valid, balance, found, by omega⟩
            (copyUsername_short (authValidUsername_length valid)) rfl
    · exact .answered rfl rfl
  · exact .answered rfl rfl

/-- A command leads to work. -/
theorem beginCommand_working (answers : Answers) (world : World) {command : Command}
    (valid : ∀ target, command.target = some target → authValidUsername target = true) :
    (beginCommand answers world command).1.store = world.store ∧
      (beginCommand answers world command).2.Working := by
  cases command with
  | createCanvas height width color =>
    refine ⟨rfl, ?_⟩
    simp only [beginCommand]
    split <;> trivial
  | createSprite shape =>
    refine ⟨rfl, ?_⟩
    simp only [beginCommand]
    split <;> trivial
  | store command =>
    refine ⟨rfl, ?_⟩
    cases command <;> first | exact valid _ rfl | trivial

/-- Every first step has one of the outcomes. -/
theorem startRequest_outcome (line : Bytes) :
    StartOutcome auth answers session world line (startRequest auth answers session world line) := by
  apply startRequest_cases (motive := StartOutcome auth answers session world line)
  · exact fun _ _ => .answered rfl rfl
  · exact fun arguments tokens => login_outcome tokens
  · intro arguments tokens
    replace tokens : requestTokens line = bytes "Disconnect" :: arguments := tokens
    exact .disconnect (.inr (by rw [tokens]; rfl))
  · intro name arguments command tokens not_login not_disconnect copied logged found
    replace tokens : requestTokens line = name :: arguments := tokens
    have other : ¬ SessionRequest line := by
      rw [SessionRequest, tokens]
      simp [not_login, not_disconnect]
    obtain ⟨store, working⟩ := beginCommand_working answers world
      fun target shares => parseCommand_target found shares
    refine .working ?_ other store working
    cases active : session.loggedIn with
    | true => exact .inl rfl
    | false =>
      have unrefused := logged.resolve_left (by simp [active])
      exact .inr ⟨active, copied, unrefused, other, name, arguments, command, tokens, found⟩

/-- A request that has run to its end or to a wait. -/
inductive RequestOutcome (auth : AuthDb) (session : Session) (world : World) (line : Bytes) :
    Session × World × Pc → Prop where
  /-- The client is logged in under a name. -/
  | login {name : Bytes} {after : Session} {pc : Pc} (logs : LogsIn auth line name)
      (named : after.username = name) (logged : after.loggedIn = true)
      (done : pc.isFinished = true) :
    RequestOutcome auth session world line (after, world, pc)
  /-- The request is answered without a change of the user. -/
  | answered {after : Session} {pc : Pc} (named : after.username = session.username)
      (logged : after.loggedIn = session.loggedIn) (done : pc.isFinished = true) :
    RequestOutcome auth session world line (after, world, pc)
  /-- The session is ended. -/
  | ended {after : Session} {closed : World} {pc : Pc} (logged : session.loggedIn = true)
      (named : after.username = []) (out : after.loggedIn = false)
      (store : closed.store = (handlesDisconnectUser world.store session.username).1)
      (done : pc.isFinished = true) :
    RequestOutcome auth session world line (after, closed, pc)
  /-- A logged-in client's command was served. -/
  | served {result : Session × World × Pc} (logged : session.loggedIn = true)
      (other : ¬ SessionRequest line) (served : Served session world.store result) :
    RequestOutcome auth session world line result

/-- A finished request stays as it is. -/
theorem serve_finished (response : Option Bytes) (rest : List Answers) :
    serve auth session world (.finished response) rest = (session, world, .finished response) := by
  induction rest with
  | nil => rfl
  | cons answers rest ih => exact ih

/-- A session's end that has run to its end. -/
theorem serve_disconnect {line : Bytes} {rest : List Answers} {result : Session × World × Pc}
    (ran : serve auth session world .disconnect rest = result)
    (ends : result.2.2.isFinished = true ∨ result.2.2.isBlocked result.2.1.store = true) :
    RequestOutcome auth session world line result := by
  cases rest with
  | nil =>
    subst ran
    rcases ends with ends | ends <;> cases ends
  | cons answers rest =>
    rw [serve_cons] at ran
    cases logged : session.loggedIn with
    | false =>
      simp only [advance, logged, Bool.false_eq_true, ↓reduceIte, Answers.reply,
        serve_finished] at ran
      subst ran
      exact .answered rfl rfl rfl
    | true =>
      simp only [advance, logged, ↓reduceIte] at ran
      cases rest with
      | nil =>
        subst ran
        rcases ends with ends | ends <;> cases ends
      | cons answers rest =>
        rw [serve_cons] at ran
        simp only [advance, Answers.reply, serve_finished] at ran
        subst ran
        exact .ended logged rfl rfl rfl rfl

/-- What a request that has run to its end or to a wait did, unless its client was let through. -/
theorem serve_request {line : Bytes} {rest : List Answers} {result : Session × World × Pc}
    (formed : session.Formed) (names : NamesFormed world.store)
    (refused : ∀ first ∈ rest.head?, ¬ LetThrough auth first session line)
    (ran : serve auth session world (.start line) rest = result)
    (ends : result.2.2.isFinished = true ∨ result.2.2.isBlocked result.2.1.store = true) :
    RequestOutcome auth session world line result := by
  cases rest with
  | nil =>
    subst ran
    rcases ends with ends | ends <;> cases ends
  | cons answers rest =>
    rw [serve_cons] at ran
    have outcome : StartOutcome auth answers session world line
        (startRequest auth answers session world line) := startRequest_outcome line
    have first : advance auth answers session world (.start line) =
      startRequest auth answers session world line := rfl
    rw [first] at ran
    generalize startRequest auth answers session world line = begun at ran outcome
    cases outcome with
    | login logs named logged =>
      rw [serve_finished] at ran
      subst ran
      exact .login logs named logged rfl
    | answered named logged =>
      rw [serve_finished] at ran
      subst ran
      exact .answered named logged rfl
    | disconnect request => exact serve_disconnect ran ends
    | working through other store working =>
      subst ran
      have logged := through.resolve_right (refused answers rfl)
      have named := formed.named.mp logged
      rename_i begun pc
      have kept : Served session begun.store (serve auth session begun pc rest) ∧
          (serve auth session begun pc rest).2.2.Working :=
        serve_keeps formed.short (fun _ _ _ => advance_working)
          (fun _ _ _ _ working => Pc.canvasStep_formed working formed named) rest working
          (store ▸ names)
      rw [store] at kept
      exact .served logged other kept.1

end AnimateService
