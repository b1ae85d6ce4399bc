import AnimateService.ConnectedUsers
import AnimateService.ServerSteps

/-!
# Who is connected through which client

A name is connected to a canvas through the clients whose sections connected it since it was last
connected nowhere. While no client changes its name or loses its session behind such a
connection, a client holds at most the name of its session: when the session has ended, nobody is
connected through the client.
-/
namespace AnimateService

open Transition

/-! ## What a handler's step connects -/

variable {auth : AuthDb} {answers : Answers} {session : Session} {world : World} {pc : Pc}

/-- What a step connects does not depend on what it leaves elsewhere in the store. -/
theorem Pc.canvasStep_connects (store after : HandleStore) :
    (pc.canvasStep answers session store after).connects store =
      pc.connects answers session store := by
  cases pc with
  | locking command =>
    cases command with
    | movePlacement move id =>
      cases found : handlesGetPlacement store id session.username with
      | none =>
        rw [Pc.connects, (Pc.canvasStep_missing found).1, (Pc.canvasStep_missing found).1]
        rfl
      | some placement =>
        rw [Pc.connects, (Pc.canvasStep_found found).1, (Pc.canvasStep_found found).1]
    | setAnimationParams id vx vy ax ay =>
      cases found : handlesGetPlacement store id session.username with
      | none =>
        rw [Pc.connects, (Pc.canvasStep_missing found).2, (Pc.canvasStep_missing found).2]
        rfl
      | some placement =>
        rw [Pc.connects, (Pc.canvasStep_found found).2, (Pc.canvasStep_found found).2]
    | _ => rfl
  | disconnect =>
    rw [Pc.connects, Pc.canvasStep_disconnect, Pc.canvasStep_disconnect]
    split <;> rfl
  | _ => rfl

/-- A step connects nobody but the name that it connects. -/
theorem advance_connects {name : Bytes}
    (connected : ConnectedNamed (advance auth answers session world pc).2.1.store name) :
    ConnectedNamed world.store name ∨ pc.connects answers session world.store = some name := by
  rw [advance_store] at connected
  rw [← Pc.canvasStep_connects world.store (advance auth answers session world pc).2.1.store]
  exact CanvasStep.apply_connects connected

/-- The name that a step connects is the session's. -/
theorem Pc.connects_user {store : HandleStore} {name : Bytes} (formed : session.Formed)
    (connects : pc.connects answers session store = some name) : name = session.username :=
  Pc.canvasStep_user formed.short (CanvasStep.user_of_connects connects)

/-- The end of a session connects nobody. -/
theorem Pc.connects_disconnect (store : HandleStore) :
    Pc.disconnect.connects answers session store = none := by
  rw [Pc.connects, Pc.canvasStep_disconnect]
  split <;> rfl

/-- A step at work that connects only under a name keeps the names distinct. -/
theorem Pc.canvasStep_names {store after : HandleStore} (working : pc.Working)
    (formed : session.Formed) (names : NamesFormed store)
    (named : ∀ name, pc.connects answers session store = some name → session.username ≠ []) :
    NamesFormed ((pc.canvasStep answers session store after).apply store) := by
  by_cases anonymous : session.username = []
  · cases pc with
    | addCanvas canvas width height =>
      cases memory : answers.memory with
      | false =>
        have same : ((Pc.addCanvas canvas width height).canvasStep answers session store after).apply
            store = store := by
          show (handlesAddCanvas store canvas width height session.username answers.memory).2 = store
          rw [memory]
          rfl
        rwa [same]
      | true =>
        refine absurd anonymous (named (copyUsername session.username) ?_)
        exact if_pos memory
    | locking command =>
      refine CanvasStep.apply_formed ?_ names
      have step := (Pc.locking command).canvasStep_section answers session store after
      generalize (Pc.locking command).canvasStep answers session store after = adding at step
      cases step with
      | shareCanvas id target =>
        exact ⟨copyUsername_short (authValidUsername_length working),
          authValidUsername_ne_nil working⟩
      | _ => trivial
    | start line | disconnect | endSession => cases working
    | addSprite _ | barrierWait _ _ | canvasWait _ _ _ | addPlacement _ _ _ | frame _ _
    | finished _ => exact CanvasStep.apply_formed trivial names
  · exact CanvasStep.apply_formed (Pc.canvasStep_formed working formed anonymous) names

/-! ## Sessions and what they hold -/

/-- A place in the handling of a request or in the end of a session. -/
def Pc.Proper : Pc → Prop
  | .start _ | .disconnect | .endSession => True
  | pc => pc.Working

/-- A place in `rpc_client_disconnected`. -/
def Pc.isEnd : Pc → Bool
  | .disconnect | .endSession | .finished _ => true
  | _ => false

/-- A place at work is proper. -/
theorem Pc.proper_of_working (working : pc.Working) : pc.Proper := by
  cases pc <;> trivial

/-- The main loop has ended the client's session. -/
def ServerState.Closed (workerCount : Nat) (state : ServerState) (client : ClientId) : Prop :=
  state.workers.isDisconnected client = true ∨
    ∃ response, state.workers.rpc.threads workerCount = some ⟨client, .finished response⟩

/-- A step of a handler ties what it connects to a session: it logs nobody in for a client whose
session the main loop has ended, nor under another name while the client's user is connected
through the client; and it connects a user only for a client that is logged in and whose session
no thread is about to reset. -/
def ServerState.Tied (auth : AuthDb) (workerCount : Nat) (state : ServerState) (thread : ThreadId)
    (answers : Answers) : Prop :=
  ∀ client pc, state.workers.rpc.threads thread = some ⟨client, pc⟩ →
    (∀ line name, pc = .start line → answers.lineCopied = true → LogsIn auth line name →
      ¬ state.Closed workerCount client ∧
        (name ≠ (state.workers.rpc.sessions client).username →
          (state.workers.rpc.sessions client).username ∉ state.through client)) ∧
    ∀ name, pc.connects answers (state.workers.rpc.sessions client)
        state.workers.rpc.world.store = some name →
      (state.workers.rpc.sessions client).loggedIn = true ∧
        ∀ other, state.workers.rpc.threads other ≠ some ⟨client, .endSession⟩

/-- What holds of the sessions and of the names connected through clients. -/
structure Held (workerCount : Nat) (state : ServerState) : Prop where
  /-- There is a name exactly while a client is logged in. -/
  sessions : ∀ client, (state.workers.rpc.sessions client).Formed
  /-- The names on a canvas are distinct. -/
  names : NamesFormed state.workers.rpc.world.store
  /-- Every thread is at a proper place. -/
  proper : ∀ thread client pc, state.workers.rpc.threads thread = some ⟨client, pc⟩ → pc.Proper
  /-- What is connected through a client is the user it is logged in as. -/
  through : ∀ client name, name ∈ state.through client →
    (state.workers.rpc.sessions client).loggedIn = true ∧
      (state.workers.rpc.sessions client).username = name
  /-- Nobody is connected through a client whose session is about to be reset. -/
  ending : ∀ thread client, state.workers.rpc.threads thread = some ⟨client, .endSession⟩ →
    ∀ name, name ∉ state.through client
  /-- The main loop calls no handler but `rpc_client_disconnected`. -/
  closer : ∀ client pc, state.workers.rpc.threads workerCount = some ⟨client, pc⟩ → pc.isEnd = true
  /-- A session that the main loop has ended does not begin again. -/
  out : ∀ client, state.Closed workerCount client →
    (state.workers.rpc.sessions client).loggedIn = false

variable {workerCount : Nat} {state next : ServerState}

/-- The server that starts. -/
theorem held_initial : Held workerCount {} where
  sessions := fun _ => ⟨by simp, by simp⟩
  names := by simp [NamesFormed]
  proper := by simp
  through := by simp
  ending := by simp
  closer := by simp
  out := fun _ _ => rfl

/-- A step that is no step of a handler keeps it: a thread takes up a request or the end of a
session at most, and the flag is set at most where the session has ended. -/
theorem Held.kept (held : Held workerCount state)
    (sessions : next.workers.rpc.sessions = state.workers.rpc.sessions)
    (store : next.workers.rpc.world.store = state.workers.rpc.world.store)
    (through : next.through = state.through)
    (threads : ∀ thread client pc, next.workers.rpc.threads thread = some ⟨client, pc⟩ →
      state.workers.rpc.threads thread = some ⟨client, pc⟩ ∨
        (∃ line, pc = .start line) ∧ thread < workerCount ∨ pc = .disconnect)
    (flags : ∀ client, next.workers.isDisconnected client = true → state.Closed workerCount client) :
    Held workerCount next where
  sessions := by simpa only [sessions] using held.sessions
  names := by simpa only [store] using held.names
  proper := by
    intro thread client pc working
    rcases threads thread client pc working with old | ⟨⟨line, rfl⟩, -⟩ | rfl
    · exact held.proper thread client pc old
    · trivial
    · trivial
  through := by simpa only [sessions, through] using held.through
  ending := by
    intro thread client working
    rcases threads thread client _ working with old | ⟨⟨line, impossible⟩, -⟩ | impossible
    · simpa only [through] using held.ending thread client old
    · cases impossible
    · cases impossible
  closer := by
    intro client pc working
    rcases threads workerCount client pc working with old | ⟨-, below⟩ | rfl
    · exact held.closer client pc old
    · exact absurd below (Nat.lt_irrefl _)
    · rfl
  out := by
    intro client closed
    rw [sessions]
    refine held.out client ?_
    rcases closed with flagged | ⟨response, working⟩
    · exact flags client flagged
    · rcases threads workerCount client _ working with old | ⟨⟨line, impossible⟩, -⟩ | impossible
      · exact .inr ⟨response, old⟩
      · cases impossible
      · cases impossible

/-! ## A step of a handler -/

variable {thread : ThreadId} {client : ClientId}

/-- A step of a handler leads from one state to another. -/
structure Advanced (auth : AuthDb) (state : ServerState) (thread : ThreadId) (client : ClientId)
    (pc : Pc) (answers : Answers) (next : ServerState) : Prop where
  /-- The thread was there. -/
  working : state.workers.rpc.threads thread = some ⟨client, pc⟩
  /-- It had not finished. -/
  unfinished : pc.isFinished = false
  /-- It took its step. -/
  rpc : next.workers.rpc = state.workers.rpc.advanceThread auth thread client pc answers
  /-- The clients are as they were. -/
  clients : next.workers.clients = state.workers.clients
  /-- The record follows the step. -/
  through : next.through = state.follow (.advance thread answers) next.workers

/-- The session, the world and the place after a step of a handler. -/
def ServerState.advanced (auth : AuthDb) (state : ServerState) (client : ClientId) (pc : Pc)
    (answers : Answers) : Session × World × Pc :=
  advance auth answers (state.workers.rpc.sessions client) state.workers.rpc.world pc

/-- What is connected through a client after a step of a handler. -/
theorem Advanced.mem_through {other : ClientId} {name : Bytes}
    (advanced : Advanced auth state thread client pc answers next) :
    name ∈ next.through other ↔
      ConnectedNamed (state.advanced auth client pc answers).2.1.store name ∧
        (name ∈ state.through other ∨ other = client ∧
          pc.connects answers (state.workers.rpc.sessions client)
            state.workers.rpc.world.store = some name) := by
  simp only [advanced.through, ServerState.follow, advanced.working, advanced.rpc]
  rfl

/-- A step of a handler keeps what holds if the session, the store and the place that it leads to
are in order. -/
theorem Held.advanced (held : Held workerCount state)
    (advanced : Advanced auth state thread client pc answers next)
    (formed : (state.advanced auth client pc answers).1.Formed)
    (names : NamesFormed (state.advanced auth client pc answers).2.1.store)
    (proper : (state.advanced auth client pc answers).2.2.Proper)
    (mine : ∀ name, name ∈ next.through client →
      (state.advanced auth client pc answers).1.loggedIn = true ∧
        (state.advanced auth client pc answers).1.username = name)
    (ending : (state.advanced auth client pc answers).2.2 = .endSession →
      ∀ name, name ∉ next.through client)
    (others : ∀ name, pc.connects answers (state.workers.rpc.sessions client)
        state.workers.rpc.world.store = some name →
      ∀ other, state.workers.rpc.threads other ≠ some ⟨client, .endSession⟩)
    (closer : thread = workerCount → (state.advanced auth client pc answers).2.2.isEnd = true ∧
      ∀ response, (state.advanced auth client pc answers).2.2 = .finished response →
        (state.advanced auth client pc answers).1.loggedIn = false)
    (out : state.Closed workerCount client →
      (state.advanced auth client pc answers).1.loggedIn = false) : Held workerCount next := by
  have sessions : next.workers.rpc.sessions = Function.update state.workers.rpc.sessions client
      (state.advanced auth client pc answers).1 := by rw [advanced.rpc]; rfl
  have store : next.workers.rpc.world.store =
      (state.advanced auth client pc answers).2.1.store := by rw [advanced.rpc]; rfl
  have threads : next.workers.rpc.threads = Function.update state.workers.rpc.threads thread
      (some ⟨client, (state.advanced auth client pc answers).2.2⟩) := by rw [advanced.rpc]; rfl
  have flags : next.workers.isDisconnected = state.workers.isDisconnected := by
    funext other
    simp only [WorkersState.isDisconnected, advanced.clients]
  have foreign : ∀ other name, other ≠ client → name ∈ next.through other →
      name ∈ state.through other := by
    intro other name apart inside
    rcases (advanced.mem_through.mp inside).2 with old | ⟨same, -⟩
    · exact old
    · exact absurd same apart
  constructor
  case sessions =>
    intro other
    rw [sessions]
    by_cases same : other = client
    · subst same
      rwa [Function.update_self]
    · rw [Function.update_of_ne same]
      exact held.sessions other
  case names => rwa [store]
  case proper =>
    intro other served at_pc working
    rw [threads] at working
    by_cases same : other = thread
    · subst same
      rw [Function.update_self] at working
      obtain ⟨-, rfl⟩ := Thread.mk.inj (Option.some.inj working)
      exact proper
    · rw [Function.update_of_ne same] at working
      exact held.proper other served at_pc working
  case through =>
    intro other name inside
    rw [sessions]
    by_cases same : other = client
    · subst same
      rw [Function.update_self]
      exact mine name inside
    · rw [Function.update_of_ne same]
      exact held.through other name (foreign other name same inside)
  case ending =>
    intro other served working name inside
    rw [threads] at working
    by_cases same : other = thread
    · subst same
      rw [Function.update_self] at working
      obtain ⟨rfl, reached⟩ := Thread.mk.inj (Option.some.inj working)
      exact ending reached name inside
    · rw [Function.update_of_ne same] at working
      rcases (advanced.mem_through.mp inside).2 with old | ⟨rfl, connects⟩
      · exact held.ending other served working name old
      · exact others name connects other working
  case closer =>
    intro served at_pc working
    rw [threads] at working
    by_cases same : workerCount = thread
    · rw [same, Function.update_self] at working
      obtain ⟨-, rfl⟩ := Thread.mk.inj (Option.some.inj working)
      exact (closer same.symm).1
    · rw [Function.update_of_ne same] at working
      exact held.closer served at_pc working
  case out =>
    intro other closed
    have before : state.Closed workerCount other ∨
        other = client ∧ (state.advanced auth client pc answers).1.loggedIn = false := by
      rcases closed with flagged | ⟨response, working⟩
      · exact .inl (.inl (flags ▸ flagged))
      · rw [threads] at working
        by_cases same : workerCount = thread
        · rw [same, Function.update_self] at working
          obtain ⟨rfl, reached⟩ := Thread.mk.inj (Option.some.inj working)
          exact .inr ⟨rfl, (closer same.symm).2 response reached⟩
        · rw [Function.update_of_ne same] at working
          exact .inl (.inr ⟨response, working⟩)
    rw [sessions]
    by_cases same : other = client
    · subst same
      rw [Function.update_self]
      rcases before with was | ⟨-, now⟩
      · exact out was
      · exact now
    · rw [Function.update_of_ne same]
      exact held.out other (before.resolve_right fun here => same here.1)

/-- A step that connects nobody and keeps the user keeps what is connected through the client. -/
theorem Held.mine_of_user (held : Held workerCount state)
    (advanced : Advanced auth state thread client pc answers next)
    (silent : pc.connects answers (state.workers.rpc.sessions client)
      state.workers.rpc.world.store = none)
    (named : (state.advanced auth client pc answers).1.username =
      (state.workers.rpc.sessions client).username)
    (logged : (state.advanced auth client pc answers).1.loggedIn =
      (state.workers.rpc.sessions client).loggedIn) {name : Bytes}
    (inside : name ∈ next.through client) :
    (state.advanced auth client pc answers).1.loggedIn = true ∧
      (state.advanced auth client pc answers).1.username = name := by
  rw [named, logged]
  rcases (advanced.mem_through.mp inside).2 with old | ⟨-, connects⟩
  · exact held.through client name old
  · rw [silent] at connects
    cases connects

/-- A step that keeps the store and the user, and does not begin to reset the session. -/
theorem Held.same_user (held : Held workerCount state)
    (advanced : Advanced auth state thread client pc answers next)
    (silent : pc.connects answers (state.workers.rpc.sessions client)
      state.workers.rpc.world.store = none)
    (store : (state.advanced auth client pc answers).2.1.store = state.workers.rpc.world.store)
    (named : (state.advanced auth client pc answers).1.username =
      (state.workers.rpc.sessions client).username)
    (logged : (state.advanced auth client pc answers).1.loggedIn =
      (state.workers.rpc.sessions client).loggedIn)
    (proper : (state.advanced auth client pc answers).2.2.Proper)
    (going : (state.advanced auth client pc answers).2.2 ≠ .endSession)
    (closer : thread = workerCount → (state.advanced auth client pc answers).2.2.isEnd = true ∧
      (state.workers.rpc.sessions client).loggedIn = false) : Held workerCount next := by
  refine held.advanced advanced ((held.sessions client).congr named logged) ?_ proper
    (fun name inside => held.mine_of_user advanced silent named logged inside)
    (fun reached => absurd reached going) ?_ ?_ ?_
  · rw [store]
    exact held.names
  · intro name connects
    rw [silent] at connects
    cases connects
  · exact fun main => ⟨(closer main).1, fun _ _ => logged.trans (closer main).2⟩
  · exact fun closed => logged.trans (held.out client closed)

/-- The first step of a request keeps what holds, if a login is tied. -/
theorem Held.start {line : Bytes} (held : Held workerCount state)
    (advanced : Advanced auth state thread client (.start line) answers next)
    (tied : answers.lineCopied = true → ∀ name, LogsIn auth line name →
      ¬ state.Closed workerCount client ∧
        (name ≠ (state.workers.rpc.sessions client).username →
          (state.workers.rpc.sessions client).username ∉ state.through client)) :
    Held workerCount next := by
  have worker : thread ≠ workerCount := by
    rintro rfl
    cases held.closer client _ advanced.working
  have begun : state.advanced auth client (.start line) answers =
    startRequest auth answers (state.workers.rpc.sessions client) state.workers.rpc.world line := rfl
  cases copied : answers.lineCopied with
  | false =>
    have refused : state.advanced auth client (.start line) answers =
        (state.workers.rpc.sessions client, state.workers.rpc.world,
          answers.reply (responseCode rpcInternal)) := by
      rw [begun, startRequest, copied]
      rfl
    exact held.same_user advanced rfl (by rw [refused]) (by rw [refused]) (by rw [refused])
      (by rw [refused]; trivial) (by rw [refused]; simp [Answers.reply])
      fun main => absurd main worker
  | true =>
    have outcome : StartOutcome auth answers (state.workers.rpc.sessions client)
        state.workers.rpc.world line
        (startRequest auth answers (state.workers.rpc.sessions client) state.workers.rpc.world line) :=
      startRequest_outcome line
    rw [← begun] at outcome
    generalize result : state.advanced auth client (.start line) answers = reached at outcome
    cases outcome with
    | login logs named logged =>
      obtain ⟨opened, same⟩ := tied copied _ logs
      refine held.advanced advanced ?_ ?_ ?_ ?_ ?_ ?_ (fun main => absurd main worker)
        fun closed => absurd closed opened
      · rw [result]
        exact logs.formed named logged
      · rw [result]
        exact held.names
      · rw [result]
        trivial
      · intro name inside
        rw [result]
        rcases (advanced.mem_through.mp inside).2 with old | ⟨-, impossible⟩
        · obtain ⟨-, here⟩ := held.through client name old
          refine ⟨logged, named.trans ?_⟩
          by_contra other
          exact same (fun equal => other (equal.trans here)) (here ▸ old)
        · cases impossible
      · rw [result]
        simp
      · intro name impossible
        cases impossible
    | answered named logged =>
      exact held.same_user advanced rfl (by rw [result]) (by rw [result, named])
        (by rw [result, logged]) (by rw [result]; trivial) (by rw [result]; simp)
        fun main => absurd main worker
    | disconnect request =>
      exact held.same_user advanced rfl (by rw [result]) (by rw [result]) (by rw [result])
        (by rw [result]; trivial) (by rw [result]; simp) fun main => absurd main worker
    | working logged other store working =>
      refine held.same_user advanced rfl (by rw [result, store]) (by rw [result]) (by rw [result])
        (by rw [result]; exact Pc.proper_of_working working) ?_ fun main => absurd main worker
      rw [result]
      rintro rfl
      cases working

/-- `handles_disconnect_user` keeps what holds: nobody is connected through the client any more. -/
theorem Held.disconnect (held : Held workerCount state)
    (advanced : Advanced auth state thread client .disconnect answers next) :
    Held workerCount next := by
  have silent : Pc.disconnect.connects answers (state.workers.rpc.sessions client)
      state.workers.rpc.world.store = none := Pc.connects_disconnect _
  cases logged : (state.workers.rpc.sessions client).loggedIn with
  | false =>
    have result : state.advanced auth client .disconnect answers =
        (state.workers.rpc.sessions client, state.workers.rpc.world,
          answers.reply (responseCode 0)) := by
      simp only [ServerState.advanced, advance, logged, Bool.false_eq_true, ↓reduceIte]
    exact held.same_user advanced silent (by rw [result]) (by rw [result]) (by rw [result])
      (by rw [result]; trivial) (by rw [result]; simp [Answers.reply])
      fun _ => ⟨by rw [result]; rfl, logged⟩
  | true =>
    have formed := held.sessions client
    have user := formed.named.mp logged
    have result : (state.advanced auth client .disconnect answers).1 =
          state.workers.rpc.sessions client ∧
        (state.advanced auth client .disconnect answers).2.1.store =
          (handlesDisconnectUser state.workers.rpc.world.store
            (state.workers.rpc.sessions client).username).1 ∧
        (state.advanced auth client .disconnect answers).2.2 = .endSession := by
      simp only [ServerState.advanced, advance, logged, ↓reduceIte, World.apply, and_self]
    obtain ⟨session, store, reached⟩ := result
    have nobody : ∀ name, name ∉ next.through client := by
      intro name inside
      obtain ⟨connected, old | ⟨-, impossible⟩⟩ := advanced.mem_through.mp inside
      · rw [store, ← (held.through client name old).2] at connected
        exact disconnect_not_connected held.names user connected
      · rw [silent] at impossible
        cases impossible
    refine held.advanced advanced ?_ ?_ ?_ (fun name inside => absurd inside (nobody name))
      (fun _ => nobody) ?_ ?_ ?_
    · rw [session]
      exact formed
    · rw [store]
      exact held.names.disconnect _
    · rw [reached]
      trivial
    · intro name impossible
      rw [silent] at impossible
      cases impossible
    · intro _
      rw [reached]
      exact ⟨rfl, by simp⟩
    · rw [session]
      exact held.out client

/-- The reset of the session keeps what holds. -/
theorem Held.endSession (held : Held workerCount state)
    (advanced : Advanced auth state thread client .endSession answers next) :
    Held workerCount next := by
  refine held.advanced advanced (.out rfl rfl) held.names trivial ?_ ?_ ?_
    (fun _ => ⟨rfl, fun _ _ => rfl⟩) fun _ => rfl
  · intro name inside
    rcases (advanced.mem_through.mp inside).2 with old | ⟨-, impossible⟩
    · exact absurd old (held.ending thread client advanced.working name)
    · cases impossible
  · intro impossible
    cases impossible
  · intro name impossible
    cases impossible

/-- A step at work keeps what holds, if what it connects is tied. -/
theorem Held.working (held : Held workerCount state)
    (advanced : Advanced auth state thread client pc answers next) (working : pc.Working)
    (tied : ∀ name, pc.connects answers (state.workers.rpc.sessions client)
        state.workers.rpc.world.store = some name →
      (state.workers.rpc.sessions client).loggedIn = true ∧
        ∀ other, state.workers.rpc.threads other ≠ some ⟨client, .endSession⟩) :
    Held workerCount next := by
  have worker : thread ≠ workerCount := by
    rintro rfl
    have closing := held.closer client pc advanced.working
    have unfinished := advanced.unfinished
    cases pc <;> first | cases closing; done | cases working; done | cases unfinished
  have formed := held.sessions client
  obtain ⟨session, reached⟩ : (state.advanced auth client pc answers).1 =
      state.workers.rpc.sessions client ∧ (state.advanced auth client pc answers).2.2.Working :=
    advance_working working
  refine held.advanced advanced ?_ ?_ (Pc.proper_of_working reached) ?_ ?_
    (fun name connects => (tied name connects).2) (fun main => absurd main worker) ?_
  · rw [session]
    exact formed
  · rw [ServerState.advanced, advance_store]
    exact Pc.canvasStep_names working formed held.names fun name connects =>
      formed.named.mp (tied name connects).1
  · intro name inside
    rw [session]
    rcases (advanced.mem_through.mp inside).2 with old | ⟨-, connects⟩
    · exact held.through client name old
    · exact ⟨(tied name connects).1, (Pc.connects_user formed connects).symm⟩
  · intro impossible
    rw [impossible] at reached
    cases reached
  · rw [session]
    exact held.out client

/-- A step of a handler that is tied keeps what holds. -/
theorem Held.handler (held : Held workerCount state)
    (advanced : Advanced auth state thread client pc answers next)
    (tied : state.Tied auth workerCount thread answers) : Held workerCount next := by
  obtain ⟨login, connects⟩ := tied client pc advanced.working
  have proper := held.proper thread client pc advanced.working
  cases pc with
  | start line => exact held.start advanced fun copied name logs => login line name rfl copied logs
  | disconnect => exact held.disconnect advanced
  | endSession => exact held.endSession advanced
  | _ => exact held.working advanced proper connects

/-- A step of the end of a session is tied. -/
theorem tied_of_isEnd (working : state.workers.rpc.threads thread = some ⟨client, pc⟩)
    (ending : pc.isEnd = true) : state.Tied auth workerCount thread answers := by
  intro served at_pc here
  obtain ⟨rfl, rfl⟩ := Thread.mk.inj (Option.some.inj (working.symm.trans here))
  have silent : pc.connects answers (state.workers.rpc.sessions client)
      state.workers.rpc.world.store = none := by
    cases pc with
    | disconnect => exact Pc.connects_disconnect _
    | endSession | finished response => rfl
    | _ => cases ending
  refine ⟨?_, fun name impossible => ?_⟩
  · rintro line name rfl
    cases ending
  · rw [silent] at impossible
    cases impossible

/-- A step of the main loop in `rpc_client_disconnected` keeps what holds. -/
theorem Held.closing (held : Held workerCount state)
    (advanced : Advanced auth state workerCount client pc answers next) : Held workerCount next :=
  held.handler advanced
    (tied_of_isEnd advanced.working (held.closer client pc advanced.working))

/-! ## Every step of the server -/

variable {deadly : Bool}

/-- A step of the workers' part that is no step of a handler keeps what holds, unless a write
fails. -/
theorem Held.workers {label : WorkersLabel} {workers : WorkersState} (held : Held workerCount state)
    (step : WorkersStep auth deadly workerCount state.workers label workers)
    (outside : ∀ thread answers, label ≠ .advance thread answers)
    (written : ∀ result ∈ label.results, result.fails deadly = false)
    (same : next.workers = workers) (through : next.through = state.through) :
    Held workerCount next := by
  obtain ⟨sessions, world, threads⟩ := step.rpc_kept outside
  refine held.kept (by rw [same, sessions]) (by rw [same, world]) through (by rwa [same]) ?_
  intro client flag
  rw [same] at flag
  rcases step.flagged flag with old | ⟨-, closed⟩ | ⟨-, result, inside, fails⟩
  · exact .inl old
  · exact .inr closed
  · rw [written result inside] at fails
    cases fails

/-- A step that leaves the workers' part alone keeps what holds. -/
theorem Held.main (held : Held workerCount state) (workers : next.workers = state.workers)
    (through : next.through = state.through) : Held workerCount next :=
  held.kept (by rw [workers]) (by rw [workers]) through (by rw [workers]; exact fun _ _ _ => .inl)
    (by rw [workers]; exact fun _ => .inl)

/-- A step of a handler in the workers' part. -/
theorem WorkersStep.advanced {workers : WorkersState}
    (step : WorkersStep auth deadly workerCount state.workers (.advance thread answers) workers) :
    ∃ client pc, ∀ next : ServerState, next.workers = workers →
      next.through = state.follow (.advance thread answers) workers →
      Advanced auth state thread client pc answers next := by
  cases step with
  | advance stepped =>
    obtain ⟨client, pc, working, unfinished, rfl⟩ := rpcMachine_step stepped
    refine ⟨client, pc, fun next same through => ?_⟩
    exact ⟨working, unfinished, by rw [same], by rw [same], by rw [through, same]⟩

/-- Every step of the server whose handler's step is tied and whose writes do not fail keeps what
holds. -/
theorem ServerStep.held {label : ServerLabel}
    (step : ServerStep auth deadly workerCount state label next)
    (tied : ∀ thread answers, label = .worker (.advance thread answers) →
      state.Tied auth workerCount thread answers)
    (written : ∀ worker copied results, label = .worker (.respond worker copied results) →
      ∀ result ∈ results, result.fails deadly = false)
    (held : Held workerCount state) : Held workerCount next := by
  cases step with
  | worker alive mine allowed step =>
    rename_i label workers
    cases label with
    | advance thread answers =>
      obtain ⟨client, pc, advanced⟩ := step.advanced
      exact held.handler (advanced _ rfl rfl) (tied thread answers rfl)
    | respond worker copied results =>
      exact held.workers step (by simp) (written worker copied results rfl) rfl rfl
    | dequeue worker => exact held.workers step (by simp) (by simp [WorkersLabel.results]) rfl rfl
    | _ => cases mine
  | leave => exact held.main rfl rfl
  | move before after => exact held.main rfl rfl
  | beginCleanup before => exact held.main rfl rfl
  | accept before apart step =>
    exact held.workers step (by simp) (by simp [WorkersLabel.results]) rfl rfl
  | received before after => exact held.main rfl rfl
  | submit before after step =>
    exact held.workers step (by simp) (by simp [WorkersLabel.results]) rfl rfl
  | beginClose before step =>
    exact held.workers step (by simp) (by simp [WorkersLabel.results]) rfl rfl
  | endSession place step =>
    obtain ⟨client, pc, advanced⟩ := step.advanced
    exact held.closing (advanced _ rfl rfl)
  | markClosed place step =>
    exact held.workers step (by simp) (by simp [WorkersLabel.results]) rfl rfl
  | remove place step =>
    exact held.workers step (by simp) (by simp [WorkersLabel.results]) rfl rfl
  | closeRead place =>
    exact held.main (closeDescriptor_workers _ _) (closeDescriptor_through _ _)
  | closeWrite place step =>
    exact held.workers step (by simp) (by simp [WorkersLabel.results]) rfl
      (closeDescriptor_through _ _)

/-! ## Every connected member has a holder -/

/-- Whoever waits on a canvas is connected to it, and whoever is connected is so through some
client. -/
structure MembersHeld (state : ServerState) : Prop where
  /-- Only connected members wait. -/
  waiting : ∀ canvas ∈ state.workers.rpc.world.store.canvases, canvas.barrier.WellFormed
  /-- Every connected name has a holder. -/
  held : ∀ name, ConnectedNamed state.workers.rpc.world.store name →
    ∃ client, name ∈ state.through client

/-- A member that is connected or waits has a holder. -/
theorem MembersHeld.member {canvas : CanvasRecord} {member : SharedUser}
    (members : MembersHeld state) (inside : canvas ∈ state.workers.rpc.world.store.canvases)
    (there : member ∈ canvas.users)
    (attached : member.connected = true ∨ member.barrierWaiting = true) :
    ∃ client, member.username ∈ state.through client := by
  refine members.held member.username ⟨canvas, inside, ?_⟩
  obtain ⟨user, present⟩ := List.mem_iff_getElem?.mp there
  have connected : user ∈ canvas.barrier.connected := by
    rcases attached with connected | waits
    · exact ⟨member, present, connected⟩
    · exact members.waiting canvas inside ⟨member, present, waits⟩
  exact mem_connectedNames.mpr ⟨user, connected, by simp [CanvasRecord.names, present]⟩

/-- A step of a handler connects nobody but through its client. -/
theorem MembersHeld.advanced (members : MembersHeld state)
    (advanced : Advanced auth state thread client pc answers next) : MembersHeld next := by
  have store : next.workers.rpc.world.store =
      (state.advanced auth client pc answers).2.1.store := by rw [advanced.rpc]; rfl
  constructor
  case waiting =>
    rw [store, ServerState.advanced, advance_store]
    exact CanvasStep.apply_wellFormed _ members.waiting
  case held =>
    intro name connected
    rw [store] at connected
    rcases advance_connects connected with old | connects
    · obtain ⟨other, inside⟩ := members.held name old
      exact ⟨other, advanced.mem_through.mpr ⟨connected, .inl inside⟩⟩
    · exact ⟨client, advanced.mem_through.mpr ⟨connected, .inr ⟨rfl, connects⟩⟩⟩

/-- What leaves the store and the record alone connects nobody. -/
theorem MembersHeld.kept (members : MembersHeld state)
    (world : next.workers.rpc.world = state.workers.rpc.world)
    (through : next.through = state.through) : MembersHeld next where
  waiting := by simpa only [world] using members.waiting
  held := by simpa only [world, through] using members.held

/-- Other steps of the workers' part connect nobody. -/
theorem MembersHeld.workers {label : WorkersLabel} {workers : WorkersState}
    (members : MembersHeld state)
    (step : WorkersStep auth deadly workerCount state.workers label workers)
    (outside : ∀ thread answers, label ≠ .advance thread answers) (same : next.workers = workers)
    (through : next.through = state.through) : MembersHeld next :=
  members.kept (by rw [same, (step.rpc_kept outside).2.1]) through

/-- After every step of the server, each member that is connected or waits has a holder. -/
theorem ServerStep.membersHeld {label : ServerLabel}
    (step : ServerStep auth deadly workerCount state label next) (members : MembersHeld state) :
    MembersHeld next := by
  cases step with
  | worker alive mine allowed step =>
    rename_i label workers
    cases label with
    | advance thread answers =>
      obtain ⟨client, pc, advanced⟩ := step.advanced
      exact members.advanced (advanced _ rfl rfl)
    | respond worker copied results => exact members.workers step (by simp) rfl rfl
    | dequeue worker => exact members.workers step (by simp) rfl rfl
    | _ => cases mine
  | endSession place step =>
    obtain ⟨client, pc, advanced⟩ := step.advanced
    exact members.advanced (advanced _ rfl rfl)
  | leave => exact members.kept rfl rfl
  | move before after => exact members.kept rfl rfl
  | beginCleanup before => exact members.kept rfl rfl
  | received before after => exact members.kept rfl rfl
  | accept before apart step => exact members.workers step (by simp) rfl rfl
  | submit before after step => exact members.workers step (by simp) rfl rfl
  | beginClose before step => exact members.workers step (by simp) rfl rfl
  | markClosed place step => exact members.workers step (by simp) rfl rfl
  | remove place step => exact members.workers step (by simp) rfl rfl
  | closeRead place =>
    exact members.kept (congrArg (fun workers => workers.rpc.world) (closeDescriptor_workers _ _))
      (closeDescriptor_through _ _)
  | closeWrite place step =>
    exact members.workers step (by simp) rfl (closeDescriptor_through _ _)

/-- The server that starts. -/
theorem membersHeld_initial : MembersHeld {} where
  waiting := by simp
  held := by
    rintro name ⟨canvas, inside, -⟩
    cases inside

end AnimateService
