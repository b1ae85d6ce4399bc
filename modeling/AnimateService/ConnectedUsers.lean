import AnimateService.Sessions

/-!
# Connected users and live clients

Which steps leave a connected member without a client that is logged in under its name: a second
login under another name, a write that fails while the session lasts, and commands that are still
handled for a client that is disconnected.
-/
namespace AnimateService

open Transition

variable {auth : AuthDb} {session : Session} {pc : Pc}

/-! ## Connected users and live clients -/

/-- A client is logged in under a name and neither closed nor given up. -/
def LiveAs (state : SessionsState) (client : ClientId) (name : Bytes) : Prop :=
  ∃ record, state.clients client = some record ∧ record.session.loggedIn = true ∧
    record.session.username = name ∧ record.disconnected = false

/-- Every connected member has a live client of its name. -/
def ConnectedUsersLive (state : SessionsState) : Prop :=
  ∀ name, ConnectedNamed state.world.store name → ∃ client, LiveAs state client name

/-- Another client is live under that name. -/
def LiveElsewhere (state : SessionsState) (client : ClientId) (name : Bytes) : Prop :=
  ∃ other, other ≠ client ∧ LiveAs state other name

/-- The client is not the one that the connected members of that name depend on. -/
def Spared (state : SessionsState) (client : ClientId) (name : Bytes) : Prop :=
  ¬ ConnectedNamed state.world.store name ∨ LiveElsewhere state client name

/-- A connected user keeps a session: a client that logs in again under another name, or that a
write to fails, is not the last one live under a connected name; a command of a disconnected
client that is still logged in is handled only while another client is live under its name; and no
client that is not logged in is let through to a command. -/
def SessionsKept (auth : AuthDb) (state : SessionsState) : SessionsLabel → Prop
  | .accept _ => True
  | .request client line answers => ∀ record, state.clients client = some record →
      (∀ first ∈ answers.head?, ¬ LetThrough auth first record.session line) ∧
      (record.session.loggedIn = true →
        (record.disconnected = false → ∀ name, LogsIn auth line name →
          name ≠ record.session.username → Spared state client record.session.username) ∧
        (record.disconnected = true → ¬ SessionRequest line →
          LiveElsewhere state client record.session.username))
  | .resume index _ => ∀ client pc record, state.waiting[index]? = some (client, pc) →
      state.clients client = some record → record.session.loggedIn = true →
      record.disconnected = true → LiveElsewhere state client record.session.username
  | .writeFails client => ∀ record, state.clients client = some record →
      record.session.loggedIn = true → Spared state client record.session.username
  | .close _ _ => True

/-- What holds of the clients and the store while nobody is let through without a login. -/
structure SessionsFormed (state : SessionsState) : Prop where
  /-- Every session has a name exactly while it lasts. -/
  sessions : ∀ client record, state.clients client = some record → record.session.Formed
  /-- The names on a canvas are distinct. -/
  names : NamesFormed state.world.store
  /-- Requests wait behind their lock. -/
  waiting : ∀ entry ∈ state.waiting, entry.2.pastLock = true

variable {state : SessionsState} {client : ClientId} {record : ClientSession}

/-- Nobody is connected under the empty name. -/
theorem ConnectedNamed.ne_nil {store : HandleStore} {name : Bytes} (names : NamesFormed store)
    (connected : ConnectedNamed store name) : name ≠ [] := by
  rintro rfl
  obtain ⟨canvas, inside, member, there, -, named⟩ := connected
  exact (names canvas inside).2 (List.mem_map.mpr ⟨member, there, named⟩)

/-- The state after one client changed. -/
def SessionsState.withClient (state : SessionsState) (client : ClientId) (changed : ClientSession)
    (world : World) (waiting : List (ClientId × Pc)) : SessionsState :=
  { clients := Function.update state.clients client (some changed), world, waiting }

/-- A client stays live when another one changes. -/
theorem LiveAs.withClient {name : Bytes} {other : ClientId} {world : World}
    {waiting : List (ClientId × Pc)} {changed : ClientSession} (apart : other ≠ client)
    (live : LiveAs state other name) :
    LiveAs (state.withClient client changed world waiting) other name := by
  obtain ⟨found, there, rest⟩ := live
  refine ⟨found, ?_, rest⟩
  simp only [SessionsState.withClient, Function.update_of_ne apart, there]

/-- The changed client is live as its new session says. -/
theorem liveAs_withClient {world : World} {waiting : List (ClientId × Pc)}
    {changed : ClientSession} (logged : changed.session.loggedIn = true)
    (open_ : changed.disconnected = false) :
    LiveAs (state.withClient client changed world waiting) client changed.session.username :=
  ⟨changed, by simp [SessionsState.withClient], logged, rfl, open_⟩

/-- A connected name has this client or another one. -/
theorem ConnectedUsersLive.split (live : ConnectedUsersLive state) (client : ClientId)
    {name : Bytes} (connected : ConnectedNamed state.world.store name) :
    LiveAs state client name ∨ LiveElsewhere state client name := by
  obtain ⟨other, found⟩ := live name connected
  by_cases same : other = client
  · exact .inl (same ▸ found)
  · exact .inr ⟨other, same, found⟩

/-- After one client changed, the connected users are live if nobody was connected but that
client's user, who has a live client if connected. -/
theorem connectedUsersLive_withClient {world : World} {waiting : List (ClientId × Pc)}
    {changed : ClientSession} (there : state.clients client = some record)
    (before : ConnectedUsersLive state)
    (connected : ∀ name, ConnectedNamed world.store name → ConnectedNamed state.world.store name ∨
      name = record.session.username)
    (mine : ConnectedNamed world.store record.session.username →
      LiveAs (state.withClient client changed world waiting) client record.session.username ∨
        LiveElsewhere state client record.session.username) :
    ConnectedUsersLive (state.withClient client changed world waiting) := by
  intro name here
  by_cases own : name = record.session.username
  · subst own
    rcases mine here with live | ⟨other, apart, live⟩
    · exact ⟨client, live⟩
    · exact ⟨other, live.withClient apart⟩
  · have old := (connected name here).resolve_right own
    rcases before.split client old with ⟨found, again, -, named, -⟩ | ⟨other, apart, live⟩
    · obtain rfl := Option.some.inj (there.symm.trans again)
      exact absurd named.symm own
    · exact ⟨other, live.withClient apart⟩

/-- A state after one client changed is formed if its parts are. -/
theorem SessionsFormed.withClient {world : World} {waiting : List (ClientId × Pc)}
    {changed : ClientSession} (formed : SessionsFormed state) (session : changed.session.Formed)
    (names : NamesFormed world.store) (behind : ∀ entry ∈ waiting, entry.2.pastLock = true) :
    SessionsFormed (state.withClient client changed world waiting) where
  sessions := by
    intro other found there
    simp only [SessionsState.withClient] at there
    by_cases same : other = client
    · subst same
      rw [Function.update_self] at there
      exact Option.some.inj there ▸ session
    · rw [Function.update_of_ne same] at there
      exact formed.sessions other found there
  names := names
  waiting := behind

/-- A name that logs in makes a formed session. -/
theorem LogsIn.formed {line name : Bytes} {after : Session} (logs : LogsIn auth line name)
    (named : after.username = name) (logged : after.loggedIn = true) : after.Formed where
  short := named ▸ authValidUsername_length logs.2.1
  named := by
    rw [logged, named]
    exact iff_of_true rfl (authValidUsername_ne_nil logs.2.1)

/-- A session with the user of a formed one is formed. -/
theorem Session.Formed.congr {after : Session} (formed : session.Formed)
    (named : after.username = session.username) (logged : after.loggedIn = session.loggedIn) :
    after.Formed where
  short := named ▸ formed.short
  named := by
    rw [logged, named]
    exact formed.named

/-- A session that ended is formed. -/
theorem Session.Formed.out {after : Session} (named : after.username = [])
    (out : after.loggedIn = false) : after.Formed where
  short := by simp [named]
  named := by simp [named, out]

/-- Disconnecting a user keeps the names distinct. -/
theorem NamesFormed.disconnect {store : HandleStore} (names : NamesFormed store) (name : Bytes) :
    NamesFormed (handlesDisconnectUser store name).1 := by
  have applied : NamesFormed ((CanvasStep.disconnect name).apply store) :=
    CanvasStep.apply_formed trivial names
  exact applied

/-- After a user's session ended, the connected users are those that were and are not that user. -/
theorem connected_disconnect {store : HandleStore} {name other : Bytes} (names : NamesFormed store)
    (named : name ≠ []) (connected : ConnectedNamed (handlesDisconnectUser store name).1 other) :
    ConnectedNamed store other ∧ other ≠ name := by
  have apart : other ≠ name := by
    rintro rfl
    exact disconnect_not_connected names named connected
  have applied : ConnectedNamed ((CanvasStep.disconnect name).apply store) other := connected
  rcases CanvasStep.apply_connected applied with old | same
  · exact ⟨old, apart⟩
  · exact absurd (Option.some.inj same).symm apart

/-- A result that could be settled was finished or is blocked. -/
theorem settle_some {waiting : List (ClientId × Pc)} {result : Session × World × Pc}
    {next : SessionsState} (settled : state.settle client record waiting result = some next) :
    (result.2.2.isFinished = true ∧
      next = state.withClient client { record with session := result.1 } result.2.1 waiting) ∨
    (result.2.2.isBlocked result.2.1.store = true ∧
      next = state.withClient client { record with session := result.1 } result.2.1
        (waiting ++ [(client, result.2.2)])) := by
  simp only [SessionsState.settle] at settled
  split at settled
  · rename_i done
    exact .inl ⟨done, (Option.some.inj settled).symm⟩
  · split at settled
    · rename_i blocked
      exact .inr ⟨blocked, (Option.some.inj settled).symm⟩
    · cases settled

/-- A request that is blocked is past every lock. -/
theorem Pc.pastLock_of_isBlocked {store : HandleStore} (blocked : pc.isBlocked store = true) :
    pc.pastLock = true := by
  cases pc <;> first | rfl | cases blocked

/-! ## Each step -/

/-- The user of a request that is served to its end or to a wait stays live. -/
theorem request_live {line : Bytes} {waiting : List (ClientId × Pc)}
    {result : Session × World × Pc} (formed : SessionsFormed state)
    (there : state.clients client = some record) (before : ConnectedUsersLive state)
    (kept : record.session.loggedIn = true →
      (record.disconnected = false → ∀ name, LogsIn auth line name →
        name ≠ record.session.username → Spared state client record.session.username) ∧
      (record.disconnected = true → ¬ SessionRequest line →
        LiveElsewhere state client record.session.username))
    (outcome : RequestOutcome auth record.session state.world line result) :
    ConnectedUsersLive
      (state.withClient client { record with session := result.1 } result.2.1 waiting) := by
  have session := formed.sessions client record there
  cases outcome with
  | login logs named logged done =>
    refine connectedUsersLive_withClient there before (fun _ => .inl) fun connected => ?_
    rcases before.split client connected with ⟨found, again, was, -, open_⟩ | elsewhere
    · obtain rfl := Option.some.inj (there.symm.trans again)
      rename_i name after pc
      by_cases same : name = record.session.username
      · rw [← same, ← named]
        exact .inl (liveAs_withClient logged open_)
      · exact ((kept was).1 open_ name logs same).resolve_left (not_not_intro connected) |> .inr
    · exact .inr elsewhere
  | answered named logged done =>
    refine connectedUsersLive_withClient there before (fun _ => .inl) fun connected => ?_
    rcases before.split client connected with ⟨found, again, was, -, open_⟩ | elsewhere
    · obtain rfl := Option.some.inj (there.symm.trans again)
      rw [← named]
      exact .inl (liveAs_withClient (logged.trans was) open_)
    · exact .inr elsewhere
  | ended logged named out store done =>
    have user := session.named.mp logged
    refine connectedUsersLive_withClient there before ?_ ?_
    · intro name connected
      rw [store] at connected
      exact .inl (connected_disconnect formed.names user connected).1
    · intro connected
      rw [store] at connected
      exact absurd rfl (connected_disconnect formed.names user connected).2
  | served logged other served =>
    refine connectedUsersLive_withClient there before served.connected fun _ => ?_
    by_cases gone : record.disconnected = true
    · exact .inr ((kept logged).2 gone other)
    · have named := congrArg Session.username served.session_eq
      rw [← named]
      exact .inl (liveAs_withClient (served.session_eq ▸ logged) (by simpa using gone))

/-- A request that is served to its end or to a wait keeps clients and store formed. -/
theorem request_formed {line : Bytes} {waiting : List (ClientId × Pc)}
    {result : Session × World × Pc} (formed : SessionsFormed state)
    (there : state.clients client = some record)
    (behind : ∀ entry ∈ waiting, entry.2.pastLock = true)
    (outcome : RequestOutcome auth record.session state.world line result) :
    SessionsFormed
      (state.withClient client { record with session := result.1 } result.2.1 waiting) := by
  have session := formed.sessions client record there
  cases outcome with
  | login logs named logged done => exact formed.withClient (logs.formed named logged) formed.names behind
  | answered named logged done => exact formed.withClient (session.congr named logged) formed.names behind
  | ended logged named out store done =>
    exact formed.withClient (.out named out) (store ▸ formed.names.disconnect _) behind
  | served logged other served =>
    exact formed.withClient (served.session_eq ▸ session) served.formed behind

/-- The rest of a request that waited. -/
theorem resume_served (formed : SessionsFormed state) (there : state.clients client = some record)
    {index : Nat} (waits : state.waiting[index]? = some (client, pc)) (rest : List Answers) :
    Served record.session state.world.store (serve auth record.session state.world pc rest) := by
  have past := formed.waiting _ (List.mem_of_getElem? waits)
  have session := formed.sessions client record there
  have closed : ∀ answers world pc, Pc.pastLock pc = true →
      (advance auth answers record.session world pc).1 = record.session ∧
        (advance auth answers record.session world pc).2.2.pastLock = true :=
    fun _ _ _ => advance_pastLock
  exact (serve_keeps session.short closed (fun _ _ _ _ => Pc.canvasStep_formed_pastLock) rest past
    formed.names).1

/-- The user of a request that is let through stays live. -/
theorem resume_live {waiting : List (ClientId × Pc)} {result : Session × World × Pc}
    (formed : SessionsFormed state) (there : state.clients client = some record)
    (before : ConnectedUsersLive state)
    (kept : record.session.loggedIn = true → record.disconnected = true →
      LiveElsewhere state client record.session.username)
    (served : Served record.session state.world.store result) :
    ConnectedUsersLive
      (state.withClient client { record with session := result.1 } result.2.1 waiting) := by
  refine connectedUsersLive_withClient there before served.connected fun connected => ?_
  have named := congrArg Session.username served.session_eq
  have logged : record.session.loggedIn = true :=
    (formed.sessions client record there).named.mpr (connected.ne_nil served.formed)
  by_cases gone : record.disconnected = true
  · exact .inr (kept logged gone)
  · rw [← named]
    exact .inl (liveAs_withClient (served.session_eq ▸ logged) (by simpa using gone))

/-- A step keeps clients and store formed. -/
theorem SessionsFormed.kept {label : SessionsLabel} {next : SessionsState}
    (formed : SessionsFormed state) (guarded : SessionsKept auth state label)
    (step : (sessionsMachine auth).step state label = some next) :
    SessionsFormed next := by
  cases label with
  | accept client =>
    simp only [sessionsMachine] at step
    split at step
    · obtain rfl := Option.some.inj step
      exact formed.withClient (.out rfl rfl) formed.names formed.waiting
    · cases step
  | request client line answers =>
    simp only [sessionsMachine] at step
    split at step
    · rename_i record there
      have session := formed.sessions client record there
      have refused := (guarded record there).1
      rcases settle_some step with ⟨done, rfl⟩ | ⟨blocked, rfl⟩
      · exact request_formed formed there formed.waiting
          (serve_request session formed.names refused rfl (.inl done))
      · refine request_formed formed there ?_
          (serve_request session formed.names refused rfl (.inr blocked))
        intro entry member
        rcases List.mem_append.mp member with old | new
        · exact formed.waiting entry old
        · rw [List.mem_singleton.mp new]
          exact Pc.pastLock_of_isBlocked blocked
    · cases step
  | resume index answers =>
    simp only [sessionsMachine] at step
    split at step
    · rename_i client pc waits
      split at step
      · rename_i record there
        have served : Served record.session state.world.store
            (serve auth record.session state.world pc answers) :=
          resume_served formed there waits answers
        have session := served.session_eq ▸ formed.sessions client record there
        have rest : ∀ entry ∈ state.waiting.eraseIdx index, entry.2.pastLock = true :=
          fun entry member => formed.waiting entry (List.mem_of_mem_eraseIdx member)
        rcases settle_some step with ⟨done, rfl⟩ | ⟨blocked, rfl⟩
        · exact formed.withClient session served.formed rest
        · refine formed.withClient session served.formed ?_
          intro entry member
          rcases List.mem_append.mp member with old | new
          · exact rest entry old
          · rw [List.mem_singleton.mp new]
            exact Pc.pastLock_of_isBlocked blocked
      · cases step
    · cases step
  | writeFails client =>
    simp only [sessionsMachine] at step
    split at step
    · rename_i record there
      split at step
      · cases step
      · obtain rfl := Option.some.inj step
        exact formed.withClient (formed.sessions client record there) formed.names formed.waiting
    · cases step
  | close client now =>
    simp only [sessionsMachine] at step
    split at step
    · rename_i record there
      split at step
      · obtain rfl := Option.some.inj step
        exact formed
      · obtain rfl := Option.some.inj step
        unfold rpcClientDisconnected
        split
        · exact formed.withClient (.out rfl rfl) (formed.names.disconnect _) formed.waiting
        · exact formed.withClient (formed.sessions client record there) formed.names formed.waiting
    · cases step

/-- A step that keeps the sessions of connected users keeps connected users live. -/
theorem connectedUsersLive_step {label : SessionsLabel} {next : SessionsState}
    (formed : SessionsFormed state) (before : ConnectedUsersLive state)
    (kept : SessionsKept auth state label)
    (step : (sessionsMachine auth).step state label = some next) : ConnectedUsersLive next := by
  cases label with
  | accept client =>
    simp only [sessionsMachine] at step
    split at step
    · rename_i absent
      obtain rfl := Option.some.inj step
      intro name connected
      obtain ⟨other, live⟩ := before name connected
      by_cases same : other = client
      · obtain ⟨found, there, -⟩ := live
        rw [same, absent] at there
        cases there
      · exact ⟨other, live.withClient same⟩
    · cases step
  | request client line answers =>
    simp only [sessionsMachine] at step
    split at step
    · rename_i record there
      have session := formed.sessions client record there
      obtain ⟨refused, live⟩ := kept record there
      rcases settle_some step with ⟨done, rfl⟩ | ⟨blocked, rfl⟩
      · exact request_live formed there before live
          (serve_request session formed.names refused rfl (.inl done))
      · exact request_live formed there before live
          (serve_request session formed.names refused rfl (.inr blocked))
    · cases step
  | resume index answers =>
    simp only [sessionsMachine] at step
    split at step
    · rename_i client pc waits
      split at step
      · rename_i record there
        have served : Served record.session state.world.store
            (serve auth record.session state.world pc answers) :=
          resume_served formed there waits answers
        rcases settle_some step with ⟨-, rfl⟩ | ⟨-, rfl⟩
        · exact resume_live formed there before (kept client pc record waits there) served
        · exact resume_live formed there before (kept client pc record waits there) served
      · cases step
    · cases step
  | writeFails client =>
    simp only [sessionsMachine] at step
    split at step
    · rename_i record there
      split at step
      · cases step
      · obtain rfl := Option.some.inj step
        refine connectedUsersLive_withClient there before (fun _ => .inl) fun connected => ?_
        rcases before.split client connected with ⟨found, again, was, -⟩ | elsewhere
        · obtain rfl := Option.some.inj (there.symm.trans again)
          exact .inr ((kept record there was).resolve_left (not_not_intro connected))
        · exact .inr elsewhere
    · cases step
  | close client now =>
    simp only [sessionsMachine] at step
    split at step
    · rename_i record there
      split at step
      · obtain rfl := Option.some.inj step
        exact before
      · obtain rfl := Option.some.inj step
        have session := formed.sessions client record there
        unfold rpcClientDisconnected
        split
        · rename_i logged
          have user := session.named.mp logged
          refine connectedUsersLive_withClient there before ?_ ?_
          · exact fun name connected => .inl (connected_disconnect formed.names user connected).1
          · exact fun connected => absurd rfl (connected_disconnect formed.names user connected).2
        · rename_i out
          refine connectedUsersLive_withClient there before (fun _ => .inl) fun connected => ?_
          exact absurd (session.named.mpr (connected.ne_nil formed.names)) out
    · cases step

/-- A server that starts is formed. -/
theorem sessionsFormed_initial : SessionsFormed {} where
  sessions := by simp
  names := by simp [NamesFormed]
  waiting := by simp

/-- In a run from the start of the server whose steps all keep the sessions of connected users,
every connected member has, in every state, a client that is logged in under its name and not
disconnected. -/
theorem connected_users_live (auth : AuthDb) (labels : List SessionsLabel)
    (kept : (sessionsMachine auth).EveryStep (SessionsKept auth) {} labels) :
    (sessionsMachine auth).Always ConnectedUsersLive {} labels := by
  have preserved : ∀ state label next, SessionsFormed state ∧ ConnectedUsersLive state →
      SessionsKept auth state label → (sessionsMachine auth).step state label = some next →
      SessionsFormed next ∧ ConnectedUsersLive next :=
    fun _ _ _ good guarded step =>
      ⟨good.1.kept guarded step, connectedUsersLive_step good.1 good.2 guarded step⟩
  have initially : SessionsFormed {} ∧ ConnectedUsersLive {} :=
    ⟨sessionsFormed_initial, fun name ⟨canvas, inside, _⟩ => by cases inside⟩
  exact (Machine.always_of_guarded preserved initially kept).imp fun _ good => good.2

/-- Ann logs in, creates a canvas, and disconnects. -/
theorem connected_users_live_visit :
    (sessionsMachine [⟨bytes "ann", 1⟩]).Always ConnectedUsersLive {}
      [.accept 0, .request 0 (bytes "Login ann\n") [{}],
        .request 0 (bytes "create_canvas 1 1 0\n") [{}, {}],
        .request 0 (bytes "Disconnect\n") [{}, {}, {}]] := by
  refine connected_users_live _ _ (Machine.everyStep_cons rfl trivial
    (Machine.everyStep_cons rfl ?_ (Machine.everyStep_cons rfl ?_ (Machine.everyStep_cons rfl ?_
      trivial))))
  · intro record there
    obtain rfl := Option.some.inj there
    refine ⟨?_, fun logged => by cases logged⟩
    rintro first ⟨⟩ through
    cases through.refusal
  · intro record there
    obtain rfl := Option.some.inj there
    refine ⟨?_, fun logged => ⟨fun _ name logs => ?_, fun gone => by cases gone⟩⟩
    · rintro first ⟨⟩ through
      cases through.refusal
    have other : (requestTokens (bytes "create_canvas 1 1 0\n")).head? ≠ some (bytes "Login") := by
      decide
    exact absurd (congrArg List.head? logs.1) other
  · intro record there
    obtain rfl := Option.some.inj there
    refine ⟨?_, fun logged => ⟨fun _ name logs => ?_, fun gone => by cases gone⟩⟩
    · rintro first ⟨⟩ through
      cases through.refusal
    have other : (requestTokens (bytes "Disconnect\n")).head? ≠ some (bytes "Login") := by decide
    exact absurd (congrArg List.head? logs.1) other

/-- A client that is logged in as Ann, has a canvas, and logs in again as Bob. -/
def secondLogin : List SessionsLabel :=
  [.accept 0, .request 0 (bytes "Login ann\n") [{}],
    .request 0 (bytes "create_canvas 1 1 0\n") [{}, {}], .request 0 (bytes "Login bob\n") [{}]]

/-- Ann stays connected to her canvas, and no client is logged in as Ann. -/
theorem secondLogin_orphans :
    ¬ (sessionsMachine [⟨bytes "ann", 1⟩, ⟨bytes "bob", 1⟩]).Always ConnectedUsersLive {}
      secondLogin := by
  intro always
  have ends : ∃ last, (sessionsMachine [⟨bytes "ann", 1⟩, ⟨bytes "bob", 1⟩]).run {} secondLogin =
      some last ∧
      last.world.store.canvases = [⟨1, some 0, 1, 1, false, [⟨bytes "ann", true, false⟩]⟩] ∧
      last.clients = Function.update (Function.update (Function.update (Function.update
        (fun _ => none) 0 (some {})) 0 (some ⟨⟨bytes "ann", 1, true, 0⟩, false⟩))
        0 (some ⟨⟨bytes "ann", 1, true, 0⟩, false⟩)) 0 (some ⟨⟨bytes "bob", 1, true, 0⟩, false⟩) :=
    ⟨_, rfl, by decide, rfl⟩
  obtain ⟨last, ran, canvases, clients⟩ := ends
  have connected : ConnectedNamed last.world.store (bytes "ann") := by
    rw [ConnectedNamed, canvases]
    exact ⟨_, List.mem_singleton_self _, _, List.mem_singleton_self _, rfl, rfl⟩
  obtain ⟨client, record, there, -, named, -⟩ := always.last ran _ connected
  rw [clients] at there
  by_cases same : client = 0
  · subst same
    obtain rfl := Option.some.inj there
    revert named
    decide
  · simp [same] at there

end AnimateService
