import AnimateService.CanvasUses
import AnimateService.Holders

/-!
# Users that wait at a barrier

While a user's flag on a canvas is set, the user's requests are not to touch the canvas. A request
that waits for the flag keeps to that; one that does not may come in the middle of the wait, on
another worker. `waiting_users_spared_iff` says which steps do.
-/
namespace AnimateService

open Transition

/-! ## Whose flag is set -/

/-- The user's flag on the canvas of a record is set. -/
def HandleStore.WaitsAt (store : HandleStore) (username : Bytes) (record : CanvasPtr) : Prop :=
  ∃ user, MemberNamed store record user username ∧ store.waiting record user = true

/-- Whose request a thread handles: a waiting operation is that of the member it waits for, any
other that of the client's user. -/
def Pc.RequestOf (store : HandleStore) (session : Session) (username : Bytes) : Pc → Prop
  | .canvasWait record user _ => MemberNamed store record user username
  | _ => session.username = username

/-- The step makes no call for a user that touches a canvas at which the user waits. -/
def SparesWaiting (auth : AuthDb) (state : RpcState) (label : RpcLabel) : Prop :=
  ∀ thread answers client pc made call canvas record username, label = .step thread answers →
    state.threads thread = some ⟨client, pc⟩ →
    (advance auth answers (state.sessions client) state.world pc).2.1.library.calls =
      made ++ state.world.library.calls → call ∈ made →
    call.Touches state.world.library.calls canvas →
    canvasRecordPtr state.world.store record = some canvas →
    pc.RequestOf state.world.store (state.sessions client) username →
    ¬ state.world.store.WaitsAt username record

/-- The step does not use a canvas at which its user waits by destroying a placement on it, by
rendering a frame of it, or because a placement on it gets no handle. -/
def PassesNobody (state : RpcState) (label : RpcLabel) : Prop :=
  ∀ thread answers client pc canvas record, label = .step thread answers →
    state.threads thread = some ⟨client, pc⟩ →
    pc.UsesPast answers (state.sessions client).username state.world canvas →
    canvasRecordPtr state.world.store record = some canvas →
    ¬ state.world.store.WaitsAt (state.sessions client).username record

/-- The canvas at whose barrier an operation on a placement waits: the one that it has waited for,
or the one that the placement's canvas id leads to. -/
def Pc.awaits (store : HandleStore) (username : Bytes) (placement : Nat) : Pc → Option CanvasPtr
  | .canvasWait record _ _ => some record
  | _ => canvasFor store (placementRecordCanvasId store placement) username

/-- An operation on a placement that goes on has not waited for another canvas than the one that
the placement lies on while its user waits there. -/
def WaitsThere (state : RpcState) (label : RpcLabel) : Prop :=
  ∀ thread answers client pc resume placement canvas record username,
    label = .step thread answers → state.threads thread = some ⟨client, pc⟩ →
    GoesOn (state.sessions client).username state.world.store pc resume →
    .placement placement ∈ resume.passes → state.world.LiesOn placement canvas →
    canvasRecordPtr state.world.store record = some canvas →
    pc.RequestOf state.world.store (state.sessions client) username →
    state.world.store.WaitsAt username record →
    pc.awaits state.world.store (state.sessions client).username placement = some record

section Flags

variable {store : HandleStore} {username : Bytes} {record : CanvasPtr} {user : UserPtr}

/-- On a canvas with distinct names a name is one member's. -/
theorem MemberNamed.same {other : UserPtr}
    (distinct : ∀ canvas ∈ store.canvases, canvas.names.Nodup)
    (named : MemberNamed store record user username)
    (again : MemberNamed store record other username) : user = other := by
  obtain ⟨canvas, present, called⟩ := named
  obtain ⟨hit, there, once⟩ := again
  obtain rfl := Option.some.inj (present.symm.trans there)
  have inside : user < canvas.names.length := (List.getElem?_eq_some_iff.mp called).1
  have names := distinct canvas (List.mem_of_getElem? present)
  exact (List.getElem?_inj inside names).mp (called.trans once.symm)

/-- A user whose flag was read clear does not wait. -/
theorem not_waitsAt_of_passed (distinct : ∀ canvas ∈ store.canvases, canvas.names.Nodup)
    (named : MemberNamed store record user username)
    (passed : store.waiting record user = false) : ¬ store.WaitsAt username record := by
  rintro ⟨other, again, waits⟩
  obtain rfl := named.same distinct again
  rw [passed] at waits
  cases waits

/-- A user that an operation need not wait for does not wait. -/
theorem not_waitsAt_of_free (distinct : ∀ canvas ∈ store.canvases, canvas.names.Nodup)
    (free : barrierToWaitFor store record username = none) : ¬ store.WaitsAt username record := by
  rintro ⟨user, named, waits⟩
  obtain ⟨canvas, present, called⟩ := named
  cases found : findSharedUser canvas username with
  | none => exact findSharedUser_none found (List.mem_of_getElem? called)
  | some other =>
    obtain rfl := (memberNamed_of_found present found).same distinct ⟨canvas, present, called⟩
    rw [barrierToWaitFor, present, Option.bind_some, found] at free
    simp [waits] at free

/-- A user that waits on a canvas is a member of it. -/
theorem HandleStore.WaitsAt.member {canvas : CanvasRecord} (waits : store.WaitsAt username record)
    (present : store.canvases[record]? = some canvas) :
    (findSharedUser canvas username).isSome = true := by
  obtain ⟨user, ⟨hit, there, called⟩, -⟩ := waits
  obtain rfl := Option.some.inj (present.symm.trans there)
  cases found : findSharedUser canvas username with
  | none => exact absurd (List.mem_of_getElem? called) (findSharedUser_none found)
  | some other => rfl

end Flags

/-! ## What is known of records and threads -/

/-- A place at which a canvas is shared with a valid name only, and at which a sprite is to be
placed on the canvas that is waited for. -/
structure Pc.Sound (pc : Pc) : Prop where
  /-- The place is proper. -/
  proper : pc.Proper
  /-- A sprite is to be placed where the operation waits. -/
  places : ∀ record user canvas sprite canvasId spriteId x y,
    pc = .canvasWait record user (.place canvas sprite canvasId spriteId x y) → canvas = record

/-- What holds of the members, the records and the threads whatever the requests do. -/
structure UserBooks (state : RpcState) : Prop where
  /-- The books of the library. -/
  library : LibraryBooks state
  /-- The names on a canvas are distinct. -/
  distinct : ∀ canvas ∈ state.world.store.canvases, canvas.names.Nodup
  /-- A library canvas is recorded once. -/
  once : ∀ record other canvas, canvasRecordPtr state.world.store record = some canvas →
    canvasRecordPtr state.world.store other = some canvas → record = other
  /-- The threads are where they may be. -/
  sound : ∀ thread work, state.threads thread = some work → work.pc.Sound

section Steps

variable {auth : AuthDb} {answers : Answers} {session : Session} {world : World} {pc : Pc}

/-- A thread at a proper place moves to a proper place. -/
theorem advance_proper (proper : pc.Proper) :
    (advance auth answers session world pc).2.2.Proper := by
  by_cases working : pc.Working
  · exact Pc.proper_of_working (advance_working working).2
  · cases pc with
    | start line =>
      show (startRequest auth answers session world line).2.2.Proper
      have outcome := @startRequest_outcome auth answers session world line
      generalize startRequest auth answers session world line = result at outcome
      cases outcome with
      | working logged other store working => exact Pc.proper_of_working working
      | _ => trivial
    | disconnect =>
      simp only [advance]
      split <;> trivial
    | endSession => trivial
    | _ => exact absurd proper working

/-- A thread at a sound place moves to a sound place. -/
theorem advance_soundPlace (sound : pc.Sound) : (advance auth answers session world pc).2.2.Sound := by
  refine ⟨advance_proper sound.proper, ?_⟩
  intro record user canvas sprite canvasId spriteId x y reached
  have waits : (advance auth answers session world pc).2.2.waitsFor = some (record, user) := by
    rw [reached]
    rfl
  rcases (advance_waits waits).2 with same | ⟨begins, -⟩
  · rw [same] at reached
    exact sound.places _ _ _ _ _ _ _ _ reached
  · rw [reached] at begins
    cases begins
    rfl

/-- The section of a proper place shares a canvas only with a name that fits. -/
theorem Pc.canvasStep_fits {store after : HandleStore} (proper : pc.Proper) :
    (pc.canvasStep answers session store after).Fits := by
  have step := pc.canvasStep_section answers session store after
  generalize pc.canvasStep answers session store after = sharing at step
  cases step with
  | shareCanvas id target => exact copyUsername_short (authValidUsername_length proper)
  | _ => trivial

/-- The pointer of a canvas record after a step was there before, or is that of the canvas in
flight. -/
theorem advance_pointer {record : CanvasPtr} {object : Object}
    (pointer : canvasRecordPtr (advance auth answers session world pc).2.1.store record =
      some object) :
    canvasRecordPtr world.store record = some object ∨
      record = world.store.canvases.length ∧ pc.unrecordedCanvas = some object := by
  obtain ⟨canvas, there, held⟩ := Option.bind_eq_some_iff.mp pointer
  rw [advance_store] at there
  cases present : world.store.canvases[record]? with
  | none =>
    obtain ⟨created, width, height, owner, step, rfl⟩ := CanvasStep.apply_added present there
    obtain ⟨flying, -⟩ := Pc.canvasStep_create step
    rw [step] at there
    have inside := (List.getElem?_eq_some_iff.mp there).1
    have outside : world.store.canvases.length ≤ record := List.getElem?_eq_none_iff.mp present
    simp only [CanvasStep.apply, handlesAddCanvas, ↓reduceIte, List.length_append,
      List.length_singleton] at inside
    exact .inr ⟨Nat.le_antisymm (Nat.lt_succ_iff.mp inside) outside, flying.trans held⟩
  | some before =>
    obtain ⟨after, again, change⟩ := CanvasStep.apply_record present
      (pc.canvasStep answers session world.store
        (advance auth answers session world pc).2.1.store)
    obtain rfl := Option.some.inj (there.symm.trans again)
    refine .inl ?_
    rw [canvasRecordPtr, present]
    exact change.canvas held

end Steps

section Books

variable {auth : AuthDb} {state next : RpcState} {label : RpcLabel} {thread : ThreadId}
  {client : ClientId} {pc : Pc} {answers : Answers}

/-- A step of a thread keeps what is known. -/
theorem UserBooks.advance (books : UserBooks state)
    (working : state.threads thread = some ⟨client, pc⟩) :
    UserBooks (state.advanceThread auth thread client pc answers) := by
  have sound := books.sound thread ⟨client, pc⟩ working
  constructor
  case library => exact books.library.advance working
  case distinct =>
    show ∀ canvas ∈ (AnimateService.advance auth answers (state.sessions client) state.world
      pc).2.1.store.canvases, canvas.names.Nodup
    rw [advance_store]
    exact CanvasStep.apply_distinct (Pc.canvasStep_fits sound.proper) books.distinct
  case once =>
    intro record other canvas pointer again
    have unrecorded : pc.unrecordedCanvas = some canvas →
        ∀ record, canvasRecordPtr state.world.store record ≠ some canvas := by
      intro flying record pointer
      exact books.library.flightUnrecorded thread canvas ⟨_, working, flying⟩
        (canvasRecordPtr_some pointer)
    rcases advance_pointer pointer with before | ⟨added, flying⟩
    · rcases advance_pointer again with same | ⟨-, flying⟩
      · exact books.once record other canvas before same
      · exact absurd before (unrecorded flying record)
    · rcases advance_pointer again with before | ⟨same, -⟩
      · exact absurd before (unrecorded flying other)
      · rw [added, same]
  case sound =>
    intro other work there
    simp only [RpcState.advanceThread] at there
    by_cases same : other = thread
    · subst same
      rw [Function.update_self] at there
      obtain rfl := Option.some.inj there
      exact advance_soundPlace sound
    · rw [Function.update_of_ne same] at there
      exact books.sound other work there

/-- After every step, the members, the records and the threads are as they should be. -/
theorem UserBooks.kept (books : UserBooks state)
    (step : (rpcMachine auth).step state label = some next) : UserBooks next := by
  have library := books.library.kept step
  rcases rpcMachine_cases step with
    ⟨thread, answers, client, pc, rfl, working, -, rfl⟩ | ⟨thread, work, -, rfl, -, begins⟩
  · exact books.advance working
  · refine ⟨library, books.distinct, books.once, ?_⟩
    intro other taken there
    by_cases same : other = thread
    · subst same
      simp only [RpcState.setThread, Function.update_self] at there
      rcases begins taken there with ⟨line, place⟩ | place <;> rw [place] <;> exact ⟨trivial, by simp⟩
    · simp only [RpcState.setThread, Function.update_of_ne same] at there
      exact books.sound other taken there

/-- The books of a server that starts. -/
theorem userBooks_initial : UserBooks {} where
  library := libraryBooks_initial
  distinct := by simp
  once := by simp [canvasRecordPtr]
  sound := by simp

/-! ## Which steps spare the users that wait -/

/-- A step on a way past the wait is one of the client's user. -/
theorem Pc.requestOf_past {store : HandleStore} {session : Session} {world : World}
    {canvas : Object} {username : Bytes}
    (past : pc.UsesPast answers session.username world canvas) :
    pc.RequestOf store session username ↔ session.username = username := by
  cases past <;> exact Iff.rfl

/-- An operation on a placement uses the canvas that the placement lies on. -/
theorem Resume.uses_placement {world : World} {canvas : Object} {resume : Resume} {placement : Nat}
    (passes : .placement placement ∈ resume.passes) (lies : world.LiesOn placement canvas) :
    resume.Uses world canvas := by
  cases resume with
  | place record sprite canvasId spriteId x y => simp [Resume.passes] at passes
  | move move record =>
    simp only [Resume.passes, List.mem_singleton, RecordAddress.placement.injEq] at passes
    exact .move (passes ▸ lies)
  | setParams record vx vy ax ay =>
    simp only [Resume.passes, List.mem_singleton, RecordAddress.placement.injEq] at passes
    exact .setParams (passes ▸ lies)
  | generate record job => simp [Resume.passes] at passes

/-- A user for whom an operation goes on does not wait on the canvas whose barrier it has
regarded. -/
theorem GoesOn.not_waitsAt {store : HandleStore} {session : Session} {resume : Resume}
    {placement : Nat} {record : CanvasPtr} {username : Bytes}
    (distinct : ∀ canvas ∈ store.canvases, canvas.names.Nodup)
    (goesOn : GoesOn session.username store pc resume)
    (passes : .placement placement ∈ resume.passes)
    (requested : pc.RequestOf store session username)
    (awaits : pc.awaits store session.username placement = some record) :
    ¬ store.WaitsAt username record := by
  cases goesOn with
  | waited passed =>
    obtain rfl := Option.some.inj awaits
    exact not_waitsAt_of_passed distinct requested passed
  | place found held free => simp [Resume.passes] at passes
  | move held free =>
    simp only [Resume.passes, List.mem_singleton, RecordAddress.placement.injEq] at passes
    subst passes
    obtain rfl : session.username = username := requested
    exact not_waitsAt_of_free distinct (free record awaits)
  | setParams held free =>
    simp only [Resume.passes, List.mem_singleton, RecordAddress.placement.injEq] at passes
    subst passes
    obtain rfl : session.username = username := requested
    exact not_waitsAt_of_free distinct (free record awaits)
  | generate found free => simp [Resume.passes] at passes

/-- A sprite is placed for a user that does not wait on the canvas. -/
theorem place_not_waitsAt {session : Session} {canvas record : CanvasPtr} {sprite : Nat}
    {canvasId spriteId : UInt64} {x y : Int} {object : Object} {username : Bytes}
    (books : UserBooks state) (sound : pc.Sound)
    (goesOn : GoesOn session.username state.world.store pc
      (.place canvas sprite canvasId spriteId x y))
    (placed : canvasRecordPtr state.world.store canvas = some object)
    (pointer : canvasRecordPtr state.world.store record = some object)
    (requested : pc.RequestOf state.world.store session username) :
    ¬ state.world.store.WaitsAt username record := by
  obtain rfl := books.once canvas record object placed pointer
  generalize resumed : Resume.place canvas sprite canvasId spriteId x y = resume at goesOn
  cases goesOn with
  | waited passed =>
    subst resumed
    obtain rfl := sound.places _ _ _ _ _ _ _ _ rfl
    exact not_waitsAt_of_passed books.distinct requested passed
  | place found held free =>
    cases resumed
    obtain rfl : session.username = username := requested
    exact not_waitsAt_of_free books.distinct free
  | move held free => cases resumed
  | setParams held free => cases resumed
  | generate found free => cases resumed

/-- A step spares the users that wait exactly if it neither goes past the wait nor waits for another
canvas. -/
theorem sparesWaiting_iff (books : UserBooks state) :
    SparesWaiting auth state label ↔ PassesNobody state label ∧ WaitsThere state label := by
  -- a call that touches a canvas is one that the step uses it by
  have called : ∀ thread answers client pc canvas, state.threads thread = some ⟨client, pc⟩ →
      (pc.UsesCanvas answers (state.sessions client).username state.world canvas ↔
        ∃ made call, (AnimateService.advance auth answers (state.sessions client) state.world
            pc).2.1.library.calls = made ++ state.world.library.calls ∧ call ∈ made ∧
          call.Touches state.world.library.calls canvas) := by
    intro thread answers client pc canvas working
    obtain ⟨made, logged, touches⟩ := @advance_logs auth answers (state.sessions client)
      state.world books.library.gone pc
    rw [← touches]
    constructor
    · rintro ⟨call, rfl, touched⟩
      exact ⟨[call], call, logged, List.mem_singleton_self call, touched⟩
    · rintro ⟨calls, call, again, inside, touched⟩
      obtain rfl := List.append_cancel_right (logged.symm.trans again)
      exact ⟨call, Option.mem_toList.mp inside, touched⟩
  constructor
  · intro spares
    constructor
    · rintro thread answers client pc canvas record rfl working past pointer
      obtain ⟨made, call, logged, inside, touched⟩ :=
        (called thread answers client pc canvas working).mp (.inl past)
      exact spares thread answers client pc made call canvas record _ rfl working logged inside
        touched pointer ((Pc.requestOf_past past).mpr rfl)
    · rintro thread answers client pc resume placement canvas record username rfl working goesOn
        passes lies pointer requested waits
      obtain ⟨made, call, logged, inside, touched⟩ := (called thread answers client pc canvas
        working).mp (.inr ⟨resume, goesOn, Resume.uses_placement passes lies⟩)
      exact absurd waits (spares thread answers client pc made call canvas record username rfl
        working logged inside touched pointer requested)
  · rintro ⟨passes, there⟩ thread answers client pc made call canvas record username rfl working
      logged inside touched pointer requested waits
    rcases (called thread answers client pc canvas working).mpr ⟨made, call, logged, inside, touched⟩
      with past | ⟨resume, goesOn, used⟩
    · obtain rfl := (Pc.requestOf_past past).mp requested
      exact passes thread answers client pc canvas record rfl working past pointer waits
    · have moved : ∀ placement, .placement placement ∈ resume.passes →
          state.world.LiesOn placement canvas → False := by
        intro placement held lies
        have awaits := there thread answers client pc resume placement canvas record username rfl
          working goesOn held lies pointer requested waits
        exact goesOn.not_waitsAt books.distinct held requested awaits waits
      cases used with
      | place placed =>
        exact place_not_waitsAt books (books.sound thread _ working) goesOn placed pointer requested
          waits
      | move lies => exact moved _ List.mem_cons_self lies
      | setParams lies => exact moved _ List.mem_cons_self lies

end Books

end AnimateService
