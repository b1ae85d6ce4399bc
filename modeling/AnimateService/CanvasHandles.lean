import AnimateService.AccessControl
import AnimateService.DestroyedOnce
import AnimateService.WaitingUsers

/-!
# Where a placement's canvas id leads

A placement record keeps the handle of the canvas it was placed on, and requests on the placement
look the canvas up by that handle. It leads to the canvas on which the placement lies unless the
`uint64_t` counter has wrapped and another canvas was recorded under the same handle.
-/
namespace AnimateService

open LinkedList Transition

/-- The step records no canvas under the handle of another. -/
def CanvasHandlesFresh (state : RpcState) (label : RpcLabel) : Prop :=
  ∀ thread answers client object width height, label = .step thread answers →
    state.threads thread = some ⟨client, .addCanvas object width height⟩ → answers.memory = true →
    ∀ canvas ∈ state.world.store.canvases, canvas.id ≠ state.world.store.nextId

/-- A handle is valid and that of the canvas of a record. -/
def HandleStore.Leads (store : HandleStore) (canvasId : UInt64) (record : CanvasPtr) : Prop :=
  canvasId ≠ invalidHandle ∧ ∃ canvas, store.canvases[record]? = some canvas ∧ canvas.id = canvasId

/-- The handle of the canvas that an operation is on. -/
def Resume.canvasId (store : HandleStore) : Resume → UInt64
  | .place _ _ canvasId _ _ _ => canvasId
  | .move _ placement | .setParams placement _ _ _ _ => placementRecordCanvasId store placement
  | .generate _ job => job.canvasId

/-- What is known of the handles of canvases while none is given twice. -/
structure HandleBooks (state : RpcState) : Prop where
  /-- What is known of members, records and threads. -/
  users : UserBooks state
  /-- What is known of objects in hand. -/
  custody : CustodyBooks state
  /-- A handle leads to one record. -/
  once : ∀ record other canvasId, state.world.store.Leads canvasId record →
    state.world.store.Leads canvasId other → record = other
  /-- Recorded placements have been handed out. -/
  recorded : ∀ placement, RecordsPlacement state.world.store placement →
    placement < state.world.library.next
  /-- The canvas id of a placement leads to the canvas that it lies on. -/
  placements : ∀ (index : Nat) (placement : PlacementRecord) object canvas record,
    state.world.store.placements[index]? = some placement → placement.placement = some object →
    PlacedOn state.world.library.calls object canvas →
    canvasRecordPtr state.world.store record = some canvas →
    state.world.store.Leads placement.canvasId record
  /-- So does the one that a placement will be recorded with. -/
  flying : ∀ thread client object canvasId spriteId canvas record,
    state.threads thread = some ⟨client, .addPlacement object canvasId spriteId⟩ →
    PlacedOn state.world.library.calls object canvas →
    canvasRecordPtr state.world.store record = some canvas →
    state.world.store.Leads canvasId record
  /-- An operation waits at the canvas that it is on. -/
  waiting : ∀ thread client record user resume,
    state.threads thread = some ⟨client, .canvasWait record user resume⟩ →
    state.world.store.Leads (resume.canvasId state.world.store) record

section Lookups

variable {store : HandleStore} {canvasId : UInt64} {username : Bytes} {record : CanvasPtr}

/-- A lookup finds a canvas by its handle. -/
theorem leads_of_found (found : canvasFor store canvasId username = some record) :
    store.Leads canvasId record := by
  obtain ⟨canvas, user, present, named, -⟩ := canvasFor_some found
  refine ⟨?_, canvas, present, named⟩
  rintro rfl
  simp [canvasFor] at found

/-- Where a handle leads to one record, a member of the canvas finds it if it is not destroyed. -/
theorem canvasFor_of_leads (gone : DestroyedCanvasesGone store)
    (once : ∀ other, store.Leads canvasId other → other = record)
    (leads : store.Leads canvasId record) {object : Object}
    (pointer : canvasRecordPtr store record = some object)
    (waits : store.WaitsAt username record) : canvasFor store canvasId username = some record := by
  obtain ⟨valid, canvas, present, named⟩ := leads
  have held : canvas.canvas = some object := by
    rw [canvasRecordPtr, present] at pointer
    exact pointer
  have inside := List.mem_of_getElem? present
  have unmarked : canvas.deleted = false := by
    rw [← Bool.not_eq_true]
    intro marked
    rw [gone canvas inside marked] at held
    cases held
  cases found : canvasFor store canvasId username with
  | none =>
    rw [canvasFor, if_neg valid] at found
    have refused := newest?_none.mp found canvas inside
    simp [CanvasRecord.answers, named, held, unmarked, waits.member present] at refused
  | some other => rw [once other (leads_of_found found)]

end Lookups

section Steps

variable {auth : AuthDb} {answers : Answers} {session : Session} {world : World} {pc : Pc}

/-- A step keeps where a handle leads. -/
theorem advance_leads {canvasId : UInt64} {record : CanvasPtr}
    (leads : world.store.Leads canvasId record) :
    (advance auth answers session world pc).2.1.store.Leads canvasId record := by
  obtain ⟨valid, canvas, present, named⟩ := leads
  rw [advance_store]
  obtain ⟨after, there, change⟩ := CanvasStep.apply_record present
    (pc.canvasStep answers session world.store (advance auth answers session world pc).2.1.store)
  exact ⟨valid, after, there, change.mark.1.trans named⟩

/-- A handle that leads somewhere after a step did so before, or is that of the canvas that the
step records. -/
theorem advance_led {canvasId : UInt64} {record : CanvasPtr}
    (leads : (advance auth answers session world pc).2.1.store.Leads canvasId record) :
    world.store.Leads canvasId record ∨
      record = world.store.canvases.length ∧ canvasId = world.store.nextId ∧
        answers.memory = true ∧ ∃ object width height, pc = .addCanvas object width height := by
  obtain ⟨valid, canvas, there, named⟩ := leads
  rw [advance_store] at there
  cases present : world.store.canvases[record]? with
  | none =>
    obtain ⟨object, width, height, owner, step, rfl⟩ := CanvasStep.apply_added present there
    have flying := (Pc.canvasStep_create step).1
    cases pc with
    | addCanvas canvas width height =>
      have inside := (List.getElem?_eq_some_iff.mp there).1
      have outside : world.store.canvases.length ≤ record := List.getElem?_eq_none_iff.mp present
      rw [step] at inside
      simp only [CanvasStep.apply, handlesAddCanvas, ↓reduceIte, List.length_append,
        List.length_singleton] at inside
      obtain ⟨-, -, -, -, memory⟩ := CanvasStep.createCanvas.inj step
      exact .inr ⟨Nat.le_antisymm (Nat.lt_succ_iff.mp inside) outside, named.symm, memory, _, _, _,
        rfl⟩
    | _ => cases flying
  | some before =>
    obtain ⟨after, again, change⟩ := CanvasStep.apply_record present
      (pc.canvasStep answers session world.store
        (advance auth answers session world pc).2.1.store)
    obtain rfl := Option.some.inj (there.symm.trans again)
    exact .inl ⟨valid, before, present, change.mark.1.symm.trans named⟩

/-- A placement record with an object after a step was there before, or is the one that the step
adds. -/
theorem advance_placement {index : Nat} {placement : PlacementRecord} {object : Object}
    (present : (advance auth answers session world pc).2.1.store.placements[index]? =
      some placement) (held : placement.placement = some object) :
    world.store.placements[index]? = some placement ∨
      ∃ spriteId, pc = .addPlacement object placement.canvasId spriteId := by
  rw [advance_operation] at present
  cases performs : pc.operation answers session world.store with
  | none =>
    rw [performs] at present
    exact .inl present
  | some operation =>
    rw [performs] at present
    replace present : (operation.perform world.store).2.placements[index]? = some placement :=
      present
    rcases operation.perform_placements with
      kept | ⟨record, cleared⟩ | ⟨made, canvasId, spriteId, owner, rfl, added⟩
    · exact .inl (kept ▸ present)
    · rw [cleared, List.getElem?_modify] at present
      obtain ⟨before, there, same⟩ := Option.map_eq_some_iff.mp present
      split at same
      · subst same
        cases held
      · subst same
        exact .inl there
    · rw [added] at present
      by_cases old : index < world.store.placements.length
      · rw [List.getElem?_append_left old] at present
        exact .inl present
      · rw [List.getElem?_append_right (Nat.not_lt.mp old)] at present
        obtain rfl := List.mem_singleton.mp (List.mem_of_getElem? present)
        obtain rfl := Option.some.inj held
        have flying := (Pc.operation_addPlacement performs).1
        cases pc with
        | addPlacement own canvas sprite =>
          obtain ⟨rfl, rfl, -⟩ := StoreOperation.addPlacement.inj (Option.some.inj performs)
          exact .inr ⟨_, rfl⟩
        | _ => cases flying

/-- A step keeps the canvas id of a placement. -/
theorem advance_placementCanvasId {placement : Nat}
    (valid : placementRecordCanvasId world.store placement ≠ invalidHandle) :
    placementRecordCanvasId (advance auth answers session world pc).2.1.store placement =
      placementRecordCanvasId world.store placement := by
  cases present : world.store.placements[placement]? with
  | none => simp [placementRecordCanvasId, present] at valid
  | some record =>
    rw [advance_operation]
    cases performs : pc.operation answers session world.store with
    | none => rfl
    | some operation =>
      show ((((operation.perform world.store).2.placements[placement]?).map
        PlacementRecord.canvasId).getD invalidHandle) = _
      simp only [placementRecordCanvasId]
      rcases operation.perform_placements with
        kept | ⟨index, cleared⟩ | ⟨made, canvasId, spriteId, owner, -, added⟩
      · rw [kept]
      · rw [cleared, List.getElem?_modify, present]
        by_cases same : index = placement <;> simp [same]
      · have inside := (List.getElem?_eq_some_iff.mp present).1
        rw [added, List.getElem?_append_left inside]

/-- A placement that a step hands to its request was made on the canvas that the request is on. -/
theorem advance_flying {object : Object} {canvasId spriteId : UInt64} {canvas : Object}
    (gone : DestroyedCanvasesGone world.store) (old : IssuedOld world.library)
    (reached : (advance auth answers session world pc).2.2 =
      .addPlacement object canvasId spriteId)
    (placed : PlacedOn (advance auth answers session world pc).2.1.library.calls object canvas) :
    ∃ record sprite x y, GoesOn session.username world.store pc
        (.place record sprite canvasId spriteId x y) ∧
      canvasRecordPtr world.store record = some canvas := by
  obtain ⟨made, logged, touches⟩ := @advance_logs auth answers session world gone pc
  obtain ⟨event, moves, -⟩ := (@advance_custody auth answers session world gone old pc).moves
    .placement
  have fresh := moves.carried_fresh (show Pc.carries .placement _ = some object by rw [reached]; rfl)
  -- the placement is new, so that it was this step that placed it
  obtain ⟨sprite, x, y, inside⟩ := placed
  rw [logged] at inside
  have call : made = some (.placeSprite (some canvas) sprite x y (some object)) := by
    rcases List.mem_append.mp inside with new | before
    · exact Option.mem_toList.mp new
    · have issued : object ∈ world.library.calls.filterMap (Call.issues .placement) :=
        List.mem_filterMap.mpr ⟨_, before, rfl⟩
      exact absurd issued fresh
  rcases (touches canvas).mp ⟨_, call, .place sprite x y (some object)⟩ with
    past | ⟨resume, goesOn, used⟩
  · cases past with
    | destroyPlacement found lies => cases reached
    | addPlacement refused placed =>
      simp only [advance, answerHandle] at reached
      split at reached <;> cases reached
    | frame found pointer =>
      simp only [advance, generateFrame, handlesGetCanvas_some found, finishGenerate] at reached
      split at reached
      · split at reached
        · cases reached
        · split at reached <;> cases reached
      · cases reached
  · have result := reached
    rw [@GoesOn.advance auth answers session world pc resume goesOn] at result
    cases used with
    | place pointer =>
      cases created : answers.created with
      | false =>
        simp only [resumeAfterWait, Library.create, created] at result
        cases result
      | true =>
        simp only [resumeAfterWait, Library.create, created, ↓reduceIte] at result
        cases result
        exact ⟨_, _, _, _, goesOn, pointer⟩
    | move lies => cases result
    | setParams lies => cases result

/-- A step keeps the canvas that an operation is on. -/
theorem advance_canvasId {resume : Resume} {record : CanvasPtr}
    (leads : world.store.Leads (resume.canvasId world.store) record) :
    (advance auth answers session world pc).2.1.store.Leads
      (resume.canvasId (advance auth answers session world pc).2.1.store) record := by
  have same : resume.canvasId (advance auth answers session world pc).2.1.store =
      resume.canvasId world.store := by
    cases resume with
    | place canvas sprite canvasId spriteId x y => rfl
    | move move placement => exact advance_placementCanvasId leads.1
    | setParams placement vx vy ax ay => exact advance_placementCanvasId leads.1
    | generate canvas job => rfl
  rw [same]
  exact advance_leads leads

/-- A request that begins to wait does so at the canvas that it is on. -/
theorem BeginsWait.leads {store : HandleStore} {username : Bytes} {record : CanvasPtr}
    {user other : UserPtr} {resume : Resume}
    (begins : BeginsWait username store record user pc (.canvasWait record other resume)) :
    store.Leads (resume.canvasId store) record := by
  cases begins with
  | place found held => exact leads_of_found found
  | move held found => exact leads_of_found found
  | setParams held found => exact leads_of_found found
  | generate found => exact leads_of_found found

end Steps

section Books

variable {auth : AuthDb} {state next : RpcState} {label : RpcLabel} {thread : ThreadId}
  {client : ClientId} {pc : Pc} {answers : Answers}

/-- A sprite is placed on the canvas that the request is on. -/
theorem HandleBooks.places (books : HandleBooks state)
    (working : state.threads thread = some ⟨client, pc⟩) {record : CanvasPtr} {sprite : Nat}
    {canvasId spriteId : UInt64} {x y : Int}
    (goesOn : GoesOn (state.sessions client).username state.world.store pc
      (.place record sprite canvasId spriteId x y)) :
    state.world.store.Leads canvasId record := by
  generalize resumed : Resume.place record sprite canvasId spriteId x y = resume at goesOn
  cases goesOn with
  | waited passed =>
    subst resumed
    obtain rfl := (books.users.sound thread _ working).places _ _ _ _ _ _ _ _ rfl
    exact books.waiting thread client record _ _ working
  | place found held free =>
    cases resumed
    exact leads_of_found found
  | move held free => cases resumed
  | setParams held free => cases resumed
  | generate found free => cases resumed

/-- What is in hand has been handed out. -/
theorem HandleBooks.carried (books : HandleBooks state)
    (working : state.threads thread = some ⟨client, pc⟩) {object : Object}
    (carries : pc.carries .placement = some object) : object < state.world.library.next := by
  refine books.custody.old .placement object (books.custody.known .placement thread object ?_)
  rw [RpcState.carries, working]
  exact carries

/-- A canvas under a placement has the record after a step that it had before. -/
theorem HandleBooks.pointer (books : HandleBooks state)
    (working : state.threads thread = some ⟨client, pc⟩) {object canvas : Object}
    {record : CanvasPtr} (placed : PlacedOn state.world.library.calls object canvas)
    (pointer : canvasRecordPtr
      (advance auth answers (state.sessions client) state.world pc).2.1.store record = some canvas) :
    canvasRecordPtr state.world.store record = some canvas := by
  rcases advance_pointer pointer with before | ⟨-, flying⟩
  · exact before
  · exact absurd placed (books.custody.books.flightUnplaced thread canvas object
      ⟨_, working, flying⟩)

/-- A placement that was handed out before a step was placed before it. -/
theorem HandleBooks.placed (books : HandleBooks state) {object canvas : Object}
    (old : object < state.world.library.next)
    (placed : PlacedOn (advance auth answers (state.sessions client) state.world
      pc).2.1.library.calls object canvas) : PlacedOn state.world.library.calls object canvas := by
  obtain ⟨made, step⟩ := advance_library auth answers (state.sessions client) state.world
    books.custody.books.gone pc
  rcases placedOn_after step placed with before | ⟨rfl, -⟩
  · exact before
  · exact absurd old (lt_irrefl _)

/-- A step of a thread that gives no handle twice keeps what is known of handles. -/
theorem HandleBooks.advance (books : HandleBooks state)
    (working : state.threads thread = some ⟨client, pc⟩)
    (custody : CustodyBooks (state.advanceThread auth thread client pc answers))
    (fresh : CanvasHandlesFresh state (.step thread answers)) :
    HandleBooks (state.advanceThread auth thread client pc answers) := by
  have unique : ∀ record other canvasId, state.world.store.Leads canvasId record →
      other = state.world.store.canvases.length → canvasId = state.world.store.nextId →
      answers.memory = true → (∃ object width height, pc = .addCanvas object width height) →
      record = other := by
    rintro record other canvasId ⟨-, canvas, present, named⟩ - rfl memory ⟨object, width, height, rfl⟩
    exact absurd named (fresh thread answers client object width height rfl working memory canvas
      (List.mem_of_getElem? present))
  constructor
  case users => exact books.users.advance working
  case custody => exact custody
  case once =>
    intro record other canvasId first second
    rcases advance_led first with before | ⟨added, same, memory, place⟩
    · rcases advance_led second with again | ⟨added, same, memory, place⟩
      · exact books.once record other canvasId before again
      · exact unique record other canvasId before added same memory place
    · rcases advance_led second with again | ⟨too, -⟩
      · exact (unique other record canvasId again added same memory place).symm
      · rw [added, too]
  case recorded =>
    intro placement live
    obtain ⟨made, step⟩ := advance_library auth answers (state.sessions client) state.world
      books.custody.books.gone pc
    refine lt_of_lt_of_le ?_ step.grows
    rcases step.placements placement live with before | flying
    · exact books.recorded placement before
    · refine books.carried working ?_
      cases pc with
      | addPlacement made canvasId spriteId => exact flying
      | _ => cases flying
  case placements =>
    intro index placement object canvas record present held placed pointer
    rcases advance_placement present held with before | ⟨spriteId, place⟩
    · have old := books.recorded object ⟨placement, List.mem_of_getElem? before, held⟩
      have placed := books.placed old placed
      exact advance_leads (books.placements index placement object canvas record before held placed
        (books.pointer working placed pointer))
    · have carries : pc.carries .placement = some object := by
        rw [place]
        rfl
      have placed := books.placed (books.carried working carries) placed
      exact advance_leads (books.flying thread client object _ spriteId canvas record
        (place ▸ working) placed (books.pointer working placed pointer))
  case flying =>
    intro other served object canvasId spriteId canvas record there placed pointer
    simp only [RpcState.advanceThread] at there
    by_cases same : other = thread
    · subst same
      rw [Function.update_self] at there
      obtain ⟨rfl, reached⟩ := Thread.mk.inj (Option.some.inj there)
      obtain ⟨hit, sprite, x, y, goesOn, placing⟩ :=
        advance_flying books.custody.books.gone books.custody.old reached placed
      have before : canvasRecordPtr state.world.store record = some canvas := by
        rcases advance_pointer pointer with before | ⟨-, flying⟩
        · exact before
        · exact absurd (canvasRecordPtr_some placing)
            (books.custody.books.flightUnrecorded _ canvas ⟨_, working, flying⟩)
      obtain rfl := books.users.once hit record canvas placing before
      exact advance_leads (books.places working goesOn)
    · rw [Function.update_of_ne same] at there
      have placed := books.placed (books.carried there rfl) placed
      exact advance_leads (books.flying other served object canvasId spriteId canvas record there
        placed (books.pointer working placed pointer))
  case waiting =>
    intro other served record user resume there
    simp only [RpcState.advanceThread] at there
    by_cases same : other = thread
    · subst same
      rw [Function.update_self] at there
      obtain ⟨rfl, reached⟩ := Thread.mk.inj (Option.some.inj there)
      have waits : (AnimateService.advance auth answers (state.sessions client) state.world
          pc).2.2.waitsFor = some (record, user) := by
        rw [reached]
        rfl
      rcases (advance_waits waits).2 with stays | ⟨begins, -⟩
      · have place : pc = .canvasWait record user resume :=
          (congrArg Prod.snd stays).symm.trans reached
        exact advance_canvasId (books.waiting _ _ record user resume (place ▸ working))
      · rw [reached] at begins
        exact advance_canvasId begins.leads
    · rw [Function.update_of_ne same] at there
      exact advance_canvasId (books.waiting other served record user resume there)

/-- A step that gives no handle twice keeps what is known of handles. -/
theorem HandleBooks.kept (books : HandleBooks state) (fresh : CanvasHandlesFresh state label)
    (step : (rpcMachine auth).step state label = some next) : HandleBooks next := by
  have users := books.users.kept step
  have custody := books.custody.kept step
  rcases rpcMachine_cases step with
    ⟨thread, answers, client, pc, rfl, working, -, rfl⟩ | ⟨thread, work, no_step, rfl, -⟩
  · exact books.advance working custody fresh
  · -- a thread that takes up a request has neither a placement nor a wait
    have before : ∀ other client pc, (state.setThread thread work).threads other =
        some ⟨client, pc⟩ → (∀ line, pc ≠ .start line) → pc ≠ .disconnect →
          state.threads other = some ⟨client, pc⟩ := by
      intro other client pc there started ended
      rcases rpcMachine_came step there with
        same | ⟨answers, -, stepped, -⟩ | ⟨line, place⟩ | place
      · exact same
      · exact absurd stepped (no_step other answers)
      · exact absurd place (started line)
      · exact absurd place ended
    exact
      { users, custody
        once := books.once
        recorded := books.recorded
        placements := books.placements
        flying := fun other client object canvasId spriteId canvas record there =>
          books.flying other client object canvasId spriteId canvas record
            (before _ _ _ there (by simp) (by simp))
        waiting := fun other client record user resume there =>
          books.waiting other client record user resume (before _ _ _ there (by simp) (by simp)) }

/-- The books of a server that starts. -/
theorem handleBooks_initial : HandleBooks {} where
  users := userBooks_initial
  custody := custodyBooks_initial
  once := by simp [HandleStore.Leads]
  recorded := by simp [RecordsPlacement]
  placements := by simp
  flying := by simp
  waiting := by simp

/-- While no handle is given twice, an operation on a placement waits for the canvas that the
placement lies on. -/
theorem HandleBooks.waitsThere (books : HandleBooks state) : WaitsThere state label := by
  rintro thread answers client pc resume index canvas record username rfl working goesOn passes lies
    pointer requested waits
  obtain ⟨object, held, placed⟩ := lies
  obtain ⟨placement, present, pointed⟩ := Option.bind_eq_some_iff.mp held
  have leads := books.placements index placement object canvas record present pointed placed pointer
  have handle : placementRecordCanvasId state.world.store index = placement.canvasId := by
    simp [placementRecordCanvasId, present]
  have found : canvasFor state.world.store placement.canvasId username = some record :=
    canvasFor_of_leads books.custody.books.gone
      (fun other again => books.once other record _ again leads) leads pointer waits
  cases goesOn with
  | waited passed =>
    rename_i reached user
    have waited := books.waiting thread client reached user resume working
    have same : resume.canvasId state.world.store = placement.canvasId := by
      cases resume with
      | move move other =>
        simp only [Resume.passes, List.mem_singleton, RecordAddress.placement.injEq] at passes
        rw [← passes] at *
        exact handle
      | setParams other vx vy ax ay =>
        simp only [Resume.passes, List.mem_singleton, RecordAddress.placement.injEq] at passes
        rw [← passes] at *
        exact handle
      | _ => simp [Resume.passes] at passes
    rw [same] at waited
    exact congrArg some (books.once reached record _ waited leads)
  | place found held free => simp [Resume.passes] at passes
  | generate found free => simp [Resume.passes] at passes
  | _ =>
    obtain rfl : (state.sessions client).username = username := requested
    show canvasFor _ (placementRecordCanvasId _ index) _ = some record
    rw [handle]
    exact found

end Books

/-! ## Runs -/

/-- In every run, no request touches a canvas at which its user waits exactly if no placement on such
a canvas is destroyed, no frame of it is rendered, and no operation on a placement has waited for
another canvas instead. The last needs a handle that was given to two canvases. -/
theorem waiting_users_spared_iff (auth : AuthDb) (labels : List RpcLabel) :
    ((rpcMachine auth).EveryStep (SparesWaiting auth) {} labels ↔
      (rpcMachine auth).EveryStep
        (fun state label => PassesNobody state label ∧ WaitsThere state label) {} labels) ∧
    ((rpcMachine auth).EveryStep CanvasHandlesFresh {} labels →
      (rpcMachine auth).EveryStep WaitsThere {} labels) := by
  have exactly : ∀ state label next, UserBooks state → (rpcMachine auth).step state label = some next →
      (SparesWaiting auth state label ↔ PassesNobody state label ∧ WaitsThere state label) :=
    fun state label _ books _ => sparesWaiting_iff books
  refine ⟨⟨fun spares => ?_, fun guarded => ?_⟩, fun fresh => ?_⟩
  · exact Machine.everyStep_mono
      (fun state label next books met step => (exactly state label next books step).mp met)
      (fun _ _ _ books _ step => books.kept step) userBooks_initial spares
  · exact Machine.everyStep_mono
      (fun state label next books met step => (exactly state label next books step).mpr met)
      (fun _ _ _ books _ step => books.kept step) userBooks_initial guarded
  · exact Machine.everyStep_mono (fun _ _ _ books _ _ => books.waitsThere)
      (fun _ _ _ books met step => books.kept met step) handleBooks_initial fresh

/-- Ann places a sprite on the canvas that she shares with Bob. -/
def annPlaces : List RpcLabel :=
  annAndBobConnected ++ handled 0 0 "create_rectangle 1 1 0 0\n" 2 ++
  handled 0 0 "place_sprite 1 2 0 0\n" 3

/-- She waits at the barrier, and another worker takes up her next request. -/
def annWaitsAndDestroys : List RpcLabel :=
  annPlaces ++ [.request 0 0 (bytes "barrier 1\n"), .step 0 {}, .step 0 {},
    .request 2 0 (bytes "destroy_placement 3\n"), .step 2 {}]

/-- She waits at the barrier while another worker renders two frames for her. -/
def annWaitsAndGenerates : List RpcLabel :=
  annPlaces ++ [.request 2 0 (bytes "generate 1 film 0 1 25\n"), .step 2 {}, .step 2 {}, .step 2 {},
    .request 0 0 (bytes "barrier 1\n"), .step 0 {}, .step 0 {}]

/-- Her placement is destroyed, and the second frame is rendered, while she waits. -/
theorem waiting_users_spared_false :
    ¬ (rpcMachine twoUsers).EveryStep (SparesWaiting twoUsers) {}
      (annWaitsAndDestroys ++ [.step 2 {}]) ∧
    ¬ (rpcMachine twoUsers).EveryStep (SparesWaiting twoUsers) {}
      (annWaitsAndGenerates ++ [.step 2 {}]) := by
  constructor
  · intro spares
    have ends : ∃ state next, (rpcMachine twoUsers).run {} annWaitsAndDestroys = some state ∧
        (rpcMachine twoUsers).step state (.step 2 {}) = some next ∧
        state.threads 2 = some ⟨0, .locking (.destroyPlacement 3)⟩ ∧
        (advance twoUsers {} (state.sessions 0) state.world
          (.locking (.destroyPlacement 3))).2.1.library.calls =
            [.destroyPlacement 2] ++ state.world.library.calls ∧
        .placeSprite (some 0) (some 1) 0 0 (some 2) ∈ state.world.library.calls ∧
        canvasRecordPtr state.world.store 0 = some 0 ∧
        (state.sessions 0).username = bytes "ann" ∧
        state.world.store.WaitsAt (bytes "ann") 0 :=
      ⟨_, _, rfl, rfl, rfl, rfl, by decide, rfl, rfl, 0, ⟨_, rfl, rfl⟩, rfl⟩
    obtain ⟨state, next, ran, step, working, logged, placed, pointer, ann, waits⟩ := ends
    have touches : (Call.destroyPlacement 2).Touches state.world.library.calls 0 :=
      .placement rfl ⟨_, _, _, placed⟩
    exact spares.at ran step 2 {} 0 _ _ _ 0 0 (bytes "ann") rfl working logged
      (List.mem_singleton_self _) touches pointer ann waits
  · intro spares
    have ends : ∃ state next, (rpcMachine twoUsers).run {} annWaitsAndGenerates = some state ∧
        (rpcMachine twoUsers).step state (.step 2 {}) = some next ∧
        state.threads 2 = some ⟨0, .frame ⟨1, bytes "film", 0, 1, 25⟩ 1⟩ ∧
        (advance twoUsers {} (state.sessions 0) state.world
          (.frame ⟨1, bytes "film", 0, 1, 25⟩ 1)).2.1.library.calls =
            [.generateFrame (some 0) 1 25] ++ state.world.library.calls ∧
        canvasRecordPtr state.world.store 0 = some 0 ∧
        (state.sessions 0).username = bytes "ann" ∧
        state.world.store.WaitsAt (bytes "ann") 0 :=
      ⟨_, _, rfl, rfl, rfl, rfl, rfl, rfl, 0, ⟨_, rfl, rfl⟩, rfl⟩
    obtain ⟨state, next, ran, step, working, logged, pointer, ann, waits⟩ := ends
    exact spares.at ran step 2 {} 0 _ _ _ 0 0 (bytes "ann") rfl working logged
      (List.mem_singleton_self _) (.frame 1 25) pointer ann waits

end AnimateService
