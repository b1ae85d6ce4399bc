import AnimateService.Exhaustion
import AnimateService.HandleMap
import AnimateService.Operations
import AnimateService.Placements

/-!
# The server answers by the book

A section of a request is one operation on the handle store. So in every interleaving the operations
in the order of their sections make a book of handles, and what a request is answered in a section
follows from the book alone: it is refused exactly if the book does not admit its user, and a new
handle is the number of the handles so far.
-/
namespace AnimateService

open Transition

/-! ## What the book answers -/

/-- The operation that a step of a thread performs. -/
def RpcState.performed (state : RpcState) : RpcLabel → List StoreOperation
  | .step thread answers =>
    ((state.threads thread).bind fun work =>
      work.pc.operation answers (state.sessions work.client) state.world.store).toList
  | _ => []

/-- The user may use the canvas of a handle. -/
def HandleBook.grantsCanvas (book : HandleBook) (username : Bytes) (id : UInt64) : Bool :=
  (book.canvases id).any fun entry => entry.admits username

/-- The user may use the sprite of a handle. -/
def HandleBook.grantsSprite (book : HandleBook) (username : Bytes) (id : UInt64) : Bool :=
  (book.sprites id).any fun entry => entry.admits username

/-- The user may use the placement of a handle. -/
def HandleBook.grantsPlacement (book : HandleBook) (username : Bytes) (id : UInt64) : Bool :=
  (book.placements id).any fun entry => entry.admits username

/-- The user may use what a command names. -/
def HandleBook.grants (book : HandleBook) (username : Bytes) : StoreCommand → Bool
  | .destroyCanvas id | .shareCanvas id _ | .barrier id => book.grantsCanvas username id
  | .destroySprite id => book.grantsSprite username id
  | .placeSprite canvasId spriteId _ _ =>
    book.grantsCanvas username canvasId && book.grantsSprite username spriteId
  | .movePlacement _ id | .destroyPlacement id | .setAnimationParams id _ _ _ _ =>
    book.grantsPlacement username id
  | .generate job => book.grantsCanvas username job.canvasId

/-- What a command that is granted is answered in its first section, unless it goes on. -/
def HandleBook.granted (book : HandleBook) (answers : Answers) : StoreCommand → Option Bytes
  | .destroyCanvas _ | .destroyPlacement _ => some (responseCode 0)
  | .destroySprite _ => some (responseU64 (if answers.spriteFails then 1 else 0))
  | .shareCanvas id target =>
    some (responseCode (if answers.memory ∨ (book.canvases id).any fun entry => target ∈ entry.members
      then 0 else rpcInternal))
  | _ => none

/-- What a section is answered by a store with a book, unless the request goes on. -/
def BookedStore.answer (state : BookedStore) (answers : Answers) (username : Bytes) :
    Pc → Option Bytes
  | .locking command =>
    if state.book.grants username command then state.book.granted answers command
    else some (responseCode rpcValue)
  | .frame job _ =>
    if state.book.grantsCanvas username job.canvasId then none else some (responseCode rpcValue)
  | .addCanvas _ _ _ | .addSprite _ | .addPlacement _ _ _ =>
    some (if answers.memory then responseU64 (UInt64.ofNat (state.returned.length + 1))
      else responseCode rpcInternal)
  | _ => none

/-- The place is a section under the store's mutex that the book answers. -/
def Pc.isSection : Pc → Bool
  | .locking _ | .frame _ _ | .addCanvas _ _ _ | .addSprite _ | .addPlacement _ _ _ => true
  | _ => false

/-- Where a request is that follows an answer: finished with it, or not refused. -/
def Pc.Follows (pc : Pc) : Option Bytes → Prop
  | some text => pc = .finished (some text)
  | none => pc ≠ .finished (some (responseCode rpcValue))

/-! ## Lookups -/

section Sections

variable {auth : AuthDb} {answers : Answers} {session : Session} {world : World}
  {booked : BookedStore} {username : Bytes} {id : UInt64}

/-- A canvas is found exactly if the book grants it. -/
theorem BookedStore.Keeps.canvasFor_isSome (keeps : booked.Keeps) :
    (canvasFor booked.store id username).isSome = booked.book.grantsCanvas username id := by
  rw [Bool.eq_iff_iff, Option.isSome_iff_exists, HandleBook.grantsCanvas, Option.any_eq_true]
  constructor
  · rintro ⟨record, found⟩
    obtain ⟨entry, known, admitted, -⟩ := keeps.canvasFor_iff.mp found
    exact ⟨entry, known, admitted⟩
  · rintro ⟨entry, known, admitted⟩
    exact ⟨_, keeps.canvasFor_iff.mpr ⟨entry, known, admitted, rfl⟩⟩

/-- A sprite is found exactly if the book grants it. -/
theorem BookedStore.Keeps.handlesGetSprite_isSome (keeps : booked.Keeps) :
    (handlesGetSprite booked.store id username).isSome = booked.book.grantsSprite username id := by
  rw [Bool.eq_iff_iff, Option.isSome_iff_exists, HandleBook.grantsSprite, Option.any_eq_true]
  constructor
  · rintro ⟨record, found⟩
    obtain ⟨entry, known, admitted, -⟩ := keeps.handlesGetSprite_iff.mp found
    exact ⟨entry, known, admitted⟩
  · rintro ⟨entry, known, admitted⟩
    exact ⟨_, keeps.handlesGetSprite_iff.mpr ⟨entry, known, admitted, rfl⟩⟩

/-- A placement is found exactly if the book grants it. -/
theorem BookedStore.Keeps.handlesGetPlacement_isSome (keeps : booked.Keeps) :
    (handlesGetPlacement booked.store id username).isSome =
      booked.book.grantsPlacement username id := by
  rw [Bool.eq_iff_iff, Option.isSome_iff_exists, HandleBook.grantsPlacement, Option.any_eq_true]
  constructor
  · rintro ⟨record, found⟩
    obtain ⟨entry, known, admitted, -⟩ := keeps.handlesGetPlacement_iff.mp found
    exact ⟨entry, known, admitted⟩
  · rintro ⟨entry, known, admitted⟩
    exact ⟨_, keeps.handlesGetPlacement_iff.mpr ⟨entry, known, admitted, rfl⟩⟩

/-- A lookup of a canvas does not change what sprites are found. -/
theorem handlesGetSprite_updateCanvas (store : HandleStore) (record : CanvasPtr)
    (write : CanvasRecord → CanvasRecord) (id : UInt64) (username : Bytes) :
    handlesGetSprite (store.updateCanvas record write) id username =
      handlesGetSprite store id username := rfl

/-! ## What a section answers -/

/-- A response that begins with a zero is not the value error. -/
theorem finished_ne_value {text : Bytes} (zero : text.head? = some 48) :
    Pc.finished (some text) ≠ .finished (some (responseCode rpcValue)) := by
  intro same
  cases same
  cases zero

/-- Behind its wait an operation is not refused. -/
theorem resumeAfterWait_not_refused (replied : answers.replied = true) (resume : Resume) :
    (resumeAfterWait answers world resume).2 ≠ .finished (some (responseCode rpcValue)) := by
  have internal : answers.reply (responseCode rpcInternal) ≠
      .finished (some (responseCode rpcValue)) := by
    rw [Answers.reply, if_pos replied]
    decide
  have success : answers.reply (responseCode 0) ≠ .finished (some (responseCode rpcValue)) := by
    rw [Answers.reply, if_pos replied]
    decide
  have failed : answers.reply (responseGenerate (-1) 0) ≠
      .finished (some (responseCode rpcValue)) := by
    rw [Answers.reply, if_pos replied]
    decide
  cases resume with
  | place canvas sprite canvasId spriteId x y =>
    simp only [resumeAfterWait]
    split
    · rintro ⟨⟩
    · exact internal
  | move move placement => exact success
  | setParams placement vx vy ax ay => exact success
  | generate canvas job =>
    simp only [resumeAfterWait]
    split
    · split
      · rintro ⟨⟩
      · exact failed
    · exact internal

/-- A canvas operation that may have to wait is not refused. -/
theorem waitThenResume_not_refused (replied : answers.replied = true) (record : CanvasPtr)
    (resume : Resume) : (waitThenResume answers world record username resume).2 ≠
      .finished (some (responseCode rpcValue)) := by
  unfold waitThenResume
  split
  · rintro ⟨⟩
  · exact resumeAfterWait_not_refused replied resume

/-- An operation on a placement that was found is not refused. -/
theorem throughPlacement_not_refused (replied : answers.replied = true) (placement : Nat)
    (resume : Resume) : (throughPlacement answers world username placement resume).2 ≠
      .finished (some (responseCode rpcValue)) := by
  unfold throughPlacement
  split
  · exact waitThenResume_not_refused replied _ resume
  · exact resumeAfterWait_not_refused replied resume

/-- Sharing a canvas that is found needs memory, unless the target is a member. -/
theorem BookedStore.Keeps.shareSection_code (keeps : booked.Keeps) (target : Bytes) (memory : Bool)
    (granted : booked.book.grantsCanvas username id = true) :
    (shareSection booked.store id username target memory).1 =
      some (if memory = true ∨ (booked.book.canvases id).any fun entry => target ∈ entry.members
        then 0 else -1) := by
  obtain ⟨entry, known, admitted⟩ := Option.any_eq_true _ _ |>.mp granted
  obtain ⟨index, canvas, present, keyed, described⟩ := keeps.canvases.node_of_entry known
  have found := keeps.canvasFor_iff.mpr ⟨entry, known, admitted, described.record_eq⟩
  have there : (booked.store.canvases.modify index fun canvas => canvas.connect username)[index]? =
      some (canvas.connect username) := by
    rw [List.getElem?_modify_eq, present]
    rfl
  have member : (findSharedUser (canvas.connect username) target).isSome = true ↔
      target ∈ entry.members := by
    rw [findSharedUser_isSome, names_connect]
    exact (described.members target).symm
  simp only [shareSection, handlesGetCanvas_some found, HandleStore.updateCanvas, there,
    Option.map_some, known, Option.any_some, decide_eq_true_eq]
  refine congrArg some ?_
  unfold canvasRecordShare
  split
  · rename_i user inside
    rw [if_pos (.inr (member.mp (inside ▸ rfl)))]
  · rename_i outside
    have apart : target ∉ entry.members := fun inside => by
      simp [outside] at member
      exact member inside
    cases memory <;> simp [apart]

/-- A section that finds a record exactly if the book grants it is refused or goes on. -/
theorem follows_lookup {Record : Type} {found : Option Record} {granted : Bool}
    (same : found.isSome = granted) {pc : Pc} {answer : Option Bytes}
    (missing : found = none → pc = .finished (some (responseCode rpcValue)))
    (there : ∀ record, found = some record → pc.Follows answer) :
    pc.Follows (if granted then answer else some (responseCode rpcValue)) := by
  subst same
  cases found with
  | none => exact missing rfl
  | some record => exact there record rfl

/-- The first section of a command is answered as the book says. -/
theorem BookedStore.Keeps.lockedSection_follows (keeps : booked.Keeps)
    (replied : answers.replied = true) (held : booked.store = world.store)
    (command : StoreCommand) :
    (lockedSection answers session world command).2.Follows
      (booked.answer answers session.username (.locking command)) := by
  have reply : ∀ text, answers.reply text = .finished (some text) := by
    intro text
    rw [Answers.reply, if_pos replied]
  have canvas := fun id => @BookedStore.Keeps.canvasFor_isSome booked session.username id keeps
  have sprite := fun id => @BookedStore.Keeps.handlesGetSprite_isSome booked session.username id keeps
  have placement :=
    fun id => @BookedStore.Keeps.handlesGetPlacement_isSome booked session.username id keeps
  have shared := fun id target => @BookedStore.Keeps.shareSection_code booked session.username id keeps
    target answers.memory
  rw [held] at canvas sprite placement shared
  cases command with
  | destroyCanvas id =>
    refine follows_lookup (canvas id) (fun missing => ?_) fun record found => ?_
    · simp [lockedSection, handlesDestroyCanvasForUser, handlesGetCanvas_none missing, reply]
    · simp [lockedSection, handlesDestroyCanvasForUser, handlesGetCanvas_some found, reply,
        Pc.Follows, HandleBook.granted]
  | destroySprite id =>
    refine follows_lookup (sprite id) (fun missing => ?_) fun record found => ?_
    · simp [lockedSection, handlesDestroySprite, missing, reply]
    · obtain ⟨entry, -, -, -, pointer⟩ := (keeps.isMap.sprites _ _ _).mp (held ▸ found)
      rw [held] at pointer
      simp only [lockedSection, handlesDestroySprite, found, pointer, reply]
      cases fails : answers.spriteFails <;> simp [Pc.Follows, HandleBook.granted, fails]
  | destroyPlacement id =>
    refine follows_lookup (placement id) (fun missing => ?_) fun record found => ?_
    · simp [lockedSection, handlesDestroyPlacement, missing, reply]
    · simp [lockedSection, handlesDestroyPlacement, found, reply, Pc.Follows, HandleBook.granted]
  | placeSprite canvasId spriteId x y =>
    have both : ((canvasFor world.store canvasId session.username).bind fun canvas =>
        (handlesGetSprite world.store spriteId session.username).map (canvas, ·)).isSome =
        booked.book.grants session.username (.placeSprite canvasId spriteId x y) := by
      rw [HandleBook.grants, ← canvas, ← sprite]
      cases canvasFor world.store canvasId session.username <;> simp
    refine follows_lookup both (fun missing => ?_) fun records found => ?_
    · cases there : canvasFor world.store canvasId session.username with
      | none => simp [lockedSection, handlesGetCanvas_none there, reply]
      | some record =>
        rw [there, Option.bind_some, Option.map_eq_none_iff] at missing
        simp [lockedSection, handlesGetCanvas_some there, handlesGetSprite_updateCanvas, missing, reply]
    · obtain ⟨record, there, made⟩ := Option.bind_eq_some_iff.mp found
      obtain ⟨sprite, here, -⟩ := Option.map_eq_some_iff.mp made
      simp only [lockedSection, handlesGetCanvas_some there, handlesGetSprite_updateCanvas, here]
      exact waitThenResume_not_refused replied record _
  | movePlacement move id =>
    refine follows_lookup (placement id) (fun missing => ?_) fun record found => ?_
    · simp [lockedSection, missing, reply]
    · simp only [lockedSection, found]
      exact throughPlacement_not_refused replied record _
  | setAnimationParams id vx vy ax ay =>
    refine follows_lookup (placement id) (fun missing => ?_) fun record found => ?_
    · simp [lockedSection, missing, reply]
    · simp only [lockedSection, found]
      exact throughPlacement_not_refused replied record _
  | shareCanvas id target =>
    refine follows_lookup (canvas id) (fun missing => ?_) fun record found => ?_
    · simp [lockedSection, shareSection, handlesGetCanvas_none missing, reply]
    · have code := shared id target ((canvas id).symm.trans (found ▸ rfl))
      simp only [lockedSection, code, reply, Pc.Follows, HandleBook.granted]
      split <;> rfl
  | barrier id =>
    refine follows_lookup (canvas id) (fun missing => ?_) fun record found => ?_
    · simp [lockedSection, barrierSection, handlesGetCanvas_none missing, reply]
    · obtain ⟨present, user, -, -, ⟨-, entered⟩ | ⟨-, entered⟩⟩ := barrierSection_some found
      · simp only [lockedSection, entered, reply]
        exact finished_ne_value rfl
      · simp only [lockedSection, entered]
        rintro ⟨⟩
  | generate job =>
    refine follows_lookup (canvas job.canvasId) (fun missing => ?_) fun record found => ?_
    · simp [lockedSection, handlesGetCanvas_none missing, reply]
    · simp only [lockedSection, handlesGetCanvas_some found]
      exact waitThenResume_not_refused replied record _

/-- A frame of `handle_generate` is made if the book grants the canvas. -/
theorem BookedStore.Keeps.generateFrame_follows (keeps : booked.Keeps)
    (replied : answers.replied = true) (held : booked.store = world.store) (job : GenerateJob)
    (frame : UInt64) :
    (generateFrame answers session world job frame).2.Follows
      (booked.answer answers session.username (.frame job frame)) := by
  have canvas := @BookedStore.Keeps.canvasFor_isSome booked session.username job.canvasId keeps
  rw [held] at canvas
  have made : ∀ movie : Int, movie = 0 ∨ movie = -1 → ∀ dat : Int, dat = 0 ∨ dat = -1 →
      (answers.reply (responseGenerate dat movie)).Follows none := by
    rintro movie (rfl | rfl) dat (rfl | rfl) <;>
      rw [Answers.reply, if_pos replied] <;> exact finished_ne_value rfl
  refine follows_lookup canvas (fun missing => ?_) fun record found => ?_
  · simp [generateFrame, handlesGetCanvas_none missing, Answers.reply, replied]
  · simp only [generateFrame, handlesGetCanvas_some found, finishGenerate]
    split
    · split
      · rintro ⟨⟩
      · split
        · split
          · exact made 0 (.inl rfl) 0 (.inl rfl)
          · exact made (-1) (.inr rfl) 0 (.inl rfl)
        · exact made 0 (.inl rfl) (-1) (.inr rfl)
    · exact made 0 (.inl rfl) (-1) (.inr rfl)

/-- The counter is the number of the next handle. -/
theorem BookedStore.Keeps.nextId_eq (keeps : booked.Keeps) :
    booked.store.nextId = UInt64.ofNat (booked.returned.length + 1) := by
  rw [← keeps.counter, UInt64.ofNat_toNat]

/-- An addition is answered with the next handle, if there is memory for the record. -/
theorem BookedStore.Keeps.answerHandle_follows (keeps : booked.Keeps)
    (replied : answers.replied = true) (undo : Call) {id : UInt64}
    (added : id = if answers.memory then booked.store.nextId else invalidHandle) :
    (answerHandle answers world id undo).2.Follows
      (some (if answers.memory then responseU64 (UInt64.ofNat (booked.returned.length + 1))
        else responseCode rpcInternal)) := by
  have valid : booked.store.nextId ≠ invalidHandle := by
    intro wrapped
    have handle := keeps.handle
    rw [wrapped] at handle
    cases handle
  rw [← keeps.nextId_eq]
  cases memory : answers.memory with
  | false =>
    rw [memory] at added
    simp [answerHandle, added, Answers.reply, replied, Pc.Follows]
  | true =>
    rw [memory] at added
    simp [answerHandle, added, valid, Answers.reply, replied, Pc.Follows]

/-- Every section is answered as the book says. -/
theorem BookedStore.Keeps.advance_follows (auth : AuthDb) (keeps : booked.Keeps)
    (replied : answers.replied = true) (held : booked.store = world.store) {pc : Pc}
    (section_ : pc.isSection = true) :
    (advance auth answers session world pc).2.2.Follows
      (booked.answer answers session.username pc) := by
  cases pc with
  | locking command => exact keeps.lockedSection_follows replied held command
  | frame job frame => exact keeps.generateFrame_follows replied held job frame
  | addCanvas canvas width height =>
    have id : (handlesAddCanvas world.store canvas width height session.username answers.memory).1 =
        if answers.memory then world.store.nextId else invalidHandle := by
      unfold handlesAddCanvas
      split <;> rfl
    exact keeps.answerHandle_follows replied _ (held ▸ id)
  | addSprite sprite =>
    have id : (handlesAddSprite world.store sprite session.username answers.memory).1 =
        if answers.memory then world.store.nextId else invalidHandle := by
      unfold handlesAddSprite
      split <;> rfl
    exact keeps.answerHandle_follows replied _ (held ▸ id)
  | addPlacement placement canvasId spriteId =>
    have id : (handlesAddPlacement world.store placement canvasId spriteId session.username
        answers.memory).1 =
        if answers.memory then world.store.nextId else invalidHandle := by
      unfold handlesAddPlacement
      split <;> rfl
    exact keeps.answerHandle_follows replied _ (held ▸ id)
  | _ => cases section_

end Sections

/-! ## Runs -/

section Runs

variable {auth : AuthDb} {answers : Answers} {session : Session} {world : World}

/-- The place shares a canvas only with a user whose name fits its buffer. -/
def Pc.TargetFits (pc : Pc) : Prop :=
  ∀ id target, pc = .locking (.shareCanvas id target) → target.length ≤ maxUsernameLen

/-- A place at work shares a canvas only with a user whose name fits. -/
theorem Pc.Working.targetFits {pc : Pc} (working : pc.Working) : pc.TargetFits := by
  rintro id target rfl
  exact authValidUsername_length working

/-- A place that shares no canvas has no name that does not fit. -/
theorem Pc.targetFits_of_apart {pc : Pc} (apart : ∀ command, pc ≠ .locking command) : pc.TargetFits :=
  fun _ _ same => absurd same (apart _)

/-- The first step of a request keeps the session formed. -/
theorem StartOutcome.formed {line : Bytes} {result : Session × World × Pc}
    (outcome : StartOutcome auth answers session world line result) (formed : session.Formed) :
    result.1.Formed ∧ result.2.2.TargetFits := by
  cases outcome with
  | login logs named logged =>
    refine ⟨⟨named ▸ authValidUsername_length logs.2.1, ?_⟩, Pc.targetFits_of_apart (by rintro _ ⟨⟩)⟩
    exact iff_of_true logged (named ▸ authValidUsername_ne_nil logs.2.1)
  | answered named logged =>
    refine ⟨⟨named ▸ formed.short, ?_⟩, Pc.targetFits_of_apart (by rintro _ ⟨⟩)⟩
    rw [named, logged]
    exact formed.named
  | disconnect request => exact ⟨formed, Pc.targetFits_of_apart (by rintro _ ⟨⟩)⟩
  | working logged other store working => exact ⟨formed, working.targetFits⟩

/-- A step of a request keeps the session formed and leads to such a place. -/
theorem advance_formed (formed : session.Formed) (pc : Pc) :
    (advance auth answers session world pc).1.Formed ∧
      (pc.TargetFits → (advance auth answers session world pc).2.2.TargetFits) := by
  by_cases working : pc.Working
  · obtain ⟨same, stays⟩ := @advance_working auth answers session world pc working
    exact ⟨same.symm ▸ formed, fun _ => stays.targetFits⟩
  · cases pc with
    | start line =>
      have outcome := (@startRequest_outcome auth answers session world line).formed formed
      exact ⟨outcome.1, fun _ => outcome.2⟩
    | disconnect =>
      simp only [advance]
      split <;> exact ⟨formed, fun _ => Pc.targetFits_of_apart (by rintro _ ⟨⟩)⟩
    | endSession =>
      refine ⟨⟨Nat.zero_le _, ?_⟩, fun _ => Pc.targetFits_of_apart (by rintro _ ⟨⟩)⟩
      exact iff_of_false Bool.false_ne_true (fun some => some rfl)
    | locking command =>
      exact ⟨formed, fun _ => (Pc.working_of_pastLock (lockedSection_pastLock command)).targetFits⟩
    | _ => exact absurd trivial working

/-- An operation of a formed session's request fits. -/
theorem Pc.operation_fits (formed : session.Formed) {pc : Pc} (target_fits : pc.TargetFits)
    {store : HandleStore} {operation : StoreOperation}
    (performs : pc.operation answers session store = some operation) : operation.Fits := by
  have at_place := Pc.operation_performs performs
  cases at_place with
  | addCanvas | addSprite | addPlacement => exact formed.short
  | share id target => exact target_fits id target rfl
  | disconnect =>
    obtain ⟨logged, -⟩ := Option.ite_none_right_eq_some.mp performs
    exact formed.named.mp logged
  | _ => trivial

/-- The sessions are formed and the threads are at such places. -/
structure RpcState.NamesFit (state : RpcState) : Prop where
  /-- The sessions. -/
  formed : ∀ client, (state.sessions client).Formed
  /-- The threads. -/
  targets : ∀ thread client pc, state.threads thread = some ⟨client, pc⟩ → pc.TargetFits

/-- After every step the sessions are formed, and names fit at every place. -/
theorem RpcState.NamesFit.step {state next : RpcState} {label : RpcLabel} (names : state.NamesFit)
    (step : (rpcMachine auth).step state label = some next) : next.NamesFit := by
  constructor
  · intro client
    rcases rpcMachine_cases step with
      ⟨thread, answers, served, pc, rfl, -, -, rfl⟩ | ⟨thread, work, -, rfl, -⟩
    · by_cases own : client = served
      · subst own
        simp only [RpcState.advanceThread, Function.update_self]
        exact (advance_formed (names.formed client) pc).1
      · simp only [RpcState.advanceThread, Function.update_of_ne own]
        exact names.formed client
    · exact names.formed client
  · intro thread client pc there
    rcases rpcMachine_came step there with
      before | ⟨answers, before, -, busy, -, rfl⟩ | ⟨line, rfl⟩ | rfl
    · exact names.targets thread client pc before
    · exact (advance_formed (names.formed client) before).2 (names.targets thread client before busy)
    · exact Pc.targetFits_of_apart (by rintro _ ⟨⟩)
    · exact Pc.targetFits_of_apart (by rintro _ ⟨⟩)

/-- The operations so far make a store with a book that is that of the state. -/
structure RpcState.BookedBy (state : RpcState) (operations : List StoreOperation)
    (booked : BookedStore) : Prop where
  /-- It is made by the operations. -/
  made : storeMachine.run {} operations = some booked
  /-- It is the store of the requests. -/
  held : booked.store = state.world.store
  /-- The book describes it, while handles are left. -/
  keeps : booked.returned.length < 2 ^ 64 - 1 → booked.Keeps

/-- Every step is booked as the operation that it performs. -/
theorem RpcState.BookedBy.step {state next : RpcState} {label : RpcLabel}
    {operations : List StoreOperation} {booked : BookedStore} (names : state.NamesFit)
    (by_ : state.BookedBy operations booked)
    (step : (rpcMachine auth).step state label = some next) :
    ∃ after, next.BookedBy (operations ++ state.performed label) after := by
  rcases rpcMachine_cases step with
    ⟨thread, answers, client, pc, rfl, working, -, rfl⟩ | ⟨thread, work, other, rfl, -⟩
  · have store := @advance_operation auth answers (state.sessions client) state.world pc
    cases performs : pc.operation answers (state.sessions client) state.world.store with
    | none =>
      refine ⟨booked, ?_, ?_, by_.keeps⟩
      · simpa [RpcState.performed, working, performs] using by_.made
      · rw [performs] at store
        exact by_.held.trans store.symm
    | some operation =>
      have fits := Pc.operation_fits (names.formed client) (names.targets _ _ _ working) performs
      rw [performs] at store
      refine ⟨{
        store := (operation.perform booked.store).2
        book := booked.book.follow (operation.perform booked.store).1 operation
        returned := booked.returned ++ (operation.perform booked.store).1.toList }, ?_, ?_, ?_⟩
      · simp only [RpcState.performed, working, Option.bind_some, performs, Option.toList_some]
        exact Machine.run_concat by_.made rfl
      · exact (congrArg (fun store => (operation.perform store).2) by_.held).trans store.symm
      · intro room
        refine (by_.keeps ?_).perform_fitting fits room
        rw [List.length_append] at room
        omega
  · have nothing : state.performed label = [] := by
      cases label with
      | step thread answers => exact absurd rfl (other thread answers)
      | _ => rfl
    rw [nothing, List.append_nil]
    exact ⟨booked, by_.made, by_.held, by_.keeps⟩

/-- The server answers by the book. In every run of requests of any clients on any threads, with
fewer than 2⁶⁴ - 1 additions, the operations in the order of their sections make the store and a book
of it. The store is the map that the book says, and the next section of every thread is answered as
the book says. -/
theorem requests_follow_book {labels : List RpcLabel} {state : RpcState}
    (few : (((rpcMachine auth).observed RpcState.performed {} labels).filter
      StoreOperation.isAddition).length < 2 ^ 64 - 1)
    (ran : (rpcMachine auth).run {} labels = some state) :
    ∃ booked, storeMachine.run {} ((rpcMachine auth).observed RpcState.performed {} labels) =
        some booked ∧
      booked.store = state.world.store ∧ booked.IsMap ∧
      ∀ thread client pc answers, state.threads thread = some ⟨client, pc⟩ →
        pc.isSection = true → answers.replied = true →
        (advance auth answers (state.sessions client) state.world pc).2.2.Follows
          (booked.answer answers (state.sessions client).username pc) := by
  have kept : ∀ state label next operations,
      (RpcState.NamesFit state ∧ ∃ booked, state.BookedBy operations booked) →
      (rpcMachine auth).step state label = some next →
      next.NamesFit ∧ ∃ booked, next.BookedBy (operations ++ state.performed label) booked := by
    rintro state label next operations ⟨names, booked, by_⟩ step
    exact ⟨names.step step, by_.step names step⟩
  have initially : RpcState.NamesFit {} ∧ ∃ booked, RpcState.BookedBy {} [] booked := by
    refine ⟨⟨fun _ => ⟨Nat.zero_le _, iff_of_false Bool.false_ne_true fun some => some rfl⟩, ?_⟩,
      {}, rfl, rfl, fun _ => keeps_initial⟩
    rintro thread client pc ⟨⟩
  obtain ⟨-, booked, by_⟩ := Machine.run_observed kept initially ran
  have returned := storeMachine_returned by_.made
  have keeps := by_.keeps (Nat.lt_of_le_of_lt returned (by simpa using few))
  exact ⟨booked, by_.made, by_.held, keeps.isMap, fun thread client pc answers _ section_ replied =>
    keeps.advance_follows auth replied by_.held section_⟩

end Runs

/-- Ann has a canvas, and bob asks for its destruction while she does. -/
def bothDestroy : List RpcLabel :=
  handled 0 0 "Login ann\n" 1 ++ handled 0 0 "create_canvas 1 1 0\n" 2 ++
  handled 1 1 "Login bob\n" 1 ++ [.request 0 0 (bytes "destroy_canvas 1\n"),
    .request 1 1 (bytes "destroy_canvas 1\n"), .step 1 {}, .step 0 {}]

/-- Her request succeeds and his is refused, whichever comes next. -/
theorem requests_follow_book_bothDestroy : ∃ state,
    (rpcMachine annAndBob).run {} bothDestroy = some state ∧
      (advance annAndBob {} (state.sessions 0) state.world (.locking (.destroyCanvas 1))).2.2 =
        .finished (some (responseCode 0)) ∧
      (advance annAndBob {} (state.sessions 1) state.world (.locking (.destroyCanvas 1))).2.2 =
        .finished (some (responseCode rpcValue)) := by
  have ends : ∃ state, (rpcMachine annAndBob).run {} bothDestroy = some state ∧
      state.threads 0 = some ⟨0, .locking (.destroyCanvas 1)⟩ ∧
      state.threads 1 = some ⟨1, .locking (.destroyCanvas 1)⟩ ∧
      (state.sessions 0).username = bytes "ann" ∧ (state.sessions 1).username = bytes "bob" :=
    ⟨_, rfl, rfl, rfl, rfl, rfl⟩
  obtain ⟨state, ran, ann, bob, asAnn, asBob⟩ := ends
  obtain ⟨booked, made, -, -, answered⟩ := requests_follow_book (by decide) ran
  have answers : ((storeMachine.run {} ((rpcMachine annAndBob).observed RpcState.performed {}
      bothDestroy)).map fun booked =>
        (booked.answer {} (bytes "ann") (.locking (.destroyCanvas 1)),
          booked.answer {} (bytes "bob") (.locking (.destroyCanvas 1)))) =
      some (some (responseCode 0), some (responseCode rpcValue)) := by decide
  rw [made] at answers
  obtain ⟨first, second⟩ := Prod.mk.inj (Option.some.inj answers)
  have hers := answered 0 0 _ {} ann rfl rfl
  have his := answered 1 1 _ {} bob rfl rfl
  rw [asAnn, first] at hers
  rw [asBob, second] at his
  exact ⟨state, ran, hers, his⟩

end AnimateService
