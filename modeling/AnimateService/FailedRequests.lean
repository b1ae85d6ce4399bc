import AnimateService.AccessControl
import AnimateService.Library.Registry

/-!
# Failed requests

A request that is answered with an error code leaves the store as it was, except that a lookup
connects its user to the canvas it finds: `place_sprite`, `share_canvas` and `generate` look their
canvas up before they fail for another reason. `Pc.SoFar` is what a request has done to the store
on its way, from which every error exit follows.
-/
namespace AnimateService

open LinkedList Registry Transition

/-- The response is an error code. -/
def IsFailure (response : Option Bytes) : Prop :=
  ∃ code ∈ [rpcFail, rpcValue, rpcInternal], response = some (responseCode code)

/-- The canvas that a command looks up before it can fail for another reason. -/
def StoreCommand.looksUp : StoreCommand → Option UInt64
  | .placeSprite canvasId _ _ _ | .shareCanvas canvasId _ => some canvasId
  | .generate job => some job.canvasId
  | _ => none

/-- Nothing happened to the store but the lookup of the line's command. -/
def OnlyLookedUp (auth : AuthDb) (line user : Bytes) (before after : HandleStore) : Prop :=
  after = before ∨ ∃ command id, commandOf auth line = some (.store command) ∧
    command.looksUp = some id ∧ after = (handlesGetCanvas before id user).2

/-- What the rest of a canvas operation relies on. -/
def Resume.SoFar (auth : AuthDb) (line user : Bytes) (before store : HandleStore) : Resume → Prop
  | .place _ _ _ _ _ _ => OnlyLookedUp auth line user before store
  | .move _ _ | .setParams _ _ _ _ _ => True
  | .generate _ job => commandOf auth line = some (.store (.generate job)) ∧
    store = (handlesGetCanvas before job.canvasId user).2

/-- What a request has done to the store, as far as it can still fail. -/
def Pc.SoFar (auth : AuthDb) (line user : Bytes) (before store : HandleStore) : Pc → Prop
  | .canvasWait _ _ resume => resume.SoFar auth line user before store
  | .addPlacement _ _ _ => OnlyLookedUp auth line user before store
  | .frame job _ => commandOf auth line = some (.store (.generate job)) ∧
    store = (handlesGetCanvas before job.canvasId user).2
  | .barrierWait _ _ | .endSession => True
  | .finished response => IsFailure response → OnlyLookedUp auth line user before store
  | _ => store = before

/-! ## Responses that are no failures -/

/-- An error code is a negative number. -/
theorem IsFailure.head {response : Option Bytes} (failure : IsFailure response) :
    ∃ text, response = some text ∧ text.head? = some 45 := by
  obtain ⟨code, among, rfl⟩ := failure
  refine ⟨_, rfl, ?_⟩
  simp only [List.mem_cons, List.not_mem_nil, or_false] at among
  rcases among with rfl | rfl | rfl <;> rfl

/-- What begins with a zero is no failure. -/
theorem not_failure {answers : Answers} {text : Bytes} (zero : text.head? = some 48) :
    ¬ IsFailure (if answers.replied then some text else none) := by
  intro failure
  obtain ⟨found, same, minus⟩ := failure.head
  split at same
  · cases same
    rw [zero] at minus
    cases minus
  · cases same

section Steps

variable {auth : AuthDb} {answers : Answers} {session : Session} {world : World} {pc : Pc}
  {line user : Bytes} {before store : HandleStore}

/-- A response that begins with a zero asks for nothing. -/
theorem soFar_success {text : Bytes} (zero : text.head? = some 48) :
    (answers.reply text).SoFar auth line user before store :=
  fun failure => absurd failure (not_failure zero)

/-- A response after a lookup alone is fine whatever it says. -/
theorem soFar_reply {text : Bytes} (looked : OnlyLookedUp auth line user before store) :
    (answers.reply text).SoFar auth line user before store := fun _ => looked

/-! ## Lookups -/

/-- Connecting a member twice is connecting it once. -/
theorem connect_connect (canvas : CanvasRecord) (name : Bytes) :
    (canvas.connect name).connect name = canvas.connect name := by
  cases found : findSharedUser canvas name with
  | none => simp [CanvasRecord.connect, found]
  | some index =>
    have again : findSharedUser (canvas.connect name) name = some index := by
      rw [findSharedUser_connect, found]
    rw [CanvasRecord.connect, again]
    simp only [CanvasRecord.connect, found, CanvasRecord.updateUser]
    congr 1
    apply List.ext_getElem?
    intro other
    simp only [List.getElem?_modify]
    by_cases here : index = other
    · cases canvas.users[other]? <;> simp [here]
    · simp [here]

/-- A connected canvas answers as before. -/
theorem answers_connect (canvas : CanvasRecord) (name : Bytes) (id : UInt64) :
    (canvas.connect name).answers id name = canvas.answers id name := by
  simp only [CanvasRecord.answers, findSharedUser_connect, (connect_object _ _).1]
  unfold CanvasRecord.connect
  split <;> rfl

/-- A lookup is repeated without effect. -/
theorem handlesGetCanvas_again (store : HandleStore) (id : UInt64) (name : Bytes) :
    (handlesGetCanvas (handlesGetCanvas store id name).2 id name).2 =
      (handlesGetCanvas store id name).2 := by
  cases found : canvasFor store id name with
  | none => rw [handlesGetCanvas_none found, handlesGetCanvas_none found]
  | some record =>
    have again : canvasFor (store.updateCanvas record fun canvas => canvas.connect name) id name =
        some record := by
      have same : (store.updateCanvas record fun canvas => canvas.connect name).canvases.map
          (fun canvas => canvas.answers id name) =
            store.canvases.map fun canvas => canvas.answers id name :=
        map_modify fun canvas _ => answers_connect canvas name id
      rw [← found, canvasFor, canvasFor, newest?_congr same]
    rw [handlesGetCanvas_some found, handlesGetCanvas_some again, updateCanvas_updateCanvas]
    simp only [connect_connect]

/-- Nothing has happened yet. -/
theorem OnlyLookedUp.refl : OnlyLookedUp auth line user before before := .inl rfl

/-- A lookup takes no handle. -/
theorem OnlyLookedUp.nextId (looked : OnlyLookedUp auth line user before store) :
    store.nextId = before.nextId := by
  rcases looked with rfl | ⟨command, id, -, -, rfl⟩
  · rfl
  · unfold handlesGetCanvas
    split <;> rfl

/-! ## Steps -/

/-- Before its first section a request has done nothing. -/
theorem Pc.soFar_of_early (early : pc.isEarly = true) :
    pc.SoFar auth line user before before := by
  cases pc <;> first | cases early; done | rfl | exact fun _ => .refl

/-- A handle that is answered was not refused. -/
theorem answerHandle_soFar {id : UInt64} {undo : Call}
    (refused : id = invalidHandle → OnlyLookedUp auth line user before world.store) :
    (answerHandle answers world id undo).2.SoFar auth line user before
      (answerHandle answers world id undo).1.store := by
  unfold answerHandle
  split
  · rename_i invalid
    exact soFar_reply (refused invalid)
  · exact soFar_success rfl

/-- The rest of a canvas operation fails with nothing done but its lookup. -/
theorem resumeAfterWait_soFar {resume : Resume}
    (soFar : resume.SoFar auth line user before world.store) :
    (resumeAfterWait answers world resume).2.SoFar auth line user before
      (resumeAfterWait answers world resume).1.store := by
  cases resume with
  | place canvas sprite canvasId spriteId x y =>
    simp only [resumeAfterWait]
    split
    · exact soFar
    · exact soFar_reply soFar
  | move move placement => exact soFar_success rfl
  | setParams placement vx vy ax ay => exact soFar_success rfl
  | generate canvas job =>
    simp only [resumeAfterWait]
    split
    · split
      · exact soFar
      · exact soFar_success rfl
    · exact soFar_reply (.inr ⟨.generate job, job.canvasId, soFar.1, rfl, soFar.2⟩)

/-- A canvas operation that may have to wait has done nothing else so far. -/
theorem waitThenResume_soFar {record : CanvasPtr} {name : Bytes} {resume : Resume}
    (soFar : resume.SoFar auth line user before world.store) :
    (waitThenResume answers world record name resume).2.SoFar auth line user before
      (waitThenResume answers world record name resume).1.store := by
  unfold waitThenResume
  split
  · exact soFar
  · exact resumeAfterWait_soFar soFar

/-- An operation on a placement that was found does not fail. -/
theorem throughPlacement_soFar {name : Bytes} {placement : Nat} {resume : Resume}
    (soFar : ∀ store, resume.SoFar auth line user before store) :
    (throughPlacement answers world name placement resume).2.SoFar auth line user before
      (throughPlacement answers world name placement resume).1.store := by
  unfold throughPlacement
  split
  · exact waitThenResume_soFar (soFar _)
  · exact resumeAfterWait_soFar (soFar _)

/-- Without memory sharing adds nobody. -/
theorem canvasRecordShare_refused (canvas : CanvasRecord) (target : Bytes) :
    (canvasRecordShare canvas target false).2 = canvas := by
  unfold canvasRecordShare
  split <;> rfl

/-- With memory sharing succeeds. -/
theorem canvasRecordShare_granted (canvas : CanvasRecord) (target : Bytes) :
    (canvasRecordShare canvas target true).1 = 0 := by
  unfold canvasRecordShare
  split <;> rfl

/-- A write that writes nothing. -/
theorem updateCanvas_id (store : HandleStore) (record : CanvasPtr) :
    (store.updateCanvas record fun canvas => canvas) = store := by
  have same : store.canvases.modify record (fun canvas => canvas) = store.canvases :=
    List.modify_id record store.canvases
  simp only [HandleStore.updateCanvas, same]

/-- The section of a command. -/
theorem lockedSection_soFar {command : StoreCommand}
    (serves : commandOf auth line = some (.store command)) :
    (lockedSection answers session world command).2.SoFar auth line session.username world.store
      (lockedSection answers session world command).1.store := by
  have looked : ∀ id, command.looksUp = some id → OnlyLookedUp auth line session.username world.store
      (handlesGetCanvas world.store id session.username).2 :=
    fun id looks => .inr ⟨command, id, serves, looks, rfl⟩
  cases command with
  | destroyCanvas id =>
    cases found : canvasFor world.store id session.username with
    | none =>
      simp only [lockedSection, handlesDestroyCanvasForUser, handlesGetCanvas_none found]
      exact soFar_reply .refl
    | some record =>
      simp only [lockedSection, handlesDestroyCanvasForUser, handlesGetCanvas_some found]
      exact soFar_success rfl
  | destroySprite id =>
    cases found : handlesGetSprite world.store id session.username with
    | none =>
      simp only [lockedSection, handlesDestroySprite, found]
      exact soFar_reply .refl
    | some record =>
      simp only [lockedSection, handlesDestroySprite, found]
      cases spriteRecordPtr world.store record <;> cases answers.spriteFails <;>
        exact soFar_success rfl
  | destroyPlacement id =>
    cases found : handlesGetPlacement world.store id session.username with
    | none =>
      simp only [lockedSection, handlesDestroyPlacement, found]
      exact soFar_reply .refl
    | some record =>
      simp only [lockedSection, handlesDestroyPlacement, found]
      exact soFar_success rfl
  | placeSprite canvasId spriteId x y =>
    simp only [lockedSection]
    split
    · exact waitThenResume_soFar (looked canvasId rfl)
    · exact soFar_reply (looked canvasId rfl)
  | movePlacement move id =>
    simp only [lockedSection]
    split
    · exact throughPlacement_soFar fun _ => trivial
    · exact soFar_reply .refl
  | setAnimationParams id vx vy ax ay =>
    simp only [lockedSection]
    split
    · exact throughPlacement_soFar fun _ => trivial
    · exact soFar_reply .refl
  | shareCanvas canvasId target =>
    have kept := looked canvasId rfl
    cases found : canvasFor world.store canvasId session.username with
    | none =>
      rw [handlesGetCanvas_none found] at kept
      simp only [lockedSection, shareSection, handlesGetCanvas_none found]
      exact soFar_reply kept
    | some record =>
      rw [handlesGetCanvas_some found] at kept
      simp only [lockedSection, shareSection, handlesGetCanvas_some found]
      cases memory : answers.memory with
      | false =>
        simp only [canvasRecordShare_refused, updateCanvas_id]
        exact soFar_reply kept
      | true =>
        obtain ⟨canvas, index, present, -⟩ := canvasFor_some found
        simp only [canvases_updateCanvas, present, ↓reduceIte, Option.map_some,
          canvasRecordShare_granted]
        exact soFar_success rfl
  | barrier canvasId =>
    cases found : canvasFor world.store canvasId session.username with
    | none =>
      simp only [lockedSection, barrierSection, handlesGetCanvas_none found]
      exact soFar_reply .refl
    | some record =>
      obtain ⟨canvas, index, -, -, ⟨-, result⟩ | ⟨-, result⟩⟩ := barrierSection_some found
      · simp only [lockedSection, result]
        exact soFar_success rfl
      · simp only [lockedSection, result]
        trivial
  | generate job =>
    simp only [lockedSection]
    split
    · rename_i canvas store found
      obtain rfl : store = _ := (congrArg Prod.snd found).symm
      exact waitThenResume_soFar ⟨serves, rfl⟩
    · rename_i store found
      obtain rfl : store = _ := (congrArg Prod.snd found).symm
      exact soFar_reply (looked job.canvasId rfl)

/-- The frame loop looks its canvas up again and again. -/
theorem generateFrame_soFar {job : GenerateJob} {frame : UInt64}
    (serves : commandOf auth line = some (.store (.generate job)))
    (looked : world.store = (handlesGetCanvas before job.canvasId session.username).2) :
    (generateFrame answers session world job frame).2.SoFar auth line session.username before
      (generateFrame answers session world job frame).1.store := by
  have again : (handlesGetCanvas world.store job.canvasId session.username).2 =
      (handlesGetCanvas before job.canvasId session.username).2 := by
    rw [looked, handlesGetCanvas_again]
  have only : OnlyLookedUp auth line session.username before
      (handlesGetCanvas before job.canvasId session.username).2 :=
    .inr ⟨.generate job, job.canvasId, serves, rfl, rfl⟩
  unfold generateFrame
  split
  · rename_i record store found
    obtain rfl : store = _ := (congrArg Prod.snd found).symm
    dsimp only [finishGenerate, World.apply]
    split
    · split
      · exact ⟨serves, again⟩
      · split <;> exact soFar_success rfl
    · exact soFar_success rfl
  · rename_i store found
    obtain rfl : store = _ := (congrArg Prod.snd found).symm
    exact soFar_reply (again ▸ only)

/-- One step of a request, while handles have not run out. -/
theorem advance_soFar (counted : before.nextId ≠ 0) (serves : pc.Serves auth line)
    (soFar : pc.SoFar auth line session.username before world.store) :
    (advance auth answers session world pc).2.2.SoFar auth line session.username before
      (advance auth answers session world pc).2.1.store := by
  cases pc with
  | start text =>
    obtain rfl : world.store = before := soFar
    have kept : (advance auth answers session world (.start text)).2.1.store = world.store :=
      startRequest_store auth answers session world text
    rw [kept]
    exact Pc.soFar_of_early (startRequest_early _)
  | addCanvas canvas width height =>
    obtain rfl : world.store = before := soFar
    refine answerHandle_soFar fun invalid => ?_
    cases memory : answers.memory with
    | false => exact .refl
    | true =>
      rw [memory] at invalid
      exact absurd invalid counted
  | addSprite sprite =>
    obtain rfl : world.store = before := soFar
    refine answerHandle_soFar fun invalid => ?_
    cases memory : answers.memory with
    | false => exact .refl
    | true =>
      rw [memory] at invalid
      exact absurd invalid counted
  | addPlacement placement canvasId spriteId =>
    refine answerHandle_soFar fun invalid => ?_
    cases memory : answers.memory with
    | false => exact soFar
    | true =>
      rw [memory] at invalid
      exact absurd (soFar.nextId.symm.trans invalid) counted
  | locking command =>
    obtain rfl : world.store = before := soFar
    exact lockedSection_soFar serves
  | barrierWait record index =>
    simp only [advance]
    split
    · trivial
    · exact soFar_success rfl
  | canvasWait record index resume =>
    simp only [advance]
    split
    · exact soFar
    · exact resumeAfterWait_soFar soFar
  | frame job frame => exact generateFrame_soFar soFar.1 soFar.2
  | disconnect =>
    obtain rfl : world.store = before := soFar
    simp only [advance]
    split
    · trivial
    · exact soFar_success rfl
  | endSession => exact soFar_success rfl
  | finished response => exact soFar

/-- All steps of a request. -/
theorem serve_soFar (counted : before.nextId ≠ 0) (serves : pc.Serves auth line)
    (soFar : pc.SoFar auth line session.username before world.store) (rest : List Answers) :
    (serve auth session world pc rest).2.2.SoFar auth line session.username before
      (serve auth session world pc rest).2.1.store := by
  induction rest generalizing world pc with
  | nil => exact soFar
  | cons answers rest ih =>
    rw [serve_cons]
    have next : (advance auth answers session world pc).2.2.SoFar auth line session.username before
      (advance auth answers session world pc).2.1.store := advance_soFar counted serves soFar
    have settles : (advance auth answers session world pc).1 = session ∨ _ := advance_settles pc
    rcases settles with same | ⟨response, finished⟩
    · rw [same]
      exact ih (advance_serves serves) next
    · rw [finished] at next ⊢
      rw [serve_finished]
      exact next

end Steps

/-- A request that is answered with an error code, in whatever state before 2⁶⁴ - 1 records were
added, leaves the store as it was, or its user has become connected to the canvas that its
`place_sprite`, `share_canvas` or `generate` looked up. -/
theorem failed_request_only_connects {auth : AuthDb} {session ended : Session}
    {world after : World} {line : Bytes} {answers : List Answers} {code : Int}
    (counted : world.store.nextId ≠ 0) (error : code ∈ [rpcFail, rpcValue, rpcInternal])
    (replied : rpcHandleRequest auth session world line answers =
      some (some (responseCode code), ended, after)) :
    after.store = world.store ∨ ∃ command id record,
      commandOf auth line = some (.store command) ∧ command.looksUp = some id ∧
      canvasFor world.store id session.username = some record ∧
      after.store = world.store.updateCanvas record fun canvas =>
        canvas.connect session.username := by
  have soFar : (serve auth session world (.start line) answers).2.2.SoFar auth line
      session.username world.store (serve auth session world (.start line) answers).2.1.store := by
    have begun : (Pc.start line).Serves auth line := rfl
    exact serve_soFar counted begun rfl answers
  rw [rpcHandleRequest] at replied
  split at replied
  · rename_i final store response served
    obtain ⟨rfl, rfl, rfl⟩ : response = some (responseCode code) ∧ final = ended ∧ store = after := by
      simpa using replied
    rw [served] at soFar
    rcases soFar ⟨code, error, rfl⟩ with kept | ⟨command, id, serves, looks, looked⟩
    · exact .inl kept
    · cases found : canvasFor world.store id session.username with
      | none =>
        rw [handlesGetCanvas_none found] at looked
        exact .inl looked
      | some record =>
        rw [handlesGetCanvas_some found] at looked
        exact .inr ⟨command, id, record, serves, looks, found, looked⟩
  · cases replied

/-- Bob is logged in. -/
def bobsSession : Session := { username := bytes "bob", balance := 1, loggedIn := true }

/-- Ann's canvas is shared with bob, who has not used it yet. -/
def annsCanvas : World :=
  { store :=
      { nextId := 2
        canvases := [⟨1, some 0, 3, 2, false,
          [⟨bytes "ann", true, false⟩, ⟨bytes "bob", false, false⟩]⟩] } }

/-- Bob names a sprite that there is not. -/
theorem failed_request_only_connects_bob : ∃ ended after,
    rpcHandleRequest twoUsers bobsSession annsCanvas (bytes "place_sprite 1 9 0 0") [{}, {}] =
      some (some (responseCode rpcValue), ended, after) ∧
    (after.store = annsCanvas.store ∨ ∃ command id record,
      commandOf twoUsers (bytes "place_sprite 1 9 0 0") = some (.store command) ∧
      command.looksUp = some id ∧
      canvasFor annsCanvas.store id bobsSession.username = some record ∧
      after.store = annsCanvas.store.updateCanvas record fun canvas =>
        canvas.connect bobsSession.username) := by
  obtain ⟨⟨response, ended, after⟩, replied, rfl⟩ := Option.map_eq_some_iff.mp (by decide +kernel :
    (rpcHandleRequest twoUsers bobsSession annsCanvas (bytes "place_sprite 1 9 0 0")
      [{}, {}]).map Prod.fst = some (some (responseCode rpcValue)))
  exact ⟨ended, after, replied, failed_request_only_connects (by decide) (by decide) replied⟩

/-- Ann shares a canvas with bob, who logs in. -/
def sharedUnused : List AccessLabel :=
  [.accept 0, .accept 1, .request 0 (bytes "Login ann") [{}],
    .request 0 (bytes "create_canvas 2 3 255") [{}, {}],
    .request 0 (bytes "share_canvas 1 bob") [{}, {}], .request 1 (bytes "Login bob") [{}]]

/-- In a state that is reached, a `place_sprite` that is refused for its sprite connects bob to
the canvas. -/
theorem refused_place_connects : ∃ state session ended after,
    (accessMachine twoUsers).run {} sharedUnused = some state ∧ state.clients 1 = some session ∧
    rpcHandleRequest twoUsers session state.world (bytes "place_sprite 1 9 0 0") [{}, {}] =
      some (some (responseCode rpcValue), ended, after) ∧
    after.store ≠ state.world.store := by
  obtain ⟨state, ran, seen⟩ := Option.map_eq_some_iff.mp (by decide +kernel :
    ((accessMachine twoUsers).run {} sharedUnused).map (fun state =>
      ((state.clients 1).bind fun session =>
        (rpcHandleRequest twoUsers session state.world (bytes "place_sprite 1 9 0 0") [{}, {}]).map
          fun result => (result.1, decide (result.2.2.store = state.world.store)))) =
        some (some (some (responseCode rpcValue), false)))
  obtain ⟨session, present, handled⟩ := Option.bind_eq_some_iff.mp seen
  obtain ⟨⟨response, ended, after⟩, replied, outcome⟩ := Option.map_eq_some_iff.mp handled
  obtain ⟨rfl, changed⟩ := Prod.mk.inj outcome
  exact ⟨state, session, ended, after, ran, present, replied, of_decide_eq_false changed⟩

end AnimateService
