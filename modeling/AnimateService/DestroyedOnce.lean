import AnimateService.ObjectCustody

/-!
# Objects destroyed once

A run of requests ends with `handles_destroy`. Every canvas and placement that libanimate returned
is then destroyed once, and every sprite with a handle was destroyed or is passed to the library
again, exactly if no object is recorded under the invalid handle. Only a counter that has wrapped
would do that. It counts the records, which stay allocated until the end, and before it wraps there
is no address left for another one.
-/
namespace AnimateService

open Custody Transition

/-! ## The end of a run -/

/-- The library after `handles_destroy`; the function tells which sprites it fails to destroy. -/
def World.ended (world : World) (spriteFails : Object → Bool) : Library :=
  world.library.emit (handlesDestroy world.store spriteFails)

/-- No call tries to destroy a sprite after one that succeeded. -/
def NeverAgain (calls : List Call) : Prop :=
  calls.Pairwise fun later earlier =>
    ∀ sprite, earlier = .destroySprite sprite false → later.tries ≠ some sprite

/-- The sprite to which a step gives a handle. -/
def spritesGiven (state : RpcState) : RpcLabel → List Object
  | .step thread answers =>
    match state.threads thread with
    | some work => (work.pc.carries .sprite).toList.filter fun sprite =>
        (handlesAddSprite state.world.store sprite (state.sessions work.client).username
          answers.memory).1 ≠ invalidHandle
    | none => []
  | _ => []

/-- What the library has seen in the end: each canvas and placement destroyed exactly once, no
sprite again after it was destroyed, and no sprite with a handle forgotten. -/
structure DestroyedOnce (given : List Object) (world : World) (spriteFails : Object → Bool) :
    Prop where
  /-- The canvases. -/
  canvases : ∀ canvas ∈ world.library.calls.filterMap (Call.issues .canvas),
    (world.ended spriteFails).calls.count (.destroyCanvas canvas) = 1
  /-- The placements. -/
  placements : ∀ placement ∈ world.library.calls.filterMap (Call.issues .placement),
    (world.ended spriteFails).calls.count (.destroyPlacement placement) = 1
  /-- The sprites. -/
  sprites : NeverAgain (world.ended spriteFails).calls
  /-- The sprites that were not destroyed before. -/
  remaining : ∀ sprite ∈ given, Call.destroySprite sprite false ∉ world.library.calls →
    ∃ failed, Call.destroySprite sprite failed ∈ handlesDestroy world.store spriteFails

/-- The object of a kind that a thread has obtained and not recorded yet. -/
def RpcState.carries (state : RpcState) (kind : ObjectKind) (thread : ThreadId) : Option Object :=
  (state.threads thread).bind fun work => work.pc.carries kind

/-- No object is recorded under the invalid handle. -/
def HandlesValid (state : RpcState) (label : RpcLabel) : Prop :=
  ∀ thread answers work kind, label = .step thread answers → state.threads thread = some work →
    ¬ RecordsInvalid answers state.world.store kind work.pc

/-! ## What handles_destroy does -/

section Ended

variable {world : World} {spriteFails : Object → Bool}

/-- A sight that recognises the calls about some objects sees these objects. -/
theorem filterMap_calls {sight : Call → Option Object} {call : Object → Call}
    (sees : ∀ object, sight (call object) = some object) (objects : List Object) :
    (objects.map call).filterMap sight = objects := by
  have same : sight ∘ call = some := funext sees
  rw [List.filterMap_map, same, List.filterMap_some]

/-- A sight that does not recognise them sees nothing. -/
theorem filterMap_others {sight : Call → Option Object} {call : Object → Call}
    (blind : ∀ object, sight (call object) = none) (objects : List Object) :
    (objects.map call).filterMap sight = [] := by
  rw [List.filterMap_eq_nil_iff]
  intro made inside
  obtain ⟨object, -, rfl⟩ := List.mem_map.mp inside
  exact blind object

/-- The pointers of the records, newest first, in the order in which a log shows them. -/
theorem filterMap_reduceOption {Record : Type} (pointer : Record → Option Object)
    (records : List Record) :
    (records.reverse.filterMap pointer).reverse = (records.map pointer).reduceOption := by
  rw [List.filterMap_reverse, List.reverse_reverse, List.reduceOption, List.filterMap_map]
  rfl

/-- The canvases and placements that are destroyed in the end are those of the records. -/
theorem ended_retires {kind : ObjectKind} (lasting : kind ≠ .sprite) :
    (world.ended spriteFails).calls.filterMap (Call.retires kind) =
      (world.store.slots kind).reduceOption ++
        world.library.calls.filterMap (Call.retires kind) := by
  rw [World.ended, Library.emit, List.filterMap_append, List.filterMap_reverse, handlesDestroy,
    List.filterMap_append, List.filterMap_append]
  cases kind with
  | sprite => exact absurd rfl lasting
  | canvas =>
    rw [filterMap_others (fun _ => rfl), filterMap_calls (fun _ => rfl),
      filterMap_others (fun _ => rfl), List.nil_append, List.append_nil, filterMap_reduceOption]
    rfl
  | placement =>
    rw [filterMap_calls (fun _ => rfl), filterMap_others (fun _ => rfl),
      filterMap_others (fun _ => rfl), List.append_nil, List.append_nil, filterMap_reduceOption]
    rfl

/-- The sprites that are tried in the end are those of the records. -/
theorem handlesDestroy_tries :
    ((handlesDestroy world.store spriteFails).filterMap Call.tries).reverse =
      (world.store.slots .sprite).reduceOption := by
  rw [handlesDestroy, List.filterMap_append, List.filterMap_append,
    filterMap_others (fun _ => rfl), filterMap_others (fun _ => rfl),
    filterMap_calls (fun _ => rfl), List.nil_append, List.nil_append, filterMap_reduceOption]
  rfl

/-- Calls that destroy an object of a kind are counted by the object. -/
theorem count_retires {kind : ObjectKind} {object : Object} {destroy : Call}
    (only : ∀ call, call.retires kind = some object ↔ call = destroy) (calls : List Call) :
    calls.count destroy = (calls.filterMap (Call.retires kind)).count object := by
  induction calls with
  | nil => rfl
  | cons call calls ih =>
    by_cases same : call = destroy
    · rw [List.filterMap_cons_some ((only call).mpr same), same, List.count_cons_self,
        List.count_cons_self, ih]
    · rw [List.count_cons_of_ne same, ih]
      cases retired : call.retires kind with
      | none => rw [List.filterMap_cons_none retired]
      | some other =>
        have apart : other ≠ object := by
          rintro rfl
          exact same ((only call).mp retired)
        rw [List.filterMap_cons_some retired, List.count_cons_of_ne apart]

/-- Only `animate_destroy_canvas` on a canvas destroys it. -/
theorem retires_canvas (canvas : Object) (call : Call) :
    call.retires .canvas = some canvas ↔ call = .destroyCanvas canvas := by
  cases call <;> simp [Call.retires]

/-- Only `animate_destroy_placement` on a placement destroys it. -/
theorem retires_placement (placement : Object) (call : Call) :
    call.retires .placement = some placement ↔ call = .destroyPlacement placement := by
  cases call <;> simp [Call.retires]

/-- Only `animate_destroy_sprite` on a sprite destroys it, when it succeeds. -/
theorem retires_sprite (sprite : Object) (call : Call) :
    call.retires .sprite = some sprite ↔ call = .destroySprite sprite false := by
  cases call with
  | destroySprite other failed => cases failed <;> simp [Call.retires]
  | _ => simp [Call.retires]

/-- How often an object was put away is how often it is destroyed in the end. -/
theorem count_ended {kind : ObjectKind} {object : Object} {destroy : Call}
    (lasting : kind ≠ .sprite) (only : ∀ call, call.retires kind = some object ↔ call = destroy) :
    (world.ended spriteFails).calls.count destroy =
      (settled (world.library.calls.filterMap (Call.retires kind))
        (world.store.slots kind)).count object := by
  rw [count_retires only, ended_retires lasting, settled, List.count_append, List.count_append,
    Nat.add_comm]

/-- No sprite is tried again in the end exactly if none was before, those that are left are
different, and none of them was destroyed. -/
theorem neverAgain_ended (before : NeverAgain world.library.calls)
    (apart : (settled (world.library.calls.filterMap (Call.retires .sprite))
      (world.store.slots .sprite)).Nodup) : NeverAgain (world.ended spriteFails).calls := by
  obtain ⟨-, different, fresh⟩ := List.nodup_append.mp apart
  rw [← @handlesDestroy_tries world spriteFails, List.nodup_reverse, List.Nodup,
    List.pairwise_filterMap] at different
  rw [NeverAgain, World.ended, Library.emit, List.pairwise_append]
  refine ⟨?_, before, ?_⟩
  · rw [List.pairwise_reverse]
    refine different.imp ?_
    rintro earlier later distinct sprite rfl again
    exact distinct sprite rfl sprite again rfl
  · rintro later inside earlier old sprite rfl again
    refine fresh sprite ?_ sprite ?_ rfl
    · exact List.mem_filterMap.mpr ⟨_, old, rfl⟩
    · rw [← @handlesDestroy_tries world spriteFails, List.mem_reverse]
      exact List.mem_filterMap.mpr ⟨later, List.mem_reverse.mp inside, again⟩

/-- A sprite that was put away twice and destroyed is tried again in the end. -/
theorem not_neverAgain_doubled {sprite : Object}
    (doubled : Doubled (world.library.calls.filterMap (Call.issues .sprite))
      (world.library.calls.filterMap (Call.retires .sprite)) (world.store.slots .sprite) sprite) :
    ¬ NeverAgain (world.ended spriteFails).calls := by
  intro never
  rw [NeverAgain, World.ended, Library.emit, List.pairwise_append] at never
  obtain ⟨-, before, after⟩ := never
  obtain ⟨-, gone, twice⟩ := doubled
  obtain ⟨call, old, retired⟩ := List.mem_filterMap.mp gone
  obtain rfl := (retires_sprite sprite call).mp retired
  have unheld : (world.store.slots .sprite).reduceOption.count sprite = 0 := by
    rw [List.count_eq_zero, ← @handlesDestroy_tries world spriteFails, List.mem_reverse]
    intro held
    obtain ⟨later, inside, tried⟩ := List.mem_filterMap.mp held
    exact after later (List.mem_reverse.mpr inside) _ old sprite rfl tried
  have once : (world.library.calls.filterMap (Call.retires .sprite)).Nodup := by
    rw [List.Nodup, List.pairwise_filterMap]
    refine before.imp ?_
    intro later earlier never other again sprite' success same
    subst same
    obtain rfl := (retires_sprite _ _).mp success
    obtain rfl := (retires_sprite _ _).mp again
    exact never _ rfl rfl
  have atMost := List.nodup_iff_count_le_one.mp once sprite
  rw [settled, List.count_append, unheld] at twice
  omega

end Ended

/-! ## Custody over a run -/

/-- The objects of a kind as a thread finds them. -/
def RpcState.holding (state : RpcState) (kind : ObjectKind) (thread : ThreadId) :
    Holding Object where
  issued := state.world.library.calls.filterMap (Call.issues kind)
  retired := state.world.library.calls.filterMap (Call.retires kind)
  slots := state.world.store.slots kind
  carried := state.carries kind thread

/-- What holds of every state: the books, and that whatever is carried was issued. -/
structure CustodyBooks (state : RpcState) : Prop where
  /-- The books of the library. -/
  books : LibraryBooks state
  /-- What was issued has been handed out. -/
  old : IssuedOld state.world.library
  /-- What is carried was issued. -/
  known : ∀ kind thread object, state.carries kind thread = some object →
    object ∈ state.world.library.calls.filterMap (Call.issues kind)

/-- What a step of the machine does to the objects. -/
structure CustodyChange (state : RpcState) (label : RpcLabel) (next : RpcState)
    (thread : ThreadId) : Prop where
  /-- The other threads carry what they carried. -/
  others : ∀ kind other, other ≠ thread → next.carries kind other = state.carries kind other
  /-- Each kind of object goes through one event. -/
  moves : ∀ kind, ∃ event, Move event (state.holding kind thread) (next.holding kind thread) ∧
    (HandlesValid state label → event ≠ .duplicate) ∧ (event = .lose → kind = .sprite)
  /-- Where an object is recorded under the invalid handle, one is duplicated. -/
  duplicates : ¬ HandlesValid state label →
    ∃ kind, Move .duplicate (state.holding kind thread) (next.holding kind thread)
  /-- At most one call is made, and a sprite it tries to destroy is in a slot or carried. -/
  tries : ∃ made : Option Call,
    next.world.library.calls = made.toList ++ state.world.library.calls ∧
    ∀ call ∈ made, ∀ sprite, call.tries = some sprite →
      sprite ∈ (state.world.store.slots .sprite).reduceOption ∨
        ∃ other, state.carries .sprite other = some sprite
  /-- What was issued has been handed out. -/
  old : IssuedOld next.world.library

section Runs

variable {auth : AuthDb} {state next : RpcState} {label : RpcLabel}

/-- The step of a thread. -/
theorem custodyChange_advance {thread : ThreadId} {client : ClientId} {pc : Pc} {answers : Answers}
    (gone : DestroyedCanvasesGone state.world.store) (old : IssuedOld state.world.library)
    (working : state.threads thread = some ⟨client, pc⟩) :
    CustodyChange state (.step thread answers)
      (state.advanceThread auth thread client pc answers) thread := by
  have step := @advance_custody auth answers (state.sessions client) state.world gone old pc
  have before : ∀ kind, state.holding kind thread = state.world.holding kind pc := by
    intro kind
    simp only [RpcState.holding, World.holding, RpcState.carries, working, Option.bind_some]
  have after : ∀ kind, (state.advanceThread auth thread client pc answers).holding kind thread =
      (advance auth answers (state.sessions client) state.world pc).2.1.holding kind
        (advance auth answers (state.sessions client) state.world pc).2.2 := by
    intro kind
    simp only [RpcState.holding, World.holding, RpcState.carries, RpcState.advanceThread,
      Function.update_self, Option.bind_some]
  have valid : HandlesValid state (.step thread answers) ↔
      ∀ kind, ¬ RecordsInvalid answers state.world.store kind pc := by
    constructor
    · exact fun valid kind => valid thread answers _ kind rfl working
    · rintro valid _ _ work kind ⟨⟩ found
      obtain rfl := Option.some.inj (working.symm.trans found)
      exact valid kind
  constructor
  · intro kind other apart
    simp [RpcState.carries, RpcState.advanceThread, apart]
  · intro kind
    obtain ⟨event, moves, duplicate, lose⟩ := step.moves kind
    refine ⟨event, by rw [before, after]; exact moves, ?_, lose⟩
    exact fun proper same => valid.mp proper kind (duplicate.mp same)
  · intro invalid
    rw [valid] at invalid
    obtain ⟨kind, records⟩ := not_forall_not.mp invalid
    obtain ⟨event, moves, duplicate, -⟩ := step.moves kind
    obtain rfl := duplicate.mpr records
    exact ⟨kind, by rw [before, after]; exact moves⟩
  · obtain ⟨made, logged, tries⟩ := step.tries
    refine ⟨made, logged, fun call inside sprite tried => ?_⟩
    refine (tries call inside sprite tried).imp_right fun carried => ⟨thread, ?_⟩
    rw [RpcState.carries, working]
    exact carried
  · exact step.old

/-- A thread that begins or goes idle carries nothing. -/
theorem custodyChange_other (old : IssuedOld state.world.library)
    (step : (rpcMachine auth).step state label = some next)
    (other : ∀ thread answers, label ≠ .step thread answers) :
    ∃ thread, CustodyChange state label next thread := by
  have valid : HandlesValid state label := fun thread answers _ _ same =>
    absurd same (other thread answers)
  obtain ⟨thread, work, rfl, idle, begins⟩ := rpcMachine_other step other
  have before : ∀ kind, state.carries kind thread = none := by
    intro kind
    rw [RpcState.carries]
    rcases idle with idle | rfl
    · rw [idle]
      rfl
    · simp only [rpcMachine] at step
      split at step
      · rename_i response working
        rw [working]
        cases kind <;> rfl
      · cases step
  have after : ∀ kind, (state.setThread thread work).carries kind thread = none := by
    intro kind
    simp only [RpcState.carries, RpcState.setThread, Function.update_self]
    cases work with
    | none => rfl
    | some taken =>
      rw [Option.bind_some]
      rcases begins taken rfl with ⟨line, at_start⟩ | at_end
      · rw [at_start]
        cases kind <;> rfl
      · rw [at_end]
        cases kind <;> rfl
  refine ⟨thread, ?_, ?_, fun invalid => absurd valid invalid, ⟨none, rfl, by simp⟩, old⟩
  · intro kind another apart
    simp [RpcState.carries, RpcState.setThread, apart]
  · intro kind
    refine ⟨.rest, ?_, fun _ => (by simp), by simp⟩
    rw [RpcState.holding, RpcState.holding, before, after]
    exact .rest

/-- In every step of the machine one thread moves objects, by one event of each kind. -/
theorem rpcMachine_custody (gone : DestroyedCanvasesGone state.world.store)
    (old : IssuedOld state.world.library)
    (step : (rpcMachine auth).step state label = some next) :
    ∃ thread, CustodyChange state label next thread := by
  rcases rpcMachine_cases step with
    ⟨thread, answers, client, pc, rfl, working, -, rfl⟩ | ⟨-, -, no_step, -⟩
  · exact ⟨thread, custodyChange_advance gone old working⟩
  · exact custodyChange_other old step no_step

/-- Nothing is carried before the first request. -/
theorem custodyBooks_initial : CustodyBooks {} where
  books := libraryBooks_initial
  old := fun _ _ inside => absurd inside List.not_mem_nil
  known := by
    intro kind thread object carries
    cases carries

/-- The books are kept. -/
theorem CustodyBooks.kept (books : CustodyBooks state)
    (step : (rpcMachine auth).step state label = some next) : CustodyBooks next := by
  obtain ⟨thread, change⟩ := rpcMachine_custody books.books.gone books.old step
  refine ⟨books.books.kept step, change.old, fun kind other object carries => ?_⟩
  obtain ⟨event, moves, -⟩ := change.moves kind
  by_cases same : other = thread
  · subst same
    exact moves.carried_issued carries
  · rw [change.others kind other same] at carries
    exact moves.grows.1 (books.known kind other object carries)

/-- Every object of a state is accounted for once, and no sprite was tried again. -/
structure InCustody (state : RpcState) : Prop where
  /-- Nothing but sprites is lost. -/
  conserved : ∀ kind, ∃ lost, Conserved
    (state.world.library.calls.filterMap (Call.issues kind))
    (state.world.library.calls.filterMap (Call.retires kind)) (state.world.store.slots kind)
    (state.carries kind) lost ∧ (kind ≠ .sprite → lost = [])
  /-- No sprite that was destroyed was tried again. -/
  never : NeverAgain state.world.library.calls

/-- Before the first request nothing is there to be accounted for. -/
theorem inCustody_initial : InCustody {} where
  conserved := by
    intro kind
    refine ⟨[], ?_, fun _ => rfl⟩
    have empty : ({} : RpcState).carries kind = fun _ => none := rfl
    rw [empty]
    cases kind <;> exact conserved_nil
  never := List.Pairwise.nil

/-- A step that records nothing under the invalid handle accounts for every object. -/
theorem InCustody.kept (books : CustodyBooks state) (custody : InCustody state)
    (valid : HandlesValid state label)
    (step : (rpcMachine auth).step state label = some next) : InCustody next := by
  obtain ⟨thread, change⟩ := rpcMachine_custody books.books.gone books.old step
  constructor
  · intro kind
    obtain ⟨lost, conserved, lasting⟩ := custody.conserved kind
    obtain ⟨event, moves, proper, lose⟩ := change.moves kind
    have here : Conserved (state.holding kind thread).issued (state.holding kind thread).retired
      (state.holding kind thread).slots (state.carries kind) lost := conserved
    obtain ⟨gone, conserves, same⟩ := here.move thread rfl moves (proper valid)
    have update : Function.update (state.carries kind) thread (next.carries kind thread) =
        next.carries kind := by
      funext other
      by_cases same : other = thread
      · rw [same, Function.update_self]
      · rw [Function.update_of_ne same, change.others kind other same]
    refine ⟨gone, update ▸ conserves, fun kept => ?_⟩
    rw [same fun loses => kept (lose loses), lasting kept]
  · obtain ⟨made, logged, tries⟩ := change.tries
    rw [NeverAgain, logged, List.pairwise_append]
    refine ⟨?_, custody.never, ?_⟩
    · cases made with
      | none => exact List.Pairwise.nil
      | some call => exact List.pairwise_singleton _ call
    · rintro later inside earlier before sprite rfl tried
      obtain ⟨lost, conserved, -⟩ := custody.conserved .sprite
      refine conserved.not_retired (tries later (Option.mem_toList.mp inside) sprite tried) ?_
      exact List.mem_filterMap.mpr ⟨_, before, rfl⟩

/-- An object that was put away twice is so at the end of every run. -/
theorem doubled_run {labels : List RpcLabel} {kind : ObjectKind} {object : Object}
    (books : CustodyBooks state) (ran : (rpcMachine auth).run state labels = some next)
    (doubled : Doubled (state.world.library.calls.filterMap (Call.issues kind))
      (state.world.library.calls.filterMap (Call.retires kind)) (state.world.store.slots kind)
      object) :
    Doubled (next.world.library.calls.filterMap (Call.issues kind))
      (next.world.library.calls.filterMap (Call.retires kind)) (next.world.store.slots kind)
      object := by
  have kept : ∀ before label after, (CustodyBooks before ∧
      Doubled (before.world.library.calls.filterMap (Call.issues kind))
        (before.world.library.calls.filterMap (Call.retires kind)) (before.world.store.slots kind)
        object) → (rpcMachine auth).step before label = some after → CustodyBooks after ∧
      Doubled (after.world.library.calls.filterMap (Call.issues kind))
        (after.world.library.calls.filterMap (Call.retires kind)) (after.world.store.slots kind)
        object := by
    rintro before label after ⟨books, twice⟩ step
    obtain ⟨thread, change⟩ := rpcMachine_custody books.books.gone books.old step
    obtain ⟨event, moves, -⟩ := change.moves kind
    have here : Doubled (before.holding kind thread).issued (before.holding kind thread).retired
      (before.holding kind thread).slots object := twice
    exact ⟨books.kept step, here.move moves⟩
  exact (Machine.run_invariant kept ⟨books, doubled⟩ ran).2

/-- Who puts an object away twice does not end with everything destroyed once. -/
theorem not_destroyedOnce_doubled {given : List Object} {world : World}
    {spriteFails : Object → Bool} {kind : ObjectKind} {object : Object}
    (doubled : Doubled (world.library.calls.filterMap (Call.issues kind))
      (world.library.calls.filterMap (Call.retires kind)) (world.store.slots kind) object) :
    ¬ DestroyedOnce given world spriteFails := by
  intro once
  cases kind with
  | sprite => exact not_neverAgain_doubled doubled once.sprites
  | canvas =>
    have counted := once.canvases object doubled.known
    rw [count_ended (by simp) (retires_canvas object)] at counted
    have twice := doubled.twice
    omega
  | placement =>
    have counted := once.placements object doubled.known
    rw [count_ended (by simp) (retires_placement object)] at counted
    have twice := doubled.twice
    omega

/-- A run that records an object under the invalid handle does not end so. -/
theorem not_destroyedOnce_of_invalid {front back : List RpcLabel} {reached after : RpcState}
    {given : List Object} {spriteFails : Object → Bool}
    (ran : (rpcMachine auth).run {} front = some reached)
    (step : (rpcMachine auth).step reached label = some after)
    (rest : (rpcMachine auth).run after back = some next)
    (invalid : ¬ HandlesValid reached label) : ¬ DestroyedOnce given next.world spriteFails := by
  have books : CustodyBooks reached :=
    Machine.run_invariant (fun _ _ _ books step => books.kept step) custodyBooks_initial ran
  obtain ⟨thread, change⟩ := rpcMachine_custody books.books.gone books.old step
  obtain ⟨kind, duplicates⟩ := change.duplicates invalid
  obtain ⟨object, doubled⟩ := duplicates.doubles (books.known kind thread)
  exact not_destroyedOnce_doubled (doubled_run (books.kept step) rest doubled)

/-- A sprite that is given a handle is recorded. -/
theorem given_recorded {sprite : Object} (given : sprite ∈ spritesGiven state label)
    (step : (rpcMachine auth).step state label = some next) :
    some sprite ∈ next.world.store.slots .sprite := by
  cases label with
  | step thread answers =>
    obtain ⟨client, pc, working, -, rfl⟩ := rpcMachine_step step
    simp only [spritesGiven, working] at given
    obtain ⟨carried, handed⟩ := List.mem_filter.mp given
    have carried : pc.carries .sprite = some sprite := Option.mem_toList.mp carried
    obtain rfl : pc = .addSprite sprite := by
      cases pc with
      | addSprite other =>
        obtain rfl := Option.some.inj carried
        rfl
      | _ => cases carried
    have kept : (state.advanceThread auth thread client (.addSprite sprite) answers).world.store =
        (handlesAddSprite state.world.store sprite (state.sessions client).username
          answers.memory).2 := by
      simp only [RpcState.advanceThread, advance, answerHandle_store]
    cases memory : answers.memory with
    | false =>
      rw [memory] at handed
      simp [handlesAddSprite] at handed
    | true =>
      rw [kept, memory]
      simp [HandleStore.slots, handlesAddSprite]
  | _ => cases given

/-- Every sprite that was given a handle is put away. -/
theorem given_settled {labels : List RpcLabel} (ran : (rpcMachine auth).run {} labels = some next) :
    ∀ sprite ∈ (rpcMachine auth).observed spritesGiven {} labels,
      sprite ∈ settled (next.world.library.calls.filterMap (Call.retires .sprite))
        (next.world.store.slots .sprite) := by
  have kept : ∀ before label after given, (CustodyBooks before ∧ ∀ sprite ∈ given,
      sprite ∈ settled (before.world.library.calls.filterMap (Call.retires .sprite))
        (before.world.store.slots .sprite)) →
      (rpcMachine auth).step before label = some after → CustodyBooks after ∧
      ∀ sprite ∈ given ++ spritesGiven before label,
        sprite ∈ settled (after.world.library.calls.filterMap (Call.retires .sprite))
          (after.world.store.slots .sprite) := by
    rintro before label after given ⟨books, put⟩ step
    refine ⟨books.kept step, fun sprite inside => ?_⟩
    obtain ⟨thread, change⟩ := rpcMachine_custody books.books.gone books.old step
    obtain ⟨event, moves, -⟩ := change.moves .sprite
    rcases List.mem_append.mp inside with earlier | now
    · have here := List.count_pos_iff.mpr (put sprite earlier)
      exact List.count_pos_iff.mp (Nat.lt_of_lt_of_le here (moves.count_le sprite))
    · refine List.mem_append_right _ (List.reduceOption_mem_iff.mpr ?_)
      exact given_recorded now step
  have initially : CustodyBooks {} ∧ ∀ sprite ∈ ([] : List Object),
      sprite ∈ settled (({} : RpcState).world.library.calls.filterMap (Call.retires .sprite))
        (({} : RpcState).world.store.slots .sprite) :=
    ⟨custodyBooks_initial, fun _ inside => absurd inside List.not_mem_nil⟩
  exact (Machine.run_observed kept initially ran).2

/-- When all requests are done and everything is in custody, `handles_destroy` destroys what is
left, once. -/
theorem InCustody.destroyedOnce {given : List Object} {spriteFails : Object → Bool}
    (custody : InCustody state) (idle : ∀ kind thread, state.carries kind thread = none)
    (put : ∀ sprite ∈ given, sprite ∈ settled
      (state.world.library.calls.filterMap (Call.retires .sprite))
      (state.world.store.slots .sprite)) :
    DestroyedOnce given state.world spriteFails := by
  have once : ∀ kind, kind ≠ .sprite →
      ∀ object ∈ state.world.library.calls.filterMap (Call.issues kind),
        (settled (state.world.library.calls.filterMap (Call.retires kind))
          (state.world.store.slots kind)).count object = 1 := by
    intro kind lasting object inside
    obtain ⟨lost, conserved, none⟩ := custody.conserved kind
    rw [none lasting] at conserved
    exact conserved.settled_once (idle kind) inside
  constructor
  · intro canvas inside
    rw [count_ended (by simp) (retires_canvas canvas)]
    exact once .canvas (by simp) canvas inside
  · intro placement inside
    rw [count_ended (by simp) (retires_placement placement)]
    exact once .placement (by simp) placement inside
  · obtain ⟨lost, conserved, -⟩ := custody.conserved .sprite
    exact neverAgain_ended custody.never conserved.settled_nodup
  · intro sprite inside missing
    rcases List.mem_append.mp (put sprite inside) with gone | held
    · obtain ⟨call, old, retired⟩ := List.mem_filterMap.mp gone
      obtain rfl := (retires_sprite sprite call).mp retired
      exact absurd old missing
    · rw [← @handlesDestroy_tries state.world spriteFails, List.mem_reverse] at held
      obtain ⟨call, made, tried⟩ := List.mem_filterMap.mp held
      cases call with
      | destroySprite other failed =>
        obtain rfl := Option.some.inj tried
        exact ⟨failed, made⟩
      | _ => cases tried

/-- A run of requests that ends with `handles_destroy` has destroyed every canvas and placement
once and every sprite at most once, and passed every sprite with a handle to the library, exactly
if no step recorded an object under the invalid handle. -/
theorem destroyed_once_iff (auth : AuthDb) (labels : List RpcLabel) (last : RpcState)
    (spriteFails : Object → Bool) (ran : (rpcMachine auth).run {} labels = some last)
    (done : ∀ thread work, last.threads thread = some work → work.pc.isFinished = true) :
    DestroyedOnce ((rpcMachine auth).observed spritesGiven {} labels) last.world spriteFails ↔
      (rpcMachine auth).EveryStep HandlesValid {} labels := by
  constructor
  · intro once
    refine Machine.everyStep_of_segments ?_
    intro front label back reached after split segment step
    rw [split, Machine.run_append, segment] at ran
    obtain ⟨middle, taken, rest⟩ := Machine.run_cons_some.mp ran
    obtain rfl := Option.some.inj (step.symm.trans taken)
    by_contra invalid
    exact not_destroyedOnce_of_invalid segment step rest invalid once
  · intro valid
    have preserved : ∀ state label next, CustodyBooks state ∧ InCustody state →
        HandlesValid state label → (rpcMachine auth).step state label = some next →
        CustodyBooks next ∧ InCustody next :=
      fun state label next kept valid step =>
        ⟨kept.1.kept step, kept.2.kept kept.1 valid step⟩
    have always := Machine.always_of_guarded preserved ⟨custodyBooks_initial, inCustody_initial⟩
      valid
    refine (always.last ran).2.destroyedOnce ?_ (given_settled ran)
    intro kind thread
    rw [RpcState.carries]
    cases busy : last.threads thread with
    | none => rfl
    | some work =>
      obtain ⟨client, pc⟩ := work
      have finished := done thread _ busy
      cases pc with
      | finished response => cases kind <;> rfl
      | _ => cases finished

/-- The counter counts the records. -/
def RpcState.Counted (state : RpcState) : Prop :=
  state.world.store.nextId = UInt64.ofNat (state.world.store.records + 1)

/-- After every step the counter counts the records, and none of them is freed. -/
theorem RpcState.Counted.step (counted : state.Counted)
    (step : (rpcMachine auth).step state label = some next) :
    next.Counted ∧ state.world.store.records ≤ next.world.store.records := by
  rcases rpcMachine_cases step with
    ⟨thread, answers, client, pc, -, -, -, rfl⟩ | ⟨thread, work, -, rfl, -⟩
  · have store := @advance_operation auth answers (state.sessions client) state.world pc
    unfold RpcState.Counted at counted ⊢
    simp only [RpcState.advanceThread, store]
    cases pc.operation answers (state.sessions client) state.world.store with
    | none => exact ⟨counted, Nat.le_refl _⟩
    | some operation =>
      obtain ⟨records, counter⟩ := operation.perform_records state.world.store
      simp only [HandleStore.after, Option.elim_some, records, counter]
      refine ⟨?_, Nat.le_add_right _ _⟩
      rw [counted, ← UInt64.ofNat_add, Nat.add_right_comm]
  · exact ⟨counted, Nat.le_refl _⟩

/-- After every run the counter counts the records, and none of them is freed. -/
theorem RpcState.Counted.run {labels : List RpcLabel} (counted : state.Counted)
    (ran : (rpcMachine auth).run state labels = some next) :
    next.Counted ∧ state.world.store.records ≤ next.world.store.records := by
  have kept : ∀ before label after, (RpcState.Counted before ∧
      state.world.store.records ≤ before.world.store.records) →
      (rpcMachine auth).step before label = some after →
      RpcState.Counted after ∧ state.world.store.records ≤ after.world.store.records :=
    fun before label after so_far step =>
      ⟨(so_far.1.step step).1, so_far.2.trans (so_far.1.step step).2⟩
  exact Machine.run_invariant kept ⟨counted, Nat.le_refl _⟩ ran

/-- An object that is recorded under the invalid handle is one more than there are addresses. -/
theorem RpcState.Counted.invalid (counted : state.Counted)
    (step : (rpcMachine auth).step state label = some next) (invalid : ¬ HandlesValid state label) :
    2 ^ 64 ≤ next.world.store.records := by
  unfold HandlesValid at invalid
  push Not at invalid
  obtain ⟨thread, answers, work, kind, rfl, found, carries, memory, wrapped, -⟩ := invalid
  obtain ⟨client, pc, working, -, rfl⟩ := rpcMachine_step step
  obtain rfl := Option.some.inj (working.symm.trans found)
  have adds : ∃ operation, operation.adds = 1 ∧
      pc.operation answers (state.sessions client) state.world.store = some operation := by
    cases pc with
    | addCanvas canvas width height | addSprite sprite | addPlacement placement canvasId spriteId =>
      exact ⟨_, by simp only [StoreOperation.adds, memory, ↓reduceIte], rfl⟩
    | _ => cases kind <;> exact absurd rfl carries
  obtain ⟨operation, one, performs⟩ := adds
  have more : (state.advanceThread auth thread client pc answers).world.store.records =
      state.world.store.records + 1 := by
    simp only [RpcState.advanceThread, advance_operation, performs, HandleStore.after,
      Option.elim_some, (operation.perform_records state.world.store).1, one]
  have zero : (state.world.store.records + 1) % 2 ^ 64 = 0 := by
    have counts := congrArg UInt64.toNat (counted.symm.trans wrapped)
    rwa [UInt64.toNat_ofNat'] at counts
  rw [more]
  exact Nat.le_of_dvd (Nat.succ_pos _) (Nat.dvd_of_mod_eq_zero zero)

/-- Before the first request there is no record, and the next handle is 1. -/
theorem counted_initial : RpcState.Counted {} := rfl

/-- No object is recorded under the invalid handle in a run whose records all have addresses. -/
theorem handlesValid_of_allocated {labels : List RpcLabel}
    (ran : (rpcMachine auth).run {} labels = some next) (allocated : next.world.store.Allocated) :
    (rpcMachine auth).EveryStep HandlesValid {} labels := by
  refine Machine.everyStep_of_segments ?_
  intro front label back reached after split segment step
  rw [split, Machine.run_append, segment] at ran
  obtain ⟨middle, taken, rest⟩ := Machine.run_cons_some.mp ran
  obtain rfl := Option.some.inj (step.symm.trans taken)
  have counted : reached.Counted := (counted_initial.run segment).1
  by_contra invalid
  have many : 2 ^ 64 ≤ after.world.store.records := counted.invalid step invalid
  have more : after.world.store.records ≤ next.world.store.records :=
    ((counted.step step).1.run rest).2
  have few : next.world.store.records < 2 ^ 64 := allocated.records_lt
  omega

/-- A run of requests that ends with `handles_destroy` has destroyed every canvas and placement
once and every sprite at most once, and passed every sprite with a handle to the library. The
records of the run are all allocated in the end: each has an address of its own. -/
theorem objects_destroyed_once (auth : AuthDb) (labels : List RpcLabel) (last : RpcState)
    (spriteFails : Object → Bool) (ran : (rpcMachine auth).run {} labels = some last)
    (done : ∀ thread work, last.threads thread = some work → work.pc.isFinished = true)
    (allocated : last.world.store.Allocated) :
    DestroyedOnce ((rpcMachine auth).observed spritesGiven {} labels) last.world spriteFails :=
  (destroyed_once_iff auth labels last spriteFails ran done).mpr
    (handlesValid_of_allocated ran allocated)

end Runs

/-- Ann makes a canvas and places a rectangle on it, and then destroys only the sprite. -/
def spriteOnly : List RpcLabel :=
  handled 0 0 "Login ann\n" 1 ++ handled 0 0 "create_canvas 1 1 0\n" 2 ++
  handled 0 0 "create_rectangle 1 1 0 0\n" 2 ++ handled 0 0 "place_sprite 1 2 0 0\n" 3 ++
  handled 0 0 "destroy_sprite 2\n" 2

/-- The service of Ann alone. -/
def annAlone : AuthDb := [⟨bytes "ann", 5⟩]

/-- The thread that a label is about. -/
def RpcLabel.thread : RpcLabel → ThreadId
  | .request thread _ _ | .close thread _ | .step thread _ | .leave thread => thread

/-- A thread that no label is about does what it did. -/
theorem rpcMachine_run_elsewhere {auth : AuthDb} {state last : RpcState} {labels : List RpcLabel}
    {thread : ThreadId} (ran : (rpcMachine auth).run state labels = some last)
    (elsewhere : ∀ label ∈ labels, label.thread ≠ thread) :
    last.threads thread = state.threads thread := by
  have kept : ∀ before label after, label.thread ≠ thread →
      before.threads thread = state.threads thread →
      (rpcMachine auth).step before label = some after →
      after.threads thread = state.threads thread := by
    intro before label after apart same step
    rw [← same]
    cases label with
    | step other answers =>
      obtain ⟨client, pc, -, -, rfl⟩ := rpcMachine_step step
      exact Function.update_of_ne (Ne.symm apart) _ _
    | request other client line =>
      simp only [rpcMachine] at step
      split at step
      · obtain rfl := Option.some.inj step
        exact Function.update_of_ne (Ne.symm apart) _ _
      · cases step
    | close other client =>
      simp only [rpcMachine] at step
      split at step
      · obtain rfl := Option.some.inj step
        exact Function.update_of_ne (Ne.symm apart) _ _
      · cases step
    | leave other =>
      simp only [rpcMachine] at step
      split at step
      · obtain rfl := Option.some.inj step
        exact Function.update_of_ne (Ne.symm apart) _ _
      · cases step
  exact Machine.run_invariant_on kept elsewhere rfl ran

/-- Ann's run ends with three records and no thread at work. -/
theorem spriteOnly_ends : ∃ last, (rpcMachine annAlone).run {} spriteOnly = some last ∧
    last.world.store.records = 3 ∧ ∀ thread, last.threads thread = none := by
  have ends : ∃ last, (rpcMachine annAlone).run {} spriteOnly = some last ∧
      last.world.store.records = 3 ∧ last.threads 0 = none := ⟨_, rfl, rfl, rfl⟩
  obtain ⟨last, ran, records, idle⟩ := ends
  refine ⟨last, ran, records, fun thread => ?_⟩
  by_cases first : thread = 0
  · rw [first, idle]
  · have all : ∀ label ∈ spriteOnly, label.thread = 0 := by decide
    rw [rpcMachine_run_elsewhere ran fun label inside same =>
      first (same.symm.trans (all label inside))]

/-- Three records have addresses. -/
theorem allocated_three {store : HandleStore} (records : store.records = 3) : store.Allocated := by
  rw [HandleStore.Allocated, records]
  exact ⟨fun record => UInt64.ofNat (record.val + 1), by decide, by decide⟩

/-- What is left of Ann's run is destroyed with the store. -/
theorem objects_destroyed_once_spriteOnly : ∃ last,
    (rpcMachine annAlone).run {} spriteOnly = some last ∧
    DestroyedOnce ((rpcMachine annAlone).observed spritesGiven {} spriteOnly) last.world
      (fun _ => false) := by
  obtain ⟨last, ran, records, idle⟩ := spriteOnly_ends
  refine ⟨last, ran, objects_destroyed_once annAlone spriteOnly last (fun _ => false) ran ?_
    (allocated_three records)⟩
  intro thread work busy
  rw [idle thread] at busy
  cases busy

end AnimateService
