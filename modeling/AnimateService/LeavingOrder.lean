import AnimateService.CanvasLife
import AnimateService.Memberships
import AnimateService.Placements

/-!
# Leaving a canvas in any order

A user leaves a canvas by `destroy_canvas` or by a disconnection. The first frees the canvas where
nobody else is connected. The second clears the user's flags and calls `maybe_destroy_canvas`,
which acts only on a canvas that is marked, and a canvas that is marked is freed already. Two
departures are compared here in both orders.
-/
namespace AnimateService

open LinkedList Rendezvous Transition

/-! ## Departures -/

/-- How a user leaves a canvas. -/
inductive Leaving where
  /-- A `destroy_canvas` request on the canvas. -/
  | destroy
  /-- The end of the user's session. -/
  | disconnect
  deriving DecidableEq, Repr

/-- The section in which a user leaves the canvas of a handle. -/
def Leaving.step (id : UInt64) (username : Bytes) : Leaving → CanvasStep
  | .destroy => .destroyCanvas id username
  | .disconnect => .disconnect username

/-- The departure is one from this canvas: the request finds it, or the user is a member of it. -/
def Leaving.Concerns (store : HandleStore) (record : CanvasPtr) (canvas : CanvasRecord)
    (username : Bytes) : Leaving → Prop
  | .destroy => canvasFor store canvas.id username = some record
  | .disconnect => username ≠ [] ∧ username ∈ canvas.names

/-- The record of a canvas, live or freed, after a departure from it. -/
def CanvasRecord.afterLeaving (canvas : CanvasRecord) (username : Bytes) : Leaving → CanvasRecord
  | .destroy => if canvas.deleted then canvas else (canvas.depart username).settled
  | .disconnect => canvas.depart username

/-- One of the two destroys the canvas, and the other, who disconnects, is the only other member
that is connected. -/
def CanvasRecord.LastDisconnects (canvas : CanvasRecord) (destroyer leaver : Bytes) : Prop :=
  ∃ user other, findSharedUser canvas destroyer = some user ∧
    findSharedUser canvas leaver = some other ∧ canvas.ConnectedAt other ∧
    ∀ third, canvas.ConnectedAt third → third = user ∨ third = other

/-- The order of the two departures shows: they are of different kinds, and the one who
disconnects is the only other connected member. -/
def OrderShows (canvas : CanvasRecord) (first second : Bytes) : Leaving → Leaving → Prop
  | .destroy, .disconnect => canvas.LastDisconnects first second
  | .disconnect, .destroy => canvas.LastDisconnects second first
  | _, _ => False

/-! ## Two departures of a record -/

section Records

variable {canvas : CanvasRecord} {username other : Bytes}

variable (formed : canvas.barrier.WellFormed) (live : canvas.Live)

include formed in
/-- Only connected members wait after a departure either. -/
theorem depart_wellFormed (username : Bytes) : (canvas.depart username).barrier.WellFormed := by
  cases found : findSharedUser canvas username with
  | none => simpa only [CanvasRecord.depart, found] using formed
  | some user =>
    rw [CanvasRecord.barrier_depart found]
    exact formed.leave

include live in
/-- A departure leaves a canvas unmarked. -/
theorem depart_unmarked (username : Bytes) : (canvas.depart username).deleted = false :=
  (depart_object canvas username).2.1.trans live.2

include formed live in
/-- After both have destroyed the canvas, it is freed if nobody is connected. -/
theorem destroy_destroy :
    (canvas.afterLeaving username .destroy).afterLeaving other .destroy =
      ((canvas.depart username).depart other).settled := by
  have first : canvas.afterLeaving username .destroy = (canvas.depart username).settled := by
    simp only [CanvasRecord.afterLeaving, live.2, Bool.false_eq_true, ↓reduceIte]
  cases connected : canvasHasConnectedUser (canvas.depart username) with
  | true =>
    rw [first, CanvasRecord.settled, connected]
    simp only [↓reduceIte, CanvasRecord.afterLeaving, depart_unmarked live, Bool.false_eq_true]
  | false =>
    rw [depart_unused connected (depart_wellFormed formed username), first,
      CanvasRecord.settled, connected]
    rfl

include live in
/-- After one has disconnected and the other has destroyed the canvas, it is freed if nobody is
connected. -/
theorem disconnect_destroy :
    (canvas.afterLeaving other .disconnect).afterLeaving username .destroy =
      ((canvas.depart username).depart other).settled := by
  simp only [CanvasRecord.afterLeaving, depart_unmarked live, Bool.false_eq_true, ↓reduceIte,
    depart_comm canvas other]

include live in
/-- Who disconnects after the other has destroyed the canvas frees nothing. -/
theorem destroy_disconnect :
    (canvas.afterLeaving username .destroy).afterLeaving other .disconnect =
      if canvasHasConnectedUser (canvas.depart username) then (canvas.depart username).depart other
      else ((canvas.depart username).depart other).freed := by
  simp only [CanvasRecord.afterLeaving, live.2, Bool.false_eq_true, ↓reduceIte,
    CanvasRecord.settled]
  split
  · rfl
  · exact freed_depart _ _

/-- What `LastDisconnects` says of the test that `handles_destroy_canvas_for_user` makes. -/
theorem lastDisconnects_iff (distinct : username ≠ other)
    (member : username ∈ canvas.names) (leaver : other ∈ canvas.names) :
    canvas.LastDisconnects username other ↔
      canvasHasConnectedUser (canvas.depart username) = true ∧
        canvasHasConnectedUser ((canvas.depart username).depart other) = false := by
  obtain ⟨user, found⟩ := Option.isSome_iff_exists.mp (findSharedUser_isSome.mpr member)
  obtain ⟨second, hit⟩ := Option.isSome_iff_exists.mp (findSharedUser_isSome.mpr leaver)
  have apart : second ≠ user := by
    rintro rfl
    obtain ⟨this, there, named⟩ := CanvasRecord.findSharedUser_some found
    obtain ⟨that, again, called⟩ := CanvasRecord.findSharedUser_some hit
    obtain rfl := Option.some.inj (there.symm.trans again)
    exact distinct (named.symm.trans called)
  rw [← Bool.not_eq_true, CanvasRecord.canvasHasConnectedUser_iff,
    CanvasRecord.canvasHasConnectedUser_iff,
    CanvasRecord.barrier_depart ((findSharedUser_depart canvas username other).trans hit),
    CanvasRecord.barrier_depart found, Set.not_nonempty_iff_eq_empty, Set.eq_empty_iff_forall_notMem]
  constructor
  · rintro ⟨this, that, again, once, connected, others⟩
    obtain rfl := Option.some.inj (found.symm.trans again)
    obtain rfl := Option.some.inj (hit.symm.trans once)
    refine ⟨⟨_, connected, apart⟩, ?_⟩
    rintro third ⟨⟨inside, notFirst⟩, notSecond⟩
    exact (others third inside).elim notFirst notSecond
  · rintro ⟨⟨last, connected, notFirst⟩, empty⟩
    have others : ∀ third, canvas.ConnectedAt third → third = user ∨ third = second := by
      intro third inside
      by_contra neither
      obtain ⟨notUser, notSecond⟩ := not_or.mp neither
      exact empty third ⟨⟨inside, notUser⟩, notSecond⟩
    refine ⟨user, second, found, hit, ?_, others⟩
    exact ((others last connected).resolve_left notFirst) ▸ connected

include formed live in
/-- A destruction and a disconnection leave the same record in both orders unless the order
shows. -/
theorem mixed_iff (distinct : username ≠ other) (member : username ∈ canvas.names)
    (leaver : other ∈ canvas.names) :
    (canvas.afterLeaving username .destroy).afterLeaving other .disconnect =
        (canvas.afterLeaving other .disconnect).afterLeaving username .destroy ↔
      ¬ canvas.LastDisconnects username other := by
  have unmarked : ((canvas.depart username).depart other).deleted = false :=
    (depart_object _ _).2.1.trans (depart_unmarked live username)
  rw [destroy_disconnect live, disconnect_destroy live, CanvasRecord.settled,
    lastDisconnects_iff distinct member leaver]
  cases before : canvasHasConnectedUser (canvas.depart username) with
  | false =>
    have nobody : canvasHasConnectedUser ((canvas.depart username).depart other) = false := by
      rw [depart_unused before (depart_wellFormed formed username)]
      exact before
    simp only [nobody, Bool.false_eq_true, ↓reduceIte, false_and, not_false_eq_true]
  | true =>
    cases after : canvasHasConnectedUser ((canvas.depart username).depart other) with
    | true => simp only [↓reduceIte, Bool.true_eq_false, and_false, not_false_eq_true]
    | false =>
      -- the record is left as it is in one order, and freed in the other
      refine iff_of_false (fun same => ?_) (fun kept => kept ⟨rfl, rfl⟩)
      have marked := congrArg CanvasRecord.deleted same
      simp only [↓reduceIte, Bool.false_eq_true, CanvasRecord.freed, unmarked] at marked

include formed live in
/-- Two departures leave the same record in both orders unless the order shows. -/
theorem afterLeaving_comm_iff (distinct : username ≠ other) (member : username ∈ canvas.names)
    (leaver : other ∈ canvas.names) (first second : Leaving) :
    (canvas.afterLeaving username first).afterLeaving other second =
        (canvas.afterLeaving other second).afterLeaving username first ↔
      ¬ OrderShows canvas username other first second := by
  cases first with
  | destroy =>
    cases second with
    | destroy =>
      refine iff_of_true ?_ id
      rw [destroy_destroy formed live, destroy_destroy formed live, depart_comm]
    | disconnect => exact mixed_iff formed live distinct member leaver
  | disconnect =>
    cases second with
    | destroy => exact eq_comm.trans (mixed_iff formed live distinct.symm leaver member)
    | disconnect => exact iff_of_true (depart_comm canvas username other) id

end Records

/-! ## What departures do to the store -/

section Stores

variable {store : HandleStore} {record : CanvasPtr} {canvas : CanvasRecord}
  {username other : Bytes} {first second : Leaving}

/-- Who leaves is a member. -/
theorem Leaving.Concerns.member (concerned : first.Concerns store record canvas username)
    (present : store.canvases[record]? = some canvas) : username ∈ canvas.names := by
  cases first with
  | destroy =>
    obtain ⟨user, found⟩ := canvasFor_present concerned present
    exact findSharedUser_isSome.mp (found ▸ rfl)
  | disconnect => exact concerned.2

/-- The record of a live canvas after a departure from it. -/
theorem Leaving.step_live (live : canvas.Live) (present : store.canvases[record]? = some canvas)
    (concerned : first.Concerns store record canvas username) :
    ((first.step canvas.id username).apply store).canvases[record]? =
      some (canvas.afterLeaving username first) := by
  cases first with
  | destroy =>
    simp only [Leaving.step, CanvasStep.apply, handlesDestroyCanvasForUser,
      handlesGetCanvas_some concerned, canvases_onCanvas, canvases_updateCanvas, ↓reduceIte,
      present, Option.map_some, destroyFor_settled live, CanvasRecord.afterLeaving, live.2,
      Bool.false_eq_true]
  | disconnect =>
    have kept : canvas.deleted = true → canvas.canvas = none := by
      rw [live.2]
      exact fun impossible => absurd impossible Bool.false_ne_true
    simp only [Leaving.step, CanvasStep.apply, handlesDisconnectUser, if_neg concerned.1,
      List.getElem?_map, present, Option.map_some, disconnect_eq kept, CanvasRecord.afterLeaving]

/-- The record of a freed canvas after what would have been a departure from it. -/
theorem Leaving.step_freed (marked : canvas.deleted = true) (gone : canvas.canvas = none)
    (present : store.canvases[record]? = some canvas)
    (named : first = .disconnect → username ≠ []) (id : UInt64) :
    ((first.step id username).apply store).canvases[record]? =
      some (canvas.afterLeaving username first) := by
  cases first with
  | destroy =>
    obtain ⟨after, there, change⟩ :=
      CanvasStep.apply_record present (.destroyCanvas id username)
    rw [Leaving.step, there, CanvasRecord.afterLeaving, if_pos marked]
    cases change with
    | kept stays => rfl
    | destroyed found member =>
      obtain ⟨hit, -, again, -, -, unmarked, -⟩ := canvasFor_some found
      obtain rfl := Option.some.inj (present.symm.trans again)
      rw [marked] at unmarked
      cases unmarked
  | disconnect =>
    simp only [Leaving.step, CanvasStep.apply, handlesDisconnectUser, if_neg (named rfl),
      List.getElem?_map, present, Option.map_some, disconnect_eq fun _ => gone,
      CanvasRecord.afterLeaving]

/-- A departure leaves the canvas live or frees it, and keeps its handle and its members. -/
theorem CanvasRecord.afterLeaving_live (live : canvas.Live) (username : Bytes) (event : Leaving) :
    ((canvas.afterLeaving username event).Live ∨
      (canvas.afterLeaving username event).deleted = true ∧
        (canvas.afterLeaving username event).canvas = none) ∧
    (canvas.afterLeaving username event).id = canvas.id ∧
    (canvas.afterLeaving username event).names = canvas.names ∧
    ((canvas.afterLeaving username event).Live → ∀ id name,
      (canvas.afterLeaving username event).answers id name = canvas.answers id name) := by
  obtain ⟨object, mark, handle⟩ := depart_object canvas username
  have stays : (canvas.depart username).Live := ⟨object ▸ live.1, mark.trans live.2⟩
  cases event with
  | destroy =>
    simp only [CanvasRecord.afterLeaving, live.2, Bool.false_eq_true, ↓reduceIte, settled]
    split
    · exact ⟨.inl stays, handle, names_depart canvas username,
        fun _ id name => answers_depart canvas username name id⟩
    · refine ⟨.inr ⟨rfl, rfl⟩, handle, names_depart canvas username, ?_⟩
      rintro ⟨gone, -⟩
      cases gone
  | disconnect =>
    exact ⟨.inl stays, handle, names_depart canvas username,
      fun _ id name => answers_depart canvas username name id⟩

/-- While the canvas is live, the other user's departure concerns it as before. -/
theorem Leaving.concerns_after (live : canvas.Live)
    (present : store.canvases[record]? = some canvas)
    (concerned : first.Concerns store record canvas username)
    (later : second.Concerns store record canvas other)
    (stays : (canvas.afterLeaving username first).Live) :
    second.Concerns ((first.step canvas.id username).apply store) record
      (canvas.afterLeaving username first) other := by
  obtain ⟨-, handle, names, answers⟩ := CanvasRecord.afterLeaving_live live username first
  cases second with
  | disconnect => exact ⟨later.1, names ▸ later.2⟩
  | destroy =>
    -- no canvas changes whom it answers, so that the lookup finds the same one
    have same : ((first.step canvas.id username).apply store).canvases.map
        (fun canvas_ => canvas_.answers canvas.id other) =
        store.canvases.map fun canvas_ => canvas_.answers canvas.id other := by
      apply List.ext_getElem?
      intro index
      simp only [List.getElem?_map]
      by_cases here : index = record
      · subst here
        rw [Leaving.step_live live present concerned, present]
        exact congrArg some (answers stays canvas.id other)
      · cases first with
        | destroy =>
          simp only [Leaving.step, CanvasStep.apply, handlesDestroyCanvasForUser,
            handlesGetCanvas_some concerned, canvases_onCanvas, canvases_updateCanvas,
            if_neg (Ne.symm here)]
        | disconnect =>
          simp only [Leaving.step, CanvasStep.apply, handlesDisconnectUser, if_neg concerned.1,
            List.getElem?_map, Option.map_map, Function.comp_def, answers_disconnect]
    rw [Leaving.Concerns, handle, canvasFor, newest?_congr same]
    exact later

/-- The record after two departures. -/
theorem Leaving.step_step (live : canvas.Live) (present : store.canvases[record]? = some canvas)
    (concerned : first.Concerns store record canvas username)
    (later : second.Concerns store record canvas other) :
    ((second.step canvas.id other).apply
        ((first.step canvas.id username).apply store)).canvases[record]? =
      some ((canvas.afterLeaving username first).afterLeaving other second) := by
  obtain ⟨status, handle, -, -⟩ := CanvasRecord.afterLeaving_live live username first
  have between := Leaving.step_live live present concerned
  rcases status with stays | ⟨marked, gone⟩
  · have follows := Leaving.step_live stays between
      (Leaving.concerns_after live present concerned later stays)
    rw [handle] at follows
    exact follows
  · refine Leaving.step_freed marked gone between (fun ends => ?_) canvas.id
    rw [ends] at later
    exact later.1

end Stores

/-! ## Both orders -/

/-- In every reachable state, two distinct members leave the canvas in the same state in both
orders, unless one destroys the canvas while the other, the only other connected member,
disconnects. -/
theorem leave_in_any_order_iff {auth : AuthDb} {labels : List RpcLabel} {state : RpcState}
    {record : CanvasPtr} {canvas : CanvasRecord} {username other : Bytes} {first second : Leaving}
    (ran : (rpcMachine auth).run {} labels = some state)
    (present : state.world.store.canvases[record]? = some canvas) (live : canvas.Live)
    (distinct : username ≠ other)
    (leaves : first.Concerns state.world.store record canvas username)
    (follows : second.Concerns state.world.store record canvas other) :
    ((second.step canvas.id other).apply
        ((first.step canvas.id username).apply state.world.store)).canvases[record]? =
      ((first.step canvas.id username).apply
        ((second.step canvas.id other).apply state.world.store)).canvases[record]? ↔
      ¬ OrderShows canvas username other first second := by
  obtain ⟨sections, sectioned⟩ := rpcMachine_run_canvasSteps ran
  have kept : ∀ store section_ after, (∀ canvas ∈ store.canvases, canvas.barrier.WellFormed) →
      canvasMachine.step store section_ = some after →
      ∀ canvas ∈ after.canvases, canvas.barrier.WellFormed := by
    intro store section_ after formed step
    obtain rfl := Option.some.inj step
    exact section_.apply_wellFormed formed
  have formed : canvas.barrier.WellFormed :=
    Machine.run_invariant kept (by simp) sectioned canvas (List.mem_of_getElem? present)
  rw [Leaving.step_step live present leaves follows, Leaving.step_step live present follows leaves,
    Option.some.injEq]
  exact afterLeaving_comm_iff formed live distinct (leaves.member present) (follows.member present)
    first second

/-- Ann and Bob may destroy their canvas in any order. -/
theorem leave_in_any_order_iff_both : ∃ state canvas,
    (rpcMachine [⟨bytes "ann", 1⟩, ⟨bytes "bob", 1⟩]).run {} annAndBobConnected = some state ∧
    state.world.store.canvases[0]? = some canvas ∧
    (((Leaving.destroy.step canvas.id (bytes "bob")).apply
        ((Leaving.destroy.step canvas.id (bytes "ann")).apply state.world.store)).canvases[0]? =
      ((Leaving.destroy.step canvas.id (bytes "ann")).apply
        ((Leaving.destroy.step canvas.id (bytes "bob")).apply state.world.store)).canvases[0]? ↔
      ¬ OrderShows canvas (bytes "ann") (bytes "bob") .destroy .destroy) :=
  ⟨_, _, rfl, rfl, @leave_in_any_order_iff [⟨bytes "ann", 1⟩, ⟨bytes "bob", 1⟩] annAndBobConnected
    _ 0 _ (bytes "ann") (bytes "bob") .destroy .destroy rfl rfl ⟨rfl, rfl⟩ (by decide) rfl rfl⟩

/-- Where Ann destroys the canvas and Bob disconnects, it is freed only if Bob is first. -/
theorem leave_in_any_order_false : ∃ state canvas,
    (rpcMachine [⟨bytes "ann", 1⟩, ⟨bytes "bob", 1⟩]).run {} annAndBobConnected = some state ∧
    state.world.store.canvases[0]? = some canvas ∧ canvas.Live ∧
    Leaving.destroy.Concerns state.world.store 0 canvas (bytes "ann") ∧
    Leaving.disconnect.Concerns state.world.store 0 canvas (bytes "bob") ∧
    ((Leaving.disconnect.step canvas.id (bytes "bob")).apply
        ((Leaving.destroy.step canvas.id (bytes "ann")).apply state.world.store)).canvases[0]? ≠
      ((Leaving.destroy.step canvas.id (bytes "ann")).apply
        ((Leaving.disconnect.step canvas.id (bytes "bob")).apply state.world.store)).canvases[0]? := by
  refine ⟨_, _, rfl, rfl, ⟨rfl, rfl⟩, rfl, ⟨by decide, by decide⟩, ?_⟩
  decide

end AnimateService
