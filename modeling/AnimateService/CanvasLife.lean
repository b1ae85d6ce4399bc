import AnimateService.HandleMap

/-!
# The life of a canvas

A canvas is live from its creation until the last connected member destroys it, which marks and
frees it in one section. A disconnection calls `maybe_destroy_canvas` as well, but no canvas is ever
marked and not freed, so that nothing else ends the life of a canvas.
-/
namespace AnimateService

open LinkedList Rendezvous

/-- The canvas is neither destroyed nor marked. -/
def CanvasRecord.Live (canvas : CanvasRecord) : Prop :=
  canvas.canvas.isSome = true ∧ canvas.deleted = false

/-- The record of a canvas that was marked and destroyed. -/
def CanvasRecord.freed (canvas : CanvasRecord) : CanvasRecord :=
  { canvas with deleted := true, canvas := none }

/-- The record after a member destroyed the canvas and left: freed if nobody is connected. -/
def CanvasRecord.settled (canvas : CanvasRecord) : CanvasRecord :=
  if canvasHasConnectedUser canvas then canvas else canvas.freed

section Records

variable {canvas : CanvasRecord} {username other : Bytes}

/-! ## Departures from a record -/

/-- Departing does not change which member a name finds. -/
theorem findSharedUser_depart (canvas : CanvasRecord) (username name : Bytes) :
    findSharedUser (canvas.depart username) name = findSharedUser canvas name := by
  unfold CanvasRecord.depart
  split
  · exact CanvasRecord.findSharedUser_updateUser _ _ fun _ => rfl
  · rfl

/-- Departing clears both flags of the member that is found. -/
theorem depart_some {user : UserPtr} (found : findSharedUser canvas username = some user) :
    canvas.depart username = canvas.updateUser user fun member =>
      { member with connected := false, barrierWaiting := false } := by
  rw [CanvasRecord.depart, found]

/-- Who is no member cannot depart. -/
theorem depart_none (missing : findSharedUser canvas username = none) :
    canvas.depart username = canvas := by
  rw [CanvasRecord.depart, missing]

/-- Departures of two users commute. -/
theorem depart_comm (canvas : CanvasRecord) (username other : Bytes) :
    (canvas.depart username).depart other = (canvas.depart other).depart username := by
  cases first : findSharedUser canvas username with
  | none => rw [depart_none first, depart_none ((findSharedUser_depart _ _ _).trans first)]
  | some user =>
    cases second : findSharedUser canvas other with
    | none => rw [depart_none second, depart_none ((findSharedUser_depart _ _ _).trans second)]
    | some member =>
      rw [depart_some ((findSharedUser_depart _ _ _).trans second), depart_some first,
        depart_some ((findSharedUser_depart _ _ _).trans first), depart_some second]
      by_cases same : user = member
      · rw [same]
      · simp only [CanvasRecord.updateUser, List.modify_modify_ne _ _ _ same]

/-- A user that is connected before departing departs as if it had not been. -/
theorem depart_connect (canvas : CanvasRecord) (username : Bytes) :
    (canvas.connect username).depart username = canvas.depart username := by
  have again := findSharedUser_connect canvas username username
  cases found : findSharedUser canvas username with
  | none => simp only [CanvasRecord.connect, found]
  | some user =>
    rw [depart_some (again.trans found), depart_some found]
    simp only [CanvasRecord.connect, found, CanvasRecord.updateUser, List.modify_modify_eq]
    rfl

/-- Departing from a freed canvas. -/
theorem freed_depart (canvas : CanvasRecord) (username : Bytes) :
    canvas.freed.depart username = (canvas.depart username).freed := by
  have same : findSharedUser canvas.freed username = findSharedUser canvas username := rfl
  cases found : findSharedUser canvas username with
  | none => simp only [CanvasRecord.depart, same, found]
  | some user =>
    simp only [CanvasRecord.depart, same, found]
    rfl

/-- A member that destroys a live canvas departs, and frees the canvas if it was the last. -/
theorem destroyFor_settled (live : canvas.Live) :
    ((canvas.connect username).destroyFor username).1 = (canvas.depart username).settled := by
  obtain ⟨object, alive⟩ := Option.isSome_iff_exists.mp live.1
  obtain ⟨same, unmarked, -⟩ := connect_object canvas username
  rw [destroyFor_eq (same.trans alive) (unmarked.trans live.2), depart_connect]
  rfl

/-- Disconnecting from a canvas that is not about to be destroyed is departing. -/
theorem disconnect_eq (kept : canvas.deleted = true → canvas.canvas = none) :
    (canvas.disconnect username).1 = canvas.depart username := by
  obtain ⟨same, mark, -⟩ := depart_object canvas username
  unfold CanvasRecord.disconnect
  split
  · unfold maybeDestroyCanvas
    split
    · rename_i object there
      have unmarked : canvas.deleted = false := by
        by_contra marked
        rw [same, kept (by simpa using marked)] at there
        cases there
      rw [mark, unmarked]
      rfl
    · rfl
  · rename_i missing
    exact (depart_none missing).symm

/-- A departure changes neither the members' names nor, if it frees nothing, whom the canvas
answers. -/
theorem answers_depart (canvas : CanvasRecord) (username other : Bytes) (id : UInt64) :
    (canvas.depart username).answers id other = canvas.answers id other := by
  obtain ⟨object, mark, handle⟩ := depart_object canvas username
  simp only [CanvasRecord.answers, findSharedUser_depart, object, mark, handle]

/-- A canvas that is marked answers nobody. -/
theorem answers_marked (marked : canvas.deleted = true) (id : UInt64) :
    canvas.answers id username = false := by
  simp [CanvasRecord.answers, marked]

/-- Disconnecting a user changes nothing about whom the canvas answers. -/
theorem answers_disconnect (canvas : CanvasRecord) (username other : Bytes) (id : UInt64) :
    (canvas.disconnect username).1.answers id other = canvas.answers id other := by
  rw [← answers_depart canvas username]
  unfold CanvasRecord.disconnect
  split
  · cases marked : (canvas.depart username).deleted with
    | false =>
      unfold maybeDestroyCanvas
      split
      · rw [marked]
        rfl
      · rfl
    | true =>
      rw [answers_marked marked]
      apply answers_marked
      unfold maybeDestroyCanvas
      split
      · split <;> exact marked
      · exact marked
  · rename_i missing
    rw [depart_none missing]

/-! ## What ends a canvas -/

/-- Sharing keeps what is not about members. -/
theorem share_object (canvas : CanvasRecord) (target : Bytes) (memory : Bool) :
    (canvasRecordShare canvas target memory).2.canvas = canvas.canvas ∧
      (canvasRecordShare canvas target memory).2.deleted = canvas.deleted ∧
      (canvasRecordShare canvas target memory).2.id = canvas.id := by
  unfold canvasRecordShare
  split
  · exact ⟨rfl, rfl, rfl⟩
  · split <;> exact ⟨rfl, rfl, rfl⟩

/-- A destruction by a member frees the canvas exactly if nobody else is connected. -/
theorem destroyFor_live_iff (live : canvas.Live) :
    ((canvas.connect username).destroyFor username).1.Live ↔
      canvasHasConnectedUser (canvas.depart username) = true := by
  obtain ⟨same, mark, -⟩ := depart_object canvas username
  rw [destroyFor_settled live, CanvasRecord.settled]
  cases connected : canvasHasConnectedUser (canvas.depart username) with
  | true => exact iff_of_true ⟨same ▸ live.1, mark.trans live.2⟩ rfl
  | false =>
    refine iff_of_false ?_ Bool.false_ne_true
    rintro ⟨gone, -⟩
    cases gone

/-- The section destroys the canvas for its last connected member. -/
def CanvasStep.Frees (store : HandleStore) (record : CanvasPtr) (step : CanvasStep) : Prop :=
  ∃ canvasId username canvas, step = .destroyCanvas canvasId username ∧
    canvasFor store canvasId username = some record ∧
    store.canvases[record]? = some canvas ∧
    canvasHasConnectedUser (canvas.depart username) = false

/-- A live canvas stays live unless its last connected member destroys it. -/
theorem RecordChange.live_iff {store : HandleStore} {record : CanvasPtr} {after : CanvasRecord}
    {step : CanvasStep} (present : store.canvases[record]? = some canvas)
    (change : RecordChange store record canvas step after) (live : canvas.Live) :
    after.Live ↔ ¬ step.Frees store record := by
  have connected : ∀ name, (canvas.connect name).Live := by
    intro name
    obtain ⟨same, mark, -⟩ := connect_object canvas name
    exact ⟨same ▸ live.1, mark.trans live.2⟩
  cases change with
  | kept stays =>
    refine iff_of_true live ?_
    rintro ⟨canvasId, username, hit, rfl, found, there, -⟩
    obtain ⟨user, member⟩ := canvasFor_present found there
    simp [CanvasStep.departure, found, there, member] at stays
  | looked found member =>
    refine iff_of_true (connected _) ?_
    rintro ⟨_, _, _, impossible, -⟩
    cases impossible
  | shared found member =>
    rename_i canvasId username target memory user
    obtain ⟨same, mark, -⟩ := share_object (canvas.connect username) target memory
    refine iff_of_true ⟨same ▸ (connected username).1, mark.trans (connected username).2⟩ ?_
    rintro ⟨_, _, _, impossible, -⟩
    cases impossible
  | completed found member complete =>
    refine iff_of_true (connected _) ?_
    rintro ⟨_, _, _, impossible, -⟩
    cases impossible
  | arrived found member short =>
    refine iff_of_true (connected _) ?_
    rintro ⟨_, _, _, impossible, -⟩
    cases impossible
  | destroyed found member =>
    rw [destroyFor_live_iff live, ← Bool.not_eq_false, not_iff_not]
    constructor
    · exact fun last => ⟨_, _, canvas, rfl, found, present, last⟩
    · rintro ⟨_, _, hit, same, -, there, last⟩
      cases same
      obtain rfl := Option.some.inj (present.symm.trans there)
      exact last
  | disconnected named member =>
    rename_i username user
    obtain ⟨same, mark, -⟩ := depart_object canvas username
    have kept : canvas.deleted = true → canvas.canvas = none := by
      rw [live.2]
      exact fun impossible => absurd impossible Bool.false_ne_true
    rw [disconnect_eq kept]
    refine iff_of_true ⟨same ▸ live.1, mark.trans live.2⟩ ?_
    rintro ⟨_, _, _, impossible, -⟩
    cases impossible

/-- A section keeps the library canvas of a record unless it frees it. -/
theorem RecordChange.object {store : HandleStore} {record : CanvasPtr} {after : CanvasRecord}
    {step : CanvasStep} (present : store.canvases[record]? = some canvas)
    (marked : canvas.deleted = true → canvas.canvas = none)
    (change : RecordChange store record canvas step after) :
    after.canvas = canvas.canvas ∨ step.Frees store record := by
  cases change with
  | kept stays => exact .inl rfl
  | looked found member => exact .inl (connect_object _ _).1
  | shared found member => exact .inl ((share_object _ _ _).1.trans (connect_object _ _).1)
  | completed found member complete => exact .inl (connect_object canvas _).1
  | arrived found member short => exact .inl (connect_object canvas _).1
  | destroyed found member =>
    rename_i canvasId username user
    obtain ⟨hit, -, there, -, object, unmarked, -⟩ := canvasFor_some found
    obtain rfl := Option.some.inj (present.symm.trans there)
    rw [destroyFor_settled ⟨object, unmarked⟩, CanvasRecord.settled]
    cases connected : canvasHasConnectedUser (canvas.depart username) with
    | true => exact .inl (depart_object canvas username).1
    | false => exact .inr ⟨canvasId, username, canvas, rfl, found, present, connected⟩
  | disconnected named member =>
    rw [disconnect_eq marked]
    exact .inl (depart_object canvas _).1

/-- Freeing a canvas does not change its mark. -/
theorem maybeDestroyCanvas_deleted (canvas : CanvasRecord) :
    (maybeDestroyCanvas canvas).1.deleted = canvas.deleted := by
  unfold maybeDestroyCanvas
  split
  · split <;> rfl
  · rfl

/-- A section keeps the handle of a record, and its mark. -/
theorem RecordChange.mark {store : HandleStore} {record : CanvasPtr} {after : CanvasRecord}
    {step : CanvasStep} (change : RecordChange store record canvas step after) :
    after.id = canvas.id ∧ (canvas.deleted = true → after.deleted = true) := by
  have connected : ∀ name, (canvas.connect name).id = canvas.id ∧
      (canvas.connect name).deleted = canvas.deleted := by
    intro name
    obtain ⟨-, mark, handle⟩ := connect_object canvas name
    exact ⟨handle, mark⟩
  cases change with
  | kept stays => exact ⟨rfl, id⟩
  | looked found member =>
    obtain ⟨handle, mark⟩ := connected _
    exact ⟨handle, mark.trans⟩
  | shared found member =>
    rename_i canvasId username target memory user
    obtain ⟨handle, mark⟩ := connected username
    obtain ⟨-, marked, named⟩ := share_object (canvas.connect username) target memory
    exact ⟨named.trans handle, (marked.trans mark).trans⟩
  | completed found member complete =>
    obtain ⟨handle, mark⟩ := connected _
    exact ⟨handle, mark.trans⟩
  | arrived found member short =>
    obtain ⟨handle, mark⟩ := connected _
    exact ⟨handle, mark.trans⟩
  | destroyed found member =>
    rename_i canvasId username user
    obtain ⟨handle, mark⟩ := connected username
    obtain ⟨-, marked, named⟩ := depart_object (canvas.connect username) username
    simp only [CanvasRecord.destroyFor, maybeDestroyCanvas_id, maybeDestroyCanvas_deleted]
    split
    · exact ⟨named.trans handle, (marked.trans mark).trans⟩
    · exact ⟨named.trans handle, fun _ => rfl⟩
  | disconnected named member =>
    rename_i username user
    obtain ⟨-, mark, handle⟩ := depart_object canvas username
    simp only [CanvasRecord.disconnect, member, maybeDestroyCanvas_id, maybeDestroyCanvas_deleted]
    exact ⟨handle, mark.trans⟩

end Records

/-- The canvas at an address is live. -/
def HandleStore.CanvasLive (store : HandleStore) (record : CanvasPtr) : Prop :=
  ∃ canvas, store.canvases[record]? = some canvas ∧ canvas.Live

/-- A section leaves a live canvas live unless it frees it. -/
theorem CanvasStep.apply_live {store : HandleStore} {record : CanvasPtr} (step : CanvasStep)
    (live : store.CanvasLive record) :
    (step.apply store).CanvasLive record ↔ ¬ step.Frees store record := by
  obtain ⟨canvas, present, lives⟩ := live
  obtain ⟨after, there, change⟩ := CanvasStep.apply_record present step
  rw [← change.live_iff present lives]
  constructor
  · rintro ⟨found, again, stays⟩
    obtain rfl := Option.some.inj (there.symm.trans again)
    exact stays
  · exact fun stays => ⟨after, there, stays⟩

/-- A canvas that a lookup finds is live. -/
theorem canvasLive_of_found {store : HandleStore} {id : UInt64} {username : Bytes}
    {record : CanvasPtr} (found : canvasFor store id username = some record) :
    store.CanvasLive record := by
  obtain ⟨canvas, -, present, -, object, unmarked, -⟩ := canvasFor_some found
  exact ⟨canvas, present, object, unmarked⟩

end AnimateService
