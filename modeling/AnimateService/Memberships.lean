import AnimateService.Members
import AnimateService.Placements

/-!
# Whose canvas records change

A section changes a canvas record for one of its members only, and adds to its names only whom a
member shares it with. Nobody is connected to a canvas that is gone, so its record never changes.
-/
namespace AnimateService

/-! ## Canvases that nobody uses -/

/-- The library canvas is gone only when nobody is connected. -/
def CanvasRecord.Unused (canvas : CanvasRecord) : Prop :=
  canvas.canvas = none → canvasHasConnectedUser canvas = false

/-- Whoever is connected is a member, so departing connects nobody. -/
theorem unused_depart {canvas : CanvasRecord} {name : Bytes}
    (idle : canvasHasConnectedUser canvas = false) :
    canvasHasConnectedUser (canvas.depart name) = false := by
  cases found : findSharedUser canvas name with
  | none => simpa [CanvasRecord.depart, found] using idle
  | some user =>
    have left : (canvas.depart name).barrier = canvas.barrier.leave user :=
      CanvasRecord.barrier_depart found
    rw [Bool.eq_false_iff, ne_eq, CanvasRecord.canvasHasConnectedUser_iff, left]
    rw [Bool.eq_false_iff, ne_eq, CanvasRecord.canvasHasConnectedUser_iff] at idle
    rintro ⟨other, there⟩
    exact idle ⟨other, there.1⟩

/-- A library canvas is destroyed when nobody is connected. -/
theorem maybeDestroyCanvas_unused {canvas : CanvasRecord} (unused : canvas.Unused) :
    (maybeDestroyCanvas canvas).1.Unused := by
  have same : canvasHasConnectedUser (maybeDestroyCanvas canvas).1 = canvasHasConnectedUser canvas := by
    simp only [canvasHasConnectedUser, CanvasRecord.maybeDestroyCanvas_users]
  intro gone
  rw [same]
  unfold maybeDestroyCanvas at gone
  split at gone
  · split at gone
    · rename_i last
      simpa using (Bool.and_eq_true_iff.mp last).2
    · exact unused gone
  · exact unused gone

/-- A change of a record leaves nobody connected to a canvas that is gone. -/
theorem RecordChange.unused {store : HandleStore} {record : CanvasPtr} {canvas after : CanvasRecord}
    {step : CanvasStep} (present : store.canvases[record]? = some canvas)
    (change : RecordChange store record canvas step after) (unused : canvas.Unused) :
    after.Unused := by
  have live : ∀ {id name}, canvasFor store id name = some record → canvas.canvas ≠ none := by
    intro id name found
    obtain ⟨looked, user, there, -, alive, -⟩ := canvasFor_some found
    obtain rfl := Option.some.inj (present.symm.trans there)
    exact Option.isSome_iff_ne_none.mp alive
  cases change with
  | kept stays => exact unused
  | looked found member => exact fun gone => absurd ((connect_object canvas _).1 ▸ gone) (live found)
  | shared found member =>
    refine fun gone => absurd ?_ (live found)
    rw [← (connect_object canvas _).1]
    unfold canvasRecordShare at gone
    split at gone
    · exact gone
    · split at gone <;> exact gone
  | completed found member complete =>
    exact fun gone => absurd ((connect_object canvas _).1 ▸ gone) (live found)
  | arrived found member short =>
    exact fun gone => absurd ((connect_object canvas _).1 ▸ gone) (live found)
  | destroyed found member =>
    rename_i id username user
    have alive : ((canvas.connect username).depart username).canvas ≠ none := by
      rw [(depart_object _ _).1, (connect_object _ _).1]
      exact live found
    unfold CanvasRecord.destroyFor
    apply maybeDestroyCanvas_unused
    split
    · exact fun gone => absurd gone alive
    · exact fun gone => absurd gone alive
  | disconnected named member =>
    rename_i username user
    simp only [CanvasRecord.disconnect, member]
    refine maybeDestroyCanvas_unused fun gone => unused_depart (unused ?_)
    rwa [(depart_object _ _).1] at gone

/-- A user that is not connected to a canvas does not leave it. -/
theorem depart_unused {canvas : CanvasRecord} {name : Bytes}
    (idle : canvasHasConnectedUser canvas = false) (formed : canvas.barrier.WellFormed) :
    canvas.depart name = canvas := by
  cases found : findSharedUser canvas name with
  | none => simp [CanvasRecord.depart, found]
  | some user =>
    simp only [CanvasRecord.depart, found, CanvasRecord.updateUser]
    have away : ∀ member ∈ canvas.users, member.connected = false := by
      simpa [canvasHasConnectedUser] using idle
    have free : ∀ (index : Nat) (member : SharedUser), canvas.users[index]? = some member →
        member.barrierWaiting = false := by
      intro index member present
      by_contra waits
      obtain ⟨other, there, connected⟩ :=
        formed (a := index) ⟨member, present, by simpa using waits⟩
      obtain rfl := Option.some.inj (present.symm.trans there)
      simp [away _ (List.mem_of_getElem? present)] at connected
    have same : canvas.users.modify user (fun member =>
        { member with connected := false, barrierWaiting := false }) = canvas.users := by
      apply List.ext_getElem?
      intro index
      rw [List.getElem?_modify]
      split
      · cases present : canvas.users[index]? with
        | none => rfl
        | some member =>
          rcases member with ⟨username, connected, waits⟩
          obtain rfl : connected = false := away _ (List.mem_of_getElem? present)
          obtain rfl : waits = false := free index _ present
          rfl
      · exact id_map _
    rw [same]

/-! ## Who changes a record -/

/-- A record is changed for a member. -/
theorem RecordChange.member {store : HandleStore} {record : CanvasPtr} {canvas after : CanvasRecord}
    {step : CanvasStep} (change : RecordChange store record canvas step after)
    (changed : after ≠ canvas) : ∃ name, step.user = some name ∧ name ∈ canvas.names := by
  have inside : ∀ {name user}, findSharedUser canvas name = some user → name ∈ canvas.names := by
    intro name user found
    obtain ⟨shared, there, named⟩ := CanvasRecord.findSharedUser_some found
    exact List.mem_map.mpr ⟨shared, List.mem_of_getElem? there, named⟩
  cases change with
  | kept stays => exact absurd rfl changed
  | looked found member => exact ⟨_, rfl, inside member⟩
  | shared found member => exact ⟨_, rfl, inside member⟩
  | completed found member complete => exact ⟨_, rfl, inside member⟩
  | arrived found member short => exact ⟨_, rfl, inside member⟩
  | destroyed found member => exact ⟨_, rfl, inside member⟩
  | disconnected named member => exact ⟨_, rfl, inside member⟩

/-- The record of a canvas that is gone stays as it is. -/
theorem RecordChange.gone_kept {store : HandleStore} {record : CanvasPtr}
    {canvas after : CanvasRecord} {step : CanvasStep}
    (present : store.canvases[record]? = some canvas)
    (change : RecordChange store record canvas step after) (unused : canvas.Unused)
    (formed : canvas.barrier.WellFormed) (gone : canvas.canvas = none) : after = canvas := by
  have live : ∀ {id name}, canvasFor store id name ≠ some record := by
    intro id name found
    obtain ⟨looked, user, there, -, alive, -⟩ := canvasFor_some found
    obtain rfl := Option.some.inj (present.symm.trans there)
    rw [gone] at alive
    cases alive
  cases change with
  | kept stays => rfl
  | looked found member => exact absurd found live
  | shared found member => exact absurd found live
  | completed found member complete => exact absurd found live
  | arrived found member short => exact absurd found live
  | destroyed found member => exact absurd found live
  | disconnected named member =>
    simp only [CanvasRecord.disconnect, member, depart_unused (unused gone) formed,
      maybeDestroyCanvas, gone]

/-- A new name in a record is that of a user that the canvas was shared with. -/
theorem RecordChange.named {store : HandleStore} {record : CanvasPtr}
    {canvas after : CanvasRecord} {step : CanvasStep} {name : Bytes}
    (change : RecordChange store record canvas step after) (inside : name ∈ after.names) :
    name ∈ canvas.names ∨ ∃ id username target, step = .shareCanvas id username target true ∧
      canvasFor store id username = some record ∧ findSharedUser canvas target = none ∧
      name = copyUsername target := by
  cases change with
  | kept stays => exact .inl inside
  | looked found member => exact .inl (names_connect canvas _ ▸ inside)
  | shared found member =>
    rename_i id username target memory user
    unfold canvasRecordShare at inside
    rw [findSharedUser_connect] at inside
    split at inside
    · exact .inl (names_connect canvas _ ▸ inside)
    · rename_i missing
      cases memory with
      | false => exact .inl (names_connect canvas _ ▸ inside)
      | true =>
        simp only [↓reduceIte, CanvasRecord.names, List.map_append, List.mem_append, List.map_cons,
          List.map_nil, List.mem_singleton] at inside
        rcases inside with old | new
        · exact .inl (names_connect canvas username ▸ old)
        · exact .inr ⟨id, username, target, rfl, found, missing, new⟩
  | completed found member complete =>
    rw [names_release, names_arrive, names_connect] at inside
    exact .inl inside
  | arrived found member short =>
    rw [names_arrive, names_connect] at inside
    exact .inl inside
  | destroyed found member =>
    rw [names_congr CanvasRecord.destroyFor_users, names_depart, names_connect] at inside
    exact .inl inside
  | disconnected named member =>
    rw [names_congr CanvasRecord.disconnect_users, names_depart] at inside
    exact .inl inside

/-- Sharing with a new member succeeds when there is memory. -/
theorem shareSection_succeeds {store : HandleStore} {id : UInt64} {name target : Bytes}
    {record : CanvasPtr} {canvas : CanvasRecord} (found : canvasFor store id name = some record)
    (present : store.canvases[record]? = some canvas)
    (missing : findSharedUser canvas target = none) :
    (shareSection store id name target true).1 = some 0 := by
  have looked : (store.updateCanvas record fun canvas => canvas.connect name).canvases[record]? =
      some (canvas.connect name) := by
    simp [canvases_updateCanvas, present]
  simp [shareSection, handlesGetCanvas_some found, looked, canvasRecordShare,
    findSharedUser_connect, missing]

/-- The section that shares a canvas is that of `share_canvas`. -/
theorem Pc.canvasStep_share {answers : Answers} {session : Session} {store after : HandleStore}
    {pc : Pc} {id : UInt64} {username target : Bytes} {memory : Bool}
    (shares : pc.canvasStep answers session store after =
      .shareCanvas id username target memory) :
    pc = .locking (.shareCanvas id target) ∧ username = session.username ∧
      memory = answers.memory := by
  have step := pc.canvasStep_section answers session store after
  rw [shares] at step
  cases step
  exact ⟨rfl, rfl, rfl⟩

end AnimateService
