import AnimateService.Handles
import AnimateService.Library.Barrier

/-!
# A canvas as a barrier

The two flags of its members make a canvas record a barrier of member addresses. The record
functions of the handle store refine the operations of that barrier: a lookup joins, a barrier
call arrives, destroying and disconnecting leave, and everything else keeps it.
-/
namespace AnimateService

open LinkedList Rendezvous

namespace CanvasRecord

variable (canvas : CanvasRecord) (username : Bytes)

/-- The member at an address is connected. -/
def ConnectedAt (user : UserPtr) : Prop :=
  ∃ member, canvas.users[user]? = some member ∧ member.connected = true

/-- The member at an address waits at the barrier. -/
def WaitingAt (user : UserPtr) : Prop :=
  ∃ member, canvas.users[user]? = some member ∧ member.barrierWaiting = true

/-- The barrier that the members' flags describe. -/
def barrier : Barrier UserPtr :=
  { connected := {user | canvas.ConnectedAt user}, waiting := {user | canvas.WaitingAt user} }

variable {canvas username}

@[simp] theorem mem_connected {user : UserPtr} :
    user ∈ canvas.barrier.connected ↔ canvas.ConnectedAt user := Iff.rfl

@[simp] theorem mem_waiting {user : UserPtr} :
    user ∈ canvas.barrier.waiting ↔ canvas.WaitingAt user := Iff.rfl

/-- Records with the same members are the same barrier. -/
theorem barrier_congr {other : CanvasRecord} (same : canvas.users = other.users) :
    canvas.barrier = other.barrier := by
  simp only [barrier, ConnectedAt, WaitingAt, same]

/-- A member found by name exists, under that name. -/
theorem findSharedUser_some {user : UserPtr} (found : findSharedUser canvas username = some user) :
    ∃ member, canvas.users[user]? = some member ∧ member.username = username := by
  obtain ⟨member, present, named⟩ := newest?_some found
  exact ⟨member, present, by simpa using named⟩

/-- Reading a member after a write to one address. -/
theorem users_updateUser (user other : UserPtr) (write : SharedUser → SharedUser) :
    (canvas.updateUser user write).users[other]? =
      if user = other then (canvas.users[other]?).map write else canvas.users[other]? := by
  simp only [updateUser, List.getElem?_modify]
  split
  · rfl
  · simp

/-- A write that keeps names does not change which member a name finds. -/
theorem findSharedUser_updateUser (user : UserPtr) (write : SharedUser → SharedUser)
    (kept : ∀ member, (write member).username = member.username) :
    findSharedUser (canvas.updateUser user write) username = findSharedUser canvas username := by
  apply newest?_congr
  apply List.ext_getElem?
  intro index
  simp only [List.getElem?_map, users_updateUser]
  split
  · cases canvas.users[index]? <;> simp [kept]
  · rfl

/-- A lookup joins the member it was made for. -/
theorem barrier_connect {user : UserPtr} (found : findSharedUser canvas username = some user) :
    (canvas.connect username).barrier = canvas.barrier.join user := by
  obtain ⟨member, present, -⟩ := findSharedUser_some found
  simp only [connect, found]
  ext other
  · simp only [mem_connected, ConnectedAt, users_updateUser, Barrier.join, Set.mem_insert_iff]
    by_cases same : user = other
    · subst same
      simp [present]
    · simp [same, Ne.symm same]
  · simp only [mem_waiting, WaitingAt, users_updateUser, Barrier.join]
    by_cases same : user = other
    · subst same
      simp [present]
    · simp [same]

/-- Departing removes the member of that name. -/
theorem barrier_depart {user : UserPtr} (found : findSharedUser canvas username = some user) :
    (canvas.depart username).barrier = canvas.barrier.leave user := by
  obtain ⟨member, present, -⟩ := findSharedUser_some found
  simp only [depart, found]
  ext other
  · simp only [mem_connected, ConnectedAt, users_updateUser, Barrier.leave, Set.mem_sdiff,
      Set.mem_singleton_iff]
    by_cases same : user = other
    · subst same
      simp [present]
    · simp [same, Ne.symm same]
  · simp only [mem_waiting, WaitingAt, users_updateUser, Barrier.leave, Set.mem_sdiff,
      Set.mem_singleton_iff]
    by_cases same : user = other
    · subst same
      simp [present]
    · simp [same, Ne.symm same]

/-- Setting the flag of a member marks its arrival. -/
theorem barrier_arrive {user : UserPtr} (found : findSharedUser canvas username = some user) :
    (canvas.arrive user).barrier = canvas.barrier.mark user := by
  obtain ⟨member, present, -⟩ := findSharedUser_some found
  ext other
  · simp only [mem_connected, ConnectedAt, arrive, users_updateUser, Barrier.mark]
    by_cases same : user = other
    · subst same
      simp [present]
    · simp [same]
  · simp only [mem_waiting, WaitingAt, arrive, users_updateUser, Barrier.mark, Set.mem_insert_iff]
    by_cases same : user = other
    · subst same
      simp [present]
    · simp [same, Ne.symm same]

/-- Clearing all flags releases the barrier. -/
theorem barrier_release : canvas.release.barrier = canvas.barrier.release := by
  ext other
  · simp only [mem_connected, ConnectedAt, release, Barrier.release, List.getElem?_map]
    cases canvas.users[other]? <;> simp
  · simp only [mem_waiting, WaitingAt, release, Barrier.release, List.getElem?_map]
    cases canvas.users[other]? <;> simp

/-- Destroying the library canvas keeps the members. -/
theorem maybeDestroyCanvas_users : (maybeDestroyCanvas canvas).1.users = canvas.users := by
  unfold maybeDestroyCanvas
  split
  · split <;> rfl
  · rfl

/-- `handles_destroy_canvas_for_user` departs. -/
theorem destroyFor_users : (canvas.destroyFor username).1.users = (canvas.depart username).users := by
  unfold destroyFor
  rw [maybeDestroyCanvas_users]
  split <;> rfl

/-- `handles_disconnect_user` departs. -/
theorem disconnect_users :
    (canvas.disconnect username).1.users = (canvas.depart username).users := by
  unfold disconnect
  cases found : findSharedUser canvas username with
  | none => simp only [depart, found]
  | some user => exact maybeDestroyCanvas_users

/-- The barrier test reads the flags as completeness. -/
theorem canvasBarrierComplete_iff : canvasBarrierComplete canvas = true ↔ canvas.barrier.Complete := by
  simp only [canvasBarrierComplete, List.all_eq_true, Bool.or_eq_true, Bool.not_eq_eq_eq_not,
    Bool.not_true]
  constructor
  · rintro every user ⟨member, present, connected⟩
    rcases every member (List.mem_of_getElem? present) with away | waits
    · rw [connected] at away
      cases away
    · exact ⟨member, present, waits⟩
  · intro complete member inside
    obtain ⟨user, present⟩ := List.mem_iff_getElem?.mp inside
    cases connected : member.connected with
    | false => exact .inl rfl
    | true =>
      obtain ⟨same, found, waits⟩ := complete ⟨member, present, connected⟩
      obtain rfl := Option.some.inj (present.symm.trans found)
      exact .inr waits

/-- Some member is connected. -/
theorem canvasHasConnectedUser_iff :
    canvasHasConnectedUser canvas = true ↔ canvas.barrier.connected.Nonempty := by
  simp only [canvasHasConnectedUser, List.any_eq_true]
  constructor
  · rintro ⟨member, inside, connected⟩
    obtain ⟨user, present⟩ := List.mem_iff_getElem?.mp inside
    exact ⟨user, member, present, connected⟩
  · rintro ⟨user, member, present, connected⟩
    exact ⟨member, List.mem_of_getElem? present, connected⟩

/-- A member added with a flag clear does not change who has that flag set. -/
theorem flag_append (flag : SharedUser → Bool) {users : List SharedUser} {added : SharedUser}
    (clear : flag added = false) (other : UserPtr) :
    (∃ member, (users ++ [added])[other]? = some member ∧ flag member = true) ↔
      ∃ member, users[other]? = some member ∧ flag member = true := by
  rcases lt_trichotomy other users.length with before | rfl | after
  · simp [List.getElem?_append_left before]
  · simp [clear]
  · have past : (users ++ [added]).length ≤ other := by
      rw [List.length_append]
      exact after
    simp [List.getElem?_eq_none (Nat.le_of_lt after), List.getElem?_eq_none past]

/-- A shared user is added with both flags clear, so the barrier is kept. -/
theorem barrier_share (memory : Bool) :
    (canvasRecordShare canvas username memory).2.barrier = canvas.barrier := by
  unfold canvasRecordShare
  split
  · rfl
  · cases memory with
    | false => rfl
    | true =>
      ext other
      · exact flag_append SharedUser.connected rfl other
      · exact flag_append SharedUser.barrierWaiting rfl other

/-- `canvas_record_barrier` is an arrival: it releases everybody exactly when all connected
members have arrived, and otherwise leaves the member's flag set. -/
theorem canvasRecordBarrier_spec {user : UserPtr}
    (found : findSharedUser canvas username = some user) :
    (canvasRecordBarrier canvas username = .released (canvas.arrive user).release ∧
      (canvas.arrive user).barrier.Complete) ∨
    (canvasRecordBarrier canvas username = .waits user (canvas.arrive user) ∧
      ¬ (canvas.arrive user).barrier.Complete) := by
  have complete : canvasBarrierComplete (canvas.arrive user) = true ↔
      (canvas.arrive user).barrier.Complete := canvasBarrierComplete_iff
  simp only [canvasRecordBarrier, found]
  cases tested : canvasBarrierComplete (canvas.arrive user) with
  | true => exact .inl ⟨rfl, complete.mp tested⟩
  | false => exact .inr ⟨rfl, fun all => by rw [complete.mpr all] at tested; cases tested⟩

end CanvasRecord
end AnimateService
