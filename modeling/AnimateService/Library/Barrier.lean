import Mathlib.Data.Set.Insert
import Mathlib.Data.Set.Lattice

/-!
# Barriers with a changing membership

A barrier of connected members, some of whom wait. Members join, arrive and leave. An arrival
releases everybody once all connected members wait; a departure only removes the member. The
barrier is stalled when somebody waits although every connected member does: nobody is left
whose arrival could release it. Arrivals and joins never stall a barrier, and a departure stalls
it exactly when the others were all waiting already.
-/
namespace Rendezvous

/-- The two membership sets of a barrier. -/
@[ext] structure Barrier (Member : Type) where
  /-- The members whose arrival the barrier waits for. -/
  connected : Set Member
  /-- The members that have arrived and not been released. -/
  waiting : Set Member

namespace Barrier

variable {Member : Type} (barrier : Barrier Member) (member : Member)

/-- Only connected members wait. -/
def WellFormed : Prop := barrier.waiting ⊆ barrier.connected

/-- Every connected member has arrived. -/
def Complete : Prop := barrier.connected ⊆ barrier.waiting

/-- Somebody waits and every connected member does. -/
def Stalled : Prop := barrier.waiting.Nonempty ∧ barrier.Complete

/-- A member becomes connected. -/
def join : Barrier Member := { barrier with connected := insert member barrier.connected }

/-- A member's arrival before it is known whether the barrier is complete. -/
def mark : Barrier Member := { barrier with waiting := insert member barrier.waiting }

/-- Everybody is let through. -/
def release : Barrier Member := { barrier with waiting := ∅ }

/-- A member is connected and waiting no more. -/
def leave : Barrier Member :=
  { connected := barrier.connected \ {member}, waiting := barrier.waiting \ {member} }

open Classical in
/-- A member arrives; the last arrival releases everybody. -/
noncomputable def arrive : Barrier Member :=
  if (barrier.mark member).Complete then barrier.release else barrier.mark member

/-- The others are waiting, at least one of them, and no other connected member is awaited: the
member's departure would leave them waiting for nobody. -/
def AwaitsOnly : Prop :=
  (∃ other ∈ barrier.waiting, other ≠ member) ∧
    ∀ other ∈ barrier.connected, other ≠ member → other ∈ barrier.waiting

variable {barrier member}

/-- Joining keeps the waiting members connected. -/
theorem WellFormed.join (formed : barrier.WellFormed) : (barrier.join member).WellFormed :=
  fun _ waits => Set.mem_insert_of_mem _ (formed waits)

/-- Leaving keeps the waiting members connected. -/
theorem WellFormed.leave (formed : barrier.WellFormed) : (barrier.leave member).WellFormed :=
  fun _ waits => ⟨formed waits.1, waits.2⟩

/-- After a release nobody waits. -/
theorem release_wellFormed : barrier.release.WellFormed := Set.empty_subset _

/-- The arrival of a connected member keeps the waiting members connected. -/
theorem WellFormed.arrive (formed : barrier.WellFormed) (connected : member ∈ barrier.connected) :
    (barrier.arrive member).WellFormed := by
  unfold Barrier.arrive
  split
  · exact release_wellFormed
  · exact Set.insert_subset connected formed

/-- A released barrier is not stalled. -/
theorem release_not_stalled : ¬ barrier.release.Stalled := fun stalled =>
  Set.not_nonempty_empty stalled.1

/-- An arrival never stalls a barrier: the one that would complete it releases it. -/
theorem arrive_not_stalled : ¬ (barrier.arrive member).Stalled := by
  unfold Barrier.arrive
  split
  · exact release_not_stalled
  · rename_i incomplete
    exact fun stalled => incomplete stalled.2

/-- A member that joins a barrier that is not stalled does not stall it. -/
theorem join_not_stalled (moving : ¬ barrier.Stalled) :
    ¬ (barrier.join member).Stalled := by
  rintro ⟨waits, complete⟩
  exact moving ⟨waits, fun other connected => complete (Set.mem_insert_of_mem _ connected)⟩

/-- A departure leaves a stalled barrier exactly when the others were waiting for that member
alone. -/
theorem leave_stalled_iff : (barrier.leave member).Stalled ↔ barrier.AwaitsOnly member := by
  constructor
  · rintro ⟨⟨other, waits, apart⟩, complete⟩
    exact ⟨⟨other, waits, apart⟩, fun rest connected distinct => (complete ⟨connected, distinct⟩).1⟩
  · rintro ⟨⟨other, waits, apart⟩, others⟩
    exact ⟨⟨other, waits, apart⟩, fun rest left => ⟨others rest left.1 left.2, left.2⟩⟩

/-- Joining first does not change what a departure leaves. -/
theorem leave_join : (barrier.join member).leave member = barrier.leave member := by
  ext other
  · simp [Barrier.join, Barrier.leave]
  · rfl

end Barrier
end Rendezvous
