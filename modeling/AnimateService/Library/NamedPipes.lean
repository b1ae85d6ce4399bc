import Mathlib.Logic.Function.Basic

/-!
# Named pipes

The opens and closes of a named pipe. An open of one end returns once the pipe has, or has had since
the open began, the other end open; an open that waits already counts for the opens of the other end.
An open that has to wait remembers how often the other end had been opened when it began, its ticket:
it returns when that count has changed.
-/
namespace NamedPipes

/-- The ends of a pipe. -/
inductive End where
  | reading | writing
  deriving DecidableEq, Repr

/-- The end that an open of an end waits for. -/
def End.other : End → End
  | .reading => .writing
  | .writing => .reading

/-- A pipe: who has an end open or waits in an open of it, and how often each end was opened. -/
structure Pipe (Holder : Type) where
  /-- The holders of each end. -/
  holders : End → List Holder := fun _ => []
  /-- The opens of each end so far. -/
  opens : End → Nat := fun _ => 0

variable {Holder : Type}

/-- An open of an end begins. -/
def Pipe.openEnd (pipe : Pipe Holder) (side : End) (holder : Holder) : Pipe Holder where
  holders := Function.update pipe.holders side (holder :: pipe.holders side)
  opens := Function.update pipe.opens side (pipe.opens side + 1)

/-- A holder closes an end, or gives up its open of it. -/
def Pipe.closeEnd [DecidableEq Holder] (pipe : Pipe Holder) (side : End) (holder : Holder) :
    Pipe Holder where
  holders := Function.update pipe.holders side ((pipe.holders side).erase holder)
  opens := pipe.opens

/-- What an open of an end that begins now waits for: nothing if the other end is open. -/
def Pipe.ticket (pipe : Pipe Holder) (side : End) : Option Nat :=
  if (pipe.holders side.other).isEmpty then some (pipe.opens side.other) else none

/-- An open with a ticket returns. -/
def Pipe.lets (pipe : Pipe Holder) (side : End) (ticket : Option Nat) : Bool :=
  ticket ≠ some (pipe.opens side.other)

/-- A ticket of an open that has not returned: the count was not higher when it began, and was lower
if the other end is open. -/
def Pipe.Waits (pipe : Pipe Holder) (side : End) (ticket : Option Nat) : Prop :=
  ∀ seen, ticket = some seen → seen ≤ pipe.opens side.other ∧
    (pipe.holders side.other ≠ [] → seen < pipe.opens side.other)

variable {pipe : Pipe Holder} {side : End} {ticket : Option Nat}

/-- A ticket is waited with from the start. -/
theorem waits_ticket (pipe : Pipe Holder) (side : End) : pipe.Waits side (pipe.ticket side) := by
  intro seen same
  obtain ⟨closed, counted⟩ := Option.ite_none_right_eq_some.mp same
  cases counted
  exact ⟨Nat.le_refl _, fun opened => absurd (List.isEmpty_iff.mp closed) opened⟩

/-- An end is not the one that it waits for. -/
theorem End.other_ne (side : End) : side.other ≠ side := by cases side <;> decide

/-- Opens of the same end change nothing for an open that waits. -/
theorem waits_openEnd_same (waits : pipe.Waits side ticket) (holder : Holder) :
    (pipe.openEnd side holder).Waits side ticket := by
  intro seen same
  simp only [Pipe.openEnd, Function.update_of_ne side.other_ne]
  exact waits seen same

/-- An open of the other end lets an open return that waits. -/
theorem waits_openEnd_other (waits : pipe.Waits side ticket) (holder : Holder) :
    (pipe.openEnd side.other holder).Waits side ticket := by
  intro seen same
  have before := (waits seen same).1
  simp only [Pipe.openEnd, Function.update_self]
  exact ⟨Nat.le_succ_of_le before, fun _ => Nat.lt_succ_of_le before⟩

/-- No open disturbs an open that waits. -/
theorem Pipe.Waits.openEnd (waits : pipe.Waits side ticket) (opened : End) (holder : Holder) :
    (pipe.openEnd opened holder).Waits side ticket := by
  by_cases same : opened = side
  · exact same ▸ waits_openEnd_same waits holder
  · have other : opened = side.other := by
      cases opened <;> cases side <;> first | rfl | exact absurd rfl same
    exact other ▸ waits_openEnd_other waits holder

/-- A close changes nothing for an open that waits. -/
theorem Pipe.Waits.closeEnd [DecidableEq Holder] (waits : pipe.Waits side ticket) (closed : End)
    (holder : Holder) : (pipe.closeEnd closed holder).Waits side ticket := by
  intro seen same
  obtain ⟨reached, passed⟩ := waits seen same
  refine ⟨reached, fun left => passed fun empty => left ?_⟩
  by_cases there : side.other = closed
  · subst there
    simp [Pipe.closeEnd, empty]
  · simp [Pipe.closeEnd, Function.update_of_ne there, empty]

/-- While somebody has the other end open, or waits in an open of it, an open returns. So of two
opens of the two ends of a pipe at most one waits. -/
theorem Pipe.Waits.lets (waits : pipe.Waits side ticket) {holder : Holder}
    (held : holder ∈ pipe.holders side.other) : pipe.lets side ticket = true := by
  refine decide_eq_true fun same => ?_
  have passed := (waits _ same).2 (List.ne_nil_of_mem held)
  exact Nat.lt_irrefl _ passed

/-- Who opens an end holds it. -/
theorem mem_openEnd_self (pipe : Pipe Holder) (side : End) (holder : Holder) :
    holder ∈ (pipe.openEnd side holder).holders side := by
  simp [Pipe.openEnd]

/-- An open takes no end away. -/
theorem mem_openEnd {holder other : Holder} {opened : End} (held : holder ∈ pipe.holders side) :
    holder ∈ (pipe.openEnd opened other).holders side := by
  by_cases same : side = opened
  · subst same
    simp [Pipe.openEnd, held]
  · simpa [Pipe.openEnd, Function.update_of_ne same] using held

/-- A close takes an end from one holder only. -/
theorem mem_closeEnd [DecidableEq Holder] {holder other : Holder} {closed : End}
    (held : holder ∈ pipe.holders side) (apart : holder ≠ other) :
    holder ∈ (pipe.closeEnd closed other).holders side := by
  by_cases same : side = closed
  · subst same
    simp only [Pipe.closeEnd, Function.update_self]
    exact (List.mem_erase_of_ne apart).mpr held
  · simpa [Pipe.closeEnd, Function.update_of_ne same] using held

end NamedPipes
