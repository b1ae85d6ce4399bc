import Mathlib.Data.List.Nodup
import Mathlib.Data.List.Basic

/-!
# Turns

Items take turns in the order of a list: the first one that can be served is, and goes to the end
together with those that were passed over. An item that is before another one in the list, and can
be served, is not overtaken by it. So how many are served before an item has been served a number of
times is bounded by the length of the list, and each time one is served the bound gets smaller.
-/
namespace Turns

variable {Item : Type} {first second item : Item} {front back : List Item}

/-- The first item is before the second one. -/
def Before (first second : Item) (turns : List Item) : Prop := [first, second].Sublist turns

/-- A pair whose first item is not in the front of a list is in the back of it. -/
theorem before_back (before : Before first second (front ++ back)) (outside : first ∉ front) :
    Before first second back := by
  induction front with
  | nil => exact before
  | cons item front ih =>
    rw [List.mem_cons, not_or] at outside
    cases before with
    | cons _ before => exact ih before outside.2
    | cons_cons _ => exact absurd rfl outside.1

/-- When an item is served that is not behind the first one of a pair, the pair stays in order and
the item is not the second one of it. -/
theorem before_served (before : Before first second (front ++ item :: back))
    (distinct : (front ++ item :: back).Nodup) (outside : first ∉ front) (other : first ≠ item) :
    Before first second (back ++ front ++ [item]) ∧ second ≠ item := by
  have behind := before_back before outside
  cases behind with
  | cons_cons _ => exact absurd rfl other
  | cons _ behind =>
    refine ⟨behind.trans ((List.sublist_append_left back front).trans
      (List.sublist_append_left ..)), ?_⟩
    rintro rfl
    have alone := (List.nodup_cons.mp (List.nodup_append.mp distinct).2.1).1
    exact alone (behind.subset (List.mem_cons_of_mem _ (List.mem_singleton_self _)))

/-- The item that was served is behind all others. -/
theorem before_last (inside : first ∈ front ++ item :: back) (other : first ≠ item) :
    Before first item (back ++ front ++ [item]) := by
  refine List.Sublist.append (List.singleton_sublist.mpr ?_) (List.Sublist.refl [item])
  simp only [List.mem_append, List.mem_cons] at inside ⊢
  tauto

/-- A turned list is split at an item, and so is the list before it was turned. -/
theorem turned_split {left right : List Item} (turned : back ++ front = left ++ item :: right) :
    ∃ earlier later, front ++ back = earlier ++ item :: later ∧
      later ++ earlier = right ++ left := by
  rcases List.append_eq_append_iff.mp turned with ⟨middle, rfl, split⟩ | ⟨middle, split, rest⟩
  · exact ⟨middle, right ++ back, by rw [split]; simp, by simp⟩
  · cases middle with
    | nil =>
      rw [List.append_nil] at split
      rw [List.nil_append] at rest
      exact ⟨[], right ++ back, by rw [← rest]; rfl, by rw [split]; simp⟩
    | cons head middle =>
      rw [List.cons_append, List.cons.injEq] at rest
      obtain ⟨rfl, rfl⟩ := rest
      exact ⟨front ++ left, middle, by rw [split]; simp, by simp⟩

/-! ## How long an item waits -/

/-- The length stays when an item is served. -/
theorem length_served : (back ++ front ++ [item]).length = (front ++ item :: back).length := by
  simp only [List.length_append, List.length_cons, List.length_nil]
  omega

section Debt

variable [DecidableEq Item] {turns more : List Item} {served : Item} {times : Nat}

/-- A bound of what is served before an item that has been served a number of times more is served
again: in each of these times every item may be, and then those before it. -/
def debt (turns : List Item) (item : Item) (times : Nat) : Nat :=
  times * turns.length + turns.idxOf item

/-- The turn after some more times comes before one more time is over. -/
theorem debt_lt (inside : item ∈ turns) (times : Nat) :
    debt turns item times < (times + 1) * turns.length := by
  have place := List.idxOf_lt_length_of_mem inside
  rw [debt, Nat.succ_mul]
  omega

/-- In a list with fewer items the place of an item is not behind its place in the list, and the
places do not differ by more than what is left out. -/
theorem idxOf_sublist (fewer : turns.Sublist more) (distinct : more.Nodup) (inside : item ∈ turns) :
    turns.idxOf item ≤ more.idxOf item ∧
      more.idxOf item + turns.length ≤ turns.idxOf item + more.length := by
  induction fewer with
  | slnil => cases inside
  | @cons turns more other fewer ih =>
    obtain ⟨new, distinct⟩ := List.nodup_cons.mp distinct
    have apart : other ≠ item := by
      rintro rfl
      exact new (fewer.subset inside)
    have place := ih distinct inside
    rw [List.idxOf_cons_ne _ apart, List.length_cons]
    omega
  | @cons_cons turns more other fewer ih =>
    obtain ⟨new, distinct⟩ := List.nodup_cons.mp distinct
    by_cases same : other = item
    · have short := fewer.length_le
      rw [List.idxOf_cons_eq _ same, List.idxOf_cons_eq _ same, List.length_cons, List.length_cons]
      omega
    · have left := (List.mem_cons.mp inside).resolve_left (Ne.symm same)
      have place := ih distinct left
      rw [List.idxOf_cons_ne _ same, List.idxOf_cons_ne _ same, List.length_cons, List.length_cons]
      omega

/-- An item that takes turns from now on may be served once in each of the times, and once before
the item. -/
theorem debt_insert (fewer : turns.Sublist more) (distinct : more.Nodup) (inside : item ∈ turns)
    (one : more.length ≤ turns.length + 1) :
    debt more item times ≤ debt turns item times + (times + 1) := by
  have place := (idxOf_sublist fewer distinct inside).2
  have product := Nat.mul_le_mul_left times one
  rw [Nat.mul_succ] at product
  rw [debt, debt]
  omega

/-- With fewer items the debt is not larger. -/
theorem debt_sublist (fewer : turns.Sublist more) (distinct : more.Nodup) (inside : item ∈ turns) :
    debt turns item times ≤ debt more item times := by
  have place := (idxOf_sublist fewer distinct inside).1
  have product := Nat.mul_le_mul_left times fewer.length_le
  rw [debt, debt]
  omega

/-- When an item before another one is served, the debt of the other one gets smaller. -/
theorem debt_passed (inside : item ∈ front ++ served :: back) (outside : item ∉ front)
    (other : item ≠ served) :
    debt (back ++ front ++ [served]) item times < debt (front ++ served :: back) item times := by
  have behind : item ∈ back := by
    rcases List.mem_append.mp inside with before | rest
    · exact absurd before outside
    · exact (List.mem_cons.mp rest).resolve_left other
  have now : (back ++ front ++ [served]).idxOf item = back.idxOf item := by
    rw [List.append_assoc, List.idxOf_append_of_mem behind]
  have before : (front ++ served :: back).idxOf item = front.length + (back.idxOf item + 1) := by
    rw [List.idxOf_append_of_notMem outside, List.idxOf_cons_ne _ (Ne.symm other)]
  rw [debt, debt, length_served, now, before]
  omega

/-- When the item itself is served, its debt for one time less is smaller than it was. -/
theorem debt_served :
    debt (back ++ front ++ [item]) item times < debt (front ++ item :: back) item (times + 1) := by
  have inside : item ∈ back ++ front ++ [item] := by simp
  have place := debt_lt inside times
  rw [length_served] at place
  exact Nat.lt_of_lt_of_le place (Nat.le_add_right _ _)

end Debt

end Turns
