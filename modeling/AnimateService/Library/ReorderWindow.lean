import Mathlib.Algebra.GroupWithZero.Nat
import Mathlib.Data.Fin.Basic
import Mathlib.Logic.Function.Basic

/-!
# Reorder windows in a ring

Numbered values that arrive out of order are kept in a ring until all earlier ones have gone. A
slot keeps the number with the value, and the number's residue is its slot. The window of
acceptable numbers starts at the next number to go and is as long as the ring. In such a window
every number has a slot to itself: a number that is new finds its slot free, and whatever is in
the slot of the next number is that number.
-/
namespace Reorder

variable {Value : Type} {size : Nat} [NeZero size]

/-- A ring of slots for numbered values. -/
abbrev Ring (size : Nat) (Value : Type) := Fin size → Option (Nat × Value)

/-- The slot of a number. -/
def slot (number : Nat) : Fin size := Fin.ofNat size number

/-- Two numbers less than a ring apart share a slot only if they are equal. -/
theorem slot_inj {first second start : Nat} (above : start ≤ first) (below : first < start + size)
    (above' : start ≤ second) (below' : second < start + size)
    (same : (slot first : Fin size) = slot second) : first = second := by
  have residues : first % size = second % size := congrArg Fin.val same
  rcases Nat.le_total first second with order | order
  · have divides := Nat.dvd_of_mod_eq_zero (Nat.sub_mod_eq_zero_of_mod_eq residues.symm)
    have none : second - first = 0 := Nat.eq_zero_of_dvd_of_lt divides (by omega)
    omega
  · have divides := Nat.dvd_of_mod_eq_zero (Nat.sub_mod_eq_zero_of_mod_eq residues)
    have none : first - second = 0 := Nat.eq_zero_of_dvd_of_lt divides (by omega)
    omega

/-- A ring holds exactly the given values, whose numbers are in the window from `next` on. -/
structure Holds (ring : Ring size Value) (next : Nat) (held : Nat → Option Value) : Prop where
  /-- The window. -/
  window : ∀ number value, held number = some value → next ≤ number ∧ number < next + size
  /-- The slot of a number has its value. -/
  slots : ∀ place number value,
    ring place = some (number, value) ↔ slot number = place ∧ held number = some value

variable {ring : Ring size Value} {next number : Nat} {held : Nat → Option Value} {value : Value}

/-- An empty ring holds nothing. -/
theorem Holds.empty (next : Nat) :
    Holds (fun _ => none : Ring size Value) next fun _ => none where
  window := by simp
  slots := by simp

/-- A new number in the window finds its slot free. -/
theorem Holds.free (holds : Holds ring next held) (above : next ≤ number)
    (below : number < next + size) (new : held number = none) : ring (slot number) = none := by
  cases taken : ring (slot number) with
  | none => rfl
  | some entry =>
    obtain ⟨same, there⟩ := (holds.slots _ _ _).mp taken
    obtain ⟨above', below'⟩ := holds.window _ _ there
    rw [slot_inj above' below' above below same, new] at there
    cases there

/-- Whatever is in the slot of the next number is that number. -/
theorem Holds.front (holds : Holds ring next held) (found : ring (slot next) = some (number, value)) :
    number = next ∧ held next = some value := by
  obtain ⟨same, there⟩ := (holds.slots _ _ _).mp found
  obtain ⟨above, below⟩ := holds.window _ _ there
  have positive : 0 < size := Nat.pos_of_ne_zero (NeZero.ne size)
  obtain rfl := slot_inj above below le_rfl (by omega) same
  exact ⟨rfl, there⟩

/-- A number that is held is in its slot. -/
theorem Holds.there (holds : Holds ring next held) (found : held number = some value) :
    ring (slot number) = some (number, value) := (holds.slots _ _ _).mpr ⟨rfl, found⟩

/-- A new value is stored in its slot. -/
theorem Holds.store (holds : Holds ring next held) (above : next ≤ number)
    (below : number < next + size) (new : held number = none) (value : Value) :
    Holds (Function.update ring (slot number) (some (number, value))) next
      (Function.update held number (some value)) where
  window := by
    intro other found
    by_cases same : other = number
    · subst same
      exact fun _ => ⟨above, below⟩
    · rw [Function.update_of_ne same]
      exact holds.window other found
  slots := by
    intro place other found
    by_cases here : place = slot number
    · subst here
      rw [Function.update_self]
      constructor
      · rintro ⟨⟩
        exact ⟨rfl, Function.update_self ..⟩
      · rintro ⟨same, there⟩
        by_cases own : other = number
        · subst own
          rw [Function.update_self] at there
          cases there
          rfl
        · rw [Function.update_of_ne own] at there
          obtain ⟨above', below'⟩ := holds.window _ _ there
          exact absurd (slot_inj above' below' above below same) own
    · rw [Function.update_of_ne here, holds.slots]
      by_cases own : other = number
      · subst own
        simp [Ne.symm here]
      · rw [Function.update_of_ne own]

/-- The next number goes, and the window moves on. -/
theorem Holds.take (holds : Holds ring next held) :
    Holds (Function.update ring (slot next) none) (next + 1) (Function.update held next none) where
  window := by
    intro other found there
    by_cases same : other = next
    · subst same
      rw [Function.update_self] at there
      cases there
    · rw [Function.update_of_ne same] at there
      obtain ⟨above, below⟩ := holds.window other found there
      omega
  slots := by
    intro place other found
    by_cases here : place = slot next
    · subst here
      rw [Function.update_self]
      constructor
      · rintro ⟨⟩
      · rintro ⟨same, there⟩
        by_cases own : other = next
        · subst own
          rw [Function.update_self] at there
          cases there
        · rw [Function.update_of_ne own] at there
          exact absurd (holds.front ((holds.slots _ _ _).mpr ⟨same, there⟩)).1 own
    · rw [Function.update_of_ne here, holds.slots]
      by_cases own : other = next
      · subst own
        simp [Ne.symm here]
      · rw [Function.update_of_ne own]

end Reorder
