import Mathlib.Data.Finset.Card
import Mathlib.Logic.Function.Basic

/-!
# Allocated memory

A memory of finitely many allocated cells and their number. A write to a cell that is there keeps
the number, an allocation adds one, and a free takes one away. A list of as many different allocated
places as there are cells names them all, and with no cells the memory is empty: so what a program
frees it frees without a rest when the number says so.
-/
namespace Allocation

variable {Addr Cell : Type}

/-- The memory has that many allocated cells. -/
def Occupied (memory : Addr → Option Cell) (count : Nat) : Prop :=
  ∃ places : Finset Addr, (∀ place, place ∈ places ↔ (memory place).isSome = true) ∧
    places.card = count

variable {memory : Addr → Option Cell} {count : Nat} {place : Addr}

/-- Nothing is allocated. -/
theorem occupied_empty : Occupied (fun _ : Addr => (none : Option Cell)) 0 :=
  ⟨∅, by simp, rfl⟩

/-- What is allocated tells the number apart. -/
theorem Occupied.congr {other : Addr → Option Cell} (occupied : Occupied memory count)
    (same : ∀ place, (other place).isSome = (memory place).isSome) : Occupied other count := by
  obtain ⟨places, exactly, counted⟩ := occupied
  exact ⟨places, fun place => (exactly place).trans (by rw [same]), counted⟩

/-- A list of as many different allocated places as there are cells names them all. -/
theorem Occupied.named {places : List Addr} (occupied : Occupied memory count)
    (there : ∀ place ∈ places, (memory place).isSome = true) (distinct : places.Nodup)
    (all : places.length = count) (present : (memory place).isSome = true) : place ∈ places := by
  classical
  obtain ⟨cells, exactly, counted⟩ := occupied
  have inside : places.toFinset ⊆ cells := fun other member =>
    (exactly other).mpr (there other (List.mem_toFinset.mp member))
  have same : places.toFinset = cells := by
    refine Finset.eq_of_subset_of_card_le inside ?_
    rw [counted, ← all, List.toFinset_card_of_nodup distinct]
  exact List.mem_toFinset.mp (same ▸ (exactly place).mpr present)

variable [DecidableEq Addr]

/-- A write to a cell that is there. -/
theorem Occupied.write (occupied : Occupied memory count) (there : (memory place).isSome = true)
    (cell : Cell) : Occupied (Function.update memory place (some cell)) count := by
  refine occupied.congr fun other => ?_
  by_cases same : other = place
  · subst same
    rw [Function.update_self, there]
    rfl
  · rw [Function.update_of_ne same]

/-- A cell is allocated where there is none. -/
theorem Occupied.allocate (occupied : Occupied memory count) (free : memory place = none)
    (cell : Cell) : Occupied (Function.update memory place (some cell)) (count + 1) := by
  obtain ⟨places, exactly, counted⟩ := occupied
  have new : place ∉ places := by simp [exactly, free]
  refine ⟨insert place places, fun other => ?_, by rw [Finset.card_insert_of_notMem new, counted]⟩
  by_cases same : other = place
  · subst same
    simp
  · simp [same, exactly]

/-- A cell is freed. -/
theorem Occupied.free (occupied : Occupied memory count) (there : (memory place).isSome = true) :
    Occupied (Function.update memory place none) (count - 1) := by
  obtain ⟨places, exactly, counted⟩ := occupied
  refine ⟨places.erase place, fun other => ?_, by
    rw [Finset.card_erase_of_mem ((exactly place).mpr there), counted]⟩
  by_cases same : other = place
  · subst same
    simp
  · simp [same, exactly]

end Allocation
