import Mathlib.Data.List.Basic

/-!
# Descriptor tables

The open files of a process by number. A file that is opened gets the lowest number that is free,
and closing a number frees it; nothing else in the table changes.
-/
namespace Descriptors

/-- A table of open files by number. -/
abbrev Table (File : Type) := List (Option File)

variable {File : Type}

/-- The file that is open under a number. -/
def fileAt (table : Table File) (number : Nat) : Option File := table[number]?.join

/-- The lowest number that is free. -/
def lowestFree (table : Table File) : Nat := table.findIdx Option.isNone

/-- The table in which a file is opened. -/
def openFile (table : Table File) (file : File) : Table File :=
  if lowestFree table < table.length then table.set (lowestFree table) (some file)
  else table ++ [some file]

/-- The table in which a number is closed. -/
def closeFile (table : Table File) (number : Nat) : Table File := table.set number none

/-- The lowest free number is free. -/
theorem fileAt_lowestFree (table : Table File) : fileAt table (lowestFree table) = none := by
  by_cases inside : lowestFree table < table.length
  · have free := List.findIdx_getElem (w := inside)
    rw [fileAt, List.getElem?_eq_getElem inside]
    exact Option.isNone_iff_eq_none.mp free
  · rw [fileAt, List.getElem?_eq_none (Nat.not_lt.mp inside)]
    rfl

/-- What is open after a file is opened. -/
theorem fileAt_openFile (table : Table File) (file : File) (number : Nat) :
    fileAt (openFile table file) number =
      if number = lowestFree table then some file else fileAt table number := by
  by_cases inside : lowestFree table < table.length
  · rw [openFile, if_pos inside, fileAt, List.getElem?_set]
    by_cases same : number = lowestFree table
    · rw [if_pos same, if_pos same.symm, if_pos inside]
      rfl
    · rw [if_neg same, if_neg (Ne.symm same), fileAt]
  · have all : lowestFree table = table.length :=
      Nat.le_antisymm List.findIdx_le_length (Nat.not_lt.mp inside)
    rw [openFile, if_neg inside, fileAt, all]
    by_cases same : number = table.length
    · rw [if_pos same, same, List.getElem?_concat_length]
      rfl
    · rw [if_neg same, fileAt]
      rcases Nat.lt_or_gt_of_ne same with below | above
      · rw [List.getElem?_append_left below]
      · rw [List.getElem?_eq_none (by simp; omega), List.getElem?_eq_none (by omega)]

/-- What is open after a number is closed. -/
theorem fileAt_closeFile (table : Table File) (closed number : Nat) :
    fileAt (closeFile table closed) number =
      if number = closed then none else fileAt table number := by
  rw [closeFile, fileAt, List.getElem?_set]
  by_cases same : number = closed
  · rw [if_pos same, if_pos same.symm]
    split <;> rfl
  · rw [if_neg same, if_neg (Ne.symm same), fileAt]

end Descriptors
