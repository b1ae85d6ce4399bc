import Mathlib.Data.List.Nodup
import Mathlib.Logic.Function.Basic

/-!
# Linked lists in memory

A memory maps addresses to records. A chain is a list whose records point to the next one, a
segment one whose records point to both neighbours; each is described by its addresses and values
in order. Lists are taken apart and put together at any place, a write elsewhere keeps them, and
the writes that append to them or unlink a record do so. A segment whose end wraps around is a
ring: going from record to record visits the rest of the list and then its front.
-/
namespace Links

/-- A record with a pointer to the next one. -/
structure Node (Addr Value : Type) where
  /-- What it holds. -/
  value : Value
  /-- The next record. -/
  next : Option Addr
  deriving DecidableEq, Repr

/-- A record with pointers to both neighbours. -/
structure Cell (Addr Value : Type) where
  /-- What it holds. -/
  value : Value
  /-- The record before it. -/
  prev : Option Addr
  /-- The next record. -/
  next : Option Addr
  deriving DecidableEq, Repr

variable {Addr Value : Type}

/-- The first address of a list, or what follows an empty one. -/
def first (items : List (Addr × Value)) (after : Option Addr) : Option Addr :=
  (items.head?.map Prod.fst).or after

/-- The last address of a list, or what precedes an empty one. -/
def last (before : Option Addr) (items : List (Addr × Value)) : Option Addr :=
  (items.getLast?.map Prod.fst).or before

/-- The records of a list point onwards, the last of them to what follows. -/
def Chain (memory : Addr → Option (Node Addr Value)) (after : Option Addr) :
    List (Addr × Value) → Prop
  | [] => True
  | (place, value) :: rest =>
    memory place = some ⟨value, first rest after⟩ ∧ Chain memory after rest

/-- The records of a list point to both neighbours, at its ends to what is there. -/
def Segment (memory : Addr → Option (Cell Addr Value)) (after : Option Addr) :
    Option Addr → List (Addr × Value) → Prop
  | _, [] => True
  | before, (place, value) :: rest =>
    memory place = some ⟨value, before, first rest after⟩ ∧ Segment memory after (some place) rest

/-! ## Ends -/

/-- The end of an empty list. -/
@[simp] theorem first_nil (after : Option Addr) :
    first ([] : List (Addr × Value)) after = after := rfl

/-- The first address of a list that is not empty. -/
@[simp] theorem first_cons (item : Addr × Value) (rest : List (Addr × Value))
    (after : Option Addr) : first (item :: rest) after = some item.1 := rfl

/-- The front of an empty list. -/
@[simp] theorem last_nil (before : Option Addr) :
    last before ([] : List (Addr × Value)) = before := rfl

/-- The last address behind a record. -/
@[simp] theorem last_cons (before : Option Addr) (item : Addr × Value)
    (rest : List (Addr × Value)) : last before (item :: rest) = last (some item.1) rest := by
  cases found : rest.getLast? with
  | none =>
    obtain rfl := List.getLast?_eq_none_iff.mp found
    rfl
  | some final => simp [last, List.getLast?_cons, found]

/-- The last address of a list that ends with a record. -/
@[simp] theorem last_concat (before : Option Addr) (items : List (Addr × Value))
    (item : Addr × Value) : last before (items ++ [item]) = some item.1 := by
  simp [last]

/-- The first address of two lists. -/
theorem first_append (front back : List (Addr × Value)) (after : Option Addr) :
    first (front ++ back) after = first front (first back after) := by
  cases front <;> rfl

/-- The last address of two lists. -/
theorem last_append (before : Option Addr) (front back : List (Addr × Value)) :
    last before (front ++ back) = last (last before front) back := by
  induction front generalizing before with
  | nil => rfl
  | cons item front ih => rw [List.cons_append, last_cons, ih, last_cons]

/-- Nothing is first in an empty list only. -/
theorem first_eq_none {items : List (Addr × Value)} : first items none = none ↔ items = [] := by
  cases items <;> simp

/-- The last address of a list is one of it. -/
theorem last_mem {items : List (Addr × Value)} {place : Addr} (final : last none items = some place) :
    place ∈ items.map Prod.fst := by
  rcases List.eq_nil_or_concat items with rfl | ⟨front, item, rfl⟩
  · cases final
  · rw [List.concat_eq_append, last_concat] at final
    simp [Option.some.inj final]

/-- The first address of a list is one of it. -/
theorem first_mem {items : List (Addr × Value)} {place : Addr} (head : first items none = some place) :
    place ∈ items.map Prod.fst := by
  cases items with
  | nil => cases head
  | cons item rest => simp [Option.some.inj head]

/-! ## Chains -/

section Chains

variable {memory other : Addr → Option (Node Addr Value)} {after : Option Addr}
  {items front back : List (Addr × Value)}

/-- A chain sees its own addresses only. -/
theorem Chain.congr (chain : Chain memory after items)
    (same : ∀ place ∈ items.map Prod.fst, other place = memory place) :
    Chain other after items := by
  induction items with
  | nil => trivial
  | cons item rest ih =>
    refine ⟨(same item.1 List.mem_cons_self).trans chain.1, ih chain.2 fun place inside => ?_⟩
    exact same place (List.mem_cons_of_mem _ inside)

/-- A chain is taken apart at any place. -/
theorem chain_append : Chain memory after (front ++ back) ↔
    Chain memory (first back after) front ∧ Chain memory after back := by
  induction front with
  | nil => simp [Chain]
  | cons item front ih =>
    simp only [List.cons_append, Chain, ih, first_append]
    tauto

variable [DecidableEq Addr]

/-- A node is linked behind the last one of a chain. -/
theorem Chain.concat {final : Addr} {ending : Value} (place : Addr) (value : Value)
    (chain : Chain memory none (front ++ [(final, ending)]))
    (distinct : ((front ++ [(final, ending)]).map Prod.fst).Nodup)
    (fresh : place ∉ (front ++ [(final, ending)]).map Prod.fst) :
    Chain (Function.update (Function.update memory place (some ⟨value, none⟩)) final
      (some ⟨ending, some place⟩)) none (front ++ [(final, ending)] ++ [(place, value)]) := by
  rw [List.append_assoc, chain_append]
  obtain ⟨earlier, -⟩ := chain_append.mp chain
  simp only [List.map_append, List.map_cons, List.map_nil, List.mem_append, List.mem_singleton,
    not_or] at fresh
  have apart : final ∉ front.map Prod.fst := by
    intro inside
    simp only [List.map_append, List.map_cons, List.map_nil] at distinct
    exact (List.nodup_append.mp distinct).2.2 final inside final (List.mem_singleton_self _) rfl
  refine ⟨earlier.congr fun other inside => ?_, ?_, ?_, trivial⟩
  · have away : other ≠ final := by
      rintro rfl
      exact apart inside
    have old : other ≠ place := by
      rintro rfl
      exact fresh.1 inside
    rw [Function.update_of_ne away, Function.update_of_ne old]
  · simp
  · rw [Function.update_of_ne fresh.2, Function.update_self]
    rfl

end Chains

/-! ## Segments -/

section Segments

variable {memory other : Addr → Option (Cell Addr Value)} {before after : Option Addr}
  {items front back : List (Addr × Value)}

/-- A segment sees its own addresses only. -/
theorem Segment.congr (segment : Segment memory after before items)
    (same : ∀ place ∈ items.map Prod.fst, other place = memory place) :
    Segment other after before items := by
  induction items generalizing before with
  | nil => trivial
  | cons item rest ih =>
    refine ⟨(same item.1 List.mem_cons_self).trans segment.1, ih segment.2 fun place inside => ?_⟩
    exact same place (List.mem_cons_of_mem _ inside)

/-- A segment is taken apart at any place. -/
theorem segment_append : Segment memory after before (front ++ back) ↔
    Segment memory (first back after) before front ∧ Segment memory after (last before front) back := by
  induction front generalizing before with
  | nil => simp [Segment]
  | cons item front ih =>
    simp only [List.cons_append, Segment, ih, first_append, last_cons]
    tauto

/-- The record in the middle of a segment. -/
theorem Segment.at {item : Addr × Value}
    (segment : Segment memory after before (front ++ item :: back)) :
    memory item.1 = some ⟨item.2, last before front, first back after⟩ :=
  (segment_append.mp segment).2.1

variable [DecidableEq Addr]

/-- Write the next pointer of a record, if there is one. -/
def setNext (memory : Addr → Option (Cell Addr Value)) (place next : Option Addr) :
    Addr → Option (Cell Addr Value) :=
  match place with
  | some place =>
    Function.update memory place ((memory place).map fun cell => { cell with next })
  | none => memory

/-- Write the previous pointer of a record, if there is one. -/
def setPrev (memory : Addr → Option (Cell Addr Value)) (place prev : Option Addr) :
    Addr → Option (Cell Addr Value) :=
  match place with
  | some place =>
    Function.update memory place ((memory place).map fun cell => { cell with prev })
  | none => memory

/-- A write to another record. -/
theorem setNext_elsewhere {place next : Option Addr} {wanted : Addr} (away : place ≠ some wanted) :
    setNext memory place next wanted = memory wanted := by
  cases place with
  | none => rfl
  | some place => exact Function.update_of_ne (fun same => away (congrArg some same.symm)) _ _

/-- A write to another record. -/
theorem setPrev_elsewhere {place prev : Option Addr} {wanted : Addr} (away : place ≠ some wanted) :
    setPrev memory place prev wanted = memory wanted := by
  cases place with
  | none => rfl
  | some place => exact Function.update_of_ne (fun same => away (congrArg some same.symm)) _ _

/-- A write to a pointer keeps the records that are there. -/
theorem setNext_isSome (place next : Option Addr) (wanted : Addr) :
    (setNext memory place next wanted).isSome = (memory wanted).isSome := by
  cases place with
  | none => rfl
  | some place =>
    by_cases same : wanted = place
    · subst same
      simp [setNext]
    · rw [setNext_elsewhere (by simpa using Ne.symm same)]

/-- The last record of a segment is made to point elsewhere. -/
theorem Segment.setNext_last (segment : Segment memory after before items)
    (distinct : (items.map Prod.fst).Nodup) (beyond : Option Addr) :
    Segment (setNext memory (last none items) beyond) beyond before items := by
  rcases List.eq_nil_or_concat items with rfl | ⟨front, item, rfl⟩
  · trivial
  · rw [List.concat_eq_append] at segment distinct ⊢
    obtain ⟨earlier, there, -⟩ := segment_append.mp segment
    simp only [List.map_append, List.map_cons, List.map_nil] at distinct
    refine segment_append.mpr ⟨earlier.congr fun place inside => ?_, ?_, trivial⟩
    · refine setNext_elsewhere ?_
      rw [last_concat]
      intro same
      exact (List.nodup_append.mp distinct).2.2 place inside item.1 (List.mem_singleton_self _)
        (Option.some.inj same).symm
    · simp [setNext, there]

/-- The first record of a segment is made to point elsewhere. -/
theorem Segment.setPrev_first (segment : Segment memory after before items)
    (distinct : (items.map Prod.fst).Nodup) (earlier : Option Addr) :
    Segment (setPrev memory (first items none) earlier) after earlier items := by
  cases items with
  | nil => trivial
  | cons item rest =>
    obtain ⟨there, later⟩ := segment
    rw [List.map_cons, List.nodup_cons] at distinct
    refine ⟨by simp [setPrev, there], later.congr fun place inside => setPrev_elsewhere ?_⟩
    rw [first_cons]
    rintro ⟨⟩
    exact distinct.1 inside

/-- The neighbours of a record are made to point to each other. -/
theorem Segment.unlink {item : Addr × Value}
    (segment : Segment memory after before (front ++ item :: back))
    (distinct : ((front ++ item :: back).map Prod.fst).Nodup) :
    Segment (setPrev (setNext memory (last none front) (first back after)) (first back none)
      (last before front)) after before (front ++ back) := by
  obtain ⟨earlier, -, later⟩ := segment_append.mp segment
  simp only [List.map_append, List.map_cons] at distinct
  obtain ⟨leftDistinct, rightDistinct, apart⟩ := List.nodup_append.mp distinct
  obtain ⟨-, restDistinct⟩ := List.nodup_cons.mp rightDistinct
  refine segment_append.mpr ⟨?_, ?_⟩
  · refine (earlier.setNext_last leftDistinct (first back after)).congr fun place inside =>
      setPrev_elsewhere fun same => ?_
    exact apart place inside place (List.mem_cons_of_mem _ (first_mem same)) rfl
  · refine Segment.setPrev_first (later.congr fun place inside => ?_) restDistinct _
    refine setNext_elsewhere fun same => ?_
    exact apart place (last_mem same) place (List.mem_cons_of_mem _ inside) rfl

/-- A record is linked behind the last one. -/
theorem Segment.concat (segment : Segment memory none before items) (place : Addr) (value : Value)
    (distinct : (items.map Prod.fst).Nodup) (fresh : place ∉ items.map Prod.fst) :
    Segment (setNext (Function.update memory place (some ⟨value, last before items, none⟩))
      (last none items) (some place)) none before (items ++ [(place, value)]) := by
  refine segment_append.mpr ⟨?_, ?_, trivial⟩
  · refine Segment.setNext_last (segment.congr fun other inside => ?_) distinct _
    refine Function.update_of_ne ?_ _ _
    rintro rfl
    exact fresh inside
  · rw [setNext_elsewhere fun same => fresh (last_mem same), Function.update_self]
    rfl

/-- The value of a record is written. -/
theorem Segment.write {place : Addr} {old value : Value}
    (segment : Segment memory after before (front ++ (place, old) :: back))
    (distinct : ((front ++ (place, old) :: back).map Prod.fst).Nodup) :
    Segment (Function.update memory place
      (some ⟨value, last before front, first back after⟩)) after before
        (front ++ (place, value) :: back) := by
  obtain ⟨earlier, -, later⟩ := segment_append.mp segment
  simp only [List.map_append, List.map_cons] at distinct
  obtain ⟨-, rightDistinct, apart⟩ := List.nodup_append.mp distinct
  obtain ⟨alone, -⟩ := List.nodup_cons.mp rightDistinct
  refine segment_append.mpr ⟨earlier.congr fun other inside => ?_, ?_, ?_⟩
  · refine Function.update_of_ne ?_ _ _
    rintro rfl
    exact apart other inside other List.mem_cons_self rfl
  · exact Function.update_self _ _ _
  · refine later.congr fun other inside => Function.update_of_ne ?_ _ _
    rintro rfl
    exact alone inside

end Segments

/-! ## Rings -/

/-- Successors lead through a list of addresses to a final one. -/
def Path (successor : Addr → Option Addr) (stop : Addr) : List Addr → Prop
  | [] => True
  | place :: rest => successor place = some (rest.head?.getD stop) ∧ Path successor stop rest

/-- Paths are joined where one leads to the other. -/
theorem path_append {successor : Addr → Option Addr} {stop : Addr} {front back : List Addr} :
    Path successor stop (front ++ back) ↔
      Path successor (back.head?.getD stop) front ∧ Path successor stop back := by
  induction front with
  | nil => simp [Path]
  | cons place front ih =>
    simp only [List.cons_append, Path, ih]
    cases front <;> simp [and_assoc]

/-- Where the next record of an address is, or the given one at the end. -/
def successor (memory : Addr → Option (Cell Addr Value)) (head : Option Addr) (place : Addr) :
    Option Addr := (memory place).bind fun cell => cell.next.or head

/-- A segment is a path to what follows it, or else to the given address. -/
theorem Segment.path {memory : Addr → Option (Cell Addr Value)} {after before head : Option Addr}
    {items : List (Addr × Value)} {stop : Addr} (segment : Segment memory after before items)
    (leads : after.or head = some stop) :
    Path (successor memory head) stop (items.map Prod.fst) := by
  induction items generalizing before with
  | nil => trivial
  | cons item rest ih =>
    refine ⟨?_, ih segment.2⟩
    rw [successor, segment.1]
    cases rest with
    | nil => exact leads
    | cons next rest => rfl

/-- From any record of a segment the successors lead around it and back. -/
theorem Segment.ring {memory : Addr → Option (Cell Addr Value)} {front back : List (Addr × Value)}
    {item : Addr × Value} (segment : Segment memory none none (front ++ item :: back)) :
    Path (successor memory (first (front ++ item :: back) none)) item.1
      ((item :: back).map Prod.fst ++ front.map Prod.fst) := by
  obtain ⟨earlier, later⟩ := segment_append.mp segment
  refine path_append.mpr ⟨later.path ?_, earlier.path rfl⟩
  cases front <;> rfl

end Links
