import Mathlib.Logic.Basic

/-!
# Scanning linked lists that grow at the head

A linked list whose new nodes are linked in at the head is kept here in the order of creation,
so that the index of a node never changes: it stands for the node's address. Following the list
from its head is scanning from the last index to the first; `newest?` is the first hit of such a
scan.
-/
namespace LinkedList

variable {Node : Type}

/-- The index of the most recently linked node that a scan from the head accepts. -/
def newest? (accepts : Node → Bool) : List Node → Option Nat
  | [] => none
  | node :: newer =>
    match newest? accepts newer with
    | some index => some (index + 1)
    | none => if accepts node then some 0 else none

/-- The hit of a scan is a node of the list that the scan accepts. -/
theorem newest?_some {accepts : Node → Bool} {nodes : List Node} {index : Nat}
    (hit : newest? accepts nodes = some index) :
    ∃ node, nodes[index]? = some node ∧ accepts node = true := by
  induction nodes generalizing index with
  | nil => simp [newest?] at hit
  | cons node newer ih =>
    unfold newest? at hit
    split at hit
    · rename_i found later
      cases hit
      obtain ⟨other, at_index, accepted⟩ := ih later
      exact ⟨other, by simpa using at_index, accepted⟩
    · split at hit
      · rename_i accepted
        cases hit
        exact ⟨node, rfl, accepted⟩
      · cases hit

/-- A scan without a hit accepts no node of the list. -/
theorem newest?_none {accepts : Node → Bool} {nodes : List Node} :
    newest? accepts nodes = none ↔ ∀ node ∈ nodes, accepts node = false := by
  induction nodes with
  | nil => simp [newest?]
  | cons node newer ih =>
    unfold newest?
    split
    · rename_i found later
      have missing : ¬ ∀ other ∈ newer, accepts other = false := fun none => by
        rw [ih.mpr none] at later
        cases later
      simp only [reduceCtorEq, List.mem_cons, forall_eq_or_imp, false_iff, not_and]
      exact fun _ => missing
    · rename_i later
      have rest := ih.mp later
      cases accepted : accepts node with
      | true => simp [accepted]
      | false => simpa [accepted] using rest

/-- Scans see their list only through what they accept. -/
theorem newest?_congr {Other : Type} {accepts : Node → Bool} {admits : Other → Bool}
    {nodes : List Node} {others : List Other}
    (same : nodes.map accepts = others.map admits) :
    newest? accepts nodes = newest? admits others := by
  induction nodes generalizing others with
  | nil =>
    cases others with
    | nil => rfl
    | cons other others => simp at same
  | cons node nodes ih =>
    cases others with
    | nil => simp at same
    | cons other others =>
      simp only [List.map_cons, List.cons.injEq] at same
      simp only [newest?, ih same.2, same.1]

/-- A record after a write to one place is an old one, or what was written. -/
theorem mem_modify {nodes : List Node} {place : Nat} {write : Node → Node} {node : Node}
    (inside : node ∈ nodes.modify place write) : ∃ old ∈ nodes, node = old ∨ node = write old := by
  obtain ⟨index, present⟩ := List.mem_iff_getElem?.mp inside
  rw [List.getElem?_modify] at present
  obtain ⟨old, there, same⟩ := Option.map_eq_some_iff.mp present
  split at same
  · exact ⟨old, List.mem_of_getElem? there, .inr same.symm⟩
  · exact ⟨old, List.mem_of_getElem? there, .inl same.symm⟩

/-- A record in place keeps what every write keeps. -/
theorem getElem?_modify_kept {Fact : Type} {fact : Node → Fact} {nodes : List Node}
    {write : Node → Node} (kept : ∀ node, fact (write node) = fact node) {place index : Nat}
    {node : Node} (present : nodes[index]? = some node) :
    ∃ after, (nodes.modify place write)[index]? = some after ∧ fact after = fact node := by
  rw [List.getElem?_modify, present]
  by_cases here : place = index
  · exact ⟨write node, by simp [here], kept node⟩
  · exact ⟨node, by simp [here], rfl⟩

end LinkedList
