import Mathlib.Data.List.Nodup
import Mathlib.Logic.Function.Basic
import AnimateService.Library.Scan

/-!
# Registries

A list of records under distinct keys, and a map of entries that says what is to be known of the
record under each key. Records are added under fresh keys and rewritten in place; the entries
follow. A scan for a key then finds the record of its entry and no other.
-/
namespace Registry

open LinkedList

variable {Node Key Entry : Type}

/-- Every record is described by the entry under its key, and there are no other entries. -/
structure Registered (key : Node → Key) (describes : Entry → Nat → Node → Prop) (nodes : List Node)
    (entries : Key → Option Entry) : Prop where
  /-- No two records have one key. -/
  distinct : (nodes.map key).Nodup
  /-- Every record has its entry. -/
  entry_of : ∀ index node, nodes[index]? = some node →
    ∃ entry, entries (key node) = some entry ∧ describes entry index node
  /-- Every entry has its record. -/
  node_of : ∀ wanted entry, entries wanted = some entry →
    ∃ (index : Nat) (node : Node), nodes[index]? = some node ∧ key node = wanted

variable {key : Node → Key} {describes : Entry → Nat → Node → Prop} {nodes : List Node}
  {entries : Key → Option Entry}

/-- A registry starts empty. -/
theorem registered_nil : Registered key describes [] fun _ => none where
  distinct := List.nodup_nil
  entry_of := by simp
  node_of := by simp

/-- The record of an entry. -/
theorem Registered.node_of_entry (registered : Registered key describes nodes entries)
    {wanted : Key} {entry : Entry} (known : entries wanted = some entry) :
    ∃ (index : Nat) (node : Node), nodes[index]? = some node ∧ key node = wanted ∧
      describes entry index node := by
  obtain ⟨index, node, there, rfl⟩ := registered.node_of wanted entry known
  obtain ⟨same, again, described⟩ := registered.entry_of index node there
  obtain rfl := Option.some.inj (known.symm.trans again)
  exact ⟨index, node, there, rfl, described⟩

/-- There is one record under a key. -/
theorem Registered.index_unique (registered : Registered key describes nodes entries)
    {index other : Nat} {node same : Node} (here : nodes[index]? = some node)
    (there : nodes[other]? = some same) (equal : key node = key same) : index = other := by
  have at_index : (nodes.map key)[index]? = some (key node) := by simp [here]
  have at_other : (nodes.map key)[other]? = some (key node) := by simp [there, equal]
  obtain ⟨inside, -⟩ := List.getElem?_eq_some_iff.mp at_index
  exact (List.getElem?_inj inside registered.distinct).mp (at_index.trans at_other.symm)

/-- A record is added under a fresh key. -/
theorem Registered.concat [DecidableEq Key] (registered : Registered key describes nodes entries)
    {node : Node} {entry : Entry} (fresh : key node ∉ nodes.map key)
    (described : describes entry nodes.length node) :
    Registered key describes (nodes ++ [node]) (Function.update entries (key node) (some entry)) where
  distinct := by
    rw [List.map_append, List.nodup_append]
    refine ⟨registered.distinct, by simp, ?_⟩
    rintro wanted inside other single rfl
    rw [List.map_singleton, List.mem_singleton] at single
    exact fresh (single ▸ inside)
  entry_of := by
    intro index other there
    rw [List.getElem?_append] at there
    split at there
    · obtain ⟨known, same, describes⟩ := registered.entry_of index other there
      have apart : key other ≠ key node := fun equal =>
        fresh (equal ▸ List.mem_map_of_mem (List.mem_of_getElem? there))
      exact ⟨known, by rwa [Function.update_of_ne apart], describes⟩
    · rename_i behind
      obtain ⟨at_end, rfl⟩ := List.getElem?_eq_some_iff.mp there
      have last : index = nodes.length := by
        simp only [List.length_singleton] at at_end
        omega
      subst last
      exact ⟨entry, by simp, by simpa using described⟩
  node_of := by
    intro wanted other known
    by_cases same : wanted = key node
    · exact ⟨nodes.length, node, by simp, same.symm⟩
    · rw [Function.update_of_ne same] at known
      obtain ⟨index, old, there, named⟩ := registered.node_of wanted other known
      have inside := (List.getElem?_eq_some_iff.mp there).1
      exact ⟨index, old, by rwa [List.getElem?_append_left inside], named⟩

/-- Records are rewritten in place and keep their keys; their entries follow. -/
theorem Registered.rewrite (registered : Registered key describes nodes entries)
    {write : Node → Node} {follow : Key → Entry → Entry} (keys : ∀ node, key (write node) = key node)
    (described : ∀ entry index node, nodes[index]? = some node → describes entry index node →
      describes (follow (key node) entry) index (write node)) :
    Registered key describes (nodes.map write) fun wanted => (entries wanted).map (follow wanted) where
  distinct := by
    rw [List.map_map, show key ∘ write = key from funext keys]
    exact registered.distinct
  entry_of := by
    intro index node there
    rw [List.getElem?_map] at there
    obtain ⟨old, present, rfl⟩ := Option.map_eq_some_iff.mp there
    obtain ⟨entry, known, describes⟩ := registered.entry_of index old present
    refine ⟨follow (key old) entry, ?_, described entry index old present describes⟩
    rw [keys, known]
    rfl
  node_of := by
    intro wanted entry known
    obtain ⟨old, there, rfl⟩ := Option.map_eq_some_iff.mp known
    obtain ⟨index, node, present, named⟩ := registered.node_of wanted old there
    exact ⟨index, write node, by simp [present], (keys node).trans named⟩

/-- Rewriting a record that keeps its key keeps all keys. -/
theorem map_modify {record : Nat} {write : Node → Node}
    (keys : ∀ node, nodes[record]? = some node → key (write node) = key node) :
    (nodes.modify record write).map key = nodes.map key := by
  apply List.ext_getElem?
  intro index
  simp only [List.getElem?_map, List.getElem?_modify]
  by_cases here : record = index
  · subst here
    cases there : nodes[record]? with
    | none => rfl
    | some node => simp [keys node there]
  · simp [here]

/-- The record of one entry is rewritten in place. -/
theorem Registered.modify [DecidableEq Key] (registered : Registered key describes nodes entries)
    {record : Nat} {node : Node} {write : Node → Node} {entry : Entry}
    (present : nodes[record]? = some node) (keys : key (write node) = key node)
    (described : describes entry record (write node)) :
    Registered key describes (nodes.modify record write)
      (Function.update entries (key node) (some entry)) where
  distinct := by
    rw [map_modify fun other there => Option.some.inj (present.symm.trans there) ▸ keys]
    exact registered.distinct
  entry_of := by
    intro index other there
    rw [List.getElem?_modify] at there
    by_cases here : record = index
    · subst here
      simp only [present, ↓reduceIte, Option.map_eq_map, Option.map_some, Option.some.injEq] at there
      subst there
      exact ⟨entry, by rw [keys, Function.update_self], described⟩
    · have kept : nodes[index]? = some other := by
        simpa [here] using there
      obtain ⟨known, same, describes⟩ := registered.entry_of index other kept
      have apart : key other ≠ key node := fun equal =>
        here (registered.index_unique present kept equal.symm)
      exact ⟨known, by rwa [Function.update_of_ne apart], describes⟩
  node_of := by
    intro wanted other known
    by_cases same : wanted = key node
    · exact ⟨record, write node, by simp [present], keys.trans same.symm⟩
    · rw [Function.update_of_ne same] at known
      obtain ⟨index, old, there, named⟩ := registered.node_of wanted other known
      have apart : record ≠ index := by
        rintro rfl
        obtain rfl := Option.some.inj (present.symm.trans there)
        exact same named.symm
      exact ⟨index, old, by simp [apart, there], named⟩

/-- A scan that accepts nothing but the record under one key finds the record of its entry, if the
scan accepts it. -/
theorem Registered.newest?_iff (registered : Registered key describes nodes entries)
    {accepts : Node → Bool} {wanted : Key}
    (keyed : ∀ node, accepts node = true → key node = wanted) {index : Nat} :
    newest? accepts nodes = some index ↔ ∃ entry node, entries wanted = some entry ∧
      nodes[index]? = some node ∧ describes entry index node ∧ accepts node = true := by
  constructor
  · intro found
    obtain ⟨node, there, accepted⟩ := newest?_some found
    obtain ⟨entry, known, described⟩ := registered.entry_of index node there
    rw [keyed node accepted] at known
    exact ⟨entry, node, known, there, described, accepted⟩
  · rintro ⟨entry, node, known, there, described, accepted⟩
    cases found : newest? accepts nodes with
    | none =>
      rw [newest?_none.mp found node (List.mem_of_getElem? there)] at accepted
      cases accepted
    | some other =>
      obtain ⟨hit, present, also⟩ := newest?_some found
      have equal := (keyed hit also).trans (keyed node accepted).symm
      rw [registered.index_unique present there equal]

end Registry
