import Mathlib.Data.List.Nodup
import Mathlib.Logic.Function.Basic
import AnimateService.Library.Machine

/-!
# First-in-first-out queues by key

A map from keys to queues of items, and what became of the items: an item is accepted into the
queue of its owner, and leaves it as the first of the queue when it is served or with the whole
queue when the key is removed. In every run an accepted item waits, has been served or has been
discarded, exactly one of them, and the items of a key are served in the order in which they were
accepted.
-/
namespace KeyedQueues

variable {Key Item : Type} [DecidableEq Key]

/-- The queues, and the items that were accepted, served and discarded, in order. -/
@[ext] structure Book (Key Item : Type) where
  /-- The items that wait for each key that has a queue. -/
  waits : Key → Option (List Item) := fun _ => none
  /-- The accepted items. -/
  accepted : List Item := []
  /-- The served items. -/
  served : List Item := []
  /-- The discarded items. -/
  discarded : List Item := []

/-- What can happen to the queues. -/
inductive Event (Key Item : Type) where
  /-- A key without a queue gets one. -/
  | add (key : Key)
  /-- A key loses its queue. -/
  | remove (key : Key)
  /-- An item is put behind those of its owner. -/
  | accept (item : Item)
  /-- The first item of its owner is taken. -/
  | serve (item : Item)
  /-- Nothing is taken, as nothing waits. -/
  | idle

/-- The items that wait for a key. -/
def Book.waiting (book : Book Key Item) (key : Key) : List Item := (book.waits key).getD []

open Classical in
/-- What an event does. -/
noncomputable def step (owner : Item → Key) (book : Book Key Item) :
    Event Key Item → Option (Book Key Item)
  | .add key =>
    if book.waits key = none then
      some { book with waits := Function.update book.waits key (some []) }
    else none
  | .remove key =>
    some { book with
      waits := Function.update book.waits key none
      discarded := book.discarded ++ book.waiting key }
  | .accept item =>
    if (book.waits (owner item)).isSome ∧ item ∉ book.accepted then
      some { book with
        waits := Function.update book.waits (owner item)
          (some (book.waiting (owner item) ++ [item]))
        accepted := book.accepted ++ [item] }
    else none
  | .serve item =>
    if (book.waiting (owner item)).head? = some item then
      some { book with
        waits := Function.update book.waits (owner item)
          (some (book.waiting (owner item)).tail)
        served := book.served ++ [item] }
    else none
  | .idle => if ∀ key, book.waiting key = [] then some book else none

/-- The queues as a machine. -/
noncomputable def machine (owner : Item → Key) :
    Transition.Machine (Book Key Item) (Event Key Item) where
  step := step owner

/-- The items of a key among others. -/
def ofKey (owner : Item → Key) (key : Key) (items : List Item) : List Item :=
  items.filter fun item => owner item = key

/-- What holds of the queues at all times: the items of a key that were accepted are those that
have left, in order, and then those that wait; those that have left were served, in that order, or
discarded. -/
structure Book.Accounted (owner : Item → Key) (book : Book Key Item) : Prop where
  /-- An item is accepted once. -/
  once : book.accepted.Nodup
  /-- The items of each key. -/
  parts : ∀ key, ∃ left, ofKey owner key book.accepted = left ++ book.waiting key ∧
    (ofKey owner key book.served).Sublist left ∧
    left.Perm (ofKey owner key book.served ++ ofKey owner key book.discarded)

variable {owner : Item → Key} {book next : Book Key Item} {key : Key} {item : Item}

/-- The items of a key in two lists. -/
theorem ofKey_append (front back : List Item) :
    ofKey owner key (front ++ back) = ofKey owner key front ++ ofKey owner key back :=
  List.filter_append ..

/-- An item of the key. -/
theorem ofKey_self : ofKey owner (owner item) [item] = [item] := by
  simp [ofKey]

/-- An item of another key. -/
theorem ofKey_other (other : owner item ≠ key) : ofKey owner key [item] = [] := by
  simp [ofKey, other]

/-- An item is among those of its owner. -/
theorem mem_ofKey {items : List Item} :
    item ∈ ofKey owner key items ↔ item ∈ items ∧ owner item = key := by
  simp [ofKey]

/-- What waits for a key after a write to the queue of one. -/
theorem waiting_update (waits : Option (List Item)) (accepted served discarded : List Item)
    (wanted : Key) :
    Book.waiting ⟨Function.update book.waits key waits, accepted, served, discarded⟩ wanted =
      if wanted = key then waits.getD [] else book.waiting wanted := by
  dsimp only [Book.waiting]
  by_cases same : wanted = key
  · rw [if_pos same, same, Function.update_self]
  · rw [if_neg same, Function.update_of_ne same]

/-- A key without a queue is given one. -/
theorem step_add (new : book.waits key = none) : step owner book (.add key) =
    some { book with waits := Function.update book.waits key (some []) } := if_pos new

/-- A key is removed with its queue. -/
theorem step_remove (book : Book Key Item) (key : Key) : step owner book (.remove key) =
    some { book with
      waits := Function.update book.waits key none
      discarded := book.discarded ++ book.waiting key } := rfl

/-- A new item of a key with a queue is accepted. -/
theorem step_accept {items : List Item} (found : book.waits (owner item) = some items)
    (new : item ∉ book.accepted) : step owner book (.accept item) =
      some { book with
        waits := Function.update book.waits (owner item) (some (items ++ [item]))
        accepted := book.accepted ++ [item] } := by
  rw [step, if_pos ⟨by rw [found]; rfl, new⟩, Book.waiting, found]
  rfl

/-- The first item of a key is served. -/
theorem step_serve {items : List Item} (found : book.waits (owner item) = some (item :: items)) :
    step owner book (.serve item) =
      some { book with
        waits := Function.update book.waits (owner item) (some items)
        served := book.served ++ [item] } := by
  rw [step, if_pos (by rw [Book.waiting, found]; rfl), Book.waiting, found]
  rfl

/-- Nothing is served if nothing waits. -/
theorem step_idle (empty : ∀ key, book.waiting key = []) : step owner book .idle = some book :=
  if_pos empty

/-- At the start there are no items. -/
theorem accounted_empty : ({} : Book Key Item).Accounted owner :=
  ⟨List.nodup_nil, fun _ => ⟨[], rfl, .slnil, .nil⟩⟩

/-- Items wait for their owner. -/
theorem Book.Accounted.own (accounted : book.Accounted owner) (waits : item ∈ book.waiting key) :
    owner item = key := by
  obtain ⟨left, parts, -, -⟩ := accounted.parts key
  have inside : item ∈ ofKey owner key book.accepted := by
    rw [parts]
    exact List.mem_append_right _ waits
  exact (mem_ofKey.mp inside).2

/-- Every event keeps the items accounted for. -/
theorem step_accounted {event : Event Key Item} (accounted : book.Accounted owner)
    (stepped : step owner book event = some next) : next.Accounted owner := by
  cases event with
  | add added =>
    obtain ⟨new, ⟨⟩⟩ := Option.ite_none_right_eq_some.mp stepped
    refine ⟨accounted.once, fun key => ?_⟩
    obtain ⟨left, parts, order, gone⟩ := accounted.parts key
    refine ⟨left, ?_, order, gone⟩
    rw [waiting_update]
    by_cases same : key = added
    · rw [if_pos same, parts, same, Book.waiting, new]
      rfl
    · rw [if_neg same, parts]
  | remove removed =>
    cases stepped
    refine ⟨accounted.once, fun key => ?_⟩
    obtain ⟨left, parts, order, gone⟩ := accounted.parts key
    rw [waiting_update, ofKey_append]
    by_cases same : key = removed
    · subst same
      have own : ofKey owner key (book.waiting key) = book.waiting key :=
        List.filter_eq_self.mpr fun item waits => decide_eq_true (accounted.own waits)
      refine ⟨left ++ book.waiting key, by simp [parts], order.trans (List.sublist_append_left ..),
        ?_⟩
      rw [own, ← List.append_assoc]
      exact gone.append_right _
    · have others : ofKey owner key (book.waiting removed) = [] := by
        refine List.filter_eq_nil_iff.mpr fun item waits => ?_
        simpa [accounted.own waits] using Ne.symm same
      rw [if_neg same, others, List.append_nil]
      exact ⟨left, parts, order, gone⟩
  | accept item =>
    obtain ⟨⟨-, new⟩, ⟨⟩⟩ := Option.ite_none_right_eq_some.mp stepped
    refine ⟨?_, fun key => ?_⟩
    · refine List.nodup_append.mpr ⟨accounted.once, List.nodup_singleton _, ?_⟩
      rintro other inside _ here rfl
      exact new (List.mem_singleton.mp here ▸ inside)
    · obtain ⟨left, parts, order, gone⟩ := accounted.parts key
      refine ⟨left, ?_, order, gone⟩
      rw [waiting_update, ofKey_append, parts]
      by_cases same : key = owner item
      · rw [if_pos same, same, ofKey_self, Option.getD_some, List.append_assoc]
      · rw [if_neg same, ofKey_other (Ne.symm same), List.append_nil]
  | serve item =>
    obtain ⟨first, ⟨⟩⟩ := Option.ite_none_right_eq_some.mp stepped
    refine ⟨accounted.once, fun key => ?_⟩
    obtain ⟨left, parts, order, gone⟩ := accounted.parts key
    rw [waiting_update, ofKey_append]
    by_cases same : key = owner item
    · subst same
      have front : item :: (book.waiting (owner item)).tail = book.waiting (owner item) :=
        List.cons_head?_tail first
      rw [if_pos rfl, ofKey_self, Option.getD_some]
      refine ⟨left ++ [item], ?_, order.append (.refl _), ?_⟩
      · rw [parts, List.append_assoc, List.singleton_append, front]
      · calc
          (left ++ [item]).Perm (ofKey owner (owner item) book.served ++
              ofKey owner (owner item) book.discarded ++ [item]) := gone.append_right _
          _ |>.Perm (ofKey owner (owner item) book.served ++ [item] ++
              ofKey owner (owner item) book.discarded) := by
            rw [List.append_assoc, List.append_assoc]
            exact List.perm_append_comm.append_left _
    · rw [if_neg same, ofKey_other (Ne.symm same), List.append_nil]
      exact ⟨left, parts, order, gone⟩
  | idle =>
    obtain ⟨-, ⟨⟩⟩ := Option.ite_none_right_eq_some.mp stepped
    exact accounted

/-- In every run the items are accounted for. -/
theorem run_accounted {events : List (Event Key Item)}
    (ran : (machine owner).run {} events = some book) : book.Accounted owner := by
  have kept : ∀ book event next, book.Accounted owner → (machine owner).step book event = some next →
      next.Accounted owner := fun _ _ _ => step_accounted
  exact Transition.Machine.run_invariant kept accounted_empty ran

/-! ## What becomes of an item -/

/-- No item is served or discarded twice, or both. -/
theorem Book.Accounted.nodup (accounted : book.Accounted owner) :
    (book.served ++ book.discarded).Nodup := by
  classical
  rw [List.nodup_iff_count_le_one]
  intro item
  obtain ⟨left, parts, -, gone⟩ := accounted.parts (owner item)
  have counted : (book.served ++ book.discarded).count item = left.count item := by
    rw [gone.count_eq, List.count_append, List.count_append, ofKey, ofKey,
      List.count_filter (by simp), List.count_filter (by simp)]
  have distinct : left.Nodup := by
    have all := accounted.once.filter fun other => owner other = owner item
    rw [show book.accepted.filter (fun other => owner other = owner item) = _ from parts] at all
    exact (List.nodup_append.mp all).1
  rw [counted]
  exact List.nodup_iff_count_le_one.mp distinct item

/-- An accepted item waits, has been served or has been discarded. -/
theorem Book.Accounted.fate (accounted : book.Accounted owner) :
    item ∈ book.accepted ↔
      item ∈ book.waiting (owner item) ∨ item ∈ book.served ∨ item ∈ book.discarded := by
  obtain ⟨left, parts, -, gone⟩ := accounted.parts (owner item)
  have accepted : item ∈ book.accepted ↔ item ∈ left ++ book.waiting (owner item) := by
    rw [← parts, mem_ofKey]
    simp
  rw [accepted, List.mem_append, gone.mem_iff, List.mem_append, mem_ofKey, mem_ofKey]
  tauto

/-- An item that waits has neither been served nor discarded. -/
theorem Book.Accounted.waits (accounted : book.Accounted owner) (waits : item ∈ book.waiting key) :
    item ∉ book.served ∧ item ∉ book.discarded := by
  obtain rfl := accounted.own waits
  obtain ⟨left, parts, -, gone⟩ := accounted.parts (owner item)
  have all := accounted.once.filter fun other => owner other = owner item
  rw [show book.accepted.filter (fun other => owner other = owner item) = _ from parts] at all
  have outside : item ∉ left := fun inside =>
    (List.nodup_append.mp all).2.2 item inside item waits rfl
  rw [gone.mem_iff, List.mem_append, mem_ofKey, mem_ofKey] at outside
  tauto

/-- The items of a key are served in the order in which they were accepted. -/
theorem Book.Accounted.order (accounted : book.Accounted owner) (key : Key) :
    (ofKey owner key book.served ++ book.waiting key).Sublist
      (ofKey owner key book.accepted) := by
  obtain ⟨left, parts, order, -⟩ := accounted.parts key
  rw [parts]
  exact order.append (.refl _)

end KeyedQueues
