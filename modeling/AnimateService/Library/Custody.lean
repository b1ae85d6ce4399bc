import Mathlib.Data.List.Nodup
import Mathlib.Data.List.Perm.Basic
import Mathlib.Data.List.ReduceOption

/-!
# Items in custody

Items are issued to carriers. A carrier puts its item into a slot, retires it, or loses it, and an
item is retired out of its slot later. As long as every item that is put into a slot is not retired
by its carrier as well, the items issued are exactly those that were retired, lie in a slot, are
carried or are lost, each of them once. What was put away is never put away less often, so that an
item that was put away twice stays so.
-/
namespace Custody

variable {Carrier Item : Type}

/-- What one carrier acts on: all items issued and retired so far, the slots, and its own item. -/
structure Holding (Item : Type) where
  /-- The items issued so far. -/
  issued : List Item
  /-- The items retired so far, as often as they were. -/
  retired : List Item
  /-- The slots. -/
  slots : List (Option Item)
  /-- The item of the carrier. -/
  carried : Option Item

/-- What a carrier does. -/
inductive Event where
  /-- Nothing. -/
  | rest
  /-- It is issued an item. -/
  | issue
  /-- It puts its item into a new slot. -/
  | store
  /-- It retires its item. -/
  | discard
  /-- It loses its item. -/
  | lose
  /-- It retires the item of a slot. -/
  | release
  /-- It puts its item into a new slot and retires it nevertheless. -/
  | duplicate
  deriving DecidableEq, Repr

/-- The effect of an event. -/
inductive Move : Event → Holding Item → Holding Item → Prop where
  | rest {issued retired : List Item} {slots : List (Option Item)} :
    Move .rest ⟨issued, retired, slots, none⟩ ⟨issued, retired, slots, none⟩
  | issue {issued retired : List Item} {slots : List (Option Item)} {item : Item}
      (fresh : item ∉ issued) :
    Move .issue ⟨issued, retired, slots, none⟩ ⟨item :: issued, retired, slots, some item⟩
  | store {issued retired : List Item} {slots : List (Option Item)} {item : Item} :
    Move .store ⟨issued, retired, slots, some item⟩ ⟨issued, retired, slots ++ [some item], none⟩
  | discard {issued retired : List Item} {slots : List (Option Item)} {item : Item} :
    Move .discard ⟨issued, retired, slots, some item⟩ ⟨issued, item :: retired, slots, none⟩
  | lose {issued retired : List Item} {slots : List (Option Item)} {item : Item} :
    Move .lose ⟨issued, retired, slots, some item⟩ ⟨issued, retired, slots, none⟩
  | release {issued retired : List Item} {slots : List (Option Item)} {slot : Nat} {item : Item}
      (held : slots[slot]? = some (some item)) :
    Move .release ⟨issued, retired, slots, none⟩
      ⟨issued, item :: retired, slots.set slot none, none⟩
  | duplicate {issued retired : List Item} {slots : List (Option Item)} {item : Item} :
    Move .duplicate ⟨issued, retired, slots, some item⟩
      ⟨issued, item :: retired, slots ++ [some item], none⟩

/-- The items that were put away: retired, or in a slot. -/
def settled (retired : List Item) (slots : List (Option Item)) : List Item :=
  retired ++ slots.reduceOption

/-- Every item issued is put away, carried or lost, and only once. -/
structure Conserved (issued retired : List Item) (slots : List (Option Item))
    (carried : Carrier → Option Item) (lost : List Item) : Prop where
  /-- No item is issued twice. -/
  distinct : issued.Nodup
  /-- The items issued are those put away, carried and lost. -/
  balance : ∃ flying : List (Carrier × Item), flying.Nodup ∧
    (∀ carrier item, (carrier, item) ∈ flying ↔ carried carrier = some item) ∧
    issued.Perm (settled retired slots ++ (flying.map Prod.snd ++ lost))

variable {issued retired lost : List Item} {slots : List (Option Item)}
  {carried : Carrier → Option Item} {event : Event} {before after : Holding Item}

/-- Nothing is issued yet. -/
theorem conserved_nil : Conserved ([] : List Item) [] [] (fun _ : Carrier => none) [] where
  distinct := List.nodup_nil
  balance := ⟨[], List.nodup_nil, by simp, by simp [settled]⟩

/-- The item of a slot can be taken out of those in the slots. -/
theorem reduceOption_perm {slot : Nat} {item : Item} (held : slots[slot]? = some (some item)) :
    slots.reduceOption.Perm (item :: (slots.set slot none).reduceOption) := by
  induction slots generalizing slot with
  | nil => cases held
  | cons first slots ih =>
    cases slot with
    | zero =>
      obtain rfl : first = some item := Option.some.inj held
      exact List.Perm.refl _
    | succ slot =>
      have rest := @ih slot (by simpa using held)
      cases first with
      | none => exact rest
      | some other => exact (rest.cons other).trans (List.Perm.swap item other _)

/-- A carrier that gives its item away carries nothing, and the others what they carried. -/
theorem flying_erase [DecidableEq Carrier] [DecidableEq Item] {flying : List (Carrier × Item)}
    (once : flying.Nodup)
    (known : ∀ carrier item, (carrier, item) ∈ flying ↔ carried carrier = some item)
    {carrier : Carrier} {item : Item} (here : carried carrier = some item) :
    (flying.erase (carrier, item)).Nodup ∧
      (∀ other item', (other, item') ∈ flying.erase (carrier, item) ↔
        Function.update carried carrier none other = some item') ∧
      (flying.map Prod.snd).Perm (item :: (flying.erase (carrier, item)).map Prod.snd) := by
  refine ⟨once.erase _, ?_, ?_⟩
  · intro other item'
    rw [once.mem_erase_iff, known]
    by_cases same : other = carrier
    · subst same
      simp only [Function.update_self, reduceCtorEq, iff_false]
      rintro ⟨apart, again⟩
      obtain rfl := Option.some.inj (here.symm.trans again)
      exact apart rfl
    · simp [same]
  · exact (List.perm_cons_erase ((known carrier item).mpr here)).map Prod.snd

/-- Every event but the duplication conserves the items, and only a loss loses one. -/
theorem Conserved.move [DecidableEq Carrier] [DecidableEq Item]
    (conserved : Conserved before.issued before.retired before.slots carried lost)
    (carrier : Carrier) (here : carried carrier = before.carried) (moves : Move event before after)
    (proper : event ≠ .duplicate) :
    ∃ gone, Conserved after.issued after.retired after.slots
        (Function.update carried carrier after.carried) gone ∧ (event ≠ .lose → gone = lost) := by
  obtain ⟨distinct, flying, once, known, balance⟩ := conserved
  cases moves with
  | duplicate => exact absurd rfl proper
  | rest =>
    refine ⟨lost, ⟨distinct, flying, once, ?_, balance⟩, fun _ => rfl⟩
    rw [Function.update_eq_self_iff.mpr here.symm]
    exact known
  | issue fresh =>
    rename_i item
    have unknown : ∀ item', (carrier, item') ∉ flying := by
      intro item' inside
      rw [known, here] at inside
      cases inside
    refine ⟨lost, ⟨List.nodup_cons.mpr ⟨fresh, distinct⟩, (carrier, item) :: flying,
      List.nodup_cons.mpr ⟨unknown item, once⟩, ?_, ?_⟩, fun _ => rfl⟩
    · intro other item'
      by_cases same : other = carrier
      · subst same
        simp [unknown, eq_comm]
      · simp [same, known]
    · exact (balance.cons item).trans List.perm_middle.symm
  | store =>
    rename_i item
    obtain ⟨still, others, flown⟩ := flying_erase once known here
    refine ⟨lost, ⟨distinct, _, still, others, balance.trans ?_⟩, fun _ => rfl⟩
    simp only [settled, List.reduceOption_append, List.reduceOption_cons_of_some,
      List.reduceOption_nil, List.append_assoc]
    exact ((flown.append_right lost).append_left _).append_left _
  | discard =>
    rename_i item
    obtain ⟨still, others, flown⟩ := flying_erase once known here
    refine ⟨lost, ⟨distinct, _, still, others, balance.trans ?_⟩, fun _ => rfl⟩
    exact ((flown.append_right lost).append_left _).trans List.perm_middle
  | lose =>
    rename_i item
    obtain ⟨still, others, flown⟩ := flying_erase once known here
    refine ⟨item :: lost, ⟨distinct, _, still, others, balance.trans ?_⟩, fun kept => absurd rfl kept⟩
    exact ((flown.append_right lost).trans List.perm_middle.symm).append_left _
  | release held =>
    rename_i item
    refine ⟨lost, ⟨distinct, flying, once, ?_, balance.trans ?_⟩, fun _ => rfl⟩
    · rw [Function.update_eq_self_iff.mpr here.symm]
      exact known
    · refine List.Perm.append_right _ ?_
      exact ((reduceOption_perm held).append_left _).trans List.perm_middle

/-- What is put away or carried is not retired. -/
theorem Conserved.not_retired (conserved : Conserved issued retired slots carried lost)
    {item : Item}
    (held : item ∈ slots.reduceOption ∨ ∃ carrier, carried carrier = some item) :
    item ∉ retired := by
  obtain ⟨distinct, flying, once, known, balance⟩ := conserved
  have apart := balance.nodup_iff.mp distinct
  rw [settled, List.append_assoc, List.nodup_append] at apart
  intro inside
  refine apart.2.2 item inside item ?_ rfl
  rcases held with slot | ⟨carrier, carries⟩
  · exact List.mem_append_left _ slot
  · refine List.mem_append_right _ (List.mem_append_left _ ?_)
    exact List.mem_map.mpr ⟨(carrier, item), (known carrier item).mpr carries, rfl⟩

/-- No item was put away twice. -/
theorem Conserved.settled_nodup (conserved : Conserved issued retired slots carried lost) :
    (settled retired slots).Nodup := by
  obtain ⟨distinct, flying, -, -, balance⟩ := conserved
  exact (List.nodup_append.mp (balance.nodup_iff.mp distinct)).1

/-- When nothing is carried and nothing was lost, the items issued are those put away. -/
theorem Conserved.all_settled (conserved : Conserved issued retired slots carried [])
    (idle : ∀ carrier, carried carrier = none) : issued.Perm (settled retired slots) := by
  obtain ⟨distinct, flying, once, known, balance⟩ := conserved
  have nobody : flying = [] := by
    rw [List.eq_nil_iff_forall_not_mem]
    rintro ⟨carrier, item⟩ inside
    rw [known, idle] at inside
    cases inside
  rw [nobody] at balance
  simpa using balance

/-- Then every item issued was put away exactly once. -/
theorem Conserved.settled_once [DecidableEq Item]
    (conserved : Conserved issued retired slots carried [])
    (idle : ∀ carrier, carried carrier = none) {item : Item} (inside : item ∈ issued) :
    (settled retired slots).count item = 1 := by
  rw [← (conserved.all_settled idle).count_eq]
  exact List.count_eq_one_of_mem conserved.distinct inside

/-- No event takes away from what was put away. -/
theorem Move.count_le [DecidableEq Item] (moves : Move event before after) (item : Item) :
    (settled before.retired before.slots).count item ≤
      (settled after.retired after.slots).count item := by
  cases moves with
  | rest => exact Nat.le_refl _
  | issue fresh => exact Nat.le_refl _
  | lose => exact Nat.le_refl _
  | store =>
    simp only [settled, List.reduceOption_append, List.count_append]
    omega
  | discard =>
    simp only [settled, List.cons_append]
    exact List.count_le_count_cons
  | release held =>
    refine Nat.le_of_eq (List.Perm.count_eq ?_ item)
    exact ((reduceOption_perm held).append_left _).trans List.perm_middle
  | duplicate =>
    simp only [settled, List.reduceOption_append, List.count_append, List.cons_append,
      List.count_cons]
    omega

/-- No event takes back what was issued or retired. -/
theorem Move.grows (moves : Move event before after) :
    before.issued ⊆ after.issued ∧ before.retired ⊆ after.retired := by
  cases moves with
  | rest => exact ⟨List.Subset.refl _, List.Subset.refl _⟩
  | store => exact ⟨List.Subset.refl _, List.Subset.refl _⟩
  | lose => exact ⟨List.Subset.refl _, List.Subset.refl _⟩
  | issue fresh => exact ⟨List.subset_cons_self _ _, List.Subset.refl _⟩
  | discard => exact ⟨List.Subset.refl _, List.subset_cons_self _ _⟩
  | release held => exact ⟨List.Subset.refl _, List.subset_cons_self _ _⟩
  | duplicate => exact ⟨List.Subset.refl _, List.subset_cons_self _ _⟩

/-- What a carrier carries after an event was issued. -/
theorem Move.carried_issued (moves : Move event before after) {item : Item}
    (carries : after.carried = some item) : item ∈ after.issued := by
  cases moves with
  | issue fresh =>
    obtain rfl := Option.some.inj carries
    exact List.mem_cons_self
  | _ => cases carries

/-- What a carrier carries after an event is new. -/
theorem Move.carried_fresh (moves : Move event before after) {item : Item}
    (carries : after.carried = some item) : item ∉ before.issued := by
  cases moves with
  | issue fresh =>
    obtain rfl := Option.some.inj carries
    exact fresh
  | _ => cases carries

/-- The item was retired, and put away twice. -/
structure Doubled [DecidableEq Item] (issued retired : List Item) (slots : List (Option Item))
    (item : Item) : Prop where
  /-- It was issued. -/
  known : item ∈ issued
  /-- It was retired. -/
  gone : item ∈ retired
  /-- It was retired again or is in a slot. -/
  twice : 2 ≤ (settled retired slots).count item

/-- What was put away twice is so after every event. -/
theorem Doubled.move [DecidableEq Item] {item : Item}
    (doubled : Doubled before.issued before.retired before.slots item)
    (moves : Move event before after) : Doubled after.issued after.retired after.slots item where
  known := moves.grows.1 doubled.known
  gone := moves.grows.2 doubled.gone
  twice := Nat.le_trans doubled.twice (moves.count_le item)

/-- What is duplicated is put away twice. -/
theorem Move.doubles [DecidableEq Item] (moves : Move .duplicate before after)
    (known : ∀ item, before.carried = some item → item ∈ before.issued) :
    ∃ item, Doubled after.issued after.retired after.slots item := by
  cases moves with
  | duplicate =>
    rename_i item
    refine ⟨item, known item rfl, List.mem_cons_self, ?_⟩
    simp only [settled, List.reduceOption_append, List.count_append, List.cons_append,
      List.count_cons_self, List.reduceOption_cons_of_some, List.reduceOption_nil]
    omega

end Custody
