import Mathlib.Algebra.BigOperators.Group.Finset.Basic
import Mathlib.Algebra.GroupWithZero.Nat
import AnimateService.Library.Machine

/-!
# Potentials of machines

A potential is a number that each step may raise only by the credit that its label brings. What the
steps of a run do is then paid from the potential at the start and the credits on the way, so that
work that nothing pays for comes to an end. If moreover every state that is not settled has a step
that lowers a measure, a settled state is reached from everywhere. Where a state has numbered places,
a potential is a sum over them, and a step at one place changes one summand.
-/
namespace Transition

/-- A sum over places after a write to one of them. -/
theorem sum_update_place {Content : Type} (cost : Content → Nat) (places : Nat → Content)
    {place count : Nat} (inside : place < count) (content : Content) :
    (∑ other ∈ Finset.range count, cost (Function.update places place content other)) +
        cost (places place) =
      (∑ other ∈ Finset.range count, cost (places other)) + cost content := by
  have member : place ∈ Finset.range count := Finset.mem_range.mpr inside
  rw [← Finset.add_sum_erase _ _ member, ← Finset.add_sum_erase _ (fun other => cost (places other))
    member, Function.update_self]
  have others : (∑ other ∈ (Finset.range count).erase place,
      cost (Function.update places place content other)) =
      ∑ other ∈ (Finset.range count).erase place, cost (places other) :=
    Finset.sum_congr rfl fun other elsewhere => by
      rw [Function.update_of_ne (Finset.ne_of_mem_erase elsewhere)]
  omega

/-- A sum over listed places after a write to one of them. -/
theorem sum_set_place {Content : Type} (cost : Content → Nat) {places : List Content} {place : Nat}
    {before : Content} (there : places[place]? = some before) (content : Content) :
    ((places.set place content).map cost).sum + cost before =
      (places.map cost).sum + cost content := by
  induction places generalizing place with
  | nil => cases there
  | cons first rest ih =>
    cases place with
    | zero =>
      cases there
      simp only [List.set_cons_zero, List.map_cons, List.sum_cons]
      omega
    | succ place =>
      have later := ih there
      simp only [List.set_cons_succ, List.map_cons, List.sum_cons]
      omega

namespace Machine

variable {State Label : Type}

/-- The sum of a price over the steps of a run. -/
def spent (machine : Machine State Label) (price : State → Label → Nat) : State → List Label → Nat
  | _, [] => 0
  | state, label :: labels =>
    match machine.step state label with
    | some next => price state label + spent machine price next labels
    | none => 0

variable {machine : Machine State Label} {price credit : State → Label → Nat} {state last : State}
  {labels : List Label}

/-- A run pays for its first step and for the rest. -/
theorem spent_cons {next : State} {label : Label} (step : machine.step state label = some next) :
    machine.spent price state (label :: labels) =
      price state label + machine.spent price next labels := by
  rw [spent, step]

/-- A run whose steps cost one each costs as much as it is long. -/
theorem spent_one (ran : machine.run state labels = some last) :
    machine.spent (fun _ _ => 1) state labels = labels.length := by
  induction labels generalizing state with
  | nil => rfl
  | cons label labels ih =>
    obtain ⟨next, step, rest⟩ := run_cons_some.mp ran
    rw [spent_cons step, ih rest, List.length_cons, Nat.add_comm]

/-- The work of a run and the potential that is left are paid from the potential at its start and
the credits of its steps. -/
theorem run_paid (invariant : State → Prop) {potential : State → Nat}
    (kept : ∀ state label next, invariant state → machine.step state label = some next →
      invariant next)
    (paid : ∀ state label next, invariant state → machine.step state label = some next →
      potential next + price state label ≤ potential state + credit state label)
    (initially : invariant state) (ran : machine.run state labels = some last) :
    potential last + machine.spent price state labels ≤
      potential state + machine.spent credit state labels := by
  induction labels generalizing state with
  | nil =>
    cases ran
    exact Nat.le_refl _
  | cons label labels ih =>
    obtain ⟨next, step, rest⟩ := run_cons_some.mp ran
    have first := paid state label next initially step
    have later := ih (kept state label next initially step) rest
    rw [spent_cons step, spent_cons step]
    omega

/-- A guarded run whose steps lower the potential by their prices has cost the difference. -/
theorem run_lowers (invariant : State → Prop) (potential : State → Nat)
    (price : State → Label → Nat) (guard : State → Label → Prop)
    (kept : ∀ state label next, guard state label → invariant state →
      machine.step state label = some next →
        invariant next ∧ potential next + price state label = potential state)
    (guarded : machine.EveryStep guard state labels) (initially : invariant state)
    (ran : machine.run state labels = some last) :
    invariant last ∧ potential last + machine.spent price state labels = potential state := by
  induction labels generalizing state with
  | nil =>
    cases ran
    exact ⟨initially, rfl⟩
  | cons label labels ih =>
    obtain ⟨next, step, rest⟩ := run_cons_some.mp ran
    obtain ⟨met, onward⟩ := guarded next step
    obtain ⟨holds, first⟩ := kept state label next met initially step
    obtain ⟨ends, later⟩ := ih onward holds rest
    refine ⟨ends, ?_⟩
    rw [spent_cons step]
    omega

/-- While every state that is not settled has a step that lowers a measure, a settled state is
reached, in no more steps than the measure at the start. -/
theorem run_settles {invariant settled : State → Prop} {measure : State → Nat}
    (guard : State → Label → Prop)
    (goes_on : ∀ state, invariant state → ¬ settled state → ∃ label next, guard state label ∧
      machine.step state label = some next ∧ invariant next ∧ measure next < measure state)
    (initially : invariant state) :
    ∃ labels last, machine.EveryStep guard state labels ∧ labels.length ≤ measure state ∧
      machine.run state labels = some last ∧ invariant last ∧ settled last := by
  induction fuel : measure state using Nat.strongRecOn generalizing state with
  | ind fuel ih =>
    by_cases done : settled state
    · exact ⟨[], state, trivial, Nat.zero_le _, rfl, initially, done⟩
    · obtain ⟨label, next, met, step, holds, lower⟩ := goes_on state initially done
      obtain ⟨labels, last, all, short, ran, ends, settles⟩ :=
        ih (measure next) (fuel ▸ lower) holds rfl
      refine ⟨label :: labels, last, everyStep_cons step met all, ?_,
        run_cons_some.mpr ⟨next, step, ran⟩, ends, settles⟩
      rw [List.length_cons]
      omega

end Machine

end Transition
