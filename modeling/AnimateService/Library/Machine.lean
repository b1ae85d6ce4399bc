import Mathlib.Logic.Basic

/-!
# Labelled machines and their runs

A machine takes labelled steps. The label carries every choice that the environment makes, so
a step is a partial function of state and label, a list of labels determines a run, and a run
on concrete labels can be evaluated. `Always` speaks about every state a run visits and
`EveryStep` about every step it takes. The rules below package the inductions on runs: an
invariant kept by every step, an invariant kept by the steps that meet a guard, the exact
guard of a property, the step at which a property is lost, what an observer sees of a run, and the
transport of runs along a projection of one machine to another.
-/
namespace Transition

/-- A machine whose steps are determined by their labels. -/
structure Machine (State Label : Type) where
  /-- The successor of a state under a label, where the label can be taken. -/
  step : State → Label → Option State

namespace Machine

variable {State Label : Type} (machine : Machine State Label)

/-- The state that a list of labels leads to. -/
def run : State → List Label → Option State
  | state, [] => some state
  | state, label :: labels => (machine.step state label).bind fun next => run next labels

/-- A property of every state visited by a run, its first and last state included. -/
def Always (property : State → Prop) : State → List Label → Prop
  | state, [] => property state
  | state, label :: labels =>
    property state ∧ ∀ next, machine.step state label = some next → Always property next labels

/-- A property of every step that a run takes: of the state before it and its label. -/
def EveryStep (guard : State → Label → Prop) : State → List Label → Prop
  | _, [] => True
  | state, label :: labels =>
    ∀ next, machine.step state label = some next → guard state label ∧ EveryStep guard next labels

/-- A state that some run from the initial state leads to. -/
def Reachable (initial state : State) : Prop := ∃ labels, machine.run initial labels = some state

variable {machine}

@[simp] theorem run_nil (state : State) : machine.run state [] = some state := rfl

/-- A run takes its first step and runs on from there. -/
theorem run_cons (state : State) (label : Label) (labels : List Label) :
    machine.run state (label :: labels) =
      (machine.step state label).bind fun next => machine.run next labels := rfl

/-- A completed run with a first label took that step. -/
theorem run_cons_some {state last : State} {label : Label} {labels : List Label} :
    machine.run state (label :: labels) = some last ↔
      ∃ next, machine.step state label = some next ∧ machine.run next labels = some last := by
  simp [run_cons, Option.bind_eq_some_iff]

/-- Runs compose. -/
theorem run_append (state : State) (front back : List Label) :
    machine.run state (front ++ back) =
      (machine.run state front).bind fun middle => machine.run middle back := by
  induction front generalizing state with
  | nil => rfl
  | cons label front ih =>
    rw [List.cons_append, run_cons, run_cons]
    cases machine.step state label with
    | none => rfl
    | some next => exact ih next

/-- A completed run over two lists passes through the end of the first. -/
theorem run_append_some {state last : State} {front back : List Label} :
    machine.run state (front ++ back) = some last ↔
      ∃ middle, machine.run state front = some middle ∧ machine.run middle back = some last := by
  simp [run_append, Option.bind_eq_some_iff]

/-- A run can be followed by one more step. -/
theorem run_concat {state middle last : State} {labels : List Label} {label : Label}
    (ran : machine.run state labels = some middle) (step : machine.step middle label = some last) :
    machine.run state (labels ++ [label]) = some last :=
  run_append_some.mpr ⟨middle, ran, by rw [run_cons, step]; rfl⟩

/-- The initial state is reachable. -/
theorem Reachable.refl (initial : State) : machine.Reachable initial initial := ⟨[], rfl⟩

/-- A reachable state's successors are reachable. -/
theorem Reachable.next {initial state next : State} {label : Label}
    (reached : machine.Reachable initial state) (step : machine.step state label = some next) :
    machine.Reachable initial next := by
  obtain ⟨labels, ran⟩ := reached
  exact ⟨labels ++ [label], run_concat ran step⟩

/-! ## Invariants -/

/-- Induction on runs: what the steps under the admitted labels preserve holds at the end of
every run over such labels. -/
theorem run_invariant_on {property : State → Prop} {admitted : Label → Prop}
    (preserved : ∀ state label next, admitted label → property state →
      machine.step state label = some next → property next)
    {state last : State} {labels : List Label} (allowed : ∀ label ∈ labels, admitted label)
    (initially : property state) (ran : machine.run state labels = some last) : property last := by
  induction labels generalizing state with
  | nil =>
    cases ran
    exact initially
  | cons label labels ih =>
    obtain ⟨next, step, rest⟩ := run_cons_some.mp ran
    have here := preserved state label next (allowed label List.mem_cons_self) initially step
    exact ih (fun other member => allowed other (List.mem_cons_of_mem label member)) here rest

/-- What every step preserves holds at the end of every run. -/
theorem run_invariant {property : State → Prop}
    (preserved : ∀ state label next, property state → machine.step state label = some next →
      property next)
    {state last : State} {labels : List Label} (initially : property state)
    (ran : machine.run state labels = some last) : property last :=
  run_invariant_on (fun state label next _ => preserved state label next)
    (fun label _ => (trivial : (fun _ => True) label)) initially ran

/-- Induction on runs from their ends: what holds of the empty run and is passed on by one more
step, with the whole run so far in view, holds of every run. -/
theorem run_history {relation : List Label → State → Prop} {state last : State}
    {labels : List Label} (initially : relation [] state)
    (extends_ : ∀ front label reached next, machine.run state front = some reached →
      relation front reached → machine.step reached label = some next →
      relation (front ++ [label]) next)
    (ran : machine.run state labels = some last) : relation labels last := by
  -- the rest of the run is taken step by step onto its front
  have onward : ∀ rest front reached, machine.run state front = some reached →
      relation front reached → machine.run reached rest = some last →
      relation (front ++ rest) last := by
    intro rest
    induction rest with
    | nil =>
      intro front reached _ held final
      cases final
      rw [List.append_nil]
      exact held
    | cons label rest ih =>
      intro front reached segment held final
      obtain ⟨next, step, later⟩ := run_cons_some.mp final
      have there := ih (front ++ [label]) next (run_concat segment step)
        (extends_ front label reached next segment held step) later
      rwa [List.append_assoc] at there
  exact onward labels [] state rfl initially ran

/-- What every step preserves holds of every reachable state. -/
theorem Reachable.invariant {property : State → Prop}
    (preserved : ∀ state label next, property state → machine.step state label = some next →
      property next)
    {initial state : State} (initially : property initial)
    (reached : machine.Reachable initial state) : property state := by
  obtain ⟨labels, ran⟩ := reached
  exact run_invariant preserved initially ran

/-- A property of all visited states holds of the first one. -/
theorem Always.first {property : State → Prop} {state : State} {labels : List Label}
    (always : machine.Always property state labels) : property state := by
  cases labels with
  | nil => exact always
  | cons label labels => exact always.1

/-- A property of all visited states holds of the last one. -/
theorem Always.last {property : State → Prop} {state last : State} {labels : List Label}
    (always : machine.Always property state labels)
    (ran : machine.run state labels = some last) : property last := by
  induction labels generalizing state with
  | nil =>
    cases ran
    exact always
  | cons label labels ih =>
    obtain ⟨next, step, rest⟩ := run_cons_some.mp ran
    exact ih (always.2 next step) rest

/-- A weaker property holds of all visited states as well. -/
theorem Always.imp {strong weak : State → Prop} (weaken : ∀ state, strong state → weak state)
    {state : State} {labels : List Label} (always : machine.Always strong state labels) :
    machine.Always weak state labels := by
  induction labels generalizing state with
  | nil => exact weaken state always
  | cons label labels ih =>
    exact ⟨weaken state always.1, fun next step => ih (always.2 next step)⟩

/-- Visited states are those at the ends of the run's initial segments. -/
theorem always_iff_segments {property : State → Prop} {state : State} {labels : List Label} :
    machine.Always property state labels ↔
      ∀ front back reached, labels = front ++ back → machine.run state front = some reached →
        property reached := by
  constructor
  · intro always front
    induction front generalizing state labels with
    | nil =>
      intro back reached split ran
      cases ran
      exact always.first
    | cons label front ih =>
      intro back reached split ran
      obtain ⟨next, step, rest⟩ := run_cons_some.mp ran
      subst split
      exact ih (always.2 next step) back reached rfl rest
  · intro segments
    induction labels generalizing state with
    | nil => exact segments [] [] state rfl rfl
    | cons label labels ih =>
      refine ⟨segments [] _ state rfl rfl, fun next step => ih fun front back reached split ran => ?_⟩
      exact segments (label :: front) back reached (by rw [split]; rfl)
        (run_cons_some.mpr ⟨next, step, ran⟩)

/-- A test of all visited states that can be evaluated. -/
def checks (machine : Machine State Label) (property : State → Bool) : State → List Label → Bool
  | state, [] => property state
  | state, label :: labels =>
    property state &&
      (machine.step state label).all fun next => checks machine property next labels

/-- The test decides the property of all visited states. -/
theorem always_of_checks {property : State → Bool} {state : State} {labels : List Label}
    (checked : machine.checks property state labels = true) :
    machine.Always (fun state => property state = true) state labels := by
  induction labels generalizing state with
  | nil => exact checked
  | cons label labels ih =>
    obtain ⟨here, later⟩ := Bool.and_eq_true_iff.mp checked
    refine ⟨here, fun next step => ih ?_⟩
    rwa [step] at later

/-- A test of all steps that can be evaluated. -/
def checksSteps (machine : Machine State Label) (guard : State → Label → Bool) :
    State → List Label → Bool
  | _, [] => true
  | state, label :: labels =>
    guard state label &&
      (machine.step state label).all fun next => checksSteps machine guard next labels

/-- The test decides the guard of all steps. -/
theorem everyStep_of_checks {guard : State → Label → Bool} {state : State} {labels : List Label}
    (checked : machine.checksSteps guard state labels = true) :
    machine.EveryStep (fun state label => guard state label = true) state labels := by
  induction labels generalizing state with
  | nil => trivial
  | cons label labels ih =>
    obtain ⟨here, later⟩ := Bool.and_eq_true_iff.mp checked
    refine fun next step => ⟨here, ih ?_⟩
    rwa [step] at later

/-- What holds of all visited states holds of the state before every step. -/
theorem Always.everyStep {property : State → Prop} {state : State} {labels : List Label}
    (always : machine.Always property state labels) :
    machine.EveryStep (fun state _ => property state) state labels := by
  induction labels generalizing state with
  | nil => trivial
  | cons label labels ih => exact fun next step => ⟨always.1, ih (always.2 next step)⟩

/-- Two guards that every step meets are met together. -/
theorem EveryStep.and {guard other : State → Label → Prop} {state : State} {labels : List Label}
    (guarded : machine.EveryStep guard state labels) (also : machine.EveryStep other state labels) :
    machine.EveryStep (fun state label => guard state label ∧ other state label) state labels := by
  induction labels generalizing state with
  | nil => trivial
  | cons label labels ih =>
    intro next step
    obtain ⟨met, later⟩ := guarded next step
    obtain ⟨too, rest⟩ := also next step
    exact ⟨⟨met, too⟩, ih later rest⟩

/-- What holds of a state and throughout the run from its successor holds throughout. -/
theorem always_cons {property : State → Prop} {state next : State} {label : Label}
    {labels : List Label} (here : property state) (step : machine.step state label = some next)
    (later : machine.Always property next labels) :
    machine.Always property state (label :: labels) := by
  refine ⟨here, fun other taken => ?_⟩
  obtain rfl := Option.some.inj (step.symm.trans taken)
  exact later

/-- What holds throughout a run and throughout its continuation holds throughout both. -/
theorem always_append {property : State → Prop} {state middle : State} {front back : List Label}
    (ran : machine.run state front = some middle) (before : machine.Always property state front)
    (after : machine.Always property middle back) :
    machine.Always property state (front ++ back) := by
  induction front generalizing state with
  | nil =>
    cases ran
    exact after
  | cons label front ih =>
    obtain ⟨next, step, rest⟩ := run_cons_some.mp ran
    exact always_cons before.1 step (ih rest (before.2 next step))

/-- The steps of a run are its first step and those of the rest. -/
theorem everyStep_cons {guard : State → Label → Prop} {state next : State} {label : Label}
    {labels : List Label} (step : machine.step state label = some next) (met : guard state label)
    (later : machine.EveryStep guard next labels) :
    machine.EveryStep guard state (label :: labels) := by
  intro other taken
  obtain rfl := Option.some.inj (taken.symm.trans step)
  exact ⟨met, later⟩

/-- A guard that labels meet in every state is met by the steps of a list of such labels. -/
theorem everyStep_of_labels {guard : State → Label → Prop} {state : State} {labels : List Label}
    (allowed : ∀ label ∈ labels, ∀ state, guard state label) :
    machine.EveryStep guard state labels := by
  induction labels generalizing state with
  | nil => trivial
  | cons label labels ih =>
    exact fun next _ => ⟨allowed label List.mem_cons_self state,
      ih fun other member => allowed other (List.mem_cons_of_mem label member)⟩

/-- The steps of a run over two lists are those over the first and those from its end. -/
theorem everyStep_append {guard : State → Label → Prop} {state middle : State}
    {front back : List Label} (ran : machine.run state front = some middle)
    (before : machine.EveryStep guard state front) (after : machine.EveryStep guard middle back) :
    machine.EveryStep guard state (front ++ back) := by
  induction front generalizing state with
  | nil =>
    cases ran
    exact after
  | cons label front ih =>
    obtain ⟨next, step, rest⟩ := run_cons_some.mp ran
    obtain ⟨met, later⟩ := before next step
    exact everyStep_cons step met (ih rest later)

/-- Every step of a run meets a guard that all its steps meet. -/
theorem EveryStep.at {guard : State → Label → Prop} {state reached next : State} {label : Label}
    {front back : List Label} (guarded : machine.EveryStep guard state (front ++ label :: back))
    (ran : machine.run state front = some reached)
    (step : machine.step reached label = some next) : guard reached label := by
  induction front generalizing state with
  | nil =>
    cases ran
    exact (guarded next step).1
  | cons first front ih =>
    obtain ⟨middle, taken, rest⟩ := run_cons_some.mp ran
    exact ih (guarded middle taken).2 rest

/-- A guard that is met wherever an initial segment of the run leads is met by every step. -/
theorem everyStep_of_segments {guard : State → Label → Prop} {state : State} {labels : List Label}
    (met : ∀ front label back reached next, labels = front ++ label :: back →
      machine.run state front = some reached → machine.step reached label = some next →
      guard reached label) : machine.EveryStep guard state labels := by
  induction labels generalizing state with
  | nil => trivial
  | cons label labels ih =>
    intro next step
    refine ⟨met [] label labels state next rfl rfl step, ih ?_⟩
    intro front later back reached after split ran taken
    exact met (label :: front) later back reached after (by rw [split]; rfl)
      (run_cons_some.mpr ⟨next, step, ran⟩) taken

/-- An invariant kept by every step that meets the guard holds throughout every run whose
steps all meet it. -/
theorem always_of_guarded {invariant : State → Prop} {guard : State → Label → Prop}
    (preserved : ∀ state label next, invariant state → guard state label →
      machine.step state label = some next → invariant next)
    {state : State} {labels : List Label} (initially : invariant state)
    (guarded : machine.EveryStep guard state labels) : machine.Always invariant state labels := by
  induction labels generalizing state with
  | nil => exact initially
  | cons label labels ih =>
    refine ⟨initially, fun next step => ?_⟩
    obtain ⟨met, later⟩ := guarded next step
    exact ih (preserved state label next initially met step) later

/-- In the states of an invariant that the guarded steps keep, what a guard implies for a step holds
of every step of a guarded run. -/
theorem everyStep_mono {invariant : State → Prop} {guard other : State → Label → Prop}
    (implied : ∀ state label next, invariant state → guard state label →
      machine.step state label = some next → other state label)
    (preserved : ∀ state label next, invariant state → guard state label →
      machine.step state label = some next → invariant next)
    {state : State} {labels : List Label} (initially : invariant state)
    (guarded : machine.EveryStep guard state labels) : machine.EveryStep other state labels := by
  induction labels generalizing state with
  | nil => trivial
  | cons label labels ih =>
    intro next step
    obtain ⟨met, later⟩ := guarded next step
    exact ⟨implied state label next initially met step,
      ih (preserved state label next initially met step) later⟩

/-- The exact guard of a property. When, in the states of an unconditional invariant, a step
keeps the property exactly if it meets the guard, a run has the property throughout exactly if
all its steps meet the guard. -/
theorem always_iff_everyStep {background property : State → Prop} {guard : State → Label → Prop}
    (kept : ∀ state label next, background state → machine.step state label = some next →
      background next)
    (exactly : ∀ state label next, background state → property state →
      machine.step state label = some next → (property next ↔ guard state label))
    {state : State} {labels : List Label} (base : background state)
    (initially : property state) :
    machine.Always property state labels ↔ machine.EveryStep guard state labels := by
  induction labels generalizing state with
  | nil => exact ⟨fun _ => trivial, fun _ => initially⟩
  | cons label labels ih =>
    constructor
    · rintro ⟨_, later⟩ next step
      have good := later next step
      have met := (exactly state label next base initially step).mp good.first
      exact ⟨met, (ih (kept state label next base step) good.first).mp good⟩
    · intro guarded
      refine ⟨initially, fun next step => ?_⟩
      obtain ⟨met, later⟩ := guarded next step
      have good := (exactly state label next base initially step).mpr met
      exact (ih (kept state label next base step) good).mpr later

/-- What no step restores and holds at the end of a run holds at its start. -/
theorem run_earlier {property : State → Prop}
    (earlier : ∀ state label next, machine.step state label = some next → property next →
      property state)
    {state last : State} {labels : List Label} (ran : machine.run state labels = some last)
    (ends : property last) : property state := by
  induction labels generalizing state with
  | nil =>
    cases ran
    exact ends
  | cons label labels ih =>
    obtain ⟨next, step, rest⟩ := run_cons_some.mp ran
    exact earlier state label next step (ih rest)

/-- Two guards that agree under an invariant are met by the same runs, if the steps that meet them
keep the invariant; the invariant then holds at the end. What is known of the end of the run, and
is never restored once lost, may be used at every step. -/
theorem everyStep_iff {known invariant : State → Prop} {guard other : State → Label → Prop}
    (earlier : ∀ state label next, machine.step state label = some next → known next → known state)
    (exactly : ∀ state label next, invariant state → known next →
      machine.step state label = some next → (guard state label ↔ other state label))
    (kept : ∀ state label next, invariant state → known next → guard state label →
      machine.step state label = some next → invariant next)
    {state last : State} {labels : List Label} (ran : machine.run state labels = some last)
    (ends : known last) (initially : invariant state) :
    (machine.EveryStep guard state labels ↔ machine.EveryStep other state labels) ∧
      (machine.EveryStep guard state labels → invariant last) := by
  induction labels generalizing state with
  | nil =>
    cases ran
    exact ⟨.rfl, fun _ => initially⟩
  | cons label labels ih =>
    obtain ⟨next, step, rest⟩ := run_cons_some.mp ran
    have here := exactly state label next initially (run_earlier earlier rest ends) step
    have later : guard state label → (machine.EveryStep guard next labels ↔
        machine.EveryStep other next labels) ∧ (machine.EveryStep guard next labels → invariant last) :=
      fun met => ih rest (kept state label next initially (run_earlier earlier rest ends) met step)
    refine ⟨⟨fun guarded => ?_, fun guarded => ?_⟩, fun guarded => ?_⟩
    · obtain ⟨met, rest⟩ := guarded next step
      exact everyStep_cons step (here.mp met) ((later met).1.mp rest)
    · obtain ⟨met, rest⟩ := guarded next step
      exact everyStep_cons step (here.mpr met) ((later (here.mpr met)).1.mpr rest)
    · obtain ⟨met, rest⟩ := guarded next step
      exact (later met).2 rest

/-- A property that holds before a run and fails after it is lost at one of its steps. -/
theorem run_crossing (property : State → Prop) {state last : State} {labels : List Label}
    (ran : machine.run state labels = some last) (before : property state)
    (after : ¬ property last) :
    ∃ front label back reached next, labels = front ++ label :: back ∧
      machine.run state front = some reached ∧ property reached ∧
      machine.step reached label = some next ∧ ¬ property next ∧
      machine.run next back = some last := by
  induction labels generalizing state with
  | nil =>
    cases ran
    exact absurd before after
  | cons label labels ih =>
    obtain ⟨next, step, rest⟩ := run_cons_some.mp ran
    by_cases kept : property next
    · obtain ⟨front, crossing, back, reached, fallen, split, segment, held, taken, lost, tail⟩ :=
        ih rest kept
      refine ⟨label :: front, crossing, back, reached, fallen, by rw [split]; rfl, ?_, held,
        taken, lost, tail⟩
      exact run_cons_some.mpr ⟨next, step, segment⟩
    · exact ⟨[], label, labels, state, next, rfl, rfl, before, step, kept, rest⟩

/-! ## Observations -/

/-- What an observer sees of the steps that a run takes, in their order. -/
def observed {Sight : Type} (machine : Machine State Label) (see : State → Label → List Sight) :
    State → List Label → List Sight
  | _, [] => []
  | state, label :: labels =>
    match machine.step state label with
    | some next => see state label ++ observed machine see next labels
    | none => []

/-- Induction on runs: what every step that meets a guard preserves, with what is seen of it, holds
at the end of every run of such steps with all that was seen. -/
theorem run_observed_on {Sight : Type} {see : State → Label → List Sight}
    {guard : State → Label → Prop} {relation : State → List Sight → Prop}
    (preserved : ∀ state label next seen, relation state seen → guard state label →
      machine.step state label = some next → relation next (seen ++ see state label))
    {state last : State} {labels : List Label} {seen : List Sight}
    (initially : relation state seen) (guarded : machine.EveryStep guard state labels)
    (ran : machine.run state labels = some last) :
    relation last (seen ++ machine.observed see state labels) := by
  induction labels generalizing state seen with
  | nil =>
    cases ran
    rw [observed, List.append_nil]
    exact initially
  | cons label labels ih =>
    obtain ⟨next, step, rest⟩ := run_cons_some.mp ran
    obtain ⟨met, later⟩ := guarded next step
    have there := ih (preserved state label next seen initially met step) later rest
    rw [List.append_assoc] at there
    rw [observed, step]
    exact there

/-- Induction on runs: what every step preserves, with what is seen of it, holds at the end of
every run with all that was seen. -/
theorem run_observed {Sight : Type} {see : State → Label → List Sight}
    {relation : State → List Sight → Prop}
    (preserved : ∀ state label next seen, relation state seen →
      machine.step state label = some next → relation next (seen ++ see state label))
    {state last : State} {labels : List Label} {seen : List Sight}
    (initially : relation state seen) (ran : machine.run state labels = some last) :
    relation last (seen ++ machine.observed see state labels) :=
  run_observed_on (fun state label next seen held _ => preserved state label next seen held)
    initially (everyStep_of_labels fun _ _ _ => (trivial : (fun _ _ => True) state _)) ran

/-! ## Projections -/

/-- A machine whose steps a projection maps to runs of another machine has its runs mapped to
runs of that machine. -/
theorem run_project {Image Action : Type} {image : Machine Image Action} {project : State → Image}
    (simulated : ∀ state label next, machine.step state label = some next →
      ∃ actions, image.run (project state) actions = some (project next))
    {state last : State} {labels : List Label} (ran : machine.run state labels = some last) :
    ∃ actions, image.run (project state) actions = some (project last) := by
  induction labels generalizing state with
  | nil =>
    cases ran
    exact ⟨[], rfl⟩
  | cons label labels ih =>
    obtain ⟨next, step, rest⟩ := run_cons_some.mp ran
    obtain ⟨front, segment⟩ := simulated state label next step
    obtain ⟨back, tail⟩ := ih rest
    exact ⟨front ++ back, run_append_some.mpr ⟨_, segment, tail⟩⟩

end Machine
end Transition
