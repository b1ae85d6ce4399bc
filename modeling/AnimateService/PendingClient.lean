import Mathlib.Data.List.Perm.Basic
import AnimateService.Library.Machine

/-!
# The pending connection request

The slot `pending_client_pid` of `connection.c` between `sigusr1_handler`, which writes the PID of a
client to it at any time, and `server_take_pending_client`, which reads it and then clears it. There
is room for one PID: a request is lost if the handler runs while another one is in the slot, or
between the read and the reset.
-/
namespace AnimateService

open Transition

/-- A PID; 0 is none. -/
abbrev Pid := Nat

/-- The slot and the main loop's calls. -/
structure PendingClient where
  /-- `pending_client_pid`. -/
  slot : Pid := 0
  /-- `client_pid` of a call of `server_take_pending_client` that has read the slot and not cleared
  it. -/
  clientPid : Option Pid := none
  /-- The PIDs that the handler recorded: a record of the run. -/
  recorded : List Pid := []
  /-- The PIDs that the calls returned, other than 0: a record of the run. -/
  returned : List Pid := []
  deriving DecidableEq, Repr

/-- What happens next. -/
inductive PendingLabel where
  /-- `sigusr1_handler`, with the PID of the client that sent the signal. -/
  | handler (pid : Pid)
  /-- `server_take_pending_client` reads the slot. -/
  | read
  /-- It clears the slot and returns. -/
  | clear
  deriving DecidableEq, Repr

/-- A PID, if it is one. -/
def Pid.toList (pid : Pid) : List Pid := if pid = 0 then [] else [pid]

/-- The slot as a machine. -/
def pendingMachine : Machine PendingClient PendingLabel where
  step state
    | .handler pid =>
      if pid = 0 then none
      else some { state with slot := pid, recorded := state.recorded ++ [pid] }
    | .read =>
      match state.clientPid with
      | none => some { state with clientPid := some state.slot }
      | some _ => none
    | .clear =>
      state.clientPid.map fun pid =>
        { state with slot := 0, clientPid := none, returned := state.returned ++ pid.toList }

/-- The PIDs that are yet to be returned: that of the call that has read the slot, which clears it,
or else that in the slot. -/
def PendingClient.outstanding (state : PendingClient) : List Pid :=
  (state.clientPid.getD state.slot).toList

/-- Every PID that was recorded was returned once or is yet to be, and no other. -/
def PendingClient.NothingLost (state : PendingClient) : Prop :=
  state.recorded.Perm (state.returned ++ state.outstanding)

/-- The handler runs when the slot is empty, and not between a read and its reset. -/
def PendingClient.Alone (state : PendingClient) : PendingLabel → Prop
  | .handler _ => state.slot = 0 ∧ state.clientPid = none
  | _ => True

instance (state : PendingClient) : Decidable state.NothingLost :=
  inferInstanceAs (Decidable (List.Perm ..))

/-- If the main loop goes on without a signal, it returns what is yet to be returned. -/
theorem pending_returned (state : PendingClient) :
    ∃ labels last, (∀ label ∈ labels, label = .read ∨ label = .clear) ∧
      pendingMachine.run state labels = some last ∧ last.slot = 0 ∧ last.clientPid = none ∧
      last.recorded = state.recorded ∧ last.returned = state.returned ++ state.outstanding := by
  cases taking : state.clientPid with
  | none =>
    refine ⟨[.read, .clear], ⟨0, none, state.recorded, state.returned ++ state.outstanding⟩,
      by simp, ?_, rfl, rfl, rfl, rfl⟩
    simp [pendingMachine, Machine.run, taking, PendingClient.outstanding]
  | some pid =>
    refine ⟨[.clear], ⟨0, none, state.recorded, state.returned ++ state.outstanding⟩,
      by simp, ?_, rfl, rfl, rfl, rfl⟩
    simp [pendingMachine, Machine.run, taking, PendingClient.outstanding]

/-- A step keeps every PID exactly if the handler is alone. -/
theorem nothingLost_step {state next : PendingClient} {label : PendingLabel}
    (kept : state.NothingLost) (stepped : pendingMachine.step state label = some next) :
    next.NothingLost ↔ state.Alone label := by
  cases label with
  | handler pid =>
    obtain ⟨real, made⟩ := Option.ite_none_left_eq_some.mp stepped
    cases made
    constructor
    · intro later
      have before := kept.length_eq
      have after := later.length_eq
      cases taking : state.clientPid with
      | some taken =>
        simp only [PendingClient.outstanding, taking, Option.getD_some, List.length_append,
          List.length_singleton] at before after
        omega
      | none =>
        refine ⟨?_, taking⟩
        by_contra full
        simp only [PendingClient.outstanding, taking, Option.getD_none, Pid.toList, real, full,
          if_false, List.length_append, List.length_singleton] at before after
        omega
    · rintro ⟨empty, idle⟩
      have none : state.outstanding = [] := by
        simp [PendingClient.outstanding, idle, empty, Pid.toList]
      have one : PendingClient.outstanding
          { state with slot := pid, recorded := state.recorded ++ [pid] } = [pid] := by
        simp [PendingClient.outstanding, idle, Pid.toList, real]
      rw [PendingClient.NothingLost, none, List.append_nil] at kept
      rw [PendingClient.NothingLost, one]
      exact kept.append_right [pid]
  | read =>
    change (match state.clientPid with | none => _ | some _ => none) = _ at stepped
    split at stepped
    · rename_i idle
      cases stepped
      refine ⟨fun _ => trivial, fun _ => ?_⟩
      rw [PendingClient.NothingLost, PendingClient.outstanding, idle] at kept
      exact kept
    · cases stepped
  | clear =>
    obtain ⟨pid, taking, made⟩ := Option.map_eq_some_iff.mp stepped
    cases made
    refine ⟨fun _ => trivial, fun _ => ?_⟩
    rw [PendingClient.NothingLost, PendingClient.outstanding, taking] at kept
    simpa [PendingClient.NothingLost, PendingClient.outstanding, Pid.toList] using kept

/-- A PID that is in the slot, that was read or that was returned was recorded. -/
def PendingClient.Recorded (state : PendingClient) : Prop :=
  ∀ pid ∈ state.slot.toList ++ (state.clientPid.getD 0).toList ++ state.returned,
    pid ∈ state.recorded

/-- A step returns only what was recorded. -/
theorem recorded_step {state next : PendingClient} {label : PendingLabel}
    (recorded : state.Recorded) (stepped : pendingMachine.step state label = some next) :
    next.Recorded := by
  unfold PendingClient.Recorded at recorded ⊢
  simp only [List.mem_append] at recorded
  cases label with
  | handler pid =>
    obtain ⟨real, made⟩ := Option.ite_none_left_eq_some.mp stepped
    cases made
    intro other inside
    simp only [Pid.toList, real, if_false, List.mem_append, List.mem_singleton] at inside ⊢
    rcases inside with (rfl | read) | returned
    · exact .inr rfl
    · exact .inl (recorded other (.inl (.inr read)))
    · exact .inl (recorded other (.inr returned))
  | read =>
    change (match state.clientPid with | none => _ | some _ => none) = _ at stepped
    split at stepped
    · cases stepped
      intro other inside
      simp only [Option.getD_some, List.mem_append] at inside
      rcases inside with (slot | slot) | returned
      · exact recorded other (.inl (.inl slot))
      · exact recorded other (.inl (.inl slot))
      · exact recorded other (.inr returned)
    · cases stepped
  | clear =>
    obtain ⟨pid, taking, made⟩ := Option.map_eq_some_iff.mp stepped
    cases made
    intro other inside
    rw [taking, Option.getD_some] at recorded
    simp only [Pid.toList, if_true, Option.getD_none, List.mem_append, List.not_mem_nil,
      false_or] at inside
    rcases inside with returned | read
    · exact recorded other (.inr returned)
    · exact recorded other (.inl (.inr read))

/-- In every run no PID is returned that was not recorded; and every PID that is recorded is
returned once, or yet to be, exactly if the handler always runs alone. What is yet to be returned is
returned by the main loop's next steps. -/
theorem requests_kept_iff (labels : List PendingLabel) :
    pendingMachine.Always (fun state => ∀ pid ∈ state.returned, pid ∈ state.recorded) {} labels ∧
      (pendingMachine.Always PendingClient.NothingLost {} labels ↔
        pendingMachine.EveryStep PendingClient.Alone {} labels) ∧
      ∀ state, pendingMachine.run {} labels = some state → ∃ more last,
        (∀ label ∈ more, label = .read ∨ label = .clear) ∧
          pendingMachine.run state more = some last ∧ last.slot = 0 ∧ last.clientPid = none ∧
          last.recorded = state.recorded ∧ last.returned = state.returned ++ state.outstanding := by
  refine ⟨?_, ?_, fun state _ => pending_returned state⟩
  · have kept : ∀ state label next, PendingClient.Recorded state → True →
        pendingMachine.step state label = some next → next.Recorded :=
      fun _ _ _ recorded _ => recorded_step recorded
    have start : PendingClient.Recorded {} := by
      intro pid inside
      cases inside
    refine Machine.Always.imp (fun state recorded pid returned => ?_)
      (Machine.always_of_guarded kept start
        (Machine.everyStep_of_labels fun _ _ _ => trivial))
    exact recorded pid (List.mem_append_right _ returned)
  · have background : ∀ state label next, True → pendingMachine.step state label = some next →
        True := fun _ _ _ _ _ => trivial
    have exactly : ∀ state label next, True → PendingClient.NothingLost state →
        pendingMachine.step state label = some next → (next.NothingLost ↔ state.Alone label) :=
      fun _ _ _ _ kept stepped => nothingLost_step kept stepped
    exact Machine.always_iff_everyStep background exactly trivial (List.Perm.refl [])

/-- Two clients send their signals before the main loop takes the first, or the second one while it
does; when it is done only one PID has been returned. -/
theorem requests_kept_twoClients :
    pendingMachine.run {} [.handler 100, .handler 200, .read, .clear, .read, .clear] =
        some ⟨0, none, [100, 200], [200]⟩ ∧
      pendingMachine.run {} [.handler 100, .read, .handler 200, .clear, .read, .clear] =
        some ⟨0, none, [100, 200], [100]⟩ ∧
      ¬ ∀ labels, pendingMachine.Always PendingClient.NothingLost {} labels := by
  refine ⟨by decide, by decide, fun always => ?_⟩
  have kept := (always [.handler 100, .handler 200]).last
    (show pendingMachine.run {} [.handler 100, .handler 200] = some ⟨200, none, [100, 200], []⟩
      from by decide)
  exact absurd kept (by decide)

end AnimateService
