import AnimateService.ServerSteps

/-!
# Clients that go away

A client closes its ends of the FIFOs whenever it likes, also while its responses are on their
way. `write_all` and `send_ordered_response` turn an error of the write into the flag of that
client. The error is reported only where `SIGPIPE` does not end the process first: `main` leaves
the disposition and the mask of that signal as the server was started with.
-/
namespace AnimateService

open Transition

/-- A write of the step finds no reader. -/
def ServerLabel.findsNoReader : ServerLabel → Bool
  | .worker label => .noReader ∈ label.results
  | _ => false

/-- A worker's send marks its client and leaves the rest of the server alone. -/
structure OnlyMarks (state next : ServerState) (worker : ThreadId) (client : ClientId) : Prop where
  /-- The client is marked. -/
  marked : next.workers.isDisconnected client = true
  /-- No session changes. -/
  sessions : next.workers.rpc.sessions = state.workers.rpc.sessions
  /-- What the handlers share does not change. -/
  world : next.workers.rpc.world = state.workers.rpc.world
  /-- No queue changes. -/
  pool : next.workers.pool = state.workers.pool
  /-- The other workers go on as before. -/
  threads : ∀ other, other ≠ worker →
    next.workers.rpc.threads other = state.workers.rpc.threads other ∧
      next.workers.inHand other = state.workers.inHand other
  /-- The streams of the other clients do not change. -/
  others : ∀ other, other ≠ client → next.workers.clients other = state.workers.clients other ∧
    next.connections other = state.connections other
  /-- Of the client itself, what it sent and its descriptors stay. -/
  fifos : next.fifoC2s client = state.fifoC2s client ∧
    next.workers.fifoS2c client = state.workers.fifoS2c client
  /-- The main loop stays where it is, with its clients and descriptors. -/
  main : next.main = state.main ∧ next.clients = state.clients ∧
    next.descriptors = state.descriptors

/-- The step of a machine leaves the process alive, and if a write of it finds no reader, it only
marks the client whose response is written. -/
def Harmless (machine : Machine ServerState ServerLabel) (state : ServerState)
    (label : ServerLabel) : Prop :=
  ∀ next, machine.step state label = some next → next.workers.alive = true ∧
    ∀ worker copied results, label = .worker (.respond worker copied results) →
      .noReader ∈ results → ∃ request, state.workers.inHand worker = some request ∧
        OnlyMarks state next worker request.client

variable {auth : AuthDb} {deadly : Bool} {workerCount : Nat}

/-- The process ends in a step of which a write kills it, and in no other. -/
theorem WorkersStep.alive {before after : WorkersState} {label : WorkersLabel}
    (step : WorkersStep auth deadly workerCount before label after) (living : before.alive = true) :
    after.alive = true ↔ ∀ result ∈ label.results, result.kills deadly = false := by
  cases step with
  | respond held working answer present called =>
    obtain ⟨stream, rfl, -, -, kills⟩ := send_decided called
    have ended : (!stream.killed) = true ↔ ¬ stream.killed = true := by simp
    refine ended.trans ((not_congr kills).trans ?_)
    simp [WorkersLabel.results]
  | _ => exact iff_of_true living (by simp [WorkersLabel.results])

/-- An answer kills exactly if it is the lack of a reader where that is deadly. -/
theorem kills_iff {result : WriteResult} :
    result.kills deadly = true ↔ result = .noReader ∧ deadly = true := by
  cases result <;> simp [WriteResult.kills]

/-- The process outlives a step unless a write of it finds no reader where that is deadly. -/
theorem ServerStep.alive {state next : ServerState} {label : ServerLabel}
    (step : ServerStep auth deadly workerCount state label next)
    (living : state.workers.alive = true) :
    next.workers.alive = true ↔ (deadly = true → ¬ label.findsNoReader = true) := by
  -- a step of the main loop writes nothing
  have silent : ∀ {event : MainEvent} {inner : WorkersLabel} {after : WorkersState},
      inner.results = [] → WorkersStep auth deadly workerCount state.workers inner after →
      (after.alive = true ↔
        (deadly = true → ¬ (ServerLabel.main event).findsNoReader = true)) := by
    intro event inner after none step
    exact iff_of_true ((step.alive living).mpr (by simp [none])) fun _ => Bool.false_ne_true
  cases step with
  | worker _ mine allowed step =>
    refine (step.alive living).trans ⟨fun spared deadly found => ?_, fun spared result member => ?_⟩
    · have found : WriteResult.noReader ∈ _ := of_decide_eq_true found
      exact absurd (spared _ found) (by simp [WriteResult.kills, deadly])
    · by_contra killed
      obtain ⟨rfl, deadly⟩ := kills_iff.mp (Bool.not_eq_false _ ▸ killed)
      exact spared deadly (decide_eq_true member)
  | leave => exact iff_of_true living fun _ => Bool.false_ne_true
  | move before after => exact iff_of_true living fun _ => Bool.false_ne_true
  | beginCleanup before => exact iff_of_true living fun _ => Bool.false_ne_true
  | accept before apart step => exact silent rfl step
  | received before after => exact iff_of_true living fun _ => Bool.false_ne_true
  | submit before after step => exact silent rfl step
  | beginClose before step => exact silent rfl step
  | endSession place step => exact silent rfl step
  | markClosed place step => exact silent rfl step
  | remove place step => exact silent rfl step
  | closeRead place =>
    refine iff_of_true ?_ fun _ => Bool.false_ne_true
    simpa [ServerState.updateConnection] using living
  | closeWrite place step => exact silent rfl step

/-- Where the lack of a reader is not deadly, a write that finds none only marks the client. -/
theorem ServerStep.onlyMarks {state next : ServerState} {worker : ThreadId} {copied : Bool}
    {results : List WriteResult}
    (step : ServerStep auth false workerCount state (.worker (.respond worker copied results)) next)
    (found : .noReader ∈ results) :
    ∃ request, state.workers.inHand worker = some request ∧
      OnlyMarks state next worker request.client := by
  cases step with
  | worker alive mine allowed step =>
    cases step with
    | silent held working answer => cases found
    | respond held working answer present called =>
      rename_i request served response text record sent
      obtain ⟨stream, rfl, kept, fails, -⟩ := send_decided called
      refine ⟨request, held, ?_⟩
      constructor
      case marked =>
        refine (isDisconnected_setClient_self _).trans (fails.mpr (.inr ?_))
        exact ⟨.noReader, found, rfl⟩
      case sessions => rfl
      case world => rfl
      case pool => rfl
      case threads =>
        intro other apart
        exact ⟨Function.update_of_ne apart .., Function.update_of_ne apart ..⟩
      case others =>
        intro other apart
        refine ⟨clients_setClient_ne apart, if_neg ?_⟩
        rintro ⟨same, -⟩
        simp only [WorkersState.recipient, held, Option.map_some, Option.some.injEq] at same
        exact apart same.symm
      case fifos =>
        constructor
        · simp only [ServerState.fifoC2s, ServerState.heard]
          split
          · cases state.connections request.client <;> rfl
          · rfl
        · exact (fifoS2c_setClient_self _).trans (kept.trans (fifoS2c_of_some present).symm)
      case main => exact ⟨rfl, rfl, rfl⟩

/-- Departures are harmless exactly in the runs in which no write finds its FIFO without a reader,
unless the server was started with `SIGPIPE` ignored or blocked. -/
theorem departures_harmless_iff (auth : AuthDb) (inherited : Signals) (workerCount : Nat)
    {labels : List ServerLabel} {last : ServerState}
    (ran : (serverMachine auth (mainSignals inherited).pipeDeadly workerCount).run {} labels =
      some last) :
    (serverMachine auth (mainSignals inherited).pipeDeadly workerCount).EveryStep
        (Harmless (serverMachine auth (mainSignals inherited).pipeDeadly workerCount)) {} labels ↔
      (serverMachine auth (mainSignals inherited).pipeDeadly workerCount).EveryStep
        (fun _ label => inherited.pipeDeadly = true → ¬ label.findsNoReader = true) {} labels := by
  rw [mainSignals_pipeDeadly] at *
  generalize inherited.pipeDeadly = deadly at *
  have exactly : ∀ state label next, state.workers.alive = true → True →
      (serverMachine auth deadly workerCount).step state label = some next →
      (Harmless (serverMachine auth deadly workerCount) state label ↔
        (deadly = true → ¬ label.findsNoReader = true)) := by
    intro state label next living _ stepped
    have step := serverMachine_step stepped
    refine ⟨fun harmless => (step.alive living).mp (harmless next stepped).1, fun spared => ?_⟩
    intro other taken
    obtain rfl := Option.some.inj (stepped.symm.trans taken)
    refine ⟨(step.alive living).mpr spared, ?_⟩
    rintro worker copied results rfl found
    cases deadly with
    | true => exact absurd (decide_eq_true found) (spared rfl)
    | false => exact step.onlyMarks found
  have kept : ∀ state label next, state.workers.alive = true → True →
      Harmless (serverMachine auth deadly workerCount) state label →
      (serverMachine auth deadly workerCount).step state label = some next →
      next.workers.alive = true :=
    fun state label next _ _ harmless stepped => (harmless next stepped).1
  exact (Machine.everyStep_iff (fun _ _ _ _ _ => trivial) exactly kept ran trivial rfl).1

/-- A client sends `Disconnect` and closes its ends without waiting for the reply. -/
def hastyDisconnect : List ServerLabel :=
  [.main (.poll (some (1, 3, 4))), .main (.beginCleanup 1), .main (.visit true), .main .endCleanup,
    .main (.select [1]), .main .serve, .main (.read (.data (bytes "Disconnect\n"))),
    .main (.submit true), .leave 1, .worker (.dequeue 0), .worker (.advance 0 {}),
    .worker (.advance 0 {}), .worker (.respond 0 true [.noReader])]

/-- With `SIGPIPE` ignored from the start, that is harmless. -/
theorem departures_harmless_ignored :
    (serverMachine [] false 1).EveryStep (Harmless (serverMachine [] false 1)) {}
      hastyDisconnect := by
  obtain ⟨last, ran, -⟩ := Option.map_eq_some_iff.mp
    (by decide +kernel : ((serverMachine [] false 1).run {} hastyDisconnect).map
      (fun last => last.workers.alive) = some true)
  refine (departures_harmless_iff [] ⟨fun _ => .ignored, fun _ => false⟩ 1 ran).mpr ?_
  exact Machine.everyStep_of_labels fun _ _ _ deadly => by cases deadly

/-- With the signals that a process usually starts with, it ends the server. -/
theorem hastyDisconnect_harms :
    ¬ (serverMachine [] (mainSignals ⟨fun _ => .standard, fun _ => false⟩).pipeDeadly 1).EveryStep
      (Harmless (serverMachine [] (mainSignals ⟨fun _ => .standard, fun _ => false⟩).pipeDeadly 1))
      {} hastyDisconnect := by
  rw [mainSignals_pipeDeadly]
  intro harmless
  obtain ⟨last, ran, ended⟩ := Option.map_eq_some_iff.mp
    (by decide +kernel : ((serverMachine [] true 1).run {} hastyDisconnect).map
      (fun last => last.workers.alive) = some false)
  have kept : ∀ state label next, state.workers.alive = true →
      Harmless (serverMachine [] true 1) state label →
      (serverMachine [] true 1).step state label = some next → next.workers.alive = true :=
    fun _ _ next _ harmless stepped => (harmless next stepped).1
  exact absurd ((Machine.always_of_guarded kept rfl harmless).last ran) (by simp [ended])

end AnimateService
