import AnimateService.HandshakePairs
import AnimateService.Library.Potential

/-!
# Waiting in the handshake

Both sides block in `open` on the way. While the server is accepting a client that it has signalled,
the two never wait for each other at once, so that the handshake completes unless something breaks
it off. But the server's `open` has no time limit: if the client gives up after the signal was sent,
the main loop waits until the signal of another client interrupts it.
-/
namespace AnimateService

open Transition NamedPipes

variable {fifoDir : Option Bytes} {state next last : Handshake} {pid : Pid}

/-! ## Tickets -/

/-- What a process waits for, and what it has open for the server. -/
def ProcessPlace.Waits (pipes : Inode → Pipe Party) (pid : Pid) : ProcessPlace → Prop
  | .enterC2s c2s ticket => (pipes c2s).Waits .writing ticket
  | .enterS2c fifos ticket => (pipes fifos.s2c).Waits .reading ticket ∧
      .client pid ∈ (pipes fifos.s2c).holders .reading
  | .connected fifos => .client pid ∈ (pipes fifos.s2c).holders .reading
  | _ => True

/-- What the main loop waits for. -/
def ServerPlace.Waits (pipes : Inode → Pipe Party) : ServerPlace → Prop
  | .accept _ (.enterS2c fifos ticket) => (pipes fifos.s2c).Waits .writing ticket
  | _ => True

/-- Every ticket is one that is waited with. -/
structure Handshake.Waiting (state : Handshake) : Prop where
  /-- Of the processes. -/
  clients : ∀ pid process, state.processes pid = some process →
    process.place.Waits state.pipes pid
  /-- Of the main loop. -/
  server : state.server.Waits state.pipes

/-- The FIFOs change so that nobody who waits is disturbed, and nobody but one party closes any. -/
structure Undisturbed (pipes after : Inode → Pipe Party) (closer : Option Party) : Prop where
  /-- Tickets stay. -/
  waits : ∀ inode side ticket, (pipes inode).Waits side ticket → (after inode).Waits side ticket
  /-- Ends stay open. -/
  holders : ∀ inode side party, some party ≠ closer → party ∈ (pipes inode).holders side →
    party ∈ (after inode).holders side

/-- An open disturbs nobody. -/
theorem undisturbed_openFifo (inode : Inode) (side : End) (party : Party) :
    Undisturbed state.pipes (state.openFifo inode side party).pipes none := by
  constructor
  · intro other end_ ticket waits
    change (Function.update state.pipes inode _ other).Waits end_ ticket
    by_cases here : other = inode
    · subst here
      rw [Function.update_self]
      exact waits.openEnd side party
    · rwa [Function.update_of_ne here]
  · intro other end_ holder _ held
    change holder ∈ (Function.update state.pipes inode _ other).holders end_
    by_cases here : other = inode
    · subst here
      rw [Function.update_self]
      exact mem_openEnd held
    · rwa [Function.update_of_ne here]

/-- A close takes an end from who closes it. -/
theorem undisturbed_closeFifo (inode : Inode) (side : End) (party : Party) :
    Undisturbed state.pipes (state.closeFifo inode side party).pipes (some party) := by
  constructor
  · intro other end_ ticket waits
    change (Function.update state.pipes inode _ other).Waits end_ ticket
    by_cases here : other = inode
    · subst here
      rw [Function.update_self]
      exact waits.closeEnd side party
    · rwa [Function.update_of_ne here]
  · intro other end_ holder apart held
    change holder ∈ (Function.update state.pipes inode _ other).holders end_
    by_cases here : other = inode
    · subst here
      rw [Function.update_self]
      exact mem_closeEnd held fun same => apart (congrArg some same)
    · rwa [Function.update_of_ne here]

/-- Changes add up. -/
theorem Undisturbed.trans {first second third : Inode → Pipe Party} {closer : Option Party}
    (before : Undisturbed first second closer) (after : Undisturbed second third closer) :
    Undisturbed first third closer where
  waits := fun inode side ticket waits =>
    after.waits inode side ticket (before.waits inode side ticket waits)
  holders := fun inode side party apart held =>
    after.holders inode side party apart (before.holders inode side party apart held)

/-- The end of a process closes only what it had open. -/
theorem undisturbed_terminate (pid : Pid) (place : ProcessPlace) :
    Undisturbed state.pipes (state.terminate pid place).pipes (some (.client pid)) := by
  have same : Undisturbed state.pipes state.pipes (some (.client pid)) :=
    ⟨fun _ _ _ => id, fun _ _ _ _ => id⟩
  cases place with
  | enterC2s c2s ticket => exact undisturbed_closeFifo _ _ _
  | openS2c c2s => exact undisturbed_closeFifo _ _ _
  | enterS2c fifos ticket => exact (undisturbed_closeFifo _ _ _).trans (undisturbed_closeFifo _ _ _)
  | connected fifos => exact (undisturbed_closeFifo _ _ _).trans (undisturbed_closeFifo _ _ _)
  | _ => exact same

/-- A process waits on. -/
theorem ProcessPlace.Waits.onward {pipes after : Inode → Pipe Party} {place : ProcessPlace}
    {closer : Option Party} (waits : place.Waits pipes pid) (onward : Undisturbed pipes after closer)
    (apart : some (.client pid) ≠ closer) : place.Waits after pid := by
  cases place with
  | enterC2s c2s ticket => exact onward.waits _ _ _ waits
  | enterS2c fifos ticket =>
    exact ⟨onward.waits _ _ _ waits.1, onward.holders _ _ _ apart waits.2⟩
  | connected fifos => exact onward.holders _ _ _ apart waits
  | _ => trivial

/-- The main loop waits on. -/
theorem ServerPlace.Waits.onward {pipes after : Inode → Pipe Party} {place : ServerPlace}
    {closer : Option Party} (waits : place.Waits pipes) (onward : Undisturbed pipes after closer) :
    place.Waits after := by
  cases place with
  | accept pid stage =>
    cases stage with
    | enterS2c fifos ticket => exact onward.waits _ _ _ waits
    | _ => trivial
  | _ => trivial

/-- The server opens or closes FIFOs, or goes on. -/
theorem Handshake.Waiting.server_moves (waiting : state.Waiting)
    (processes : next.processes = state.processes) {closer : Option Party}
    (onward : Undisturbed state.pipes next.pipes closer)
    (apart : ∀ pid, closer ≠ some (.client pid)) (server : next.server.Waits next.pipes) :
    next.Waiting where
  clients := by
    intro pid process there
    rw [processes] at there
    exact (waiting.clients pid process there).onward onward (apart pid).symm
  server := server

/-- A process opens FIFOs, or goes on. -/
theorem Handshake.Waiting.client_moves (waiting : state.Waiting) {process : ClientProcess}
    (processes : next.processes = Function.update state.processes pid (some process))
    (onward : Undisturbed state.pipes next.pipes none) (server : next.server = state.server)
    (waits : process.place.Waits next.pipes pid) : next.Waiting where
  clients := by
    intro other after there
    rw [processes] at there
    by_cases here : other = pid
    · subst here
      rw [Function.update_self] at there
      cases there
      exact waits
    · rw [Function.update_of_ne here] at there
      exact (waiting.clients other after there).onward onward (Option.some_ne_none _)
  server := server ▸ waiting.server.onward onward

/-- A process ends. -/
theorem Handshake.Waiting.terminate (waiting : state.Waiting) (pid : Pid) (place : ProcessPlace) :
    (state.terminate pid place).Waiting where
  clients := by
    intro other after there
    rw [terminate_processes] at there
    by_cases here : other = pid
    · rw [here, Function.update_self] at there
      cases there
    · rw [Function.update_of_ne here] at there
      refine (waiting.clients other after there).onward (undisturbed_terminate pid place) ?_
      rintro ⟨⟩
      exact here rfl
  server := by
    rw [terminate_server]
    exact waiting.server.onward (undisturbed_terminate pid place)

/-- After every step, an `open` that waits was begun before the other end was opened again. -/
theorem HandshakeStep.waiting (waiting : state.Waiting) {label : HandshakeLabel}
    (step : HandshakeStep fifoDir state label next) : next.Waiting := by
  have same : Undisturbed state.pipes state.pipes none := ⟨fun _ _ _ => id, fun _ _ _ _ => id⟩
  have server := waiting.server
  cases step with
  | start real new => exact waiting.client_moves rfl same rfl trivial
  | install there place => exact waiting.client_moves rfl same rfl trivial
  | request there place => exact waiting.client_moves rfl same rfl trivial
  | look there place patient =>
    refine waiting.client_moves rfl same rfl ?_
    dsimp only
    split <;> trivial
  | gaveUp there why | exited there | killed there sent => exact waiting.terminate _ _
  | openC2s there place found =>
    refine waiting.client_moves rfl (undisturbed_openFifo _ _ _) rfl ?_
    exact (undisturbed_openFifo _ _ _).waits _ _ _ (waits_ticket _ _)
  | enterC2s there place returned => exact waiting.client_moves rfl same rfl trivial
  | openS2c there place found =>
    refine waiting.client_moves rfl (undisturbed_openFifo _ _ _) rfl ⟨?_, ?_⟩
    · exact (undisturbed_openFifo _ _ _).waits _ _ _ (waits_ticket _ _)
    · simp [Handshake.openFifo, Handshake.setProcess, mem_openEnd_self]
  | enterS2c there place returned =>
    have waits := waiting.clients _ _ there
    rw [place] at waits
    exact waiting.client_moves rfl same rfl waits.2
  | notice there sent place =>
    have waits := waiting.clients _ _ there
    exact waiting.client_moves rfl same rfl waits
  | record sent handled => exact waiting.server_moves rfl same (by simp) server
  | interrupt sent handled place waits =>
    exact waiting.server_moves rfl (undisturbed_closeFifo _ _ _) (by simp) trivial
  | unlinkOld place =>
    rename_i ok pid kind
    rw [unlink_other]
    refine waiting.server_moves rfl same (by simp) ?_
    cases kind <;> trivial
  | unmade place =>
    rename_i ok pid kind
    refine waiting.server_moves rfl same (by simp) ?_
    cases kind <;> trivial
  | make place free =>
    rename_i pid kind
    refine waiting.server_moves rfl same (by simp) ?_
    cases kind <;> trivial
  | unmake place =>
    rw [unlink_other]
    exact waiting.server_moves rfl same (by simp) trivial
  | unlink place =>
    rename_i ok pid kind
    rw [unlink_other]
    refine waiting.server_moves rfl same (by simp) ?_
    cases kind <;> trivial
  | signal place there =>
    rename_i pid process
    have waits := waiting.clients pid process there
    have told : (state.setProcess pid (some { process with usr2 := true })).Waiting :=
      waiting.client_moves rfl same rfl waits
    exact told.server_moves rfl same (by simp) trivial
  | openReading place found =>
    exact waiting.server_moves rfl (undisturbed_openFifo _ _ _) (by simp) trivial
  | openWriting place found =>
    refine waiting.server_moves rfl (undisturbed_openFifo _ _ _) (by simp) ?_
    exact (undisturbed_openFifo _ _ _).waits _ _ _ (waits_ticket _ _)
  | closeC2s place =>
    exact waiting.server_moves rfl (undisturbed_closeFifo _ _ _) (by simp) trivial
  | closeS2c place =>
    exact waiting.server_moves rfl (undisturbed_closeFifo _ _ _) (by simp) trivial
  | _ => exact waiting.server_moves rfl same (by simp) trivial

/-- At the start nobody waits, and so in every run the tickets are waited with. -/
theorem handshakeMachine_waiting {files : Bytes → Option Inode} {made : Nat}
    {labels : List HandshakeLabel}
    (ran : (handshakeMachine fifoDir).run (.begin files made) labels = some state) :
    state.Waiting := by
  have start : (Handshake.begin files made).Waiting := ⟨by rintro pid process ⟨⟩, trivial⟩
  exact Machine.run_invariant (fun _ _ _ waiting stepped =>
    (handshakeMachine_step stepped).waiting waiting) start ran

/-! ## A client that does not come -/

/-- The main loop waits in `open(s2c_path, O_WRONLY)` for a client whose process is gone. -/
structure Handshake.Stuck (state : Handshake) (pid : Pid) (fifos : FifoPair)
    (ticket : Option Nat) : Prop where
  /-- Where it is. -/
  place : state.server = .accept pid (.enterS2c fifos ticket)
  /-- The `open` does not return. -/
  waits : (state.pipes fifos.s2c).lets .writing ticket = false
  /-- The client is gone. -/
  gone : state.processes pid = none

/-- Closing ends lets no open return. -/
theorem terminate_opens (pid : Pid) (place : ProcessPlace) (inode : Inode) :
    ((state.terminate pid place).pipes inode).opens = (state.pipes inode).opens := by
  have closed : ∀ (state : Handshake) (closed : Inode) (side : End) (party : Party),
      ((state.closeFifo closed side party).pipes inode).opens = (state.pipes inode).opens := by
    intro state closed side party
    change (Function.update state.pipes closed _ inode).opens = _
    by_cases here : inode = closed
    · subst here
      rw [Function.update_self]
      rfl
    · rw [Function.update_of_ne here]
  cases place with
  | enterC2s c2s ticket => exact closed _ _ _ _
  | openS2c c2s => exact closed _ _ _ _
  | enterS2c fifos ticket => exact (closed _ _ _ _).trans (closed _ _ _ _)
  | connected fifos => exact (closed _ _ _ _).trans (closed _ _ _ _)
  | _ => rfl

/-- The main loop stays where it is as long as no process comes that opens the FIFO. -/
theorem Handshake.Stuck.onward {fifos : FifoPair} {ticket : Option Nat}
    (stuck : state.Stuck pid fifos ticket) (server : next.server = state.server)
    (opens : (next.pipes fifos.s2c).opens = (state.pipes fifos.s2c).opens)
    (gone : next.processes pid = none) : next.Stuck pid fifos ticket where
  place := server.trans stuck.place
  waits := by
    rw [Pipe.lets, opens]
    exact stuck.waits
  gone := gone

/-- Only `SIGUSR1` and a new process with this PID change that. -/
theorem HandshakeStep.stuck (sorted : state.Sorted fifoDir) {fifos : FifoPair}
    {ticket : Option Nat} (stuck : state.Stuck pid fifos ticket) {label : HandshakeLabel}
    (step : HandshakeStep fifoDir state label next) (other : label ≠ .start pid)
    (quiet : label ≠ .deliverUsr1) :
    next.Stuck pid fifos ticket ∧ (∀ ok, label ≠ .server ok) ∧ ∀ client, label ≠ .close client := by
  have fits := sorted.fits
  rw [stuck.place] at fits
  obtain ⟨-, has⟩ := fits
  -- a process that goes on has another PID
  have stays : ∀ {mover : Pid} {process after : ClientProcess},
      state.processes mover = some process →
      Function.update state.processes mover (some after) pid = none := by
    intro mover process after there
    rw [Function.update_of_ne]
    · exact stuck.gone
    · rintro rfl
      rw [stuck.gone] at there
      cases there
  have ended : ∀ (mover : Pid) (place : ProcessPlace),
      (state.terminate mover place).Stuck pid fifos ticket := by
    intro mover place
    refine stuck.onward (terminate_server place) (terminate_opens mover place _) ?_
    rw [terminate_processes, Function.update_apply]
    split
    · rfl
    · exact stuck.gone
  -- it opens its own FIFOs
  have opened : ∀ {mover : Pid} {process : ClientProcess} {kind : FifoKind} {inode : Inode}
      (side : End), state.processes mover = some process →
      state.files (fifoPath fifoDir kind mover) = some inode →
      ((state.openFifo inode side (.client mover)).pipes fifos.s2c).opens =
        (state.pipes fifos.s2c).opens := by
    intro mover process kind inode side there found
    change (Function.update state.pipes inode _ fifos.s2c).opens = _
    rw [Function.update_of_ne]
    rintro rfl
    obtain ⟨-, rfl⟩ := fifoPath_injective (sorted.placed _ _ _ _ found (has .s2c).2)
    rw [stuck.gone] at there
    cases there
  cases step with
  | start real new =>
    rename_i started
    refine ⟨stuck.onward rfl rfl ?_, by simp, by simp⟩
    change Function.update state.processes started _ pid = none
    rw [Function.update_of_ne]
    · exact stuck.gone
    · rintro rfl
      exact other rfl
  | install there place => exact ⟨stuck.onward rfl rfl (stays there), by simp, by simp⟩
  | request there place => exact ⟨stuck.onward rfl rfl (stays there), by simp, by simp⟩
  | look there place patient => exact ⟨stuck.onward rfl rfl (stays there), by simp, by simp⟩
  | gaveUp there why | exited there | killed there sent => exact ⟨ended _ _, by simp, by simp⟩
  | openC2s there place found =>
    exact ⟨stuck.onward rfl (opened .writing there found) (stays there), by simp, by simp⟩
  | enterC2s there place returned => exact ⟨stuck.onward rfl rfl (stays there), by simp, by simp⟩
  | openS2c there place found =>
    exact ⟨stuck.onward rfl (opened .reading there found) (stays there), by simp, by simp⟩
  | enterS2c there place returned => exact ⟨stuck.onward rfl rfl (stays there), by simp, by simp⟩
  | notice there sent place => exact ⟨stuck.onward rfl rfl (stays there), by simp, by simp⟩
  | record sent handled | interrupt sent handled place waits => exact absurd rfl quiet
  | enter place returned =>
    obtain ⟨-, same⟩ := ServerPlace.accept.inj (stuck.place.symm.trans place)
    cases same
    rw [stuck.waits] at returned
    cases returned
  | read place | decline place | accept place | tooLong place | paths place | unlinkOld place
  | unmade place | make place | unmake place | signal place | unsignalled place
  | openReading place | unopened place | openWriting place | unopenedS2c place | register place
  | unregistered place | closeC2s place | closeS2c place | unlink place | drop place =>
    cases stuck.place.symm.trans place

/-- In a whole run without `SIGUSR1` and a new process of this PID the main loop stays in its
`open`. -/
theorem handshakeMachine_stuck {labels : List HandshakeLabel} {fifos : FifoPair}
    {ticket : Option Nat} (sorted : state.Sorted fifoDir) (stuck : state.Stuck pid fifos ticket)
    (others : ∀ label ∈ labels, label ≠ .start pid ∧ label ≠ .deliverUsr1)
    (goes : (handshakeMachine fifoDir).run state labels = some last) :
    last.Stuck pid fifos ticket ∧
      ∀ label ∈ labels, (∀ ok, label ≠ .server ok) ∧ ∀ client, label ≠ .close client := by
  induction labels generalizing state with
  | nil =>
    cases goes
    exact ⟨stuck, fun label member => absurd member List.not_mem_nil⟩
  | cons label labels ih =>
    obtain ⟨next, stepped, rest⟩ := Machine.run_cons_some.mp goes
    obtain ⟨other, quiet⟩ := others label List.mem_cons_self
    have step := handshakeMachine_step stepped
    obtain ⟨still, idle⟩ := step.stuck sorted stuck other quiet
    obtain ⟨ends, later⟩ := ih (step.sorted sorted) still
      (fun label member => others label (List.mem_cons_of_mem _ member)) rest
    refine ⟨ends, fun after member => ?_⟩
    rcases List.mem_cons.mp member with rfl | behind
    · exact idle
    · exact later after behind

/-- The signal of another client makes it give up. -/
theorem Handshake.Stuck.interrupted {fifos : FifoPair} {ticket : Option Nat}
    (stuck : state.Stuck pid fifos ticket)
    (stepped : (handshakeMachine fifoDir).step state .deliverUsr1 = some next) :
    next.server = .leave pid (.closeC2s fifos.c2s none) := by
  obtain ⟨sender, sent, received⟩ := Option.bind_eq_some_iff.mp stepped
  obtain ⟨pending, handled, made⟩ := Option.map_eq_some_iff.mp received
  have waits := stuck.waits
  simp only [stuck.place, waits, Bool.false_eq_true, if_false] at made
  rw [← made]
  rfl

/-- If the client of a connection that is being accepted is gone when the server has come to open
`FIFO_S2C` for it, the main loop waits there, whatever the other clients do: it accepts nobody, reads
and closes nothing. Only a signal that asks for a connection moves it on: it gives this one up. -/
theorem server_waits_for_nobody {files : Bytes → Option Inode} {made : Nat}
    {labels more : List HandshakeLabel} {fifos : FifoPair} {ticket : Option Nat}
    (stale : ∀ path inode, files path = some inode → inode < made)
    (ran : (handshakeMachine fifoDir).run (.begin files made) labels = some state)
    (stuck : state.Stuck pid fifos ticket)
    (others : ∀ label ∈ more, label ≠ .start pid ∧ label ≠ .deliverUsr1)
    (goes : (handshakeMachine fifoDir).run state more = some last) :
    last.server = .accept pid (.enterS2c fifos ticket) ∧
    (∀ label ∈ more, (∀ ok, label ≠ .server ok) ∧ ∀ client, label ≠ .close client) ∧
    ∀ label after, (handshakeMachine fifoDir).step last label = some after →
      after.server = if label = .deliverUsr1 then .leave pid (.closeC2s fifos.c2s none)
        else last.server := by
  have sorted := (handshakeMachine_sound stale ran).sorted
  obtain ⟨still, idle⟩ := handshakeMachine_stuck sorted stuck others goes
  refine ⟨still.place, idle, fun label after stepped => ?_⟩
  by_cases signal : label = .deliverUsr1
  · subst signal
    rw [if_pos rfl]
    exact still.interrupted stepped
  · rw [if_neg signal]
    by_cases again : label = .start pid
    · subst again
      obtain ⟨-, started⟩ := Option.ite_none_left_eq_some.mp stepped
      cases started
      rfl
    · have kept := (handshakeMachine_sound stale
        (Machine.run_append_some.mpr ⟨state, ran, goes⟩)).sorted
      have later := (handshakeMachine_step stepped).stuck kept still again signal
      exact later.1.place.trans still.place.symm

/-- A client looks ten times and gives up; the server has signalled it and waits. -/
def cameTooLate : List HandshakeLabel :=
  [.start 7, .client 7, .client 7, .deliverUsr1] ++ List.replicate 8 (.server true) ++
    List.replicate 11 (.client 7) ++ List.replicate 2 (.server true)

/-- The server waits for it while another client comes to ask. -/
theorem server_waits_for_nobody_tooLate : ∃ state last fifos ticket,
    (handshakeMachine none).run (.begin (fun _ => none) 0) cameTooLate = some state ∧
      (handshakeMachine none).run state [.start 8, .client 8, .client 8, .client 8] = some last ∧
      last.server = .accept 7 (.enterS2c fifos ticket) := by
  obtain ⟨state, ran, facts⟩ := Option.map_eq_some_iff.mp
    (by decide +kernel : ((handshakeMachine none).run (.begin (fun _ => none) 0)
      cameTooLate).map (fun state => (state.server, (state.pipes 1).lets .writing (some 0),
        state.processes 7, state.processes 8)) =
          some (.accept 7 (.enterS2c ⟨0, 1⟩ (some 0)), false, none, none))
  obtain ⟨place, facts⟩ := Prod.mk.inj facts
  obtain ⟨waits, facts⟩ := Prod.mk.inj facts
  obtain ⟨gone, absent⟩ := Prod.mk.inj facts
  have stale : ∀ path inode, (fun _ => none : Bytes → Option Inode) path = some inode →
      inode < 0 := by
    rintro path inode ⟨⟩
  obtain ⟨last, goes⟩ : ∃ last, (handshakeMachine none).run state
      [.start 8, .client 8, .client 8, .client 8] = some last := by
    simp [Machine.run, handshakeMachine, absent, Handshake.setProcess, Handshake.clientStep]
  obtain ⟨there, -, -⟩ := server_waits_for_nobody stale ran
    (⟨place, waits, gone⟩ : state.Stuck 7 ⟨0, 1⟩ (some 0)) (by simp) goes
  exact ⟨state, last, _, _, ran, goes, there⟩

/-! ## The handshake completes -/

/-- FIFOs are created only for clients whose paths fit. -/
structure Handshake.Named (fifoDir : Option Bytes) (state : Handshake) : Prop where
  /-- While the client is accepted. -/
  accepting : ∀ pid stage, state.server = .accept pid stage →
    stage = .paths ∨ (getFifoPaths fifoDir pid).isSome = true
  /-- From then on. -/
  created : ∀ inode pid kind, state.origin inode = some (pid, kind) →
    (getFifoPaths fifoDir pid).isSome = true

/-- The main loop stays with a client, or ends with it. -/
theorem Handshake.Named.move (named : state.Named fifoDir) (origin : next.origin = state.origin)
    (server : ∀ pid stage, next.server = .accept pid stage →
      ∃ before, state.server = .accept pid before ∧ before ≠ .paths) : next.Named fifoDir where
  accepting := by
    intro pid stage place
    obtain ⟨before, there, begun⟩ := server pid stage place
    exact .inr ((named.accepting pid before there).resolve_left begun)
  created := by
    rw [origin]
    exact named.created

/-- FIFOs were created only for such clients where none is created and the main loop stays. -/
theorem Handshake.Named.congr (named : state.Named fifoDir) (origin : next.origin = state.origin)
    (server : next.server = state.server) : next.Named fifoDir where
  accepting := by
    rw [server]
    exact named.accepting
  created := by
    rw [origin]
    exact named.created

/-- After every step, FIFOs were created only for clients whose paths fit. -/
theorem HandshakeStep.named (named : state.Named fifoDir) {label : HandshakeLabel}
    (step : HandshakeStep fifoDir state label next) : next.Named fifoDir := by
  cases step with
  | gaveUp there why | exited there | killed there sent =>
    exact named.congr (terminate_origin _) (terminate_server _)
  | accept place taken cleared real new =>
    refine ⟨?_, named.created⟩
    rintro other stage ⟨⟩
    exact .inl rfl
  | paths place short =>
    refine ⟨?_, named.created⟩
    rintro other stage ⟨⟩
    exact .inr short
  | make place free =>
    rename_i pid kind
    have short := (named.accepting pid _ place).resolve_left (by simp)
    constructor
    · rintro other stage ⟨⟩
      exact .inr short
    · intro inode owner sort born
      change Function.update state.origin state.made _ inode = _ at born
      by_cases new : inode = state.made
      · rw [new, Function.update_self] at born
        cases born
        exact short
      · rw [Function.update_of_ne new] at born
        exact named.created inode owner sort born
  | unlinkOld place =>
    rw [unlink_other]
    refine named.move rfl ?_
    rintro other stage ⟨⟩
    exact ⟨_, place, by simp⟩
  | unmake place =>
    rw [unlink_other]
    refine named.move rfl ?_
    rintro other stage ⟨⟩
  | unlink place =>
    rename_i ok pid kind
    rw [unlink_other]
    refine named.move rfl ?_
    cases kind <;> rintro other stage ⟨⟩
  | unmade place =>
    rename_i ok pid kind
    refine named.move rfl ?_
    cases kind with
    | c2s => rintro other stage ⟨⟩
    | s2c =>
      rintro other stage ⟨⟩
      exact ⟨_, place, by simp⟩
  | signal place there | openReading place found | openWriting place found
  | enter place returned =>
    refine named.move rfl ?_
    rintro other stage ⟨⟩
    exact ⟨_, place, by simp⟩
  | interrupt sent handled place waits | read place taken | decline place taken cleared
  | tooLong place | unsignalled place | unopened place failed | unopenedS2c place failed
  | register place | unregistered place | closeC2s place | closeS2c place
  | drop place connected =>
    refine named.move rfl ?_
    rintro other stage ⟨⟩
  | _ => exact named.congr rfl rfl

/-- The calls of the server that are left of a handshake, once the client is signalled. -/
def AcceptStage.rank : AcceptStage → Nat
  | .openC2s => 4
  | .openS2c _ => 3
  | .enterS2c _ _ => 2
  | .register _ => 1
  | _ => 0

/-- Those of the client. -/
def ProcessPlace.rank : ProcessPlace → Nat
  | .waiting _ => 5
  | .openC2s => 4
  | .enterC2s _ _ => 3
  | .openS2c _ => 2
  | .enterS2c _ _ => 1
  | _ => 0

/-- What is left for the server to do for a client. -/
def ServerPlace.rank (pid : Pid) : ServerPlace → Nat
  | .accept other stage => if other = pid then stage.rank else 0
  | _ => 0

/-- What is left of the handshake of a client. -/
def Handshake.rank (state : Handshake) (pid : Pid) : Nat :=
  state.server.rank pid + ((state.processes pid).map fun process => process.place.rank).getD 0

/-- A step of the handshake of a client: of its process, or of the server while it accepts it. -/
def ownStep (pid : Pid) (state : Handshake) : HandshakeLabel → Nat
  | .client other => if other = pid then 1 else 0
  | .server _ =>
    match state.server with
    | .accept other _ => if other = pid then 1 else 0
    | _ => 0
  | _ => 0

/-- Nothing breaks off the handshake of a client: its process goes on, no call fails, no other client
interrupts the server, the server does not drop it, and no new process gets the PID of a request that
the server has before it. -/
def Handshake.Calm (pid : Pid) (state : Handshake) (label : HandshakeLabel) : Prop :=
  label ≠ .exit pid ∧ label ≠ .deliverUsr1 ∧ label ≠ .server false ∧ label ≠ .close pid ∧
    state.Fresh label

/-- The server has signalled a client, which has noticed it in time. -/
structure Handshake.Meets (fifoDir : Option Bytes) (state : Handshake) (pid : Pid) : Prop where
  faithful : state.Faithful fifoDir
  waiting : state.Waiting
  named : state.Named fifoDir
  /-- The process has not given up. -/
  client : ∃ process, state.processes pid = some process ∧ process.sigusr2Received = true ∧
    ∀ checks, process.place = .waiting checks → checks < 10
  /-- The server is opening the FIFOs, or has done so. -/
  server : (∃ stage, state.server = .accept pid stage ∧ stage.early = false) ∨
    (state.held pid).isSome = true

/-- The FIFOs that were created for the client are at its paths, and are those that it opens. -/
theorem Handshake.Meets.fifos (meets : state.Meets fifoDir pid) {process : ClientProcess}
    (there : state.processes pid = some process) : ∃ fifos : FifoPair,
      (∀ kind, state.Has fifoDir pid kind (fifos.fifo kind)) ∧ process.place.Within fifos := by
  obtain ⟨other, here, received, -⟩ := meets.client
  cases Option.some.inj (there.symm.trans here)
  have answered : process.answered = true := by simp [ClientProcess.answered, received]
  obtain ⟨created, within, -, found⟩ := (meets.faithful.answers.answer pid process there).fifos answered
  have fits := meets.faithful.sound.sorted.fits
  have has : ∃ fifos : FifoPair, ∀ kind, state.Has fifoDir pid kind (fifos.fifo kind) := by
    rcases meets.server with ⟨stage, place, late⟩ | held
    · rw [place] at fits
      cases stage with
      | openC2s => exact fits.2
      | openS2c c2s =>
        obtain ⟨-, fifos, -, has⟩ := fits
        exact ⟨fifos, has⟩
      | enterS2c fifos ticket => exact ⟨fifos, fits.2⟩
      | register fifos => exact ⟨fifos, fits.2⟩
      | _ => cases late
    · obtain ⟨fifos, connected⟩ := Option.isSome_iff_exists.mp held
      exact ⟨fifos, (meets.faithful.sound.sorted.held pid fifos connected).2⟩
  obtain ⟨fifos, has⟩ := has
  have same : fifos = created := fifoPair_ext fun kind => found kind _ (has kind).1
  exact ⟨fifos, has, same ▸ within⟩

/-- A process keeps its place through the steps of the others, and of the server but for its
signal. -/
theorem HandshakeStep.process_kept {label : HandshakeLabel}
    (step : HandshakeStep fifoDir state label next) {process : ClientProcess}
    (there : state.processes pid = some process) (others : label ≠ .client pid)
    (stays : label ≠ .exit pid) (undelivered : label ≠ .deliverUsr2 pid)
    (unsignalled : state.server ≠ .accept pid .signal) : next.processes pid = some process := by
  have moved : ∀ {mover : Pid} {after : Option ClientProcess}, mover ≠ pid →
      Function.update state.processes mover after pid = some process := by
    intro mover after other
    rw [Function.update_of_ne (Ne.symm other), there]
  cases step with
  | start real new =>
    refine moved ?_
    rintro rfl
    rw [there] at new
    cases new
  | install here place | request here place | look here place patience | openC2s here place found
  | enterC2s here place returned | openS2c here place found | enterS2c here place returned =>
    exact moved fun same => others (congrArg _ same)
  | gaveUp here why =>
    rw [terminate_processes]
    exact moved fun same => others (congrArg _ same)
  | exited here =>
    rw [terminate_processes]
    exact moved fun same => stays (congrArg _ same)
  | killed here sent =>
    rw [terminate_processes]
    exact moved fun same => undelivered (congrArg _ same)
  | notice here sent place => exact moved fun same => undelivered (congrArg _ same)
  | signal place here => exact moved fun same => unsignalled (same ▸ place)
  | unlinkOld place | unmake place | unlink place =>
    rw [unlink_other]
    exact there
  | _ => exact there

/-- The process does not give up: its paths fit and its FIFOs are there. -/
theorem Handshake.Meets.not_givesUp (meets : state.Meets fifoDir pid) {process : ClientProcess}
    (there : state.processes pid = some process)
    (patient : ∀ checks, process.place = .waiting checks → checks < 10) :
    ¬ state.GivesUp fifoDir pid process.place := by
  intro why
  obtain ⟨fifos, has, -⟩ := meets.fifos there
  have short := meets.named.created _ _ _ (has .c2s).2
  cases place : process.place with
  | waiting checks =>
    rw [place] at why
    exact absurd (patient checks place) (Nat.not_lt.mpr why)
  | openC2s =>
    rw [place] at why
    rcases why with long | missing
    · rw [long] at short
      cases short
    · rw [(has .c2s).1] at missing
      cases missing
  | openS2c c2s =>
    rw [place] at why
    have missing : state.files _ = none := why
    rw [(has .s2c).1] at missing
    cases missing
  | _ =>
    rw [place] at why
    cases why

/-- In its turn the process takes one of the steps that it has left. -/
theorem HandshakeStep.meets_own (meets : state.Meets fifoDir pid)
    (step : HandshakeStep fifoDir state (.client pid) next) {process : ClientProcess}
    (there : state.processes pid = some process) (received : process.sigusr2Received = true)
    (asked : process.place.unasked = false)
    (patient : ∀ checks, process.place = .waiting checks → checks < 10) :
    ∃ after, next.processes pid = some after ∧ after.sigusr2Received = true ∧
      (∀ checks, after.place = .waiting checks → checks < 10) ∧
      after.place.rank + 1 = process.place.rank := by
  -- a step in its `open` calls
  have opens : ∀ {before : ClientProcess} {place : ProcessPlace},
      state.processes pid = some before → before.place.rank = place.rank + 1 →
      (∀ checks, place ≠ .waiting checks) →
      next.processes = Function.update state.processes pid (some { before with place }) →
      ∃ after, next.processes pid = some after ∧ after.sigusr2Received = true ∧
        (∀ checks, after.place = .waiting checks → checks < 10) ∧
        after.place.rank + 1 = process.place.rank := by
    intro before place here lower opening changed
    obtain rfl := Option.some.inj (here.symm.trans there)
    exact ⟨{ before with place }, by rw [changed, Function.update_self], received,
      fun checks there => absurd there (opening checks), lower.symm⟩
  cases step with
  | install here place | request here place =>
    obtain rfl := Option.some.inj (here.symm.trans there)
    rw [place] at asked
    cases asked
  | look here place patience =>
    obtain rfl := Option.some.inj (here.symm.trans there)
    refine ⟨_, Function.update_self .., received, ?_, ?_⟩
    · rw [if_pos received]
      rintro checks ⟨⟩
    · rw [if_pos received, place]
      rfl
  | gaveUp here why =>
    obtain rfl := Option.some.inj (here.symm.trans there)
    exact absurd why (meets.not_givesUp here patient)
  | openC2s here place found | enterC2s here place returned | openS2c here place found
  | enterS2c here place returned => exact opens here (by rw [place]; rfl) (by simp) rfl

/-- The process goes on, by one step if it is its turn. -/
theorem HandshakeStep.meets_client (meets : state.Meets fifoDir pid) {label : HandshakeLabel}
    (calm : state.Calm pid label) (step : HandshakeStep fifoDir state label next)
    {process : ClientProcess} (there : state.processes pid = some process)
    (received : process.sigusr2Received = true)
    (patient : ∀ checks, process.place = .waiting checks → checks < 10) :
    ∃ after, next.processes pid = some after ∧ after.sigusr2Received = true ∧
      (∀ checks, after.place = .waiting checks → checks < 10) ∧
      after.place.rank + (if label = .client pid then 1 else 0) = process.place.rank := by
  have answer := meets.faithful.answers.answer pid process there
  have answered : process.answered = true := by simp [ClientProcess.answered, received]
  by_cases own : label = .client pid
  · subst own
    have asked : process.place.unasked = false := by
      refine Bool.eq_false_iff.mpr fun early => ?_
      rw [(answer.unasked early).2] at answered
      cases answered
    rw [if_pos rfl]
    exact step.meets_own meets there received asked patient
  · have unsent : process.usr2 = false := by
      refine Bool.eq_false_iff.mpr fun sent => ?_
      rw [(answer.once sent).1] at received
      cases received
    have undelivered : label ≠ .deliverUsr2 pid := by
      rintro rfl
      have sent : ∃ before, state.processes pid = some before ∧ before.usr2 = true := by
        cases step with
        | killed here sent => exact ⟨_, here, sent⟩
        | notice here sent place => exact ⟨_, here, sent⟩
      obtain ⟨before, here, sent⟩ := sent
      rw [Option.some.inj (here.symm.trans there), unsent] at sent
      cases sent
    have unsignalled : state.server ≠ .accept pid .signal := by
      intro place
      have late := (answer.done answered).2 _ place
      cases late
    rw [if_neg own]
    exact ⟨process, step.process_kept there own calm.1 undelivered unsignalled, received, patient,
      rfl⟩

/-- The server goes on with the client, by one step if it is its turn. -/
theorem HandshakeStep.meets_accepting (meets : state.Meets fifoDir pid) {label : HandshakeLabel}
    (calm : state.Calm pid label) (step : HandshakeStep fifoDir state label next)
    {process : ClientProcess} (there : state.processes pid = some process) {stage : AcceptStage}
    (place : state.server = .accept pid stage) (late : stage.early = false) :
    ((∃ after, next.server = .accept pid after ∧ after.early = false) ∨
        (next.held pid).isSome = true) ∧
      next.server.rank pid + (if ∃ ok, label = .server ok then 1 else 0) = stage.rank := by
  obtain ⟨-, quiet, fine, -, -⟩ := calm
  obtain ⟨fifos, has, -⟩ := meets.fifos there
  -- a step of a process
  have waits : next.server = state.server → (¬ ∃ ok, label = .server ok) →
      ((∃ after, next.server = .accept pid after ∧ after.early = false) ∨
          (next.held pid).isSome = true) ∧
        next.server.rank pid + (if ∃ ok, label = .server ok then 1 else 0) = stage.rank := by
    intro same other
    rw [same, place, if_neg other]
    exact ⟨.inl ⟨stage, rfl, late⟩, by simp [ServerPlace.rank]⟩
  cases step with
  | gaveUp here why | exited here | killed here sent =>
    exact waits (terminate_server _) (by simp)
  | record sent handled | interrupt sent handled at_ waits => exact absurd rfl quiet
  | openReading at_ found =>
    obtain ⟨rfl, rfl⟩ := ServerPlace.accept.inj (at_.symm.trans place)
    exact ⟨.inl ⟨_, rfl, rfl⟩, by simp [Handshake.goTo, ServerPlace.rank, AcceptStage.rank]⟩
  | openWriting at_ found =>
    obtain ⟨rfl, rfl⟩ := ServerPlace.accept.inj (at_.symm.trans place)
    exact ⟨.inl ⟨_, rfl, rfl⟩, by simp [Handshake.goTo, ServerPlace.rank, AcceptStage.rank]⟩
  | enter at_ returned =>
    obtain ⟨rfl, rfl⟩ := ServerPlace.accept.inj (at_.symm.trans place)
    exact ⟨.inl ⟨_, rfl, rfl⟩, by simp [Handshake.goTo, ServerPlace.rank, AcceptStage.rank]⟩
  | register at_ =>
    obtain ⟨rfl, rfl⟩ := ServerPlace.accept.inj (at_.symm.trans place)
    refine ⟨.inr ?_, by simp [ServerPlace.rank, AcceptStage.rank]⟩
    simp
  | unopened at_ failed =>
    obtain ⟨rfl, rfl⟩ := ServerPlace.accept.inj (at_.symm.trans place)
    rcases failed with rfl | missing
    · exact absurd rfl fine
    · rw [(has .c2s).1] at missing
      cases missing
  | unopenedS2c at_ failed =>
    obtain ⟨rfl, rfl⟩ := ServerPlace.accept.inj (at_.symm.trans place)
    rcases failed with rfl | missing
    · exact absurd rfl fine
    · rw [(has .s2c).1] at missing
      cases missing
  | unregistered at_ => exact absurd rfl fine
  | tooLong at_ | paths at_ | unlinkOld at_ | unmade at_ | make at_ | unmake at_ | signal at_
  | unsignalled at_ =>
    obtain ⟨rfl, rfl⟩ := ServerPlace.accept.inj (at_.symm.trans place)
    cases late
  | read at_ | decline at_ | accept at_ | closeC2s at_ | closeS2c at_ | unlink at_ | drop at_ =>
    cases at_.symm.trans place
  | _ => exact waits rfl (by simp)

/-- The server keeps the record of the client. -/
theorem HandshakeStep.meets_held (sorted : state.Sorted fifoDir) {label : HandshakeLabel}
    (calm : state.Calm pid label) (step : HandshakeStep fifoDir state label next)
    (held : (state.held pid).isSome = true) :
    (next.held pid).isSome = true ∧ next.server.rank pid = 0 := by
  obtain ⟨-, -, -, keeps, -⟩ := calm
  obtain ⟨fifos, connected⟩ := Option.isSome_iff_exists.mp held
  have listed := (sorted.held pid fifos connected).1
  have fits := sorted.fits
  -- the server does not accept a client that it knows
  have other : ∀ {accepted : Pid} {stage : AcceptStage}, state.server = .accept accepted stage →
      accepted ≠ pid := by
    rintro accepted stage place rfl
    rw [place] at fits
    exact fits.1 listed
  have idle : state.server.rank pid = 0 := by
    cases place : state.server with
    | accept accepted stage => simp [ServerPlace.rank, other place]
    | _ => rfl
  cases step with
  | gaveUp here why | exited here | killed here sent =>
    rw [terminate_held, terminate_server]
    exact ⟨held, idle⟩
  | accept place taken cleared real new =>
    refine ⟨held, ?_⟩
    simp [ServerPlace.rank, AcceptStage.rank]
  | register place =>
    rename_i accepted opened
    refine ⟨?_, rfl⟩
    change (Function.update state.held accepted (some opened) pid).isSome = true
    rwa [Function.update_of_ne (other place).symm]
  | drop place connected =>
    rename_i dropped opened
    refine ⟨?_, rfl⟩
    change (Function.update state.held dropped none pid).isSome = true
    rw [Function.update_of_ne]
    · exact held
    · rintro rfl
      exact keeps rfl
  | unlinkOld place =>
    rw [unlink_other]
    exact ⟨held, by simp [Handshake.goTo, ServerPlace.rank, other place]⟩
  | unmake place =>
    rw [unlink_other]
    exact ⟨held, rfl⟩
  | unlink place =>
    rename_i ok accepted kind
    rw [unlink_other]
    refine ⟨held, ?_⟩
    cases kind <;> rfl
  | unmade place =>
    rename_i ok accepted kind
    refine ⟨held, ?_⟩
    cases kind with
    | c2s => rfl
    | s2c => simp [Handshake.goTo, ServerPlace.afterMade, ServerPlace.rank, other place]
  | paths place named | make place free | signal place here | openReading place found
  | openWriting place found | enter place returned =>
    exact ⟨held, by simp [Handshake.goTo, ServerPlace.rank, other place]⟩
  | interrupt sent handled place waits | read place taken | decline place taken cleared
  | tooLong place | unsignalled place | unopened place failed | unopenedS2c place failed
  | unregistered place | closeC2s place | closeS2c place => exact ⟨held, rfl⟩
  | _ => exact ⟨held, idle⟩

/-- A step of a handshake that nothing breaks off. -/
theorem HandshakeStep.meets (meets : state.Meets fifoDir pid) {label : HandshakeLabel}
    (calm : state.Calm pid label) (step : HandshakeStep fifoDir state label next) :
    next.Meets fifoDir pid ∧ next.rank pid + ownStep pid state label = state.rank pid := by
  obtain ⟨process, there, received, patient⟩ := meets.client
  have fresh := calm.2.2.2.2
  have faithful := step.faithful meets.faithful fresh
  have waiting := step.waiting meets.waiting
  have named := step.named meets.named
  obtain ⟨after, here, noticed, hopes, less⟩ :=
    step.meets_client meets calm there received patient
  have ranks : state.rank pid = state.server.rank pid + process.place.rank ∧
      next.rank pid = next.server.rank pid + after.place.rank := by
    rw [Handshake.rank, Handshake.rank, there, here]
    exact ⟨rfl, rfl⟩
  rw [ranks.1, ranks.2]
  by_cases accepting : ∃ stage, state.server = .accept pid stage ∧ stage.early = false
  · obtain ⟨stage, place, late⟩ := accepting
    obtain ⟨server, lower⟩ := step.meets_accepting meets calm there place late
    refine ⟨⟨faithful, waiting, named, ⟨after, here, noticed, hopes⟩, server⟩, ?_⟩
    have before : state.server.rank pid = stage.rank := by simp [place, ServerPlace.rank]
    have price : ownStep pid state label = (if label = .client pid then 1 else 0) +
        if ∃ ok, label = .server ok then 1 else 0 := by
      cases label <;> simp [ownStep, place]
    omega
  · have held := meets.server.resolve_left accepting
    obtain ⟨kept, after_idle⟩ := step.meets_held meets.faithful.sound.sorted calm held
    refine ⟨⟨faithful, waiting, named, ⟨after, here, noticed, hopes⟩, .inr kept⟩, ?_⟩
    obtain ⟨fifos, connected⟩ := Option.isSome_iff_exists.mp held
    have listed := (meets.faithful.sound.sorted.held pid fifos connected).1
    have fits := meets.faithful.sound.sorted.fits
    have elsewhere : ∀ stage, state.server ≠ .accept pid stage := by
      intro stage place
      rw [place] at fits
      exact fits.1 listed
    have idle : state.server.rank pid = 0 := by
      cases place : state.server with
      | accept other stage =>
        have apart : other ≠ pid := by
          rintro rfl
          exact elsewhere stage place
        simp [ServerPlace.rank, apart]
      | _ => rfl
    have price : ownStep pid state label = if label = .client pid then 1 else 0 := by
      cases label with
      | server ok =>
        cases place : state.server with
        | accept other stage =>
          have apart : other ≠ pid := by
            rintro rfl
            exact elsewhere stage place
          simp [ownStep, place, apart]
        | _ => simp [ownStep, place]
      | _ => simp [ownStep]
    omega

/-- The server has the FIFO of a kind open, as soon as it uses it. -/
theorem Handshake.Counted.mem (counted : state.Counted) {kind : FifoKind} {inode : Inode}
    (used : state.Uses kind inode) :
    Party.server ∈ (state.pipes inode).holders kind.serverEnd := by
  have once := (counted kind inode).2.mpr used
  refine List.count_pos_iff.mp ?_
  change 0 < state.serverOpens kind inode
  omega

/-- Until it is completed, one of the two can take a step of it. -/
theorem Handshake.Meets.goes_on (meets : state.Meets fifoDir pid) (left : state.rank pid ≠ 0) :
    ∃ label, ownStep pid state label = 1 ∧
      ((handshakeMachine fifoDir).step state label).isSome = true := by
  obtain ⟨process, there, received, patient⟩ := meets.client
  obtain ⟨fifos, has, within⟩ := meets.fifos there
  have waits := meets.waiting.clients pid process there
  have short := meets.named.created _ _ _ (has .c2s).2
  have counted := meets.faithful.sound.counted
  -- the process can go on, but where it waits
  have client : process.place.rank ≠ 0 →
      (∀ c2s ticket, process.place = .enterC2s c2s ticket →
        (state.pipes c2s).lets .writing ticket = true) →
      (∀ opened ticket, process.place = .enterS2c opened ticket →
        (state.pipes opened.s2c).lets .reading ticket = true) →
      ((handshakeMachine fifoDir).step state (.client pid)).isSome = true := by
    intro some_ first second
    obtain ⟨paths, named⟩ := Option.isSome_iff_exists.mp short
    obtain rfl := getFifoPaths_some named
    change ((state.processes pid).bind (state.clientStep fifoDir pid)).isSome = true
    rw [there, Option.bind_some]
    unfold Handshake.clientStep
    rw [getFifoPaths] at named
    cases place : process.place with
    | waiting checks => simp [patient checks place]
    | openC2s => simp [named, (has .c2s).1]
    | enterC2s c2s ticket => simp [first c2s ticket place]
    | openS2c c2s => simp [(has .s2c).1]
    | enterS2c opened ticket => simp [second opened ticket place]
    | installing | requesting | connected => simp [place, ProcessPlace.rank] at some_
  have own : ownStep pid state (.client pid) = 1 := if_pos rfl
  -- where the server has opened the first FIFO, the process does not wait for it
  have first : state.Uses .c2s fifos.c2s → ∀ c2s ticket, process.place = .enterC2s c2s ticket →
      (state.pipes c2s).lets .writing ticket = true := by
    intro used c2s ticket place
    rw [place] at within waits
    obtain rfl : c2s = fifos.c2s := within
    exact Pipe.Waits.lets waits (counted.mem used)
  have fits := meets.faithful.sound.sorted.fits
  rcases meets.server with ⟨stage, place, late⟩ | held
  · have server : ownStep pid state (.server true) = 1 := by simp [ownStep, place]
    have step : (handshakeMachine fifoDir).step state (.server true) =
        state.acceptStep fifoDir pid true stage := by
      change state.serverStep fifoDir true = _
      rw [Handshake.serverStep, place]
    cases stage with
    | openC2s => exact ⟨.server true, server, by rw [step]; simp [Handshake.acceptStep, (has .c2s).1]⟩
    | openS2c c2s =>
      exact ⟨.server true, server, by rw [step]; simp [Handshake.acceptStep, (has .s2c).1]⟩
    | register opened => exact ⟨.server true, server, by rw [step]; rfl⟩
    | enterS2c opened ticket =>
      by_cases returned : (state.pipes opened.s2c).lets .writing ticket = true
      · exact ⟨.server true, server, by rw [step]; simp [Handshake.acceptStep, returned]⟩
      · rw [place] at fits
        have same : opened = fifos := fifoPair_ext fun kind =>
          Option.some.inj ((fits.2 kind).1.symm.trans (has kind).1)
        subst same
        have ticketed := meets.waiting.server
        rw [place] at ticketed
        -- the process has not come to open the second FIFO
        have absent : Party.client pid ∉ (state.pipes opened.s2c).holders .reading :=
          fun held => returned (Pipe.Waits.lets ticketed held)
        have used : state.Uses .c2s opened.c2s := .inr (by rw [place]; rfl)
        refine ⟨.client pid, own, client ?_ (first used) fun second ticket there => ?_⟩
        · intro none_left
          have asked := (meets.faithful.answers.answer pid process there).unasked
          have answered : process.answered = true := by simp [ClientProcess.answered, received]
          cases at_ : process.place with
          | installing | requesting =>
            rw [at_] at asked
            rw [(asked rfl).2] at answered
            cases answered
          | connected second =>
            rw [at_] at within waits
            obtain rfl : second = opened := within
            exact absent waits
          | _ => simp [at_, ProcessPlace.rank] at none_left
        · rw [there] at within waits
          obtain rfl : second = opened := within
          exact absurd waits.2 absent
    | _ => cases late
  · obtain ⟨opened, connected⟩ := Option.isSome_iff_exists.mp held
    obtain ⟨listed, files⟩ := meets.faithful.sound.sorted.held pid opened connected
    have same : opened = fifos := fifoPair_ext fun kind =>
      Option.some.inj ((files kind).1.symm.trans (has kind).1)
    subst same
    have idle : state.server.rank pid = 0 := by
      cases place : state.server with
      | accept other stage =>
        rw [place] at fits
        have apart : other ≠ pid := by
          rintro rfl
          exact fits.1 listed
        simp [ServerPlace.rank, apart]
      | _ => rfl
    have unfinished : process.place.rank ≠ 0 := by
      rw [Handshake.rank, idle, there] at left
      simpa using left
    have used : ∀ kind, state.Uses kind (opened.fifo kind) :=
      fun kind => .inl ⟨pid, opened, connected, rfl⟩
    refine ⟨.client pid, own, client unfinished (first (used .c2s)) fun second ticket place => ?_⟩
    rw [place] at within waits
    obtain rfl : second = opened := within
    exact waits.1.lets (counted.mem (used .s2c))

/-- A handshake of which nothing is left is completed. -/
theorem Handshake.Meets.completed (meets : state.Meets fifoDir pid) (done : state.rank pid = 0) :
    ∃ fifos process, state.held pid = some fifos ∧ state.processes pid = some process ∧
      process.place = .connected fifos := by
  obtain ⟨process, there, received, patient⟩ := meets.client
  obtain ⟨fifos, has, within⟩ := meets.fifos there
  have answer := meets.faithful.answers.answer pid process there
  have answered : process.answered = true := by simp [ClientProcess.answered, received]
  rw [Handshake.rank, there] at done
  obtain ⟨server, client⟩ := Nat.add_eq_zero_iff.mp done
  change process.place.rank = 0 at client
  have held : (state.held pid).isSome = true := by
    refine meets.server.resolve_left ?_
    rintro ⟨stage, place, late⟩
    rw [place, ServerPlace.rank, if_pos rfl] at server
    cases stage with
    | openC2s | openS2c | enterS2c | register => cases server
    | _ => cases late
  obtain ⟨opened, connected⟩ := Option.isSome_iff_exists.mp held
  have files := (meets.faithful.sound.sorted.held pid opened connected).2
  have same : opened = fifos := fifoPair_ext fun kind =>
    Option.some.inj ((files kind).1.symm.trans (has kind).1)
  subst same
  refine ⟨opened, process, connected, there, ?_⟩
  cases place : process.place with
  | installing | requesting =>
    rw [(answer.unasked (by rw [place]; rfl)).2] at answered
    cases answered
  | connected second =>
    rw [place] at within
    rw [show second = opened from within]
  | _ => simp [place, ProcessPlace.rank] at client

/-- Once the server has signalled a client and the client has noticed it in time, the handshake takes
no more than nine steps of the two, in whatever order and among whatever steps of others, as long as
nothing breaks it off; until then one of the two can take a step; and then they are connected by the
same FIFOs. Neither before nor meanwhile does a new process get the PID of a request that the server
has before it: the server would signal it for the request of another. -/
theorem handshake_completes {files : Bytes → Option Inode} {made : Nat}
    {labels more : List HandshakeLabel} {stage : AcceptStage} {process : ClientProcess}
    (stale : ∀ path inode, files path = some inode → inode < made)
    (ran : (handshakeMachine fifoDir).run (.begin files made) labels = some state)
    (fresh : (handshakeMachine fifoDir).EveryStep Handshake.Fresh (.begin files made) labels)
    (place : state.server = .accept pid stage) (late : stage.early = false)
    (there : state.processes pid = some process) (received : process.sigusr2Received = true)
    (patient : ∀ checks, process.place = .waiting checks → checks < 10)
    (goes : (handshakeMachine fifoDir).run state more = some last)
    (calm : (handshakeMachine fifoDir).EveryStep (Handshake.Calm pid) state more) :
    last.rank pid + (handshakeMachine fifoDir).spent (ownStep pid) state more = state.rank pid ∧
    state.rank pid ≤ 9 ∧
    (last.rank pid ≠ 0 → ∃ label, ownStep pid last label = 1 ∧
      ((handshakeMachine fifoDir).step last label).isSome = true) ∧
    (last.rank pid = 0 → ∃ fifos process, last.held pid = some fifos ∧
      last.processes pid = some process ∧ process.place = .connected fifos) := by
  have named : state.Named fifoDir := by
    have start : (Handshake.begin files made).Named fifoDir :=
      ⟨by rintro other stage ⟨⟩, by rintro inode owner kind ⟨⟩⟩
    exact Machine.run_invariant (fun _ _ _ named stepped =>
      (handshakeMachine_step stepped).named named) start ran
  have meets : state.Meets fifoDir pid := ⟨handshakeMachine_faithful stale ran fresh,
    handshakeMachine_waiting ran, named, ⟨process, there, received, patient⟩,
    .inl ⟨stage, place, late⟩⟩
  obtain ⟨ends, steps⟩ := Machine.run_lowers (fun state => state.Meets fifoDir pid)
    (fun state => state.rank pid) (ownStep pid) (Handshake.Calm pid)
    (fun _ _ _ calm meets stepped => (handshakeMachine_step stepped).meets meets calm) calm meets
    goes
  refine ⟨steps, ?_, ends.goes_on, ends.completed⟩
  rw [Handshake.rank, place, there]
  have server : (ServerPlace.accept pid stage).rank pid ≤ 4 := by
    rw [ServerPlace.rank, if_pos rfl]
    cases stage <;> simp [AcceptStage.rank]
  have client : process.place.rank ≤ 5 := by
    cases process.place <;> simp [ProcessPlace.rank]
  exact Nat.add_le_add server client

/-- A client asks, and has noticed that the server has signalled it. -/
def signalled : List HandshakeLabel :=
  [.start 7, .client 7, .client 7, .deliverUsr1] ++ List.replicate 8 (.server true) ++
    [.deliverUsr2 7]

/-- The nine steps that are left. -/
def takingTurns : List HandshakeLabel :=
  [.client 7, .client 7, .server true, .client 7, .client 7, .server true, .client 7, .server true,
    .server true]

/-- The server and the client take turns, and are connected. -/
theorem handshake_completes_turns : ∃ state last fifos process,
    (handshakeMachine none).run (.begin (fun _ => none) 0) signalled = some state ∧
      (handshakeMachine none).run state takingTurns = some last ∧ last.held 7 = some fifos ∧
      last.processes 7 = some process ∧ process.place = .connected fifos := by
  obtain ⟨state, ran, facts⟩ := Option.map_eq_some_iff.mp
    (by decide +kernel : ((handshakeMachine none).run (.begin (fun _ => none) 0) signalled).map
      (fun state => (state.server, state.processes 7,
        ((handshakeMachine none).run state takingTurns).map fun last => last.rank 7)) =
          some (.accept 7 .openC2s, some ⟨.waiting 0, false, true⟩, some 0))
  obtain ⟨place, facts⟩ := Prod.mk.inj facts
  obtain ⟨there, facts⟩ := Prod.mk.inj facts
  obtain ⟨last, goes, done⟩ := Option.map_eq_some_iff.mp facts
  have stale : ∀ path inode, (fun _ => none : Bytes → Option Inode) path = some inode →
      inode < 0 := by
    rintro path inode ⟨⟩
  have fresh : (handshakeMachine none).EveryStep Handshake.Fresh (.begin (fun _ => none) 0)
      signalled := by
    refine fun next taken => ⟨?_, Machine.everyStep_of_labels fun label member state => ?_⟩
    · rintro pid ⟨⟩
      rintro ((⟨⟨⟩⟩ | ⟨⟨⟩⟩ | ⟨⟨⟩⟩) | ⟨stage, ⟨⟩⟩)
    · rintro pid rfl
      simp at member
  have calm : (handshakeMachine none).EveryStep (Handshake.Calm 7) state takingTurns := by
    refine Machine.everyStep_of_labels fun label member state => ?_
    simp only [takingTurns, List.mem_cons, List.not_mem_nil, or_false] at member
    rcases member with rfl | rfl | rfl | rfl | rfl | rfl | rfl | rfl | rfl
    all_goals exact ⟨by simp, by simp, by simp, by simp, by rintro pid ⟨⟩⟩
  obtain ⟨-, -, -, connected⟩ := handshake_completes stale ran fresh place rfl there rfl
    (by rintro checks ⟨⟩; decide) goes calm
  obtain ⟨fifos, process, held, here, at_⟩ := connected done
  exact ⟨state, last, fifos, process, ran, goes, held, here, at_⟩

end AnimateService
