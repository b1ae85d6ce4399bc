import AnimateService.HandshakeFiles

/-!
# The two sides of a connection

A client that has its FIFOs open and the server's record of it have the same two FIFOs, and nobody
else has them. This needs that a PID is not given to a new process while the server has a request
of that PID before it: the server would answer the wrong process. On the way the two sides wait for each
other in `open`, never both; but a client that gives up when the server has signalled it leaves the
main loop waiting for it.
-/
namespace AnimateService

open Transition NamedPipes

variable {fifoDir : Option Bytes} {state next last : Handshake} {pid : Pid}

/-! ## Requests on their way -/

/-- `accept_client` has not yet signalled the client. -/
def AcceptStage.early : AcceptStage → Bool
  | .paths | .unlinkOld _ | .make _ | .unmake | .signal => true
  | _ => false

/-- The server has yet to look at a request of this PID. -/
def Handshake.Queued (state : Handshake) (pid : Pid) : Prop :=
  state.usr1 = some pid ∨ state.pending.slot = pid ∨ state.pending.clientPid = some pid

/-- It has one before it, or is accepting the client. -/
def Handshake.Awaits (state : Handshake) (pid : Pid) : Prop :=
  state.Queued pid ∨ ∃ stage, state.server = .accept pid stage

/-- A new process does not get the PID of a request that the server has before it. -/
def Handshake.Fresh (state : Handshake) (label : HandshakeLabel) : Prop :=
  ∀ pid, label = .start pid → ¬ state.Awaits pid

/-- A PID is at one place on the way from its signal to `accept_client`. -/
structure Handshake.InLine (state : Handshake) : Prop where
  /-- A request whose signal is not delivered. -/
  signalled : ∀ pid, state.usr1 = some pid → pid ≠ 0 ∧ state.pending.slot ≠ pid ∧
    state.pending.clientPid ≠ some pid ∧ ∀ stage, state.server ≠ .accept pid stage
  /-- A request in the slot. -/
  slotted : ∀ pid, state.pending.slot = pid → pid ≠ 0 → ∀ stage, state.server ≠ .accept pid stage
  /-- One that was read. -/
  taken : ∀ pid, state.pending.clientPid = some pid → state.server = .taking

/-- `open_client_fifos` has begun. -/
def ProcessPlace.late : ProcessPlace → Bool
  | .installing | .requesting | .waiting _ => false
  | _ => true

/-- `send_connection_request` has yet to send the signal. -/
def ProcessPlace.unasked : ProcessPlace → Bool
  | .installing | .requesting => true
  | _ => false

/-- The server has signalled the process. -/
def ClientProcess.answered (process : ClientProcess) : Bool :=
  process.usr2 || process.sigusr2Received || process.place.late

/-- The FIFOs that a process has open are of these two. -/
def ProcessPlace.Within (fifos : FifoPair) : ProcessPlace → Prop
  | .enterC2s c2s _ | .openS2c c2s => c2s = fifos.c2s
  | .enterS2c opened _ | .connected opened => opened = fifos
  | _ => True

/-- The FIFOs were created for a client, and it finds no others at its paths. -/
def Handshake.Offers (fifoDir : Option Bytes) (state : Handshake) (pid : Pid)
    (fifos : FifoPair) : Prop :=
  (∀ kind, state.origin (fifos.fifo kind) = some (pid, kind)) ∧
    ∀ kind inode, state.files (fifoPath fifoDir kind pid) = some inode → inode = fifos.fifo kind

/-- What the server has done about the request of a process. -/
structure Handshake.Answer (fifoDir : Option Bytes) (state : Handshake) (pid : Pid)
    (process : ClientProcess) : Prop where
  /-- Nothing before it is sent. -/
  unasked : process.place.unasked = true → ¬ state.Awaits pid ∧ process.answered = false
  /-- It is dealt with once it is answered. -/
  done : process.answered = true →
    ¬ state.Queued pid ∧ ∀ stage, state.server = .accept pid stage → stage.early = false
  /-- `SIGUSR2` comes once. -/
  once : process.usr2 = true → process.sigusr2Received = false ∧ process.place.late = false
  /-- The process has and finds no other FIFOs than those that were created for it. -/
  fifos : process.answered = true →
    ∃ fifos, process.place.Within fifos ∧ state.Offers fifoDir pid fifos

/-- For every process. -/
structure Handshake.Answers (fifoDir : Option Bytes) (state : Handshake) : Prop where
  /-- 0 is no PID. -/
  real : ∀ pid process, state.processes pid = some process → pid ≠ 0
  /-- Its request. -/
  answer : ∀ pid process, state.processes pid = some process → state.Answer fifoDir pid process

/-- A step takes the requests of a PID forward only, and creates FIFOs for it only while it is not
answered. -/
structure Handshake.Onward (fifoDir : Option Bytes) (state next : Handshake) (pid : Pid) :
    Prop where
  /-- No request comes into being. -/
  queued : pid ≠ 0 → next.Queued pid → state.Queued pid
  /-- A client that is accepted was queued, or was being accepted. -/
  accepting : ∀ stage, next.server = .accept pid stage → state.Queued pid ∨
    ∃ before, state.server = .accept pid before ∧ (stage.early = true → before.early = true)
  /-- A FIFO that appears is one for a client that is being accepted. -/
  files : ∀ kind inode, next.files (fifoPath fifoDir kind pid) = some inode →
    state.files (fifoPath fifoDir kind pid) = some inode ∨
      ∃ before, state.server = .accept pid before ∧ before.early = true
  /-- It is known what the FIFOs were created for. -/
  origin : ∀ inode owner, state.origin inode = some owner → next.origin inode = some owner

/-- Then the answers stay as they are. -/
theorem Handshake.Answer.onward {process : ClientProcess}
    (answer : state.Answer fifoDir pid process) (onward : state.Onward fifoDir next pid)
    (real : pid ≠ 0) : next.Answer fifoDir pid process := by
  constructor
  case unasked =>
    intro early
    obtain ⟨nowhere, unanswered⟩ := answer.unasked early
    obtain ⟨unqueued, unaccepted⟩ := not_or.mp nowhere
    refine ⟨?_, unanswered⟩
    rintro (queued | ⟨stage, place⟩)
    · exact unqueued (onward.queued real queued)
    · rcases onward.accepting stage place with queued | ⟨before, there, -⟩
      · exact unqueued queued
      · exact unaccepted ⟨before, there⟩
  case done =>
    intro answered
    obtain ⟨unqueued, late⟩ := answer.done answered
    refine ⟨fun queued => unqueued (onward.queued real queued), fun stage place => ?_⟩
    rcases onward.accepting stage place with queued | ⟨before, there, early⟩
    · exact absurd queued unqueued
    · refine Bool.eq_false_iff.mpr fun stays => ?_
      rw [late before there] at early
      exact Bool.false_ne_true (early stays)
  case once => exact answer.once
  case fifos =>
    intro answered
    obtain ⟨fifos, within, born, found⟩ := answer.fifos answered
    refine ⟨fifos, within, fun kind => onward.origin _ _ (born kind), fun kind inode there => ?_⟩
    rcases onward.files kind inode there with old | ⟨before, place, early⟩
    · exact found kind inode old
    · rw [(answer.done answered).2 before place] at early
      cases early

/-- All processes but those of one PID stay as they are. -/
theorem Handshake.Answers.others (answers : state.Answers fifoDir) (pid : Pid)
    (same : ∀ other process, other ≠ pid → next.processes other = some process →
      state.processes other = some process)
    (onward : ∀ other ≠ pid, state.Onward fifoDir next other)
    (answer : ∀ process, next.processes pid = some process →
      pid ≠ 0 ∧ next.Answer fifoDir pid process) : next.Answers fifoDir := by
  constructor
  · intro other process there
    by_cases here : other = pid
    · subst here
      exact (answer process there).1
    · exact answers.real other process (same other process here there)
  · intro other process there
    by_cases here : other = pid
    · subst here
      exact (answer process there).2
    · have before := same other process here there
      exact (answers.answer other process before).onward (onward other here)
        (answers.real other process before)

/-- All processes do. -/
theorem Handshake.Answers.onward (answers : state.Answers fifoDir)
    (same : next.processes = state.processes) (onward : ∀ pid, state.Onward fifoDir next pid) :
    next.Answers fifoDir := by
  refine answers.others 0 ?_ (fun pid _ => onward pid) ?_
  · intro other process _ there
    rwa [same] at there
  · intro process there
    rw [same] at there
    exact absurd rfl (answers.real 0 process there)

/-- The requests, the main loop and the directory are the same. -/
theorem onward_congr (usr1 : next.usr1 = state.usr1) (pending : next.pending = state.pending)
    (server : next.server = state.server) (files : next.files = state.files)
    (origin : next.origin = state.origin) : state.Onward fifoDir next pid where
  queued := by
    rw [Handshake.Queued, usr1, pending]
    exact fun _ => id
  accepting := by
    rw [server]
    exact fun stage place => .inr ⟨stage, place, id⟩
  files := by
    rw [files]
    exact fun _ _ => .inl
  origin := by
    rw [origin]
    exact fun _ _ => id

/-- A process goes on. -/
theorem Handshake.Answers.setProcess (answers : state.Answers fifoDir) {process : ClientProcess}
    (real : pid ≠ 0) (answer : state.Answer fifoDir pid process) :
    (state.setProcess pid (some process)).Answers fifoDir := by
  refine answers.others pid ?_ (fun other _ => onward_congr rfl rfl rfl rfl rfl) ?_
  · intro other after here there
    change Function.update state.processes pid (some process) other = _ at there
    rwa [Function.update_of_ne here] at there
  · intro after there
    change Function.update state.processes pid (some process) pid = _ at there
    rw [Function.update_self] at there
    cases there
    exact ⟨real, answer.unasked, answer.done, answer.once, answer.fifos⟩

/-- A process ends. -/
theorem Handshake.Answers.terminate (answers : state.Answers fifoDir) (pid : Pid)
    (place : ProcessPlace) : (state.terminate pid place).Answers fifoDir := by
  refine answers.others pid ?_ (fun other _ => onward_congr (terminate_usr1 _)
    (terminate_pending _) (terminate_server _) (terminate_files _)
    (terminate_origin _)) ?_
  · intro other process here there
    rwa [terminate_processes, Function.update_of_ne here] at there
  · intro process there
    rw [terminate_processes, Function.update_self] at there
    cases there

/-- A process whose request is nowhere is not answered. -/
theorem answer_of_unanswered {process : ClientProcess} (unanswered : process.answered = false)
    (unasked : process.place.unasked = true → ¬ state.Awaits pid) :
    state.Answer fifoDir pid process where
  unasked := fun early => ⟨unasked early, unanswered⟩
  done := fun answered => absurd answered (by simp [unanswered])
  once := by
    intro sent
    simp [ClientProcess.answered, sent] at unanswered
  fifos := fun answered => absurd answered (by simp [unanswered])

/-- A process that has begun to open its FIFOs was answered. -/
theorem answered_of_late {process : ClientProcess} (late : process.place.late = true) :
    process.answered = true := by
  simp [ClientProcess.answered, late]

/-- A process that has not has none. -/
theorem within_of_early {place : ProcessPlace} (early : place.late = false) (fifos : FifoPair) :
    place.Within fifos := by
  cases place <;> trivial

/-! ## The slot -/

/-- `sigusr1_handler`. -/
theorem pending_handler {before after : PendingClient}
    (handled : pendingMachine.step before (.handler pid) = some after) :
    after.slot = pid ∧ after.clientPid = before.clientPid := by
  obtain ⟨-, made⟩ := Option.ite_none_left_eq_some.mp handled
  cases made
  exact ⟨rfl, rfl⟩

/-- `server_take_pending_client` reads the slot. -/
theorem pending_read {before after : PendingClient}
    (taken : pendingMachine.step before .read = some after) :
    after.slot = before.slot ∧ after.clientPid = some before.slot := by
  simp only [pendingMachine] at taken
  split at taken
  · cases taken
    exact ⟨rfl, rfl⟩
  · cases taken

/-- It clears the slot. -/
theorem pending_clear {before after : PendingClient}
    (cleared : pendingMachine.step before .clear = some after) :
    after.slot = 0 ∧ after.clientPid = none := by
  obtain ⟨pid, -, made⟩ := Option.map_eq_some_iff.mp cleared
  cases made
  exact ⟨rfl, rfl⟩

/-- The requests stay where they are. -/
theorem Handshake.InLine.congr (inLine : state.InLine) (usr1 : next.usr1 = state.usr1)
    (pending : next.pending = state.pending) (server : next.server = state.server) :
    next.InLine := by
  constructor
  · rw [usr1, pending, server]
    exact inLine.signalled
  · rw [pending, server]
    exact inLine.slotted
  · rw [pending, server]
    exact inLine.taken

/-- The main loop goes on with the client that it deals with, or ends with it. -/
theorem Handshake.InLine.move (inLine : state.InLine) (usr1 : next.usr1 = state.usr1)
    (pending : next.pending = state.pending) (busy : state.server ≠ .taking)
    (server : ∀ pid stage, next.server = .accept pid stage →
      ∃ before, state.server = .accept pid before) : next.InLine := by
  constructor
  · intro pid sent
    rw [usr1] at sent
    obtain ⟨real, slot, read, nowhere⟩ := inLine.signalled pid sent
    rw [pending]
    refine ⟨real, slot, read, fun stage place => ?_⟩
    obtain ⟨before, there⟩ := server pid stage place
    exact nowhere before there
  · intro pid slot real stage place
    rw [pending] at slot
    obtain ⟨before, there⟩ := server pid stage place
    exact inLine.slotted pid slot real before there
  · intro pid read
    rw [pending] at read
    exact absurd (inLine.taken pid read) busy

/-- Every step keeps the requests in line. -/
theorem HandshakeStep.inLine (inLine : state.InLine) (answers : state.Answers fifoDir)
    {label : HandshakeLabel} (step : HandshakeStep fifoDir state label next) : next.InLine := by
  cases step with
  | gaveUp there why | exited there | killed there sent =>
    exact inLine.congr (terminate_usr1 _) (terminate_pending _) (terminate_server _)
  | request there place =>
    rename_i pid process
    obtain ⟨nowhere, -⟩ := (answers.answer pid process there).unasked (by rw [place]; rfl)
    obtain ⟨unqueued, unaccepted⟩ := not_or.mp nowhere
    refine ⟨fun other sent => ?_, inLine.slotted, inLine.taken⟩
    cases pending : state.usr1 with
    | some first =>
      refine inLine.signalled other ?_
      rw [pending]
      simpa [Handshake.setProcess, pending] using sent
    | none =>
      obtain rfl : pid = other := by simpa [Handshake.setProcess, pending] using sent
      exact ⟨answers.real pid process there, fun slot => unqueued (.inr (.inl slot)),
        fun read => unqueued (.inr (.inr read)), fun stage at_ => unaccepted ⟨stage, at_⟩⟩
  | record sent handled =>
    rename_i sender pending
    obtain ⟨slot, read⟩ := pending_handler handled
    obtain ⟨-, -, -, nowhere⟩ := inLine.signalled sender sent
    refine ⟨?_, fun pid same _ => ?_, fun pid there => ?_⟩
    · rintro pid ⟨⟩
    · obtain rfl : sender = pid := slot.symm.trans same
      exact nowhere
    · exact inLine.taken pid (read.symm.trans there)
  | interrupt sent handled place waits =>
    rename_i sender pid pending fifos ticket
    obtain ⟨-, read⟩ := pending_handler handled
    refine ⟨?_, fun pid _ _ => ?_, fun pid there => ?_⟩
    · rintro pid ⟨⟩
    · rintro stage ⟨⟩
    · have taking := inLine.taken pid (read.symm.trans there)
      rw [place] at taking
      cases taking
  | read place taken =>
    obtain ⟨slot, read⟩ := pending_read taken
    refine ⟨fun pid sent => ?_, fun pid _ _ => ?_, fun pid _ => rfl⟩
    · obtain ⟨real, other, -, -⟩ := inLine.signalled pid sent
      refine ⟨real, fun same => other (slot.symm.trans same), fun same => ?_, ?_⟩
      · exact other (Option.some.inj (read.symm.trans same))
      · rintro stage ⟨⟩
    · rintro stage ⟨⟩
  | decline place taken cleared =>
    obtain ⟨slot, read⟩ := pending_clear cleared
    refine ⟨fun pid sent => ?_, fun pid _ _ => ?_, fun pid there => ?_⟩
    · obtain ⟨real, -⟩ := inLine.signalled pid sent
      refine ⟨real, fun same => real (same.symm.trans slot), ?_, ?_⟩
      · rw [read]
        rintro ⟨⟩
      · rintro stage ⟨⟩
    · rintro stage ⟨⟩
    · rw [read] at there
      cases there
  | accept place taken cleared real new =>
    rename_i ok pending accepted
    obtain ⟨slot, read⟩ := pending_clear cleared
    refine ⟨fun pid sent => ?_, fun pid same real => ?_, fun pid there => ?_⟩
    · obtain ⟨real, -, other, -⟩ := inLine.signalled pid sent
      refine ⟨real, fun same => real (same.symm.trans slot), ?_, ?_⟩
      · rw [read]
        rintro ⟨⟩
      · rintro stage ⟨⟩
        exact other taken
    · exact absurd (same.symm.trans slot) real
    · rw [read] at there
      cases there
  | unlinkOld place =>
    rename_i ok pid kind
    refine inLine.move ?_ ?_ (by simp [place]) ?_
    · rw [unlink_other]
      rfl
    · rw [unlink_other]
      rfl
    · rintro other stage ⟨⟩
      exact ⟨_, place⟩
  | unmake place =>
    refine inLine.move ?_ ?_ (by simp [place]) ?_
    · rw [unlink_other]
      rfl
    · rw [unlink_other]
      rfl
    · rintro other stage ⟨⟩
  | unlink place =>
    rename_i ok pid kind
    refine inLine.move ?_ ?_ (by simp [place]) ?_
    · rw [unlink_other]
      rfl
    · rw [unlink_other]
      rfl
    · cases kind <;> rintro other stage ⟨⟩
  | unmade place =>
    rename_i ok pid kind
    refine inLine.move rfl rfl (by simp [place]) ?_
    cases kind with
    | c2s => rintro other stage ⟨⟩
    | s2c =>
      rintro other stage ⟨⟩
      exact ⟨_, place⟩
  | closeC2s place =>
    rename_i ok pid c2s s2c
    refine inLine.move rfl rfl (by simp [place]) ?_
    rintro other stage ⟨⟩
  | tooLong place | unsignalled place | unopened place failed | unopenedS2c place failed
  | register place | unregistered place | closeS2c place | drop place connected =>
    refine inLine.move rfl rfl (by simp [place]) ?_
    rintro other stage ⟨⟩
  | paths place named | make place free | signal place there | openReading place found
  | openWriting place found | enter place returned =>
    refine inLine.move rfl rfl (by simp [place]) ?_
    rintro other stage ⟨⟩
    exact ⟨_, place⟩
  | _ => exact inLine.congr rfl rfl rfl

/-! ## The answers -/

/-- The main loop goes on with the client that it deals with, or ends with it. -/
theorem onward_move (usr1 : next.usr1 = state.usr1) (pending : next.pending = state.pending)
    (accepting : ∀ pid stage, next.server = .accept pid stage →
      ∃ before, state.server = .accept pid before ∧ (stage.early = true → before.early = true))
    (files : ∀ path inode, next.files path = some inode → state.files path = some inode)
    (origin : next.origin = state.origin) : state.Onward fifoDir next pid where
  queued := by
    rw [Handshake.Queued, usr1, pending]
    exact fun _ => id
  accepting := fun stage place => .inr (accepting pid stage place)
  files := fun _ _ there => .inl (files _ _ there)
  origin := by
    rw [origin]
    exact fun _ _ => id

/-- An `unlink` brings no file. -/
theorem unlink_fewer (path : Bytes) (ok : Bool) (other : Bytes) (inode : Inode)
    (there : (state.unlink path ok).files other = some inode) : state.files other = some inode := by
  rw [unlink_files] at there
  exact (Option.ite_none_left_eq_some.mp there).2

/-- A process that has begun to open its FIFOs goes on with those that were created for it. -/
theorem Handshake.Answer.opens {process : ClientProcess} {place : ProcessPlace}
    (answer : state.Answer fifoDir pid process) (late : process.place.late = true)
    (asked : place.unasked = false) (within : ∀ fifos, state.Offers fifoDir pid fifos →
      process.place.Within fifos → place.Within fifos) :
    state.Answer fifoDir pid { process with place } where
  unasked := fun early => absurd early (by simp [asked])
  done := fun _ => answer.done (answered_of_late late)
  once := fun sent => absurd ((answer.once sent).2.symm.trans late) Bool.false_ne_true
  fifos := by
    intro _
    obtain ⟨fifos, inside, offers⟩ := answer.fifos (answered_of_late late)
    exact ⟨fifos, within fifos offers inside, offers⟩

/-- A process that has not asked yet goes on and is not answered. -/
theorem Handshake.Answer.unanswered {process : ClientProcess} {place : ProcessPlace}
    (answer : state.Answer fifoDir pid process) (unasked : process.place.unasked = true)
    (early : place.late = false) : ClientProcess.answered { process with place } = false := by
  have before := (answer.unasked unasked).2
  simp only [ClientProcess.answered, Bool.or_eq_false_iff] at before ⊢
  exact ⟨before.1, early⟩

/-- The process sends its request. -/
theorem Handshake.Answers.request (answers : state.Answers fifoDir) {process : ClientProcess}
    (there : state.processes pid = some process) (place : process.place = .requesting) :
    (Handshake.setProcess { state with usr1 := some (state.usr1.getD pid) } pid
      (some { process with place := .waiting 0 })).Answers fifoDir := by
  have answer := answers.answer pid process there
  refine answers.others pid ?_ ?_ ?_
  · intro other after here found
    change Function.update state.processes pid _ other = _ at found
    rwa [Function.update_of_ne here] at found
  · intro other here
    refine ⟨fun real queued => ?_, fun stage at_ => .inr ⟨stage, at_, id⟩, fun _ _ => .inl,
      fun _ _ => id⟩
    refine queued.imp_left fun sent => ?_
    change some (state.usr1.getD pid) = some other at sent
    cases first : state.usr1 with
    | none =>
      rw [first] at sent
      exact absurd (Option.some.inj sent).symm here
    | some sender =>
      rw [first] at sent
      exact sent
  · intro after found
    change Function.update state.processes pid _ pid = _ at found
    rw [Function.update_self] at found
    cases found
    refine ⟨answers.real pid process there,
      answer_of_unanswered (answer.unanswered (by rw [place]; rfl) rfl) ?_⟩
    rintro ⟨⟩

/-- The process looks at its flag. -/
theorem Handshake.Answer.look {process : ClientProcess} {checks : Nat}
    (answer : state.Answer fifoDir pid process) (place : process.place = .waiting checks) :
    state.Answer fifoDir pid { process with
      place := if process.sigusr2Received then .openC2s else .waiting (checks + 1) } := by
  by_cases received : process.sigusr2Received = true
  · rw [if_pos received]
    have answered : process.answered = true := by simp [ClientProcess.answered, received]
    obtain ⟨fifos, -, found⟩ := answer.fifos answered
    refine ⟨?_, fun _ => answer.done answered, fun sent => ?_, fun _ => ⟨fifos, trivial, found⟩⟩
    · rintro ⟨⟩
    · have missing := (answer.once sent).1
      rw [received] at missing
      cases missing
  · rw [if_neg received]
    have same : ClientProcess.answered { process with place := .waiting (checks + 1) } =
        process.answered := by
      simp [ClientProcess.answered, place, ProcessPlace.late]
    refine ⟨?_, fun after => answer.done (same ▸ after),
      fun sent => ⟨(answer.once sent).1, rfl⟩, fun after => ?_⟩
    · rintro ⟨⟩
    · obtain ⟨fifos, -, found⟩ := answer.fifos (same ▸ after)
      exact ⟨fifos, trivial, found⟩

/-- `SIGUSR2` is delivered to the process. -/
theorem Handshake.Answer.notice {process : ClientProcess}
    (answer : state.Answer fifoDir pid process) (sent : process.usr2 = true) :
    state.Answer fifoDir pid { process with usr2 := false, sigusr2Received := true } := by
  have answered : process.answered = true := by simp [ClientProcess.answered, sent]
  obtain ⟨fifos, within, files⟩ := answer.fifos answered
  refine ⟨fun early => ?_, fun _ => answer.done answered, ?_, fun _ => ⟨fifos, within, files⟩⟩
  · rw [(answer.unasked early).2] at answered
    cases answered
  · rintro ⟨⟩

/-- A client that is being accepted has no other request. -/
theorem Handshake.InLine.unqueued (inLine : state.InLine) {stage : AcceptStage}
    (place : state.server = .accept pid stage) (real : pid ≠ 0) : ¬ state.Queued pid := by
  rintro (sent | slot | read)
  · exact (inLine.signalled pid sent).2.2.2 _ place
  · exact inLine.slotted pid slot real _ place
  · have taking := inLine.taken pid read
    rw [place] at taking
    cases taking

/-- The server signals the client that its FIFOs are there. -/
theorem Handshake.Answers.signal (answers : state.Answers fifoDir) (sorted : state.Sorted fifoDir)
    (inLine : state.InLine) {process : ClientProcess} (place : state.server = .accept pid .signal)
    (there : state.processes pid = some process) :
    ((state.setProcess pid (some { process with usr2 := true })).goTo
      (.accept pid .openC2s)).Answers fifoDir := by
  have fits := sorted.fits
  rw [place] at fits
  obtain ⟨new, created, has⟩ := fits
  have answer := answers.answer pid process there
  have unanswered : process.answered = false := by
    refine Bool.eq_false_iff.mpr fun answered => ?_
    have late := (answer.done answered).2 _ place
    cases late
  obtain ⟨⟨-, missing⟩, early⟩ : (process.usr2 = false ∧ process.sigusr2Received = false) ∧
      process.place.late = false := by
    simpa [ClientProcess.answered] using unanswered
  have real := answers.real pid process there
  refine answers.others pid ?_ ?_ ?_
  · intro other after here found
    change Function.update state.processes pid _ other = _ at found
    rwa [Function.update_of_ne here] at found
  · intro other here
    refine onward_move rfl rfl ?_ (fun _ _ => id) rfl
    rintro accepted stage ⟨⟩
    exact ⟨_, place, fun _ => rfl⟩
  · intro after found
    change Function.update state.processes pid _ pid = _ at found
    rw [Function.update_self] at found
    cases found
    refine ⟨real, fun start => ?_, fun _ => ⟨inLine.unqueued place real, ?_⟩,
      fun _ => ⟨missing, early⟩, fun _ => ⟨created, within_of_early early created, ?_⟩⟩
    · exact absurd (.inr ⟨_, place⟩) (answer.unasked start).1
    · rintro stage ⟨⟩
      rfl
    · refine ⟨fun kind => (has kind).2, fun kind inode file => ?_⟩
      exact Option.some.inj (file.symm.trans (has kind).1)

/-- The PID in the slot was that of the signal. -/
theorem queued_of_handled {sender : Pid} (sent : state.usr1 = some sender)
    (usr1 : next.usr1 = none) (slot : next.pending.slot = sender)
    (read : next.pending.clientPid = state.pending.clientPid) (queued : next.Queued pid) :
    state.Queued pid := by
  rcases queued with signalled | same | taken
  · cases usr1.symm.trans signalled
  · exact .inl (sent.trans (congrArg some (slot.symm.trans same)))
  · exact .inr (.inr (read.symm.trans taken))

/-- The PID that was read was that in the slot. -/
theorem queued_of_read (usr1 : next.usr1 = state.usr1)
    (slot : next.pending.slot = state.pending.slot)
    (read : next.pending.clientPid = some state.pending.slot) (queued : next.Queued pid) :
    state.Queued pid := by
  rcases queued with sent | same | taken
  · exact .inl (usr1.symm.trans sent)
  · exact .inr (.inl (slot.symm.trans same))
  · exact .inr (.inl (Option.some.inj (read.symm.trans taken)))

/-- No PID is in a slot that was cleared. -/
theorem queued_of_cleared (usr1 : next.usr1 = state.usr1) (slot : next.pending.slot = 0)
    (read : next.pending.clientPid = none) (real : pid ≠ 0) (queued : next.Queued pid) :
    state.Queued pid := by
  rcases queued with sent | same | taken
  · exact .inl (usr1.symm.trans sent)
  · exact absurd (same.symm.trans slot) real
  · cases read.symm.trans taken

/-- The main loop goes on with the client that it deals with, or ends with it. -/
theorem Handshake.Answers.goTo (answers : state.Answers fifoDir) (path : Bytes) (ok : Bool)
    {place : ServerPlace} (accepting : ∀ pid stage, place = .accept pid stage →
      ∃ before, state.server = .accept pid before ∧ (stage.early = true → before.early = true)) :
    ((state.unlink path ok).goTo place).Answers fifoDir := by
  refine answers.onward ?_ fun pid => onward_move ?_ ?_ accepting
    (fun other inode there => unlink_fewer path ok other inode there) ?_
  all_goals
    rw [unlink_other]
    rfl

/-- A FIFO is created for the client that is being accepted. -/
theorem Handshake.Answers.make (answers : state.Answers fifoDir) (sorted : state.Sorted fifoDir)
    {kind : FifoKind} (place : state.server = .accept pid (.make kind)) :
    ((state.mkfifo (fifoPath fifoDir kind pid) pid kind).goTo
      (.accept pid (.afterMake kind))).Answers fifoDir := by
  refine answers.onward rfl fun other => ⟨fun _ => id, ?_, fun sort inode there => ?_,
    fun inode owner born => ?_⟩
  · rintro stage ⟨⟩
    exact .inr ⟨_, place, fun _ => rfl⟩
  · change Function.update state.files _ _ _ = _ at there
    by_cases here : fifoPath fifoDir sort other = fifoPath fifoDir kind pid
    · obtain ⟨rfl, rfl⟩ := fifoPath_injective here
      exact .inr ⟨_, place, rfl⟩
    · rw [Function.update_of_ne here] at there
      exact .inl there
  · change Function.update state.origin state.made _ inode = _
    rwa [Function.update_of_ne (Nat.ne_of_lt (sorted.created inode owner born))]

/-- Every step answers the processes right, if no PID is given away too early. -/
theorem HandshakeStep.answers (sorted : state.Sorted fifoDir) (inLine : state.InLine)
    (answers : state.Answers fifoDir) {label : HandshakeLabel} (fresh : state.Fresh label)
    (step : HandshakeStep fifoDir state label next) : next.Answers fifoDir := by
  cases step with
  | start real new => exact answers.setProcess real (answer_of_unanswered rfl fun _ => fresh _ rfl)
  | install there place =>
    have unasked := congrArg ProcessPlace.unasked place
    have answer := answers.answer _ _ there
    exact answers.setProcess (answers.real _ _ there)
      (answer_of_unanswered (answer.unanswered unasked rfl) fun _ => (answer.unasked unasked).1)
  | request there place => exact answers.request there place
  | look there place patient =>
    exact answers.setProcess (answers.real _ _ there) ((answers.answer _ _ there).look place)
  | gaveUp there why | exited there | killed there sent => exact answers.terminate _ _
  | openC2s there place found =>
    rename_i pid process c2s
    have opened : (state.openFifo c2s .writing (.client pid)).Answers fifoDir :=
      answers.onward rfl fun _ => onward_congr rfl rfl rfl rfl rfl
    refine opened.setProcess (answers.real pid process there)
      ((opened.answer pid process there).opens (by rw [place]; rfl) rfl fun fifos offers _ => ?_)
    exact offers.2 .c2s c2s found
  | enterC2s there place returned =>
    refine answers.setProcess (answers.real _ _ there)
      ((answers.answer _ _ there).opens (by rw [place]; rfl) rfl fun fifos _ within => ?_)
    rw [place] at within
    exact within
  | openS2c there place found =>
    rename_i pid process c2s s2c
    have opened : (state.openFifo s2c .reading (.client pid)).Answers fifoDir :=
      answers.onward rfl fun _ => onward_congr rfl rfl rfl rfl rfl
    refine opened.setProcess (answers.real pid process there)
      ((opened.answer pid process there).opens (by rw [place]; rfl) rfl fun fifos offers within => ?_)
    rw [place] at within
    have second : s2c = fifos.s2c := offers.2 .s2c s2c found
    cases within
    rw [second]
    rfl
  | enterS2c there place returned =>
    refine answers.setProcess (answers.real _ _ there)
      ((answers.answer _ _ there).opens (by rw [place]; rfl) rfl fun fifos _ within => ?_)
    rw [place] at within
    exact within
  | notice there sent place =>
    exact answers.setProcess (answers.real _ _ there) ((answers.answer _ _ there).notice sent)
  | signal place there => exact answers.signal sorted inLine place there
  | record sent handled =>
    obtain ⟨slot, read⟩ := pending_handler handled
    exact answers.onward rfl fun pid => ⟨fun _ => queued_of_handled sent rfl slot read,
      fun stage at_ => .inr ⟨stage, at_, id⟩, fun _ _ => .inl, fun _ _ => id⟩
  | interrupt sent handled place waits =>
    obtain ⟨slot, read⟩ := pending_handler handled
    refine answers.onward rfl fun pid => ⟨fun _ => queued_of_handled sent rfl slot read, ?_,
      fun _ _ => .inl, fun _ _ => id⟩
    rintro stage ⟨⟩
  | read place taken =>
    obtain ⟨slot, read⟩ := pending_read taken
    refine answers.onward rfl fun pid => ⟨fun _ => queued_of_read rfl slot read, ?_,
      fun _ _ => .inl, fun _ _ => id⟩
    rintro stage ⟨⟩
  | decline place taken cleared =>
    obtain ⟨slot, read⟩ := pending_clear cleared
    refine answers.onward rfl fun pid => ⟨queued_of_cleared rfl slot read, ?_,
      fun _ _ => .inl, fun _ _ => id⟩
    rintro stage ⟨⟩
  | accept place taken cleared _ new =>
    obtain ⟨slot, read⟩ := pending_clear cleared
    refine answers.onward rfl fun pid => ⟨queued_of_cleared rfl slot read, ?_,
      fun _ _ => .inl, fun _ _ => id⟩
    rintro stage ⟨⟩
    exact .inl (.inr (.inr taken))
  | make place free => exact answers.make sorted place
  | unlinkOld place =>
    refine answers.goTo _ _ ?_
    rintro other stage ⟨⟩
    exact ⟨_, place, fun _ => rfl⟩
  | unmake place =>
    refine answers.goTo _ _ ?_
    rintro other stage ⟨⟩
  | unlink place =>
    rename_i ok accepted kind
    refine answers.goTo _ _ ?_
    cases kind <;> rintro other stage ⟨⟩
  | unmade place =>
    rename_i ok accepted kind
    refine answers.onward rfl fun _ => onward_move rfl rfl ?_ (fun _ _ => id) rfl
    cases kind with
    | c2s => rintro other stage ⟨⟩
    | s2c =>
      rintro other stage ⟨⟩
      exact ⟨_, place, fun _ => rfl⟩
  | closeC2s place | tooLong place | unsignalled place | unopened place failed
  | unopenedS2c place failed | register place | unregistered place | closeS2c place
  | drop place connected =>
    refine answers.onward rfl fun _ => onward_move rfl rfl ?_ (fun _ _ => id) rfl
    rintro other stage ⟨⟩
  | paths place named =>
    refine answers.onward rfl fun _ => onward_move rfl rfl ?_ (fun _ _ => id) rfl
    rintro other stage ⟨⟩
    exact ⟨_, place, fun _ => rfl⟩
  | openReading place found | openWriting place found | enter place returned =>
    refine answers.onward rfl fun _ => onward_move rfl rfl ?_ (fun _ _ => id) rfl
    rintro other stage ⟨⟩
    exact ⟨_, place, fun early => absurd early Bool.false_ne_true⟩

/-! ## Pairs -/

/-- What holds in the runs in which no PID is given away too early. -/
structure Handshake.Faithful (fifoDir : Option Bytes) (state : Handshake) : Prop where
  sound : state.Sound fifoDir
  inLine : state.InLine
  answers : state.Answers fifoDir

/-- One step of them. -/
theorem HandshakeStep.faithful (faithful : state.Faithful fifoDir) {label : HandshakeLabel}
    (fresh : state.Fresh label) (step : HandshakeStep fifoDir state label next) :
    next.Faithful fifoDir where
  sound := step.sound faithful.sound
  inLine := step.inLine faithful.inLine faithful.answers
  answers := step.answers faithful.sound.sorted faithful.inLine faithful.answers fresh

/-- The start. -/
theorem faithful_begin {files : Bytes → Option Inode} {made : Nat}
    (stale : ∀ path inode, files path = some inode → inode < made) :
    (Handshake.begin files made).Faithful fifoDir where
  sound := sound_begin stale
  inLine := by
    constructor
    · rintro pid ⟨⟩
    · rintro pid - - stage ⟨⟩
    · rintro pid ⟨⟩
  answers := by
    constructor
    · rintro pid process ⟨⟩
    · rintro pid process ⟨⟩

/-- And a whole run. -/
theorem handshakeMachine_faithful {files : Bytes → Option Inode} {made : Nat}
    {labels : List HandshakeLabel} (stale : ∀ path inode, files path = some inode → inode < made)
    (ran : (handshakeMachine fifoDir).run (.begin files made) labels = some state)
    (fresh : (handshakeMachine fifoDir).EveryStep Handshake.Fresh (.begin files made) labels) :
    state.Faithful fifoDir := by
  refine (Machine.always_of_guarded (fun state label next faithful fresh stepped => ?_)
    (faithful_begin stale) fresh).last ran
  exact (handshakeMachine_step stepped).faithful faithful fresh

/-- The FIFOs of a connection, as the server or as the client has them. -/
def Handshake.Connected (state : Handshake) (pid : Pid) (fifos : FifoPair) : Prop :=
  state.held pid = some fifos ∨
    ∃ process, state.processes pid = some process ∧ process.place = .connected fifos

/-- They were created for this client. -/
theorem Handshake.Faithful.born (faithful : state.Faithful fifoDir) {fifos : FifoPair}
    (connected : state.Connected pid fifos) (kind : FifoKind) :
    state.origin (fifos.fifo kind) = some (pid, kind) := by
  rcases connected with held | ⟨process, there, place⟩
  · exact ((faithful.sound.sorted.held pid fifos held).2 kind).2
  · have answer := faithful.answers.answer pid process there
    obtain ⟨created, within, born, -⟩ :=
      answer.fifos (answered_of_late (by rw [place]; rfl))
    rw [place] at within
    cases within
    exact born kind

/-- As long as no new process gets a PID while the server has a request of that PID before it, the
server and the client of a connection have the same two FIFOs; only they have them open, the server
and processes of this PID each their own ends; and no FIFO serves two connections, or both ways. A
child that the server forks for `ffmpeg` is none of these parties. -/
theorem sides_share_fifos {files : Bytes → Option Inode} {made : Nat}
    {labels : List HandshakeLabel} (stale : ∀ path inode, files path = some inode → inode < made)
    (ran : (handshakeMachine fifoDir).run (.begin files made) labels = some state)
    (fresh : (handshakeMachine fifoDir).EveryStep Handshake.Fresh (.begin files made) labels) :
    (∀ pid fifos other, state.Connected pid fifos → state.Connected pid other → fifos = other) ∧
    (∀ pid fifos, state.Connected pid fifos → ∀ kind side,
      ∀ party ∈ (state.pipes (fifos.fifo kind)).holders side,
        party = if side = kind.serverEnd then .server else .client pid) ∧
    ∀ pid fifos other others, state.Connected pid fifos → state.Connected other others →
      ∀ kind sort, fifos.fifo kind = others.fifo sort → pid = other ∧ kind = sort := by
  have faithful := handshakeMachine_faithful stale ran fresh
  -- the client's FIFOs are those that it would find at its paths
  have held_connected : ∀ pid fifos other process, state.held pid = some fifos →
      state.processes pid = some process → process.place = .connected other → fifos = other := by
    intro pid fifos other process held there place
    have answer := faithful.answers.answer pid process there
    obtain ⟨created, within, -, found⟩ :=
      answer.fifos (answered_of_late (by rw [place]; rfl))
    rw [place] at within
    cases within
    have files := (faithful.sound.sorted.held pid fifos held).2
    exact fifoPair_ext fun kind => found kind _ (files kind).1
  refine ⟨?_, ?_, ?_⟩
  · rintro pid fifos other (held | ⟨process, there, place⟩) (also | ⟨second, here, at_⟩)
    · exact Option.some.inj (held.symm.trans also)
    · exact held_connected pid fifos other second held here at_
    · exact (held_connected pid other fifos process also there place).symm
    · cases Option.some.inj (there.symm.trans here)
      exact ProcessPlace.connected.inj (place.symm.trans at_)
  · intro pid fifos connected kind
    exact faithful.sound.closed.ends _ pid kind (faithful.born connected kind)
  · intro pid fifos other others connected also kind sort same
    have born := faithful.born connected kind
    rw [same, faithful.born also sort] at born
    cases Option.some.inj born
    exact ⟨rfl, rfl⟩

/-- The client goes on once it is signalled, and then the server does. -/
def answeredBy (pid : Pid) : List HandshakeLabel :=
  [.deliverUsr2 pid] ++ List.replicate 5 (.client pid) ++ List.replicate 2 (.server true)

/-- A client and the server have FIFOs that are the same. -/
theorem sides_share_fifos_seven : ∃ state fifos other,
    (handshakeMachine none).run (.begin (fun _ => none) 0) (askedFor 7 ++ answeredBy 7) =
      some state ∧ state.held 7 = some fifos ∧
      (state.processes 7).map ClientProcess.place = some (.connected other) ∧ fifos = other := by
  obtain ⟨state, ran, facts⟩ := Option.map_eq_some_iff.mp
    (by decide +kernel : ((handshakeMachine none).run (.begin (fun _ => none) 0)
      (askedFor 7 ++ answeredBy 7)).map (fun state => (state.held 7, state.processes 7)) =
        some (some ⟨0, 1⟩, some ⟨.connected ⟨0, 1⟩, false, true⟩))
  obtain ⟨held, there⟩ := Prod.mk.inj facts
  have stale : ∀ path inode, (fun _ => none : Bytes → Option Inode) path = some inode →
      inode < 0 := by
    rintro path inode ⟨⟩
  have fresh : (handshakeMachine none).EveryStep Handshake.Fresh (.begin (fun _ => none) 0)
      (askedFor 7 ++ answeredBy 7) := by
    refine fun next taken => ⟨?_, Machine.everyStep_of_labels fun label member state => ?_⟩
    · rintro pid ⟨⟩
      rintro ((⟨⟨⟩⟩ | ⟨⟨⟩⟩ | ⟨⟨⟩⟩) | ⟨stage, ⟨⟩⟩)
    · rintro pid rfl
      simp [answeredBy] at member
  obtain ⟨same, -⟩ := sides_share_fifos stale ran fresh
  refine ⟨state, _, _, ran, held, by rw [there]; rfl,
    same 7 ⟨0, 1⟩ ⟨0, 1⟩ (.inl held) (.inr ⟨_, there, rfl⟩)⟩

end AnimateService
