import AnimateService.Exchanges

/-!
# From bytes to requests

What a client wrote is on its way to its requests in the bytes that the main loop has read behind
the last line and in the lines that it has not submitted. `LineChange` is all that a step of the
server does to them.
-/
namespace AnimateService

open Transition

/-- The lines that the main loop has cut for a client and not submitted. -/
def MainPc.toSubmit (client : ClientId) : MainPc → List Bytes
  | .submitting other lines _ => if other = client then lines else []
  | _ => []

/-- They are what `process_buffered_lines` loops over. -/
def ServerState.toSubmit (state : ServerState) (client : ClientId) : List Bytes :=
  state.main.toSubmit client

/-- `read_buffer` of a client. -/
def ServerState.readBuffer (state : ServerState) (client : ClientId) : Bytes :=
  ((state.connections client).map Connection.readBuffer).getD []

/-- One line, with its newline, that fits the buffers of both sides. -/
def IsLine (line : Bytes) : Prop :=
  ∃ body, line = body ++ [10] ∧ 10 ∉ body ∧ line.length < clientReadBuffer

/-! ## How the server cuts a line -/

section
variable {body text : Bytes}

/-- Bytes without a newline stay a part of a line. -/
theorem cutLines_text (line : Bytes) (plain : 10 ∉ text) : cutLines line text = ([], line ++ text) := by
  induction text generalizing line with
  | nil => rw [cutLines, List.append_nil]
  | cons byte text ih =>
    rw [List.mem_cons, not_or] at plain
    rw [cutLines, if_neg (Ne.symm plain.1), ih _ plain.2, List.append_assoc, List.singleton_append]

/-- A newline behind them ends the line. -/
theorem cutLines_line (line : Bytes) (plain : 10 ∉ body) :
    cutLines line (body ++ [10]) = ([line ++ body ++ [10]], []) := by
  induction body generalizing line with
  | nil => simp [cutLines]
  | cons byte body ih =>
    rw [List.mem_cons, not_or] at plain
    rw [List.cons_append, cutLines, if_neg (Ne.symm plain.1), ih _ plain.2]
    simp

/-- Of a line that has arrived in part, nothing is submitted. -/
theorem processBufferedLines_text (plain : 10 ∉ text) (short : text.length < clientReadBuffer) :
    processBufferedLines text = ([], text) := by
  simp only [processBufferedLines, cutLines_text [] plain, List.nil_append,
    if_neg (Nat.ne_of_lt short)]

/-- A line that has arrived whole is submitted. -/
theorem processBufferedLines_line (plain : 10 ∉ body) :
    processBufferedLines (body ++ [10]) = ([body ++ [10]], []) := by
  have empty : ([] : Bytes).length ≠ clientReadBuffer := by decide
  simp only [processBufferedLines, cutLines_line [] plain, List.nil_append, if_neg empty]

/-- The front of a line is a part of it or all of it. -/
theorem processBufferedLines_front {line front rest : Bytes} (whole : IsLine line)
    (split_ : line = front ++ rest) :
    processBufferedLines front = if rest = [] then ([line], []) else ([], front) := by
  obtain ⟨body, rfl, plain, short⟩ := whole
  split
  · rename_i none
    subst none
    rw [List.append_nil] at split_
    rw [← split_, processBufferedLines_line plain]
  · rename_i some_
    obtain ⟨back, last, rfl⟩ : ∃ back last, rest = back ++ [last] :=
      ⟨rest.dropLast, rest.getLast some_, (List.dropLast_concat_getLast some_).symm⟩
    rw [← List.append_assoc] at split_
    obtain ⟨rfl, -⟩ := List.append_inj' split_ rfl
    refine processBufferedLines_text (fun inside => plain (List.mem_append_left _ inside)) ?_
    refine lt_of_le_of_lt ?_ short
    rw [List.length_append, List.length_append]
    omega

end

/-! ## Where lines and bytes are -/

variable {auth : AuthDb} {deadly : Bool} {workerCount : Nat} {state next : ServerState}
  {label : ServerLabel} {client : ClientId}

/-- The lines that are left are those to submit. -/
@[simp] theorem toSubmit_submit (lines : List Bytes) (rest : List ClientId) :
    (MainPc.submit client lines rest).toSubmit client = lines := by
  unfold MainPc.submit
  split
  · rename_i none
    rw [none]
    rfl
  · exact if_pos rfl

/-- They are the lines of one client. -/
theorem toSubmit_submit_ne {other : ClientId} (apart : other ≠ client) (lines : List Bytes)
    (rest : List ClientId) : (MainPc.submit other lines rest).toSubmit client = [] := by
  unfold MainPc.submit
  split
  · rfl
  · exact if_neg apart

/-- Behind `close_client` there are none. -/
@[simp] theorem toSubmit_resume (caller : Caller) : caller.resume.toSubmit client = [] := by
  cases caller <;> rfl

/-- A visit has none. -/
@[simp] theorem toSubmit_visit (now : Nat) (visited : ClientId) (rest : List ClientId)
    (found : Bool) : (state.visit now visited rest found).toSubmit client = [] := by
  unfold ServerState.visit
  dsimp only
  split
  · rfl
  · split <;> rfl

/-- The buffer is as it was, whatever else is written to the record of a client. -/
theorem readBuffer_updateConnection {changed : ClientId} {write : Connection → Connection}
    (kept : changed = client → ∀ connection, (write connection).readBuffer = connection.readBuffer) :
    (state.updateConnection changed write).readBuffer client = state.readBuffer client := by
  simp only [ServerState.readBuffer, ServerState.updateConnection]
  by_cases here : client = changed
  · subst here
    rw [Function.update_self, Option.map_map]
    exact congrArg (fun buffer => Option.getD (Option.map buffer (state.connections client)) [])
      (funext fun connection => kept rfl connection)
  · rw [Function.update_of_ne here]

/-- The buffer that is written. -/
theorem readBuffer_updateConnection_self {connection : Connection} {buffer : Bytes}
    (present : state.connections client = some connection) :
    (state.updateConnection client fun connection =>
      { connection with readBuffer := buffer }).readBuffer client = buffer := by
  simp [ServerState.readBuffer, ServerState.updateConnection, present]

/-- A worker's step does not read. -/
theorem heard_readBuffer (label : WorkersLabel) :
    ((state.heard label client).map Connection.readBuffer).getD [] = state.readBuffer client := by
  unfold ServerState.heard ServerState.readBuffer
  split
  · rw [Option.map_map]
    rfl
  · rfl

/-! ## Steps -/

/-- What a step of the server does to the lines and bytes of a client that are on their way. -/
inductive LineChange (auth : AuthDb) (deadly : Bool) (workerCount : Nat) (client : ClientId)
    (state : ServerState) (label : ServerLabel) (next : ServerState) : Prop where
  /-- Nothing; it reads from another client at most. -/
  | kept (toSubmit : next.toSubmit client = state.toSubmit client)
      (readBuffer : next.readBuffer client = state.readBuffer client)
      (submitted : next.workers.submitted client = state.workers.submitted client)
      (apart : ∀ chunk rest, label = .main (.read (.data chunk)) →
        state.main = .reading client rest → state.workers.isDisconnected client = true)
  /-- It reads bytes and cuts them into lines. -/
  | received {chunk : Bytes} {rest : List ClientId} (called : label = .main (.read (.data chunk)))
      (place : state.main = .reading client rest)
      (connected : state.workers.isDisconnected client = false)
      (workers : next.workers = state.workers)
      (toSubmit : next.toSubmit client =
        (processBufferedLines (state.readBuffer client ++ chunk)).1)
      (readBuffer : next.readBuffer client =
        (processBufferedLines (state.readBuffer client ++ chunk)).2)
  /-- It submits a line. -/
  | submitted {line : Bytes} {lines : List Bytes} {memory : Bool}
      (called : label = .main (.submit memory)) (front : state.toSubmit client = line :: lines)
      (step : WorkersStep auth deadly workerCount state.workers (.submit client line memory)
        next.workers)
      (toSubmit : next.toSubmit client = lines)
      (readBuffer : next.readBuffer client = state.readBuffer client)

/-- The lines of a client grow at no step that submits none. -/
theorem WorkersStep.submitted_kept {before after : WorkersState} {label : WorkersLabel}
    (step : WorkersStep auth deadly workerCount before label after)
    (other : ∀ line memory, label ≠ .submit client line memory) :
    after.submitted client = before.submitted client := by
  by_contra grown
  obtain ⟨⟨line, memory, called⟩, -⟩ := step.grows grown
  exact other line memory called

/-- A step that only moves the main loop. -/
theorem lineChange_move {main : MainPc} (before : state.toSubmit client = [])
    (after : main.toSubmit client = [])
    (apart : ∀ chunk rest, label = .main (.read (.data chunk)) →
      state.main = .reading client rest → state.workers.isDisconnected client = true) :
    LineChange auth deadly workerCount client state label { state with main } :=
  .kept (after.trans before.symm) rfl rfl apart

/-- A pass of the loop of `read_client_requests`. -/
theorem read_lineChange {other : ClientId} {rest : List ClientId} {result : ReadResult}
    (place : state.main = .reading other rest)
    (read : state.read other rest result = some next) :
    LineChange auth deadly workerCount client state (.main (.read result)) next := by
  have before : state.toSubmit client = [] := by rw [ServerState.toSubmit, place]; rfl
  unfold ServerState.read at read
  split at read
  · rename_i gone
    cases read
    refine lineChange_move before rfl fun chunk same called there => ?_
    obtain ⟨rfl, -⟩ := MainPc.reading.inj (place.symm.trans there)
    exact gone
  · rename_i connected
    cases result with
    | data chunk =>
      obtain ⟨connection, present, cut⟩ := Option.bind_eq_some_iff.mp read
      dsimp only at cut
      split at cut
      · cases cut
        by_cases here : other = client
        · subst here
          have buffer : state.readBuffer other = connection.readBuffer := by
            simp [ServerState.readBuffer, present]
          refine .received rfl place (by simpa using connected) rfl ?_ ?_
          · rw [buffer]
            exact toSubmit_submit _ _
          · rw [buffer]
            exact readBuffer_updateConnection_self present
        · refine .kept ((toSubmit_submit_ne here _ _).trans before.symm)
            (readBuffer_updateConnection fun same => absurd same here) rfl
            fun chunk same called there => ?_
          exact absurd (MainPc.reading.inj (place.symm.trans there)).1 here
      · cases cut
    | ended =>
      dsimp only at read
      split at read
      · cases read
        exact lineChange_move before rfl fun _ _ called => by cases called
      · cases read
    | interrupted =>
      cases read
      exact .kept rfl rfl rfl fun _ _ called => by cases called
    | empty =>
      cases read
      exact lineChange_move before rfl fun _ _ called => by cases called
    | failed =>
      cases read
      exact lineChange_move before rfl fun _ _ called => by cases called

/-- A step of `close_client`. -/
theorem close_lineChange {other : ClientId} {caller : Caller} {stage : CloseStage}
    (place : state.main = .closing other stage caller)
    (closed : state.close auth deadly workerCount other caller stage = some next) :
    LineChange auth deadly workerCount client state (.main .close) next := by
  have before : state.toSubmit client = [] := by rw [ServerState.toSubmit, place]; rfl
  have apart : ∀ chunk rest, ServerLabel.main .close = .main (.read (.data chunk)) →
      state.main = .reading client rest → state.workers.isDisconnected client = true :=
    fun _ _ called => by cases called
  cases stage with
  | entry =>
    simp only [ServerState.close] at closed
    split at closed
    · cases closed
      exact lineChange_move before (toSubmit_resume caller) apart
    · obtain ⟨middle, performed, rfl⟩ := Option.map_eq_some_iff.mp closed
      obtain ⟨workers, step, rfl⟩ := perform_silent rfl (by simp) performed
      exact .kept before.symm rfl (step.submitted_kept (by simp)) apart
  | session =>
    obtain ⟨middle, performed, rfl⟩ := Option.map_eq_some_iff.mp closed
    obtain ⟨workers, step, rfl⟩ := perform_silent rfl (by simp) performed
    exact .kept before.symm rfl (step.submitted_kept (by simp)) apart
  | queue =>
    obtain ⟨middle, performed, rfl⟩ := Option.map_eq_some_iff.mp closed
    obtain ⟨workers, step, rfl⟩ := perform_silent rfl (by simp) performed
    exact .kept before.symm rfl (step.submitted_kept (by simp)) apart
  | readEnd =>
    cases closed
    have buffer : ((state.closeDescriptor (state.fifoC2s other)).updateConnection other
        fun connection => { connection with fifoC2s := none }).readBuffer client =
          (state.closeDescriptor (state.fifoC2s other)).readBuffer client :=
      readBuffer_updateConnection fun _ _ => rfl
    refine .kept before.symm (buffer.trans ?_) ?_ apart
    · rw [ServerState.readBuffer, closeDescriptor_connections]
      rfl
    · exact congrArg (·.submitted client) (closeDescriptor_workers _ _)
  | writeEnd =>
    obtain ⟨middle, performed, rfl⟩ := Option.map_eq_some_iff.mp closed
    obtain ⟨workers, step, rfl⟩ := perform_silent rfl (by simp) performed
    rw [closeDescriptor_workers] at step
    refine .kept ((toSubmit_resume caller).trans before.symm) ?_ (step.submitted_kept (by simp))
      apart
    simp [ServerState.readBuffer]

/-- Every step of the main loop is one of these. -/
theorem mainStep_lineChange {event : MainEvent}
    (known : state.workers.clients client = none → state.connections client = none)
    (stepped : state.mainStep auth deadly workerCount state.main event = some next) :
    LineChange auth deadly workerCount client state (.main event) next := by
  generalize place : state.main = main at stepped
  have before : state.toSubmit client = main.toSubmit client := by rw [ServerState.toSubmit, place]
  unfold ServerState.mainStep at stepped
  split at stepped
  · cases stepped
    exact lineChange_move before rfl fun _ _ called => by cases called
  · rename_i added c2s s2c
    unfold ServerState.accept at stepped
    split at stepped
    · obtain ⟨middle, performed, rfl⟩ := Option.map_eq_some_iff.mp stepped
      obtain ⟨workers, step, rfl⟩ := perform_silent rfl (by simp) performed
      refine .kept before.symm ?_ (step.submitted_kept (by simp)) fun _ _ called => by cases called
      by_cases here : client = added
      · subst here
        cases step with
        | register new registered =>
          simp [ServerState.readBuffer, known new]
      · simp [ServerState.readBuffer, Function.update_of_ne here]
    · cases stepped
  · cases stepped
    exact .kept before.symm rfl rfl fun _ _ called => by cases called
  · cases stepped
    exact lineChange_move before (toSubmit_visit _ _ _ _) fun _ _ called => by cases called
  · cases stepped
    exact lineChange_move before rfl fun _ _ called => by cases called
  · split at stepped
    · cases stepped
      exact lineChange_move before rfl fun _ _ called => by cases called
    · cases stepped
  · cases stepped
    exact lineChange_move before rfl fun _ _ called => by cases called
  · cases stepped
    refine lineChange_move before ?_ fun _ _ called => by cases called
    split <;> rfl
  · exact read_lineChange place stepped
  · rename_i other line lines rest memory
    obtain ⟨middle, performed, rfl⟩ := Option.map_eq_some_iff.mp stepped
    obtain ⟨workers, step, rfl⟩ := perform_silent rfl (by simp) performed
    by_cases here : other = client
    · subst here
      exact .submitted rfl (before.trans (if_pos rfl)) step (toSubmit_submit _ _) rfl
    · refine .kept ((toSubmit_submit_ne here _ _).trans (before.trans (if_neg here)).symm) rfl
        (step.submitted_kept ?_) fun _ _ called => by cases called
      rintro _ _ ⟨⟩
      exact here rfl
  · exact close_lineChange place stepped
  · rename_i closed caller answers
    obtain ⟨middle, performed, rfl⟩ := Option.map_eq_some_iff.mp stepped
    obtain ⟨workers, -, step, rfl⟩ := perform_some performed
    refine .kept before.symm ?_ (step.submitted_kept (by simp)) fun _ _ called => by cases called
    rw [heard_of_silent rfl]
    rfl
  · cases stepped

/-- Every step of the server is one of these. -/
theorem serverMachine_lineChange
    (known : state.workers.clients client = none → state.connections client = none)
    (stepped : (serverMachine auth deadly workerCount).step state label = some next) :
    LineChange auth deadly workerCount client state label next := by
  cases label with
  | worker label =>
    simp only [serverMachine] at stepped
    split at stepped
    · rename_i accepted
      obtain ⟨mine, -⟩ := Bool.and_eq_true_iff.mp accepted
      obtain ⟨workers, -, step, rfl⟩ := perform_some stepped
      refine .kept rfl (heard_readBuffer label) (step.submitted_kept ?_) fun _ _ called => by
        cases called
      rintro line memory rfl
      cases mine
    · cases stepped
  | main event =>
    simp only [serverMachine] at stepped
    split at stepped
    · exact mainStep_lineChange known stepped
    · cases stepped
  | leave other =>
    simp only [serverMachine] at stepped
    split at stepped
    · cases stepped
      exact .kept rfl (readBuffer_updateConnection fun _ _ => rfl) rfl fun _ _ called => by
        cases called
    · cases stepped

/-- A client that is unknown has no connection, whatever the server does. -/
theorem ServerStep.known (step : ServerStep auth deadly workerCount state label next)
    (known : state.workers.clients client = none → state.connections client = none)
    (unknown : next.workers.clients client = none) : next.connections client = none := by
  cases step with
  | worker alive mine allowed step => exact heard_none _ (known (step.clients_none unknown))
  | leave => exact updateConnection_none (known unknown)
  | accept before apart step =>
    rename_i added c2s s2c workers
    have other : client ≠ added := by
      rintro rfl
      cases step with
      | register new registered => simp [WorkersState.setClient] at unknown
    exact (Function.update_of_ne other ..).trans (known (step.clients_none unknown))
  | received before after => exact updateConnection_none (known unknown)
  | closeRead place =>
    rename_i closed caller
    have same := closeDescriptor_workers state (state.fifoC2s closed)
    refine updateConnection_none ?_
    rw [closeDescriptor_connections]
    exact known ((congrArg (·.clients client) same).symm.trans unknown)
  | closeWrite place step =>
    exact (congrFun (closeDescriptor_connections _ _) client).trans
      (known (step.clients_none unknown))
  | submit before after step => exact known (step.clients_none unknown)
  | beginClose before step => exact known (step.clients_none unknown)
  | endSession place step => exact known (step.clients_none unknown)
  | markClosed place step => exact known (step.clients_none unknown)
  | remove place step => exact known (step.clients_none unknown)
  | move before after => exact known unknown
  | beginCleanup before => exact known unknown

/-- A step of the server is a step of the workers' part or leaves it alone; responses are sent by
workers. -/
theorem ServerStep.workers_step (step : ServerStep auth deadly workerCount state label next) :
    next.workers = state.workers ∨ ∃ action,
      WorkersStep auth deadly workerCount state.workers action next.workers ∧
        ∀ worker copied results, action = .respond worker copied results → label = .worker action := by
  cases step with
  | worker alive mine allowed step => exact .inr ⟨_, step, fun _ _ _ _ => rfl⟩
  | leave => exact .inl rfl
  | move before after => exact .inl rfl
  | beginCleanup before => exact .inl rfl
  | accept before apart step => exact .inr ⟨_, step, fun _ _ _ same => by cases same⟩
  | received before after => exact .inl rfl
  | submit before after step => exact .inr ⟨_, step, fun _ _ _ same => by cases same⟩
  | beginClose before step => exact .inr ⟨_, step, fun _ _ _ same => by cases same⟩
  | endSession place step => exact .inr ⟨_, step, fun _ _ _ same => by cases same⟩
  | markClosed place step => exact .inr ⟨_, step, fun _ _ _ same => by cases same⟩
  | remove place step => exact .inr ⟨_, step, fun _ _ _ same => by cases same⟩
  | closeRead place => exact .inl (closeDescriptor_workers _ _)
  | closeWrite place step => exact .inr ⟨_, step, fun _ _ _ same => by cases same⟩

/-- It is one of a process that is alive. -/
theorem serverMachine_workers
    (stepped : (serverMachine auth deadly workerCount).step state label = some next) :
    next.workers = state.workers ∨ state.workers.alive = true ∧ ∃ action,
      WorkersStep auth deadly workerCount state.workers action next.workers ∧
        ∀ worker copied results, action = .respond worker copied results →
          label = .worker action := by
  cases label with
  | worker action =>
    cases serverMachine_step stepped with
    | worker alive mine allowed step => exact .inr ⟨alive, _, step, fun _ _ _ _ => rfl⟩
  | main event =>
    rcases (serverMachine_step stepped).workers_step with same | step
    · exact .inl same
    · refine .inr ⟨?_, step⟩
      by_contra dead
      simp [serverMachine, dead] at stepped
  | leave other =>
    cases serverMachine_step stepped with
    | leave => exact .inl rfl

end AnimateService
