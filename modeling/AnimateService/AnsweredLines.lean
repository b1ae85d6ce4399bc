import AnimateService.Chunks
import AnimateService.Exhaustion
import AnimateService.LockStep
import AnimateService.Pipeline

/-!
# Lines and their answers

The server is a function of streams, for each of its clients by itself. The bytes that it reads from
a client are cut into lines; each line that it accepts is handled by the steps of one worker; what
the client's FIFO gets is the answers to the lines, in their order. That other clients are served
meanwhile, that a later line is handled before an earlier one, and where reads and writes end, does
not show.
-/
namespace AnimateService

open Reorder Transition

/-- A step of a worker in a handler. -/
structure HandlerStep where
  /-- The worker. -/
  thread : ThreadId
  /-- What the handlers share before the step. -/
  before : RpcState
  /-- What the environment answers. -/
  answers : Answers

/-- The step in a handler that a step of the workers is. -/
def WorkersState.handlerSteps (workerCount : Nat) (state : WorkersState) :
    WorkersLabel → List HandlerStep
  | .advance thread answers => if thread < workerCount then [⟨thread, state.rpc, answers⟩] else []
  | _ => []

/-- The step in a handler that a step of the server is. -/
def ServerState.handlerSteps (workerCount : Nat) (state : ServerState) :
    ServerLabel → List HandlerStep
  | .worker label => state.workers.handlerSteps workerCount label
  | _ => []

/-- The steps of one worker. -/
def stepsOf (thread : ThreadId) (steps : List HandlerStep) : List HandlerStep :=
  steps.filter fun step => step.thread = thread

/-- The place that a worker comes to for a client by steps. -/
def handleBy (auth : AuthDb) (client : ClientId) (pc : Pc) (steps : List HandlerStep) : Pc :=
  steps.foldl (fun pc step =>
    (advance auth step.answers (step.before.sessions client) step.before.world pc).2.2) pc

/-- A worker came from a client's line to the text by consecutive steps of it. -/
def RespondsTo (auth : AuthDb) (steps : List HandlerStep) (client : ClientId) (line text : Bytes) :
    Prop :=
  ∃ thread own response copied, own <:+: stepsOf thread steps ∧
    handleBy auth client (.start line) own = .finished response ∧
    workerResponse response copied = some text

/-- More steps belong to one worker as they do alone. -/
theorem stepsOf_append (thread : ThreadId) (steps more : List HandlerStep) :
    stepsOf thread (steps ++ more) = stepsOf thread steps ++ stepsOf thread more :=
  List.filter_append ..

/-- A response that a worker came to stays one after more steps. -/
theorem RespondsTo.later {auth : AuthDb} {steps : List HandlerStep} {client : ClientId}
    {line text : Bytes} (responds : RespondsTo auth steps client line text)
    (more : List HandlerStep) : RespondsTo auth (steps ++ more) client line text := by
  obtain ⟨thread, own, response, copied, inside, handled, answer⟩ := responds
  refine ⟨thread, own, response, copied, ?_, handled, answer⟩
  rw [stepsOf_append]
  exact inside.trans (List.prefix_append _ _).isInfix

/-! ## The workers in their handlers -/

variable {auth : AuthDb} {deadly : Bool} {workerCount : Nat} {state next : WorkersState}
  {label : WorkersLabel} {client : ClientId} {steps : List HandlerStep}

/-- Every worker that holds a request has come from its line to where it is by its last steps. -/
def CameFromLines (auth : AuthDb) (state : WorkersState) (steps : List HandlerStep) : Prop :=
  ∀ worker request served pc, state.inHand worker = some request →
    state.rpc.threads worker = some ⟨served, pc⟩ →
    ∃ own, own <:+ stepsOf worker steps ∧
      handleBy auth request.client (.start request.rpcLine) own = pc

/-- Other steps do not concern a worker that goes on with what it held. -/
theorem CameFromLines.stays {worker : ThreadId} {request : Request} {served : ClientId} {pc : Pc}
    (handling : CameFromLines auth state steps) (held : state.inHand worker = some request)
    (working : state.rpc.threads worker = some ⟨served, pc⟩) {more : List HandlerStep}
    (others : stepsOf worker more = []) :
    ∃ own, own <:+ stepsOf worker (steps ++ more) ∧
      handleBy auth request.client (.start request.rpcLine) own = pc := by
  rw [stepsOf_append, others, List.append_nil]
  exact handling worker request served pc held working

/-- After every step of the workers, each has come from its line to where it is. -/
theorem CameFromLines.step (handling : CameFromLines auth state steps)
    (formed : state.Formed workerCount)
    (step : WorkersStep auth deadly workerCount state label next) :
    CameFromLines auth next (steps ++ state.handlerSteps workerCount label) := by
  -- a thread other than the one whose work a step changes goes on as it was
  have others : ∀ {busy : ThreadId} {work : Option Thread} {thread : ThreadId} {held : Thread},
      thread ≠ busy → (state.rpc.setThread busy work).threads thread = some held →
      state.rpc.threads thread = some held := by
    intro busy work thread held apart working
    exact (Function.update_of_ne apart ..).symm.trans working
  have given : ∀ {busy : ThreadId} {work : Option Thread} {held : Thread},
      (state.rpc.setThread busy work).threads busy = some held → work = some held :=
    fun working => by simpa [RpcState.setThread] using working
  -- the main loop holds no request
  have holder : ∀ {worker request}, state.inHand worker = some request → worker ≠ workerCount :=
    fun held => Nat.ne_of_lt (formed.working held).1
  intro worker request served pc held working
  cases step with
  | register new registered => exact handling.stays held working rfl
  | submit present submitted => exact handling.stays held working rfl
  | refuse present refused => exact handling.stays held working rfl
  | dequeue idle known dequeued =>
    rename_i taker taken pool
    by_cases here : worker = taker
    · subst here
      obtain ⟨-, rfl⟩ := Thread.mk.inj (Option.some.inj (given working))
      simp only [WorkersState.take, Function.update_self, Option.some.injEq] at held
      subst held
      exact ⟨[], List.nil_suffix, rfl⟩
    · exact handling.stays ((Function.update_of_ne here ..).symm.trans held) (others here working) rfl
  | advance stepped =>
    rename_i thread answers rpc
    obtain ⟨busy, place, there, -, rfl⟩ := rpcMachine_step stepped
    by_cases here : worker = thread
    · subst here
      have known := (formed.working held).1
      obtain ⟨own, last, reached⟩ := handling worker request busy place held there
      simp only [RpcState.advanceThread, Function.update_self, Option.some.injEq, Thread.mk.injEq]
        at working
      obtain ⟨-, rfl⟩ := working
      have owner : request.client = busy := by
        obtain ⟨mine, taken, owned⟩ := formed.holding known there
        obtain rfl := Option.some.inj (held.symm.trans taken)
        exact owned
      refine ⟨own ++ [⟨worker, state.rpc, answers⟩], ?_, ?_⟩
      · have one : stepsOf worker (state.handlerSteps workerCount (.advance worker answers)) =
            [⟨worker, state.rpc, answers⟩] := by
          simp [WorkersState.handlerSteps, stepsOf, known]
        rw [stepsOf_append, one]
        exact List.suffix_append_self_iff.mpr last
      · rw [handleBy, List.foldl_append, List.foldl_cons, List.foldl_nil]
        rw [handleBy] at reached
        rw [reached, owner]
    · refine handling.stays held ((Function.update_of_ne here ..).symm.trans working) ?_
      simp only [WorkersState.handlerSteps, stepsOf]
      split
      · simp [Ne.symm here]
      · rfl
  | respond holding there answer present called =>
    obtain ⟨stream, -, rfl⟩ := send_some called
    obtain ⟨apart, before⟩ := held_of_update held
    exact handling.stays before (others apart working) rfl
  | silent holding there answer =>
    obtain ⟨apart, before⟩ := held_of_update held
    exact handling.stays before (others apart working) rfl
  | beginClose present connected stepped =>
    obtain ⟨-, rfl⟩ := rpcMachine_close stepped
    exact handling.stays held (others (holder held) working) rfl
  | markClosed present there => exact handling.stays held (others (holder held) working) rfl
  | remove present gone => exact handling.stays held working rfl
  | closeFifo present gone => exact handling.stays held working rfl

/-! ## The stream of one client -/

/-- The FIFO has got the accepted responses below a number, and at most a proper initial part of the
one that is next. -/
def WrittenInOrder (accepted : Nat → Option Bytes) (fifo : Bytes) : Prop :=
  ∃ count part, (∀ seqNum < count, (accepted seqNum).isSome) ∧
    fifo = concatenated accepted count ++ part ∧
    (part ≠ [] → ∃ text, accepted count = some text ∧ part <+: text ∧ part ≠ text)

/-- What holds of a client and its stream at all times. -/
structure Answering (auth : AuthDb) (client : ClientId) (state : WorkersState)
    (steps : List HandlerStep) (record : Client) : Prop where
  /-- The FIFO of a connected client is open. -/
  opened : record.stream.output.disconnected = false → record.stream.output.fifoS2c.isSome = true
  /-- The stream of a connected client is in order and waits for the response that is next. -/
  ordered : record.stream.output.disconnected = false → record.stream.killed = false →
    Ordered record.stream.accepted record.stream.fifo record.stream.output ∧
      record.stream.accepted record.stream.output.responsesSent = none
  /-- The stream was written in order. -/
  written : WrittenInOrder record.stream.accepted record.stream.fifo
  /-- An outstanding request has no response yet. -/
  fresh : ∀ seqNum, Outstanding state client seqNum → record.stream.accepted seqNum = none
  /-- Responses answer the lines of their numbers. -/
  answers : ∀ seqNum text, record.stream.accepted seqNum = some text →
    ∃ line, record.submitted[seqNum]? = some line ∧ RespondsTo auth steps client line text

/-- A stream that is in order or broke off was written in order. -/
theorem StreamFormed.writtenInOrder {stream : Stream} (formed : StreamFormed stream) :
    WrittenInOrder stream.accepted stream.fifo := by
  by_cases fine : stream.output.disconnected = false ∧ stream.killed = false
  · obtain ⟨ordered, -⟩ := formed.ordered fine.1 fine.2
    refine ⟨stream.output.responsesSent, [], ordered.sent, ?_, fun some => absurd rfl some⟩
    rw [ordered.fifo_eq, List.append_nil]
  · have gone : stream.output.disconnected = true ∨ stream.killed = true := by
      rw [not_and_or, Bool.not_eq_false, Bool.not_eq_false] at fine
      exact fine
    obtain ⟨count, text, part, before, next, initial, proper, same⟩ := formed.broken gone
    exact ⟨count, part, before, same, fun _ => ⟨text, next, initial, proper⟩⟩

/-- A call accepts no text but its own. -/
theorem accepted_new {stream after : Stream} {call : SendCall} {seqNum : Nat} {text : Bytes}
    (stepped : (streamMachine deadly).step stream call = some after)
    (arrived : after.accepted seqNum = some text) :
    stream.accepted seqNum = some text ∨ seqNum = call.seqNum ∧ text = call.text := by
  by_cases here : seqNum = call.seqNum
  · subst here
    simp only [streamMachine] at stepped
    split at stepped
    · cases stepped
    · obtain ⟨sent, -, rfl⟩ := Option.map_eq_some_iff.mp stepped
      dsimp only at arrived
      split at arrived
      · rw [Function.update_self] at arrived
        exact .inr ⟨rfl, (Option.some.inj arrived).symm⟩
      · exact .inl arrived
  · rw [accepted_other stepped here] at arrived
    exact .inl arrived

/-- Calls keep the stream of a client as it has to be. -/
theorem Answering.called {record : Client} {stream : Stream} {call : SendCall}
    (answering : Answering auth client state steps record)
    (new : record.stream.accepted call.seqNum = none) (small : call.seqNum < seqLimit)
    (stepped : (streamMachine deadly).step record.stream call = some stream) :
    (stream.output.disconnected = false → stream.output.fifoS2c.isSome = true) ∧
      (stream.output.disconnected = false → stream.killed = false →
        Ordered stream.accepted stream.fifo stream.output ∧
          stream.accepted stream.output.responsesSent = none) ∧
      WrittenInOrder stream.accepted stream.fifo := by
  have alive : record.stream.killed = false := by
    by_contra dead
    simp [streamMachine, dead] at stepped
  by_cases gone : record.stream.output.disconnected = true
  · obtain ⟨output, fifo, accepted⟩ := StreamFormed.gone gone stepped
    rw [output, fifo, accepted]
    exact ⟨answering.opened, fun fine => absurd fine (by simp [gone]), answering.written⟩
  · have connected : record.stream.output.disconnected = false := by simpa using gone
    have before : StreamFormed record.stream :=
      { opened := answering.opened connected
        ordered := answering.ordered
        broken := by simp [connected, alive] }
    have after := before.step new small stepped
    exact ⟨fun _ => after.opened, after.ordered, after.writtenInOrder⟩

/-- What leaves the queue or a worker's hand was there. -/
theorem Outstanding.earlier {seqNum : Nat} (outstanding : Outstanding next client seqNum)
    (queued : (next.pool.queued client).Sublist (state.pool.queued client))
    (held : ∀ worker request, request.client = client → next.inHand worker = some request →
      state.inHand worker = some request) : Outstanding state client seqNum := by
  rcases outstanding with ⟨request, waits, same⟩ | ⟨worker, request, holds, mine, same⟩
  · exact .inl ⟨request, queued.subset waits, same⟩
  · exact .inr ⟨worker, request, held worker request mine holds, mine, same⟩

/-- A step that neither submits nor sends for a client keeps what holds of it. -/
theorem Answering.kept {record after : Client} {more : List HandlerStep}
    (answering : Answering auth client state steps record)
    (opened : after.stream.output.disconnected = false →
      after.stream.output = record.stream.output ∧ after.stream.killed = record.stream.killed)
    (fifo : after.stream.fifo = record.stream.fifo)
    (accepted : after.stream.accepted = record.stream.accepted)
    (lines : after.submitted = record.submitted)
    (outstanding : ∀ seqNum, Outstanding next client seqNum → Outstanding state client seqNum) :
    Answering auth client next (steps ++ more) after where
  opened := fun connected => by
    obtain ⟨output, -⟩ := opened connected
    rw [output] at connected ⊢
    exact answering.opened connected
  ordered := fun connected alive => by
    obtain ⟨output, killed⟩ := opened connected
    rw [output] at connected
    rw [output, fifo, accepted]
    exact answering.ordered connected (killed ▸ alive)
  written := fifo ▸ accepted ▸ answering.written
  fresh := fun seqNum there => accepted ▸ answering.fresh seqNum (outstanding seqNum there)
  answers := fun seqNum text arrived => by
    obtain ⟨line, submitted, responds⟩ := answering.answers seqNum text (accepted ▸ arrived)
    exact ⟨line, lines ▸ submitted, responds.later more⟩

/-- The response that a worker sends is what it came to from the line of its request. -/
theorem WorkersStep.responds {worker : ThreadId} {copied : Bool} {results : List WriteResult}
    {request : Request} {text : Bytes} (step : WorkersStep auth deadly workerCount state label next)
    (handled : CameFromLines auth state steps) (called : label = .respond worker copied results)
    (holding : state.inHand worker = some request)
    (answered : next.answered = state.answered ++ [(request, some text)]) :
    RespondsTo auth steps request.client request.rpcLine text := by
  subst called
  cases step with
  | respond held working answer present sent =>
    rename_i own served response own_text record after
    obtain rfl := Option.some.inj (holding.symm.trans held)
    obtain ⟨stream, -, rfl⟩ := send_some sent
    have same : own_text = text := by
      have entry := List.append_cancel_left (show state.answered ++ [(request, some own_text)] = _
        from answered)
      simpa using entry
    obtain ⟨taken, last, reached⟩ := handled worker request served _ holding working
    exact ⟨worker, taken, response, copied, last.isInfix, reached, same ▸ answer⟩
  | silent held working answer =>
    rename_i own served response
    have entry := List.append_cancel_left (show state.answered ++ [(own, none)] = _ from answered)
    simp at entry

/-- Every step of the workers keeps a client's stream in order, each response the answer to its line,
while sequence numbers last. -/
theorem Answering.step {after : Client} {more : List HandlerStep}
    (handled : CameFromLines auth state steps) (formed : state.Formed workerCount)
    (numbered : ∀ record, state.clients client = some record →
      record.submitted.length ≤ 2 ^ 64 → Numbered client state record)
    (answering : ∀ record, state.clients client = some record →
      record.submitted.length ≤ seqLimit → Answering auth client state steps record)
    (step : WorkersStep auth deadly workerCount state label next)
    (there : next.clients client = some after) (bounded : after.submitted.length ≤ seqLimit) :
    Answering auth client next (steps ++ more) after := by
  have change := step.client_change formed client
  have few : seqLimit ≤ 2 ^ 64 := Nat.sub_le ..
  cases change with
  | kept clients queued held answered =>
    refine (answering after (clients ▸ there) bounded).kept (fun _ => ⟨rfl, rfl⟩) rfl rfl rfl ?_
    exact fun seqNum outstanding => outstanding.earlier (queued ▸ List.Sublist.refl _)
      fun worker request mine => (held worker request mine).mp
  | born new clients queued held answered =>
    rename_i fifo
    obtain rfl := Option.some.inj (clients.symm.trans there)
    have formed := streamFormed_initial fifo
    exact
      { opened := fun _ => rfl
        ordered := fun _ _ => formed.ordered rfl rfl
        written := formed.writtenInOrder
        fresh := fun _ _ => rfl
        answers := fun _ _ arrived => by cases arrived }
  | submitted present clients queued held answered =>
    rename_i record line
    obtain rfl := Option.some.inj (clients.symm.trans there)
    have shorter : record.submitted.length < seqLimit := by
      rw [List.length_append] at bounded
      exact bounded
    have old := answering record present (Nat.le_of_lt shorter)
    have counted : record.requestsReceived = record.submitted.length := by
      have small := Nat.lt_of_lt_of_le shorter few
      rw [(numbered record present (Nat.le_of_lt small)).counted, Nat.mod_eq_of_lt small]
    have unanswered : record.stream.accepted record.submitted.length = none := by
      by_contra arrived
      obtain ⟨text, arrived⟩ := Option.ne_none_iff_exists'.mp arrived
      obtain ⟨line, present, -⟩ := old.answers _ text arrived
      exact Nat.lt_irrefl _ (List.getElem?_eq_some_iff.mp present).1
    exact
      { opened := old.opened
        ordered := old.ordered
        written := old.written
        fresh := by
          rintro seqNum (⟨request, waits, same⟩ | ⟨worker, request, holds, mine, same⟩)
          · rw [queued, List.mem_append, List.mem_singleton] at waits
            rcases waits with before | rfl
            · exact old.fresh seqNum (.inl ⟨request, before, same⟩)
            · rw [← same, counted]
              exact unanswered
          · exact old.fresh seqNum (.inr ⟨worker, request, held ▸ holds, mine, same⟩)
        answers := fun seqNum text arrived => by
          obtain ⟨own, known, responds⟩ := old.answers seqNum text arrived
          have inside := (List.getElem?_eq_some_iff.mp known).1
          exact ⟨own, (List.getElem?_append_left inside).trans known, responds.later more⟩ }
  | taken owner idle front queued held clients answered =>
    refine (answering after (clients ▸ there) bounded).kept (fun _ => ⟨rfl, rfl⟩) rfl rfl rfl ?_
    exact fun seqNum => (outstanding_taken owner idle front queued held seqNum).mp
  | sent called owner holding present stepped clients queued held answered =>
    rename_i worker copied results request text record stream
    obtain rfl := Option.some.inj (clients.symm.trans there)
    have old := answering record present bounded
    have numbers := numbered record present (bounded.trans few)
    have mine : Outstanding state client request.seqNum := .inr ⟨worker, request, holding, owner, rfl⟩
    have small := Nat.lt_of_lt_of_le (numbers.below _ mine) bounded
    obtain ⟨opened, ordered, written⟩ := old.called (old.fresh _ mine) small stepped
    have responds := step.responds handled called holding answered
    have outstanding := outstanding_sent numbers holding owner queued held
    exact
      { opened
        ordered
        written
        fresh := fun seqNum there => by
          obtain ⟨before, apart⟩ := (outstanding seqNum).mp there
          rw [accepted_other stepped apart]
          exact old.fresh seqNum before
        answers := fun seqNum own arrived => by
          rcases accepted_new stepped arrived with before | ⟨rfl, rfl⟩
          · obtain ⟨line, known, answer⟩ := old.answers seqNum own before
            exact ⟨line, known, answer.later more⟩
          · exact ⟨request.rpcLine, numbers.lines request (.inr ⟨worker, holding, owner⟩),
              owner ▸ responds.later more⟩ }
  | dropped owner holding clients queued held answered =>
    refine (answering after (clients ▸ there) bounded).kept (fun _ => ⟨rfl, rfl⟩) rfl rfl rfl ?_
    exact fun seqNum outstanding => outstanding.earlier (queued ▸ List.Sublist.refl _)
      fun other same _ holds => (held_of_update (held ▸ holds)).2
  | closed present clients gone received lines queued held answered =>
    rename_i record closed
    obtain rfl := Option.some.inj (clients.symm.trans there)
    obtain ⟨other, same, kept⟩ := step.stream_kept present
    obtain rfl := Option.some.inj (clients.symm.trans same)
    have still : closed.stream.accepted = record.stream.accepted ∧
        closed.stream.fifo = record.stream.fifo := by
      rcases kept with kept | ⟨worker, request, holding, -, free⟩
      · exact kept
      · rw [held, holding] at free
        cases free
    refine (answering record present (lines ▸ bounded)).kept
      (fun connected => by cases gone.symm.trans connected) still.2 still.1 lines ?_
    refine fun seqNum outstanding => outstanding.earlier ?_ fun worker request _ holds => held ▸ holds
    rcases queued with same | empty
    · exact same ▸ List.Sublist.refl _
    · exact empty ▸ List.nil_sublist _

/-! ## The server -/

/-- A step of the server is a step of the workers' part, seen as it is, or leaves it alone. -/
theorem ServerStep.workers_seen {state next : ServerState} {label : ServerLabel}
    (step : ServerStep auth deadly workerCount state label next) :
    next.workers = state.workers ∧ state.handlerSteps workerCount label = [] ∨ ∃ action,
      WorkersStep auth deadly workerCount state.workers action next.workers ∧
        state.handlerSteps workerCount label = state.workers.handlerSteps workerCount action := by
  cases step with
  | worker alive mine allowed step => exact .inr ⟨_, step, rfl⟩
  | leave => exact .inl ⟨rfl, rfl⟩
  | move before after => exact .inl ⟨rfl, rfl⟩
  | beginCleanup before => exact .inl ⟨rfl, rfl⟩
  | accept before apart step => exact .inr ⟨_, step, rfl⟩
  | received before after => exact .inl ⟨rfl, rfl⟩
  | submit before after step => exact .inr ⟨_, step, rfl⟩
  | beginClose before step => exact .inr ⟨_, step, rfl⟩
  | endSession place step => exact .inr ⟨_, step, (if_neg (Nat.lt_irrefl _)).symm⟩
  | markClosed place step => exact .inr ⟨_, step, rfl⟩
  | remove place step => exact .inr ⟨_, step, rfl⟩
  | closeRead place => exact .inl ⟨closeDescriptor_workers _ _, rfl⟩
  | closeWrite place step => exact .inr ⟨_, step, rfl⟩

/-- What holds of the workers and a client at all times. -/
structure AnswersClient (auth : AuthDb) (workerCount : Nat) (client : ClientId)
    (state : WorkersState) (steps : List HandlerStep) : Prop where
  /-- The workers hold the requests that they handle. -/
  formed : state.Formed workerCount
  /-- They have come to where they are from the lines of these. -/
  handled : CameFromLines auth state steps
  /-- The client's requests are numbered. -/
  numbered : ∀ record, state.clients client = some record →
    record.submitted.length ≤ 2 ^ 64 → Numbered client state record
  /-- Its stream answers them. -/
  answering : ∀ record, state.clients client = some record →
    record.submitted.length ≤ seqLimit → Answering auth client state steps record

/-- After every step of the workers, the stream of a client answers its numbered requests. -/
theorem AnswersClient.step (answers : AnswersClient auth workerCount client state steps)
    (step : WorkersStep auth deadly workerCount state label next) :
    AnswersClient auth workerCount client next
      (steps ++ state.handlerSteps workerCount label) where
  formed := step.formed answers.formed
  handled := answers.handled.step answers.formed step
  numbered := (step.client_change answers.formed client).numbered answers.formed answers.numbered
  answering := fun _ => Answering.step answers.handled answers.formed answers.numbered
    answers.answering step

/-- What a client's lines have become: its stream is cut as the reference cuts it, and the lines that
were accepted are among those handed on, in their order. They are all of them while the client is
connected, where there is always memory. -/
structure Accepting (enough : Prop) (client : ClientId) (state : ServerState)
    (events : List LineEvent) : Prop where
  /-- The stream is cut. -/
  framed : Framed client state events
  /-- A connected client has a queue. -/
  queue : state.workers.HasQueue client
  /-- Lines are accepted in order. -/
  accepted : (state.workers.submitted client).Sublist (handedLines events)
  /-- No line of a connected client is refused. -/
  all : enough → state.workers.isDisconnected client = false →
    state.workers.submitted client = handedLines events

/-- A line that is submitted becomes the last one, or is refused. -/
theorem WorkersStep.submitted_line {line : Bytes} {memory : Bool}
    (step : WorkersStep auth deadly workerCount state (.submit client line memory) next) :
    next.submitted client = state.submitted client ++ [line] ∨
      next.submitted client = state.submitted client := by
  cases step with
  | submit present submitted =>
    exact .inl (by rw [submitted_of_some clients_setClient_self, submitted_of_some present])
  | refuse present refused => exact .inr rfl

/-- After every step of the server, the client's lines are those that the reference cuts, and they are
accepted in order. -/
theorem Accepting.step {enough : Prop} {state next : ServerState} {label : ServerLabel}
    {events : List LineEvent} (accepting : Accepting enough client state events)
    (memory : enough → label ≠ .main (.submit false))
    (stepped : (serverMachine auth deadly workerCount).step state label = some next) :
    Accepting enough client next (events ++ state.lineEvents client label) := by
  have framed := accepting.framed.step stepped
  have earlier : next.workers.isDisconnected client = false →
      state.workers.isDisconnected client = false := by
    intro connected
    rcases (serverMachine_step stepped).workers_seen with ⟨same, -⟩ | ⟨action, step, -⟩
    · exact same ▸ connected
    · by_contra gone
      cases (step.flag_kept (by simpa using gone)).symm.trans connected
  have queue : next.workers.HasQueue client := by
    rcases (serverMachine_step stepped).workers_seen with ⟨same, -⟩ | ⟨action, step, -⟩
    · exact same ▸ accepting.queue
    · exact step.hasQueue accepting.queue
  -- a step that hands on no line
  have silent : next.workers.submitted client = state.workers.submitted client →
      handedLines (state.lineEvents client label) = [] →
      Accepting enough client next (events ++ state.lineEvents client label) := by
    intro same none
    have lines : handedLines (events ++ state.lineEvents client label) = handedLines events := by
      rw [handedLines, List.flatMap_append, ← handedLines, ← handedLines, none, List.append_nil]
    refine ⟨framed, queue, ?_, fun fine connected => ?_⟩
    · rw [same, lines]
      exact accepting.accepted
    · rw [same, lines]
      exact accepting.all fine (earlier connected)
  cases serverMachine_lineChange accepting.framed.known stepped with
  | kept toSubmit readBuffer submitted apart =>
    refine silent submitted ?_
    by_cases submits : ∃ memory, label = .main (.submit memory)
    · obtain ⟨memory, rfl⟩ := submits
      -- it submits for another client
      have none : state.toSubmit client = [] := by
        have tail := (submit_toSubmit stepped).symm.trans toSubmit
        cases own : state.toSubmit client with
        | nil => rfl
        | cons line lines =>
          rw [own] at tail
          exact absurd (congrArg List.length tail) (Nat.ne_of_lt (Nat.lt_succ_self _))
      rw [ServerState.lineEvents, none]
      rfl
    · rw [lineEvents_kept apart fun memory same => submits ⟨memory, same⟩]
      rfl
  | received called place connected workers toSubmit readBuffer =>
    refine silent (congrArg (·.submitted client) workers) ?_
    rw [called, ServerState.lineEvents]
    split <;> rfl
  | submitted called front step toSubmit readBuffer =>
    rename_i line lines given
    subst called
    have lines : handedLines (events ++ state.lineEvents client (.main (.submit given))) =
        handedLines events ++ [line] := by
      rw [handedLines, List.flatMap_append, ← handedLines, ServerState.lineEvents, front]
      rfl
    refine ⟨framed, queue, ?_, fun fine connected => ?_⟩
    · rw [lines]
      rcases step.submitted_line with one | same
      · rw [one]
        exact accepting.accepted.append_right [line]
      · rw [same]
        exact accepting.accepted.trans (List.sublist_append_left _ _)
    · obtain rfl : given = true := by
        by_contra none
        exact memory fine (by simp [Bool.eq_false_iff.mpr none])
      rw [step.accepts accepting.queue (earlier connected), lines,
        accepting.all fine (earlier connected)]

/-- The responses below a number as texts. -/
theorem concatenated_list {accepted : Nat → Option Bytes} {count : Nat}
    (there : ∀ seqNum < count, (accepted seqNum).isSome) :
    ∃ texts : List Bytes, texts.length = count ∧ texts.flatten = concatenated accepted count ∧
      ∀ index text, texts[index]? = some text → accepted index = some text := by
  refine ⟨(List.range count).map fun seqNum => (accepted seqNum).getD [], by simp, ?_, ?_⟩
  · rw [concatenated, List.flatMap_def]
  · intro index text found
    obtain ⟨inside, rfl⟩ := List.getElem?_eq_some_iff.mp found
    rw [List.length_map, List.length_range] at inside
    obtain ⟨text, arrived⟩ := Option.isSome_iff_exists.mp (there index inside)
    simp [arrived]

/-- What a client's FIFO got answers its first lines, one after the other. -/
theorem Answering.texts {record : Client} (answering : Answering auth client state steps record) :
    ∃ (texts : List Bytes) (part : Bytes), record.stream.fifo = texts.flatten ++ part ∧
      List.Forall₂ (RespondsTo auth steps client) (record.submitted.take texts.length) texts ∧
      (part ≠ [] → ∃ line text, record.submitted[texts.length]? = some line ∧
        RespondsTo auth steps client line text ∧ part <+: text ∧ part ≠ text) ∧
      (record.stream.output.disconnected = false → record.stream.killed = false →
        part = [] ∧ texts.length = record.stream.output.responsesSent) := by
  -- each text is the answer to its line
  have matched : ∀ texts : List Bytes,
      (∀ index text, texts[index]? = some text → record.stream.accepted index = some text) →
      List.Forall₂ (RespondsTo auth steps client) (record.submitted.take texts.length) texts := by
    intro texts own
    have answers : ∀ index text, texts[index]? = some text →
        ∃ line, record.submitted[index]? = some line ∧ RespondsTo auth steps client line text :=
      fun index text found => answering.answers index text (own index text found)
    have enough : texts.length ≤ record.submitted.length := by
      cases last : texts.length with
      | zero => exact Nat.zero_le _
      | succ before =>
        obtain ⟨line, known, -⟩ := answers before _ (List.getElem?_eq_getElem (by omega))
        exact (List.getElem?_eq_some_iff.mp known).1
    refine List.forall₂_iff_get.mpr ⟨by rw [List.length_take, Nat.min_eq_left enough], ?_⟩
    intro index inside there
    obtain ⟨line, known, responds⟩ := answers index _ (List.getElem?_eq_getElem there)
    rw [List.getElem?_eq_getElem (Nat.lt_of_lt_of_le there enough)] at known
    obtain rfl := Option.some.inj known
    simpa using responds
  by_cases fine : record.stream.output.disconnected = false ∧ record.stream.killed = false
  · obtain ⟨ordered, -⟩ := answering.ordered fine.1 fine.2
    obtain ⟨texts, length, flat, own⟩ := concatenated_list ordered.sent
    refine ⟨texts, [], ?_, matched texts own, fun some => absurd rfl some, fun _ _ => ⟨rfl, length⟩⟩
    rw [flat, ordered.fifo_eq, List.append_nil]
  · obtain ⟨count, part, there, same, broken⟩ := answering.written
    obtain ⟨texts, rfl, flat, own⟩ := concatenated_list there
    refine ⟨texts, part, flat ▸ same, matched texts own, fun some => ?_,
      fun connected alive => absurd ⟨connected, alive⟩ fine⟩
    obtain ⟨text, next, initial, proper⟩ := broken some
    obtain ⟨line, known, responds⟩ := answering.answers _ text next
    exact ⟨line, text, known, responds, initial, proper⟩

/-- The server answers the lines of a client in their order. In every run of the server, the lines
that it has accepted from a client are lines of the client's stream, cut behind every newline and
every full buffer, in their order, and all of them if the client is connected and there was always
memory. What the client's FIFO got is the answers to the first of them, in their order: each is what
one worker came to from that line by consecutive steps of it in the run. Behind them is at most the
front of the answer to the next line, and nothing while the client is connected. -/
theorem lines_answered_in_order {labels : List ServerLabel} {last : ServerState} {record : Client}
    (ran : (serverMachine auth deadly workerCount).run {} labels = some last)
    (present : last.workers.clients client = some record)
    (bounded : record.submitted.length ≤ seqLimit) :
    let machine := serverMachine auth deadly workerCount
    let lines := (referenceLines (receivedBytes
      (machine.observed (ServerState.lineEvents client) {} labels))).1
    let steps := machine.observed (ServerState.handlerSteps workerCount) {} labels
    record.submitted.Sublist lines ∧
      ((∀ label ∈ labels, label ≠ .main (.submit false)) →
        record.stream.output.disconnected = false →
        record.submitted ++ last.toSubmit client = lines) ∧
      ∃ (texts : List Bytes) (part : Bytes), record.stream.fifo = texts.flatten ++ part ∧
        List.Forall₂ (RespondsTo auth steps client) (record.submitted.take texts.length) texts ∧
        (part ≠ [] → ∃ line text, record.submitted[texts.length]? = some line ∧
          RespondsTo auth steps client line text ∧ part <+: text ∧ part ≠ text) ∧
        (record.stream.output.disconnected = false → record.stream.killed = false →
          part = [] ∧ texts.length = record.stream.output.responsesSent) := by
  intro machine lines steps
  -- the streams
  have kept : ∀ state label next seen,
      AnswersClient auth workerCount client state.workers seen →
      machine.step state label = some next →
      AnswersClient auth workerCount client next.workers
        (seen ++ state.handlerSteps workerCount label) := by
    intro state label next seen answers stepped
    rcases (serverMachine_step stepped).workers_seen with ⟨same, none⟩ | ⟨action, step, same⟩
    · rw [none, List.append_nil, same]
      exact answers
    · rw [same]
      exact answers.step step
  have initially : AnswersClient auth workerCount client ({} : ServerState).workers [] :=
    { formed := workers_formed_initial
      handled := by rintro worker request served pc ⟨⟩
      numbered := by rintro record ⟨⟩
      answering := by rintro record ⟨⟩ }
  have answers := Machine.run_observed kept initially ran
  -- the lines
  have accepts : ∀ state label next seen,
      Accepting (∀ label ∈ labels, label ≠ .main (.submit false)) client state seen →
      ((∀ label ∈ labels, label ≠ .main (.submit false)) → label ≠ .main (.submit false)) →
      machine.step state label = some next →
      Accepting (∀ label ∈ labels, label ≠ .main (.submit false)) client next
        (seen ++ state.lineEvents client label) :=
    fun state label next seen accepting memory stepped => accepting.step memory stepped
  have begins : Accepting (∀ label ∈ labels, label ≠ .main (.submit false)) client {} [] :=
    { framed := ⟨fun _ => rfl, rfl⟩
      queue := ⟨rfl, by rintro record ⟨⟩⟩
      accepted := List.nil_sublist _
      all := fun _ _ => rfl }
  have accepting := Machine.run_observed_on accepts begins
    (Machine.everyStep_of_labels fun label member _ enough => enough label member) ran
  rw [List.nil_append] at answers accepting
  have cut : lines = _ := congrArg Prod.fst accepting.framed.cut
  refine ⟨?_, fun enough connected => ?_, (answers.answering record present bounded).texts⟩
  · rw [cut, ← submitted_of_some present]
    exact accepting.accepted.trans (List.sublist_append_left _ _)
  · rw [cut, ← submitted_of_some present,
      accepting.all enough (by rw [isDisconnected_of_some present, connected])]

/-- Ann's client sends two lines in two chunks, and the second line is handled first. -/
def answeredLate : List ServerLabel :=
  [.main (.poll (some (1, 3, 4))), .main (.beginCleanup 0), .main (.visit true), .main .endCleanup,
    .main (.select [1]), .main .serve, .main (.read (.data (bytes "Login ann\nshare_ca"))),
    .main (.submit true), .main (.read (.data (bytes "nvas\n"))), .main (.submit true),
    .worker (.dequeue 0), .worker (.dequeue 1), .worker (.advance 1 {}),
    .worker (.respond 1 true []), .worker (.advance 0 {}),
    .worker (.respond 0 true [.wrote 1, .interrupted, .wrote 1, .wrote 3])]

/-- The FIFO gets her balance and the refusal of the second line, which was handled before she was
logged in. -/
theorem lines_answered_in_order_late : ∃ last record texts,
    (serverMachine annAndBob true 2).run {} answeredLate = some last ∧
      last.workers.clients 1 = some record ∧
      record.submitted = [bytes "Login ann\n", bytes "share_canvas\n"] ∧
      texts.flatten = bytes "5\n-2\n" ∧
      List.Forall₂ (RespondsTo annAndBob ((serverMachine annAndBob true 2).observed
        (ServerState.handlerSteps 2) {} answeredLate) 1) record.submitted texts := by
  have ends : ((serverMachine annAndBob true 2).run {} answeredLate).bind (fun last =>
      (last.workers.clients 1).map fun record => (record.submitted, record.stream.fifo,
        record.stream.output.disconnected, record.stream.killed,
        record.stream.output.responsesSent)) =
      some ([bytes "Login ann\n", bytes "share_canvas\n"], bytes "5\n-2\n", false, false, 2) := by
    decide +kernel
  obtain ⟨last, ran, found⟩ := Option.bind_eq_some_iff.mp ends
  obtain ⟨record, present, same⟩ := Option.map_eq_some_iff.mp found
  simp only [Prod.mk.injEq] at same
  obtain ⟨submitted, fifo, connected, alive, sent⟩ := same
  obtain ⟨-, -, texts, part, whole, answers, -, all⟩ :=
    lines_answered_in_order ran present (by rw [submitted]; decide)
  obtain ⟨rfl, length⟩ := all connected alive
  have both : record.submitted.take texts.length = record.submitted := by
    rw [length, sent, submitted]
    rfl
  rw [List.append_nil] at whole
  exact ⟨last, record, texts, ran, present, submitted, whole.symm.trans fifo, both ▸ answers⟩

end AnimateService
