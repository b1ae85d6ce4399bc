import AnimateService.LockStep

/-!
# The last line in step

The window of `send_ordered_response` ends `MAX_PENDING_RESPONSES` behind `responses_sent`, and the
sum of the two is a `uint64_t`. A client that has had 2⁶⁴ - 1024 responses gets no more: the sum
wraps round, and the next response is outside the window.
-/
namespace AnimateService

open Transition

/-- A line that a client may write without a login. -/
def namelessLine : Bytes := bytes "Login\n"

/-- The response to it. -/
def namelessReply : Bytes := bytes "-1\n"

/-- The client. -/
def solo : ClientId := 1

/-- Its request. -/
def soloRequest (seqNum : Nat) : Request := ⟨solo, seqNum, namelessLine⟩

/-- That many responses were written, and none waits. -/
structure Even (count : Nat) (stream : Stream) : Prop where
  /-- No write has ended the process. -/
  alive : stream.killed = false
  /-- The ring is empty. -/
  output : stream.output = { fifoS2c := some 4, responsesSent := count }
  /-- The responses are in the FIFO. -/
  fifo : stream.fifo = (List.replicate count namelessReply).flatten

/-- The pool with the client's requests. -/
def soloPool (requests : List Request) : Pool where
  clients := [{ client := solo, requests, queuedCount := requests.length }]
  nextClient := some solo
  pendingRequests := requests.length

/-- The workers with a client that submitted a number of lines. -/
def soloWorkers (count : Nat) (requests : List Request) (stream : Stream)
    (answered : List (Request × Option Bytes)) : WorkersState where
  pool := soloPool requests
  clients := Function.update (fun _ => none) solo (some
    { stream, requestsReceived := count, submitted := List.replicate count namelessLine })
  answered

/-- A worker with the client's last request. -/
def soloWorking (count : Nat) (pc : Pc) (stream : Stream)
    (answered : List (Request × Option Bytes)) : WorkersState :=
  let state := soloWorkers (count + 1) [] stream answered
  { state with
    rpc := state.rpc.setThread 0 (some ⟨solo, pc⟩)
    inHand := Function.update state.inHand 0 (some (soloRequest count)) }

section Workers
variable {count : Nat} {stream : Stream} {answered : List (Request × Option Bytes)}

/-- What a call does to the stream of a process that is alive. -/
theorem streamMachine_call {deadly : Bool} {seqNum : Nat} {text : Bytes}
    {results : List WriteResult} {sent : Sent} (alive : stream.killed = false)
    (called : sendOrderedResponse deadly stream.output seqNum text results = some sent) :
    ∃ after, (streamMachine deadly).step stream ⟨seqNum, text, results⟩ = some after ∧
      after.output = sent.output ∧ after.fifo = stream.fifo ++ sent.written ∧
      after.killed = sent.killed := by
  simp [streamMachine, alive, called]

/-- Below the limit a response is written at once. -/
theorem Even.write (even : Even count stream) (below : count < seqLimit) :
    ∃ after, (streamMachine true).step stream ⟨count, namelessReply, [.wrote 3]⟩ = some after ∧
      Even (count + 1) after := by
  obtain ⟨alive, output, fifo⟩ := even
  simp only [seqLimit, maxPendingResponses] at below
  have kept : stream.output.discards count = false := by
    simp only [Output.discards, output, maxPendingResponses]
    simp
    omega
  have counted : (count + 1) % 2 ^ 64 = count + 1 := Nat.mod_eq_of_lt (by omega)
  have first : (stream.output.store count namelessReply).front = some namelessReply := by
    simp [Output.front, Output.store, output]
  have advanced : (stream.output.store count namelessReply).advance =
      { fifoS2c := some 4, responsesSent := count + 1 } := by
    simp only [Output.advance, Output.freeResponse, Output.store, output, counted,
      Function.update_idem, Function.update_eq_self]
  have last : drain true maxPendingResponses (stream.output.store count namelessReply).advance [] =
      some ⟨{ fifoS2c := some 4, responsesSent := count + 1 }, [], false⟩ := by
    rw [advanced]
    rfl
  have called : sendOrderedResponse true stream.output count namelessReply [.wrote 3] =
      some ⟨{ fifoS2c := some 4, responsesSent := count + 1 }, namelessReply, false⟩ := by
    have wrote : writeAll true namelessReply [.wrote 3] = some (namelessReply, .complete, []) := rfl
    rw [sendOrderedResponse, if_neg (by simp [kept]), drain, first]
    simp only [wrote, last, Option.map_some, List.append_nil]
  obtain ⟨after, stepped, same, grown, fine⟩ := streamMachine_call alive called
  refine ⟨after, stepped, fine, same, ?_⟩
  rw [grown, fifo, List.replicate_succ', List.flatten_concat]

/-- At the limit it is discarded. -/
theorem Even.discard (even : Even seqLimit stream) :
    ∃ after, (streamMachine true).step stream ⟨seqLimit, namelessReply, []⟩ = some after ∧
      Even seqLimit after := by
  obtain ⟨alive, output, fifo⟩ := even
  have wraps : (seqLimit + maxPendingResponses) % 2 ^ 64 = 0 := by
    simp only [seqLimit, maxPendingResponses]
    decide
  have discarded : stream.output.discards seqLimit = true := by
    simp only [Output.discards, output, wraps, Nat.zero_le, decide_true, Bool.or_true,
      Bool.true_or]
  have called : sendOrderedResponse true stream.output seqLimit namelessReply [] =
      some ⟨stream.output, [], false⟩ := by
    rw [sendOrderedResponse, if_pos discarded, if_pos rfl]
  obtain ⟨after, stepped, same, grown, fine⟩ := streamMachine_call alive called
  refine ⟨after, stepped, fine, same.trans output, ?_⟩
  rw [grown, List.append_nil, fifo]

/-- The client's line is accepted. -/
theorem solo_submit (even : Even count stream) (below : count + 1 < 2 ^ 64) :
    (workersMachine [] true 1).step (soloWorkers count [] stream answered)
      (.submit solo namelessLine true) =
        some (soloWorkers (count + 1) [soloRequest count] stream answered) := by
  have counted : (count + 1) % 18446744073709551616 = count + 1 := Nat.mod_eq_of_lt below
  simp [workersMachine, soloWorkers, soloPool, threadpoolSubmit, findClientQueue, even.output,
    Pool.updateQueue, ClientQueue.push, WorkersState.setClient, Function.update_idem, counted,
    List.replicate_succ', soloRequest]

/-- A worker takes the request. -/
theorem solo_dequeue :
    (workersMachine [] true 1).step
      (soloWorkers (count + 1) [soloRequest count] stream answered) (.dequeue 0) =
        some (soloWorking count (.start namelessLine) stream answered) := by
  simp [workersMachine, soloWorkers, soloPool, dequeueFairRequest, Pool.rotation, Pool.updateQueue,
    ClientQueue.pop, Pool.behind, WorkersState.take, soloWorking, RpcState.setThread, soloRequest]

/-- It handles it. -/
theorem solo_advance :
    (workersMachine [] true 1).step (soloWorking count (.start namelessLine) stream answered)
      (.advance 0 {}) =
        some (soloWorking count (.finished (some namelessReply)) stream answered) := by
  have started : ∀ world, startRequest [] {} {} world namelessLine =
    ({}, world, .finished (some namelessReply)) := fun _ => rfl
  simp [workersMachine, soloWorking, soloWorkers, RpcState.setThread, rpcMachine,
    RpcState.advanceThread, advance, started, Pc.isFinished]

/-- It sends the response. -/
theorem solo_respond {results : List WriteResult} {after : Stream}
    (stepped : (streamMachine true).step stream ⟨count, namelessReply, results⟩ = some after)
    (alive : after.killed = false) :
    (workersMachine [] true 1).step
      (soloWorking count (.finished (some namelessReply)) stream answered)
      (.respond 0 true results) =
        some (soloWorkers (count + 1) [] after
          (answered ++ [(soloRequest count, some namelessReply)])) := by
  have response : workerResponse (some namelessReply) true = some namelessReply := rfl
  simp [workersMachine, soloWorking, soloWorkers, response, WorkersState.send, WorkersState.finish,
    WorkersState.setClient, RpcState.setThread, soloRequest, stepped, alive]

end Workers

/-! ## One line -/

/-- The buffer that the client writes. -/
def namelessWritten : Written := ⟨namelessLine, bytes "Login", []⟩

/-- What decides the next steps. -/
structure Beat (state : LockState) (place : ClientPlace) (input c2s : Bytes) (got count : Nat)
    (main : MainPc) (workers : WorkersState) : Prop where
  /-- The client's loop goes on. -/
  going : state.client.going = true
  /-- Its place. -/
  place : state.place = place
  /-- Its input. -/
  input : state.client.input = input
  /-- The bytes in `FIFO_C2S`. -/
  c2s : state.c2s = c2s
  /-- The number of bytes that the client read. -/
  got : state.got = got
  /-- The number of lines that it wrote. -/
  lines : state.lines.length = count
  /-- Where the main loop is. -/
  main : state.server.main = main
  /-- The workers. -/
  workers : state.server.workers = workers
  /-- The connection. -/
  connection : state.server.connections solo = some { fifoC2s := some 3 }

section Steps
variable {state : LockState} {place : ClientPlace} {input c2s : Bytes} {got count : Nat}
  {main : MainPc} {workers : WorkersState}

/-- The machine of one client and a server with one worker. -/
abbrev soloMachine : Machine LockState LockLabel := lockMachine [] true 1 solo

/-- The client takes a line. -/
theorem Beat.pass (beat : Beat state .looping (namelessLine ++ input) c2s got count main workers) :
    ∃ next, soloMachine.step state .pass = some next ∧
      Beat next (.writing namelessWritten namelessLine) input c2s got (count + 1) main workers := by
  obtain ⟨going, place, source, sent, read, lines, loop, working, connection⟩ := beat
  have cut : takeLine (maxInputLen - 1) (bytes "Login" ++ 10 :: input) =
      (bytes "Login" ++ [10], input) := takeLine_line input (by decide) (by decide)
  have token : firstToken namelessLine commandLen = some (bytes "Login") := by decide
  have user : (loginUsername namelessLine (maxUsernameLen + 1)).getD [] = [] := by decide
  have passed : state.client.pass = .wrote namelessWritten input := by
    have got : fgets maxInputLen (namelessLine ++ input) = some (namelessLine, input) := by
      rw [fgets, if_neg (by simp [namelessLine, bytes]), Option.some.injEq]
      exact cut
    have text : cString namelessLine = namelessLine := by decide
    have newline : namelessLine.getLast? = some 10 := by decide
    have some_ : namelessLine ≠ [] := by decide
    have login : ¬ (state.client.loggedIn = false ∧ bytes "Login" ≠ bytes "Login" ∧
        bytes "Login" ≠ bytes "Disconnect") := fun refused => refused.2.1 rfl
    simp only [ClientMain.pass, source, got, text, newline, if_neg some_, if_pos,
      ClientMain.takeCommand, token, if_neg login, user]
    rfl
  refine ⟨state.pass, if_pos place, ?_⟩
  rw [LockState.pass, passed]
  exact ⟨going, rfl, rfl, sent, read, by simp [LockState.begin, lines], loop, working, connection⟩

/-- It writes the line. -/
theorem Beat.write
    (beat : Beat state (.writing namelessWritten namelessLine) input [] got count main workers) :
    ∃ next, soloMachine.step state (.write 6) = some next ∧
      Beat next (.reading namelessWritten []) input namelessLine got count main workers := by
  obtain ⟨going, place, source, sent, read, lines, loop, working, connection⟩ := beat
  have fits : 0 < 6 ∧ 6 ≤ namelessLine.length := by decide
  have all : namelessLine.drop 6 = [] := by decide
  have other : namelessWritten.command ≠ bytes "Disconnect" := by decide
  refine ⟨(state.push (namelessLine.take 6)).wrote namelessWritten, ?_, ?_⟩
  · simp only [soloMachine, lockMachine, place]
    rw [if_pos fits, all, if_pos rfl]
  · rw [LockState.wrote, if_neg other]
    exact ⟨going, rfl, source, by simp [LockState.push, sent]; decide, read, lines, loop, working,
      connection⟩

/-- The server reads it. -/
theorem Beat.received
    (beat : Beat state place input namelessLine got count (.reading solo []) workers)
    (alive : workers.alive = true) (connected : workers.isDisconnected solo = false) :
    ∃ next, soloMachine.step state (.server (.main (.read (.data namelessLine)))) = some next ∧
      Beat next place input [] got count (.submitting solo [namelessLine] []) workers := by
  obtain ⟨going, here, source, sent, read, lines, loop, working, connection⟩ := beat
  subst working
  have reads : state.isRead solo = true := by simp [LockState.isRead, loop, connected]
  have taken : state.taken solo (.main (.read (.data namelessLine))) = namelessLine := if_pos reads
  have allowed : state.allows solo (.main (.read (.data namelessLine))) = true := by
    simp [LockState.allows, sent]
  have cut : processBufferedLines ([] ++ namelessLine) = ([namelessLine], []) := by decide
  have room : namelessLine ≠ [] ∧ ([] ++ namelessLine).length ≤ clientReadBuffer := by decide
  have served : (serverMachine [] true 1).step state.server (.main (.read (.data namelessLine))) =
      some { state.server.updateConnection solo fun connection =>
          { connection with readBuffer := [] }
        with main := .submitting solo [namelessLine] [] } := by
    simp only [serverMachine, alive, if_true, ServerState.mainStep, loop, ServerState.read,
      connected, connection, Option.bind_some, if_pos room, cut]
    rfl
  refine ⟨_, by simp only [soloMachine, lockMachine, allowed, if_true, served, taken]; rfl, ?_⟩
  refine ⟨going, here, source, ?_, read, lines, rfl, rfl, ?_⟩
  · rw [show LockState.c2s _ = state.c2s.drop namelessLine.length from rfl, sent, List.drop_length]
  · simp [ServerState.updateConnection, connection]

/-- The server submits it. -/
theorem Beat.submitted {after : WorkersState}
    (beat : Beat state place input c2s got count (.submitting solo [namelessLine] []) workers)
    (alive : workers.alive = true)
    (stepped : (workersMachine [] true 1).step workers (.submit solo namelessLine true) = some after) :
    ∃ next, soloMachine.step state (.server (.main (.submit true))) = some next ∧
      Beat next place input c2s got count (.reading solo []) after := by
  obtain ⟨going, here, source, sent, read, lines, loop, working, connection⟩ := beat
  subst working
  have served : (serverMachine [] true 1).step state.server (.main (.submit true)) =
      some { state.server with
        workers := after
        connections := state.server.heard (.submit solo namelessLine true)
        main := .reading solo [] } := by
    simp only [serverMachine, alive, if_true, ServerState.mainStep, loop, ServerState.perform,
      stepped, Option.map_some]
    rfl
  refine ⟨_, by simp only [soloMachine, lockMachine, served]; rfl, ?_⟩
  refine ⟨going, here, source, ?_, read, lines, rfl, rfl, ?_⟩
  · exact sent
  · have silent : (WorkersLabel.submit solo namelessLine true).results = [] := rfl
    exact (congrFun (heard_of_silent silent) solo).trans connection

/-- The worker takes a step. -/
theorem Beat.worker {label : WorkersLabel} {after : WorkersState}
    (beat : Beat state place input c2s got count main workers)
    (mine : label.isWorkers 1 = true) (heard : .noReader ∉ label.results)
    (recipient : workers.recipient label = none ∨ workers.recipient label = some solo)
    (stepped : (workersMachine [] true 1).step workers label = some after) :
    ∃ next, soloMachine.step state (.server (.worker label)) = some next ∧
      Beat next place input c2s got count main after := by
  obtain ⟨going, here, source, sent, read, lines, loop, working, connection⟩ := beat
  subst working
  have allowed : state.server.allows label = true := by
    rcases recipient with nobody | known
    · simp [ServerState.allows, nobody]
    · simp [ServerState.allows, known, ServerState.hasLeft, connection]
  have served : (serverMachine [] true 1).step state.server (.worker label) =
      some { state.server with
        workers := after
        connections := state.server.heard label
        through := state.server.follow label after } := by
    simp only [serverMachine, mine, allowed, ServerState.perform, stepped, Option.map_some,
      Bool.and_self, if_true]
  refine ⟨_, by simp only [soloMachine, lockMachine, served]; rfl, ?_⟩
  refine ⟨going, here, source, sent, read, lines, loop, rfl, ?_⟩
  rw [← connection]
  exact if_neg fun wrong => heard wrong.2

/-- The client reads a byte inside the response. -/
theorem Beat.read {buffer rest : Bytes} {byte : UInt8}
    (beat : Beat state (.reading namelessWritten buffer) input c2s got count main workers)
    (head : (workers.fifo solo).drop got = byte :: rest)
    (goes : endsResponse (buffer ++ [byte]) = false) :
    ∃ next, soloMachine.step state .read = some next ∧
      Beat next (.reading namelessWritten (buffer ++ [byte])) input c2s (got + 1) count main
        workers := by
  obtain ⟨going, here, source, sent, read, lines, loop, working, connection⟩ := beat
  subst working read
  refine ⟨{ state with
    got := state.got + 1, place := .reading namelessWritten (buffer ++ [byte]) }, ?_, ?_⟩
  · simp only [soloMachine, lockMachine, LockState.unread, head, List.head?_cons, Option.bind_some,
      here, goes, Bool.false_eq_true, if_false]
  · exact ⟨going, rfl, source, sent, rfl, lines, loop, rfl, connection⟩

/-- The client reads the end of the response. -/
theorem Beat.reads {rest : Bytes}
    (beat : Beat state (.reading namelessWritten (bytes "-1")) input c2s got count main workers)
    (head : (workers.fifo solo).drop got = 10 :: rest) :
    ∃ next, soloMachine.step state .read = some next ∧
      Beat next .looping input c2s (got + 1) count main workers := by
  obtain ⟨going, here, source, sent, read, lines, loop, working, connection⟩ := beat
  subst working read
  have ends : endsResponse (bytes "-1" ++ [10]) = true := by decide
  have goes : (state.client.processReply namelessWritten (bytes "-1" ++ [10])).going = true ∧
      (state.client.processReply namelessWritten (bytes "-1" ++ [10])).input = state.client.input := by
    have login : namelessWritten.command = bytes "Login" := rfl
    have accepted : ¬ (stripNewline (copyText maxResponseLen (bytes "-1" ++ [10]))).take 6 =
      bytes "Reject" := by decide
    have balance : parseIntegerReply (bytes "-1" ++ [10]) = some (-1) := by decide
    simp only [ClientMain.processReply, if_pos login, if_neg accepted, balance]
    exact ⟨going, trivial⟩
  refine ⟨{ state with got := state.got + 1 }.finish namelessWritten (bytes "-1" ++ [10]), ?_, ?_⟩
  · simp only [soloMachine, lockMachine, LockState.unread, head, List.head?_cons, Option.bind_some,
      here, ends, if_true]
  · exact ⟨goes.1, if_pos goes.1, goes.2.trans source, sent, rfl, lines, loop, rfl, connection⟩

end Steps

/-! ## All lines -/

section Runs
variable {state : LockState} {input : Bytes} {count : Nat} {stream : Stream}
  {answered : List (Request × Option Bytes)}

/-- What the client wrote was answered. -/
abbrev Between (state : LockState) (input : Bytes) (count : Nat) (stream : Stream)
    (answered : List (Request × Option Bytes)) : Prop :=
  Beat state .looping input [] (3 * count) count (.reading solo [])
    (soloWorkers count [] stream answered)

/-- The client writes a line, and the server handles it. -/
def handledLine : List LockLabel :=
  [.pass, .write 6, .server (.main (.read (.data namelessLine))), .server (.main (.submit true)),
    .server (.worker (.dequeue 0)), .server (.worker (.advance 0 {}))]

/-- A line is handled. -/
theorem Beat.handles (between : Between state (namelessLine ++ input) count stream answered)
    (even : Even count stream) (below : count + 1 < 2 ^ 64) :
    ∃ next, soloMachine.run state handledLine = some next ∧
      Beat next (.reading namelessWritten []) input [] (3 * count) (count + 1) (.reading solo [])
        (soloWorking count (.finished (some namelessReply)) stream answered) := by
  have connected : (soloWorkers count [] stream answered).isDisconnected solo = false := by
    simp [WorkersState.isDisconnected, soloWorkers, even.output]
  obtain ⟨first, passed, beat⟩ := between.pass
  obtain ⟨second, wrote, beat⟩ := beat.write
  obtain ⟨third, received, beat⟩ := beat.received rfl connected
  obtain ⟨fourth, submitted, beat⟩ := beat.submitted rfl (solo_submit even below)
  obtain ⟨fifth, dequeued, beat⟩ :=
    beat.worker rfl (by simp [WorkersLabel.results]) (.inl rfl) solo_dequeue
  obtain ⟨sixth, advanced, beat⟩ :=
    beat.worker rfl (by simp [WorkersLabel.results]) (.inl rfl) solo_advance
  refine ⟨sixth, ?_, beat⟩
  simp only [handledLine, Machine.run, passed, wrote, received, submitted, dequeued, advanced,
    Option.bind_some]

/-- The server answers it, and the client reads the response. -/
def answeredLine : List LockLabel :=
  handledLine ++ [.server (.worker (.respond 0 true [.wrote 3])), .read, .read, .read]

/-- A line is answered. -/
theorem Beat.answers (between : Between state (namelessLine ++ input) count stream answered)
    (even : Even count stream) (below : count < seqLimit) :
    ∃ next after entries, soloMachine.run state answeredLine = some next ∧
      Between next input (count + 1) after entries ∧ Even (count + 1) after := by
  have small : count + 1 < 2 ^ 64 := by
    simp only [seqLimit, maxPendingResponses] at below
    omega
  obtain ⟨middle, ran, beat⟩ := between.handles even small
  obtain ⟨after, stepped, later⟩ := even.write below
  obtain ⟨first, responded, beat⟩ := beat.worker rfl (by simp [WorkersLabel.results])
    (.inr (by simp [WorkersState.recipient, soloWorking, soloRequest]))
    (solo_respond stepped later.alive)
  -- the response is behind what the client has read
  have fifo : (soloWorkers (count + 1) [] after
      (answered ++ [(soloRequest count, some namelessReply)])).fifo solo =
        (List.replicate count namelessReply).flatten ++ namelessReply := by
    simp only [WorkersState.fifo, soloWorkers, Function.update_self, Option.map_some,
      Option.getD_some, later.fifo, List.replicate_succ', List.flatten_concat]
  have length : (List.replicate count namelessReply).flatten.length = 3 * count := by
    simp [namelessReply, bytes, Nat.mul_comm]
  have behind : ∀ index, ((soloWorkers (count + 1) [] after
      (answered ++ [(soloRequest count, some namelessReply)])).fifo solo).drop (3 * count + index) =
        namelessReply.drop index := by
    intro index
    rw [fifo, ← length, List.drop_length_add_append]
  obtain ⟨second, one, beat⟩ := beat.read (behind 0) (by decide)
  obtain ⟨third, two, beat⟩ := beat.read (behind 1) (by decide)
  obtain ⟨fourth, three, beat⟩ := beat.reads (behind 2)
  refine ⟨fourth, after, _, ?_, beat, later⟩
  refine Machine.run_append_some.mpr ⟨middle, ran, ?_⟩
  simp only [Machine.run, responded, one, two, three, Option.bind_some]

/-- Lines are answered one after the other. -/
theorem Beat.rounds (lines : Nat)
    (between : Between state ((List.replicate lines namelessLine).flatten ++ input) count stream
      answered)
    (even : Even count stream) (below : count + lines ≤ seqLimit) :
    ∃ next after entries,
      soloMachine.run state (List.replicate lines answeredLine).flatten = some next ∧
        Between next input (count + lines) after entries ∧ Even (count + lines) after := by
  induction lines generalizing state count stream answered with
  | zero => exact ⟨state, stream, answered, rfl, between, even⟩
  | succ lines ih =>
    rw [List.replicate_succ, List.flatten_cons, List.append_assoc] at between
    obtain ⟨middle, after, entries, ran, between, even⟩ := between.answers even (by omega)
    obtain ⟨next, last, all, rest, between, even⟩ := ih between even (by omega)
    rw [Nat.add_right_comm, Nat.add_assoc] at between even
    refine ⟨next, last, all, ?_, between, even⟩
    rw [List.replicate_succ, List.flatten_cons]
    exact Machine.run_append_some.mpr ⟨middle, ran, rest⟩

/-- The server accepts the client and is going to read from it. -/
def acceptedSolo : List LockLabel :=
  [.server (.main (.poll (some (solo, 3, 4)))), .server (.main (.beginCleanup 0)),
    .server (.main (.visit true)), .server (.main .endCleanup),
    .server (.main (.select [solo])), .server (.main .serve)]

/-- Nothing was written yet. -/
theorem acceptedSolo_between (input : Bytes) : ∃ next stream,
    soloMachine.run (LockState.start input) acceptedSolo = some next ∧
      Between next input 0 stream [] ∧ Even 0 stream := by
  refine ⟨_, { output := { fifoS2c := some 4 } }, rfl, ⟨rfl, rfl, rfl, rfl, rfl, rfl, rfl, ?_, rfl⟩,
    rfl, rfl, rfl⟩
  rfl

/-- A text of replies has as many newlines. -/
theorem count_replies {texts : List Bytes} (replies : ∀ text ∈ texts, IsReply text) :
    texts.flatten.count 10 = texts.length := by
  induction texts with
  | nil => rfl
  | cons text texts ih =>
    obtain ⟨body, same, plain, -⟩ := replies text List.mem_cons_self
    have none : body.count 10 = 0 := List.count_eq_zero.mpr fun member => (plain 10 member).1 rfl
    rw [List.flatten_cons, List.count_append, ih fun other member =>
      replies other (List.mem_cons_of_mem text member), same, List.count_append, none]
    simp [Nat.add_comm]

/-- Where a response was discarded, client and server are not in lock-step. -/
theorem not_lockStep {place : ClientPlace} {c2s : Bytes} {got lines : Nat} {main : MainPc}
    (beat : Beat state place input c2s got lines main
      (soloWorkers (count + 1) [] stream answered))
    (even : Even count stream) : ¬ LockStep auth deadly workerCount solo state := by
  intro inStep
  obtain ⟨texts, fifo, replies, -, complete, -⟩ := inStep.responses
  rw [beat.workers] at fifo complete
  have serving : state.Serving solo := by
    rw [LockState.Serving, beat.workers]
    simp [WorkersState.isDisconnected, soloWorkers, even.output]
  have length : texts.length = count := by
    rw [← count_replies fun text member => ?_, ← fifo]
    · simp only [WorkersState.fifo, soloWorkers, Function.update_self, Option.map_some,
        Option.getD_some, even.fifo]
      rw [count_replies fun text member => ?_, List.length_replicate]
      rw [List.eq_of_mem_replicate member]
      exact ⟨bytes "-1", rfl, by decide, by decide⟩
    · obtain ⟨index, inside, rfl⟩ := List.mem_iff_getElem.mp member
      exact (replies index _ (List.getElem?_eq_getElem inside)).1
  have submitted : (soloWorkers (count + 1) [] stream answered).submitted solo =
      List.replicate (count + 1) namelessLine := by
    simp [WorkersState.submitted, soloWorkers]
  rcases complete serving count (by rw [submitted, List.length_replicate]; omega) with
    below | ⟨request, member, -⟩ | ⟨worker, request, holding, -⟩
  · omega
  · simp [Pool.queued, findClientQueue, soloWorkers, soloPool] at member
  · cases holding

/-- The client writes one line more than there are sequence numbers. -/
def tooManyLines : List LockLabel :=
  acceptedSolo ++ (List.replicate seqLimit answeredLine).flatten ++
    (handledLine ++ [.server (.worker (.respond 0 true []))])

/-- The last of them is not answered. -/
theorem tooManyLines_unanswered : ∃ last,
    soloMachine.run (LockState.start (List.replicate (seqLimit + 1) namelessLine).flatten)
      tooManyLines = some last ∧ ¬ LockStep [] true 1 solo last := by
  have room : seqLimit + 1 < 2 ^ 64 := by decide
  unfold tooManyLines
  rw [List.replicate_succ', List.flatten_append]
  generalize limit : seqLimit = count at room ⊢
  obtain ⟨first, stream, accepted, between, even⟩ := acceptedSolo_between
    ((List.replicate count namelessLine).flatten ++ [namelessLine].flatten)
  obtain ⟨second, after, entries, ran, between, even⟩ :=
    between.rounds count even (by omega)
  rw [Nat.zero_add] at between even
  have between : Between second (namelessLine ++ []) count after entries := by
    simpa using between
  obtain ⟨third, handled, beat⟩ := between.handles even room
  subst limit
  obtain ⟨final, stepped, same⟩ := even.discard
  obtain ⟨last, responded, beat⟩ := beat.worker rfl (by simp [WorkersLabel.results])
    (.inr (by simp [WorkersState.recipient, soloWorking, soloRequest]))
    (solo_respond stepped same.alive)
  refine ⟨last, Machine.run_append_some.mpr ⟨second, Machine.run_append_some.mpr
    ⟨first, accepted, ran⟩, Machine.run_concat handled responded⟩, not_lockStep beat same⟩

/-- Client and server do not stay in lock-step for ever. -/
theorem lock_step_false : ¬ ∀ (auth : AuthDb) (deadly : Bool) (workerCount : Nat)
    (client : ClientId) (input : Bytes) (labels : List LockLabel) (last : LockState),
    BalancesFit auth →
    (lockMachine auth deadly workerCount client).EveryStep (LockState.Unfailing deadly client)
      (LockState.start input) labels →
    (lockMachine auth deadly workerCount client).run (LockState.start input) labels = some last →
    LockStep auth deadly workerCount client last := by
  intro claim
  obtain ⟨last, ran, off⟩ := tooManyLines_unanswered
  refine off (claim [] true 1 solo _ tooManyLines last (by simp [BalancesFit]) ?_ ran)
  refine Machine.everyStep_of_labels fun label member state =>
    unfailing_of_isFine ?_ state
  rcases List.mem_append.mp member with early | late
  · rcases List.mem_append.mp early with first | rounds
    · exact (by decide : ∀ label ∈ acceptedSolo, label.isFine = true) label first
    · obtain ⟨round, same, inside⟩ := List.mem_flatten.mp rounds
      rw [List.eq_of_mem_replicate same] at inside
      exact (by decide : ∀ label ∈ answeredLine, label.isFine = true) label inside
  · exact (by decide : ∀ label ∈ handledLine ++ [.server (.worker (.respond 0 true []))],
      label.isFine = true) label late

end Runs

end AnimateService
