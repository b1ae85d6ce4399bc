import AnimateService.Lines
import AnimateService.LockModel
import AnimateService.Quiescence

/-!
# Client and server in lock-step

Every buffer that the client writes is a line, and the server cuts it out of the bytes that it
reads wherever the reads end. Every response is a line as well, and the client finds its end
wherever the writes end. So the client has one line in the server at a time, and what it reads
behind a line is the response to it. Each request has one response: where a worker is done with a
request its response is written, and where the workers have nothing left to do only requests that
are held up at a barrier are without one.
-/
namespace AnimateService

open Transition

/-- The bytes that the client has to write. -/
def ClientPlace.left : ClientPlace → Bytes
  | .writing _ left | .parting left => left
  | _ => []

/-- The bytes that the client has read of a response. -/
def ClientPlace.buffer : ClientPlace → Bytes
  | .reading _ buffer | .waiting buffer => buffer
  | _ => []

/-- The bytes on their way to the end of a line in the server. -/
def LockState.inTransit (state : LockState) (client : ClientId) : Bytes :=
  state.server.readBuffer client ++ (state.c2s ++ state.place.left)

/-- The buffers on their way into the pool. -/
def LockState.underWay (state : LockState) (client : ClientId) : List Bytes :=
  state.server.toSubmit client ++
    if state.inTransit client = [] then [] else [state.inTransit client]

/-- The server lives and has not given the client up. -/
def LockState.Serving (state : LockState) (client : ClientId) : Prop :=
  state.server.workers.alive = true ∧ state.server.workers.isDisconnected client = false

/-- No write to the client fails and no allocation that a line or a response needs. -/
def LockState.Unfailing (deadly : Bool) (client : ClientId) (state : LockState) :
    LockLabel → Prop
  | .server (.worker (.respond worker copied results)) =>
    state.server.workers.recipient (.respond worker copied results) = some client →
      copied = true ∧ ∀ result ∈ results, result.fails deadly = false ∧ result.kills deadly = false
  | .server (.main (.submit memory)) => state.server.toSubmit client ≠ [] → memory = true
  | _ => True

/-- All that the workers can do is to find flags set, unless a write to the client fails. -/
def LockState.AtRest (auth : AuthDb) (deadly : Bool) (workerCount : Nat) (client : ClientId)
    (state : LockState) : Prop :=
  ∀ action next, state.Unfailing deadly client (.server (.worker action)) →
    (lockMachine auth deadly workerCount client).step state (.server (.worker action)) =
      some next → workOf state.server.workers action = 0

/-- A worker's handler waits at a barrier. -/
def WorkersState.AtBarrier (state : WorkersState) (worker : ThreadId) : Prop :=
  ∃ work, state.rpc.threads worker = some work ∧ work.pc.isBlocked state.rpc.world.store = true

/-- A request of the client waits at a barrier, or waits while every worker does. -/
def HeldUp (workerCount : Nat) (state : WorkersState) (client : ClientId) (seqNum : Nat) : Prop :=
  (∃ worker request, state.inHand worker = some request ∧ request.client = client ∧
    request.seqNum = seqNum ∧ state.AtBarrier worker) ∨
  (∃ request ∈ state.pool.queued client, request.seqNum = seqNum) ∧
    ∀ worker < workerCount, state.AtBarrier worker

/-- The server has written these responses to the client. -/
structure Responded (auth : AuthDb) (deadly : Bool) (workerCount : Nat) (client : ClientId)
    (state : LockState) (texts : List Bytes) : Prop where
  /-- It has written nothing else. -/
  written : state.server.workers.fifo client = texts.flatten
  /-- Each is one line, and the response to the request with its number. -/
  replies : ∀ index text, texts[index]? = some text → IsReply text ∧
    ∃ line, state.lines[index]? = some line ∧
      (⟨client, index, line⟩, some text) ∈ state.server.workers.answered
  /-- Where a worker is done with a request, the response is among them. -/
  finished : state.Serving client → ∀ entry ∈ state.server.workers.answered,
    entry.1.client = client → ∃ text, entry.2 = some text ∧ texts[entry.1.seqNum]? = some text
  /-- A request whose response is not among them is in the server's hands. -/
  unfinished : state.Serving client → ∀ index < (state.server.workers.submitted client).length,
    index < texts.length ∨ Outstanding state.server.workers client index
  /-- Where the workers rest, it is held up at a barrier. -/
  rest : state.Serving client → state.server.hasLeft client = false →
    state.AtRest auth deadly workerCount client →
    ∀ index < (state.server.workers.submitted client).length,
      index < texts.length ∨ HeldUp workerCount state.server.workers client index

/-- Client and server are in lock-step. -/
structure LockStep (auth : AuthDb) (deadly : Bool) (workerCount : Nat) (client : ClientId)
    (state : LockState) : Prop where
  /-- What the client writes are lines. -/
  whole : ∀ line ∈ state.lines, IsLine line
  /-- No request of the client is anything else. -/
  submitted : ∃ rest, state.lines = state.server.workers.submitted client ++ rest
  /-- They become its requests, each once and in order, but for the one under way. -/
  requests : state.Serving client →
    state.lines = state.server.workers.submitted client ++ state.underWay client
  /-- What the server wrote is the responses to the requests, each once and in order. -/
  responses : ∃ texts, Responded auth deadly workerCount client state texts
  /-- No request has two responses. -/
  once : ∀ first ∈ state.server.workers.answered, ∀ second ∈ state.server.workers.answered,
    first.1.client = client → second.1.client = client → first.1.seqNum = second.1.seqNum →
    first = second
  /-- What the client reads behind a buffer is the response to it. -/
  replies : ∀ entry ∈ state.replies, ∃ index line, entry.1 = index + 1 ∧
    state.lines[index]? = some line ∧ IsReply entry.2 ∧
    (⟨client, index, line⟩, some entry.2) ∈ state.server.workers.answered
  /-- Before the next line it has read a response to each. -/
  pace : state.place = .looping → state.replies.map Prod.fst = List.range' 1 state.lines.length
  /-- For a line that is skipped nothing is written or read. -/
  skipped : ∀ rest, state.client.pass = .skipped rest →
    state.pass = { state with client := { state.client with input := rest } }

/-! ## The server's side -/

/-- What the server knows of the client. -/
structure Fed (workerCount : Nat) (client : ClientId) (server : ServerState) (texts : List Bytes)
    (work : Option Request) : Prop where
  /-- Its requests and the responses to them. -/
  exchange : Exchange client server.workers texts work
  /-- The workers. -/
  sound : server.workers.Sound workerCount
  /-- What they are going to send are replies. -/
  handled : server.workers.Replies
  /-- What they sent as well. -/
  answers : server.workers.AnswersReplies
  /-- The client has a queue. -/
  queue : server.workers.HasQueue client
  /-- Nothing was read from a client that was not accepted. -/
  known : server.workers.clients client = none → server.connections client = none

variable {auth : AuthDb} {deadly : Bool} {workerCount : Nat} {server next : ServerState}
  {label : ServerLabel} {client : ClientId} {texts : List Bytes} {work : Option Request}

/-- A server without clients. -/
theorem fed_initial : Fed workerCount client {} [] none where
  exchange :=
    { atWork := .idle rfl fun _ _ there => by cases there
      unknown := fun _ => ⟨rfl, rfl⟩
      accepted := fun _ there => by cases there
      fifo := fun _ there => by cases there
      counted := fun _ there => by cases there
      current := fun _ _ there => by cases there
      connected := fun _ there => by cases there
      answered := fun _ there => by cases there
      once := fun _ there => by cases there
      written := fun _ _ there => by cases there }
  sound := workers_sound_initial workerCount
  handled := fun _ _ _ there => by cases there
  answers := fun _ there => by cases there
  queue := ⟨rfl, fun _ there => by cases there⟩
  known := fun _ => rfl

/-- No more was answered than was submitted. -/
theorem Exchange.texts_le {state : WorkersState} (exchange : Exchange client state texts work) :
    texts.length ≤ (state.submitted client).length := by
  cases present : state.clients client with
  | none =>
    rw [(exchange.unknown present).1]
    exact Nat.zero_le _
  | some record =>
    rw [submitted_of_some present]
    exact exchange.counted record present

/-- The bytes that were written to the client. -/
theorem Exchange.fifo_eq {state : WorkersState} (exchange : Exchange client state texts work) :
    state.fifo client = texts.flatten := by
  cases present : state.clients client with
  | none =>
    rw [(exchange.unknown present).1, WorkersState.fifo, present]
    rfl
  | some record =>
    rw [WorkersState.fifo, present]
    exact exchange.fifo record present

/-- What was answered while the client is served: all requests but the one at work. -/
theorem Exchange.count {state : WorkersState} (exchange : Exchange client state texts work)
    (connected : state.isDisconnected client = false) :
    (state.submitted client).length = texts.length + (if work = none then 0 else 1) := by
  cases present : state.clients client with
  | none =>
    obtain ⟨rfl, rfl⟩ := exchange.unknown present
    rw [WorkersState.submitted, present]
    rfl
  | some record =>
    have fine := (isDisconnected_of_some present).symm.trans connected
    rw [submitted_of_some present]
    cases work with
    | none => exact (exchange.connected record present fine).2.2.2 rfl
    | some request => exact (exchange.current record request present rfl).2.2.1

/-- The response to the request at work is still to come. -/
theorem Exchange.outstanding {state : WorkersState} (exchange : Exchange client state texts work)
    (connected : state.isDisconnected client = false) {index : Nat}
    (inside : index < (state.submitted client).length) :
    index < texts.length ∨ Outstanding state client index := by
  rw [exchange.count connected] at inside
  cases work with
  | none => exact .inl (by simpa using inside)
  | some request =>
    rcases Nat.lt_or_ge index texts.length with before | behind
    · exact .inl before
    · have here : index = texts.length := by simp at inside; omega
      cases present : state.clients client with
      | none => cases (exchange.unknown present).2
      | some record =>
        obtain ⟨owner, seqNum, -, -⟩ := exchange.current record request present rfl
        rw [here, ← seqNum]
        right
        cases exchange.atWork with
        | waits queued free => exact .inl ⟨request, queued ▸ List.mem_cons_self, rfl⟩
        | held queued holding owner only => exact .inr ⟨_, request, holding, owner, rfl⟩

/-- The response to a request with which a worker is done has been written. -/
theorem Exchange.finished {state : WorkersState} (exchange : Exchange client state texts work)
    (connected : state.isDisconnected client = false) :
    ∀ entry ∈ state.answered, entry.1.client = client →
      ∃ text, entry.2 = some text ∧ texts[entry.1.seqNum]? = some text := by
  intro entry member mine
  obtain ⟨⟨text, response⟩, line, before⟩ := exchange.answered entry member mine
  have count := exchange.count connected
  have below : entry.1.seqNum < texts.length := by
    have inside := (List.getElem?_eq_some_iff.mp line).1
    cases work with
    | none => simpa using inside.trans_eq count
    | some request =>
      have first := before request rfl
      cases present : state.clients client with
      | none => cases (exchange.unknown present).2
      | some record =>
        rw [(exchange.current record request present rfl).2.1] at first
        exact first
  -- the response that was written with its number is its own, for no request has two
  obtain ⟨other, there⟩ :=
    exchange.written entry.1.seqNum _ (List.getElem?_eq_getElem below)
  have same := exchange.once entry member _ there mine rfl rfl
  exact ⟨_, congrArg Prod.snd same, List.getElem?_eq_getElem below⟩

/-- The server closes its end behind the flag only. -/
theorem Exchange.hungUp {state : WorkersState} (exchange : Exchange client state texts work)
    (closed : state.hungUp client = true) (alive : state.alive = true) :
    state.isDisconnected client = true := by
  cases present : state.clients client with
  | none => simp [WorkersState.hungUp, alive, present] at closed
  | some record =>
    have shut : record.stream.output.fifoS2c = none := by
      simpa [WorkersState.hungUp, alive, present] using closed
    rw [isDisconnected_of_some present]
    by_contra connected
    have opened := (exchange.connected record present (by simpa using connected)).2.1.opened
    rw [shut] at opened
    cases opened

/-- A request without a response is one for which there was no memory. -/
theorem WorkersStep.unanswered {state after : WorkersState} {action : WorkersLabel}
    (step : WorkersStep auth deadly workerCount state action after) {request : Request}
    (without : (request, none) ∈ after.answered) :
    (request, none) ∈ state.answered ∨
      ∃ worker, action = .respond worker false [] ∧ state.inHand worker = some request := by
  cases step with
  | respond held working answer present called =>
    obtain ⟨stream, -, rfl⟩ := send_some called
    rcases List.mem_append.mp without with old | new
    · exact .inl old
    · cases List.mem_singleton.mp new
  | silent held working answer =>
    rename_i worker copied other served response
    rcases List.mem_append.mp without with old | new
    · exact .inl old
    · obtain ⟨rfl, -⟩ := Prod.mk.inj (List.mem_singleton.mp new)
      cases copied with
      | false => exact .inr ⟨worker, rfl, held⟩
      | true => cases response <;> cases answer
  | _ => exact .inl without

/-- A line of a connected client is accepted if there is memory for it. -/
theorem WorkersStep.accepts {before after : WorkersState} {line : Bytes}
    (step : WorkersStep auth deadly workerCount before (.submit client line true) after)
    (queue : before.HasQueue client) (connected : before.isDisconnected client = false) :
    after.submitted client = before.submitted client ++ [line] := by
  cases step with
  | submit present submitted =>
    rw [submitted_of_some clients_setClient_self, submitted_of_some present]
  | refuse present refused =>
    have fine := (isDisconnected_of_some present).symm.trans connected
    obtain ⟨pool, accepted⟩ := queue.accepts present fine line
    cases accepted.symm.trans refused

/-- Every step of the server where nothing fails and one line at a time is submitted. -/
theorem Fed.step (fed : Fed workerCount client server texts work) (fits : BalancesFit auth)
    (stepped : (serverMachine auth deadly workerCount).step server label = some next)
    (unfailing : ∀ worker copied results, label = .worker (.respond worker copied results) →
      server.workers.recipient (.respond worker copied results) = some client →
        copied = true ∧
          ∀ result ∈ results, result.fails deadly = false ∧ result.kills deadly = false)
    (bounded : (next.workers.submitted client).length ≤ seqLimit)
    (alone : next.workers.submitted client ≠ server.workers.submitted client → work = none) :
    ∃ more left, Fed workerCount client next (texts ++ more) left ∧
      (server.workers.alive = false ∨ server.workers.isDisconnected client = true → more = []) := by
  have known := (serverMachine_step stepped).known fed.known
  rcases serverMachine_workers stepped with same | ⟨alive, action, step, sends⟩
  · refine ⟨[], work, ?_, fun _ => rfl⟩
    rw [List.append_nil]
    exact ⟨same ▸ fed.exchange, same ▸ fed.sound, same ▸ fed.handled, same ▸ fed.answers,
      same ▸ fed.queue, known⟩
  · have small : ∀ record, next.workers.clients client = some record →
        record.submitted.length ≤ seqLimit := by
      intro record present
      rw [submitted_of_some present] at bounded
      exact bounded
    have fine : ∀ worker copied results request, action = .respond worker copied results →
        server.workers.inHand worker = some request → request.client = client →
        ∀ result ∈ results, result.fails deadly = false ∧ result.kills deadly = false := by
      rintro worker copied results request rfl holding owner
      refine (unfailing worker copied results (sends _ _ _ rfl) ?_).2
      simp [WorkersState.recipient, holding, owner]
    have given : ∀ request, (request, none) ∈ next.workers.answered → request.client = client →
        (request, none) ∈ server.workers.answered := by
      intro request without owner
      rcases step.unanswered without with old | ⟨worker, rfl, holding⟩
      · exact old
      · have copied := (unfailing worker false [] (sends _ _ _ rfl)
          (by simp [WorkersState.recipient, holding, owner])).1
        cases copied
    obtain ⟨more, left, exchange, silent⟩ :=
      fed.exchange.step fed.sound.formed step small fine given alone
    refine ⟨more, left, ⟨exchange, step.sound fed.sound alive, step.replies fits fed.handled,
      step.answersReplies fed.handled fed.answers, step.hasQueue fed.queue, known⟩, ?_⟩
    rintro (dead | gone)
    · cases alive.symm.trans dead
    · exact silent gone

/-! ## The client's side -/

/-- How far the client is in what was written to it. -/
structure Reading (state : LockState) (texts : List Bytes) : Prop where
  /-- It has read some of the responses. -/
  read : state.replies.length ≤ texts.length
  /-- These are the first. -/
  replies : ∀ index entry, state.replies[index]? = some entry →
    entry.1 = index + 1 ∧ texts[index]? = some entry.2
  /-- It has read as many bytes. -/
  got : state.got = (texts.take state.replies.length).flatten.length + state.place.buffer.length
  /-- It may be inside the next. -/
  front : ∃ rest, (texts.drop state.replies.length).flatten = state.place.buffer ++ rest
  /-- It is not at its end. -/
  inside : 10 ∉ state.place.buffer

/-- How many responses the client has read, by the place in its program. -/
def LockState.Paced (client : ClientId) (texts : List Bytes) (state : LockState) : Prop :=
  match state.place with
  | .looping => state.lines.length = state.replies.length
  | .writing _ _ | .reading _ _ => state.lines.length = state.replies.length + 1
  | .parting _ | .waiting _ =>
    state.lines.length = state.replies.length + 1 ∨
      ¬ state.Serving client ∧ texts.length = state.replies.length
  | .ended => True

variable {state : LockState}

/-- The bytes that the client has not read. -/
theorem Reading.unread (reading : Reading state texts)
    (fifo : state.server.workers.fifo client = texts.flatten) {rest : Bytes}
    (front : (texts.drop state.replies.length).flatten = state.place.buffer ++ rest) :
    state.unread client = rest := by
  have whole : texts.flatten =
      (texts.take state.replies.length).flatten ++ state.place.buffer ++ rest := by
    rw [List.append_assoc, ← front, ← List.flatten_append, List.take_append_drop]
  rw [LockState.unread, fifo, whole, reading.got, ← List.length_append, List.drop_left]

/-- More may be written. -/
theorem Reading.more (reading : Reading state texts) (more : List Bytes) :
    Reading state (texts ++ more) := by
  have first : (texts ++ more).take state.replies.length = texts.take state.replies.length :=
    List.take_append_of_le_length reading.read
  have behind : (texts ++ more).drop state.replies.length =
      texts.drop state.replies.length ++ more := List.drop_append_of_le_length reading.read
  obtain ⟨rest, front⟩ := reading.front
  refine ⟨?_, ?_, ?_, ⟨rest ++ more.flatten, ?_⟩, reading.inside⟩
  · rw [List.length_append]
    exact Nat.le_add_right_of_le reading.read
  · intro index entry there
    obtain ⟨number, text⟩ := reading.replies index entry there
    refine ⟨number, ?_⟩
    rw [List.getElem?_append_left (List.getElem?_eq_some_iff.mp text).1]
    exact text
  · rw [first]
    exact reading.got
  · rw [behind, List.flatten_append, front, List.append_assoc]

/-- Two texts without newlines that go on with one, or with a byte, differ in that byte only. -/
theorem append_newline {body buffer later rest : Bytes} {byte : UInt8} (plain : 10 ∉ body)
    (inside : 10 ∉ buffer) (same : body ++ 10 :: later = buffer ++ byte :: rest) :
    if byte = 10 then body = buffer else ∃ left, body = buffer ++ byte :: left := by
  rcases List.append_eq_append_iff.mp same with ⟨middle, rfl, behind⟩ | ⟨middle, rfl, behind⟩
  · cases middle with
    | nil =>
      obtain ⟨rfl, -⟩ := List.cons.inj behind
      rw [if_pos rfl, List.append_nil]
    | cons first middle =>
      obtain ⟨rfl, -⟩ := List.cons.inj behind
      simp at inside
  · cases middle with
    | nil =>
      obtain ⟨rfl, -⟩ := List.cons.inj behind
      rw [if_pos rfl, List.append_nil]
    | cons first middle =>
      obtain ⟨rfl, -⟩ := List.cons.inj behind
      have other : byte ≠ 10 := by
        rintro rfl
        simp at plain
      rw [if_neg other]
      exact ⟨middle, rfl⟩

/-- The client's `read` of a byte ends the response or stays inside it. -/
theorem endsResponse_iff {text buffer behind rest : Bytes} {byte : UInt8} (reply : IsReply text)
    (inside : 10 ∉ buffer) (same : text ++ behind = buffer ++ byte :: rest) :
    if endsResponse (buffer ++ [byte]) then text = buffer ++ [byte] else 10 ∉ buffer ++ [byte] := by
  obtain ⟨body, rfl, plain, short⟩ := reply
  have free : 10 ∉ body := fun member => (plain 10 member).1 rfl
  rw [List.append_assoc, List.singleton_append] at same
  have split_ := append_newline free inside same
  by_cases newline : byte = 10
  · rw [if_pos newline] at split_
    have ends : endsResponse (buffer ++ [byte]) = true := by simp [endsResponse, newline]
    rw [if_pos ends, split_, newline]
  · rw [if_neg newline] at split_
    obtain ⟨left, rfl⟩ := split_
    have room : (buffer ++ [byte]).length + 1 < maxResponseLen := by
      refine lt_of_le_of_lt ?_ short
      simp only [List.length_append, List.length_cons, List.length_nil]
      omega
    have goes : ¬ endsResponse (buffer ++ [byte]) = true := by
      simp only [endsResponse, decide_eq_true_eq, not_or, not_not]
      exact ⟨by simpa using newline, room⟩
    rw [if_neg goes, List.mem_append, not_or]
    exact ⟨inside, by simpa using Ne.symm newline⟩

/-- A `read` of a byte gives the client the next response or a part of it. -/
theorem Reading.byte (reading : Reading state texts) (replies : ∀ text ∈ texts, IsReply text)
    (fifo : state.server.workers.fifo client = texts.flatten) {byte : UInt8}
    (head : (state.unread client).head? = some byte) :
    ∃ text later, texts.drop state.replies.length = text :: later ∧
      (∃ rest, (text :: later).flatten = state.place.buffer ++ [byte] ++ rest) ∧
      if endsResponse (state.place.buffer ++ [byte]) then text = state.place.buffer ++ [byte]
      else 10 ∉ state.place.buffer ++ [byte] := by
  obtain ⟨rest, front⟩ := reading.front
  rw [reading.unread fifo front] at head
  obtain ⟨rest, rfl⟩ : ∃ left, rest = byte :: left := by
    cases rest with
    | nil => cases head
    | cons first left =>
      obtain rfl := Option.some.inj head
      exact ⟨left, rfl⟩
  cases behind : texts.drop state.replies.length with
  | nil => simp [behind] at front
  | cons text later =>
    rw [behind] at front
    refine ⟨text, later, rfl, ⟨rest, by rw [front]; simp⟩, ?_⟩
    have member : text ∈ texts := List.mem_of_mem_drop (behind ▸ List.mem_cons_self)
    exact endsResponse_iff (replies text member) reading.inside front

/-- Where nothing is left to read the client has read all responses and is not inside one. -/
theorem Reading.end_ (reading : Reading state texts) (replies : ∀ text ∈ texts, IsReply text)
    (fifo : state.server.workers.fifo client = texts.flatten) (none : state.unread client = []) :
    texts.length = state.replies.length ∧ state.place.buffer = [] := by
  obtain ⟨rest, front⟩ := reading.front
  rw [reading.unread fifo front] at none
  rw [none, List.append_nil] at front
  cases behind : texts.drop state.replies.length with
  | nil =>
    rw [behind] at front
    exact ⟨Nat.le_antisymm (List.drop_eq_nil_iff.mp behind) reading.read, front.symm⟩
  | cons text later =>
    have member : text ∈ texts := List.mem_of_mem_drop (behind ▸ List.mem_cons_self)
    obtain ⟨body, rfl, -, -⟩ := replies text member
    refine absurd ?_ reading.inside
    rw [← front, behind]
    simp

/-! ## The workers at rest -/

/-- A whole write neither fails nor ends the process. -/
theorem WriteResult.fine_of_takes {result : WriteResult} (takes : result.takes = true) :
    result.fails deadly = false ∧ result.kills deadly = false := by
  cases result with
  | wrote count => simpa [WriteResult.takes, WriteResult.fails, WriteResult.kills] using takes
  | _ => cases takes

/-- What a worker can do it can do with the client there. -/
theorem worker_possible {action : WorkersLabel} {after : WorkersState}
    (alive : state.server.workers.alive = true)
    (step : WorkersStep auth deadly workerCount state.server.workers action after)
    (works : action.isWorkers workerCount = true) (allowed : state.server.allows action = true) :
    ∃ next, (lockMachine auth deadly workerCount client).step state (.server (.worker action)) =
      some next := by
  simp [lockMachine, LockState.allows, serverMachine, works, allowed, ServerState.perform,
    step.possible alive]

/-- A worker can answer a request that is handled. Where the client stays it takes what is written,
and where another has left nothing is written to it. -/
theorem Fed.responds (fed : Fed workerCount client server texts work)
    (alive : server.workers.alive = true) (staying : server.hasLeft client = false)
    {worker : ThreadId} {served : ClientId} {response : Option Bytes} (known : worker < workerCount)
    (working : server.workers.rpc.threads worker = some ⟨served, .finished response⟩) :
    ∃ results after,
      WorkersStep auth deadly workerCount server.workers (.respond worker true results) after ∧
      server.workers.recipient (.respond worker true results) = some served ∧
      server.allows (.respond worker true results) = true ∧
      (served = client → ∀ result ∈ results, result.takes = true) := by
  obtain ⟨request, held, rfl⟩ := fed.sound.formed.holding known working
  obtain ⟨record, present⟩ :=
    Option.isSome_iff_exists.mp (fed.sound.formed.held_known worker request held)
  have lives := fed.sound.living alive _ _ present
  obtain ⟨text, answer⟩ : ∃ text, workerResponse response true = some text := by
    cases response <;> exact ⟨_, rfl⟩
  have recipient : ∀ results, server.workers.recipient (.respond worker true results) =
      some request.client := fun _ => by rw [WorkersState.recipient, held]; rfl
  have responds : ∀ {results sent},
      sendOrderedResponse deadly record.stream.output request.seqNum text results = some sent →
      ∃ after,
        WorkersStep auth deadly workerCount server.workers (.respond worker true results) after := by
    intro results sent called
    have done : ∃ after, server.workers.send deadly request record text results = some after := by
      simp [WorkersState.send, streamMachine, lives, called]
    obtain ⟨after, gone⟩ := done
    exact ⟨_, .respond held working answer present gone⟩
  cases left : server.hasLeft request.client with
  | true =>
    obtain ⟨results, sent, called, unread⟩ :=
      sendOrderedResponse_unread deadly record.stream.output request.seqNum text
    obtain ⟨after, step⟩ := responds called
    refine ⟨results, after, step, recipient results, ?_, fun same => ?_⟩
    · simp only [ServerState.allows, WorkersLabel.results, Bool.or_eq_true, List.all_eq_true,
        decide_eq_true_eq]
      exact .inr fun result inside => .inr (unread result inside)
    · rw [same, staying] at left
      cases left
  | false =>
    obtain ⟨results, sent, called, -, takes⟩ :=
      sendOrderedResponse_returns deadly record.stream.output request.seqNum text
    obtain ⟨after, step⟩ := responds called
    refine ⟨results, after, step, recipient results, ?_, fun _ => takes⟩
    rw [ServerState.allows, recipient, Option.any_some, left]
    rfl

/-- Where the workers rest, each that is in a handler waits at a barrier. -/
theorem Fed.blocked (fed : Fed workerCount client state.server texts work)
    (alive : state.server.workers.alive = true) (staying : state.server.hasLeft client = false)
    (rest : state.AtRest auth deadly workerCount client) {worker : ThreadId} {thread : Thread}
    (known : worker < workerCount)
    (working : state.server.workers.rpc.threads worker = some thread) :
    thread.pc.isBlocked state.server.workers.rpc.world.store = true := by
  obtain ⟨served, pc⟩ := thread
  by_contra free
  cases finished : pc.isFinished with
  | false =>
    have step : WorkersStep auth deadly workerCount state.server.workers (.advance worker {}) _ :=
      .advance (rpcMachine_advance working finished)
    obtain ⟨next, stepped⟩ := @worker_possible auth deadly workerCount client state _ _ alive step
      (decide_eq_true known) rfl
    have none := rest (.advance worker {}) next trivial stepped
    rw [workOf, ownSteps_of_working working, if_neg free] at none
    cases none
  | true =>
    obtain ⟨response, rfl⟩ : ∃ response, pc = .finished response := by
      cases pc with
      | finished response => exact ⟨response, rfl⟩
      | _ => cases finished
    obtain ⟨results, after, step, recipient, allowed, takes⟩ :=
      @Fed.responds auth deadly _ _ _ _ _ fed alive staying _ _ _ known working
    obtain ⟨next, stepped⟩ :=
      @worker_possible auth deadly workerCount client state _ _ alive step rfl allowed
    have unfailing : state.Unfailing deadly client (.server (.worker (.respond worker true results)))
      := by
      intro mine
      rw [recipient] at mine
      exact ⟨rfl, fun result inside =>
        WriteResult.fine_of_takes (takes (Option.some.inj mine) result inside)⟩
    cases rest _ next unfailing stepped

/-- Where the workers rest and a request waits in the pool, all of them are in handlers. -/
theorem Fed.staffed (fed : Fed workerCount client state.server texts work)
    (alive : state.server.workers.alive = true)
    (rest : state.AtRest auth deadly workerCount client)
    (waits : state.server.workers.pool.waiting ≠ []) {worker : ThreadId}
    (known : worker < workerCount) : state.server.workers.rpc.threads worker ≠ none := by
  intro idle
  obtain ⟨request, pool, dequeued⟩ := fed.sound.counted.dequeues waits
  have step : WorkersStep auth deadly workerCount state.server.workers (.dequeue worker) _ :=
    .dequeue idle known dequeued
  obtain ⟨next, stepped⟩ :=
    @worker_possible auth deadly workerCount client state _ _ alive step rfl rfl
  cases rest (.dequeue worker) next trivial stepped

/-- Where the workers rest, a request without a response is held up. -/
theorem Fed.heldUp (fed : Fed workerCount client state.server texts work)
    (serving : state.Serving client) (staying : state.server.hasLeft client = false)
    (rest : state.AtRest auth deadly workerCount client) {index : Nat}
    (inside : index < (state.server.workers.submitted client).length) :
    index < texts.length ∨ HeldUp workerCount state.server.workers client index := by
  have blocked : ∀ {worker thread}, worker < workerCount →
      state.server.workers.rpc.threads worker = some thread →
      state.server.workers.AtBarrier worker := fun known working =>
    ⟨_, working, fed.blocked serving.1 staying rest known working⟩
  refine (fed.exchange.outstanding serving.2 inside).imp_right ?_
  rintro (⟨request, queued, number⟩ | ⟨worker, request, holding, owner, number⟩)
  · refine .inr ⟨⟨request, queued, number⟩, fun worker known => ?_⟩
    have waits : state.server.workers.pool.waiting ≠ [] :=
      List.ne_nil_of_mem (fed.sound.formed.pool.mem_queued.mp queued).1
    obtain ⟨thread, working⟩ :=
      Option.ne_none_iff_exists'.mp (fed.staffed serving.1 rest waits known)
    exact blocked known working
  · obtain ⟨known, pc, working⟩ := fed.sound.formed.working holding
    exact .inl ⟨worker, request, holding, owner, number, blocked known working⟩

/-! ## Both sides -/

/-- What is known of client and server between their steps. -/
structure Synced (workerCount : Nat) (client : ClientId) (state : LockState) (texts : List Bytes)
    (work : Option Request) : Prop where
  /-- The server's side. -/
  fed : Fed workerCount client state.server texts work
  /-- The client's side. -/
  reading : Reading state texts
  /-- The client writes lines. -/
  whole : ∀ line ∈ state.lines, IsLine line
  /-- No request of the client is anything else. -/
  submitted : ∃ rest, state.lines = state.server.workers.submitted client ++ rest
  /-- They become its requests. -/
  requests : state.Serving client →
    state.lines = state.server.workers.submitted client ++ state.underWay client
  /-- The client waits for each response. -/
  paced : state.Paced client texts
  /-- It is one line ahead. -/
  ahead : state.Serving client → state.lines.length ≤ state.replies.length + 1

/-- At the start neither side has done anything. -/
theorem synced_start (input : Bytes) : Synced workerCount client (LockState.start input) [] none where
  fed := fed_initial
  reading :=
    { read := Nat.le_refl 0
      replies := fun _ _ there => by cases there
      got := rfl
      front := ⟨[], rfl⟩
      inside := List.not_mem_nil }
  whole := fun _ member => by cases member
  submitted := ⟨[], rfl⟩
  requests := fun _ => rfl
  paced := rfl
  ahead := fun _ => Nat.zero_le _

/-- The responses are replies. -/
theorem Fed.replies (fed : Fed workerCount client server texts work) :
    ∀ text ∈ texts, IsReply text := by
  intro text member
  obtain ⟨index, inside, rfl⟩ := List.mem_iff_getElem.mp member
  obtain ⟨line, answered⟩ := fed.exchange.written index _ (List.getElem?_eq_getElem inside)
  exact fed.answers _ answered _ rfl

/-- The client is in lock-step with the server. -/
theorem Synced.lockStep (synced : Synced workerCount client state texts work) :
    LockStep auth deadly workerCount client state := by
  obtain ⟨fed, reading, whole, ⟨rest, submitted⟩, requests, paced, ahead⟩ := synced
  -- a response answers the request with its number
  have answers : ∀ index text, texts[index]? = some text →
      ∃ line, state.lines[index]? = some line ∧
        (⟨client, index, line⟩, some text) ∈ state.server.workers.answered := by
    intro index text there
    obtain ⟨line, answered⟩ := fed.exchange.written index text there
    obtain ⟨-, inside, -⟩ := fed.exchange.answered _ answered rfl
    refine ⟨line, ?_, answered⟩
    rw [submitted, List.getElem?_append_left (List.getElem?_eq_some_iff.mp inside).1]
    exact inside
  constructor
  case whole => exact whole
  case submitted => exact ⟨rest, submitted⟩
  case requests => exact requests
  case responses =>
    refine ⟨texts, fed.exchange.fifo_eq, fun index text there => ?_,
      fun serving => fed.exchange.finished serving.2, fun serving index inside =>
      fed.exchange.outstanding serving.2 inside, fun serving staying rest index inside =>
      fed.heldUp serving staying rest inside⟩
    exact ⟨fed.replies text (List.mem_of_getElem? there), answers index text there⟩
  case once => exact fed.exchange.once
  case replies =>
    intro entry member
    obtain ⟨index, inside, rfl⟩ := List.mem_iff_getElem.mp member
    obtain ⟨number, text⟩ := reading.replies index _ (List.getElem?_eq_getElem inside)
    obtain ⟨line, there, answered⟩ := answers index _ text
    exact ⟨index, line, number, there, fed.replies _ (List.mem_of_getElem? text), answered⟩
  case pace =>
    intro place
    simp only [LockState.Paced, place] at paced
    refine List.ext_getElem (by simp [paced]) fun index inside _ => ?_
    rw [List.length_map] at inside
    rw [List.getElem_map, List.getElem_range',
      (reading.replies index _ (List.getElem?_eq_getElem inside)).1]
    omega
  case skipped =>
    intro left skipped
    rw [LockState.pass, skipped]

/-! ## Steps of the client -/

variable {after : LockState}

/-- The client has read as before. -/
theorem Reading.congr (reading : Reading state texts) (got : after.got = state.got)
    (replies : after.replies = state.replies) (buffer : after.place.buffer = state.place.buffer) :
    Reading after texts := by
  obtain ⟨read, first, bytes, front, inside⟩ := reading
  exact ⟨by rw [replies]; exact read, by rw [replies]; exact first,
    by rw [got, replies, buffer]; exact bytes, by rw [replies, buffer]; exact front,
    by rw [buffer]; exact inside⟩

/-- A step of the client that begins no line. -/
theorem Synced.move (synced : Synced workerCount client state texts work)
    (sameServer : after.server = state.server) (lines : after.lines = state.lines)
    (transit : after.c2s ++ after.place.left = state.c2s ++ state.place.left)
    (reading : Reading after texts) (paced : after.Paced client texts)
    (more : state.replies.length ≤ after.replies.length) :
    Synced workerCount client after texts work := by
  have underWay : after.underWay client = state.underWay client := by
    rw [LockState.underWay, LockState.underWay, LockState.inTransit, LockState.inTransit,
      sameServer, transit]
  have serving : after.Serving client ↔ state.Serving client := by
    simp only [LockState.Serving, sameServer]
  refine ⟨by rw [sameServer]; exact synced.fed, reading, by rw [lines]; exact synced.whole,
    by rw [lines, sameServer]; exact synced.submitted, ?_, paced, ?_⟩
  · rw [serving, lines, sameServer, underWay]
    exact synced.requests
  · rw [serving, lines]
    exact fun there => (synced.ahead there).trans (Nat.succ_le_succ more)

/-- While every line has its response, nothing is under way. -/
theorem Synced.settled (synced : Synced workerCount client state texts work)
    (serving : state.Serving client) (settled : state.lines.length = state.replies.length) :
    state.underWay client = [] := by
  have count := congrArg List.length (synced.requests serving)
  have answered := synced.fed.exchange.texts_le
  have read := synced.reading.read
  rw [List.length_append] at count
  exact List.eq_nil_of_length_eq_zero (by omega)

/-- Nothing under way: no line waits, and no byte. -/
theorem underWay_eq_nil (none : state.underWay client = []) :
    state.server.toSubmit client = [] ∧ state.server.readBuffer client = [] ∧ state.c2s = [] := by
  obtain ⟨lines, transit⟩ := List.append_eq_nil_iff.mp none
  split at transit
  · rename_i empty
    obtain ⟨buffer, later⟩ := List.append_eq_nil_iff.mp empty
    exact ⟨lines, buffer, (List.append_eq_nil_iff.mp later).1⟩
  · cases transit

/-- The client begins a line. -/
theorem Synced.begin (synced : Synced workerCount client state texts work) {line : Bytes}
    (isLine : IsLine line) (sameServer : after.server = state.server)
    (lines : after.lines = state.lines ++ [line]) (c2s : after.c2s = state.c2s)
    (left : after.place.left = line) (reading : Reading after texts)
    (replies : after.replies = state.replies) (paced : after.Paced client texts)
    (settled : state.Serving client → state.lines.length = state.replies.length) :
    Synced workerCount client after texts work := by
  have serving : after.Serving client ↔ state.Serving client := by
    simp only [LockState.Serving, sameServer]
  obtain ⟨rest, submitted⟩ := synced.submitted
  refine ⟨by rw [sameServer]; exact synced.fed, reading, ?_, ⟨rest ++ [line], ?_⟩, ?_, paced, ?_⟩
  · intro other member
    rw [lines, List.mem_append, List.mem_singleton] at member
    rcases member with old | rfl
    · exact synced.whole other old
    · exact isLine
  · rw [lines, submitted, sameServer, List.append_assoc]
  · rw [serving]
    intro there
    have none := synced.settled there (settled there)
    have before := synced.requests there
    obtain ⟨waiting, buffer, empty⟩ := underWay_eq_nil none
    rw [none, List.append_nil] at before
    have some_ : line ≠ [] := by
      obtain ⟨body, rfl, -⟩ := isLine
      simp
    rw [lines, before, LockState.underWay, LockState.inTransit, sameServer, waiting, buffer, c2s,
      empty, left, List.nil_append, List.nil_append, List.nil_append, if_neg some_]
  · rw [serving, lines, replies, List.length_append, List.length_singleton]
    exact fun there => Nat.succ_le_succ (settled there).le

/-- What the client writes is a line. -/
theorem Written.Formed.isLine {loggedIn : Bool} {written : Written}
    (formed : written.Formed loggedIn) : IsLine written.line := by
  obtain ⟨body, line, plain⟩ := formed.line_eq
  exact ⟨body, line, plain, formed.short⟩

/-- The client leaves its loop. -/
theorem Synced.depart (synced : Synced workerCount client state texts work)
    (left : state.place.left = []) (buffer : state.place.buffer = [])
    (settled : state.lines.length = state.replies.length ∨
      ¬ state.Serving client ∧ texts.length = state.replies.length) :
    Synced workerCount client state.depart texts work := by
  unfold LockState.depart
  split
  · refine synced.move rfl rfl ?_ (synced.reading.congr rfl rfl buffer.symm) trivial (Nat.le_refl _)
    exact congrArg (state.c2s ++ ·) left.symm
  · refine synced.begin ⟨bytes "Disconnect", rfl, by decide, by decide⟩ rfl rfl rfl rfl
      (synced.reading.congr rfl rfl buffer.symm) rfl ?_ fun serving => ?_
    · rcases settled with same | gone
      · left
        simp [LockState.begin, same]
      · exact .inr gone
    · rcases settled with same | ⟨gone, -⟩
      · exact same
      · exact absurd serving gone

/-- A pass of the client's loop. -/
theorem Synced.pass (synced : Synced workerCount client state texts work)
    (place : state.place = .looping) : Synced workerCount client state.pass texts work := by
  have settled : state.lines.length = state.replies.length := by
    have paced := synced.paced
    simp only [LockState.Paced, place] at paced
    exact paced
  have left : state.place.left = [] := by rw [place]; rfl
  have buffer : state.place.buffer = [] := by rw [place]; rfl
  unfold LockState.pass
  split
  · exact synced.depart left buffer (.inl settled)
  · refine synced.move rfl rfl rfl (synced.reading.congr rfl rfl rfl) ?_ (Nat.le_refl _)
    simp only [LockState.Paced, place]
    exact settled
  · rename_i written rest passed
    refine synced.begin (pass_formed passed).isLine rfl rfl rfl rfl
      (synced.reading.congr rfl rfl buffer.symm) rfl ?_ fun _ => settled
    simp [LockState.Paced, LockState.begin, settled]

/-- A `write` of the client's loop. -/
theorem Synced.write (synced : Synced workerCount client state texts work) {written : Written}
    {left : Bytes} (place : state.place = .writing written left) (count : Nat) :
    Synced workerCount client
      (if left.drop count = [] then (state.push (left.take count)).wrote written
        else { state.push (left.take count) with place := .writing written (left.drop count) })
      texts work := by
  have settled : state.lines.length = state.replies.length + 1 := by
    have paced := synced.paced
    simp only [LockState.Paced, place] at paced
    exact paced
  have buffer : state.place.buffer = [] := by rw [place]; rfl
  have whole : (state.push (left.take count)).c2s ++ left.drop count =
      state.c2s ++ state.place.left := by
    rw [place]
    simp [LockState.push, ClientPlace.left]
  split
  · rename_i all
    rw [all] at whole
    unfold LockState.wrote
    split
    · exact synced.move rfl rfl whole (synced.reading.congr rfl rfl buffer.symm) trivial
        (Nat.le_refl _)
    · exact synced.move rfl rfl whole (synced.reading.congr rfl rfl buffer.symm) settled
        (Nat.le_refl _)
  · exact synced.move rfl rfl whole (synced.reading.congr rfl rfl buffer.symm) settled
      (Nat.le_refl _)

/-- A `write` of the Disconnect behind the loop. -/
theorem Synced.writeLast (synced : Synced workerCount client state texts work) {left : Bytes}
    (place : state.place = .parting left) (count : Nat) :
    Synced workerCount client
      { state.push (left.take count) with
        place := if left.drop count = [] then .waiting [] else .parting (left.drop count) }
      texts work := by
  have settled := synced.paced
  simp only [LockState.Paced, place] at settled
  have buffer : state.place.buffer = [] := by rw [place]; rfl
  have whole : (state.push (left.take count)).c2s ++ left.drop count =
      state.c2s ++ state.place.left := by
    rw [place]
    simp [LockState.push, ClientPlace.left]
  split
  · rename_i all
    rw [all] at whole
    exact synced.move rfl rfl whole (synced.reading.congr rfl rfl buffer.symm) settled
      (Nat.le_refl _)
  · exact synced.move rfl rfl whole (synced.reading.congr rfl rfl buffer.symm) settled
      (Nat.le_refl _)

/-- The client has read a byte inside a response. -/
theorem Reading.inside_ (reading : Reading state texts) {byte : UInt8} {text : Bytes}
    {later : List Bytes} (behind : texts.drop state.replies.length = text :: later)
    (front : ∃ rest, (text :: later).flatten = state.place.buffer ++ [byte] ++ rest)
    (inside : 10 ∉ state.place.buffer ++ [byte]) (got : after.got = state.got + 1)
    (replies : after.replies = state.replies)
    (buffer : after.place.buffer = state.place.buffer ++ [byte]) : Reading after texts := by
  refine ⟨by rw [replies]; exact reading.read, by rw [replies]; exact reading.replies, ?_,
    by rw [replies, buffer, behind]; exact front, by rw [buffer]; exact inside⟩
  rw [got, replies, buffer, reading.got, List.length_append, List.length_singleton, Nat.add_assoc]

/-- The client has read the last byte of a response. -/
theorem Reading.last (reading : Reading state texts) {byte : UInt8} {later : List Bytes}
    (behind : texts.drop state.replies.length = (state.place.buffer ++ [byte]) :: later)
    (number : state.lines.length = state.replies.length + 1) (got : after.got = state.got + 1)
    (replies : after.replies =
      state.replies ++ [(state.lines.length, state.place.buffer ++ [byte])])
    (buffer : after.place.buffer = []) : Reading after texts := by
  have here : texts[state.replies.length]? = some (state.place.buffer ++ [byte]) := by
    have first := congrArg (·[0]?) behind
    simpa using first
  obtain ⟨below, -⟩ := List.getElem?_eq_some_iff.mp here
  have taken : texts.take (state.replies.length + 1) =
      texts.take state.replies.length ++ [state.place.buffer ++ [byte]] := by
    rw [List.take_add_one, here]
    rfl
  have length : after.replies.length = state.replies.length + 1 := by
    rw [replies, List.length_append, List.length_singleton]
  refine ⟨by rw [length]; exact below, ?_, ?_, ⟨_, by rw [buffer, List.nil_append]⟩,
    by rw [buffer]; exact List.not_mem_nil⟩
  · intro index entry there
    rw [replies] at there
    rcases Nat.lt_or_ge index state.replies.length with old | new
    · rw [List.getElem?_append_left old] at there
      exact reading.replies index entry there
    · have last : index = state.replies.length := by
        have bound := (List.getElem?_eq_some_iff.mp there).1
        rw [List.length_append, List.length_singleton] at bound
        omega
      rw [last, List.getElem?_concat_length, Option.some.injEq] at there
      rw [last, ← there]
      exact ⟨number, here⟩
  · rw [got, length, taken, buffer, reading.got, List.flatten_append]
    simp
    omega

/-- The number of lines where the client has a response to read. -/
theorem Synced.number (synced : Synced workerCount client state texts work)
    (waits : (∃ written buffer, state.place = .reading written buffer) ∨
      ∃ buffer, state.place = .waiting buffer) {text : Bytes} {later : List Bytes}
    (behind : texts.drop state.replies.length = text :: later) :
    state.lines.length = state.replies.length + 1 := by
  have paced := synced.paced
  rcases waits with ⟨written, buffer, place⟩ | ⟨buffer, place⟩
  · simp only [LockState.Paced, place] at paced
    exact paced
  · simp only [LockState.Paced, place] at paced
    rcases paced with one | ⟨-, none⟩
    · exact one
    · have length := congrArg List.length behind
      simp only [List.length_drop, none, Nat.sub_self, List.length_cons] at length
      omega

/-- The client has read a response and is not inside another. -/
theorem Synced.received (synced : Synced workerCount client state texts work) {byte : UInt8}
    {later : List Bytes}
    (behind : texts.drop state.replies.length = (state.place.buffer ++ [byte]) :: later)
    (number : state.lines.length = state.replies.length + 1) (left : state.place.left = [])
    (sameServer : after.server = state.server) (lines : after.lines = state.lines)
    (c2s : after.c2s = state.c2s) (got : after.got = state.got + 1)
    (replies : after.replies =
      state.replies ++ [(state.lines.length, state.place.buffer ++ [byte])])
    (place : after.place = .looping ∨ after.place = .ended) :
    Synced workerCount client after texts work := by
  have length : after.replies.length = state.replies.length + 1 := by
    rw [replies, List.length_append, List.length_singleton]
  have none : after.place.left = [] ∧ after.place.buffer = [] := by
    rcases place with there | there <;> rw [there] <;> exact ⟨rfl, rfl⟩
  refine synced.move sameServer lines (by rw [c2s, left, none.1])
    (synced.reading.last behind number got replies none.2) ?_ (by omega)
  rcases place with there | there <;> simp only [LockState.Paced, there]
  rw [lines, number, length]

/-- A byte is read in the client's loop. -/
theorem Synced.read (synced : Synced workerCount client state texts work) {written : Written}
    {buffer : Bytes} (place : state.place = .reading written buffer) {byte : UInt8}
    (head : (state.unread client).head? = some byte) :
    Synced workerCount client
      (if endsResponse (buffer ++ [byte]) then
        { state with got := state.got + 1 }.finish written (buffer ++ [byte])
        else { state with got := state.got + 1, place := .reading written (buffer ++ [byte]) })
      texts work := by
  obtain ⟨text, later, behind, front, split_⟩ :=
    synced.reading.byte synced.fed.replies synced.fed.exchange.fifo_eq head
  have number := synced.number (.inl ⟨written, buffer, place⟩) behind
  have here : state.place.buffer = buffer := by rw [place]; rfl
  have left : state.place.left = [] := by rw [place]; rfl
  rw [← here]
  split at split_
  · rename_i ends
    rw [if_pos ends]
    subst split_
    refine synced.received behind number left rfl rfl rfl rfl rfl ?_
    unfold LockState.finish
    dsimp only
    split
    · exact .inl rfl
    · exact .inr rfl
  · rename_i goes
    rw [if_neg goes]
    exact synced.move rfl rfl (by rw [left]; rfl)
      (synced.reading.inside_ behind front split_ rfl rfl rfl) number (Nat.le_refl _)

/-- A byte is read behind the loop. -/
theorem Synced.readLast (synced : Synced workerCount client state texts work) {buffer : Bytes}
    (place : state.place = .waiting buffer) {byte : UInt8}
    (head : (state.unread client).head? = some byte) :
    Synced workerCount client
      (if endsResponse (buffer ++ [byte]) then
        { { state with got := state.got + 1 }.record (buffer ++ [byte]) with place := .ended }
        else { state with got := state.got + 1, place := .waiting (buffer ++ [byte]) })
      texts work := by
  obtain ⟨text, later, behind, front, split_⟩ :=
    synced.reading.byte synced.fed.replies synced.fed.exchange.fifo_eq head
  have number := synced.number (.inr ⟨buffer, place⟩) behind
  have here : state.place.buffer = buffer := by rw [place]; rfl
  have left : state.place.left = [] := by rw [place]; rfl
  rw [← here]
  split at split_
  · rename_i ends
    rw [if_pos ends]
    subst split_
    exact synced.received behind number left rfl rfl rfl rfl rfl (.inr rfl)
  · rename_i goes
    rw [if_neg goes]
    exact synced.move rfl rfl (by rw [left]; rfl)
      (synced.reading.inside_ behind front split_ rfl rfl rfl) (.inl number) (Nat.le_refl _)

/-- The client finds the end of `FIFO_S2C`. -/
theorem Synced.readEnd (synced : Synced workerCount client state texts work)
    (none : state.unread client = []) (closed : state.server.workers.hungUp client = true) :
    texts.length = state.replies.length ∧ state.place.buffer = [] ∧ ¬ state.Serving client := by
  obtain ⟨all, empty⟩ :=
    synced.reading.end_ synced.fed.replies synced.fed.exchange.fifo_eq none
  refine ⟨all, empty, fun serving => ?_⟩
  have gone := synced.fed.exchange.hungUp closed serving.1
  cases serving.2.symm.trans gone

/-! ## Steps of the server -/

/-- The state behind a step of the server. -/
def LockState.serve (state : LockState) (client : ClientId) (label : ServerLabel)
    (server : ServerState) : LockState :=
  { state with server, c2s := state.c2s.drop (state.taken client label).length }

/-- A client that is served was served. -/
theorem serving_earlier
    (stepped : (serverMachine auth deadly workerCount).step state.server label = some next)
    (serving : (state.serve client label next).Serving client) : state.Serving client := by
  obtain ⟨alive, connected⟩ := serving
  replace alive : next.workers.alive = true := alive
  replace connected : next.workers.isDisconnected client = false := connected
  rcases serverMachine_workers stepped with same | ⟨before, action, step, -⟩
  · exact ⟨same ▸ alive, same ▸ connected⟩
  · refine ⟨before, ?_⟩
    by_contra gone
    cases (step.flag_kept (by simpa using gone)).symm.trans connected

/-- What a step of the server takes from `FIFO_C2S` it reads from the client. -/
theorem taken_eq_nil
    (apart : ∀ chunk rest, label = .main (.read (.data chunk)) →
      state.server.main = .reading client rest →
      state.server.workers.isDisconnected client = true) : state.taken client label = [] := by
  unfold LockState.taken
  split
  · rename_i chunk
    refine if_neg fun read => ?_
    unfold LockState.isRead at read
    split at read
    · rename_i other rest place
      simp only [decide_eq_true_eq] at read
      obtain ⟨rfl, connected⟩ := read
      cases (apart chunk rest rfl place).symm.trans connected
    · cases read
  · rfl

/-- What it reads from the client was written by the client. -/
theorem taken_eq {chunk : Bytes} {rest : List ClientId} (place : state.server.main = .reading client rest)
    (connected : state.server.workers.isDisconnected client = false)
    (allowed : state.allows client (.main (.read (.data chunk))) = true) :
    state.taken client (.main (.read (.data chunk))) = chunk ∧ ∃ left, state.c2s = chunk ++ left := by
  have reads : state.isRead client = true := by simp [LockState.isRead, place, connected]
  refine ⟨if_pos reads, ?_⟩
  simp only [LockState.allows, reads, Bool.not_true, Bool.false_or, List.isPrefixOf_iff_prefix]
    at allowed
  obtain ⟨left, whole⟩ := allowed
  exact ⟨left, whole.symm⟩

/-- Bytes that are read are cut into the line under way, or stay a part of it. -/
theorem Synced.cut (synced : Synced workerCount client state texts work)
    (serving : state.Serving client) (idle : state.server.toSubmit client = []) {front left : Bytes}
    (split_ : state.inTransit client = front ++ left) :
    (processBufferedLines front).1 ++
        (if (processBufferedLines front).2 ++ left = [] then []
          else [(processBufferedLines front).2 ++ left]) = state.underWay client := by
  rw [LockState.underWay, idle, List.nil_append]
  by_cases none : state.inTransit client = []
  · obtain ⟨rfl, rfl⟩ := List.append_eq_nil_iff.mp (split_.symm.trans none)
    rw [if_pos none]
    rfl
  · have isLine : IsLine (state.inTransit client) := by
      apply synced.whole
      rw [synced.requests serving, LockState.underWay, if_neg none]
      exact List.mem_append_right _ (List.mem_append_right _ List.mem_cons_self)
    rw [if_neg none, processBufferedLines_front isLine split_]
    split
    · rename_i empty
      simp [empty]
    · rw [← split_, if_neg none]
      rfl

/-- The bytes and lines that a step of the server leaves on their way. -/
theorem Synced.lines_step (synced : Synced workerCount client state texts work)
    (allowed : state.allows client label = true)
    (stepped : (serverMachine auth deadly workerCount).step state.server label = some next)
    (unfailing : state.Unfailing deadly client (.server label)) :
    (∃ rest, state.lines = next.workers.submitted client ++ rest) ∧
      ((state.serve client label next).Serving client →
        state.lines = next.workers.submitted client ++
          (state.serve client label next).underWay client) ∧
      (next.workers.submitted client ≠ state.server.workers.submitted client →
        state.Serving client ∧ (state.server.workers.submitted client).length < state.lines.length) := by
  have earlier : (state.serve client label next).Serving client → state.Serving client :=
    serving_earlier stepped
  obtain ⟨rest, submitted⟩ := synced.submitted
  cases serverMachine_lineChange synced.fed.known stepped with
  | kept toSubmit readBuffer same apart =>
    rw [same]
    refine ⟨⟨rest, submitted⟩, fun serving => ?_, fun other => absurd rfl other⟩
    rw [synced.requests (earlier serving), LockState.underWay, LockState.underWay,
      LockState.inTransit, LockState.inTransit]
    simp only [LockState.serve, toSubmit, readBuffer, taken_eq_nil apart, List.length_nil,
      List.drop_zero]
  | received called place connected workers toSubmit readBuffer =>
    rename_i chunk others
    subst called
    obtain ⟨taken, left, whole⟩ := taken_eq place connected allowed
    have idle : state.server.toSubmit client = [] := by rw [ServerState.toSubmit, place]; rfl
    rw [workers]
    refine ⟨⟨rest, submitted⟩, fun serving => ?_, fun other => absurd rfl other⟩
    have split_ : state.inTransit client =
        (state.server.readBuffer client ++ chunk) ++ (left ++ state.place.left) := by
      rw [LockState.inTransit, whole, List.append_assoc, List.append_assoc]
    rw [synced.requests (earlier serving), ← synced.cut (earlier serving) idle split_,
      LockState.underWay, LockState.inTransit]
    simp only [LockState.serve, toSubmit, readBuffer, taken, whole, List.drop_left]
  | submitted called front step toSubmit readBuffer =>
    rename_i line lines memory
    subst called
    have alive : state.server.workers.alive = true := by
      by_contra dead
      simp [serverMachine, dead] at stepped
    have transit : (state.serve client (.main (.submit memory)) next).inTransit client =
        state.inTransit client := by
      rw [LockState.inTransit, LockState.inTransit]
      simp only [LockState.serve, readBuffer]
      rfl
    have rest_eq : (state.serve client (.main (.submit memory)) next).underWay client =
        lines ++ if state.inTransit client = [] then [] else [state.inTransit client] := by
      rw [LockState.underWay, transit]
      simp only [LockState.serve, toSubmit]
    by_cases serving : state.Serving client
    · -- the line is accepted, for the client has a queue and there is memory
      obtain rfl : memory = true := by
        refine unfailing ?_
        rw [front]
        exact List.cons_ne_nil _ _
      have accepted := step.accepts synced.fed.queue serving.2
      have whole : state.lines = (state.server.workers.submitted client ++ [line]) ++
          (state.serve client (.main (.submit true)) next).underWay client := by
        rw [synced.requests serving, rest_eq, LockState.underWay, front]
        simp
      rw [accepted]
      refine ⟨⟨_, whole⟩, fun _ => whole, fun _ => ⟨serving, ?_⟩⟩
      have count := congrArg List.length whole
      simp only [List.length_append, List.length_singleton] at count
      omega
    · have same : next.workers.submitted client = state.server.workers.submitted client := by
        by_contra grown
        have connected := (step.grows grown).2
        refine serving ⟨alive, ?_⟩
        cases present : state.server.workers.clients client with
        | none => rw [WorkersState.isDisconnected, present]; rfl
        | some record => rw [isDisconnected_of_some present, connected record present]
      rw [same]
      exact ⟨⟨rest, submitted⟩, fun there => absurd (earlier there) serving,
        fun other => absurd rfl other⟩

/-- The server does not change where the client is. -/
theorem LockState.Paced.serve (paced : state.Paced client texts) {more : List Bytes}
    (silent : ¬ state.Serving client → more = [])
    (earlier : (state.serve client label next).Serving client → state.Serving client) :
    (state.serve client label next).Paced client (texts ++ more) := by
  -- a client that is not served stays so
  have gone : state.lines.length = state.replies.length + 1 ∨
      ¬ state.Serving client ∧ texts.length = state.replies.length →
      state.lines.length = state.replies.length + 1 ∨
        ¬ (state.serve client label next).Serving client ∧
          (texts ++ more).length = state.replies.length := by
    rintro (one | ⟨dropped, all⟩)
    · exact .inl one
    · refine .inr ⟨fun serving => dropped (earlier serving), ?_⟩
      rw [silent dropped, List.append_nil]
      exact all
  unfold LockState.Paced at paced ⊢
  simp only [show (state.serve client label next).place = state.place from rfl]
  cases place : state.place with
  | looping =>
    rw [place] at paced
    exact paced
  | writing written left =>
    rw [place] at paced
    exact paced
  | reading written buffer =>
    rw [place] at paced
    exact paced
  | parting left =>
    rw [place] at paced
    exact gone paced
  | waiting buffer =>
    rw [place] at paced
    exact gone paced
  | ended => trivial

/-- A step of the server. -/
theorem Synced.serve (synced : Synced workerCount client state texts work)
    (fits : BalancesFit auth) (allowed : state.allows client label = true)
    (stepped : (serverMachine auth deadly workerCount).step state.server label = some next)
    (unfailing : state.Unfailing deadly client (.server label))
    (bounded : state.lines.length ≤ seqLimit) :
    ∃ more left, Synced workerCount client (state.serve client label next) (texts ++ more) left := by
  obtain ⟨⟨rest, whole⟩, requests, grown⟩ := synced.lines_step allowed stepped unfailing
  have earlier : (state.serve client label next).Serving client → state.Serving client :=
    serving_earlier stepped
  -- a line is submitted while all lines before it were answered
  have alone : next.workers.submitted client ≠ state.server.workers.submitted client →
      work = none := by
    intro other
    obtain ⟨serving, below⟩ := grown other
    have ahead := synced.ahead serving
    have read := synced.reading.read
    have count := synced.fed.exchange.count serving.2
    by_contra busy
    rw [if_neg busy] at count
    omega
  have small : (next.workers.submitted client).length ≤ seqLimit := by
    have count := congrArg List.length whole
    rw [List.length_append] at count
    omega
  have fine : ∀ worker copied results, label = .worker (.respond worker copied results) →
      state.server.workers.recipient (.respond worker copied results) = some client →
        copied = true ∧
          ∀ result ∈ results, result.fails deadly = false ∧ result.kills deadly = false := by
    rintro worker copied results rfl mine
    exact unfailing mine
  obtain ⟨more, left, fed, silent⟩ := synced.fed.step fits stepped fine small alone
  refine ⟨more, left, fed, ?_, synced.whole, ⟨rest, whole⟩, requests, ?_,
    fun serving => synced.ahead (earlier serving)⟩
  · exact (synced.reading.more more).congr rfl rfl rfl
  · refine synced.paced.serve (fun gone => silent ?_) earlier
    by_contra serving
    rw [not_or, Bool.not_eq_false, Bool.not_eq_true] at serving
    exact gone serving

/-! ## Runs -/

/-- A client that leaves its loop takes no line back. -/
theorem lines_le_depart : state.lines.length ≤ state.depart.lines.length := by
  unfold LockState.depart
  split
  · exact Nat.le_refl _
  · simp [LockState.begin]

/-- The client's lines are never taken back. -/
theorem lines_le {label : LockLabel}
    (stepped : (lockMachine auth deadly workerCount client).step state label = some after) :
    state.lines.length ≤ after.lines.length := by
  cases label with
  | pass =>
    simp only [lockMachine] at stepped
    split at stepped
    · cases stepped
      unfold LockState.pass
      split
      · exact lines_le_depart
      · exact Nat.le_refl _
      · simp [LockState.begin]
    · cases stepped
  | write count =>
    simp only [lockMachine] at stepped
    split at stepped
    · split at stepped
      · cases stepped
        split
        · unfold LockState.wrote
          split <;> exact Nat.le_refl _
        · exact Nat.le_refl _
      · cases stepped
    · split at stepped
      · cases stepped
        exact Nat.le_refl _
      · cases stepped
    · cases stepped
  | read =>
    obtain ⟨byte, -, stepped⟩ := Option.bind_eq_some_iff.mp stepped
    dsimp only at stepped
    split at stepped
    · cases stepped
      split <;> exact Nat.le_refl _
    · cases stepped
      split <;> exact Nat.le_refl _
    · cases stepped
  | readEnd =>
    simp only [lockMachine] at stepped
    split at stepped
    · split at stepped
      · cases stepped
        split
        · exact lines_le_depart
        · exact Nat.le_refl _
      · cases stepped
        split <;> exact Nat.le_refl _
      · cases stepped
    · cases stepped
  | server label =>
    simp only [lockMachine] at stepped
    split at stepped
    · obtain ⟨server, -, rfl⟩ := Option.map_eq_some_iff.mp stepped
      exact Nat.le_refl _
    · cases stepped

/-- Every step keeps client and server in lock-step. -/
theorem Synced.step (synced : Synced workerCount client state texts work) (fits : BalancesFit auth)
    {label : LockLabel} (unfailing : state.Unfailing deadly client label)
    (stepped : (lockMachine auth deadly workerCount client).step state label = some after)
    (bounded : state.lines.length ≤ seqLimit) :
    ∃ texts work, Synced workerCount client after texts work := by
  cases label with
  | pass =>
    simp only [lockMachine] at stepped
    split at stepped
    · rename_i place
      cases stepped
      exact ⟨_, _, synced.pass place⟩
    · cases stepped
  | write count =>
    simp only [lockMachine] at stepped
    split at stepped
    · rename_i written left place
      split at stepped
      · cases stepped
        exact ⟨_, _, synced.write place count⟩
      · cases stepped
    · rename_i left place
      split at stepped
      · cases stepped
        exact ⟨_, _, synced.writeLast place count⟩
      · cases stepped
    · cases stepped
  | read =>
    obtain ⟨byte, head, stepped⟩ := Option.bind_eq_some_iff.mp stepped
    dsimp only at stepped
    split at stepped
    · rename_i written buffer place
      cases stepped
      exact ⟨_, _, synced.read place head⟩
    · rename_i buffer place
      cases stepped
      exact ⟨_, _, synced.readLast place head⟩
    · cases stepped
  | readEnd =>
    simp only [lockMachine] at stepped
    split at stepped
    · rename_i closed
      obtain ⟨all, empty, gone⟩ := synced.readEnd closed.1 closed.2
      split at stepped
      · rename_i written buffer place
        have none : buffer = [] := by rw [place] at empty; exact empty
        rw [if_pos none] at stepped
        cases stepped
        exact ⟨_, _, synced.depart (by rw [place]; rfl) empty (.inr ⟨gone, all⟩)⟩
      · rename_i buffer place
        have none : buffer = [] := by rw [place] at empty; exact empty
        rw [if_pos none] at stepped
        cases stepped
        refine ⟨_, _, synced.move rfl rfl ?_ (synced.reading.congr rfl rfl empty.symm) trivial
          (Nat.le_refl _)⟩
        rw [place]
        rfl
      · cases stepped
    · cases stepped
  | server label =>
    simp only [lockMachine] at stepped
    split at stepped
    · rename_i allowed
      obtain ⟨server, served, rfl⟩ := Option.map_eq_some_iff.mp stepped
      obtain ⟨more, left, after⟩ := synced.serve fits allowed served unfailing bounded
      exact ⟨_, _, after⟩
    · cases stepped

/-- Client and server stay in lock-step while the sequence numbers last. -/
theorem lock_step (auth : AuthDb) (fits : BalancesFit auth) (deadly : Bool) (workerCount : Nat)
    (client : ClientId) (input : Bytes) (labels : List LockLabel)
    (unfailing : (lockMachine auth deadly workerCount client).EveryStep
      (LockState.Unfailing deadly client) (LockState.start input) labels) :
    (lockMachine auth deadly workerCount client).Always
      (fun state => state.lines.length ≤ seqLimit →
        LockStep auth deadly workerCount client state)
      (LockState.start input) labels := by
  have kept : ∀ state label next,
      (state.lines.length ≤ seqLimit → ∃ texts work, Synced workerCount client state texts work) →
      LockState.Unfailing deadly client state label →
      (lockMachine auth deadly workerCount client).step state label = some next →
      next.lines.length ≤ seqLimit → ∃ texts work, Synced workerCount client next texts work := by
    intro state label next before fine stepped bounded
    have small := (lines_le stepped).trans bounded
    obtain ⟨texts, work, synced⟩ := before small
    exact synced.step fits fine stepped small
  have always := Machine.always_of_guarded kept
    (fun _ => ⟨[], none, synced_start input⟩) unfailing
  refine always.imp fun state before bounded => ?_
  obtain ⟨texts, work, synced⟩ := before bounded
  exact synced.lockStep

/-- The step needs memory or a write only where it gets it. -/
def LockLabel.isFine : LockLabel → Bool
  | .server (.worker (.respond _ copied results)) => copied && results.all (· = .wrote 3)
  | .server (.main (.submit memory)) => memory
  | _ => true

/-- Then nothing fails. -/
theorem unfailing_of_isFine {label : LockLabel} (fine : label.isFine = true) (state : LockState) :
    state.Unfailing deadly client label := by
  unfold LockState.Unfailing
  split
  · intro _
    simp only [LockLabel.isFine, Bool.and_eq_true, List.all_eq_true, decide_eq_true_eq] at fine
    refine ⟨fine.1, fun result member => ?_⟩
    rw [fine.2 result member]
    exact ⟨rfl, rfl⟩
  · exact fun _ => fine
  · trivial

/-- A client that writes a line, with two bytes of it read at first, and reads the response. -/
def loginRun : List LockLabel :=
  [.pass, .server (.main (.poll (some (1, 3, 4)))), .write 6, .server (.main (.beginCleanup 0)),
    .server (.main (.visit true)), .server (.main .endCleanup), .server (.main (.select [1])),
    .server (.main .serve), .server (.main (.read (.data (bytes "Lo")))),
    .server (.main (.read (.data (bytes "gin\n")))), .server (.main (.submit true)),
    .server (.worker (.dequeue 0)), .server (.worker (.advance 0 {})),
    .server (.worker (.respond 0 true [.wrote 3])), .read, .read, .read]

/-- It has read the response to its line. -/
theorem lock_step_loginRun : ∃ last,
    (lockMachine [] true 1 1).run (LockState.start (bytes "Login\n")) loginRun = some last ∧
      LockStep [] true 1 1 last ∧ last.replies = [(1, bytes "-1\n")] := by
  have unfailing : (lockMachine [] true 1 1).EveryStep (LockState.Unfailing true 1)
      (LockState.start (bytes "Login\n")) loginRun := by
    refine Machine.everyStep_of_labels fun label member => unfailing_of_isFine ?_
    exact (by decide : ∀ label ∈ loginRun, label.isFine = true) label member
  have always := lock_step [] (by simp [BalancesFit]) true 1 1 (bytes "Login\n") loginRun unfailing
  exact ⟨_, rfl, always.last rfl (by decide), rfl⟩

end AnimateService
