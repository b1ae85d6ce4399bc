import AnimateService.Cleanup
import AnimateService.Replies
import AnimateService.Sequential

/-!
# One request at a time

A client that sends a line only when the response to the line before has been written has one
request at a time in the server: it waits in the pool or is in a worker's hand. `Exchange` says what
the server knows of such a client: its requests were answered one after the other, and what was
written to it is the responses, in this order.
-/
namespace AnimateService

open Reorder Transition

/-- The request of a client that waits in the pool or is in a worker's hand, where there is one at
most. -/
inductive AtWork (client : ClientId) (state : WorkersState) : Option Request → Prop where
  /-- There is none. -/
  | idle (queued : state.pool.queued client = [])
      (free : ∀ worker request, state.inHand worker = some request → request.client ≠ client) :
    AtWork client state none
  /-- It waits. -/
  | waits {request : Request} (queued : state.pool.queued client = [request])
      (free : ∀ worker request, state.inHand worker = some request → request.client ≠ client) :
    AtWork client state (some request)
  /-- It is in a worker's hand. -/
  | held {worker : ThreadId} {request : Request} (queued : state.pool.queued client = [])
      (holding : state.inHand worker = some request) (owner : request.client = client)
      (only : ∀ other same, state.inHand other = some same → same.client = client →
        other = worker) :
    AtWork client state (some request)

/-- The requests of a client and what was written to it: one response after the other, and the
request that is at work. -/
structure Exchange (client : ClientId) (state : WorkersState) (texts : List Bytes)
    (work : Option Request) : Prop where
  /-- The request that is at work. -/
  atWork : AtWork client state work
  /-- A client that was not accepted has none. -/
  unknown : state.clients client = none → texts = [] ∧ work = none
  /-- The responses that were accepted. -/
  accepted : ∀ record, state.clients client = some record →
    record.stream.accepted = (texts[·]?)
  /-- They were written. -/
  fifo : ∀ record, state.clients client = some record → record.stream.fifo = texts.flatten
  /-- They answer requests. -/
  counted : ∀ record, state.clients client = some record →
    texts.length ≤ record.submitted.length
  /-- The request at work is the next. -/
  current : ∀ record request, state.clients client = some record → work = some request →
    request.client = client ∧ request.seqNum = texts.length ∧
      record.submitted.length = texts.length + 1 ∧
      record.submitted[texts.length]? = some request.rpcLine
  /-- While the client is connected its stream is in order, and all requests but the one at work
  were answered. -/
  connected : ∀ record, state.clients client = some record →
    record.stream.output.disconnected = false →
    record.stream.killed = false ∧ StreamFormed record.stream ∧
      record.requestsReceived = record.submitted.length ∧
      (work = none → record.submitted.length = texts.length)
  /-- The answered requests were answered, once, before the one at work. -/
  answered : ∀ entry ∈ state.answered, entry.1.client = client →
    (∃ text, entry.2 = some text) ∧
      (state.submitted client)[entry.1.seqNum]? = some entry.1.rpcLine ∧
      ∀ request, work = some request → entry.1.seqNum < request.seqNum
  /-- No request was answered twice. -/
  once : ∀ first ∈ state.answered, ∀ second ∈ state.answered, first.1.client = client →
    second.1.client = client → first.1.seqNum = second.1.seqNum → first = second
  /-- What was written answers the requests in their order. -/
  written : ∀ index text, texts[index]? = some text →
    ∃ line, (⟨client, index, line⟩, some text) ∈ state.answered

/-! ## A stream of texts -/

/-- The texts one after the other. -/
theorem concatenated_texts (texts : List Bytes) :
    concatenated (texts[·]?) texts.length = texts.flatten := by
  induction texts using List.reverseRecOn with
  | nil => rfl
  | append_singleton texts text ih =>
    have front : concatenated ((texts ++ [text])[·]?) texts.length =
        concatenated (texts[·]?) texts.length :=
      concatenated_congr fun index below => List.getElem?_append_left below
    rw [List.length_append, List.length_singleton, concatenated_succ, front, ih,
      List.getElem?_concat_length, Option.getD_some, List.flatten_concat]

/-- A stream that is in order and waits for the response behind the texts has written them. -/
theorem Ordered.texts {texts : List Bytes} {fifo : Bytes} {output : Output}
    (ordered : Ordered (texts[·]?) fifo output)
    (waits : texts[output.responsesSent]? = none) :
    output.responsesSent = texts.length ∧ fifo = texts.flatten := by
  have all : output.responsesSent = texts.length := by
    apply Nat.le_antisymm
    · by_contra beyond
      have there := ordered.sent texts.length (Nat.lt_of_not_le beyond)
      rw [List.getElem?_eq_none (Nat.le_refl _)] at there
      cases there
    · exact List.getElem?_eq_none_iff.mp waits
  exact ⟨all, by rw [ordered.fifo_eq, all, concatenated_texts]⟩

variable {auth : AuthDb} {deadly : Bool} {workerCount : Nat} {state next : WorkersState}
  {label : WorkersLabel} {client : ClientId} {texts : List Bytes} {work : Option Request}

/-- The lines of a client whose record is known. -/
theorem submitted_of_some {record : Client} (present : state.clients client = some record) :
    state.submitted client = record.submitted := by
  rw [WorkersState.submitted, present]
  rfl

/-- The request that a worker holds for the client is the one at work. -/
theorem AtWork.holding (atWork : AtWork client state work) {worker : ThreadId} {request : Request}
    (holding : state.inHand worker = some request) (owner : request.client = client) :
    work = some request ∧ state.pool.queued client = [] ∧
      ∀ other same, state.inHand other = some same → same.client = client → other = worker := by
  cases atWork with
  | idle queued free => exact absurd owner (free worker request holding)
  | waits queued free => exact absurd owner (free worker request holding)
  | held queued there mine only =>
    obtain rfl := only worker request holding owner
    obtain rfl := Option.some.inj (there.symm.trans holding)
    exact ⟨rfl, queued, only⟩

/-- Behind the answer to it nothing is at work. -/
theorem AtWork.finish (atWork : AtWork client state work) {worker : ThreadId} {request : Request}
    (holding : state.inHand worker = some request) (owner : request.client = client)
    (queued : next.pool.queued client = state.pool.queued client)
    (held : next.inHand = Function.update state.inHand worker none) : AtWork client next none := by
  obtain ⟨-, empty, only⟩ := atWork.holding holding owner
  refine .idle (queued.trans empty) fun other same there mine => ?_
  obtain ⟨apart, before⟩ := held_of_update (held ▸ there)
  exact apart (only other same before mine)

/-- A response that is answered in order for a connected client is written. -/
theorem Exchange.respond {record : Client} {stream : Stream} {text : Bytes}
    {results : List WriteResult} (exchange : Exchange client state texts work)
    (present : state.clients client = some record)
    (connected : record.stream.output.disconnected = false)
    (small : texts.length < seqLimit)
    (stepped : (streamMachine deadly).step record.stream ⟨texts.length, text, results⟩ = some stream)
    (fine : ∀ result ∈ results, result.fails deadly = false ∧ result.kills deadly = false) :
    stream.accepted = ((texts ++ [text])[·]?) ∧ stream.fifo = (texts ++ [text]).flatten ∧
      stream.killed = false ∧ stream.output.disconnected = false ∧ StreamFormed stream := by
  obtain ⟨alive, formed, -, -⟩ := exchange.connected record present connected
  have accepts := exchange.accepted record present
  obtain ⟨ordered, waits⟩ := formed.ordered connected alive
  rw [accepts] at ordered waits
  have sent := (ordered.texts waits).1
  have inside : record.stream.output.inWindow texts.length := by
    refine ⟨sent.le, ?_⟩
    simp only [maxPendingResponses]
    omega
  have accepted : stream.accepted = ((texts ++ [text])[·]?) := by
    rw [accepted_call stepped connected inside, accepts]
    funext index
    by_cases here : index = texts.length
    · rw [here, Function.update_self, List.getElem?_concat_length]
    · rw [Function.update_of_ne here]
      rcases Nat.lt_or_gt_of_ne here with below | above
      · exact (List.getElem?_append_left below).symm
      · rw [List.getElem?_eq_none (Nat.le_of_lt above), List.getElem?_eq_none]
        rw [List.length_append]
        exact above
  have missing : record.stream.accepted texts.length = none := by
    rw [accepts]
    exact List.getElem?_eq_none (Nat.le_refl _)
  have after := formed.step missing small stepped
  -- no answer of the kernel was an error
  have kept : stream.output.disconnected = false ∧ stream.killed = false := by
    simp only [streamMachine, alive, Bool.false_eq_true, ↓reduceIte] at stepped
    obtain ⟨written, called, rfl⟩ := Option.map_eq_some_iff.mp stepped
    obtain ⟨fails, kills⟩ := sendOrderedResponse_decided called
    constructor
    · rw [← Bool.not_eq_true, fails, connected]
      rintro (wrong | ⟨result, member, failed⟩)
      · cases wrong
      · rw [(fine result member).1] at failed
        cases failed
    · rw [← Bool.not_eq_true, kills]
      rintro ⟨result, member, killed⟩
      rw [(fine result member).2] at killed
      cases killed
  obtain ⟨later, next⟩ := after.ordered kept.1 kept.2
  rw [accepted] at later next
  exact ⟨accepted, (later.texts next).2, kept.2, kept.1, after⟩

/-! ## Steps -/

/-- A step keeps the stream of a client, or a worker gives up a request of the client. -/
theorem WorkersStep.stream_kept (step : WorkersStep auth deadly workerCount state label next)
    {record : Client} (present : state.clients client = some record) :
    ∃ after, next.clients client = some after ∧
      (after.stream.accepted = record.stream.accepted ∧ after.stream.fifo = record.stream.fifo ∨
        ∃ worker request, state.inHand worker = some request ∧ request.client = client ∧
          next.inHand worker = none) := by
  -- a step writes to the record of one client at most
  have written : ∀ {changed : ClientId} {old new : Client} {base : WorkersState} {other : Prop},
      base.clients = state.clients → state.clients changed = some old →
      new.stream.accepted = old.stream.accepted ∧ new.stream.fifo = old.stream.fifo →
      ∃ after, (base.setClient changed new).clients client = some after ∧
        (after.stream.accepted = record.stream.accepted ∧
          after.stream.fifo = record.stream.fifo ∨ other) := by
    intro changed old new base other same there kept
    by_cases here : client = changed
    · subst here
      obtain rfl := Option.some.inj (present.symm.trans there)
      exact ⟨new, clients_setClient_self, .inl kept⟩
    · exact ⟨record, (clients_setClient_ne here).trans ((congrFun same client).trans present),
        .inl ⟨rfl, rfl⟩⟩
  cases step with
  | register new registered =>
    rename_i added fifo memory pool
    have apart : client ≠ added := by
      rintro rfl
      cases new.symm.trans present
    exact ⟨record, (clients_setClient_ne apart).trans present, .inl ⟨rfl, rfl⟩⟩
  | submit there submitted => exact written rfl there ⟨rfl, rfl⟩
  | respond held working answer there called =>
    rename_i worker copied results request served response text old sent
    obtain ⟨stream, stepped, rfl⟩ := send_some called
    by_cases here : client = request.client
    · subst here
      exact ⟨_, clients_setClient_self, .inr ⟨worker, request, held, rfl, Function.update_self ..⟩⟩
    · exact ⟨record, (clients_setClient_ne here).trans present, .inl ⟨rfl, rfl⟩⟩
  | markClosed there working => exact written rfl there ⟨rfl, rfl⟩
  | closeFifo there gone => exact written rfl there ⟨rfl, rfl⟩
  | _ => exact ⟨record, present, .inl ⟨rfl, rfl⟩⟩

/-- The lines of a client grow when one is submitted, while the client is connected. -/
theorem WorkersStep.grows (step : WorkersStep auth deadly workerCount state label next)
    (grown : next.submitted client ≠ state.submitted client) :
    (∃ line memory, label = .submit client line memory) ∧
      ∀ record, state.clients client = some record → record.stream.output.disconnected = false := by
  -- only a submit writes to the lines
  have written : ∀ {changed : ClientId} {old new : Client} {base : WorkersState},
      base.clients = state.clients → state.clients changed = some old →
      new.submitted = old.submitted →
      (base.setClient changed new).submitted client = state.submitted client := by
    intro changed old new base same there kept
    by_cases here : client = changed
    · subst here
      rw [submitted_of_some clients_setClient_self, submitted_of_some there, kept]
    · rw [WorkersState.submitted, clients_setClient_ne here, same]
      rfl
  cases step with
  | register new registered =>
    rename_i added fifo memory pool
    refine absurd ?_ grown
    by_cases here : client = added
    · subst here
      rw [submitted_of_some clients_setClient_self, WorkersState.submitted, new]
      rfl
    · rw [WorkersState.submitted, clients_setClient_ne here]
      rfl
  | submit present submitted =>
    rename_i changed line memory record pool
    by_cases here : client = changed
    · subst here
      refine ⟨⟨line, memory, rfl⟩, fun other there => ?_⟩
      obtain rfl := Option.some.inj (present.symm.trans there)
      exact (threadpoolSubmit_ok submitted).2.1
    · refine absurd ?_ grown
      rw [WorkersState.submitted, clients_setClient_ne here]
      rfl
  | respond held working answer present called =>
    rename_i worker copied results request served response text record sent
    obtain ⟨stream, -, rfl⟩ := send_some called
    have same : (state.setClient request.client { record with stream }).submitted client =
        state.submitted client := written rfl present rfl
    exact absurd same grown
  | markClosed present working =>
    refine absurd ?_ grown
    exact written rfl present rfl
  | closeFifo present gone =>
    refine absurd ?_ grown
    exact written rfl present rfl
  | _ => exact absurd rfl grown

/-- A step that leaves the client's record and its answers alone. -/
theorem Exchange.same (exchange : Exchange client state texts work)
    (clients : next.clients client = state.clients client) (atWork : AtWork client next work)
    (answered : ∀ entry : Request × Option Bytes, entry.1.client = client →
      (entry ∈ next.answered ↔ entry ∈ state.answered)) : Exchange client next texts work := by
  have submitted : next.submitted client = state.submitted client := by
    rw [WorkersState.submitted, clients]
    rfl
  constructor
  case atWork => exact atWork
  case unknown => exact clients ▸ exchange.unknown
  case accepted => exact clients ▸ exchange.accepted
  case fifo => exact clients ▸ exchange.fifo
  case counted => exact clients ▸ exchange.counted
  case current => exact clients ▸ exchange.current
  case connected => exact clients ▸ exchange.connected
  case answered =>
    intro entry member mine
    rw [submitted]
    exact exchange.answered entry ((answered entry mine).mp member) mine
  case once =>
    intro first left second right mine yours
    exact exchange.once first ((answered first mine).mp left) second
      ((answered second yours).mp right) mine yours
  case written =>
    intro index text there
    obtain ⟨line, member⟩ := exchange.written index text there
    exact ⟨line, (answered _ rfl).mpr member⟩

/-- A new line of the client is the request at work. -/
theorem Exchange.submit {record : Client} {line : Bytes} (exchange : Exchange client state texts none)
    (present : state.clients client = some record)
    (connected : record.stream.output.disconnected = false)
    (bounded : record.submitted.length + 1 < 2 ^ 64)
    (clients : next.clients client = some { record with
      requestsReceived := (record.requestsReceived + 1) % 2 ^ 64
      submitted := record.submitted ++ [line] })
    (queued : next.pool.queued client =
      state.pool.queued client ++ [⟨client, record.requestsReceived, line⟩])
    (held : next.inHand = state.inHand) (answered : next.answered = state.answered) :
    Exchange client next texts (some ⟨client, texts.length, line⟩) := by
  obtain ⟨alive, formed, received, all⟩ := exchange.connected record present connected
  have count := all rfl
  have lines : next.submitted client = record.submitted ++ [line] := submitted_of_some clients
  have before : state.submitted client = record.submitted := submitted_of_some present
  have known : ∀ after, next.clients client = some after → after = { record with
      requestsReceived := (record.requestsReceived + 1) % 2 ^ 64
      submitted := record.submitted ++ [line] } :=
    fun after there => Option.some.inj (there.symm.trans clients)
  have entries : ∀ entry ∈ state.answered, entry.1.client = client →
      entry.1.seqNum < texts.length := by
    intro entry member mine
    have inside := (exchange.answered entry member mine).2.1
    rw [before, List.getElem?_eq_some_iff] at inside
    exact count ▸ inside.1
  constructor
  case atWork =>
    cases exchange.atWork with
    | idle empty free =>
      rw [empty, received, count] at queued
      exact .waits queued (held ▸ free)
  case unknown =>
    intro missing
    rw [clients] at missing
    cases missing
  case accepted =>
    intro after there
    rw [known after there]
    exact exchange.accepted record present
  case fifo =>
    intro after there
    rw [known after there]
    exact exchange.fifo record present
  case counted =>
    intro after there
    rw [known after there, List.length_append, count]
    exact Nat.le_add_right _ _
  case current =>
    rintro after request there ⟨⟩
    rw [known after there]
    refine ⟨rfl, rfl, ?_, ?_⟩
    · rw [List.length_append, count]
      rfl
    · rw [← count, List.getElem?_concat_length]
  case connected =>
    intro after there _
    rw [known after there]
    refine ⟨alive, formed, ?_, fun impossible => by cases impossible⟩
    rw [List.length_append, List.length_singleton, received, Nat.mod_eq_of_lt bounded]
  case answered =>
    intro entry member mine
    rw [answered] at member
    obtain ⟨given, inside, -⟩ := exchange.answered entry member mine
    refine ⟨given, ?_, ?_⟩
    · rw [lines, List.getElem?_append_left (by rw [count]; exact entries entry member mine),
        ← before]
      exact inside
    · rintro request ⟨⟩
      exact entries entry member mine
  case once => exact answered ▸ exchange.once
  case written => exact answered ▸ exchange.written

/-- A request that is at work waits or is in hand as before, where the queue and the hands are. -/
theorem AtWork.congr (atWork : AtWork client state work)
    (queued : next.pool.queued client = state.pool.queued client)
    (held : ∀ worker request, request.client = client →
      (next.inHand worker = some request ↔ state.inHand worker = some request)) :
    AtWork client next work := by
  have free : (∀ worker request, state.inHand worker = some request → request.client ≠ client) →
      ∀ worker request, next.inHand worker = some request → request.client ≠ client :=
    fun before worker request there mine =>
      before worker request ((held worker request mine).mp there) mine
  cases atWork with
  | idle empty before => exact .idle (queued.trans empty) (free before)
  | waits alone before => exact .waits (queued.trans alone) (free before)
  | held empty holding owner only =>
    exact .held (queued.trans empty) ((held _ _ owner).mpr holding) owner
      fun other same there mine => only other same ((held other same mine).mp there) mine

/-- A worker takes the request that waits. -/
theorem AtWork.take (atWork : AtWork client state work) {worker : ThreadId} {request : Request}
    {rest : List Request} (owner : request.client = client)
    (front : state.pool.queued client = request :: rest) (queued : next.pool.queued client = rest)
    (held : next.inHand = Function.update state.inHand worker (some request)) :
    AtWork client next work := by
  cases atWork with
  | idle empty free => cases empty.symm.trans front
  | held empty holding mine only => cases empty.symm.trans front
  | waits alone free =>
    obtain ⟨rfl, rfl⟩ := List.cons.inj (alone.symm.trans front)
    refine .held queued (by rw [held, Function.update_self]) owner fun other same there mine => ?_
    by_contra apart
    rw [held, Function.update_of_ne apart] at there
    exact free other same there mine

/-- Once the request at work is answered, the answered requests are the client's, and none is at
work. -/
theorem Exchange.entries_finish {request : Request} {text : Bytes}
    (exchange : Exchange client state texts work)
    (line : (state.submitted client)[request.seqNum]? = some request.rpcLine)
    (lines : next.submitted client = state.submitted client)
    (answered : next.answered = state.answered ++ [(request, some text)]) :
    ∀ entry ∈ next.answered, entry.1.client = client → (∃ text, entry.2 = some text) ∧
      (next.submitted client)[entry.1.seqNum]? = some entry.1.rpcLine ∧
      ∀ other, (none : Option Request) = some other → entry.1.seqNum < other.seqNum := by
  intro entry member yours
  rw [lines]
  rcases List.mem_append.mp (answered ▸ member) with old | new
  · obtain ⟨given, inside, -⟩ := exchange.answered entry old yours
    exact ⟨given, inside, fun _ impossible => by cases impossible⟩
  · rw [List.mem_singleton.mp new]
    exact ⟨⟨text, rfl⟩, line, fun _ impossible => by cases impossible⟩

/-- The request at work comes behind those that were answered, so that it is not answered twice. -/
theorem Exchange.once_finish {request : Request} {text : Bytes}
    (exchange : Exchange client state texts work) (mine : work = some request)
    (answered : next.answered = state.answered ++ [(request, some text)]) :
    ∀ first ∈ next.answered, ∀ second ∈ next.answered, first.1.client = client →
      second.1.client = client → first.1.seqNum = second.1.seqNum → first = second := by
  have earlier : ∀ entry ∈ state.answered, entry.1.client = client →
      entry.1.seqNum ≠ request.seqNum :=
    fun entry member yours => Nat.ne_of_lt ((exchange.answered entry member yours).2.2 request mine)
  rw [answered]
  intro first left second right first_mine second_mine same
  rcases List.mem_append.mp left with left | left <;>
    rcases List.mem_append.mp right with right | right
  · exact exchange.once first left second right first_mine second_mine same
  · rw [List.mem_singleton.mp right] at same
    exact absurd same (earlier first left first_mine)
  · rw [List.mem_singleton.mp left] at same
    exact absurd same.symm (earlier second right second_mine)
  · rw [List.mem_singleton.mp left, List.mem_singleton.mp right]

/-- The response to the request at work is handed in. -/
theorem Exchange.finish {worker : ThreadId} {request : Request} {record : Client} {stream : Stream}
    {text : Bytes} {results : List WriteResult} (exchange : Exchange client state texts work)
    (owner : request.client = client) (holding : state.inHand worker = some request)
    (present : state.clients client = some record) (small : record.submitted.length ≤ seqLimit)
    (stepped :
      (streamMachine deadly).step record.stream ⟨request.seqNum, text, results⟩ = some stream)
    (fine : ∀ result ∈ results, result.fails deadly = false ∧ result.kills deadly = false)
    (clients : next.clients client = some { record with stream })
    (queued : next.pool.queued client = state.pool.queued client)
    (held : next.inHand = Function.update state.inHand worker none)
    (answered : next.answered = state.answered ++ [(request, some text)]) :
    ∃ more, Exchange client next (texts ++ more) none ∧
      (record.stream.output.disconnected = true → more = []) := by
  have mine := (exchange.atWork.holding holding owner).1
  have idle := exchange.atWork.finish holding owner queued held
  obtain ⟨-, seqNum, count, line⟩ := exchange.current record request present mine
  have lines : next.submitted client = record.submitted := by
    rw [submitted_of_some clients]
  have before : state.submitted client = record.submitted := submitted_of_some present
  have known : ∀ after, next.clients client = some after → after = { record with stream } :=
    fun after there => Option.some.inj (there.symm.trans clients)
  -- what does not depend on whether the response is written
  have entries := exchange.entries_finish (by rw [before, seqNum]; exact line)
    (lines.trans before.symm) answered
  have once := exchange.once_finish mine answered
  have there : next.clients client ≠ none := by
    rw [clients]
    exact Option.some_ne_none _
  cases gone : record.stream.output.disconnected with
  | true =>
    obtain ⟨output, fifo, accepted⟩ := StreamFormed.gone gone stepped
    refine ⟨[], ?_, fun _ => rfl⟩
    rw [List.append_nil]
    constructor
    case atWork => exact idle
    case unknown => exact fun missing => absurd missing there
    case accepted =>
      intro after found
      rw [known after found]
      exact accepted.trans (exchange.accepted record present)
    case fifo =>
      intro after found
      rw [known after found]
      exact fifo.trans (exchange.fifo record present)
    case counted =>
      intro after found
      rw [known after found]
      exact exchange.counted record present
    case current => exact fun _ _ _ impossible => by cases impossible
    case connected =>
      intro after found connected
      rw [known after found, output, gone] at connected
      cases connected
    case answered => exact entries
    case once => exact once
    case written =>
      intro index text written
      obtain ⟨line, member⟩ := exchange.written index text written
      exact ⟨line, answered ▸ List.mem_append_left _ member⟩
  | false =>
    rw [seqNum] at stepped
    obtain ⟨accepted, fifo, alive, -, formed⟩ :=
      exchange.respond present gone (by omega) stepped fine
    have length : (texts ++ [text]).length = record.submitted.length := by
      rw [List.length_append, count]
      rfl
    refine ⟨[text], ?_, fun impossible => by cases impossible⟩
    constructor
    case atWork => exact idle
    case unknown => exact fun missing => absurd missing there
    case accepted =>
      intro after found
      rw [known after found]
      exact accepted
    case fifo =>
      intro after found
      rw [known after found]
      exact fifo
    case counted =>
      intro after found
      rw [known after found]
      exact length.le
    case current => exact fun _ _ _ impossible => by cases impossible
    case connected =>
      intro after found _
      rw [known after found]
      exact ⟨alive, formed, (exchange.connected record present gone).2.2.1, fun _ => length.symm⟩
    case answered => exact entries
    case once => exact once
    case written =>
      intro index given written
      rcases Nat.lt_or_ge index texts.length with old | new
      · rw [List.getElem?_append_left old] at written
        obtain ⟨line, member⟩ := exchange.written index given written
        exact ⟨line, answered ▸ List.mem_append_left _ member⟩
      · have last : index = texts.length := by
          have inside := (List.getElem?_eq_some_iff.mp written).1
          rw [List.length_append, List.length_singleton] at inside
          omega
        rw [last, List.getElem?_concat_length, Option.some.injEq] at written
        refine ⟨request.rpcLine, ?_⟩
        rw [answered, last, ← written, ← owner, ← seqNum]
        exact List.mem_append_right _ List.mem_cons_self

/-- The client is being closed. -/
theorem Exchange.close {record after : Client} (exchange : Exchange client state texts work)
    (present : state.clients client = some record) (clients : next.clients client = some after)
    (accepted : after.stream.accepted = record.stream.accepted)
    (fifo : after.stream.fifo = record.stream.fifo)
    (gone : after.stream.output.disconnected = true) (lines : after.submitted = record.submitted)
    (queued : next.pool.queued client = state.pool.queued client ∨ next.pool.queued client = [])
    (held : next.inHand = state.inHand) (answered : next.answered = state.answered) :
    ∃ left, Exchange client next texts left := by
  have known : ∀ other, next.clients client = some other → other = after :=
    fun other there => Option.some.inj (there.symm.trans clients)
  have submitted : next.submitted client = state.submitted client := by
    rw [submitted_of_some clients, submitted_of_some present, lines]
  obtain ⟨left, atWork, from_⟩ : ∃ left, AtWork client next left ∧
      ∀ request, left = some request → work = some request := by
    rcases queued with same | empty
    · exact ⟨work, exchange.atWork.congr same fun _ _ _ => by rw [held], fun _ => id⟩
    · cases exchange.atWork with
      | idle alone free => exact ⟨none, .idle empty (held ▸ free), fun _ => id⟩
      | waits alone free => exact ⟨none, .idle empty (held ▸ free), fun _ => (nomatch ·)⟩
      | held alone holding owner only =>
        exact ⟨_, .held empty (held ▸ holding) owner (held ▸ only), fun _ => id⟩
  refine ⟨left, atWork, ?_, ?_, ?_, ?_, ?_, ?_, ?_, answered ▸ exchange.once,
    answered ▸ exchange.written⟩
  · intro missing
    rw [clients] at missing
    cases missing
  · intro other there
    rw [known other there, accepted]
    exact exchange.accepted record present
  · intro other there
    rw [known other there, fifo]
    exact exchange.fifo record present
  · intro other there
    rw [known other there, lines]
    exact exchange.counted record present
  · intro other request there busy
    rw [known other there, lines]
    exact exchange.current record request present (from_ request busy)
  · intro other there connected
    rw [known other there, gone] at connected
    cases connected
  · intro entry member mine
    rw [answered] at member
    rw [submitted]
    obtain ⟨given, inside, before⟩ := exchange.answered entry member mine
    exact ⟨given, inside, fun request busy => before request (from_ request busy)⟩

/-- Everything that a step can do to the requests of a client and what was written to it, where no
write fails, no response is missing, and a line is submitted only while nothing is at work. -/
theorem Exchange.step (exchange : Exchange client state texts work)
    (formed : state.Formed workerCount)
    (step : WorkersStep auth deadly workerCount state label next)
    (bounded : ∀ record, next.clients client = some record → record.submitted.length ≤ seqLimit)
    (fine : ∀ worker copied results request, label = .respond worker copied results →
      state.inHand worker = some request → request.client = client →
      ∀ result ∈ results, result.fails deadly = false ∧ result.kills deadly = false)
    (given : ∀ request, (request, none) ∈ next.answered → request.client = client →
      (request, none) ∈ state.answered)
    (alone : next.submitted client ≠ state.submitted client → work = none) :
    ∃ more left, Exchange client next (texts ++ more) left ∧
      (state.isDisconnected client = true → more = []) := by
  have change := step.client_change formed client
  cases change with
  | kept clients queued held answered =>
    refine ⟨[], work, ?_, fun _ => rfl⟩
    rw [List.append_nil]
    exact exchange.same clients (exchange.atWork.congr queued held) answered
  | born new clients queued held answered =>
    obtain ⟨rfl, rfl⟩ := exchange.unknown new
    have known : ∀ record, next.clients client = some record →
        record = { stream := { output := { fifoS2c := some _ } } } :=
      fun record there => Option.some.inj (there.symm.trans clients)
    have free : ∀ worker request, next.inHand worker = some request → request.client ≠ client := by
      rintro worker request there rfl
      have old := formed.held_known worker request (held ▸ there)
      rw [new] at old
      cases old
    have nothing : ∀ entry ∈ next.answered, entry.1.client ≠ client := by
      rintro entry member rfl
      have old := formed.answered_known entry (answered ▸ member)
      rw [new] at old
      cases old
    refine ⟨[], none, ⟨.idle queued free, ?_, ?_, ?_, ?_, ?_, ?_, ?_, ?_, ?_⟩, fun _ => rfl⟩
    · intro missing
      rw [clients] at missing
      cases missing
    · intro record there
      rw [known record there]
      rfl
    · intro record there
      rw [known record there]
      rfl
    · exact fun _ _ => Nat.zero_le _
    · exact fun _ _ _ impossible => by cases impossible
    · intro record there _
      rw [known record there]
      exact ⟨rfl, streamFormed_initial _, rfl, fun _ => rfl⟩
    · exact fun entry member mine => absurd mine (nothing entry member)
    · exact fun entry member _ _ mine => absurd mine (nothing entry member)
    · exact fun index text there => by cases there
  | submitted present clients queued held answered =>
    rename_i record line
    have grown : next.submitted client ≠ state.submitted client := by
      rw [submitted_of_some clients, submitted_of_some present]
      exact fun same => by simpa using congrArg List.length same
    obtain rfl := alone grown
    have connected := (step.grows grown).2 record present
    have small := bounded _ clients
    rw [List.length_append, List.length_singleton] at small
    have room : record.submitted.length + 1 < 2 ^ 64 := by
      simp only [seqLimit, maxPendingResponses] at small
      omega
    refine ⟨[], some ⟨client, texts.length, line⟩, ?_, fun _ => rfl⟩
    rw [List.append_nil]
    exact exchange.submit present connected room clients queued held answered
  | taken owner idle front queued held clients answered =>
    refine ⟨[], work, ?_, fun _ => rfl⟩
    rw [List.append_nil]
    exact exchange.same (congrFun clients client)
      (exchange.atWork.take owner front queued held) fun _ _ => by rw [answered]
  | sent called owner holding present stepped clients queued held answered =>
    have small := bounded _ clients
    obtain ⟨more, after, silent⟩ := exchange.finish owner holding present small stepped
      (fine _ _ _ _ called holding owner) clients queued held answered
    exact ⟨more, none, after, fun gone => silent ((isDisconnected_of_some present).symm.trans gone)⟩
  | dropped owner holding clients queued held answered =>
    rename_i worker request
    have old := given request (answered ▸ List.mem_append_right _ List.mem_cons_self) owner
    obtain ⟨text, impossible⟩ := (exchange.answered _ old owner).1
    cases impossible
  | closed present clients gone received lines queued held answered =>
    obtain ⟨other, there, kept⟩ := step.stream_kept present
    obtain rfl := Option.some.inj (there.symm.trans clients)
    refine ⟨[], ?_⟩
    rw [List.append_nil]
    rcases kept with ⟨accepted, fifo⟩ | ⟨worker, request, holding, -, finished⟩
    · obtain ⟨left, after⟩ :=
        exchange.close present clients accepted fifo gone lines queued held answered
      exact ⟨left, after, fun _ => rfl⟩
    · rw [held, holding] at finished
      cases finished

/-! ## A connected client has a queue -/

/-- The pool runs, and a client that is connected has its queue. -/
def WorkersState.HasQueue (state : WorkersState) (client : ClientId) : Prop :=
  state.pool.shuttingDown = false ∧
    ∀ record, state.clients client = some record → record.stream.output.disconnected = false →
      ∃ queue, findClientQueue state.pool client = some queue ∧ queue.active = true

/-- A line of a connected client is accepted if there is memory for it. -/
theorem WorkersState.HasQueue.accepts (queue : state.HasQueue client) {record : Client}
    (present : state.clients client = some record)
    (connected : record.stream.output.disconnected = false) (line : Bytes) :
    ∃ pool, threadpoolSubmit state.pool client record.stream.output.disconnected
      record.requestsReceived line true = .ok pool := by
  obtain ⟨running, there⟩ := queue
  obtain ⟨own, found, active⟩ := there record present connected
  simp [threadpoolSubmit, running, found, active, connected]

/-- Every step keeps the queue of a client that stays connected. -/
theorem WorkersStep.hasQueue (step : WorkersStep auth deadly workerCount state label next)
    (queue : state.HasQueue client) : next.HasQueue client := by
  obtain ⟨running, there⟩ := queue
  -- a write to a queue keeps it active
  have written : ∀ {pool : Pool} {changed : ClientId} {write : ClientQueue → ClientQueue} {own},
      pool.clients = state.pool.updateQueue changed write →
      (∀ queue, (write queue).client = queue.client) →
      (∀ queue, (write queue).active = queue.active) →
      findClientQueue state.pool client = some own → own.active = true →
      ∃ queue, findClientQueue pool client = some queue ∧ queue.active = true := by
    intro pool changed write own same kept still found active
    rw [findClientQueue_updateQueue same kept, found]
    refine ⟨if own.client = changed then write own else own, rfl, ?_⟩
    split
    · rw [still]
      exact active
    · exact active
  cases step with
  | register new registered =>
    rename_i added fifo memory pool
    obtain ⟨missing, rfl⟩ := threadpoolRegisterClient_ok registered
    refine ⟨running, fun record present connected => ?_⟩
    by_cases here : client = added
    · subst here
      refine ⟨{ client }, ?_, rfl⟩
      simp only [findClientQueue] at missing
      simp [WorkersState.setClient, findClientQueue, List.find?_append, missing]
    · rw [clients_setClient_ne here] at present
      obtain ⟨own, found, active⟩ := there record present connected
      refine ⟨own, ?_, active⟩
      simp only [findClientQueue] at found
      simp [WorkersState.setClient, findClientQueue, List.find?_append, found]
  | submit known submitted =>
    rename_i changed line memory old pool
    obtain ⟨-, fine, -, rfl⟩ := threadpoolSubmit_ok submitted
    refine ⟨running, fun record present connected => ?_⟩
    obtain ⟨own, found, active⟩ : ∃ queue, findClientQueue state.pool client = some queue ∧
        queue.active = true := by
      by_cases here : client = changed
      · subst here
        exact there old known fine
      · rw [clients_setClient_ne here] at present
        exact there record present connected
    exact written rfl (fun _ => rfl) (fun _ => rfl) found active
  | refuse known refused => exact ⟨running, there⟩
  | dequeue idle free dequeued =>
    obtain ⟨front, rest, -, -, -, rfl⟩ := dequeueFairRequest_some dequeued
    refine ⟨running, fun record present connected => ?_⟩
    obtain ⟨own, found, active⟩ := there record present connected
    exact written rfl (fun _ => rfl) (fun _ => rfl) found active
  | advance stepped => exact ⟨running, there⟩
  | respond held working answer known called =>
    rename_i worker copied results request served response text old sent
    obtain ⟨stream, rfl, -, fails, -⟩ := send_decided called
    refine ⟨running, fun record present connected => ?_⟩
    by_cases here : client = request.client
    · subst here
      obtain rfl : { old with stream } = record :=
        Option.some.inj (clients_setClient_self.symm.trans present)
      refine there old known ?_
      by_contra gone
      rw [fails.mpr (.inl (by simpa using gone))] at connected
      cases connected
    · exact there record ((clients_setClient_ne here).symm.trans present) connected
  | silent held working answer => exact ⟨running, there⟩
  | beginClose known connected stepped => exact ⟨running, there⟩
  | markClosed known working =>
    rename_i changed old response
    refine ⟨running, fun record present connected => ?_⟩
    by_cases here : client = changed
    · subst here
      obtain rfl := Option.some.inj (clients_setClient_self.symm.trans present)
      cases connected
    · exact there record ((clients_setClient_ne here).symm.trans present) connected
  | remove known gone =>
    rename_i changed old
    refine ⟨?_, fun record present connected => ?_⟩
    · simp only [threadpoolRemoveClient]
      split
      · exact running
      · exact running
    · have apart : client ≠ changed := by
        rintro rfl
        obtain rfl := Option.some.inj (known.symm.trans present)
        rw [gone] at connected
        cases connected
      obtain ⟨own, found, active⟩ := there record present connected
      refine ⟨own, ?_, active⟩
      simp only [threadpoolRemoveClient]
      split
      · simp only [findClientQueue, List.find?_filter] at found ⊢
        rw [← found]
        congr 1
        funext queue
        by_cases same : queue.client = client <;> simp [same, apart]
      · exact found
  | closeFifo known gone =>
    rename_i changed old
    refine ⟨running, fun record present connected => ?_⟩
    by_cases here : client = changed
    · subst here
      obtain rfl := Option.some.inj (clients_setClient_self.symm.trans present)
      have closed : old.stream.output.disconnected = false := connected
      rw [gone] at closed
      cases closed
    · exact there record ((clients_setClient_ne here).symm.trans present) connected

/-! ## Answers are replies -/

/-- Every response that was sent is a reply. -/
def WorkersState.AnswersReplies (state : WorkersState) : Prop :=
  ∀ entry ∈ state.answered, ∀ text ∈ entry.2, IsReply text

/-- After every step, the responses that were sent are replies. -/
theorem WorkersStep.answersReplies (step : WorkersStep auth deadly workerCount state label next)
    (replies : state.Replies) (answers : state.AnswersReplies) : next.AnswersReplies := by
  cases step with
  | respond held working answer present called =>
    rename_i worker copied results request served response text record sent
    obtain ⟨stream, -, rfl⟩ := send_some called
    intro entry member
    rcases List.mem_append.mp member with old | new
    · exact answers entry old
    · rw [List.mem_singleton.mp new]
      rintro other ⟨⟩
      exact isReply_workerResponse (replies worker served _ working) answer
  | silent held working answer =>
    intro entry member
    rcases List.mem_append.mp member with old | new
    · exact answers entry old
    · rw [List.mem_singleton.mp new]
      exact fun _ impossible => by cases impossible
  | _ => exact answers

end AnimateService
