import AnimateService.Workers

/-!
# The way of one client's requests

A request is accepted into its client's queue, taken by a worker and answered. `ClientChange` is
what a step of the workers can do to the requests of one client. From it follows that sequence
numbers number the requests in the order of their submission, and that the queue keeps that order:
a request is taken only after all earlier ones.
-/
namespace AnimateService

open Transition

/-- What a step does to one client and its requests. -/
inductive ClientChange (deadly : Bool) (client : ClientId) (state next : WorkersState)
    (label : WorkersLabel) : Prop where
  /-- The step is about something else. -/
  | kept (clients : next.clients client = state.clients client)
      (queued : next.pool.queued client = state.pool.queued client)
      (held : ∀ worker request, request.client = client →
        (next.inHand worker = some request ↔ state.inHand worker = some request))
      (answered : ∀ entry : Request × Option Bytes, entry.1.client = client →
        (entry ∈ next.answered ↔ entry ∈ state.answered))
  /-- The client is accepted. -/
  | born {fifo : Nat} (new : state.clients client = none)
      (clients : next.clients client = some { stream := { output := { fifoS2c := some fifo } } })
      (queued : next.pool.queued client = []) (held : next.inHand = state.inHand)
      (answered : next.answered = state.answered)
  /-- A line of the client becomes its last request. -/
  | submitted {record : Client} {line : Bytes} (present : state.clients client = some record)
      (clients : next.clients client = some { record with
        requestsReceived := (record.requestsReceived + 1) % 2 ^ 64
        submitted := record.submitted ++ [line] })
      (queued : next.pool.queued client =
        state.pool.queued client ++ [⟨client, record.requestsReceived, line⟩])
      (held : next.inHand = state.inHand) (answered : next.answered = state.answered)
  /-- An idle worker takes the client's first request. -/
  | taken {worker : ThreadId} {request : Request} {rest : List Request}
      (owner : request.client = client) (idle : state.inHand worker = none)
      (front : state.pool.queued client = request :: rest)
      (queued : next.pool.queued client = rest)
      (held : next.inHand = Function.update state.inHand worker (some request))
      (clients : next.clients = state.clients) (answered : next.answered = state.answered)
  /-- A worker hands in a response. -/
  | sent {worker : ThreadId} {copied : Bool} {results : List WriteResult} {request : Request}
      {text : Bytes} {record : Client} {stream : Stream}
      (called : label = .respond worker copied results) (owner : request.client = client)
      (holding : state.inHand worker = some request)
      (present : state.clients client = some record)
      (stepped :
        (streamMachine deadly).step record.stream ⟨request.seqNum, text, results⟩ = some stream)
      (clients : next.clients client = some { record with stream })
      (queued : next.pool.queued client = state.pool.queued client)
      (held : next.inHand = Function.update state.inHand worker none)
      (answered : next.answered = state.answered ++ [(request, some text)])
  /-- A worker has no response. -/
  | dropped {worker : ThreadId} {request : Request} (owner : request.client = client)
      (holding : state.inHand worker = some request) (clients : next.clients = state.clients)
      (queued : next.pool.queued client = state.pool.queued client)
      (held : next.inHand = Function.update state.inHand worker none)
      (answered : next.answered = state.answered ++ [(request, none)])
  /-- The client is being closed. -/
  | closed {record after : Client} (present : state.clients client = some record)
      (clients : next.clients client = some after)
      (gone : after.stream.output.disconnected = true)
      (received : after.requestsReceived = record.requestsReceived)
      (lines : after.submitted = record.submitted)
      (queued : next.pool.queued client = state.pool.queued client ∨ next.pool.queued client = [])
      (held : next.inHand = state.inHand) (answered : next.answered = state.answered)

variable {auth : AuthDb} {deadly : Bool} {workerCount : Nat} {state next : WorkersState}
  {label : WorkersLabel} {client : ClientId}

/-- A request in hand other than the one that a worker gives up or takes. -/
theorem update_inHand_iff {inHand : ThreadId → Option Request} {worker other : ThreadId}
    {work : Option Request} {request : Request} (before : inHand worker ≠ some request)
    (after : work ≠ some request) :
    Function.update inHand worker work other = some request ↔ inHand other = some request := by
  by_cases same : other = worker
  · subst same
    simp [before, after]
  · rw [Function.update_of_ne same]

/-- Everything that a step can do to one client. -/
theorem WorkersStep.client_change (formed : state.Formed workerCount)
    (step : WorkersStep auth deadly workerCount state label next) (client : ClientId) :
    ClientChange deadly client state next label := by
  cases step with
  | register new registered =>
    rename_i other fifo memory pool
    obtain ⟨-, same, empty⟩ := threadpoolRegisterClient_spec formed.pool registered
    by_cases here : client = other
    · subst here
      exact .born new clients_setClient_self ((congrFun same client).trans empty) rfl rfl
    · exact .kept (clients_setClient_ne here) (congrFun same client) (fun _ _ _ => .rfl)
        fun _ _ => .rfl
  | submit present submitted =>
    rename_i other line memory record pool
    obtain ⟨-, -, same⟩ := threadpoolSubmit_spec formed.pool submitted
    by_cases here : client = other
    · subst here
      exact .submitted present clients_setClient_self
        ((congrFun same client).trans (Function.update_self ..)) rfl rfl
    · exact .kept (clients_setClient_ne here)
        ((congrFun same client).trans (Function.update_of_ne here ..)) (fun _ _ _ => .rfl)
        fun _ _ => .rfl
  | refuse present refused => exact .kept rfl rfl (fun _ _ _ => .rfl) fun _ _ => .rfl
  | dequeue idle known dequeued =>
    rename_i worker request pool
    obtain ⟨-, rest, front, same⟩ := dequeueFairRequest_spec formed.pool dequeued
    have empty := formed.idle idle
    by_cases here : request.client = client
    · subst here
      exact .taken rfl empty front ((congrFun same _).trans (Function.update_self ..)) rfl rfl rfl
    · refine .kept rfl ((congrFun same client).trans (Function.update_of_ne (Ne.symm here) ..)) ?_
        fun _ _ => .rfl
      intro other taken mine
      refine update_inHand_iff (by simp [empty]) ?_
      rintro ⟨⟩
      exact here mine
  | advance stepped => exact .kept rfl rfl (fun _ _ _ => .rfl) fun _ _ => .rfl
  | respond held working answer present called =>
    rename_i worker copied results request served response text record sent
    obtain ⟨stream, stepped, rfl⟩ := send_some called
    by_cases here : request.client = client
    · subst here
      exact .sent rfl rfl held present stepped clients_setClient_self rfl rfl rfl
    · refine .kept (clients_setClient_ne (Ne.symm here)) rfl ?_ ?_
      · intro other taken mine
        have apart : state.inHand worker ≠ some taken := by
          rw [held]
          rintro ⟨⟩
          exact here mine
        exact update_inHand_iff apart (by simp)
      · intro entry mine
        simp only [WorkersState.finish, List.mem_append, List.mem_singleton]
        refine or_iff_left ?_
        rintro rfl
        exact here mine
  | silent held working answer =>
    rename_i worker copied request served response
    by_cases here : request.client = client
    · exact .dropped here held rfl rfl rfl rfl
    · refine .kept rfl rfl ?_ ?_
      · intro other taken mine
        have apart : state.inHand worker ≠ some taken := by
          rw [held]
          rintro ⟨⟩
          exact here mine
        exact update_inHand_iff apart (by simp)
      · intro entry mine
        simp only [WorkersState.finish, List.mem_append, List.mem_singleton]
        refine or_iff_left ?_
        rintro rfl
        exact here mine
  | beginClose present connected stepped => exact .kept rfl rfl (fun _ _ _ => .rfl) fun _ _ => .rfl
  | markClosed present working =>
    rename_i other record response
    by_cases here : client = other
    · subst here
      exact .closed present clients_setClient_self rfl rfl rfl (.inl rfl) rfl rfl
    · exact .kept (clients_setClient_ne here) rfl (fun _ _ _ => .rfl) fun _ _ => .rfl
  | remove present gone =>
    rename_i other record
    have same := (threadpoolRemoveClient_spec other formed.pool).2.1
    by_cases here : client = other
    · subst here
      exact .closed present present gone rfl rfl
        (.inr ((congrFun same client).trans (Function.update_self ..))) rfl rfl
    · exact .kept rfl ((congrFun same client).trans (Function.update_of_ne here ..))
        (fun _ _ _ => .rfl) fun _ _ => .rfl
  | closeFifo present gone =>
    rename_i other record
    by_cases here : client = other
    · subst here
      exact .closed present clients_setClient_self gone rfl rfl (.inl rfl) rfl rfl
    · exact .kept (clients_setClient_ne here) rfl (fun _ _ _ => .rfl) fun _ _ => .rfl

/-! ## Sequence numbers -/

/-- A request of the client with that sequence number waits in the pool or is in a worker's hand. -/
def Outstanding (state : WorkersState) (client : ClientId) (seqNum : Nat) : Prop :=
  (∃ request ∈ state.pool.queued client, request.seqNum = seqNum) ∨
    ∃ worker request, state.inHand worker = some request ∧ request.client = client ∧
      request.seqNum = seqNum

/-- The requests of a client are numbered in the order of their submission and leave the queue in
that order. -/
structure Numbered (client : ClientId) (state : WorkersState) (record : Client) : Prop where
  /-- `requests_received` counts the accepted lines. -/
  counted : record.requestsReceived = record.submitted.length % 2 ^ 64
  /-- Sequence numbers have been handed out. -/
  below : ∀ seqNum, Outstanding state client seqNum → seqNum < record.submitted.length
  /-- A request carries the line of its number. -/
  lines : ∀ request, request ∈ state.pool.queued client ∨
    (∃ worker, state.inHand worker = some request ∧ request.client = client) →
    record.submitted[request.seqNum]? = some request.rpcLine
  /-- The queue is in order. -/
  sorted : (state.pool.queued client).Pairwise fun first second => first.seqNum < second.seqNum
  /-- What is in hand comes before what waits. -/
  behind : ∀ worker request, state.inHand worker = some request → request.client = client →
    ∀ later ∈ state.pool.queued client, request.seqNum < later.seqNum
  /-- No two workers have the same request. -/
  apart : ∀ worker other request same, state.inHand worker = some request →
    state.inHand other = some same → request.client = client → same.client = client →
    request.seqNum = same.seqNum → worker = other

/-- Requests that leave the queue or a worker's hand keep the numbering of the others. -/
theorem Numbered.shrink {record after : Client} (before : Numbered client state record)
    (received : after.requestsReceived = record.requestsReceived)
    (lines : after.submitted = record.submitted)
    (queued : (next.pool.queued client).Sublist (state.pool.queued client))
    (held : ∀ worker request, request.client = client → next.inHand worker = some request →
      state.inHand worker = some request) : Numbered client next after where
  counted := by rw [received, lines, before.counted]
  below := by
    rintro seqNum (⟨request, waits, same⟩ | ⟨worker, request, holds, mine, same⟩)
    · exact lines ▸ before.below seqNum (.inl ⟨request, queued.subset waits, same⟩)
    · exact lines ▸ before.below seqNum (.inr ⟨worker, request, held _ _ mine holds, mine, same⟩)
  lines := by
    rintro request (waits | ⟨worker, holds, mine⟩)
    · exact lines ▸ before.lines request (.inl (queued.subset waits))
    · exact lines ▸ before.lines request (.inr ⟨worker, held _ _ mine holds, mine⟩)
  sorted := before.sorted.sublist queued
  behind := fun worker request holds mine later waits =>
    before.behind worker request (held _ _ mine holds) mine later (queued.subset waits)
  apart := fun worker other request same holds also mine yours =>
    before.apart worker other request same (held _ _ mine holds) (held _ _ yours also) mine yours

/-- A worker that gives up its request holds no other. -/
theorem held_of_update {inHand : ThreadId → Option Request} {worker other : ThreadId}
    {request : Request} (holds : Function.update inHand worker none other = some request) :
    other ≠ worker ∧ inHand other = some request := by
  by_cases same : other = worker
  · simp [same] at holds
  · exact ⟨same, by simpa [Function.update_of_ne same] using holds⟩

/-- A new client has no requests to number. -/
theorem numbered_new (formed : state.Formed workerCount) (new : state.clients client = none)
    (queued : next.pool.queued client = []) (held : next.inHand = state.inHand) (stream : Stream) :
    Numbered client next { stream } := by
  have empty : ∀ worker request, next.inHand worker = some request → request.client ≠ client := by
    rintro worker request holds rfl
    rw [held] at holds
    have known := formed.held_known worker request holds
    rw [new] at known
    cases known
  constructor
  case counted => rfl
  case below =>
    rintro seqNum (⟨request, waits, -⟩ | ⟨worker, request, holds, mine, -⟩)
    · rw [queued] at waits
      cases waits
    · exact absurd mine (empty worker request holds)
  case lines =>
    rintro request (waits | ⟨worker, holds, mine⟩)
    · rw [queued] at waits
      cases waits
    · exact absurd mine (empty worker request holds)
  case sorted =>
    rw [queued]
    exact .nil
  case behind => exact fun worker request holds mine => absurd mine (empty worker request holds)
  case apart =>
    exact fun worker other request same holds _ mine => absurd mine (empty worker request holds)

/-- A line that is accepted gets the next number. -/
theorem Numbered.submit {record : Client} {line : Bytes} (before : Numbered client state record)
    (room : record.submitted.length < 2 ^ 64)
    (queued : next.pool.queued client =
      state.pool.queued client ++ [⟨client, record.requestsReceived, line⟩])
    (held : next.inHand = state.inHand) : Numbered client next
      { record with
        requestsReceived := (record.requestsReceived + 1) % 2 ^ 64
        submitted := record.submitted ++ [line] } := by
  have counted : record.requestsReceived = record.submitted.length := by
    rw [before.counted, Nat.mod_eq_of_lt room]
  have waits_cases : ∀ request, request ∈ next.pool.queued client →
      request ∈ state.pool.queued client ∨
        request = ⟨client, record.submitted.length, line⟩ := by
    intro request waits
    rw [queued, counted] at waits
    simpa using waits
  have early : ∀ request, request ∈ state.pool.queued client ∨
      (∃ worker, state.inHand worker = some request ∧ request.client = client) →
      request.seqNum < record.submitted.length := by
    rintro request (waits | ⟨worker, holds, mine⟩)
    · exact before.below _ (.inl ⟨request, waits, rfl⟩)
    · exact before.below _ (.inr ⟨worker, request, holds, mine, rfl⟩)
  have number : ∀ request, request ∈ next.pool.queued client ∨
      (∃ worker, next.inHand worker = some request ∧ request.client = client) →
      (record.submitted ++ [line])[request.seqNum]? = some request.rpcLine := by
    have old_line : ∀ request, request ∈ state.pool.queued client ∨
        (∃ worker, state.inHand worker = some request ∧ request.client = client) →
        (record.submitted ++ [line])[request.seqNum]? = some request.rpcLine := by
      intro request there
      rw [List.getElem?_append_left (early request there), before.lines request there]
    rintro request (waits | holds)
    · rcases waits_cases request waits with there | rfl
      · exact old_line request (.inl there)
      · simp
    · exact old_line request (.inr (held ▸ holds))
  constructor
  case counted => simp only [counted, List.length_append, List.length_singleton]
  case below =>
    rintro seqNum (⟨request, waits, rfl⟩ | ⟨worker, request, holds, mine, rfl⟩)
    · exact (List.getElem?_eq_some_iff.mp (number request (.inl waits))).1
    · exact (List.getElem?_eq_some_iff.mp (number request (.inr ⟨worker, holds, mine⟩))).1
  case lines => exact number
  case sorted =>
    rw [queued, counted]
    refine List.pairwise_append.mpr ⟨before.sorted, List.pairwise_singleton _ _, ?_⟩
    intro first waits second last
    rw [List.mem_singleton.mp last]
    exact early first (.inl waits)
  case behind =>
    intro worker request holds mine later waits
    rw [held] at holds
    rcases waits_cases later waits with there | rfl
    · exact before.behind worker request holds mine later there
    · exact early request (.inr ⟨worker, holds, mine⟩)
  case apart => exact held ▸ before.apart

/-- A worker that takes the first request takes the one with the lowest number. -/
theorem Numbered.take {record : Client} {worker : ThreadId} {request : Request}
    {rest : List Request} (before : Numbered client state record)
    (front : state.pool.queued client = request :: rest)
    (queued : next.pool.queued client = rest)
    (held : next.inHand = Function.update state.inHand worker (some request)) :
    Numbered client next record := by
  have ordered := before.sorted
  rw [front, List.pairwise_cons] at ordered
  have holds_cases : ∀ other same, next.inHand other = some same →
      (other = worker ∧ same = request) ∨ (other ≠ worker ∧ state.inHand other = some same) := by
    intro other same holds
    rw [held] at holds
    by_cases here : other = worker
    · subst here
      rw [Function.update_self] at holds
      exact .inl ⟨rfl, (Option.some.inj holds).symm⟩
    · exact .inr ⟨here, by rwa [Function.update_of_ne here] at holds⟩
  have first : request ∈ state.pool.queued client := front ▸ List.mem_cons_self
  have later : ∀ other ∈ next.pool.queued client, other ∈ state.pool.queued client := by
    intro other waits
    rw [front, ← queued]
    exact List.mem_cons_of_mem _ waits
  constructor
  case counted => exact before.counted
  case below =>
    rintro seqNum (⟨other, waits, rfl⟩ | ⟨other, same, holds, mine, rfl⟩)
    · exact before.below _ (.inl ⟨other, later other waits, rfl⟩)
    · rcases holds_cases other same holds with ⟨rfl, rfl⟩ | ⟨-, there⟩
      · exact before.below _ (.inl ⟨same, first, rfl⟩)
      · exact before.below _ (.inr ⟨other, same, there, mine, rfl⟩)
  case lines =>
    rintro other (waits | ⟨holder, holds, mine⟩)
    · exact before.lines other (.inl (later other waits))
    · rcases holds_cases holder other holds with ⟨rfl, rfl⟩ | ⟨-, there⟩
      · exact before.lines other (.inl first)
      · exact before.lines other (.inr ⟨holder, there, mine⟩)
  case sorted => exact queued ▸ ordered.2
  case behind =>
    intro other same holds mine after waits
    rcases holds_cases other same holds with ⟨rfl, rfl⟩ | ⟨-, there⟩
    · exact ordered.1 after (queued ▸ waits)
    · exact before.behind other same there mine after (later after waits)
  case apart =>
    intro left right mine yours holds also owned also_owned same
    rcases holds_cases left mine holds with ⟨rfl, rfl⟩ | ⟨-, there⟩ <;>
      rcases holds_cases right yours also with ⟨rfl, rfl⟩ | ⟨-, present⟩
    · rfl
    · exact absurd same (Nat.ne_of_gt (before.behind right yours present also_owned _ first))
    · exact absurd same (Nat.ne_of_lt (before.behind left mine there owned _ first))
    · exact before.apart left right mine yours there present owned also_owned same

/-- Every step keeps the numbering, up to 2⁶⁴ requests. -/
theorem ClientChange.numbered (formed : state.Formed workerCount)
    (change : ClientChange deadly client state next label)
    (numbered : ∀ record, state.clients client = some record →
      record.submitted.length ≤ 2 ^ 64 → Numbered client state record)
    (record : Client) (present : next.clients client = some record)
    (bounded : record.submitted.length ≤ 2 ^ 64) : Numbered client next record := by
  cases change with
  | kept clients queued held answered =>
    have before := numbered record (clients ▸ present) bounded
    exact before.shrink rfl rfl (queued ▸ List.Sublist.refl _) fun worker request mine =>
      (held worker request mine).mp
  | born new clients queued held answered =>
    obtain rfl := Option.some.inj (clients.symm.trans present)
    exact numbered_new formed new queued held _
  | submitted old clients queued held answered =>
    rename_i earlier line
    obtain rfl := Option.some.inj (clients.symm.trans present)
    have room : earlier.submitted.length < 2 ^ 64 := by
      rw [List.length_append, List.length_singleton] at bounded
      exact bounded
    exact (numbered earlier old room.le).submit room queued held
  | taken owner idle front queued held clients answered =>
    exact (numbered record (clients ▸ present) bounded).take front queued held
  | sent called owner holding old stepped clients queued held answered =>
    obtain rfl := Option.some.inj (clients.symm.trans present)
    have before := numbered _ old bounded
    exact before.shrink rfl rfl (queued ▸ List.Sublist.refl _) fun other same _ holds =>
      (held_of_update (held ▸ holds)).2
  | dropped owner holding clients queued held answered =>
    have before := numbered record (clients ▸ present) bounded
    exact before.shrink rfl rfl (queued ▸ List.Sublist.refl _) fun other same _ holds =>
      (held_of_update (held ▸ holds)).2
  | closed old clients gone received lines queued held answered =>
    obtain rfl := Option.some.inj (clients.symm.trans present)
    have before := numbered _ old (lines ▸ bounded)
    refine before.shrink received lines ?_ fun other same _ holds => held ▸ holds
    rcases queued with same | empty
    · exact same ▸ List.Sublist.refl _
    · exact empty ▸ List.nil_sublist _

/-- Sequence numbers up to 2⁶⁴ number the requests of a client in every run. -/
theorem workersMachine_numbered {labels : List WorkersLabel} {last : WorkersState} {record : Client}
    (ran : (workersMachine auth deadly workerCount).run {} labels = some last)
    (present : last.clients client = some record) (bounded : record.submitted.length ≤ 2 ^ 64) :
    Numbered client last record := by
  have kept : ∀ state label next,
      state.Formed workerCount ∧ (∀ record, state.clients client = some record →
        record.submitted.length ≤ 2 ^ 64 → Numbered client state record) →
      (workersMachine auth deadly workerCount).step state label = some next →
      next.Formed workerCount ∧ (∀ record, next.clients client = some record →
        record.submitted.length ≤ 2 ^ 64 → Numbered client next record) := by
    rintro state label next ⟨formed, numbered⟩ step
    obtain ⟨-, taken⟩ := workersMachine_step step
    exact ⟨taken.formed formed, (taken.client_change formed client).numbered formed numbered⟩
  have initially : ∀ record, ({} : WorkersState).clients client = some record →
      record.submitted.length ≤ 2 ^ 64 → Numbered client {} record := by
    intro record there
    cases there
  exact (Machine.run_invariant kept ⟨workers_formed_initial, initially⟩ ran).2 record present bounded

end AnimateService
