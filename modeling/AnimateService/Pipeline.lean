import AnimateService.RequestFlow

/-!
# Responses that arrive in time

A client's requests may run ahead of its oldest unfinished one without limit, while its stream
keeps room for `MAX_PENDING_RESPONSES`. As long as no response was discarded, every accepted
request is still outstanding or its response is in the stream, so the response that is next in the
stream is that of the oldest outstanding request. A response is therefore discarded exactly if it
is handed in while a request older by the size of the window is outstanding.
-/
namespace AnimateService

open Reorder Transition

/-- The client has stayed connected, the workers had a response to each of its requests and all
writes to it succeeded, and its sequence numbers stay away from their limit. -/
structure Live (client : ClientId) (state : WorkersState) : Prop where
  /-- Every request had a response. -/
  answered : ∀ entry ∈ state.answered, entry.1.client = client → entry.2.isSome = true
  /-- The client is neither closed nor was a write to it given up. -/
  connected : ∀ record, state.clients client = some record →
    record.stream.output.disconnected = false ∧ record.stream.killed = false
  /-- It has not sent too many requests. -/
  bounded : ∀ record, state.clients client = some record → record.submitted.length ≤ seqLimit

/-- The step hands in a response to the client that `send_ordered_response` discards. -/
def Discards (client : ClientId) (state : WorkersState) (label : WorkersLabel) : Prop :=
  ∃ worker copied results request record, label = .respond worker copied results ∧
    state.inHand worker = some request ∧ request.client = client ∧
    state.clients client = some record ∧ record.stream.output.discards request.seqNum = true

/-- A response that the step hands in for the client is less than a window ahead of every request
that is outstanding. -/
def InTime (client : ClientId) (state : WorkersState) (label : WorkersLabel) : Prop :=
  ∀ worker copied results request, label = .respond worker copied results →
    state.inHand worker = some request → request.client = client →
    ∀ seqNum, Outstanding state client seqNum → request.seqNum < seqNum + maxPendingResponses

/-- Every accepted request of the client is outstanding or its response is in the stream. -/
structure Conserved (client : ClientId) (state : WorkersState) (record : Client) : Prop where
  /-- The stream is in order. -/
  formed : StreamFormed record.stream
  /-- An outstanding request has no response yet. -/
  fresh : ∀ seqNum, Outstanding state client seqNum → record.stream.accepted seqNum = none
  /-- No request is lost. -/
  complete : ∀ seqNum < record.submitted.length,
    Outstanding state client seqNum ∨ (record.stream.accepted seqNum).isSome = true
  /-- The stream has responses to requests of the client only. -/
  below : ∀ seqNum, (record.stream.accepted seqNum).isSome = true →
    seqNum < record.submitted.length
  /-- The stream has the responses that were handed in. -/
  texts : ∀ entry ∈ state.answered, entry.1.client = client →
    record.stream.accepted entry.1.seqNum = entry.2

variable {auth : AuthDb} {deadly : Bool} {workerCount : Nat} {state next : WorkersState}
  {label : WorkersLabel} {client : ClientId}

/-- A stream that is fine after a call was fine before. -/
theorem stream_earlier {stream after : Stream} {call : SendCall}
    (stepped : (streamMachine deadly).step stream call = some after)
    (connected : after.output.disconnected = false) :
    stream.output.disconnected = false ∧ stream.killed = false := by
  constructor
  · by_contra gone
    have same := (StreamFormed.gone (by simpa using gone) stepped).1
    rw [same] at connected
    exact gone connected
  · cases killed : stream.killed with
    | false => rfl
    | true => simp [streamMachine, killed] at stepped

/-- Losing a response, a connection or a write is final. -/
theorem Live.earlier (change : ClientChange deadly client state next label)
    (live : Live client next) : Live client state := by
  cases change with
  | kept clients queued held answered =>
    exact
      { answered := fun entry member mine =>
          live.answered entry ((answered entry mine).mpr member) mine
        connected := fun record present => live.connected record (clients.trans present)
        bounded := fun record present => live.bounded record (clients.trans present) }
  | born new clients queued held answered =>
    exact
      { answered := answered ▸ live.answered
        connected := fun record present => by cases new.symm.trans present
        bounded := fun record present => by cases new.symm.trans present }
  | submitted present clients queued held answered =>
    refine { answered := answered ▸ live.answered, connected := ?_, bounded := ?_ } <;>
      intro record there <;> obtain rfl := Option.some.inj (present.symm.trans there)
    · have connected := live.connected _ clients
      exact connected
    · have bounded := live.bounded _ clients
      rw [List.length_append] at bounded
      exact (Nat.le_add_right _ _).trans bounded
  | taken owner idle front queued held clients answered =>
    exact
      { answered := answered ▸ live.answered
        connected := clients ▸ live.connected
        bounded := clients ▸ live.bounded }
  | sent called owner holding present stepped clients queued held answered =>
    refine { answered := ?_, connected := ?_, bounded := ?_ }
    · intro entry member mine
      exact live.answered entry (answered ▸ List.mem_append_left _ member) mine
    · intro record there
      obtain rfl := Option.some.inj (present.symm.trans there)
      exact stream_earlier stepped (live.connected _ clients).1
    · intro record there
      obtain rfl := Option.some.inj (present.symm.trans there)
      have bounded := live.bounded _ clients
      exact bounded
  | dropped owner holding clients queued held answered =>
    have dropped := live.answered _ (answered ▸ List.mem_append_right _ List.mem_cons_self) owner
    cases dropped
  | closed present clients gone received lines queued held answered =>
    cases gone.symm.trans (live.connected _ clients).1

/-- In a conserved stream the window test asks for responses that are in time. -/
theorem Conserved.discards_iff {record : Client} {worker : ThreadId} {request : Request}
    (conserved : Conserved client state record) (numbered : Numbered client state record)
    (live : Live client state) (present : state.clients client = some record)
    (holding : state.inHand worker = some request) (owner : request.client = client) :
    record.stream.output.discards request.seqNum = false ↔
      ∀ seqNum, Outstanding state client seqNum →
        request.seqNum < seqNum + maxPendingResponses := by
  obtain ⟨connected, alive⟩ := live.connected record present
  obtain ⟨ordered, waits⟩ := conserved.formed.ordered connected alive
  have mine : Outstanding state client request.seqNum := .inr ⟨worker, request, holding, owner, rfl⟩
  have new := conserved.fresh _ mine
  have inside := numbered.below _ mine
  have unsent : ∀ seqNum, record.stream.accepted seqNum = none →
      record.stream.output.responsesSent ≤ seqNum := by
    intro seqNum missing
    by_contra below
    have there := ordered.sent seqNum (Nat.lt_of_not_le below)
    rw [missing] at there
    cases there
  rw [ordered.discards_iff connected conserved.formed.opened new
    (lt_of_lt_of_le inside (live.bounded record present))]
  constructor
  · rintro ⟨-, near⟩ seqNum outstanding
    have reached := unsent seqNum (conserved.fresh seqNum outstanding)
    omega
  · intro intime
    refine ⟨unsent _ new, intime _ ?_⟩
    rcases conserved.complete _ (lt_of_le_of_lt (unsent _ new) inside) with outstanding | there
    · exact outstanding
    · rw [waits] at there
      cases there

/-- An outstanding request waits or is in hand still, after a worker has handed in another. -/
theorem outstanding_sent {worker : ThreadId} {request : Request} {record : Client}
    (numbered : Numbered client state record) (holding : state.inHand worker = some request)
    (owner : request.client = client)
    (queued : next.pool.queued client = state.pool.queued client)
    (held : next.inHand = Function.update state.inHand worker none) (seqNum : Nat) :
    Outstanding next client seqNum ↔ Outstanding state client seqNum ∧ seqNum ≠ request.seqNum := by
  constructor
  · rintro (⟨other, waits, rfl⟩ | ⟨other, same, holds, mine, rfl⟩)
    · rw [queued] at waits
      exact ⟨.inl ⟨other, waits, rfl⟩,
        Nat.ne_of_gt (numbered.behind worker request holding owner other waits)⟩
    · obtain ⟨apart, there⟩ := held_of_update (held ▸ holds)
      refine ⟨.inr ⟨other, same, there, mine, rfl⟩, fun equal => apart ?_⟩
      exact numbered.apart other worker same request there holding mine owner equal
  · rintro ⟨⟨other, waits, rfl⟩ | ⟨other, same, holds, mine, rfl⟩, different⟩
    · exact .inl ⟨other, queued ▸ waits, rfl⟩
    · refine .inr ⟨other, same, ?_, mine, rfl⟩
      have apart : other ≠ worker := by
        rintro rfl
        rw [holding] at holds
        cases holds
        exact different rfl
      rw [held, Function.update_of_ne apart, holds]

/-- A request that a worker takes is as outstanding as before. -/
theorem outstanding_taken {worker : ThreadId} {request : Request} {rest : List Request}
    (owner : request.client = client) (idle : state.inHand worker = none)
    (front : state.pool.queued client = request :: rest)
    (queued : next.pool.queued client = rest)
    (held : next.inHand = Function.update state.inHand worker (some request)) (seqNum : Nat) :
    Outstanding next client seqNum ↔ Outstanding state client seqNum := by
  constructor
  · rintro (⟨other, waits, same⟩ | ⟨other, taken, holds, mine, same⟩)
    · exact .inl ⟨other, front ▸ List.mem_cons_of_mem _ (queued ▸ waits), same⟩
    · rw [held] at holds
      by_cases here : other = worker
      · subst here
        rw [Function.update_self] at holds
        obtain rfl := Option.some.inj holds
        exact .inl ⟨request, front ▸ List.mem_cons_self, same⟩
      · rw [Function.update_of_ne here] at holds
        exact .inr ⟨other, taken, holds, mine, same⟩
  · rintro (⟨other, waits, same⟩ | ⟨other, taken, holds, mine, same⟩)
    · rw [front] at waits
      rcases List.mem_cons.mp waits with rfl | later
      · exact .inr ⟨worker, other, by rw [held, Function.update_self], owner, same⟩
      · exact .inl ⟨other, queued ▸ later, same⟩
    · refine .inr ⟨other, taken, ?_, mine, same⟩
      have apart : other ≠ worker := by
        rintro rfl
        cases idle.symm.trans holds
      rw [held, Function.update_of_ne apart, holds]

/-- Where the client's requests, responses and record stay, its requests are conserved. -/
theorem Conserved.same {record : Client} (conserved : Conserved client state record)
    (outstanding : ∀ seqNum, Outstanding next client seqNum ↔ Outstanding state client seqNum)
    (answered : ∀ entry : Request × Option Bytes, entry.1.client = client →
      entry ∈ next.answered → entry ∈ state.answered) : Conserved client next record where
  formed := conserved.formed
  fresh := fun seqNum there => conserved.fresh seqNum ((outstanding seqNum).mp there)
  complete := fun seqNum inside => by
    rw [outstanding]
    exact conserved.complete seqNum inside
  below := conserved.below
  texts := fun entry member mine => conserved.texts entry (answered entry mine member) mine

/-- An outstanding request of the client is so where its queue and what the workers hold stay. -/
theorem outstanding_congr (queued : next.pool.queued client = state.pool.queued client)
    (held : ∀ worker request, request.client = client →
      (next.inHand worker = some request ↔ state.inHand worker = some request)) (seqNum : Nat) :
    Outstanding next client seqNum ↔ Outstanding state client seqNum := by
  unfold Outstanding
  rw [queued]
  refine or_congr .rfl (exists_congr fun worker => exists_congr fun request => ?_)
  rw [← and_assoc, ← and_assoc]
  exact and_congr_left' ⟨fun ⟨holds, mine⟩ => ⟨(held worker request mine).mp holds, mine⟩,
    fun ⟨holds, mine⟩ => ⟨(held worker request mine).mpr holds, mine⟩⟩

/-- A new client has no requests to lose. -/
theorem conserved_new (formed : state.Formed workerCount) (new : state.clients client = none)
    (answered : next.answered = state.answered) (fifo : Nat) :
    Conserved client next { stream := { output := { fifoS2c := some fifo } } } where
  formed := streamFormed_initial _
  fresh := fun _ _ => rfl
  complete := fun seqNum inside => absurd inside (Nat.not_lt_zero _)
  below := fun seqNum there => by cases there
  texts := by
    rintro entry member rfl
    have known := formed.answered_known entry (answered ▸ member)
    rw [new] at known
    cases known

/-- A line that is accepted is outstanding. -/
theorem Conserved.submit {record : Client} {line : Bytes} (conserved : Conserved client state record)
    (counted : record.requestsReceived = record.submitted.length)
    (queued : next.pool.queued client =
      state.pool.queued client ++ [⟨client, record.requestsReceived, line⟩])
    (held : next.inHand = state.inHand) (answered : next.answered = state.answered) :
    Conserved client next
      { record with
        requestsReceived := (record.requestsReceived + 1) % 2 ^ 64
        submitted := record.submitted ++ [line] } := by
  have outstanding : ∀ seqNum, Outstanding next client seqNum ↔
      Outstanding state client seqNum ∨ seqNum = record.submitted.length := by
    intro seqNum
    unfold Outstanding
    rw [queued, held, counted]
    simp only [List.mem_append, List.mem_singleton, or_and_right, exists_or, exists_eq_left]
    rw [or_right_comm, eq_comm (a := record.submitted.length)]
  have unanswered : record.stream.accepted record.submitted.length = none := by
    by_contra there
    exact lt_irrefl _ (conserved.below _ (Option.isSome_iff_ne_none.mpr there))
  constructor
  case formed => exact conserved.formed
  case fresh =>
    intro seqNum there
    rcases (outstanding seqNum).mp there with old | rfl
    · exact conserved.fresh seqNum old
    · exact unanswered
  case complete =>
    intro seqNum inside
    rw [List.length_append, List.length_singleton, Nat.lt_succ_iff_lt_or_eq] at inside
    rw [outstanding]
    rcases inside with early | rfl
    · rcases conserved.complete seqNum early with there | there
      · exact .inl (.inl there)
      · exact .inr there
    · exact .inl (.inr rfl)
  case below =>
    intro seqNum there
    rw [List.length_append]
    exact Nat.lt_add_right _ (conserved.below seqNum there)
  case texts => exact answered ▸ conserved.texts

/-- A response that is not discarded takes the place of its request. -/
theorem Conserved.send {record : Client} {stream : Stream} {worker : ThreadId} {request : Request}
    {text : Bytes} (conserved : Conserved client state record)
    (numbered : Numbered client state record) (before : Live client state)
    (formed : StreamFormed stream)
    (accepted : stream.accepted =
      Function.update record.stream.accepted request.seqNum (some text))
    (holding : state.inHand worker = some request) (owner : request.client = client)
    (queued : next.pool.queued client = state.pool.queued client)
    (held : next.inHand = Function.update state.inHand worker none)
    (answered : next.answered = state.answered ++ [(request, some text)]) :
    Conserved client next { record with stream } := by
  have mine : Outstanding state client request.seqNum := .inr ⟨worker, request, holding, owner, rfl⟩
  have outstanding := outstanding_sent numbered holding owner queued held
  constructor
  case formed => exact formed
  case fresh =>
    intro seqNum there
    obtain ⟨old, apart⟩ := (outstanding seqNum).mp there
    rw [accepted, Function.update_of_ne apart]
    exact conserved.fresh seqNum old
  case complete =>
    intro seqNum inside
    by_cases here : seqNum = request.seqNum
    · exact .inr (by rw [accepted, here, Function.update_self]; rfl)
    · rw [outstanding, accepted, Function.update_of_ne here]
      rcases conserved.complete seqNum inside with there | there
      · exact .inl ⟨there, here⟩
      · exact .inr there
  case below =>
    intro seqNum there
    by_cases here : seqNum = request.seqNum
    · exact here ▸ numbered.below _ mine
    · rw [accepted, Function.update_of_ne here] at there
      exact conserved.below seqNum there
  case texts =>
    intro entry member yours
    rw [accepted]
    rcases List.mem_append.mp (answered ▸ member) with early | late
    · have apart : entry.1.seqNum ≠ request.seqNum := by
        intro same
        have there := conserved.texts entry early yours
        rw [same, conserved.fresh _ mine] at there
        have some := before.answered entry early yours
        rw [← there] at some
        cases some
      rw [Function.update_of_ne apart]
      exact conserved.texts entry early yours
    · rw [List.mem_singleton.mp late, Function.update_self]

/-- Steps that discard no response of a live client keep its requests conserved. -/
theorem ClientChange.conserved (formed : state.Formed workerCount)
    (change : ClientChange deadly client state next label) (live : Live client next)
    (numbered : ∀ record, state.clients client = some record → Numbered client state record)
    (conserved : ∀ record, state.clients client = some record → Conserved client state record)
    (kept : ¬ Discards client state label) (record : Client)
    (present : next.clients client = some record) : Conserved client next record := by
  have before := live.earlier change
  cases change with
  | kept clients queued held answered =>
    exact (conserved record (clients ▸ present)).same (outstanding_congr queued held)
      fun entry mine => (answered entry mine).mp
  | born new clients queued held answered =>
    obtain rfl := Option.some.inj (clients.symm.trans present)
    exact conserved_new formed new answered _
  | submitted old clients queued held answered =>
    rename_i earlier line
    obtain rfl := Option.some.inj (clients.symm.trans present)
    refine (conserved earlier old).submit ?_ queued held answered
    have bounded := before.bounded earlier old
    rw [(numbered earlier old).counted, Nat.mod_eq_of_lt]
    simp only [seqLimit, maxPendingResponses] at bounded
    omega
  | taken owner idle front queued held clients answered =>
    exact (conserved record (clients ▸ present)).same
      (outstanding_taken owner idle front queued held) fun entry _ => answered ▸ id
  | sent called owner holding old stepped clients queued held answered =>
    rename_i worker copied results request text earlier stream
    obtain rfl := Option.some.inj (clients.symm.trans present)
    have keeps := conserved earlier old
    have numbers := numbered earlier old
    have mine : Outstanding state client request.seqNum :=
      .inr ⟨worker, request, holding, owner, rfl⟩
    have new := keeps.fresh _ mine
    have small : request.seqNum < seqLimit :=
      lt_of_lt_of_le (numbers.below _ mine) (before.bounded earlier old)
    obtain ⟨connected, alive⟩ := before.connected earlier old
    have accepts : earlier.stream.output.discards request.seqNum = false := by
      by_contra discarded
      exact kept ⟨worker, copied, results, request, earlier, called, holding, owner, old,
        by simpa using discarded⟩
    have inside := ((keeps.formed.ordered connected alive).1.discards_iff connected
      keeps.formed.opened new small).mp accepts
    exact keeps.send numbers before (keeps.formed.step new small stepped)
      (accepted_call stepped connected inside) holding owner queued held answered
  | dropped owner holding clients queued held answered =>
    have dropped := live.answered _ (answered ▸ List.mem_append_right _ List.mem_cons_self) owner
    cases dropped
  | closed old clients gone received lines queued held answered =>
    cases gone.symm.trans (live.connected _ clients).1

/-! ## Whole runs -/

/-- What holds of a live client as long as none of its responses was discarded. -/
structure Conserving (workerCount : Nat) (client : ClientId) (state : WorkersState) : Prop where
  /-- The workers hold the requests they handle. -/
  formed : state.Formed workerCount
  /-- The client's requests are numbered. -/
  numbered : ∀ record, state.clients client = some record →
    record.submitted.length ≤ 2 ^ 64 → Numbered client state record
  /-- None of them is lost. -/
  conserved : Live client state → ∀ record, state.clients client = some record →
    Conserved client state record

/-- The numbering of a live client's requests. -/
theorem Conserving.numbered_of_live (conserving : Conserving workerCount client state)
    (live : Live client state) (record : Client) (present : state.clients client = some record) :
    Numbered client state record := by
  have bounded := live.bounded record present
  simp only [seqLimit, maxPendingResponses] at bounded
  exact conserving.numbered record present (by omega)

/-- A step under an invariant discards no response exactly if the response is in time. -/
theorem Conserving.not_discards_iff (conserving : Conserving workerCount client state)
    (live : Live client state) : ¬ Discards client state label ↔ InTime client state label := by
  constructor
  · rintro kept worker copied results request called holding owner
    obtain ⟨record, present⟩ := Option.isSome_iff_exists.mp
      (owner ▸ conserving.formed.held_known worker request holding)
    have numbers := conserving.numbered_of_live live record present
    refine ((conserving.conserved live record present).discards_iff numbers live present holding
      owner).mp ?_
    by_contra discarded
    exact kept ⟨worker, copied, results, request, record, called, holding, owner, present,
      by simpa using discarded⟩
  · rintro intime ⟨worker, copied, results, request, record, called, holding, owner, present, lost⟩
    have numbers := conserving.numbered_of_live live record present
    have accepts := ((conserving.conserved live record present).discards_iff numbers live present
      holding owner).mpr (intime worker copied results request called holding owner)
    cases lost.symm.trans accepts

/-- The responses of a client that stays connected, is always answered and written to without an
error are all kept exactly if each of them is handed in while no request a window older or more is
outstanding; and then, once all have been handed in, all have been written in order. -/
theorem responses_kept_iff {labels : List WorkersLabel} {last : WorkersState} {record : Client}
    (ran : (workersMachine auth deadly workerCount).run {} labels = some last)
    (present : last.clients client = some record) (live : Live client last) :
    ((workersMachine auth deadly workerCount).EveryStep
        (fun state label => ¬ Discards client state label) {} labels ↔
      (workersMachine auth deadly workerCount).EveryStep (InTime client) {} labels) ∧
    ((workersMachine auth deadly workerCount).EveryStep (InTime client) {} labels →
      (∀ seqNum, ¬ Outstanding last client seqNum) →
      record.stream.output.responsesSent = record.requestsReceived ∧
      record.requestsReceived = record.submitted.length ∧
      record.stream.fifo = concatenated record.stream.accepted record.submitted.length ∧
      ∀ entry ∈ last.answered, entry.1.client = client →
        record.stream.accepted entry.1.seqNum = entry.2) := by
  have earlier : ∀ state label next,
      (workersMachine auth deadly workerCount).step state label = some next →
      (next.Formed workerCount → Live client next) →
      (state.Formed workerCount → Live client state) := by
    intro state label next step live formed
    obtain ⟨-, taken⟩ := workersMachine_step step
    exact (live (taken.formed formed)).earlier (taken.client_change formed client)
  have agree : ∀ state label next, Conserving workerCount client state →
      (next.Formed workerCount → Live client next) →
      (workersMachine auth deadly workerCount).step state label = some next →
      (¬ Discards client state label ↔ InTime client state label) :=
    fun state label next conserving live step =>
      conserving.not_discards_iff (earlier state label next step live conserving.formed)
  have kept : ∀ state label next, Conserving workerCount client state →
      (next.Formed workerCount → Live client next) → ¬ Discards client state label →
      (workersMachine auth deadly workerCount).step state label = some next →
      Conserving workerCount client next := by
    intro state label next conserving live keeps step
    have before := earlier state label next step live conserving.formed
    obtain ⟨-, taken⟩ := workersMachine_step step
    have formed := taken.formed conserving.formed
    have change := taken.client_change conserving.formed client
    exact
      { formed
        numbered := change.numbered conserving.formed conserving.numbered
        conserved := fun _ => change.conserved conserving.formed (live formed)
          (conserving.numbered_of_live before) (conserving.conserved before) keeps }
  have initially : Conserving workerCount client {} :=
    { formed := workers_formed_initial
      numbered := fun record there => by cases there
      conserved := fun _ record there => by cases there }
  obtain ⟨same, finally_conserved⟩ :=
    Machine.everyStep_iff earlier agree kept ran (fun _ => live) initially
  refine ⟨same, fun intime empty => ?_⟩
  have conserving := finally_conserved (same.mpr intime)
  have numbers := conserving.numbered_of_live live record present
  have conserved := conserving.conserved live record present
  obtain ⟨connected, alive⟩ := live.connected record present
  obtain ⟨ordered, waits⟩ := conserved.formed.ordered connected alive
  have all : record.stream.output.responsesSent = record.submitted.length := by
    apply Nat.le_antisymm
    · by_contra beyond
      have there := ordered.sent record.submitted.length (Nat.lt_of_not_le beyond)
      exact lt_irrefl _ (conserved.below _ there)
    · by_contra before
      rcases conserved.complete _ (Nat.lt_of_not_le before) with outstanding | there
      · exact empty _ outstanding
      · rw [waits] at there
        cases there
  have received : record.requestsReceived = record.submitted.length := by
    have bounded := live.bounded record present
    simp only [seqLimit, maxPendingResponses] at bounded
    rw [numbers.counted, Nat.mod_eq_of_lt (by omega)]
  exact ⟨all.trans received.symm, received, all ▸ ordered.fifo_eq, conserved.texts⟩

/-- The second of two requests is answered first. -/
def overtakingRun : List WorkersLabel :=
  [.register 0 4 true, .submit 0 (bytes "x") true, .submit 0 (bytes "y") true, .dequeue 0,
    .dequeue 1, .advance 1 {}, .respond 1 true [], .advance 0 {},
    .respond 0 true [.wrote 3, .wrote 3]]

/-- Both responses are in time. -/
theorem responses_kept_iff_overtaking : ∃ last record,
    (workersMachine [] true 2).run {} overtakingRun = some last ∧ last.clients 0 = some record ∧
    ((workersMachine [] true 2).EveryStep
        (fun state label => ¬ Discards 0 state label) {} overtakingRun ↔
      (workersMachine [] true 2).EveryStep (InTime 0) {} overtakingRun) := by
  have ran : (workersMachine [] true 2).run {} overtakingRun = some _ := rfl
  refine ⟨_, _, ran, rfl, (responses_kept_iff ran rfl ⟨by decide, ?_, ?_⟩).1⟩
  · rintro record ⟨⟩
    exact ⟨rfl, rfl⟩
  · rintro record ⟨⟩
    decide

/-! ## A response that does not arrive in time -/

/-- A line that is answered at once. -/
def shortLine : Bytes := bytes "x"

/-- Its response before a login. -/
def shortReply : Bytes := responseCode rpcValue

/-- The request with that line. -/
def shortRequest (seqNum : Nat) : Request := ⟨0, seqNum, shortLine⟩

/-- A pool with one client whose requests are numbered from a number on. -/
def queueOf (first count : Nat) : Pool where
  clients :=
    [{ client := 0, requests := (List.range' first count).map shortRequest, queuedCount := count }]
  nextClient := some 0
  pendingRequests := count

/-- One more request. -/
theorem queueOf_submit (first count : Nat) :
    threadpoolSubmit (queueOf first count) 0 false (first + count) shortLine true =
      .ok (queueOf first (count + 1)) := by
  simp [threadpoolSubmit, queueOf, findClientQueue, Pool.updateQueue, ClientQueue.push,
    List.range'_concat, shortRequest]

/-- The first request is taken. -/
theorem queueOf_dequeue (first count : Nat) :
    dequeueFairRequest (queueOf first (count + 1)) =
      some (shortRequest first, queueOf (first + 1) count) := by
  simp [dequeueFairRequest, queueOf, Pool.rotation, Pool.updateQueue, ClientQueue.pop,
    List.range'_succ, Pool.behind]

/-- The client has sent its requests. -/
def filled (count : Nat) : WorkersState where
  pool := queueOf 0 count
  clients := Function.update (fun _ => none) 0 (some
    { stream := { output := { fifoS2c := some 4 } }
      requestsReceived := count
      submitted := List.replicate count shortLine })

/-- It sends one more. -/
theorem filled_submit {count : Nat} (small : count + 1 < 2 ^ 64) :
    (workersMachine [] true 2).step (filled count) (.submit 0 shortLine true) =
      some (filled (count + 1)) := by
  have counted : (count + 1) % 18446744073709551616 = count + 1 := Nat.mod_eq_of_lt small
  have submitted := queueOf_submit 0 count
  simp only [Nat.zero_add] at submitted
  simp [workersMachine, filled, submitted, WorkersState.setClient, Function.update_idem, counted,
    List.replicate_succ']

/-- It sends them all. -/
theorem filled_run {count : Nat} (small : count < 2 ^ 64) :
    (workersMachine [] true 2).run {}
      (.register 0 4 true :: List.replicate count (.submit 0 shortLine true)) =
        some (filled count) := by
  induction count with
  | zero => rfl
  | succ count ih =>
    rw [List.replicate_succ', ← List.cons_append]
    exact Machine.run_concat (ih (by omega)) (filled_submit small)

/-- The first worker is still at the first request; some later ones were answered. -/
def ahead (first count lines : Nat) (stream : Stream) (answered : List (Request × Option Bytes)) :
    WorkersState where
  rpc := { threads := Function.update (fun _ => none) 0 (some ⟨0, .start shortLine⟩) }
  pool := queueOf first count
  clients := Function.update (fun _ => none) 0 (some
    { stream, requestsReceived := lines, submitted := List.replicate lines shortLine })
  inHand := Function.update (fun _ => none) 0 (some (shortRequest 0))
  answered

/-- The first worker takes the first request. -/
theorem filled_dequeue (count : Nat) :
    (workersMachine [] true 2).step (filled (count + 1)) (.dequeue 0) =
      some (ahead 1 count (count + 1) { output := { fifoS2c := some 4 } } []) := by
  have dequeued := queueOf_dequeue 0 count
  simp only [Nat.zero_add] at dequeued
  simp [workersMachine, filled, dequeued, WorkersState.take, ahead, RpcState.setThread,
    shortRequest]

section Overrun

variable {first : Nat} (count lines : Nat) {stream : Stream}
  {answered : List (Request × Option Bytes)}

/-- The second worker has handled the request after those. -/
def overtaken (first : Nat) (stream : Stream) (answered : List (Request × Option Bytes)) :
    WorkersState :=
  let state := ahead (first + 1) count lines stream answered
  { state with
    rpc := state.rpc.setThread 1 (some ⟨0, .finished (some shortReply)⟩)
    inHand := Function.update state.inHand 1 (some (shortRequest first)) }

/-- The second worker takes and handles the next request. -/
theorem ahead_handled :
    (workersMachine [] true 2).run (ahead first (count + 1) lines stream answered)
      [.dequeue 1, .advance 1 {}] = some (overtaken count lines first stream answered) := by
  have started : ∀ world, startRequest [] {} {} world shortLine =
    ({}, world, .finished (some shortReply)) := fun _ => rfl
  simp [Machine.run, workersMachine, ahead, overtaken, queueOf_dequeue, WorkersState.take,
    RpcState.setThread, rpcMachine, RpcState.advanceThread, advance, started, shortRequest,
    Pc.isFinished]

/-- The second worker answers it. -/
theorem overtaken_respond {after : Stream}
    (stepped : (streamMachine true).step stream ⟨first, shortReply, []⟩ = some after)
    (alive : after.killed = false) :
    (workersMachine [] true 2).step (overtaken count lines first stream answered)
      (.respond 1 true []) =
        some (ahead (first + 1) count lines after
          (answered ++ [(shortRequest first, some shortReply)])) := by
  have response : workerResponse (some shortReply) true = some shortReply := rfl
  simp [workersMachine, overtaken, ahead, response, WorkersState.send, WorkersState.finish,
    WorkersState.setClient, RpcState.setThread, shortRequest, stepped, alive]

/-- The first response is missing, and the slots from a number on are free. -/
structure Lacking (first : Nat) (stream : Stream) : Prop where
  /-- No write has ended the process. -/
  alive : stream.killed = false
  /-- The client is connected. -/
  connected : stream.output.disconnected = false
  /-- Its FIFO is open. -/
  opened : stream.output.fifoS2c = some 4
  /-- Nothing was sent. -/
  unsent : stream.output.responsesSent = 0
  /-- The first response has not arrived. -/
  missing : stream.output.pending (slot 0) = none
  /-- No response from that number on has arrived. -/
  free : ∀ seqNum, first ≤ seqNum → seqNum < maxPendingResponses →
    stream.output.pending (slot seqNum) = none

/-- In the first window a response is kept and not written. -/
theorem Lacking.store (lacking : Lacking first stream) (later : 0 < first)
    (inside : first < maxPendingResponses) (text : Bytes) :
    ∃ after, (streamMachine true).step stream ⟨first, text, []⟩ = some after ∧
      Lacking (first + 1) after := by
  have apart : ∀ seqNum, seqNum ≠ first → seqNum < maxPendingResponses →
      (slot seqNum : Fin maxPendingResponses) ≠ slot first := by
    intro seqNum different below same
    exact different (slot_inj (Nat.zero_le _) (by simpa using below) (Nat.zero_le _)
      (by simpa using inside) same)
  have kept : stream.output.discards first = false := by
    have free := lacking.free first le_rfl inside
    have window : (0 + maxPendingResponses) % 2 ^ 64 = maxPendingResponses := by decide
    simp only [Output.discards, lacking.connected, lacking.opened, lacking.unsent, free, window]
    simpa using inside
  have empty : (stream.output.store first text).front = none := by
    simp [Output.front, Output.store, lacking.unsent, lacking.missing,
      Function.update_of_ne (apart 0 (Nat.ne_of_lt later) (by decide))]
  have called : sendOrderedResponse true stream.output first text [] =
      some ⟨stream.output.store first text, [], false⟩ := by
    simp [sendOrderedResponse, kept, drain, empty]
  refine ⟨_, by simp only [streamMachine, lacking.alive, called]; rfl, ?_⟩
  constructor
  · rfl
  · exact lacking.connected
  · exact lacking.opened
  · exact lacking.unsent
  · simp [Output.store, Function.update_of_ne (apart 0 (Nat.ne_of_lt later) (by decide)),
      lacking.missing]
  · intro seqNum above below
    simp [Output.store, Function.update_of_ne (apart seqNum (Nat.ne_of_gt above) below),
      lacking.free seqNum (Nat.le_of_succ_le above) below]

/-- The first response of the next window is discarded. -/
theorem Lacking.discard (lacking : Lacking maxPendingResponses stream) (text : Bytes) :
    stream.output.discards maxPendingResponses = true ∧
      ∃ after, (streamMachine true).step stream ⟨maxPendingResponses, text, []⟩ = some after ∧
        Lacking maxPendingResponses after := by
  have discarded : stream.output.discards maxPendingResponses = true := by
    have window : (0 + maxPendingResponses) % 2 ^ 64 = maxPendingResponses := by decide
    simp only [Output.discards, lacking.unsent, window, le_refl, decide_true, Bool.or_true,
      Bool.true_or]
  refine ⟨discarded, { stream with fifo := stream.fifo ++ [] }, ?_, { lacking with }⟩
  have outside : ¬ stream.output.inWindow maxPendingResponses := by
    simp [Output.inWindow, lacking.unsent]
  simp [streamMachine, lacking.alive, sendOrderedResponse, discarded, outside]

/-- The second worker takes, handles and answers a request. -/
def overtakes : List WorkersLabel := [.dequeue 1, .advance 1 {}, .respond 1 true []]

/-- One response more is waiting for the first. -/
theorem ahead_round (lacking : Lacking first stream) (later : 0 < first)
    (inside : first < maxPendingResponses)
    (responded : ∀ entry ∈ answered, entry.2.isSome = true) :
    ∃ after entries, Lacking (first + 1) after ∧ (∀ entry ∈ entries, entry.2.isSome = true) ∧
      (workersMachine [] true 2).run (ahead first (count + 1) lines stream answered) overtakes =
        some (ahead (first + 1) count lines after entries) := by
  obtain ⟨after, stepped, kept⟩ := lacking.store later inside shortReply
  refine ⟨after, answered ++ [(shortRequest first, some shortReply)], kept, ?_, ?_⟩
  · intro entry member
    rcases List.mem_append.mp member with old | fresh
    · exact responded entry old
    · rw [List.mem_singleton.mp fresh]
      rfl
  · exact Machine.run_concat (ahead_handled count lines)
      (overtaken_respond count lines stepped kept.alive)

/-- All responses of a window but the first can be waiting for the first. -/
theorem ahead_rounds {rounds : Nat} (few : rounds < maxPendingResponses) :
    ∃ after entries, Lacking (rounds + 1) after ∧ (∀ entry ∈ entries, entry.2.isSome = true) ∧
      (workersMachine [] true 2).run
        (ahead 1 (rounds + count) lines { output := { fifoS2c := some 4 } } [])
        (List.replicate rounds overtakes).flatten =
          some (ahead (rounds + 1) count lines after entries) := by
  induction rounds generalizing count with
  | zero =>
    refine ⟨{ output := { fifoS2c := some 4 } }, [], ?_, by simp, by simp⟩
    constructor <;> simp
  | succ rounds ih =>
    obtain ⟨stream, answered, lacking, responded, ran⟩ := ih (count + 1) (by omega)
    obtain ⟨after, entries, kept, all, round⟩ :=
      ahead_round count lines lacking (Nat.succ_pos _) few responded
    refine ⟨after, entries, kept, all, ?_⟩
    rw [List.replicate_succ', List.flatten_concat, Nat.add_right_comm, Nat.add_assoc]
    exact Machine.run_append_some.mpr ⟨_, ran, round⟩

end Overrun

/-- A client sends 1025 requests; while the first is being handled, the others are, and all but the
last are answered. -/
def overrun : List WorkersLabel :=
  (.register 0 4 true :: List.replicate 1025 (.submit 0 shortLine true)) ++ [.dequeue 0] ++
    (List.replicate 1023 overtakes).flatten ++ [.dequeue 1, .advance 1 {}]

/-- The response to the last request is discarded. -/
theorem overrun_discards : ∃ reached last,
    (workersMachine [] true 2).run {} overrun = some reached ∧
    (workersMachine [] true 2).step reached (.respond 1 true []) = some last ∧
    Discards 0 reached (.respond 1 true []) ∧ Live 0 last ∧ (last.clients 0).isSome = true := by
  have few : 1023 < maxPendingResponses := by decide
  have small : 1025 < 2 ^ 64 := by decide
  obtain ⟨stream, answered, lacking, responded, ran⟩ := ahead_rounds 1 1025 few
  obtain ⟨discarded, after, stepped, kept⟩ := lacking.discard shortReply
  have setup := Machine.run_concat (filled_run small) (filled_dequeue 1024)
  have most := Machine.run_append_some.mpr ⟨_, setup, ran⟩
  refine ⟨_, _, Machine.run_append_some.mpr ⟨_, most, ahead_handled 0 1025⟩,
    overtaken_respond 0 1025 stepped kept.alive, ?_, ⟨?_, ?_, ?_⟩, rfl⟩
  · exact ⟨1, true, [], _, _, rfl, rfl, rfl, rfl, discarded⟩
  · intro entry member _
    rcases List.mem_append.mp member with old | fresh
    · exact responded entry old
    · rw [List.mem_singleton.mp fresh]
      rfl
  · rintro record ⟨⟩
    exact ⟨kept.connected, kept.alive⟩
  · rintro record ⟨⟩
    have lines : (List.replicate 1025 shortLine).length = 1025 := List.length_replicate
    exact lines.le.trans (by decide)

/-- It is not so that no response of a live client is ever discarded. -/
theorem responses_kept_false : ¬ ∀ (auth : AuthDb) (deadly : Bool) (workerCount : Nat)
    (labels : List WorkersLabel) (last : WorkersState) (client : ClientId) (record : Client),
    1 ≤ workerCount → (workersMachine auth deadly workerCount).run {} labels = some last →
    last.clients client = some record → Live client last →
    (workersMachine auth deadly workerCount).EveryStep
        (fun state label => ¬ Discards client state label) {} labels ∧
      ((∀ seqNum, ¬ Outstanding last client seqNum) →
        record.stream.output.responsesSent = record.requestsReceived) := by
  intro claim
  obtain ⟨reached, last, ran, step, discards, live, known⟩ := overrun_discards
  obtain ⟨record, present⟩ := Option.isSome_iff_exists.mp known
  have kept := (claim [] true 2 (overrun ++ [.respond 1 true []]) last 0 record (by decide)
    (Machine.run_concat ran step) present live).1
  exact kept.at ran step discards

end AnimateService
