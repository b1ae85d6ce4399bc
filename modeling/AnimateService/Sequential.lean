import AnimateService.RequestFlow

/-!
# Requests one after another

What a client would see if its requests were handled strictly one after another, and when that is
what it sees. The queue is in order and the stream is in order, but nothing keeps a second worker
from starting a client's next request while the first worker is at the one before. So requests are
handled in order for certain only where there is one worker, or no client with two requests.
-/
namespace AnimateService

open Transition

/-- The requests with these lines one after another: the responses of `rpc_handle_request`, and the
session and the world after the last. -/
def handleAll (auth : AuthDb) : Session → World → List (Bytes × List Answers) →
    Option (List (Option Bytes) × Session × World)
  | session, world, [] => some ([], session, world)
  | session, world, (line, answers) :: jobs =>
    (rpcHandleRequest auth session world line answers).bind fun (response, session, world) =>
      (handleAll auth session world jobs).map fun (responses, rest) => (response :: responses, rest)

/-- The request waits in the pool or its handler has not returned. -/
def Unfinished (state : WorkersState) (request : Request) : Prop :=
  request ∈ state.pool.queued request.client ∨
    ∃ worker pc, state.inHand worker = some request ∧
      state.rpc.threads worker = some ⟨request.client, pc⟩ ∧ pc.isFinished = false

/-- The handler of the request has taken its first step. -/
def Started (state : WorkersState) (request : Request) : Prop :=
  ∃ worker pc, state.inHand worker = some request ∧
    state.rpc.threads worker = some ⟨request.client, pc⟩ ∧ pc ≠ .start request.rpcLine

/-- No request is being handled while an earlier one of its client is not finished. -/
def HandledInOrder (state : WorkersState) : Prop :=
  ∀ first second, Started state second → first.client = second.client →
    first.seqNum < second.seqNum → ¬ Unfinished state first

/-- The client's requests, the session and the world are what they would be if its lines had been
handled one after another; a missing response was replaced by the worker. -/
def MatchesSequential (auth : AuthDb) (client : ClientId) (record : Client) (state : WorkersState) :
    Prop :=
  ∃ jobs responses,
    handleAll auth {} {} jobs = some (responses, state.rpc.sessions client, state.rpc.world) ∧
    jobs.map Prod.fst = record.submitted ∧
    state.answered.map (fun entry => entry.1.rpcLine) = record.submitted ∧
    List.Forall₂ (fun response entry => ∃ copied, workerResponse response copied = entry.2)
      responses state.answered

/-- The step can be taken while only this client is there and is not closed. -/
def WorkersLabel.Only (client : ClientId) : WorkersLabel → Prop
  | .register other _ _ => other = client
  | .beginClose _ | .markClosed _ | .remove _ => False
  | _ => True

/-- Every client's requests are handled in order, and a client that is alone gets the responses and
leaves the session and the world of its requests one after another. -/
def Sequential (auth : AuthDb) (deadly : Bool) (workerCount : Nat) (labels : List WorkersLabel)
    (last : WorkersState) : Prop :=
  (workersMachine auth deadly workerCount).Always HandledInOrder {} labels ∧
    ∀ client record, last.clients client = some record →
      (∀ label ∈ labels, label.Only client) → (∀ worker, last.inHand worker = none) →
      last.pool.queued client = [] → MatchesSequential auth client record last

variable {auth : AuthDb} {deadly : Bool} {workerCount : Nat} {state next : WorkersState}
  {label : WorkersLabel} {client : ClientId}

/-! ## One handler at a time -/

/-- Serving takes one more step. -/
theorem serve_concat (auth : AuthDb) (session : Session) (world : World) (pc : Pc)
    (front : List Answers) (answers : Answers) :
    serve auth session world pc (front ++ [answers]) =
      advance auth answers (serve auth session world pc front).1
        (serve auth session world pc front).2.1 (serve auth session world pc front).2.2 := by
  induction front generalizing session world pc with
  | nil => rfl
  | cons first front ih => exact ih _ _ _

/-- A thread's step serves its request on. -/
theorem serve_advanceThread {rpc : RpcState} {session : Session} {world : World} {line : Bytes}
    {front : List Answers} {pc : Pc} (thread : ThreadId) (answers : Answers)
    (served : serve auth session world (.start line) front = (rpc.sessions client, rpc.world, pc)) :
    serve auth session world (.start line) (front ++ [answers]) =
        ((rpc.advanceThread auth thread client pc answers).sessions client,
          (rpc.advanceThread auth thread client pc answers).world,
          (advance auth answers (rpc.sessions client) rpc.world pc).2.2) ∧
      (rpc.advanceThread auth thread client pc answers).threads thread =
        some ⟨client, (advance auth answers (rpc.sessions client) rpc.world pc).2.2⟩ := by
  rw [serve_concat, served]
  simp [RpcState.advanceThread]

/-- One more request. -/
theorem handleAll_concat {session after : Session} {world closed : World}
    {jobs : List (Bytes × List Answers)} {responses : List (Option Bytes)} {line : Bytes}
    {answers : List Answers} {response : Option Bytes} {final : Session × World}
    (front : handleAll auth session world jobs = some (responses, after, closed))
    (handled : rpcHandleRequest auth after closed line answers = some (response, final)) :
    handleAll auth session world (jobs ++ [(line, answers)]) =
      some (responses ++ [response], final) := by
  induction jobs generalizing session world responses with
  | nil =>
    cases front
    simp [handleAll, handled]
  | cons job jobs ih =>
    obtain ⟨first, given⟩ := job
    simp only [handleAll, Option.bind_eq_some_iff, Option.map_eq_some_iff] at front
    obtain ⟨⟨one, middle, between⟩, here, ⟨rest, later⟩, tail, same⟩ := front
    cases same
    simp only [List.cons_append, handleAll, here, Option.bind_some, ih tail, Option.map_some]

/-- No two workers hold requests. -/
def OneAtATime (state : WorkersState) : Prop :=
  ∀ worker other request same, state.inHand worker = some request →
    state.inHand other = some same → worker = other

/-- When the only request is given up, no worker holds one. -/
theorem OneAtATime.finish (once : OneAtATime state) {worker : ThreadId} {request : Request}
    (held : state.inHand worker = some request) (other : ThreadId) :
    Function.update state.inHand worker none other = none := by
  by_cases here : other = worker
  · simp [here]
  · refine (Function.update_of_ne here ..).trans ?_
    by_contra holds
    obtain ⟨current, holding⟩ := Option.ne_none_iff_exists'.mp holds
    exact here (once _ _ _ _ holding held)

/-- The lines that were accepted from a client. -/
def WorkersState.submitted (state : WorkersState) (client : ClientId) : List Bytes :=
  ((state.clients client).map Client.submitted).getD []

/-- The requests of a client that is alone are handled one at a time: those that were answered left
this session and world, and one may have been begun since. -/
inductive Handling (auth : AuthDb) (client : ClientId) (state : WorkersState) (session : Session)
    (world : World) : Prop where
  /-- All workers are idle. -/
  | between (idle : ∀ worker, state.inHand worker = none)
      (session_eq : state.rpc.sessions client = session) (world_eq : state.rpc.world = world)
      (lines : state.submitted client = state.answered.map (fun entry => entry.1.rpcLine) ++
        (state.pool.queued client).map Request.rpcLine)
  /-- A worker is at a request. -/
  | during {worker : ThreadId} {request : Request} {answers : List Answers} {pc : Pc}
      (holding : state.inHand worker = some request)
      (working : state.rpc.threads worker = some ⟨client, pc⟩)
      (served : serve auth session world (.start request.rpcLine) answers =
        (state.rpc.sessions client, state.rpc.world, pc))
      (lines : state.submitted client = state.answered.map (fun entry => entry.1.rpcLine) ++
        request.rpcLine :: (state.pool.queued client).map Request.rpcLine)

/-- What holds while a client is alone and its requests are handled one at a time. -/
structure Alone (auth : AuthDb) (workerCount : Nat) (client : ClientId) (state : WorkersState) :
    Prop where
  /-- The workers hold the requests they handle. -/
  formed : state.Formed workerCount
  /-- There is no other client. -/
  others : ∀ other, other ≠ client → state.clients other = none
  /-- The main loop closes nothing. -/
  quiet : ∀ thread, workerCount ≤ thread → state.rpc.threads thread = none
  /-- The answered requests were handled one after another, and one may have been begun since. -/
  progress : ∃ jobs responses session world,
    handleAll auth {} {} jobs = some (responses, session, world) ∧
    jobs.map Prod.fst = state.answered.map (fun entry => entry.1.rpcLine) ∧
    List.Forall₂ (fun response entry => ∃ copied, workerResponse response copied = entry.2)
      responses state.answered ∧
    Handling auth client state session world

/-- An idle server with one client to come. -/
theorem alone_initial : Alone auth workerCount client {} where
  formed := workers_formed_initial
  others := fun _ _ => rfl
  quiet := fun _ _ => rfl
  progress := ⟨[], [], {}, {}, rfl, rfl, .nil, .between (fun _ => rfl) rfl rfl rfl⟩

/-- A request in hand is the client's. -/
theorem Alone.owner (alone : Alone auth workerCount client state) {worker : ThreadId}
    {request : Request} (holding : state.inHand worker = some request) :
    request.client = client := by
  by_contra other
  have known := alone.formed.held_known worker request holding
  rw [alone.others _ other] at known
  cases known

/-- A change that neither the handlers nor the queue take part in keeps the progress. -/
theorem Handling.congr {session : Session} {world : World}
    (handling : Handling auth client state session world) (rpc : next.rpc = state.rpc)
    (inHand : next.inHand = state.inHand) (answered : next.answered = state.answered)
    (submitted : next.submitted client = state.submitted client)
    (queued : next.pool.queued client = state.pool.queued client) :
    Handling auth client next session world := by
  cases handling with
  | between idle session_eq world_eq lines =>
    exact .between (inHand ▸ idle) (rpc ▸ session_eq) (rpc ▸ world_eq)
      (by rw [submitted, answered, queued, lines])
  | during holding working served lines =>
    exact .during (inHand ▸ holding) (rpc ▸ working) (rpc ▸ served)
      (by rw [submitted, answered, queued, lines])

/-- A worker that has handed in or dropped its response has handled one more request. -/
theorem Alone.finish (alone : Alone auth workerCount client state) (once : OneAtATime state)
    {worker : ThreadId} {request : Request} {served : ClientId} {response : Option Bytes}
    (copied : Bool) (holding : state.inHand worker = some request)
    (working : state.rpc.threads worker = some ⟨served, .finished response⟩) :
    ∃ jobs responses session world,
      handleAll auth {} {} jobs = some (responses, session, world) ∧
      jobs.map Prod.fst =
        (state.answered ++ [(request, workerResponse response copied)]).map
          (fun entry => entry.1.rpcLine) ∧
      List.Forall₂ (fun response entry => ∃ copied, workerResponse response copied = entry.2)
        responses (state.answered ++ [(request, workerResponse response copied)]) ∧
      session = state.rpc.sessions client ∧ world = state.rpc.world ∧
      state.submitted client =
        (state.answered ++ [(request, workerResponse response copied)]).map
          (fun entry => entry.1.rpcLine) ++ (state.pool.queued client).map Request.rpcLine := by
  obtain ⟨jobs, responses, session, world, handled, lines, answers, handling⟩ := alone.progress
  cases handling with
  | between idle => cases (idle worker).symm.trans holding
  | during holds at_work serves accepted =>
    rename_i other current given pc
    obtain rfl := once _ _ _ _ holds holding
    obtain rfl := Option.some.inj (holds.symm.trans holding)
    obtain ⟨rfl, rfl⟩ := Thread.mk.inj (Option.some.inj (at_work.symm.trans working))
    have last : rpcHandleRequest auth session world current.rpcLine given =
        some (response, state.rpc.sessions client, state.rpc.world) := by
      simp only [rpcHandleRequest, serves]
    refine ⟨jobs ++ [(current.rpcLine, given)], responses ++ [response], _, _,
      handleAll_concat handled last, ?_, ?_, rfl, rfl, ?_⟩
    · simp [lines]
    · exact List.rel_append answers (.cons ⟨copied, rfl⟩ .nil)
    · simp [accepted]

/-- A step beside a client that is alone closes nothing. -/
theorem label_open (only : label.Only client) : label.closes = false := by
  cases label <;> first | rfl | cases only

/-- A client that is alone stays alone. -/
theorem WorkersStep.others (step : WorkersStep auth deadly workerCount state label next)
    (others : ∀ other, other ≠ client → state.clients other = none) (only : label.Only client)
    (other : ClientId) (apart : other ≠ client) : next.clients other = none := by
  have written : ∀ (before : WorkersState) changed record,
      before.clients = state.clients → (state.clients changed).isSome = true →
      (before.setClient changed record).clients other = none := by
    intro before changed record same known
    have different : other ≠ changed := by
      rintro rfl
      rw [others other apart] at known
      cases known
    rw [clients_setClient_ne different, same]
    exact others other apart
  cases step with
  | register new registered =>
    obtain rfl := (only : _ = client)
    exact (clients_setClient_ne apart).trans (others other apart)
  | submit present submitted => exact written _ _ _ rfl (by rw [present]; rfl)
  | refuse present refused => exact others other apart
  | dequeue idle known dequeued => exact others other apart
  | advance stepped => exact others other apart
  | respond held working answer present called =>
    obtain ⟨stream, -, rfl⟩ := send_some called
    exact written state _ _ rfl (by rw [present]; rfl)
  | silent held working answer => exact others other apart
  | beginClose present connected stepped => exact others other apart
  | markClosed present working => exact written _ _ _ rfl (by rw [present]; rfl)
  | remove present gone => exact others other apart
  | closeFifo present gone => exact written _ _ _ rfl (by rw [present]; rfl)

/-- The progress of a client that is alone, from one state to the next. -/
theorem WorkersStep.alone (step : WorkersStep auth deadly workerCount state label next)
    (alone : Alone auth workerCount client state) (only : label.Only client)
    (before : OneAtATime state) (after : OneAtATime next) :
    Alone auth workerCount client next := by
  have formed := step.formed alone.formed
  have others := step.others alone.others only
  have quiet := step.quiet (label_open only) alone.quiet
  cases step with
  | register new registered =>
    rename_i other fifo memory pool
    obtain rfl : other = client := only
    obtain ⟨-, same, -⟩ := threadpoolRegisterClient_spec alone.formed.pool registered
    obtain ⟨jobs, responses, session, world, handled, lines, answers, handling⟩ := alone.progress
    refine ⟨formed, others, quiet, jobs, responses, session, world, handled, lines, answers,
      handling.congr rfl rfl rfl ?_ (congrFun same other)⟩
    simp [WorkersState.submitted, new]
  | submit present submitted =>
    rename_i other line memory record pool
    obtain rfl : other = client := by
      by_contra apart
      cases (alone.others other apart).symm.trans present
    obtain ⟨-, -, same⟩ := threadpoolSubmit_spec alone.formed.pool submitted
    obtain ⟨jobs, responses, session, world, handled, lines, answers, handling⟩ := alone.progress
    have queued : pool.queued other = state.pool.queued other ++ [⟨other, record.requestsReceived,
        line⟩] := (congrFun same other).trans (Function.update_self ..)
    have before : state.submitted other = record.submitted := by
      simp [WorkersState.submitted, present]
    refine ⟨formed, others, quiet, jobs, responses, session, world, handled, lines, answers, ?_⟩
    cases handling with
    | between idle session_eq world_eq accepted =>
      refine .between idle session_eq world_eq ?_
      rw [before] at accepted
      simp [WorkersState.submitted, WorkersState.setClient, queued, accepted]
    | during holding working served accepted =>
      refine .during holding working served ?_
      rw [before] at accepted
      simp [WorkersState.submitted, WorkersState.setClient, queued, accepted]
  | refuse present refused => exact alone
  | dequeue idle known dequeued =>
    rename_i worker request pool
    obtain ⟨-, rest, front, same⟩ := dequeueFairRequest_spec alone.formed.pool dequeued
    have owner : request.client = client := by
      by_contra apart
      rw [alone.formed.queued_known _ (alone.others _ apart)] at front
      cases front
    subst owner
    have queued : pool.queued request.client = rest :=
      (congrFun same _).trans (Function.update_self ..)
    obtain ⟨jobs, responses, session, world, handled, lines, answers, handling⟩ := alone.progress
    refine ⟨formed, others, quiet, jobs, responses, session, world, handled, lines, answers, ?_⟩
    have taken : (state.take worker request pool).inHand worker = some request :=
      Function.update_self ..
    cases handling with
    | between free session_eq world_eq accepted =>
      subst session_eq world_eq
      have begun : serve auth (state.rpc.sessions request.client) state.rpc.world
          (.start request.rpcLine) [] = (_, _, _) := rfl
      refine .during taken (Function.update_self ..) begun ?_
      rw [front] at accepted
      exact accepted.trans (by rw [← queued]; rfl)
    | during holding working served accepted =>
      rename_i other current given pc
      have apart : other ≠ worker := by
        rintro rfl
        cases (alone.formed.idle idle).symm.trans holding
      have still : (state.take worker request pool).inHand other = some current :=
        (Function.update_of_ne apart ..).trans holding
      exact absurd (after _ _ _ _ still taken) apart
  | advance stepped =>
    rename_i thread given rpc
    obtain ⟨at_client, pc, working, unfinished, rfl⟩ := rpcMachine_step stepped
    have known : thread < workerCount := by
      by_contra above
      cases (alone.quiet thread (Nat.le_of_not_lt above)).symm.trans working
    obtain ⟨request, holding, owns⟩ := alone.formed.holding known working
    obtain rfl : at_client = client := owns.symm.trans (alone.owner holding)
    obtain ⟨jobs, responses, session, world, handled, lines, answers, handling⟩ := alone.progress
    refine ⟨formed, others, quiet, jobs, responses, session, world, handled, lines, answers, ?_⟩
    cases handling with
    | between idle => cases (idle thread).symm.trans holding
    | during holds at_work served accepted =>
      rename_i other current front at_pc
      obtain rfl := before _ _ _ _ holds holding
      obtain ⟨-, rfl⟩ := Thread.mk.inj (Option.some.inj (at_work.symm.trans working))
      obtain ⟨serves, moved⟩ := serve_advanceThread other given served
      exact .during holds moved serves accepted
  | respond held working answer present called =>
    rename_i worker copied results request served response text record sent
    obtain ⟨stream, -, rfl⟩ := send_some called
    obtain ⟨jobs, responses, session, world, handled, lines, answers, rfl, rfl, accepted⟩ :=
      alone.finish before copied held working
    rw [answer] at lines answers accepted
    obtain rfl : request.client = client := alone.owner held
    refine ⟨formed, others, quiet, jobs, responses, _, _, handled, lines, answers,
      .between (before.finish held) rfl rfl ?_⟩
    refine Eq.trans ?_ accepted
    simp [WorkersState.submitted, WorkersState.finish, WorkersState.setClient, present]
  | silent held working answer =>
    rename_i worker copied request served response
    obtain ⟨jobs, responses, session, world, handled, lines, answers, rfl, rfl, accepted⟩ :=
      alone.finish before copied held working
    rw [answer] at lines answers accepted
    exact ⟨formed, others, quiet, jobs, responses, _, _, handled, lines, answers,
      .between (before.finish held) rfl rfl accepted⟩
  | beginClose present connected stepped => cases only
  | markClosed present working => cases only
  | remove present gone => cases only
  | closeFifo present gone =>
    rename_i other record
    obtain ⟨jobs, responses, session, world, handled, lines, answers, handling⟩ := alone.progress
    refine ⟨formed, others, quiet, jobs, responses, session, world, handled, lines, answers,
      handling.congr rfl rfl rfl ?_ rfl⟩
    by_cases here : client = other
    · subst here
      simp [WorkersState.submitted, present, Client.closeFifo]
    · simp [WorkersState.submitted, clients_setClient_ne here]

/-! ## When requests are handled in order -/

/-- No client has sent more than that many requests. -/
def Modest (limit : Nat) (state : WorkersState) : Prop :=
  ∀ client record, state.clients client = some record → record.submitted.length ≤ limit

/-- Requests that were sent stay counted. -/
theorem Modest.earlier {limit : Nat} (formed : state.Formed workerCount)
    (step : WorkersStep auth deadly workerCount state label next) (modest : Modest limit next) :
    Modest limit state := by
  intro client record present
  have change := step.client_change formed client
  cases change with
  | kept clients queued held answered => exact modest client record (clients.trans present)
  | born new clients queued held answered => cases new.symm.trans present
  | submitted there clients queued held answered =>
    obtain rfl := Option.some.inj (there.symm.trans present)
    have more := modest client _ clients
    rw [List.length_append] at more
    exact (Nat.le_add_right _ _).trans more
  | taken owner idle front queued held clients answered =>
    exact modest client record (clients ▸ present)
  | sent called owner holding there stepped clients queued held answered =>
    obtain rfl := Option.some.inj (there.symm.trans present)
    have more := modest client _ clients
    exact more
  | dropped owner holding clients queued held answered =>
    exact modest client record (clients ▸ present)
  | closed there clients gone received lines queued held answered =>
    obtain rfl := Option.some.inj (there.symm.trans present)
    exact lines ▸ modest client _ clients

/-- A server that is modest at the end of a run is so at its start. -/
theorem Modest.of_run {limit : Nat} {labels : List WorkersLabel} (formed : state.Formed workerCount)
    (ran : (workersMachine auth deadly workerCount).run state labels = some next)
    (modest : Modest limit next) : Modest limit state := by
  have earlier : ∀ state label next,
      (workersMachine auth deadly workerCount).step state label = some next →
      (next.Formed workerCount → Modest limit next) →
      (state.Formed workerCount → Modest limit state) := by
    intro state label next step later formed
    obtain ⟨-, taken⟩ := workersMachine_step step
    exact (later (taken.formed formed)).earlier formed taken
  exact Machine.run_earlier earlier ran (fun _ => modest) formed

/-- With one worker, or at most one request of a client, no request of a client is begun while an
earlier one is not finished. -/
theorem handledInOrder {limit : Nat} (formed : state.Formed workerCount)
    (numbered : ∀ client record, state.clients client = some record →
      Numbered client state record)
    (modest : Modest limit state) (few : workerCount = 1 ∨ limit ≤ 1) : HandledInOrder state := by
  rintro first second ⟨worker, pc, holding, working, begun⟩ same earlier unfinished
  obtain ⟨record, present⟩ :=
    Option.isSome_iff_exists.mp (formed.held_known worker second holding)
  have numbers := numbered second.client record present
  have mine : Outstanding state second.client second.seqNum :=
    .inr ⟨worker, second, holding, rfl, rfl⟩
  rcases unfinished with waits | ⟨other, at_pc, holds, -, -⟩
  · rw [same] at waits
    exact Nat.lt_asymm earlier (numbers.behind worker second holding rfl first waits)
  · rcases few with rfl | single
    · obtain ⟨one, -⟩ := formed.working holding
      obtain ⟨other_one, -⟩ := formed.working holds
      obtain rfl : worker = other :=
        (Nat.lt_one_iff.mp one).trans (Nat.lt_one_iff.mp other_one).symm
      obtain rfl := Option.some.inj (holds.symm.trans holding)
      exact lt_irrefl _ earlier
    · have inside := numbers.below _ mine
      have bounded := modest second.client record present
      omega

/-- With one worker, or at most one request of a client that is alone, requests are handled one at a
time. -/
theorem oneAtATime {limit : Nat} (formed : state.Formed workerCount)
    (others : ∀ other, other ≠ client → state.clients other = none)
    (numbered : ∀ record, state.clients client = some record → Numbered client state record)
    (modest : Modest limit state) (few : workerCount = 1 ∨ limit ≤ 1) : OneAtATime state := by
  intro worker other request same holding holds
  rcases few with rfl | single
  · obtain ⟨one, -⟩ := formed.working holding
    obtain ⟨other_one, -⟩ := formed.working holds
    exact (Nat.lt_one_iff.mp one).trans (Nat.lt_one_iff.mp other_one).symm
  · have owner : ∀ worker request, state.inHand worker = some request →
        request.client = client := by
      intro worker request held
      by_contra apart
      have known := formed.held_known worker request held
      rw [others _ apart] at known
      cases known
    obtain ⟨record, present⟩ :=
      Option.isSome_iff_exists.mp (formed.held_known worker request holding)
    rw [owner worker request holding] at present
    have numbers := numbered record present
    have bounded := modest client record present
    have first := numbers.below _ (.inr ⟨worker, request, holding, owner _ _ holding, rfl⟩)
    have second := numbers.below _ (.inr ⟨other, same, holds, owner _ _ holds, rfl⟩)
    exact numbers.apart worker other request same holding holds (owner _ _ holding)
      (owner _ _ holds) (by omega)

/-- A client that is alone gets the responses of its requests one after another. -/
theorem matchesSequential {limit : Nat} {labels : List WorkersLabel} {last : WorkersState}
    {record : Client} (ran : (workersMachine auth deadly workerCount).run {} labels = some last)
    (small : limit ≤ 2 ^ 64) (modest : Modest limit last) (few : workerCount = 1 ∨ limit ≤ 1)
    (present : last.clients client = some record) (only : ∀ label ∈ labels, label.Only client)
    (idle : ∀ worker, last.inHand worker = none) (empty : last.pool.queued client = []) :
    MatchesSequential auth client record last := by
  have earlier : ∀ state label next,
      (workersMachine auth deadly workerCount).step state label = some next →
      (next.Formed workerCount → Modest limit next) →
      (state.Formed workerCount → Modest limit state) := by
    intro state label next step later formed
    obtain ⟨-, taken⟩ := workersMachine_step step
    exact (later (taken.formed formed)).earlier formed taken
  have kept : ∀ state label next,
      Alone auth workerCount client state ∧ (∀ record, state.clients client = some record →
        record.submitted.length ≤ 2 ^ 64 → Numbered client state record) →
      (next.Formed workerCount → Modest limit next) → label.Only client →
      (workersMachine auth deadly workerCount).step state label = some next →
      Alone auth workerCount client next ∧ (∀ record, next.clients client = some record →
        record.submitted.length ≤ 2 ^ 64 → Numbered client next record) := by
    rintro state label next ⟨alone, numbered⟩ later allowed step
    have before := earlier state label next step later alone.formed
    obtain ⟨-, taken⟩ := workersMachine_step step
    have formed := taken.formed alone.formed
    have numbers := (taken.client_change alone.formed client).numbered alone.formed numbered
    have bounded : ∀ {state : WorkersState}, Modest limit state →
        ∀ record, state.clients client = some record → record.submitted.length ≤ 2 ^ 64 :=
      fun modest record present => (modest client record present).trans small
    exact ⟨taken.alone alone allowed
      (oneAtATime alone.formed alone.others
        (fun record present => numbered record present (bounded before record present)) before few)
      (oneAtATime formed (taken.others alone.others allowed)
        (fun record present => numbers record present (bounded (later formed) record present))
        (later formed) few), numbers⟩
  have initially : Alone auth workerCount client {} ∧
      (∀ record, ({} : WorkersState).clients client = some record →
        record.submitted.length ≤ 2 ^ 64 → Numbered client {} record) :=
    ⟨alone_initial, fun record there => by cases there⟩
  have finish := (Machine.everyStep_iff earlier (fun _ _ _ _ _ _ => Iff.rfl) kept ran
    (fun _ => modest) initially).2
  obtain ⟨alone, -⟩ := finish (Machine.everyStep_of_labels fun label member _ => only label member)
  obtain ⟨jobs, responses, session, world, handled, lines, answers, handling⟩ := alone.progress
  cases handling with
  | between free session_eq world_eq accepted =>
    subst session_eq world_eq
    rw [empty, List.map_nil, List.append_nil, WorkersState.submitted, present] at accepted
    exact ⟨jobs, responses, handled, lines.trans accepted.symm, accepted.symm, answers⟩
  | during holding => cases (idle _).symm.trans holding

/-- Two workers take two requests of a client, and the second one begins. -/
def secondBegun : List WorkersLabel :=
  [.register 0 4 true, .submit 0 (bytes "Login ann") true,
    .submit 0 (bytes "create_canvas 1 1 0") true, .dequeue 0, .dequeue 1, .advance 1 {}]

/-- The second request is handled while the first one is not. -/
theorem secondBegun_disorder (workerCount : Nat) (two : 2 ≤ workerCount) : ∃ last,
    (workersMachine [] true workerCount).run {} secondBegun = some last ∧ Modest 2 last ∧
    ¬ HandledInOrder last := by
  have ran : (workersMachine [] true 2).run {} secondBegun = some _ := rfl
  refine ⟨_, workersMachine_run_more two (by decide) ran, ?_, ?_⟩
  · intro client record present
    by_cases here : client = 0
    · subst here
      cases present
      decide
    · simp [WorkersState.setClient, WorkersState.take, Function.update_of_ne here] at present
  · intro ordered
    refine ordered ⟨0, 0, bytes "Login ann"⟩ ⟨0, 1, bytes "create_canvas 1 1 0"⟩
      ⟨1, _, rfl, rfl, ?_⟩ rfl (by decide) (.inr ⟨0, _, rfl, rfl, rfl⟩)
    decide

/-- The requests of every client are handled one after another, in every run in which no client
sends more than a number of requests, exactly if there is one worker or that number is at most
one. -/
theorem sequential_iff {workerCount limit : Nat} (staffed : 1 ≤ workerCount)
    (small : limit ≤ 2 ^ 64) :
    (∀ auth deadly labels last,
      (workersMachine auth deadly workerCount).run {} labels = some last → Modest limit last →
      Sequential auth deadly workerCount labels last) ↔ workerCount = 1 ∨ limit ≤ 1 := by
  constructor
  · intro claim
    by_contra many
    rw [not_or] at many
    obtain ⟨last, ran, modest, disorder⟩ := secondBegun_disorder workerCount (by omega)
    have within : Modest limit last := fun client record present =>
      (modest client record present).trans (by omega)
    exact disorder ((claim [] true secondBegun last ran within).1.last ran)
  · intro few auth deadly labels last ran modest
    constructor
    · rw [Machine.always_iff_segments]
      intro front back reached split segment
      subst split
      obtain ⟨middle, here, rest⟩ := Machine.run_append_some.mp ran
      obtain rfl := Option.some.inj (segment.symm.trans here)
      have formed := workersMachine_run_formed segment
      have bounded := Modest.of_run formed rest modest
      refine handledInOrder formed (fun client record present => ?_) bounded few
      exact workersMachine_numbered segment present ((bounded client record present).trans small)
    · intro client record present only idle empty
      exact matchesSequential ran small modest few present only idle empty

/-- A worker takes two requests of a client and answers them. -/
def oneByOne : List WorkersLabel :=
  [.register 0 4 true, .submit 0 (bytes "Login ann") true,
    .submit 0 (bytes "create_canvas 1 1 0") true, .dequeue 0, .advance 0 {},
    .respond 0 true [.wrote 2], .dequeue 0, .advance 0 {}, .advance 0 {}, .respond 0 true [.wrote 4]]

/-- One worker handles them one after another. -/
theorem sequential_iff_oneByOne : ∃ last,
    (workersMachine [⟨bytes "ann", 5⟩] true 1).run {} oneByOne = some last ∧
      last.answered.map Prod.snd = [some (bytes "5\n"), some (bytes "0 1\n")] ∧
      Sequential [⟨bytes "ann", 5⟩] true 1 oneByOne last := by
  have one : (1 : Nat) = 1 ∨ 2 ≤ 1 := .inl rfl
  have claim := (sequential_iff (by decide : 1 ≤ 1) (by decide : 2 ≤ 2 ^ 64)).mpr one
  refine ⟨_, rfl, by decide +kernel, claim _ true oneByOne _ rfl fun client record present => ?_⟩
  by_cases here : client = 0
  · subst here
    cases present
    decide +kernel
  · simp [WorkersState.setClient, WorkersState.take, WorkersState.finish,
      Function.update_of_ne here] at present

/-- It is not so that requests are handled one after another with every number of workers. -/
theorem sequential_false : ¬ ∀ (workerCount : Nat) (auth : AuthDb) (deadly : Bool)
    (labels : List WorkersLabel) (last : WorkersState), 1 ≤ workerCount →
    (workersMachine auth deadly workerCount).run {} labels = some last →
    Sequential auth deadly workerCount labels last := by
  intro claim
  obtain ⟨last, ran, -, disorder⟩ := secondBegun_disorder 2 le_rfl
  exact disorder ((claim 2 [] true secondBegun last (by decide) ran).1.last ran)

end AnimateService
