import AnimateService.RoundRobin

/-!
# How long a request waits

As no client is overtaken, the requests that are dequeued before one that waits are bounded by its
place in its client's queue and the number of clients. Each `dequeue_fair_request` uses up one of
them, and nothing but a registration brings more.
-/
namespace AnimateService

variable {pool next : Pool} {client : ClientId} {request : Request} {ahead : Nat}

/-- A request waits behind a number of requests of its client. -/
def Pool.WaitsBehind (pool : Pool) (client : ClientId) (request : Request) (ahead : Nat) : Prop :=
  ∃ front rest, pool.queued client = front ++ request :: rest ∧ front.length = ahead

/-- The call is `dequeue_fair_request`. -/
def PoolCall.isDequeue : PoolCall → Bool
  | .dequeue => true
  | _ => false

/-- The call is `threadpool_register_client`. -/
def PoolCall.isRegister : PoolCall → Bool
  | .register _ _ => true
  | _ => false

/-! ## The order of the clients -/

/-- As many clients are in the order as are registered. -/
theorem order_length (pool : Pool) : pool.order.length = pool.clients.length := by
  rw [(order_perm pool).length_eq, List.length_map]

/-- A client that waits is in the order. -/
theorem waits_in_order {memory : PoolMemory} (represents : Represents memory pool)
    (waits : pool.WaitsBehind client request ahead) : client ∈ pool.order := by
  obtain ⟨front, rest, queued, -⟩ := waits
  have inside : request ∈ pool.queued client := by simp [queued]
  obtain ⟨waiting, owner⟩ := represents.1.mem_queued.mp inside
  obtain ⟨queue, member, within⟩ := List.mem_flatMap.mp waiting
  rw [represents.1.owned queue member request within] at owner
  exact owner ▸ mem_order represents.1 represents.pointed member

/-- Of the queues all but that of the removed client stay. -/
theorem clients_remove (pool : Pool) (client : ClientId) :
    (threadpoolRemoveClient pool client).clients =
      pool.clients.filter fun queue => queue.client ≠ client := by
  unfold threadpoolRemoveClient
  split
  · rfl
  · rename_i missing
    refine (List.filter_eq_self.mpr fun queue member => ?_).symm
    simpa using List.find?_eq_none.mp missing queue member

/-- A client that is removed is all that is taken out of the order. -/
theorem order_remove_eq (formed : pool.WellFormed) (pointed : pool.Pointed) (client : ClientId) :
    (threadpoolRemoveClient pool client).order = pool.order.filter fun other => other ≠ client := by
  refine ((order_remove formed pointed client).eq_of_length ?_).symm
  rw [order_length, clients_remove, ((order_perm pool).filter _).length_eq, List.filter_map,
    List.length_map]
  rfl

/-! ## Calls -/

/-- While a request waits, a call that does not remove its client dequeues it, or lets it wait. If it
is a dequeue then another request is dequeued, and the debt gets smaller; only a registration makes
the debt larger. -/
theorem Pool.call_waitsBehind {memory : PoolMemory} (represents : Represents memory pool)
    (requestsReceived : ClientId → Nat) (waits : pool.WaitsBehind client request ahead)
    {call : PoolCall} (kept : call ≠ .remove client) :
    (pool.call requestsReceived call).1.served = some request ∨
      ∃ fewer, (pool.call requestsReceived call).2.WaitsBehind client request fewer ∧
        fewer ≤ ahead ∧
        (pool.call requestsReceived call).1.served.isSome = call.isDequeue ∧
        Turns.debt (pool.call requestsReceived call).2.order client fewer +
            (if call.isDequeue then 1 else 0) ≤
          Turns.debt pool.order client ahead +
            (ahead + 1) * (if call.isRegister then 1 else 0) := by
  have formed := represents.1
  have inside := waits_in_order represents waits
  obtain ⟨front, rest, queued, behind⟩ := waits
  have same : pool.WaitsBehind client request ahead := ⟨front, rest, queued, behind⟩
  cases call with
  | register registered queue =>
    refine .inr ⟨ahead, ?_⟩
    unfold Pool.call
    dsimp only
    split
    · rename_i next made
      obtain ⟨formed', kept, -⟩ := threadpoolRegisterClient_spec formed made
      obtain ⟨-, result⟩ := threadpoolRegisterClient_ok made
      have one : next.order.length ≤ pool.order.length + 1 := by
        rw [order_length, order_length, result, List.length_append]
        exact Nat.le_refl _
      exact ⟨⟨front, rest, kept ▸ queued, behind⟩, Nat.le_refl _, rfl,
        (Turns.debt_insert (order_register formed represents.pointed made) (order_nodup formed') inside
          one).trans_eq (congrArg _ (Nat.mul_one _).symm)⟩
    · exact ⟨same, Nat.le_refl _, rfl, Nat.le_add_right _ _⟩
  | remove removed =>
    have apart : client ≠ removed := by
      rintro rfl
      exact kept rfl
    obtain ⟨-, others, -⟩ := threadpoolRemoveClient_spec removed formed
    have stays : client ∈ pool.order.filter fun other => other ≠ removed :=
      List.mem_filter.mpr ⟨inside, decide_eq_true apart⟩
    refine .inr ⟨ahead, ⟨front, rest, ?_, behind⟩, Nat.le_refl _, rfl, ?_⟩
    · change (threadpoolRemoveClient pool removed).queued client = _
      rw [others, Function.update_of_ne apart, queued]
    · change Turns.debt (threadpoolRemoveClient pool removed).order client ahead ≤ _
      rw [order_remove_eq formed represents.pointed]
      exact Turns.debt_sublist List.filter_sublist (order_nodup formed) stays
  | submit submitter disconnected rpcLine node =>
    refine .inr ⟨ahead, ?_⟩
    unfold Pool.call
    dsimp only
    split
    · rename_i next submitted
      obtain ⟨-, -, others⟩ := threadpoolSubmit_spec formed submitted
      obtain ⟨-, -, -, made⟩ := threadpoolSubmit_ok submitted
      have order : next.order = pool.order := order_updateQueue (congrArg Pool.clients made)
        (by rw [made]) fun _ => rfl
      refine ⟨?_, Nat.le_refl _, rfl, (congrArg (Turns.debt · client ahead) order).le⟩
      by_cases own : client = submitter
      · subst own
        have now := (congrFun others client).trans (Function.update_self ..)
        rw [queued, List.append_assoc] at now
        exact ⟨front, _, now, behind⟩
      · refine ⟨front, rest, ?_, behind⟩
        rw [others, Function.update_of_ne own, queued]
    · exact ⟨same, Nat.le_refl _, rfl, Nat.le_refl _⟩
  | dequeue =>
    unfold Pool.call
    dsimp only
    split
    · rename_i served next dequeued
      obtain ⟨before, after, order, order', passed⟩ :=
        order_dequeue formed represents.pointed represents.active dequeued
      obtain ⟨-, tail, first, others⟩ := dequeueFairRequest_spec formed dequeued
      by_cases own : client = served.client
      · subst own
        cases front with
        | nil => exact .inl (congrArg some (List.cons.inj (first.symm.trans queued)).1)
        | cons head front =>
          obtain ⟨-, rfl⟩ := List.cons.inj (first.symm.trans queued)
          subst behind
          refine .inr ⟨front.length, ⟨front, rest, ?_, rfl⟩, Nat.le_succ _, rfl, ?_⟩
          · rw [others, Function.update_self]
            rfl
          · rw [order', order]
            exact Turns.debt_served
      · refine .inr ⟨ahead, ⟨front, rest, ?_, behind⟩, Nat.le_refl _, rfl, ?_⟩
        · rw [others, Function.update_of_ne own, queued]
        · have outside : client ∉ before := by
            intro skipped
            have nothing := passed client skipped
            rw [queued] at nothing
            cases front <;> cases nothing
          rw [order] at inside
          rw [order', order]
          exact Turns.debt_passed inside outside own
    · rename_i nothing
      have dequeued := represents.dequeue (Nat.le_refl _)
      rw [nothing] at dequeued
      have waiting := (formed.mem_queued.mp (by simp [queued] : request ∈ pool.queued client)).1
      rw [dequeued.2] at waiting
      cases waiting
  | shutDown => exact .inr ⟨ahead, same, Nat.le_refl _, rfl, Nat.le_refl _⟩

/-! ## Runs -/

/-- The dequeues among calls. -/
def dequeues (calls : List (PoolCall × Nat)) : Nat := calls.countP fun label => label.1.isDequeue

/-- The registrations among calls. -/
def registrations (calls : List (PoolCall × Nat)) : Nat :=
  calls.countP fun label => label.1.isRegister

/-- Until a request that waits is dequeued each dequeue uses up some of its debt, and of what the
registrations add to it. -/
theorem Scheduler.Holds.waitsBehind {state last : Scheduler} {calls : List (PoolCall × Nat)}
    (holds : state.Holds pool) (waits : pool.WaitsBehind client request ahead)
    (kept : ∀ label ∈ calls, label.1 ≠ .remove client)
    (ran : schedulerMachine.run state calls = some last) {bound : Nat}
    (enough : Turns.debt pool.order client ahead + (ahead + 1) * registrations calls < bound) :
    ∃ later, last.served = state.served ++ later ∧
      (request ∈ later.take bound ∨ later.length = dequeues calls ∧ later.length < bound) := by
  induction calls generalizing state pool ahead bound with
  | nil =>
    cases ran
    exact ⟨[], (List.append_nil _).symm, .inr ⟨rfl, Nat.zero_lt_of_lt enough⟩⟩
  | cons label calls ih =>
    obtain ⟨next, step, rest⟩ := Transition.Machine.run_cons_some.mp ran
    obtain ⟨memory, made, holds'⟩ := holds.step step
    obtain ⟨more, rfl⟩ := Nat.exists_eq_succ_of_ne_zero (Nat.ne_of_gt (Nat.zero_lt_of_lt enough))
    have served : next.served = state.served ++
        (pool.call state.requestsReceived label.1).1.served.toList := by
      rw [made]
      rfl
    rcases Pool.call_waitsBehind holds.represents state.requestsReceived waits
        (kept label List.mem_cons_self) with now | ⟨fewer, waits', less, one, debt⟩
    · obtain ⟨⟨later, grown⟩, -⟩ := scheduler_grows rest
      refine ⟨request :: later, ?_, .inl (List.take_succ_cons ▸ List.mem_cons_self)⟩
      rw [grown, served, now, Option.toList_some, List.append_assoc, List.singleton_append]
    · have stays := fun label member => kept label (List.mem_cons_of_mem _ member)
      have product : (fewer + 1) * registrations calls ≤ (ahead + 1) * registrations calls :=
        Nat.mul_le_mul_right _ (Nat.succ_le_succ less)
      have brought : registrations (label :: calls) =
          registrations calls + if label.1.isRegister then 1 else 0 := List.countP_cons
      have taken : dequeues (label :: calls) =
          dequeues calls + if label.1.isDequeue then 1 else 0 := List.countP_cons
      rw [brought, Nat.mul_add] at enough
      by_cases dequeue : label.1.isDequeue = true
      · rw [if_pos dequeue] at debt taken
        obtain ⟨other, popped⟩ := Option.isSome_iff_exists.mp (one.trans dequeue)
        obtain ⟨later, grown, result⟩ := ih holds' waits' stays rest
          (by omega : _ + (fewer + 1) * registrations calls < more)
        refine ⟨other :: later, ?_, ?_⟩
        · rw [grown, served, popped, Option.toList_some, List.append_assoc, List.singleton_append]
        · rw [List.take_succ_cons, List.length_cons, taken]
          rcases result with soon | ⟨all, below⟩
          · exact .inl (List.mem_cons_of_mem _ soon)
          · exact .inr ⟨congrArg (· + 1) all, Nat.succ_lt_succ below⟩
      · rw [if_neg dequeue] at debt taken
        have idle : (pool.call state.requestsReceived label.1).1.served = none :=
          Option.not_isSome_iff_eq_none.mp fun some => dequeue (one.symm.trans some)
        obtain ⟨later, grown, result⟩ := ih holds' waits' stays rest
          (by omega : _ + (fewer + 1) * registrations calls < more + 1)
        refine ⟨later, ?_, taken ▸ result⟩
        rw [grown, served, idle, Option.toList_none, List.append_nil]

/-- Every request is dequeued in bounded time. In a reachable scheduler let a request wait behind
others of its client. In any run from there that does not remove the client, it is dequeued among
the first ones, as many as that place among the client's requests times the number of clients, those
that are registered meanwhile included; or else the run has not made that many dequeues, and each of
them dequeued another request. -/
theorem requests_wait_in_turn {requestsReceived : ClientId → Nat} {earlier : List (PoolCall × Nat)}
    {state : Scheduler}
    (reached : schedulerMachine.run { requestsReceived := requestsReceived } earlier = some state) :
    ∃ pool, Represents state.memory pool ∧
      ∀ client front request rest, pool.queued client = front ++ request :: rest →
      ∀ calls last, schedulerMachine.run state calls = some last →
      (∀ label ∈ calls, label.1 ≠ .remove client) →
      ∃ later, last.served = state.served ++ later ∧
        (request ∈ later.take ((front.length + 1) * (pool.clients.length + registrations calls)) ∨
          later.length = dequeues calls ∧
            later.length < (front.length + 1) * (pool.clients.length + registrations calls)) := by
  obtain ⟨pool, holds⟩ := (Scheduler.holds_start requestsReceived).run reached
  refine ⟨pool, holds.represents, fun client front request rest queued calls last ran kept => ?_⟩
  have waits : pool.WaitsBehind client request front.length := ⟨front, rest, queued, rfl⟩
  refine holds.waitsBehind waits kept ran ?_
  have debt := Turns.debt_lt (waits_in_order holds.represents waits) front.length
  rw [order_length] at debt
  rw [Nat.mul_add]
  omega

/-- The request of the second client is among the next two that are dequeued. -/
theorem requests_wait_in_turn_uneven : ∃ state last pool request later,
    schedulerMachine.run { requestsReceived := fun _ => 0 } unevenCalls = some state ∧
      schedulerMachine.run state [(.dequeue, 1), (.dequeue, 1)] = some last ∧
      Represents state.memory pool ∧ request ∈ pool.queued 2 ∧
      last.served = state.served ++ later ∧
      (request ∈ later.take (pool.clients.length) ∨
        later.length = 2 ∧ later.length < pool.clients.length) := by
  have start : (schedulerMachine.run { requestsReceived := fun _ => 0 } unevenCalls).map
      (fun state => (state.memory.findClientQueue 2 2,
        (state.memory.queues 20).map fun cell => cell.value.head)) =
      some (some (some 20), some (some 102)) := by decide +kernel
  have all : (schedulerMachine.run { requestsReceived := fun _ => 0 }
      (unevenCalls ++ [(.dequeue, 1), (.dequeue, 1)])).isSome = true := by decide +kernel
  obtain ⟨state, reached, same⟩ := Option.map_eq_some_iff.mp start
  obtain ⟨found, head⟩ := Prod.mk.inj same
  obtain ⟨last, ran⟩ := Option.isSome_iff_exists.mp all
  obtain ⟨other, here, rest⟩ := Transition.Machine.run_append_some.mp ran
  obtain rfl := Option.some.inj (reached.symm.trans here)
  obtain ⟨pool, represents, waiting⟩ := requests_wait_in_turn reached
  obtain ⟨cell, there, some⟩ := Option.map_eq_some_iff.mp head
  have waits := represents.waits ⟨2, 20, cell, found, there, some ▸ Option.some_ne_none _⟩
  obtain ⟨request, others, queued⟩ := List.exists_cons_of_ne_nil waits
  obtain ⟨later, served, result⟩ := waiting 2 [] request others queued _ last rest (by decide)
  have none_new : registrations [(.dequeue, 1), (.dequeue, 1)] = 0 := rfl
  rw [none_new, List.length_nil, Nat.zero_add, Nat.one_mul, Nat.add_zero] at result
  exact ⟨state, last, pool, request, later, reached, rest, represents, queued ▸ List.mem_cons_self,
    served, result⟩

end AnimateService
