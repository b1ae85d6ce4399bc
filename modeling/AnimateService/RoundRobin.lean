import AnimateService.Library.Turns
import AnimateService.Scheduler

/-!
# Round robin

The order in which `dequeue_fair_request` looks at the clients. A client that is dequeued goes to
its end, a new one is put somewhere in it, one that leaves is taken out; so a client that waits is
not overtaken by one behind it.
-/
namespace AnimateService

variable {pool next : Pool} {client other : ClientId}

/-- The clients in the order in which `dequeue_fair_request` looks at them. -/
def Pool.order (pool : Pool) : List ClientId := pool.rotation.map ClientQueue.client

/-- `next_client` is one of the clients, and there is none if it is `NULL`. -/
def Pool.Pointed (pool : Pool) : Prop :=
  (pool.clients = [] ∧ pool.nextClient = none) ∨
    ∃ front queue back, pool.clients = front ++ queue :: back ∧
      pool.nextClient = some queue.client

/-- The pool that a memory represents is pointed. -/
theorem Represents.pointed {memory : PoolMemory} (represents : Represents memory pool) :
    pool.Pointed := by
  obtain ⟨-, layout, laid⟩ := represents
  rcases laid.cursor with ⟨rfl, -, none⟩ | ⟨queue, member, -, cursor⟩
  · exact .inl ⟨laid.clients, none⟩
  · obtain ⟨front, back, rfl⟩ := List.append_of_mem member
    exact .inr ⟨_, queue.queue, _, laid.split, cursor⟩

/-- The queues that a memory represents are active. -/
theorem Represents.active {memory : PoolMemory} (represents : Represents memory pool) :
    ∀ queue ∈ pool.clients, queue.active = true := by
  obtain ⟨-, layout, laid⟩ := represents
  rw [laid.clients]
  intro queue member
  obtain ⟨entry, -, rfl⟩ := List.mem_map.mp member
  rfl

/-! ## What the operations do to the order -/

/-- Without clients there is no order. -/
theorem order_nil (empty : pool.clients = []) : pool.order = [] := by
  simp [Pool.order, Pool.rotation, empty]

/-- The order starts with the client under the cursor. -/
theorem order_at (formed : pool.WellFormed) {front back : List ClientQueue} {queue : ClientQueue}
    (clients : pool.clients = front ++ queue :: back) (cursor : pool.nextClient = some queue.client) :
    pool.order = (queue :: back ++ front).map ClientQueue.client := by
  rw [Pool.order, rotation_at formed clients cursor]

/-- The order when the cursor is behind a client or else at the first one. -/
theorem order_behind (formed : next.WellFormed) {front back : List ClientQueue}
    (clients : next.clients = front ++ back)
    (cursor : next.nextClient = (back.head?.or front.head?).map ClientQueue.client) :
    next.order = (back ++ front).map ClientQueue.client := by
  cases back with
  | cons queue back => exact order_at formed clients cursor
  | nil =>
    cases front with
    | nil => exact order_nil clients
    | cons queue front =>
      rw [List.append_nil] at clients
      have first : next.clients = [] ++ queue :: front := clients
      rw [order_at formed first cursor, List.append_nil, List.nil_append]

/-- Every client is in the order. -/
theorem mem_order (formed : pool.WellFormed) (pointed : pool.Pointed) {queue : ClientQueue}
    (member : queue ∈ pool.clients) : queue.client ∈ pool.order := by
  rcases pointed with ⟨empty, -⟩ | ⟨front, start, back, clients, cursor⟩
  · rw [empty] at member
    cases member
  · rw [order_at formed clients cursor]
    rw [clients] at member
    refine List.mem_map_of_mem ?_
    simp only [List.mem_append, List.mem_cons] at member ⊢
    tauto

/-- The order is the list of the clients, turned. -/
theorem order_perm (pool : Pool) : pool.order.Perm (pool.clients.map ClientQueue.client) := by
  refine List.Perm.map _ ?_
  conv_rhs => rw [← List.take_append_drop (pool.clients.findIdx fun queue =>
    some queue.client = pool.nextClient) pool.clients]
  exact List.perm_append_comm

/-- No client is in the order twice. -/
theorem order_nodup (formed : pool.WellFormed) : pool.order.Nodup :=
  (order_perm pool).nodup_iff.mpr formed.distinct

/-- A client that is registered is put into the order. -/
theorem order_register (formed : pool.WellFormed) (pointed : pool.Pointed) {memory : Bool}
    (registered : threadpoolRegisterClient pool client memory = .ok next) :
    pool.order.Sublist next.order := by
  have formed' := (threadpoolRegisterClient_spec formed registered).1
  obtain ⟨-, made⟩ := threadpoolRegisterClient_ok registered
  rcases pointed with ⟨empty, -⟩ | ⟨front, start, back, clients, cursor⟩
  · rw [order_nil empty]
    exact List.nil_sublist _
  · have clients' : next.clients = front ++ start :: (back ++ [{ client := client }]) := by
      rw [made]
      simp [clients]
    have cursor' : next.nextClient = some start.client := by
      rw [made]
      simp [cursor]
    rw [order_at formed clients cursor, order_at formed' clients' cursor']
    refine List.Sublist.map _ (List.Sublist.cons_cons _ ?_)
    exact (List.sublist_append_left _ _).append (List.Sublist.refl _)

/-- A write to a queue that keeps its client keeps the order. -/
theorem order_updateQueue {write : ClientQueue → ClientQueue}
    (clients : next.clients = pool.updateQueue client write)
    (cursor : next.nextClient = pool.nextClient)
    (kept : ∀ queue, (write queue).client = queue.client) : next.order = pool.order := by
  have same : ∀ queue : ClientQueue,
      (if queue.client = client then write queue else queue).client = queue.client := by
    intro queue
    by_cases here : queue.client = client
    · rw [if_pos here, kept]
    · rw [if_neg here]
  have start : (next.clients.findIdx fun queue => some queue.client = next.nextClient) =
      pool.clients.findIdx fun queue => some queue.client = pool.nextClient := by
    rw [clients, cursor, Pool.updateQueue, List.findIdx_map]
    congr 1
    funext queue
    simp [same]
  rw [Pool.order, Pool.order, Pool.rotation, Pool.rotation, start, clients, Pool.updateQueue,
    ← List.map_drop, ← List.map_take, ← List.map_append, List.map_map]
  exact List.map_congr_left fun queue _ => same queue

/-- A client that is removed is taken out of the order. -/
theorem order_remove (formed : pool.WellFormed) (pointed : pool.Pointed) (client : ClientId) :
    (pool.order.filter fun other => other ≠ client).Sublist
      (threadpoolRemoveClient pool client).order := by
  have formed' := (threadpoolRemoveClient_spec client formed).1
  cases found : findClientQueue pool client with
  | none =>
    have same : threadpoolRemoveClient pool client = pool := by
      rw [threadpoolRemoveClient, found]
    rw [same]
    exact List.filter_sublist
  | some queue =>
    have clients' : (threadpoolRemoveClient pool client).clients =
        pool.clients.filter fun other => other.client ≠ client := by
      rw [threadpoolRemoveClient, found]
    have cursor' : (threadpoolRemoveClient pool client).nextClient =
        if pool.nextClient = some client then
          pool.behind client (threadpoolRemoveClient pool client).clients.head?
        else pool.nextClient := by
      rw [clients', threadpoolRemoveClient, found]
    rcases pointed with ⟨empty, -⟩ | ⟨front, start, back, clients, cursor⟩
    · rw [order_nil empty]
      exact List.nil_sublist _
    rw [order_at formed clients cursor, List.filter_map]
    rw [clients, List.filter_append] at clients'
    by_cases here : start.client = client
    · subst here
      obtain ⟨before, behind⟩ := formed.others clients
      have left : front.filter (fun other => other.client ≠ start.client) = front :=
        List.filter_eq_self.mpr fun other member => decide_eq_true (before other member)
      have right : back.filter (fun other => other.client ≠ start.client) = back :=
        List.filter_eq_self.mpr fun other member => decide_eq_true (behind other member)
      rw [List.filter_cons_of_neg (by simp), left, right] at clients'
      rw [if_pos cursor, behind_at formed clients, clients'] at cursor'
      have order := order_behind formed' clients' (by
        rw [cursor']
        cases back <;> simp)
      rw [order]
      refine List.Sublist.map _ ?_
      rw [List.filter_append, List.filter_cons_of_neg (by simp)]
      exact List.filter_sublist.append List.filter_sublist
    · rw [List.filter_cons_of_pos (by simpa using here)] at clients'
      rw [if_neg (by simpa [cursor] using here), cursor] at cursor'
      rw [order_at formed' clients' cursor']
      refine List.Sublist.map _ ?_
      rw [List.filter_append, List.filter_cons_of_pos (by simpa using here)]
      exact List.Sublist.refl _

/-- When a request is dequeued its client goes to the end of the order, with the clients that were
passed over as nothing waits for them. -/
theorem order_dequeue (formed : pool.WellFormed) (pointed : pool.Pointed)
    (active : ∀ queue ∈ pool.clients, queue.active = true) {request : Request}
    (dequeued : dequeueFairRequest pool = some (request, next)) :
    ∃ front back, pool.order = front ++ request.client :: back ∧
      next.order = back ++ front ++ [request.client] ∧
      ∀ client ∈ front, pool.queued client = [] := by
  have formed' := (dequeueFairRequest_spec formed dequeued).1
  obtain ⟨queue, rest, member, requests, chosen, made⟩ := dequeueFairRequest_some dequeued
  have owner : request.client = queue.client :=
    formed.owned queue member request (by simp [requests])
  obtain ⟨-, left, right, rotation, passed⟩ := List.find?_eq_some_iff_append.mp chosen
  refine ⟨left.map ClientQueue.client, right.map ClientQueue.client, ?_, ?_, ?_⟩
  · rw [Pool.order, rotation, owner, List.map_append, List.map_cons]
  · rcases pointed with ⟨empty, -⟩ | ⟨front, start, back, clients, cursor⟩
    · rw [empty] at member
      cases member
    have turned := rotation_at formed clients cursor
    rw [rotation] at turned
    obtain ⟨earlier, later, split, same⟩ := Turns.turned_split turned.symm
    rw [← clients] at split
    have clients' : next.clients = (earlier ++ [queue.pop]) ++ later := by
      rw [made, updateQueue_at formed split]
      simp
    have cursor' : next.nextClient =
        (later.head?.or (earlier ++ [queue.pop]).head?).map ClientQueue.client := by
      rw [made, behind_at formed split, split]
      cases earlier <;> cases later <;> rfl
    rw [order_behind formed' clients' cursor', ← List.append_assoc, same]
    simp [owner, ClientQueue.pop]
  · intro client inside
    obtain ⟨other, there, rfl⟩ := List.mem_map.mp inside
    have listed : other ∈ pool.clients := by
      have visited : other ∈ pool.rotation := by
        rw [rotation]
        exact List.mem_append_left _ there
      rcases List.mem_append.mp visited with late | early
      · exact List.mem_of_mem_drop late
      · exact List.mem_of_mem_take early
    rw [formed.queued_eq listed]
    simpa [active other listed] using passed other there

/-! ## A client that waits -/

/-- A client waits, and its turn is before that of another one. -/
def Pool.Ahead (pool : Pool) (client other : ClientId) : Prop :=
  pool.queued client ≠ [] ∧ Turns.Before client other pool.order

/-- When a request is dequeued, its client is behind all others that wait. -/
theorem dequeueFairRequest_ahead {memory : PoolMemory} (represents : Represents memory pool)
    {request : Request} (dequeued : dequeueFairRequest pool = some (request, next))
    (waits : next.queued client ≠ []) (apart : client ≠ request.client) :
    next.Ahead client request.client := by
  have formed := represents.1
  obtain ⟨front, back, order, order', -⟩ :=
    order_dequeue formed represents.pointed represents.active dequeued
  refine ⟨waits, ?_⟩
  rw [order']
  refine Turns.before_last ?_ apart
  obtain ⟨-, rest, -, queued⟩ := dequeueFairRequest_spec formed dequeued
  rw [queued, Function.update_of_ne apart] at waits
  obtain ⟨first, inside⟩ := List.exists_mem_of_ne_nil _ waits
  have waiting := (formed.mem_queued.mp inside).1
  obtain ⟨queue, member, within⟩ := List.mem_flatMap.mp waiting
  have owner := (formed.mem_queued.mp inside).2
  rw [formed.owned queue member first within] at owner
  rw [← order, ← owner]
  exact mem_order formed represents.pointed member

/-- A call that removes neither of two clients, of which the first waits and has its turn before
the second, dequeues a request of the first or leaves them so and dequeues none of the second. -/
theorem Pool.call_ahead {memory : PoolMemory} (represents : Represents memory pool)
    (requestsReceived : ClientId → Nat) (ahead : pool.Ahead client other) {call : PoolCall}
    (kept : call ≠ .remove client ∧ call ≠ .remove other) :
    (∃ request ∈ (pool.call requestsReceived call).1.served, request.client = client) ∨
      (pool.call requestsReceived call).2.Ahead client other ∧
        ∀ request ∈ (pool.call requestsReceived call).1.served, request.client ≠ other := by
  have formed := represents.1
  obtain ⟨waits, before⟩ := ahead
  cases call with
  | register registered queue =>
    refine .inr ?_
    unfold Pool.call
    dsimp only
    split
    · rename_i next made
      obtain ⟨-, queued, -⟩ := threadpoolRegisterClient_spec formed made
      exact ⟨⟨queued ▸ waits, before.trans (order_register formed represents.pointed made)⟩,
        by simp⟩
    · exact ⟨⟨waits, before⟩, by simp⟩
  | remove removed =>
    have first : client ≠ removed := by
      rintro rfl
      exact kept.1 rfl
    have second : other ≠ removed := by
      rintro rfl
      exact kept.2 rfl
    obtain ⟨-, queued, -⟩ := threadpoolRemoveClient_spec removed formed
    refine .inr ⟨⟨?_, ?_⟩, by simp [Pool.call]⟩
    · change (threadpoolRemoveClient pool removed).queued client ≠ []
      rw [queued, Function.update_of_ne first]
      exact waits
    · have stays := before.filter fun client => client ≠ removed
      rw [List.filter_cons_of_pos (by simpa using first),
        List.filter_cons_of_pos (by simpa using second), List.filter_nil] at stays
      exact stays.trans (order_remove formed represents.pointed removed)
  | submit submitter disconnected rpcLine node =>
    refine .inr ?_
    unfold Pool.call
    dsimp only
    split
    · rename_i next submitted
      obtain ⟨-, -, queued⟩ := threadpoolSubmit_spec formed submitted
      obtain ⟨-, -, -, made⟩ := threadpoolSubmit_ok submitted
      have order : next.order = pool.order := order_updateQueue (congrArg Pool.clients made)
        (by rw [made]) fun _ => rfl
      refine ⟨⟨?_, ?_⟩, by simp⟩
      · rw [queued]
        by_cases same : client = submitter
        · rw [same, Function.update_self]
          simp
        · rw [Function.update_of_ne same]
          exact waits
      · rw [order]
        exact before
    · exact ⟨⟨waits, before⟩, by simp⟩
  | dequeue =>
    unfold Pool.call
    dsimp only
    split
    · rename_i request next dequeued
      by_cases same : client = request.client
      · exact .inl ⟨request, rfl, same.symm⟩
      · obtain ⟨front, back, order, order', passed⟩ :=
          order_dequeue formed represents.pointed represents.active dequeued
        obtain ⟨-, rest, -, queued⟩ := dequeueFairRequest_spec formed dequeued
        have distinct := order_nodup formed
        rw [order] at before distinct
        obtain ⟨stays, second⟩ := Turns.before_served before distinct
          (fun inside => waits (passed client inside)) same
        refine .inr ⟨⟨?_, ?_⟩, ?_⟩
        · rw [queued, Function.update_of_ne same]
          exact waits
        · rw [order']
          exact stays
        · rintro _ ⟨⟩
          exact second.symm
    · exact .inr ⟨⟨waits, before⟩, by simp⟩
  | shutDown => exact .inr ⟨⟨waits, before⟩, by simp [Pool.call]⟩

/-! ## Runs -/

/-- A client is registered with a queue that is not empty. -/
def PoolMemory.HasRequests (memory : PoolMemory) (client : ClientId) : Prop :=
  ∃ passes place cell, memory.findClientQueue client passes = some (some place) ∧
    memory.queues place = some cell ∧ cell.value.head ≠ none

/-- In the pool the client waits. -/
theorem Represents.waits {memory : PoolMemory} (represents : Represents memory pool)
    (requests : memory.HasRequests client) : pool.queued client ≠ [] := by
  obtain ⟨formed, layout, laid⟩ := represents
  obtain ⟨passes, place, cell, found, there, head⟩ := requests
  have more := findClientQueueFrom_more found (Nat.le_max_left passes pool.clients.length)
  rcases laid.find client (Nat.le_max_right passes pool.clients.length) with
    ⟨missing, -, -⟩ | ⟨front, queue, back, rfl, rfl, here, listed⟩
  · cases more.symm.trans missing
  · obtain rfl := Option.some.inj (Option.some.inj (more.symm.trans here))
    rw [laid.at] at there
    obtain rfl := Option.some.inj there
    rw [Pool.queued, listed]
    intro empty
    exact head (Links.first_eq_none.mpr (List.map_eq_nil_iff.mp empty))

/-- No request of another client was dequeued after a moment before one of the client. -/
structure NotOvertaken (client other : ClientId) (start state : Scheduler) (pool : Pool)
    (later : List Request) : Prop where
  /-- What holds of the scheduler. -/
  holds : state.Holds pool
  /-- The requests that were dequeued after the moment. -/
  served : state.served = start.served ++ later
  /-- One of the client comes before one of the other. -/
  ordered : ∀ earlier again rest, later = earlier ++ again :: rest → again.client = other →
    ∃ request ∈ earlier, request.client = client
  /-- One of the client was dequeued, or it is ahead. -/
  turn : (∃ request ∈ later, request.client = client) ∨ pool.Ahead client other

/-- A step that removes neither client lets no request of the other overtake. -/
theorem NotOvertaken.step {start state next : Scheduler} {later : List Request}
    {label : PoolCall × Nat} (kept : NotOvertaken client other start state pool later)
    (apart : client ≠ other) (allowed : label.1 ≠ .remove client ∧ label.1 ≠ .remove other)
    (stepped : schedulerMachine.step state label = some next) :
    NotOvertaken client other start next (pool.call state.requestsReceived label.1).2
      (later ++ (pool.call state.requestsReceived label.1).1.served.toList) := by
  obtain ⟨memory, made, holds⟩ := kept.holds.step stepped
  have turn : (∃ request ∈ later, request.client = client) ∨
      (∃ request ∈ (pool.call state.requestsReceived label.1).1.served, request.client = client) ∨
        (pool.call state.requestsReceived label.1).2.Ahead client other ∧
          ∀ request ∈ (pool.call state.requestsReceived label.1).1.served,
            request.client ≠ other := by
    rcases kept.turn with old | ahead
    · exact .inl old
    · exact .inr (Pool.call_ahead kept.holds.represents state.requestsReceived ahead allowed)
  refine ⟨holds, ?_, ?_, ?_⟩
  · rw [made, ← List.append_assoc, ← kept.served]
    rfl
  · intro earlier again rest split second
    cases served : (pool.call state.requestsReceived label.1).1.served with
    | none =>
      rw [served, Option.toList_none, List.append_nil] at split
      exact kept.ordered earlier again rest split second
    | some latest =>
      rw [served, Option.toList_some] at split
      rcases List.eq_nil_or_concat rest with rfl | ⟨rest, final, rfl⟩
      · obtain ⟨rfl, same⟩ := List.append_inj' split rfl
        obtain rfl : latest = again := by simpa using same
        rcases turn with old | ⟨request, same, owner⟩ | ⟨-, none⟩
        · exact old
        · rw [served] at same
          cases same
          exact absurd (owner.symm.trans second) apart
        · exact absurd second (none latest served)
      · rw [List.concat_eq_append, ← List.cons_append, ← List.append_assoc] at split
        obtain ⟨split, -⟩ := List.append_inj' split rfl
        exact kept.ordered earlier again rest split second
  · rcases turn with ⟨request, old, owner⟩ | ⟨request, new, owner⟩ | ⟨ahead, -⟩
    · exact .inl ⟨request, List.mem_append_left _ old, owner⟩
    · exact .inl ⟨request, List.mem_append_right _ (Option.mem_toList.mpr new), owner⟩
    · exact .inr ahead

/-- No client is overtaken. If a client waits when a request of another one has been dequeued, and
neither is removed, then no further request of the other one is dequeued before one of the client,
whatever calls are made in between. -/
theorem round_robin_without_bypass {requestsReceived : ClientId → Nat}
    {front back : List (PoolCall × Nat)} {passes : Nat} {before after last : Scheduler}
    {request again : Request} {earlier rest : List Request}
    (reached : schedulerMachine.run { requestsReceived := requestsReceived } front = some before)
    (dequeued : schedulerMachine.step before (.dequeue, passes) = some after)
    (first : after.served = before.served ++ [request]) (apart : client ≠ request.client)
    (waits : after.memory.HasRequests client)
    (kept : ∀ label ∈ back, label.1 ≠ .remove client ∧ label.1 ≠ .remove request.client)
    (ran : schedulerMachine.run after back = some last)
    (served : last.served = after.served ++ (earlier ++ again :: rest))
    (second : again.client = request.client) : ∃ other ∈ earlier, other.client = client := by
  obtain ⟨pool, holds⟩ := (Scheduler.holds_start requestsReceived).run reached
  obtain ⟨memory, made, holds'⟩ := holds.step dequeued
  have queued := holds'.represents.waits waits
  have ahead : (pool.call before.requestsReceived .dequeue).2.Ahead client request.client := by
    rw [made, Scheduler.after] at first
    unfold Pool.call at first queued ⊢
    dsimp only at first queued ⊢
    cases taken : dequeueFairRequest pool with
    | none => simp [taken] at first
    | some result =>
      simp only [taken, Option.toList_some, List.append_cancel_left_eq, List.cons.injEq,
        and_true] at first queued ⊢
      subst first
      exact dequeueFairRequest_ahead holds.represents taken queued apart
  have preserved : ∀ state label next,
      (label.1 ≠ PoolCall.remove client ∧ label.1 ≠ PoolCall.remove request.client) →
      (∃ pool later, NotOvertaken client request.client after state pool later) →
      schedulerMachine.step state label = some next →
      ∃ pool later, NotOvertaken client request.client after next pool later := by
    rintro state label next allowed ⟨pool, later, kept⟩ stepped
    exact ⟨_, _, kept.step apart allowed stepped⟩
  have initially : NotOvertaken client request.client after after
      (pool.call before.requestsReceived .dequeue).2 [] :=
    ⟨holds', (List.append_nil _).symm, by simp, .inr ahead⟩
  obtain ⟨_, later, unpassed⟩ := Transition.Machine.run_invariant_on preserved kept
    ⟨_, _, initially⟩ ran
  have same := unpassed.served.symm.trans served
  exact unpassed.ordered earlier again rest (List.append_cancel_left same) second

/-- Client 1 has two requests and client 2 one. -/
def unevenCalls : List (PoolCall × Nat) :=
  [(.register 1 (some 10), 0), (.register 2 (some 20), 1), (.submit 1 false [65] (some 100), 1),
    (.submit 1 false [66] (some 101), 1), (.submit 2 false [67] (some 102), 2)]

/-- The request of client 2 is dequeued between those of client 1. -/
theorem round_robin_without_bypass_uneven :
    ∃ before after last, schedulerMachine.run { requestsReceived := fun _ => 0 } unevenCalls =
        some before ∧ schedulerMachine.step before (.dequeue, 1) = some after ∧
      schedulerMachine.run after [(.dequeue, 1), (.dequeue, 1)] = some last ∧
      last.served = after.served ++ ([⟨2, 0, [67]⟩] ++ ⟨1, 1, [66]⟩ :: []) ∧
      ∃ other ∈ [(⟨2, 0, [67]⟩ : Request)], other.client = 2 := by
  have start : (schedulerMachine.run { requestsReceived := fun _ => 0 } unevenCalls).map
      Scheduler.served = some [] := by decide +kernel
  have middle : (schedulerMachine.run { requestsReceived := fun _ => 0 }
      (unevenCalls ++ [(.dequeue, 1)])).map (fun state => (state.served,
        state.memory.findClientQueue 2 2,
        (state.memory.queues 20).map fun cell => cell.value.head)) =
      some ([⟨1, 0, [65]⟩], some (some 20), some (some 102)) := by decide +kernel
  have final : (schedulerMachine.run { requestsReceived := fun _ => 0 }
      (unevenCalls ++ [(.dequeue, 1)] ++ [(.dequeue, 1), (.dequeue, 1)])).map Scheduler.served =
        some [⟨1, 0, [65]⟩, ⟨2, 0, [67]⟩, ⟨1, 1, [66]⟩] := by decide +kernel
  obtain ⟨before, reached, none⟩ := Option.map_eq_some_iff.mp start
  obtain ⟨after, ran, same⟩ := Option.map_eq_some_iff.mp middle
  obtain ⟨last, all, served⟩ := Option.map_eq_some_iff.mp final
  obtain ⟨one, same⟩ := Prod.mk.inj same
  obtain ⟨found, head⟩ := Prod.mk.inj same
  obtain ⟨other, here, rest⟩ := Transition.Machine.run_append_some.mp all
  obtain rfl := Option.some.inj (ran.symm.trans here)
  obtain ⟨other, here, step⟩ := Transition.Machine.run_append_some.mp ran
  obtain rfl := Option.some.inj (reached.symm.trans here)
  obtain ⟨other, dequeued, same⟩ := Transition.Machine.run_cons_some.mp step
  cases same
  have waits : after.memory.HasRequests 2 := by
    obtain ⟨cell, there, some⟩ := Option.map_eq_some_iff.mp head
    exact ⟨2, 20, cell, found, there, by rw [some]; exact Option.some_ne_none _⟩
  have first : after.served = before.served ++ [⟨1, 0, [65]⟩] := by rw [one, none]; rfl
  have later : last.served = after.served ++ ([⟨2, 0, [67]⟩] ++ ⟨1, 1, [66]⟩ :: []) := by
    rw [served, one]
    rfl
  exact ⟨before, after, last, reached, dequeued, rest, later,
    round_robin_without_bypass reached dequeued first (by decide) waits (by decide) rest later rfl⟩

end AnimateService
