import AnimateService.Library.Allocation
import AnimateService.Scheduler

/-!
# What the pool allocates

In every run of calls the pool has one queue record allocated for each registered client and one
node for each request that waits, and nothing else. So `threadpool_destroy` destroys exactly the
requests that still wait, frees every record once, and leaves nothing allocated.
-/
namespace AnimateService

open Allocation

/-! ## The operations -/

section Operations

variable {memory next : PoolMemory} {count : Nat} {passes : Nat} {client : ClientId}

/-- A write to a queue allocates nothing. -/
theorem writeQueue_occupied {place : QueuePtr} {write : QueueCell → QueueCell}
    (wrote : memory.writeQueue place write = some next) (queues : Occupied memory.queues count) :
    Occupied next.queues count ∧ next.nodes = memory.nodes := by
  obtain ⟨cell, there, rfl⟩ := Option.map_eq_some_iff.mp wrote
  exact ⟨queues.write (by rw [there]; rfl) _, rfl⟩

/-- Neither does a write to a node. -/
theorem writeNode_occupied {place : NodePtr} {write : RequestNode → RequestNode}
    (wrote : memory.writeNode place write = some next) (nodes : Occupied memory.nodes count) :
    Occupied next.nodes count ∧ next.queues = memory.queues := by
  obtain ⟨cell, there, rfl⟩ := Option.map_eq_some_iff.mp wrote
  exact ⟨nodes.write (by rw [there]; rfl) _, rfl⟩

/-- A queue that is unlinked is still allocated. -/
theorem unlinkClientQueue_occupied {place : QueuePtr}
    (unlinked : memory.unlinkClientQueue place = some next)
    (queues : Occupied memory.queues count) :
    Occupied next.queues count ∧ next.nodes = memory.nodes := by
  simp only [PoolMemory.unlinkClientQueue, Option.bind_eq_bind, Option.bind_eq_some_iff] at unlinked
  obtain ⟨cell, -, rest⟩ := unlinked
  split at rest
  · obtain ⟨before, wrote, rest⟩ := Option.bind_eq_some_iff.mp rest
    obtain ⟨first, kept⟩ := writeQueue_occupied wrote queues
    split at rest
    · obtain ⟨after, rewrote, rest⟩ := Option.bind_eq_some_iff.mp rest
      obtain ⟨second, too⟩ := writeQueue_occupied rewrote first
      split at rest <;> cases rest <;> exact ⟨second, too.trans kept⟩
    · rw [Option.bind_some] at rest
      split at rest <;> cases rest <;> exact ⟨first, kept⟩
  · rw [Option.bind_some] at rest
    split at rest
    · obtain ⟨after, rewrote, rest⟩ := Option.bind_eq_some_iff.mp rest
      obtain ⟨second, too⟩ := writeQueue_occupied rewrote queues
      split at rest <;> cases rest <;> exact ⟨second, too⟩
    · rw [Option.bind_some] at rest
      split at rest <;> cases rest <;> exact ⟨queues, rfl⟩

/-- A new queue is allocated. -/
theorem registerClient_occupied {place : QueuePtr} (free : memory.queues place = none)
    (registered : memory.threadpoolRegisterClient client (some place) passes = some (.ok (), next))
    (queues : Occupied memory.queues count) :
    Occupied next.queues (count + 1) ∧ next.nodes = memory.nodes := by
  simp only [PoolMemory.threadpoolRegisterClient, Option.bind_eq_bind,
    Option.bind_eq_some_iff] at registered
  obtain ⟨found, -, made⟩ := registered
  split at made
  · cases made
  · have added := queues.allocate free ⟨{ client }, memory.clientsTail, none⟩
    split at made
    · obtain ⟨linked, wrote, same⟩ := Option.bind_eq_some_iff.mp made
      cases same
      obtain ⟨more, kept⟩ := writeQueue_occupied wrote added
      exact ⟨more, kept⟩
    · cases made
      exact ⟨added, rfl⟩

/-- The node of a request that is dequeued is freed. -/
theorem dequeueFrom_occupied {start place : QueuePtr} {request : Request}
    (dequeued : memory.dequeueFrom start passes place = some (some request, next))
    (queues : Occupied memory.queues count) {nodes : Nat} (held : Occupied memory.nodes nodes) :
    Occupied next.queues count ∧ Occupied next.nodes (nodes - 1) := by
  induction passes generalizing place with
  | zero => cases dequeued
  | succ passes ih =>
    rw [PoolMemory.dequeueFrom] at dequeued
    split at dequeued
    · rename_i cell there
      split at dequeued
      · rename_i head active here
        obtain ⟨node, found, same⟩ := Option.map_eq_some_iff.mp dequeued
        cases same
        exact ⟨queues.write (by rw [there]; rfl) _, held.free (by rw [found]; rfl)⟩
      · split at dequeued
        · split at dequeued
          · cases dequeued
          · exact ih dequeued
        · cases dequeued
    · cases dequeued

/-- A queue's nodes are freed with its requests. -/
theorem destroyRequests_occupied {start : Option NodePtr} {requests : List Request}
    (destroyed : memory.destroyRequests passes start = some (requests, next)) {nodes : Nat}
    (held : Occupied memory.nodes nodes) :
    Occupied next.nodes (nodes - requests.length) ∧ next.queues = memory.queues := by
  induction passes generalizing memory start requests nodes with
  | zero =>
    cases start with
    | none =>
      cases destroyed
      exact ⟨held, rfl⟩
    | some place => cases destroyed
  | succ passes ih =>
    cases start with
    | none =>
      cases destroyed
      exact ⟨held, rfl⟩
    | some place =>
      rw [PoolMemory.destroyRequests] at destroyed
      split at destroyed
      · rename_i cell there
        obtain ⟨⟨later, left⟩, rest, same⟩ := Option.map_eq_some_iff.mp destroyed
        cases same
        obtain ⟨freed, kept⟩ := ih rest (held.free (by rw [there]; rfl))
        refine ⟨?_, kept⟩
        rw [List.length_cons, Nat.add_comm, ← Nat.sub_sub]
        exact freed
      · cases destroyed

/-- An accepted request gets a node. -/
theorem submit_occupied {disconnected : Bool} {requestsReceived : Nat} {rpcLine : Bytes}
    {place : NodePtr} (free : memory.nodes place = none)
    (submitted : memory.threadpoolSubmit client disconnected requestsReceived rpcLine (some place)
      passes = some (.ok (), next)) (queues : Occupied memory.queues count) {nodes : Nat}
    (held : Occupied memory.nodes nodes) :
    Occupied next.queues count ∧ Occupied next.nodes (nodes + 1) := by
  unfold PoolMemory.threadpoolSubmit at submitted
  dsimp only at submitted
  split at submitted
  · cases submitted
  · simp only [Option.bind_eq_bind, Option.bind_eq_some_iff] at submitted
    obtain ⟨found, -, chosen⟩ := submitted
    split at chosen
    · cases chosen
    · obtain ⟨cell, -, made⟩ := Option.bind_eq_some_iff.mp chosen
      split at made
      · cases made
      · have added := held.allocate free ⟨{ client, seqNum := requestsReceived, rpcLine }, none⟩
        split at made
        · obtain ⟨linked, wrote, rest⟩ := Option.bind_eq_some_iff.mp made
          obtain ⟨counted, rewrote, same⟩ := Option.bind_eq_some_iff.mp rest
          cases same
          obtain ⟨more, kept⟩ := writeNode_occupied wrote added
          obtain ⟨still, too⟩ := writeQueue_occupied rewrote (kept ▸ queues)
          exact ⟨still, too ▸ more⟩
        · obtain ⟨linked, wrote, rest⟩ := Option.bind_eq_some_iff.mp made
          obtain ⟨counted, rewrote, same⟩ := Option.bind_eq_some_iff.mp rest
          cases same
          obtain ⟨more, kept⟩ := writeQueue_occupied wrote queues
          obtain ⟨still, too⟩ := writeQueue_occupied rewrote more
          exact ⟨still, too ▸ kept ▸ added⟩

/-- A removed client's queue is freed with its nodes. -/
theorem removeClient_occupied {place : QueuePtr} {requests : List Request}
    (found : memory.findClientQueue client passes = some (some place))
    (removed : memory.threadpoolRemoveClient client passes = some (requests, next))
    (queues : Occupied memory.queues count) {nodes : Nat} (held : Occupied memory.nodes nodes) :
    Occupied next.queues (count - 1) ∧ Occupied next.nodes (nodes - requests.length) := by
  simp only [PoolMemory.threadpoolRemoveClient, found, Option.bind_eq_bind, Option.bind_some,
    Option.bind_eq_some_iff] at removed
  obtain ⟨unlinked, taken, cell, there, ⟨destroyed, emptied⟩, freed, same⟩ := removed
  cases same
  obtain ⟨still, kept⟩ := unlinkClientQueue_occupied taken queues
  obtain ⟨fewer, too⟩ := destroyRequests_occupied freed (kept ▸ held)
  refine ⟨?_, fewer⟩
  rw [too]
  exact still.free (by rw [there]; rfl)

/-- A request that is dequeued leaves the queues allocated and frees its node. -/
theorem dequeueFairRequest_occupied {request : Request}
    (dequeued : memory.dequeueFairRequest passes = some (some request, next))
    (queues : Occupied memory.queues count) {nodes : Nat} (held : Occupied memory.nodes nodes) :
    Occupied next.queues count ∧ Occupied next.nodes (nodes - 1) := by
  unfold PoolMemory.dequeueFairRequest at dequeued
  split at dequeued
  · cases dequeued
  · split at dequeued
    · exact dequeueFrom_occupied dequeued queues held
    · cases dequeued

end Operations

/-! ## Runs -/

/-- One queue record is allocated for each client and one node for each waiting request. -/
structure Footprint (memory : PoolMemory) (pool : Pool) : Prop where
  /-- The queue records. -/
  queues : Occupied memory.queues pool.clients.length
  /-- The nodes. -/
  nodes : Occupied memory.nodes pool.pendingRequests

section Runs

variable {memory after : PoolMemory} {pool next : Pool} {client : ClientId} {passes : Nat}

/-- A removed queue is one less. -/
theorem length_remove (formed : pool.WellFormed) {queue : ClientQueue}
    (found : findClientQueue pool client = some queue) :
    (threadpoolRemoveClient pool client).clients.length = pool.clients.length - 1 ∧
      (threadpoolRemoveClient pool client).pendingRequests =
        pool.pendingRequests - (pool.queued client).length := by
  obtain ⟨member, rfl⟩ := findClientQueue_some found
  obtain ⟨front, back, clients⟩ := List.append_of_mem member
  obtain ⟨before, behind⟩ := formed.others clients
  have left : front.filter (fun other => other.client ≠ queue.client) = front :=
    List.filter_eq_self.mpr fun other there => decide_eq_true (before other there)
  have right : back.filter (fun other => other.client ≠ queue.client) = back :=
    List.filter_eq_self.mpr fun other there => decide_eq_true (behind other there)
  rw [formed.queued_eq member]
  simp only [threadpoolRemoveClient, found, clients, List.filter_append, List.filter_cons, left,
    right, ne_eq, not_true_eq_false, decide_false, Bool.false_eq_true, ↓reduceIte,
    List.length_append, List.length_cons, and_true]
  omega

/-- Every call keeps the footprint. -/
theorem Footprint.call (footprint : Footprint memory pool) (represents : Represents memory pool)
    {requestsReceived : ClientId → Nat} {call : PoolCall} {outcome : PoolOutcome}
    (fresh : call.fresh memory = true)
    (called : memory.call requestsReceived call passes = some (outcome, after)) :
    Footprint after (pool.call requestsReceived call).2 := by
  -- with more passes the call does the same
  have more : ∀ extra, memory.call requestsReceived call (passes + extra) = some (outcome, after) :=
    fun extra => PoolMemory.call_more called (Nat.le_add_right passes extra)
  cases call with
  | register client queue =>
    cases queue with
    | none =>
      cases called
      exact footprint
    | some place =>
      have free : memory.queues place = none := by simpa [PoolCall.fresh] using fresh
      have registered := @Represents.register _ _ represents client (some place)
        (by rintro other ⟨⟩; exact free) _ (Nat.le_add_left pool.clients.length passes)
      replace more := more pool.clients.length
      rw [Option.isSome_some] at registered
      simp only [Pool.call, Option.isSome_some]
      cases made : threadpoolRegisterClient pool client true with
      | error error =>
        rw [made] at registered
        simp only [PoolMemory.call, registered, Option.map_some, Option.some.injEq,
          Prod.mk.injEq] at more
        exact more.2 ▸ footprint
      | ok next =>
        rw [made] at registered
        obtain ⟨added, returned, -⟩ := registered
        simp only [PoolMemory.call, returned, Option.map_some, Option.some.injEq,
          Prod.mk.injEq] at more
        obtain ⟨-, rfl⟩ := more
        obtain ⟨queues, kept⟩ := registerClient_occupied free returned footprint.queues
        obtain ⟨-, rfl⟩ := threadpoolRegisterClient_ok made
        refine ⟨?_, kept ▸ footprint.nodes⟩
        rw [List.length_append, List.length_singleton]
        exact queues
  | remove client =>
    obtain ⟨⟨requests, left⟩, removed, same⟩ := Option.map_eq_some_iff.mp
      (more (pool.clients.length + (pool.queued client).length))
    cases same
    have clientsFit : pool.clients.length ≤
        passes + (pool.clients.length + (pool.queued client).length) := by omega
    obtain ⟨removed_left, returned, -⟩ := represents.remove client clientsFit (by omega)
    cases returned.symm.trans removed
    obtain ⟨formed, layout, laid⟩ := represents
    simp only [Pool.call]
    rcases laid.find client clientsFit with
      ⟨found, missing, -⟩ | ⟨front, queue, back, rfl, rfl, found, there⟩
    · simp only [PoolMemory.threadpoolRemoveClient, found, Option.bind_eq_bind, Option.bind_some,
        Option.some.injEq, Prod.mk.injEq] at removed
      rw [threadpoolRemoveClient, missing, ← removed.2]
      exact footprint
    · obtain ⟨queues, nodes⟩ := removeClient_occupied found removed footprint.queues footprint.nodes
      obtain ⟨fewer, unpending⟩ := length_remove formed there
      exact ⟨fewer ▸ queues, unpending ▸ nodes⟩
  | submit client disconnected rpcLine node =>
    cases node with
    | none =>
      cases called
      exact footprint
    | some place =>
      have free : memory.nodes place = none := by simpa [PoolCall.fresh] using fresh
      have submitted := @Represents.submit _ _ represents client disconnected
        (requestsReceived client) rpcLine (some place) (by rintro other ⟨⟩; exact free) _
        (Nat.le_add_left pool.clients.length passes)
      replace more := more pool.clients.length
      rw [Option.isSome_some] at submitted
      simp only [Pool.call, Option.isSome_some]
      cases made : threadpoolSubmit pool client disconnected (requestsReceived client) rpcLine
          true with
      | error error =>
        rw [made] at submitted
        simp only [PoolMemory.call, submitted, Option.map_some, Option.some.injEq,
          Prod.mk.injEq] at more
        exact more.2 ▸ footprint
      | ok next =>
        rw [made] at submitted
        obtain ⟨added, returned, -⟩ := submitted
        simp only [PoolMemory.call, returned, Option.map_some, Option.some.injEq,
          Prod.mk.injEq] at more
        obtain ⟨-, rfl⟩ := more
        obtain ⟨queues, nodes⟩ :=
          submit_occupied free returned footprint.queues footprint.nodes
        obtain ⟨-, -, -, rfl⟩ := threadpoolSubmit_ok made
        refine ⟨?_, nodes⟩
        rw [Pool.updateQueue, List.length_map]
        exact queues
  | dequeue =>
    have dequeued := represents.dequeue (Nat.le_add_left pool.clients.length passes)
    replace more := more pool.clients.length
    simp only [Pool.call]
    cases made : dequeueFairRequest pool with
    | none =>
      rw [made] at dequeued
      simp only [PoolMemory.call, dequeued.1, Option.map_some, Option.some.injEq,
        Prod.mk.injEq] at more
      exact more.2 ▸ footprint
    | some result =>
      obtain ⟨request, next⟩ := result
      rw [made] at dequeued
      obtain ⟨left, returned, -⟩ := dequeued
      simp only [PoolMemory.call, returned, Option.map_some, Option.some.injEq,
        Prod.mk.injEq] at more
      obtain ⟨-, rfl⟩ := more
      obtain ⟨queues, nodes⟩ :=
        dequeueFairRequest_occupied returned footprint.queues footprint.nodes
      obtain ⟨queue, rest, -, -, -, rfl⟩ := dequeueFairRequest_some made
      refine ⟨?_, nodes⟩
      rw [Pool.updateQueue, List.length_map]
      exact queues
  | shutDown =>
    cases called
    exact ⟨footprint.queues, footprint.nodes⟩

/-- Every call of a scheduler keeps the footprint. -/
theorem Footprint.step {state after : Scheduler} {call : PoolCall} {outcome : PoolOutcome}
    (footprint : Footprint state.memory pool) (holds : state.Holds pool)
    (called : state.call call passes = some (outcome, after)) :
    Footprint after.memory (pool.call state.requestsReceived call).2 := by
  obtain ⟨fresh, called⟩ := Option.ite_none_right_eq_some.mp called
  obtain ⟨result, returned, same⟩ := Option.map_eq_some_iff.mp called
  cases same
  exact footprint.call holds.represents fresh returned

/-- Before the first call nothing is allocated. -/
theorem footprint_start : Footprint {} {} := ⟨occupied_empty, occupied_empty⟩

end Runs

/-! ## The end of the pool -/

section Destroy

variable {memory : PoolMemory} {pool : Pool} {layout : List QueueLayout}

/-- The loop over the nodes of a queue destroys their requests and frees them. -/
theorem freeNodes_walk (memory : PoolMemory) {items : List (NodePtr × Request)}
    (chain : Links.Chain memory.nodes none items) (distinct : (items.map Prod.fst).Nodup)
    {passes : Nat} (enough : items.length ≤ passes) :
    ∃ nodes, memory.freeNodes passes (Links.first items none) =
        some (items.map Prod.snd, { memory with nodes }) ∧
      (∀ place ∈ items.map Prod.fst, nodes place = none) ∧
      ∀ place, place ∉ items.map Prod.fst → nodes place = memory.nodes place := by
  induction items generalizing memory passes with
  | nil => exact ⟨memory.nodes, by cases passes <;> rfl, by simp, fun _ _ => rfl⟩
  | cons item items ih =>
    obtain ⟨passes, rfl⟩ : ∃ less, passes = less + 1 := ⟨passes - 1, by simp at enough; omega⟩
    obtain ⟨there, rest⟩ := chain
    rw [List.map_cons, List.nodup_cons] at distinct
    have kept : Links.Chain (Function.update memory.nodes item.1 none) none items := by
      refine rest.congr fun place inside => Function.update_of_ne ?_ _ _
      rintro rfl
      exact distinct.1 inside
    obtain ⟨nodes, destroyed, freed, elsewhere⟩ := ih
      { memory with nodes := Function.update memory.nodes item.1 none } kept distinct.2
      (Nat.le_of_succ_le_succ enough)
    refine ⟨nodes, ?_, fun place inside => ?_, fun place outside => ?_⟩
    · rw [Links.first_cons]
      simp only [PoolMemory.freeNodes, there, destroyed, Option.map_some]
      rfl
    · rcases List.mem_cons.mp inside with rfl | later
      · exact (elsewhere _ distinct.1).trans (Function.update_self ..)
      · exact freed place later
    · rw [List.map_cons, List.mem_cons, not_or] at outside
      rw [elsewhere place outside.2]
      exact Function.update_of_ne outside.1 _ _

/-- The loop over the queues destroys all requests and frees all records of the layout. -/
theorem freeQueues_walk (memory : PoolMemory) {before : Option QueuePtr}
    (segment : Links.Segment memory.queues none before (layout.map QueueLayout.record))
    (places : (layout.map QueueLayout.place).Nodup)
    (chains : ∀ queue ∈ layout, Links.Chain memory.nodes none queue.nodes)
    (distinct : ((layout.flatMap QueueLayout.nodes).map Prod.fst).Nodup)
    {passes nodePasses : Nat} (enough : layout.length ≤ passes)
    (many : (layout.flatMap QueueLayout.nodes).length ≤ nodePasses) :
    ∃ queues nodes, memory.freeQueues nodePasses passes
          (Links.first (layout.map QueueLayout.record) none) =
        some ((layout.flatMap QueueLayout.nodes).map Prod.snd, { memory with queues, nodes }) ∧
      (∀ place ∈ layout.map QueueLayout.place, queues place = none) ∧
      (∀ place ∈ (layout.flatMap QueueLayout.nodes).map Prod.fst, nodes place = none) ∧
      (∀ place, place ∉ layout.map QueueLayout.place → queues place = memory.queues place) ∧
      ∀ place, place ∉ (layout.flatMap QueueLayout.nodes).map Prod.fst →
        nodes place = memory.nodes place := by
  induction layout generalizing memory before passes with
  | nil =>
    refine ⟨memory.queues, memory.nodes, by cases passes <;> rfl, by simp, by simp, ?_, ?_⟩
    · exact fun _ _ => rfl
    · exact fun _ _ => rfl
  | cons queue layout ih =>
    obtain ⟨passes, rfl⟩ : ∃ less, passes = less + 1 := ⟨passes - 1, by simp at enough; omega⟩
    obtain ⟨there, rest⟩ := segment
    rw [List.map_cons, List.nodup_cons] at places
    rw [List.flatMap_cons, List.map_append] at distinct
    rw [List.flatMap_cons, List.length_append] at many
    obtain ⟨ownDistinct, laterDistinct, apart⟩ := List.nodup_append.mp distinct
    have ownFit : queue.nodes.length ≤ nodePasses := by omega
    obtain ⟨nodes, destroyed, freed, elsewhere⟩ := freeNodes_walk memory
      (chains queue List.mem_cons_self) ownDistinct ownFit
    -- the other queues and their nodes are where they were
    have segment : Links.Segment (Function.update memory.queues queue.place none) none
        (some queue.place) (layout.map QueueLayout.record) := by
      refine rest.congr fun place inside => Function.update_of_ne ?_ _ _
      rintro rfl
      exact places.1 (map_record_fst ▸ inside)
    have unchanged : ∀ other ∈ layout, Links.Chain nodes none other.nodes := by
      intro other member
      refine (chains other (List.mem_cons_of_mem _ member)).congr fun place inside => ?_
      refine elsewhere place fun own => apart place own place ?_ rfl
      obtain ⟨node, within, rfl⟩ := List.mem_map.mp inside
      exact List.mem_map_of_mem (List.mem_flatMap.mpr ⟨other, member, within⟩)
    obtain ⟨queues, left, finished, queuesFreed, nodesFreed, queuesKept, nodesKept⟩ := ih
      { memory with queues := Function.update memory.queues queue.place none, nodes }
      segment places.2 unchanged laterDistinct (Nat.le_of_succ_le_succ enough) (by omega)
    refine ⟨queues, left, ?_, ?_, ?_, ?_, ?_⟩
    · have cell : memory.queues queue.place = some ⟨queue.fields, before,
          Links.first (layout.map QueueLayout.record) none⟩ := there
      have emptied : memory.freeNodes nodePasses queue.fields.head =
          some (queue.nodes.map Prod.snd, { memory with nodes }) := destroyed
      rw [List.map_cons, Links.first_cons, List.flatMap_cons, List.map_append]
      change memory.freeQueues nodePasses (passes + 1) (some queue.place) = _
      simp only [PoolMemory.freeQueues, cell, emptied, finished, Option.bind_eq_bind,
        Option.bind_some]
    · intro place inside
      rcases List.mem_cons.mp inside with rfl | later
      · rw [queuesKept _ places.1]
        exact Function.update_self ..
      · exact queuesFreed place later
    · intro place inside
      rw [List.flatMap_cons, List.map_append, List.mem_append] at inside
      by_cases later : place ∈ (layout.flatMap QueueLayout.nodes).map Prod.fst
      · exact nodesFreed place later
      · rw [nodesKept place later]
        exact freed place (inside.resolve_right later)
    · intro place outside
      rw [List.map_cons, List.mem_cons, not_or] at outside
      rw [queuesKept place outside.2]
      exact Function.update_of_ne outside.1 _ _
    · intro place outside
      rw [List.flatMap_cons, List.map_append, List.mem_append, not_or] at outside
      rw [nodesKept place outside.2]
      exact elsewhere place outside.1

/-- `threadpool_destroy` destroys the requests that wait, and leaves nothing allocated. -/
theorem Footprint.destroy (footprint : Footprint memory pool) (represents : Represents memory pool) :
    ∃ bound, ∀ passes ≥ bound, ∃ left, memory.threadpoolDestroy passes = some (pool.waiting, left) ∧
      left.queues = (fun _ => none) ∧ left.nodes = fun _ => none := by
  obtain ⟨formed, layout, laid⟩ := represents
  refine ⟨layout.length + (layout.flatMap QueueLayout.nodes).length, fun passes enough => ?_⟩
  have queuesFit : layout.length ≤ passes := by omega
  have nodesFit : (layout.flatMap QueueLayout.nodes).length ≤ passes := by omega
  obtain ⟨queues, nodes, finished, queuesFreed, nodesFreed, queuesKept, nodesKept⟩ :=
    freeQueues_walk memory laid.queues laid.places laid.chains laid.nodes queuesFit nodesFit
  have waiting : (layout.flatMap QueueLayout.nodes).map Prod.snd = pool.waiting := by
    rw [Pool.waiting, laid.clients, List.map_flatMap, List.flatMap_map]
    rfl
  rw [← laid.head, waiting] at finished
  refine ⟨{ memory with queues, nodes }, finished, ?_, ?_⟩
  · funext place
    by_cases inside : place ∈ layout.map QueueLayout.place
    · exact queuesFreed place inside
    · refine (queuesKept place inside).trans ?_
      by_contra there
      refine inside (footprint.queues.named ?_ laid.places ?_ (Option.isSome_iff_ne_none.mpr there))
      · intro other member
        obtain ⟨queue, listed, rfl⟩ := List.mem_map.mp member
        obtain ⟨front, back, rfl⟩ := List.append_of_mem listed
        rw [laid.at]
        rfl
      · rw [laid.clients, List.length_map, List.length_map]
  · funext place
    by_cases inside : place ∈ (layout.flatMap QueueLayout.nodes).map Prod.fst
    · exact nodesFreed place inside
    · refine (nodesKept place inside).trans ?_
      by_contra there
      refine inside (footprint.nodes.named ?_ laid.nodes ?_ (Option.isSome_iff_ne_none.mpr there))
      · intro other member
        obtain ⟨item, listed, rfl⟩ := List.mem_map.mp member
        obtain ⟨queue, known, within⟩ := List.mem_flatMap.mp listed
        exact chain_some (laid.chains queue known) (List.mem_map_of_mem within)
      · rw [List.length_map, laid.counted, laid.pending]

/-- An allocated queue record is the one that is found for its client. -/
theorem Footprint.found (footprint : Footprint memory pool) (represents : Represents memory pool)
    {place : QueuePtr} {cell : QueueCell} (there : memory.queues place = some cell) {passes : Nat}
    (enough : pool.clients.length ≤ passes) :
    memory.findClientQueue cell.value.client passes = some (some place) := by
  obtain ⟨formed, layout, laid⟩ := represents
  have inside : place ∈ layout.map QueueLayout.place := by
    refine footprint.queues.named ?_ laid.places ?_ (by rw [there]; rfl)
    · intro other member
      obtain ⟨queue, listed, rfl⟩ := List.mem_map.mp member
      obtain ⟨front, back, rfl⟩ := List.append_of_mem listed
      rw [laid.at]
      rfl
    · rw [laid.clients, List.length_map, List.length_map]
  obtain ⟨queue, member, rfl⟩ := List.mem_map.mp inside
  have client : cell.value.client = queue.client := by
    obtain ⟨front, back, rfl⟩ := List.append_of_mem member
    rw [laid.at] at there
    cases there
    rfl
  rw [client]
  rcases laid.find queue.client enough with ⟨-, -, none⟩ |
    ⟨front, other, back, rfl, same, found, -⟩
  · exact absurd rfl (none queue member)
  · obtain ⟨before, behind⟩ := laid.others formed
    rcases List.mem_append.mp member with early | late
    · exact absurd same.symm (before queue early)
    · rcases List.mem_cons.mp late with rfl | later
      · exact found
      · exact absurd same.symm (behind queue later)

end Destroy

/-- The requests that wait are different ones. -/
theorem Scheduler.Fates.waiting_nodup {state : Scheduler} {pool : Pool} (fates : state.Fates pool)
    (formed : pool.WellFormed) : pool.waiting.Nodup := by
  refine List.nodup_flatMap.mpr ⟨fun queue member => ?_, ?_⟩
  · have once : (requestsOf queue.client state.accepted).Nodup := fates.accepted.filter _
    have kept := once.sublist (fates.order queue.client)
    rw [formed.queued_eq member] at kept
    exact (List.nodup_append.mp kept).2.1
  · refine (List.pairwise_map.mp formed.distinct).imp_of_mem ?_
    intro first second here there apart request inside within
    rw [← formed.owned first here request inside] at apart
    exact apart (formed.owned second there request within)

/-- Together with what was dequeued and destroyed before, the requests that wait are those that were
accepted. -/
theorem Scheduler.Holds.accounted {state : Scheduler} {pool : Pool} (holds : state.Holds pool) :
    (state.served ++ state.discarded ++ pool.waiting).Perm state.accepted := by
  have fates := holds.fates
  have formed := holds.represents.1
  have distinct : (state.served ++ state.discarded ++ pool.waiting).Nodup := by
    refine List.nodup_append.mpr ⟨fates.once, fates.waiting_nodup formed, ?_⟩
    rintro request gone other waits rfl
    obtain ⟨unserved, undiscarded⟩ :=
      fates.waits _ request (formed.mem_queued.mpr ⟨waits, rfl⟩)
    exact (List.mem_append.mp gone).elim unserved undiscarded
  refine (List.perm_ext_iff_of_nodup distinct fates.accepted).mpr fun request => ?_
  rw [fates.fate, formed.mem_queued, List.mem_append, List.mem_append]
  simp only [and_true]
  tauto

/-- The pool leaks nothing. In every run of calls a queue record is allocated only while
`find_client_queue` finds it for its client, and as many nodes are allocated as requests are pending.
Whenever `threadpool_destroy` is called, its loops end, and nothing is left allocated; the requests
that it destroys are those that were accepted and neither dequeued nor destroyed before. -/
theorem pool_leaks_nothing {requestsReceived : ClientId → Nat} {calls : List (PoolCall × Nat)}
    {state : Scheduler}
    (ran : schedulerMachine.run { requestsReceived := requestsReceived } calls = some state) :
    (∃ bound, ∀ passes ≥ bound, ∀ place cell, state.memory.queues place = some cell →
      state.memory.findClientQueue cell.value.client passes = some (some place)) ∧
    Occupied state.memory.nodes state.memory.pendingRequests ∧
    ∃ bound, ∀ passes ≥ bound, ∃ requests left,
      state.memory.threadpoolDestroy passes = some (requests, left) ∧
      left.queues = (fun _ => none) ∧ left.nodes = (fun _ => none) ∧
      (state.served ++ state.discarded ++ requests).Perm state.accepted := by
  have kept : ∀ state label next, (∃ pool, Scheduler.Holds state pool ∧ Footprint state.memory pool) →
      schedulerMachine.step state label = some next →
      ∃ pool, next.Holds pool ∧ Footprint next.memory pool := by
    rintro state label next ⟨pool, holds, footprint⟩ stepped
    obtain ⟨⟨outcome, after⟩, called, rfl⟩ := Option.map_eq_some_iff.mp stepped
    exact ⟨_, (holds.call called).2.2, footprint.step holds called⟩
  obtain ⟨pool, holds, footprint⟩ := Transition.Machine.run_invariant kept
    ⟨{}, Scheduler.holds_start requestsReceived, footprint_start⟩ ran
  refine ⟨⟨pool.clients.length, fun passes enough place cell there =>
    footprint.found holds.represents there enough⟩, ?_, ?_⟩
  · obtain ⟨-, layout, laid⟩ := holds.represents
    exact laid.counted ▸ footprint.nodes
  · obtain ⟨bound, destroyed⟩ := footprint.destroy holds.represents
    refine ⟨bound, fun passes enough => ?_⟩
    obtain ⟨left, returned, queues, nodes⟩ := destroyed passes enough
    exact ⟨pool.waiting, left, returned, queues, nodes, holds.accounted⟩

/-- A client with two requests, of which one is dequeued. -/
def oneLeftCalls : List (PoolCall × Nat) :=
  [(.register 1 (some 10), 0), (.submit 1 false [65] (some 100), 1),
    (.submit 1 false [66] (some 101), 1), (.dequeue, 1)]

/-- The end of the pool destroys the other one. -/
theorem pool_leaks_nothing_oneLeft : ∃ state passes requests left,
    schedulerMachine.run { requestsReceived := fun _ => 0 } oneLeftCalls = some state ∧
      state.memory.threadpoolDestroy passes = some (requests, left) ∧
      (([⟨1, 0, [65]⟩] : List Request) ++ requests).Perm [⟨1, 0, [65]⟩, ⟨1, 1, [66]⟩] ∧
      left.nodes = fun _ => none := by
  have evaluated : (schedulerMachine.run { requestsReceived := fun _ => 0 } oneLeftCalls).map
      (fun state => (state.served, state.discarded, state.accepted)) =
        some ([⟨1, 0, [65]⟩], [], [⟨1, 0, [65]⟩, ⟨1, 1, [66]⟩]) := by decide +kernel
  obtain ⟨state, ran, same⟩ := Option.map_eq_some_iff.mp evaluated
  obtain ⟨served, others⟩ := Prod.mk.inj same
  obtain ⟨discarded, accepted⟩ := Prod.mk.inj others
  obtain ⟨-, -, bound, destroyed⟩ := pool_leaks_nothing ran
  obtain ⟨requests, left, returned, -, nodes, all⟩ := destroyed bound (le_refl _)
  rw [served, discarded, accepted, List.append_nil] at all
  exact ⟨state, bound, requests, left, ran, returned, all, nodes⟩

end AnimateService
