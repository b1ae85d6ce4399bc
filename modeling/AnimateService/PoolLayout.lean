import AnimateService.PoolMemory

/-!
# What the pool's memory stands for

A layout lists the queues in memory with their addresses, clients and request nodes. A memory
represents a pool if it has a layout of it: the queues are a doubly linked list, the requests of
each a linked list, and every pointer and counter is the one of the layout. Each operation finds
its result in a bounded number of passes and represents what the operation on lists makes.
-/
namespace AnimateService

/-- A client queue in memory. -/
structure QueueLayout where
  /-- Where it is. -/
  place : QueuePtr
  /-- Its client. -/
  client : ClientId
  /-- Where its request nodes are, and their requests. -/
  nodes : List (NodePtr × Request) := []

namespace QueueLayout

/-- The fields of the queue. -/
def fields (queue : QueueLayout) : QueueFields :=
  { client := queue.client
    head := Links.first queue.nodes none
    tail := Links.last none queue.nodes
    queuedCount := queue.nodes.length }

/-- The queue as an element of the doubly linked list. -/
def record (queue : QueueLayout) : QueuePtr × QueueFields := (queue.place, queue.fields)

/-- The queue as a list. -/
def queue (queue : QueueLayout) : ClientQueue :=
  { client := queue.client
    requests := queue.nodes.map Prod.snd
    queuedCount := queue.nodes.length }

/-- The client of the queue. -/
@[simp] theorem queue_client (queue : QueueLayout) : queue.queue.client = queue.client := rfl

end QueueLayout

variable {memory : PoolMemory} {pool : Pool} {layout front back : List QueueLayout}
  {queue : QueueLayout}

/-- A pool in memory. -/
structure Laid (memory : PoolMemory) (pool : Pool) (layout : List QueueLayout) : Prop where
  /-- The queues are a doubly linked list. -/
  queues : Links.Segment memory.queues none none (layout.map QueueLayout.record)
  /-- Each is somewhere else. -/
  places : (layout.map QueueLayout.place).Nodup
  /-- The requests of each are a linked list. -/
  chains : ∀ queue ∈ layout, Links.Chain memory.nodes none queue.nodes
  /-- Each node is somewhere else. -/
  nodes : ((layout.flatMap QueueLayout.nodes).map Prod.fst).Nodup
  /-- `clients_head` is the first queue. -/
  head : memory.clientsHead = Links.first (layout.map QueueLayout.record) none
  /-- `clients_tail` is the last queue. -/
  tail : memory.clientsTail = Links.last none (layout.map QueueLayout.record)
  /-- `next_client` is one of the queues, and `NULL` if there is none. -/
  cursor : (layout = [] ∧ memory.nextClient = none ∧ pool.nextClient = none) ∨
    ∃ queue ∈ layout, memory.nextClient = some queue.place ∧ pool.nextClient = some queue.client
  /-- `pending_requests` counts the requests. -/
  pending : memory.pendingRequests = (layout.flatMap QueueLayout.nodes).length
  /-- The pool has the clients of the layout. -/
  clients : pool.clients = layout.map QueueLayout.queue
  /-- The pool has the same counter. -/
  counted : pool.pendingRequests = memory.pendingRequests
  /-- The pool is shut down if the memory says so. -/
  closing : pool.shuttingDown = memory.shuttingDown

/-- A memory in which a well formed pool is laid out. -/
def Represents (memory : PoolMemory) (pool : Pool) : Prop :=
  pool.WellFormed ∧ ∃ layout, Laid memory pool layout

/-- The pool that `threadpool_create` makes. -/
theorem represents_empty : Represents {} {} :=
  ⟨Pool.wellFormed_empty, [], trivial, List.nodup_nil, by simp, List.nodup_nil, rfl, rfl,
    .inl ⟨rfl, rfl, rfl⟩, rfl, rfl, rfl, rfl⟩

/-! ## Addresses -/

/-- The addresses of the list are the places of its queues. -/
@[simp] theorem map_record_fst :
    (layout.map QueueLayout.record).map Prod.fst = layout.map QueueLayout.place := by
  rw [List.map_map]
  rfl

/-- The address of the first queue. -/
theorem first_record (after : Option QueuePtr) :
    Links.first (layout.map QueueLayout.record) after =
      ((layout.map QueueLayout.place).head?).or after := by
  cases layout <;> rfl

/-- The address of the last queue. -/
theorem last_record (before : Option QueuePtr) :
    Links.last before (layout.map QueueLayout.record) =
      ((layout.map QueueLayout.place).getLast?).or before := by
  rw [Links.last, List.getLast?_map, List.getLast?_map, Option.map_map]
  rfl

/-- What is at the place of a queue. -/
theorem Laid.at (laid : Laid memory pool (front ++ queue :: back)) :
    memory.queues queue.place = some ⟨queue.fields,
      Links.last none (front.map QueueLayout.record),
      Links.first (back.map QueueLayout.record) none⟩ := by
  have segment := laid.queues
  rw [List.map_append, List.map_cons] at segment
  exact segment.at

/-- A place that is free has none of the queues. -/
theorem Laid.fresh_queue (laid : Laid memory pool layout) {place : QueuePtr}
    (free : memory.queues place = none) : place ∉ layout.map QueueLayout.place := by
  intro inside
  obtain ⟨queue, member, rfl⟩ := List.mem_map.mp inside
  obtain ⟨front, back, rfl⟩ := List.append_of_mem member
  rw [laid.at] at free
  cases free

/-- What is at the place of a node is a record. -/
theorem chain_some {nodes : NodePtr → Option RequestNode} {after : Option NodePtr}
    {items : List (NodePtr × Request)} (chain : Links.Chain nodes after items) {place : NodePtr}
    (inside : place ∈ items.map Prod.fst) : (nodes place).isSome := by
  obtain ⟨item, member, rfl⟩ := List.mem_map.mp inside
  obtain ⟨front, back, rfl⟩ := List.append_of_mem member
  simp [(Links.chain_append.mp chain).2.1]

/-- A place that is free has none of the nodes. -/
theorem Laid.fresh_node (laid : Laid memory pool layout) {place : NodePtr}
    (free : memory.nodes place = none) :
    place ∉ (layout.flatMap QueueLayout.nodes).map Prod.fst := by
  intro inside
  obtain ⟨item, member, rfl⟩ := List.mem_map.mp inside
  obtain ⟨queue, there, within⟩ := List.mem_flatMap.mp member
  have taken := chain_some (laid.chains queue there) (List.mem_map_of_mem within)
  rw [free] at taken
  cases taken

/-! ## A client's queue among the others -/

/-- The clients of the pool around one of them. -/
theorem Laid.split (laid : Laid memory pool (front ++ queue :: back)) :
    pool.clients = front.map QueueLayout.queue ++ queue.queue :: back.map QueueLayout.queue := by
  rw [laid.clients, List.map_append, List.map_cons]

/-- A write to a client's queue leaves the others. -/
theorem Laid.updateQueue (laid : Laid memory pool (front ++ queue :: back))
    (formed : pool.WellFormed) (write : ClientQueue → ClientQueue) :
    pool.updateQueue queue.client write =
      front.map QueueLayout.queue ++ write queue.queue :: back.map QueueLayout.queue :=
  updateQueue_at formed laid.split write

/-- What is behind a client's queue. -/
theorem Laid.behind (laid : Laid memory pool (front ++ queue :: back)) (formed : pool.WellFormed)
    (first : Option ClientQueue) : pool.behind queue.client first =
      (((back.map QueueLayout.queue).head?).or first).map ClientQueue.client :=
  behind_at formed laid.split first

/-- The other queues are those of other clients. -/
theorem Laid.others (laid : Laid memory pool (front ++ queue :: back)) (formed : pool.WellFormed) :
    (∀ other ∈ front, other.client ≠ queue.client) ∧
      ∀ other ∈ back, other.client ≠ queue.client := by
  obtain ⟨before, behind⟩ := formed.others laid.split
  exact ⟨fun other member => before _ (List.mem_map_of_mem member),
    fun other member => behind _ (List.mem_map_of_mem member)⟩

/-- The other queues are in other places. -/
theorem others_elsewhere (places : ((front ++ queue :: back).map QueueLayout.place).Nodup) :
    (∀ other ∈ front, other.place ≠ queue.place) ∧ ∀ other ∈ back, other.place ≠ queue.place := by
  rw [List.map_append, List.map_cons] at places
  obtain ⟨-, rightDistinct, apart⟩ := List.nodup_append.mp places
  obtain ⟨alone, -⟩ := List.nodup_cons.mp rightDistinct
  constructor
  · intro other member
    exact apart _ (List.mem_map_of_mem member) _ List.mem_cons_self
  · intro other member same
    exact alone (List.mem_map.mpr ⟨other, member, same⟩)

/-! ## Dequeuing -/

/-- The loop looks at the queues until it finds one with requests, or is back at the start. -/
theorem dequeueFrom_walk {start : QueuePtr} (order : List QueueLayout)
    (path : Links.Path (Links.successor memory.queues memory.clientsHead) start
      ((queue :: order).map QueueLayout.place))
    (there : ∀ other ∈ queue :: order, ∃ cell,
      memory.queues other.place = some cell ∧ cell.value = other.fields)
    (away : start ∉ order.map QueueLayout.place) (passes : Nat) (enough : order.length < passes) :
    memory.dequeueFrom start passes queue.place =
      match (queue :: order).find? fun other => other.nodes ≠ [] with
      | some found =>
        match memory.queues found.place, Links.first found.nodes none with
        | some cell, some head => memory.takeHead found.place cell head
        | _, _ => none
      | none => some (none, memory) := by
  induction order generalizing queue passes with
  | nil =>
    obtain ⟨cell, found, value⟩ := there queue (List.mem_singleton_self _)
    obtain ⟨passes, rfl⟩ : ∃ less, passes = less + 1 := ⟨passes - 1, by simp at enough; omega⟩
    have next := path.1
    rw [Links.successor, found] at next
    cases nodes : queue.nodes with
    | nil =>
      simp only [PoolMemory.dequeueFrom, found, value, QueueLayout.fields, nodes, Links.first_nil]
      simp only [Option.bind_some, List.map_nil, List.head?_nil, Option.getD_none] at next
      simp [next, nodes]
    | cons node rest =>
      simp only [PoolMemory.dequeueFrom, found, value, QueueLayout.fields, nodes, Links.first_cons]
      simp [nodes, found]
  | cons later order ih =>
    obtain ⟨cell, found, value⟩ := there queue List.mem_cons_self
    obtain ⟨passes, rfl⟩ : ∃ less, passes = less + 1 := ⟨passes - 1, by simp at enough; omega⟩
    have next := path.1
    rw [Links.successor, found] at next
    cases nodes : queue.nodes with
    | nil =>
      simp only [PoolMemory.dequeueFrom, found, value, QueueLayout.fields, nodes, Links.first_nil]
      simp only [Option.bind_some, List.map_cons, List.head?_cons, Option.getD_some] at next
      simp only [List.map_cons, List.mem_cons, not_or] at away
      simp only [next, if_neg (Ne.symm away.1), List.find?_cons, nodes, ne_eq, not_true_eq_false,
        decide_false]
      exact ih path.2 (fun other member => there other (List.mem_cons_of_mem _ member)) away.2
        passes (by simp at enough; omega)
    | cons node rest =>
      simp only [PoolMemory.dequeueFrom, found, value, QueueLayout.fields, nodes, Links.first_cons]
      simp [nodes, found]

/-- The nodes of a queue are not those of another one. -/
theorem others_nodes
    (nodes : (((front ++ queue :: back).flatMap QueueLayout.nodes).map Prod.fst).Nodup)
    {other : QueueLayout} (member : other ∈ front ++ back) {place : NodePtr}
    (inside : place ∈ other.nodes.map Prod.fst) : place ∉ queue.nodes.map Prod.fst := by
  simp only [List.flatMap_append, List.flatMap_cons, List.map_append] at nodes
  obtain ⟨-, rightDistinct, apart⟩ := List.nodup_append.mp nodes
  obtain ⟨-, -, behind⟩ := List.nodup_append.mp rightDistinct
  have listed : ∀ others : List QueueLayout, other ∈ others →
      place ∈ (others.flatMap QueueLayout.nodes).map Prod.fst := by
    intro others member
    obtain ⟨node, within, same⟩ := List.mem_map.mp inside
    exact List.mem_map.mpr ⟨node, List.mem_flatMap.mpr ⟨other, member, within⟩, same⟩
  intro own
  rcases List.mem_append.mp member with early | late
  · exact apart place (listed front early) place (List.mem_append_left _ own) rfl
  · exact behind place own place (listed back late) rfl

/-- The requests of one queue are exchanged. -/
theorem Laid.exchange (laid : Laid memory pool (front ++ queue :: back))
    {nodes : List (NodePtr × Request)} {next : PoolMemory} {lists : Pool}
    (queues : next.queues = Function.update memory.queues queue.place
      (some ⟨{ queue with nodes }.fields, Links.last none (front.map QueueLayout.record),
        Links.first (back.map QueueLayout.record) none⟩))
    (head : next.clientsHead = memory.clientsHead) (tail : next.clientsTail = memory.clientsTail)
    (chains : ∀ other ∈ front ++ back, Links.Chain next.nodes none other.nodes)
    (chain : Links.Chain next.nodes none nodes)
    (distinct : (((front ++ { queue with nodes } :: back).flatMap
      QueueLayout.nodes).map Prod.fst).Nodup)
    (cursor : ∃ other ∈ front ++ queue :: back,
      next.nextClient = some other.place ∧ lists.nextClient = some other.client)
    (pending : next.pendingRequests =
      ((front ++ { queue with nodes } :: back).flatMap QueueLayout.nodes).length)
    (clients : lists.clients = (front ++ { queue with nodes } :: back).map QueueLayout.queue)
    (counted : lists.pendingRequests = next.pendingRequests)
    (closing : lists.shuttingDown = next.shuttingDown) :
    Laid next lists (front ++ { queue with nodes } :: back) := by
  have same : (front ++ { queue with nodes } :: back).map QueueLayout.place =
      (front ++ queue :: back).map QueueLayout.place := by simp
  refine ⟨?_, same ▸ laid.places, ?_, distinct, ?_, ?_, .inr ?_, pending, clients, counted,
    closing⟩
  · have segment := laid.queues
    have places := laid.places
    rw [← map_record_fst] at places
    rw [List.map_append, List.map_cons] at segment places ⊢
    rw [queues]
    exact segment.write places
  · intro other member
    rcases List.mem_append.mp member with early | late
    · exact chains other (List.mem_append_left _ early)
    · rcases List.mem_cons.mp late with rfl | later
      · exact chain
      · exact chains other (List.mem_append_right _ later)
  · rw [head, laid.head, first_record, first_record, same]
  · rw [tail, laid.tail, last_record, last_record, same]
  · obtain ⟨other, member, place, client⟩ := cursor
    rcases List.mem_append.mp member with early | late
    · exact ⟨other, List.mem_append_left _ early, place, client⟩
    · rcases List.mem_cons.mp late with rfl | later
      · exact ⟨_, List.mem_append_right _ List.mem_cons_self, place, client⟩
      · exact ⟨other, List.mem_append_right _ (List.mem_cons_of_mem _ later), place, client⟩

/-- The queue behind another one, or else the first. -/
theorem behind_or_head (laid : Laid memory pool (front ++ queue :: back)) :
    ∃ other ∈ front ++ queue :: back,
      (Links.first (back.map QueueLayout.record) none).or memory.clientsHead = some other.place ∧
        (((back.map QueueLayout.queue).head?).or pool.clients.head?).map ClientQueue.client =
          some other.client := by
  cases back with
  | cons other back => exact ⟨other, by simp, rfl, rfl⟩
  | nil =>
    rw [laid.head, laid.clients]
    cases front with
    | nil => exact ⟨queue, List.mem_singleton_self _, rfl, rfl⟩
    | cons other front => exact ⟨other, List.mem_cons_self, rfl, rfl⟩

/-- The head of a queue is taken. -/
theorem Laid.takeHead (laid : Laid memory pool (front ++ queue :: back)) (formed : pool.WellFormed)
    {head : NodePtr} {request : Request} {rest : List (NodePtr × Request)}
    (nodes : queue.nodes = (head, request) :: rest) :
    ∃ next, memory.takeHead queue.place ⟨queue.fields,
        Links.last none (front.map QueueLayout.record),
        Links.first (back.map QueueLayout.record) none⟩ head = some (some request, next) ∧
      Laid next
        { pool with
          clients := pool.updateQueue queue.client ClientQueue.pop
          pendingRequests := pool.pendingRequests - 1
          nextClient := pool.behind queue.client pool.clients.head? }
        (front ++ { queue with nodes := rest } :: back) := by
  have chain := laid.chains queue (by simp)
  rw [nodes] at chain
  obtain ⟨there, later⟩ := chain
  have distinct := laid.nodes
  have shorter : (((front ++ { queue with nodes := rest } :: back).flatMap
      QueueLayout.nodes).map Prod.fst).Sublist
        (((front ++ queue :: back).flatMap QueueLayout.nodes).map Prod.fst) := by
    simp only [List.flatMap_append, List.flatMap_cons, nodes]
    exact ((List.Sublist.refl _).append ((List.sublist_cons_self _ _).append_right _)).map _
  have alone : head ∉ rest.map Prod.fst := by
    simp only [List.flatMap_append, List.flatMap_cons, nodes, List.map_append, List.map_cons]
      at distinct
    obtain ⟨-, inner, -⟩ := List.nodup_append.mp distinct
    rw [List.cons_append, List.nodup_cons] at inner
    exact fun inside => inner.1 (List.mem_append_left _ inside)
  refine ⟨_, by rw [PoolMemory.takeHead, there]; rfl, ?_⟩
  refine laid.exchange ?_ rfl rfl ?_ ?_ (distinct.sublist shorter) ?_ ?_ ?_ ?_ laid.closing
  · cases rest with
    | nil => simp [QueueLayout.fields, nodes]
    | cons node rest => simp [QueueLayout.fields, nodes]
  · intro other member
    refine (laid.chains other ?_).congr fun place inside => Function.update_of_ne ?_ _ _
    · rcases List.mem_append.mp member with early | late
      · exact List.mem_append_left _ early
      · exact List.mem_append_right _ (List.mem_cons_of_mem _ late)
    · rintro rfl
      exact others_nodes distinct member inside (by simp [nodes])
  · refine later.congr fun place inside => Function.update_of_ne ?_ _ _
    rintro rfl
    exact alone inside
  · rw [laid.behind formed]
    exact behind_or_head laid
  · rw [laid.pending]
    simp only [List.flatMap_append, List.flatMap_cons, nodes, List.length_append, List.length_cons]
    omega
  · rw [laid.updateQueue formed]
    simp [QueueLayout.queue, ClientQueue.pop, nodes]
  · exact congrArg (· - 1) laid.counted

/-- `pending_requests` counts the requests that wait. -/
theorem Laid.waiting (laid : Laid memory pool layout) :
    pool.waiting.length = pool.pendingRequests := by
  rw [laid.counted, laid.pending, Pool.waiting, laid.clients]
  simp [List.length_flatMap, QueueLayout.queue, Function.comp_def]

/-- A memory that represents a pool dequeues what the pool does. -/
theorem Represents.dequeue (represents : Represents memory pool) {passes : Nat}
    (enough : pool.clients.length ≤ passes) :
    match dequeueFairRequest pool with
    | some (request, next) => ∃ after,
        memory.dequeueFairRequest passes = some (some request, after) ∧ Represents after next
    | none => memory.dequeueFairRequest passes = some (none, memory) ∧ pool.waiting = [] := by
  obtain ⟨formed, layout, laid⟩ := represents
  have waiting := laid.waiting
  by_cases idle : pool.pendingRequests = 0
  · have nothing : dequeueFairRequest pool = none := if_pos idle
    rw [nothing]
    exact ⟨if_pos (.inl (laid.counted ▸ idle)), List.length_eq_zero_iff.mp (waiting.trans idle)⟩
  rcases laid.cursor with ⟨rfl, -, -⟩ | ⟨start, member, place, client⟩
  · exact absurd (laid.counted.trans laid.pending) idle
  obtain ⟨front, back, rfl⟩ := List.append_of_mem member
  have order := rotation_at formed laid.split client
  have path := laid.queues
  rw [List.map_append, List.map_cons] at path
  have ring := path.ring
  rw [← List.map_cons, ← List.map_append, ← laid.head] at ring
  have around : Links.Path (Links.successor memory.queues memory.clientsHead) start.place
      ((start :: (back ++ front)).map QueueLayout.place) := by
    simpa [Function.comp_def, QueueLayout.record] using ring
  have listed : ∀ other ∈ start :: (back ++ front), other ∈ front ++ start :: back := by
    intro other inside
    simp only [List.mem_cons, List.mem_append] at inside ⊢
    tauto
  have there : ∀ other ∈ start :: (back ++ front), ∃ cell,
      memory.queues other.place = some cell ∧ cell.value = other.fields := by
    intro other inside
    obtain ⟨earlier, later, split⟩ := List.append_of_mem (listed other inside)
    rw [split] at laid
    exact ⟨_, laid.at, rfl⟩
  have away : start.place ∉ (back ++ front).map QueueLayout.place := by
    obtain ⟨before, behind⟩ := others_elsewhere laid.places
    intro inside
    obtain ⟨other, within, same⟩ := List.mem_map.mp inside
    rcases List.mem_append.mp within with late | early
    · exact behind other late same
    · exact before other early same
  have passed : (back ++ front).length < passes := by
    rw [laid.clients] at enough
    simp only [List.length_map, List.length_append, List.length_cons] at enough ⊢
    omega
  have begun : memory.dequeueFairRequest passes =
      memory.dequeueFrom start.place passes start.place := by
    have first : memory.clientsHead ≠ none := by
      rw [laid.head]
      intro nothing
      cases front <;> cases nothing
    have requests : memory.pendingRequests ≠ 0 := laid.counted ▸ idle
    rw [PoolMemory.dequeueFairRequest, if_neg (by tauto), place]
    rfl
  have chosen : pool.rotation.find? (fun other => other.active && other.requests ≠ []) =
      ((start :: (back ++ front)).find? fun other => other.nodes ≠ []).map QueueLayout.queue := by
    rw [order, ← List.map_cons, ← List.map_append, List.find?_map]
    congr 2
    funext other
    simp [QueueLayout.queue]
  rw [begun, dequeueFrom_walk _ around there away passes passed]
  cases found : (start :: (back ++ front)).find? fun other => other.nodes ≠ [] with
  | none =>
    have empty : pool.waiting = [] := by
      rw [Pool.waiting, laid.clients, List.flatMap_eq_nil_iff]
      intro queue inside
      obtain ⟨other, member, rfl⟩ := List.mem_map.mp inside
      have nothing := List.find?_eq_none.mp found other (by
        simp only [List.mem_cons, List.mem_append] at member ⊢
        tauto)
      simpa [QueueLayout.queue] using nothing
    exact absurd (by rw [← waiting, empty]; rfl) idle
  | some queue =>
    have inside := listed queue (List.mem_of_find?_eq_some found)
    have busy := List.find?_some found
    cases nodes : queue.nodes with
    | nil => simp [nodes] at busy
    | cons node rest =>
      obtain ⟨head, request⟩ := node
      obtain ⟨earlier, later, split⟩ := List.append_of_mem inside
      rw [split] at laid
      obtain ⟨next, taken, after⟩ := laid.takeHead formed nodes
      have dequeued : dequeueFairRequest pool = some (request,
          { pool with
            clients := pool.updateQueue queue.client ClientQueue.pop
            pendingRequests := pool.pendingRequests - 1
            nextClient := pool.behind queue.client pool.clients.head? }) := by
        rw [dequeueFairRequest, if_neg idle, chosen, found]
        simp [QueueLayout.queue, nodes]
      have kept := (dequeueFairRequest_spec formed dequeued).1
      rw [dequeued]
      refine ⟨next, ?_, kept, _, after⟩
      simp only [laid.at, nodes, Links.first_cons]
      exact taken

/-! ## Finding a client's queue -/

/-- The loop finds the queue of a client, or that there is none. -/
theorem findClientQueueFrom_walk {client : ClientId} {before : Option QueuePtr}
    (segment : Links.Segment memory.queues none before (layout.map QueueLayout.record))
    {passes : Nat} (enough : layout.length ≤ passes) :
    memory.findClientQueueFrom client passes
        (Links.first (layout.map QueueLayout.record) none) =
      some ((layout.find? fun queue => queue.client = client).map QueueLayout.place) := by
  induction layout generalizing before passes with
  | nil => cases passes <;> rfl
  | cons queue layout ih =>
    obtain ⟨passes, rfl⟩ : ∃ less, passes = less + 1 := ⟨passes - 1, by simp at enough; omega⟩
    obtain ⟨there, rest⟩ := segment
    have place : memory.queues queue.place = _ := there
    rw [List.map_cons, Links.first_cons]
    by_cases same : queue.client = client
    · simp [PoolMemory.findClientQueueFrom, QueueLayout.record, QueueLayout.fields, place, same]
    · have found := ih rest (Nat.le_of_succ_le_succ enough)
      have other : queue.fields.client ≠ client := same
      simp only [PoolMemory.findClientQueueFrom, QueueLayout.record, place]
      rw [if_neg other, found, List.find?_cons_of_neg (by simpa using same)]

/-- The queue of a client is found in memory exactly if the pool has it. -/
theorem Laid.find (laid : Laid memory pool layout) (client : ClientId) {passes : Nat}
    (enough : pool.clients.length ≤ passes) :
    (memory.findClientQueue client passes = some none ∧ findClientQueue pool client = none ∧
        ∀ queue ∈ layout, queue.client ≠ client) ∨
      ∃ front queue back, layout = front ++ queue :: back ∧ queue.client = client ∧
        memory.findClientQueue client passes = some (some queue.place) ∧
        findClientQueue pool client = some queue.queue := by
  have listed : findClientQueue pool client =
      (layout.find? fun queue => queue.client = client).map QueueLayout.queue := by
    rw [findClientQueue, laid.clients, List.find?_map]
    rfl
  have walked : memory.findClientQueue client passes =
      some ((layout.find? fun queue => queue.client = client).map QueueLayout.place) := by
    rw [PoolMemory.findClientQueue, laid.head]
    refine findClientQueueFrom_walk laid.queues ?_
    simpa [laid.clients] using enough
  rw [listed, walked]
  cases found : layout.find? fun queue => queue.client = client with
  | none => exact .inl ⟨rfl, rfl, by simpa using List.find?_eq_none.mp found⟩
  | some queue =>
    obtain ⟨front, back, split⟩ := List.append_of_mem (List.mem_of_find?_eq_some found)
    exact .inr ⟨front, queue, back, split, by simpa using List.find?_some found, rfl, rfl⟩

/-! ## Registering -/

/-- Writing the next pointer of a queue that is there. -/
theorem writeQueue_next (memory : PoolMemory) {place : QueuePtr} (there : (memory.queues place).isSome)
    (next : Option QueuePtr) :
    (memory.writeQueue place fun cell => { cell with next }) =
      some { memory with queues := Links.setNext memory.queues (some place) next } := by
  obtain ⟨cell, found⟩ := Option.isSome_iff_exists.mp there
  simp [PoolMemory.writeQueue, Links.setNext, found]

/-- Writing the previous pointer of a queue that is there. -/
theorem writeQueue_prev (memory : PoolMemory) {place : QueuePtr} (there : (memory.queues place).isSome)
    (prev : Option QueuePtr) :
    (memory.writeQueue place fun cell => { cell with prev }) =
      some { memory with queues := Links.setPrev memory.queues (some place) prev } := by
  obtain ⟨cell, found⟩ := Option.isSome_iff_exists.mp there
  simp [PoolMemory.writeQueue, Links.setPrev, found]

/-- A new queue is linked behind the last one. -/
theorem Laid.register (laid : Laid memory pool layout) {place : QueuePtr} {client : ClientId}
    (free : memory.queues place = none) :
    Laid { memory with
        queues := Links.setNext (Function.update memory.queues place
          (some ⟨{ client }, memory.clientsTail, none⟩)) memory.clientsTail (some place)
        clientsHead := memory.clientsHead.or (some place)
        clientsTail := some place
        nextClient := memory.nextClient.or (some place) }
      { pool with
        clients := pool.clients ++ [{ client }]
        nextClient := pool.nextClient.or (some client) }
      (layout ++ [{ place := place, client }]) := by
  have fresh := laid.fresh_queue free
  have segment := laid.queues.concat place { client }
    (by rw [map_record_fst]; exact laid.places) (by rw [map_record_fst]; exact fresh)
  rw [← laid.tail] at segment
  refine ⟨?_, ?_, ?_, ?_, ?_, ?_, .inr ?_, ?_, ?_, laid.counted, laid.closing⟩
  · rw [List.map_append]
    exact segment
  · rw [List.map_append, List.map_cons, List.map_nil]
    exact List.nodup_append.mpr ⟨laid.places, List.nodup_singleton _, by
      rintro other inside _ here rfl
      have same : other = place := List.mem_singleton.mp here
      exact fresh (same ▸ inside)⟩
  · intro queue member
    rcases List.mem_append.mp member with old | new
    · exact laid.chains queue old
    · rw [List.mem_singleton.mp new]
      trivial
  · simpa using laid.nodes
  · rw [laid.head]
    cases layout <;> rfl
  · rw [List.map_append, List.map_cons, List.map_nil, Links.last_concat]
    rfl
  · rcases laid.cursor with ⟨rfl, here, there⟩ | ⟨queue, member, here, there⟩
    · exact ⟨_, List.mem_singleton_self _, by rw [here]; rfl, by rw [there]; rfl⟩
    · exact ⟨queue, List.mem_append_left _ member, by rw [here]; rfl, by rw [there]; rfl⟩
  · simpa using laid.pending
  · rw [laid.clients, List.map_append]
    rfl

/-- A memory that represents a pool registers a client as the pool does. -/
theorem Represents.register (represents : Represents memory pool) (client : ClientId)
    {queue : Option QueuePtr} (free : ∀ place ∈ queue, memory.queues place = none) {passes : Nat}
    (enough : pool.clients.length ≤ passes) :
    match threadpoolRegisterClient pool client queue.isSome with
    | .ok next => ∃ after,
        memory.threadpoolRegisterClient client queue passes = some (.ok (), after) ∧
          Represents after next
    | .error error =>
      memory.threadpoolRegisterClient client queue passes = some (.error error, memory) := by
  obtain ⟨formed, layout, laid⟩ := represents
  cases queue with
  | none => rfl
  | some place =>
    rcases laid.find client enough with ⟨found, missing, -⟩ |
      ⟨front, queue, back, -, -, found, there⟩
    · have registered : threadpoolRegisterClient pool client true = .ok { pool with
          clients := pool.clients ++ [{ client }]
          nextClient := pool.nextClient.or (some client) } := by
        simp [threadpoolRegisterClient, missing]
      have kept := (threadpoolRegisterClient_spec formed registered).1
      rw [Option.isSome_some, registered]
      refine ⟨_, ?_, kept, _, laid.register (free place rfl)⟩
      simp only [PoolMemory.threadpoolRegisterClient, found, Option.bind_eq_bind, Option.bind_some,
        Option.isSome_none, Bool.false_eq_true, if_false]
      cases tail : memory.clientsTail with
      | none =>
        have empty : layout = [] := by
          have nothing := laid.tail.symm.trans tail
          rw [last_record] at nothing
          simpa using nothing
        subst empty
        rw [laid.head]
        rfl
      | some final =>
        obtain ⟨before, item, rfl⟩ : ∃ before item, layout = before ++ [item] := by
          rcases List.eq_nil_or_concat layout with rfl | ⟨before, item, rfl⟩
          · exact absurd (laid.tail.symm.trans tail) (by simp)
          · exact ⟨before, item, List.concat_eq_append⟩
        have last := laid.tail.symm.trans tail
        rw [List.map_append, List.map_cons, List.map_nil, Links.last_concat] at last
        have first : ∃ head, memory.clientsHead = some head := by
          rw [laid.head]
          cases before <;> exact ⟨_, rfl⟩
        obtain ⟨head, first⟩ := first
        have there : (Function.update memory.queues place
            (some ⟨{ client }, some final, none⟩) final).isSome := by
          by_cases same : final = place
          · simp [same]
          · rw [Function.update_of_ne same, ← Option.some.inj last]
            exact Option.isSome_iff_exists.mpr ⟨_, laid.at⟩
        have written := writeQueue_next { memory with
          queues := Function.update memory.queues place (some ⟨{ client }, some final, none⟩)
          clientsTail := some final } there (some place)
        dsimp only
        rw [written, first]
        rfl
    · simp [threadpoolRegisterClient, PoolMemory.threadpoolRegisterClient, found, there]

/-! ## Removing -/

/-- The memory in which the neighbours of a queue point to each other. -/
def PoolMemory.unlinked (memory : PoolMemory) (place : QueuePtr) (prev next : Option QueuePtr) :
    PoolMemory :=
  let clientsHead := if prev = none then next else memory.clientsHead
  { memory with
    queues := Links.setPrev (Links.setNext memory.queues prev next) next prev
    clientsHead
    clientsTail := if next = none then prev else memory.clientsTail
    nextClient := if memory.nextClient = some place then next.or clientsHead else memory.nextClient }

/-- `unlink_client_queue` for a queue whose neighbours are there. -/
theorem unlinkClientQueue_eq {place : QueuePtr} {cell : QueueCell}
    (there : memory.queues place = some cell)
    (prev : ∀ place ∈ cell.prev, (memory.queues place).isSome)
    (next : ∀ place ∈ cell.next, (memory.queues place).isSome) :
    memory.unlinkClientQueue place = some (memory.unlinked place cell.prev cell.next) := by
  obtain ⟨value, before, after⟩ := cell
  rw [PoolMemory.unlinkClientQueue, there, Option.bind_eq_bind, Option.bind_some]
  have written : ∀ other ∈ after, ((Links.setNext memory.queues before after) other).isSome := by
    intro other inside
    rw [Links.setNext_isSome]
    exact next other inside
  cases before with
  | none =>
    cases after with
    | none => by_cases here : memory.nextClient = some place <;> simp [here, PoolMemory.unlinked,
        Links.setNext, Links.setPrev]
    | some after =>
      dsimp only
      rw [Option.bind_eq_bind, Option.bind_some,
        writeQueue_prev { memory with clientsHead := some after } (written after rfl)]
      by_cases here : memory.nextClient = some place <;> simp [here, PoolMemory.unlinked,
        Links.setNext]
  | some before =>
    dsimp only
    rw [writeQueue_next _ (prev before rfl), Option.bind_eq_bind, Option.bind_some]
    cases after with
    | none => by_cases here : memory.nextClient = some place <;> simp [here, PoolMemory.unlinked,
        Links.setPrev]
    | some after =>
      dsimp only
      rw [writeQueue_prev { memory with
        queues := Links.setNext memory.queues (some before) (some after) } (written after rfl)]
      by_cases here : memory.nextClient = some place <;> simp [here, PoolMemory.unlinked]

/-- The loop that destroys the requests of a queue frees their nodes and counts them off. -/
theorem destroyRequests_walk (memory : PoolMemory) {items : List (NodePtr × Request)}
    (chain : Links.Chain memory.nodes none items) (distinct : (items.map Prod.fst).Nodup)
    {passes : Nat} (enough : items.length ≤ passes) :
    ∃ nodes, memory.destroyRequests passes (Links.first items none) =
        some (items.map Prod.snd,
          { memory with nodes, pendingRequests := memory.pendingRequests - items.length }) ∧
      ∀ place, place ∉ items.map Prod.fst → nodes place = memory.nodes place := by
  induction items generalizing memory passes with
  | nil => exact ⟨memory.nodes, by cases passes <;> rfl, fun _ _ => rfl⟩
  | cons item items ih =>
    obtain ⟨passes, rfl⟩ : ∃ less, passes = less + 1 := ⟨passes - 1, by simp at enough; omega⟩
    obtain ⟨there, rest⟩ := chain
    rw [List.map_cons, List.nodup_cons] at distinct
    have kept : Links.Chain (Function.update memory.nodes item.1 none) none items := by
      refine rest.congr fun place inside => Function.update_of_ne ?_ _ _
      rintro rfl
      exact distinct.1 inside
    obtain ⟨nodes, destroyed, elsewhere⟩ := ih { memory with
        nodes := Function.update memory.nodes item.1 none
        pendingRequests := memory.pendingRequests - 1 } kept distinct.2
      (Nat.le_of_succ_le_succ enough)
    refine ⟨nodes, ?_, fun place outside => ?_⟩
    · rw [Links.first_cons]
      simp only [PoolMemory.destroyRequests, there, destroyed, Option.map_some]
      rw [List.length_cons, Nat.sub_sub, Nat.add_comm 1]
      rfl
    · rw [List.map_cons, List.mem_cons, not_or] at outside
      rw [elsewhere place outside.2]
      exact Function.update_of_ne outside.1 _ _

/-- The neighbours of a queue are other queues. -/
theorem Laid.neighbours (laid : Laid memory pool (front ++ queue :: back)) :
    (∀ place ∈ Links.last none (front.map QueueLayout.record),
        (memory.queues place).isSome ∧ place ≠ queue.place) ∧
      ∀ place ∈ Links.first (back.map QueueLayout.record) none,
        (memory.queues place).isSome ∧ place ≠ queue.place := by
  obtain ⟨before, behind⟩ := others_elsewhere laid.places
  have there : ∀ other ∈ front ++ queue :: back, (memory.queues other.place).isSome := by
    intro other member
    obtain ⟨earlier, later, split⟩ := List.append_of_mem member
    rw [split] at laid
    rw [laid.at]
    rfl
  constructor
  · intro place final
    have inside := Links.last_mem final
    rw [map_record_fst] at inside
    obtain ⟨other, member, rfl⟩ := List.mem_map.mp inside
    exact ⟨there other (List.mem_append_left _ member), before other member⟩
  · intro place head
    have inside := Links.first_mem head
    rw [map_record_fst] at inside
    obtain ⟨other, member, rfl⟩ := List.mem_map.mp inside
    exact ⟨there other (List.mem_append_right _ (List.mem_cons_of_mem _ member)),
      behind other member⟩

/-- A queue is unlinked, and it and its nodes are freed. -/
theorem Laid.remove (laid : Laid memory pool (front ++ queue :: back)) (formed : pool.WellFormed)
    {nodes : NodePtr → Option RequestNode}
    (kept : ∀ place, place ∉ queue.nodes.map Prod.fst → nodes place = memory.nodes place) :
    let unlinked := memory.unlinked queue.place (Links.last none (front.map QueueLayout.record))
      (Links.first (back.map QueueLayout.record) none)
    Laid { unlinked with
        queues := Function.update unlinked.queues queue.place none
        nodes
        pendingRequests := unlinked.pendingRequests - queue.nodes.length }
      { pool with
        clients := pool.clients.filter fun other => other.client ≠ queue.client
        nextClient :=
          if pool.nextClient = some queue.client then
            pool.behind queue.client
              (pool.clients.filter fun other => other.client ≠ queue.client).head?
          else pool.nextClient
        pendingRequests := pool.pendingRequests - queue.queue.requests.length }
      (front ++ back) := by
  have places := laid.places
  obtain ⟨before, behind⟩ := laid.others formed
  obtain ⟨earlier, later⟩ := others_elsewhere places
  have filtered : (pool.clients.filter fun other => other.client ≠ queue.client) =
      (front ++ back).map QueueLayout.queue := by
    rw [laid.clients, List.filter_map, List.map_append, List.filter_append, List.filter_cons_of_neg,
      List.filter_eq_self.mpr, List.filter_eq_self.mpr, List.map_append]
    · exact fun other member => decide_eq_true (behind other member)
    · exact fun other member => decide_eq_true (before other member)
    · simp
  intro unlinked
  have head : unlinked.clientsHead = Links.first ((front ++ back).map QueueLayout.record) none := by
    change (if _ then _ else _) = _
    cases front with
    | nil => rfl
    | cons other front =>
      rw [List.map_cons, Links.last_cons, if_neg (by simp [Links.last]), laid.head]
      rfl
  refine ⟨?_, ?_, ?_, ?_, ?_, ?_, ?_, ?_, filtered, ?_, laid.closing⟩
  · have segment := laid.queues
    rw [← map_record_fst] at places
    rw [List.map_append, List.map_cons] at segment places
    rw [List.map_append]
    refine (segment.unlink places).congr fun place inside => Function.update_of_ne ?_ _ _
    rw [← List.map_append, map_record_fst] at inside
    obtain ⟨other, member, rfl⟩ := List.mem_map.mp inside
    rcases List.mem_append.mp member with early | late
    · exact earlier other early
    · exact later other late
  · refine places.sublist (List.Sublist.map _ ?_)
    exact List.Sublist.append_left (List.sublist_cons_self _ _) _
  · intro other member
    refine (laid.chains other ?_).congr fun place inside =>
      kept place (others_nodes laid.nodes member inside)
    rcases List.mem_append.mp member with early | late
    · exact List.mem_append_left _ early
    · exact List.mem_append_right _ (List.mem_cons_of_mem _ late)
  · refine laid.nodes.sublist (List.Sublist.map _ ?_)
    simp only [List.flatMap_append, List.flatMap_cons]
    exact List.Sublist.append_left (List.sublist_append_right _ _) _
  · exact head
  · change (if _ then _ else _) = _
    cases back with
    | nil => simp
    | cons other back =>
      rw [List.map_cons, Links.first_cons, if_neg (by simp), laid.tail]
      simp [Links.last_append]
  · by_cases here : pool.nextClient = some queue.client
    · have there : memory.nextClient = some queue.place := by
        rcases laid.cursor with ⟨none, -, -⟩ | ⟨other, member, place, client⟩
        · simp at none
        · rw [here] at client
          rw [place]
          rcases List.mem_append.mp member with early | late
          · exact absurd (Option.some.inj client).symm (before other early)
          · rcases List.mem_cons.mp late with rfl | late
            · rfl
            · exact absurd (Option.some.inj client).symm (behind other late)
      have moved : unlinked.nextClient =
          (Links.first (back.map QueueLayout.record) none).or unlinked.clientsHead := if_pos there
      rw [if_pos here, laid.behind formed, filtered]
      dsimp only
      rw [moved, head]
      cases back with
      | cons other back => exact .inr ⟨other, by simp, rfl, rfl⟩
      | nil =>
        cases front with
        | nil => exact .inl ⟨rfl, rfl, rfl⟩
        | cons other front => exact .inr ⟨other, by simp, rfl, rfl⟩
    · rcases laid.cursor with ⟨none, -, -⟩ | ⟨other, member, place, client⟩
      · simp at none
      · have apart : other.client ≠ queue.client := fun same => here (same ▸ client)
        have member : other ∈ front ++ back := by
          rcases List.mem_append.mp member with early | late
          · exact List.mem_append_left _ early
          · rcases List.mem_cons.mp late with rfl | late
            · exact absurd rfl apart
            · exact List.mem_append_right _ late
        have elsewhere : other.place ≠ queue.place := by
          rcases List.mem_append.mp member with early | late
          · exact earlier other early
          · exact later other late
        have stays : unlinked.nextClient = memory.nextClient :=
          if_neg (by rw [place]; simpa using elsewhere)
        rw [if_neg here]
        exact .inr ⟨other, member, stays.trans place, client⟩
  · rw [show unlinked.pendingRequests = memory.pendingRequests from rfl, laid.pending]
    simp only [List.flatMap_append, List.flatMap_cons, List.length_append]
    omega
  · rw [laid.counted, QueueLayout.queue, List.length_map]
    rfl

/-- A memory that represents a pool removes a client as the pool does, and destroys the requests
that wait for it. -/
theorem Represents.remove (represents : Represents memory pool) (client : ClientId) {passes : Nat}
    (enough : pool.clients.length ≤ passes) (many : (pool.queued client).length ≤ passes) :
    ∃ after, memory.threadpoolRemoveClient client passes = some (pool.queued client, after) ∧
      Represents after (threadpoolRemoveClient pool client) := by
  obtain ⟨formed, layout, laid⟩ := represents
  have kept := (threadpoolRemoveClient_spec client formed).1
  rcases laid.find client enough with ⟨found, missing, -⟩ |
    ⟨front, queue, back, rfl, rfl, found, there⟩
  · have none : pool.queued client = [] := by simp [Pool.queued, missing]
    have same : threadpoolRemoveClient pool client = pool := by
      simp [threadpoolRemoveClient, missing]
    rw [none, same]
    exact ⟨memory, by simp [PoolMemory.threadpoolRemoveClient, found], formed, layout, laid⟩
  · have requests : pool.queued queue.client = queue.nodes.map Prod.snd := by
      rw [Pool.queued, there]
      rfl
    obtain ⟨prev, next⟩ := laid.neighbours
    have unlinked := unlinkClientQueue_eq laid.at (fun place inside => (prev place inside).1)
      fun place inside => (next place inside).1
    have cell : (memory.unlinked queue.place (Links.last none (front.map QueueLayout.record))
        (Links.first (back.map QueueLayout.record) none)).queues queue.place =
          memory.queues queue.place := by
      refine (Links.setPrev_elsewhere fun same => ?_).trans
        (Links.setNext_elsewhere fun same => ?_)
      · exact (next _ same).2 rfl
      · exact (prev _ same).2 rfl
    have distinct : (queue.nodes.map Prod.fst).Nodup := by
      refine laid.nodes.sublist (List.Sublist.map _ ?_)
      simp only [List.flatMap_append, List.flatMap_cons]
      exact (List.sublist_append_left _ _).trans (List.sublist_append_right _ _)
    have few : queue.nodes.length ≤ passes := by simpa [requests] using many
    obtain ⟨nodes, destroyed, elsewhere⟩ := destroyRequests_walk
      (memory.unlinked queue.place (Links.last none (front.map QueueLayout.record))
        (Links.first (back.map QueueLayout.record) none))
      (laid.chains queue (by simp)) distinct few
    have removed := laid.remove formed elsewhere
    rw [threadpoolRemoveClient, there] at kept ⊢
    rw [requests]
    refine ⟨_, ?_, kept, front ++ back, removed⟩
    simp only [PoolMemory.threadpoolRemoveClient, found, Option.bind_eq_bind, Option.bind_some,
      unlinked, cell, laid.at, QueueLayout.fields, destroyed]

/-! ## Submitting -/

/-- A request is linked behind the last one of a queue. -/
theorem Laid.submit (laid : Laid memory pool (front ++ queue :: back)) (formed : pool.WellFormed)
    {node : NodePtr} (free : memory.nodes node = none) (request : Request)
    {nodes : NodePtr → Option RequestNode}
    (chain : Links.Chain nodes none (queue.nodes ++ [(node, request)]))
    (kept : ∀ place, place ∉ (queue.nodes ++ [(node, request)]).map Prod.fst →
      nodes place = memory.nodes place) :
    Laid { memory with
        queues := Function.update memory.queues queue.place
          (some ⟨{ queue with nodes := queue.nodes ++ [(node, request)] }.fields,
            Links.last none (front.map QueueLayout.record),
            Links.first (back.map QueueLayout.record) none⟩)
        nodes
        pendingRequests := memory.pendingRequests + 1 }
      { pool with
        clients := pool.updateQueue queue.client (ClientQueue.push request)
        pendingRequests := pool.pendingRequests + 1 }
      (front ++ { queue with nodes := queue.nodes ++ [(node, request)] } :: back) := by
  have fresh := laid.fresh_node free
  refine laid.exchange rfl rfl rfl ?_ chain ?_ ?_ ?_ ?_ ?_ laid.closing
  · intro other member
    have inside : other ∈ front ++ queue :: back := by
      rcases List.mem_append.mp member with early | late
      · exact List.mem_append_left _ early
      · exact List.mem_append_right _ (List.mem_cons_of_mem _ late)
    refine (laid.chains other inside).congr fun place within => kept place ?_
    rw [List.map_append, List.mem_append, not_or]
    refine ⟨others_nodes laid.nodes member within, fun same => fresh ?_⟩
    obtain rfl : place = node := by simpa using same
    obtain ⟨item, listed, place⟩ := List.mem_map.mp within
    exact List.mem_map.mpr ⟨item, List.mem_flatMap.mpr ⟨other, inside, listed⟩, place⟩
  · have distinct := laid.nodes
    simp only [List.flatMap_append, List.flatMap_cons, List.map_append, List.map_cons,
      List.map_nil] at distinct fresh ⊢
    rw [List.append_assoc _ [node], ← List.append_assoc, List.singleton_append, List.nodup_middle,
      List.append_assoc]
    exact List.nodup_cons.mpr ⟨fresh, distinct⟩
  · rcases laid.cursor with ⟨none, -, -⟩ | found
    · simp at none
    · exact found
  · rw [laid.pending]
    simp only [List.flatMap_append, List.flatMap_cons, List.length_append, List.length_singleton]
    omega
  · rw [laid.updateQueue formed]
    simp [QueueLayout.queue, ClientQueue.push]
  · exact congrArg (· + 1) laid.counted

/-- A memory that represents a pool accepts or refuses a request as the pool does. -/
theorem Represents.submit (represents : Represents memory pool) (client : ClientId)
    (disconnected : Bool) (requestsReceived : Nat) (rpcLine : Bytes) {node : Option NodePtr}
    (free : ∀ place ∈ node, memory.nodes place = none) {passes : Nat}
    (enough : pool.clients.length ≤ passes) :
    match threadpoolSubmit pool client disconnected requestsReceived rpcLine node.isSome with
    | .ok next => ∃ after,
        memory.threadpoolSubmit client disconnected requestsReceived rpcLine node passes =
          some (.ok (), after) ∧ Represents after next
    | .error error =>
      memory.threadpoolSubmit client disconnected requestsReceived rpcLine node passes =
        some (.error error, memory) := by
  obtain ⟨formed, layout, laid⟩ := represents
  cases node with
  | none => rfl
  | some node =>
    by_cases closing : pool.shuttingDown
    · have closed : memory.shuttingDown = true := laid.closing ▸ closing
      simp [threadpoolSubmit, PoolMemory.threadpoolSubmit, closing, closed]
    have opened : memory.shuttingDown = false := by simpa [laid.closing] using closing
    rcases laid.find client enough with ⟨found, missing, -⟩ |
      ⟨front, queue, back, rfl, rfl, found, there⟩
    · simp [threadpoolSubmit, PoolMemory.threadpoolSubmit, closing, opened, found, missing]
    · cases disconnected with
      | true =>
        simp [threadpoolSubmit, PoolMemory.threadpoolSubmit, closing, opened, found, laid.at]
      | false =>
        have submitted : threadpoolSubmit pool queue.client false requestsReceived rpcLine true =
            .ok { pool with
              clients := pool.updateQueue queue.client
                (ClientQueue.push { client := queue.client, seqNum := requestsReceived, rpcLine })
              pendingRequests := pool.pendingRequests + 1 } := by
          simp [threadpoolSubmit, closing, there, QueueLayout.queue]
        have kept := (threadpoolSubmit_spec formed submitted).1
        have fresh := laid.fresh_node (free node rfl)
        rw [Option.isSome_some, submitted]
        rcases List.eq_nil_or_concat queue.nodes with empty | ⟨earlier, ⟨final, ending⟩, nodes⟩
        · have chain : Links.Chain (Function.update memory.nodes node
              (some ⟨{ client := queue.client, seqNum := requestsReceived, rpcLine }, none⟩)) none
              (queue.nodes ++
                [(node, { client := queue.client, seqNum := requestsReceived, rpcLine })]) := by
            rw [empty]
            exact ⟨Function.update_self _ _ _, trivial⟩
          have represented := laid.submit formed (free node rfl) _ chain fun place outside => by
            refine Function.update_of_ne ?_ _ _
            rintro rfl
            simp at outside
          refine ⟨_, ?_, kept, _, represented⟩
          simp [PoolMemory.threadpoolSubmit, opened, found, laid.at, QueueLayout.fields, empty,
            PoolMemory.writeQueue]
        · rw [List.concat_eq_append] at nodes
          have own : ((earlier ++ [(final, ending)]).map Prod.fst).Nodup := by
            rw [← nodes]
            refine laid.nodes.sublist (List.Sublist.map _ ?_)
            simp only [List.flatMap_append, List.flatMap_cons]
            exact (List.sublist_append_left _ _).trans (List.sublist_append_right _ _)
          have new : node ∉ (earlier ++ [(final, ending)]).map Prod.fst := by
            rw [← nodes]
            intro inside
            refine fresh (List.map_subset _ (fun item member => ?_) inside)
            exact List.mem_flatMap.mpr ⟨queue, by simp, member⟩
          have before := laid.chains queue (by simp)
          rw [nodes] at before
          have chain := before.concat node
            { client := queue.client, seqNum := requestsReceived, rpcLine } own new
          rw [← nodes] at chain
          have represented := laid.submit formed (free node rfl) _ chain fun place outside => by
            simp only [nodes, List.map_append, List.map_cons, List.map_nil, List.mem_append,
              List.mem_singleton, not_or] at outside
            rw [Function.update_of_ne outside.1.2, Function.update_of_ne outside.2]
          refine ⟨_, ?_, kept, _, represented⟩
          have apart : final ≠ node := by
            rintro rfl
            simp at new
          have there : memory.nodes final = some ⟨ending, none⟩ :=
            (Links.chain_append.mp before).2.1
          simp [PoolMemory.threadpoolSubmit, opened, found, laid.at, QueueLayout.fields, nodes,
            PoolMemory.writeQueue, PoolMemory.writeNode, apart, there, Links.first_append,
            Links.last_append]

end AnimateService
