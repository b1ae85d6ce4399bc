import AnimateService.Library.Links
import AnimateService.Pool

/-!
# The thread pool in memory

The queues of `threadpool.c` with their pointers: a doubly linked list of client queues, in each a
linked list of requests, and the roaming `next_client`. Addresses that `calloc` returns are given
by the environment, `none` when there is no memory. Every loop is given a number of passes; an
operation has no result when they do not suffice or when a pointer that it follows leads nowhere.
-/
namespace AnimateService

/-- The address of a `client_queue_t`. -/
abbrev QueuePtr := Nat

/-- The address of a `request_node_t`. -/
abbrev NodePtr := Nat

/-- `client_queue_t` without `prev` and `next`. -/
structure QueueFields where
  /-- The client. -/
  client : ClientId
  /-- The first request. -/
  head : Option NodePtr := none
  /-- The last request. -/
  tail : Option NodePtr := none
  /-- `queued_count`. -/
  queuedCount : Nat := 0
  /-- Set when the queue is made. -/
  active : Bool := true
  deriving DecidableEq, Repr

/-- `client_queue_t`. -/
abbrev QueueCell := Links.Cell QueuePtr QueueFields

/-- `request_node_t`. -/
abbrev RequestNode := Links.Node NodePtr Request

/-- The fields of `struct threadpool` under its mutex, and the memory that they point to. -/
structure PoolMemory where
  /-- The client queues that are allocated. -/
  queues : QueuePtr → Option QueueCell := fun _ => none
  /-- The request nodes that are allocated. -/
  nodes : NodePtr → Option RequestNode := fun _ => none
  /-- `clients_head`. -/
  clientsHead : Option QueuePtr := none
  /-- `clients_tail`. -/
  clientsTail : Option QueuePtr := none
  /-- `next_client`. -/
  nextClient : Option QueuePtr := none
  /-- `pending_requests`. -/
  pendingRequests : Nat := 0
  /-- `shutting_down`. -/
  shuttingDown : Bool := false

namespace PoolMemory

/-- Write to a client queue. -/
def writeQueue (memory : PoolMemory) (queue : QueuePtr) (write : QueueCell → QueueCell) :
    Option PoolMemory :=
  (memory.queues queue).map fun cell =>
    { memory with queues := Function.update memory.queues queue (some (write cell)) }

/-- Write to a request node. -/
def writeNode (memory : PoolMemory) (node : NodePtr) (write : RequestNode → RequestNode) :
    Option PoolMemory :=
  (memory.nodes node).map fun cell =>
    { memory with nodes := Function.update memory.nodes node (some (write cell)) }

/-- The loop of `find_client_queue` from a queue on. -/
def findClientQueueFrom (memory : PoolMemory) (client : ClientId) :
    Nat → Option QueuePtr → Option (Option QueuePtr)
  | _, none => some none
  | 0, some _ => none
  | passes + 1, some queue =>
    match memory.queues queue with
    | some cell =>
      if cell.value.client = client then some (some queue)
      else memory.findClientQueueFrom client passes cell.next
    | none => none

/-- `find_client_queue`. -/
def findClientQueue (memory : PoolMemory) (client : ClientId) (passes : Nat) :
    Option (Option QueuePtr) :=
  memory.findClientQueueFrom client passes memory.clientsHead

/-- `unlink_client_queue`. -/
def unlinkClientQueue (memory : PoolMemory) (queue : QueuePtr) : Option PoolMemory := do
  let cell ← memory.queues queue
  let memory ← match cell.prev with
    | some prev => memory.writeQueue prev fun before => { before with next := cell.next }
    | none => some { memory with clientsHead := cell.next }
  let memory ← match cell.next with
    | some next => memory.writeQueue next fun after => { after with prev := cell.prev }
    | none => some { memory with clientsTail := cell.prev }
  if memory.nextClient = some queue then
    some { memory with nextClient := cell.next.or memory.clientsHead }
  else some memory

/-- The branch of `dequeue_fair_request` that takes the head of a queue. -/
def takeHead (memory : PoolMemory) (queue : QueuePtr) (cell : QueueCell) (head : NodePtr) :
    Option (Option Request × PoolMemory) :=
  (memory.nodes head).map fun node =>
    (some node.value,
      { memory with
        queues := Function.update memory.queues queue (some { cell with
          value := { cell.value with
            head := node.next
            tail := if node.next = none then none else cell.value.tail
            queuedCount := cell.value.queuedCount - 1 } })
        nodes := Function.update memory.nodes head none
        pendingRequests := memory.pendingRequests - 1
        nextClient := cell.next.or memory.clientsHead })

/-- The loop of `dequeue_fair_request`, which ends when it is back at the queue it started at. -/
def dequeueFrom (memory : PoolMemory) (start : QueuePtr) :
    Nat → QueuePtr → Option (Option Request × PoolMemory)
  | 0, _ => none
  | passes + 1, queue =>
    match memory.queues queue with
    | some cell =>
      match cell.value.active, cell.value.head with
      | true, some head => memory.takeHead queue cell head
      | _, _ =>
        match cell.next.or memory.clientsHead with
        | some next =>
          if next = start then some (none, memory) else memory.dequeueFrom start passes next
        | none => none
    | none => none

/-- `dequeue_fair_request`: the request, if there is one, and the pool after it. -/
def dequeueFairRequest (memory : PoolMemory) (passes : Nat) :
    Option (Option Request × PoolMemory) :=
  if memory.pendingRequests = 0 ∨ memory.clientsHead = none then some (none, memory)
  else
    match memory.nextClient.or memory.clientsHead with
    | some start => memory.dequeueFrom start passes start
    | none => none

/-- `threadpool_register_client`, with the address of the new queue. -/
def threadpoolRegisterClient (memory : PoolMemory) (client : ClientId) (queue : Option QueuePtr)
    (passes : Nat) : Option (Except PoolError Unit × PoolMemory) :=
  match queue with
  | none => some (.error .noMemory, memory)
  | some queue => do
    let found ← memory.findClientQueue client passes
    if found.isSome then some (.error .exists, memory)
    else
      let added := { memory with
        queues := Function.update memory.queues queue
          (some ⟨{ client }, memory.clientsTail, none⟩) }
      let linked ← match added.clientsTail with
        | some tail => added.writeQueue tail fun before => { before with next := some queue }
        | none => some { added with clientsHead := some queue }
      some (.ok (), { linked with
        clientsTail := some queue
        nextClient := linked.nextClient.or (some queue) })

/-- The loop of `threadpool_remove_client` that destroys the requests of a queue from a node on. -/
def destroyRequests (memory : PoolMemory) : Nat → Option NodePtr → Option (List Request × PoolMemory)
  | _, none => some ([], memory)
  | 0, some _ => none
  | passes + 1, some node =>
    match memory.nodes node with
    | some cell =>
      ({ memory with
        nodes := Function.update memory.nodes node none
        pendingRequests := memory.pendingRequests - 1 }.destroyRequests passes cell.next).map
          fun (requests, memory) => (cell.value :: requests, memory)
    | none => none

/-- `threadpool_remove_client`: the requests that it destroys, and the pool after it. -/
def threadpoolRemoveClient (memory : PoolMemory) (client : ClientId) (passes : Nat) :
    Option (List Request × PoolMemory) := do
  match ← memory.findClientQueue client passes with
  | none => some ([], memory)
  | some queue =>
    let unlinked ← memory.unlinkClientQueue queue
    let cell ← unlinked.queues queue
    let (requests, emptied) ← unlinked.destroyRequests passes cell.value.head
    some (requests, { emptied with queues := Function.update emptied.queues queue none })

/-- `threadpool_submit` for a client with its `disconnected` flag and its `requests_received`,
with the address of the new node. -/
def threadpoolSubmit (memory : PoolMemory) (client : ClientId) (disconnected : Bool)
    (requestsReceived : Nat) (rpcLine : Bytes) (node : Option NodePtr) (passes : Nat) :
    Option (Except PoolError Unit × PoolMemory) :=
  match node with
  | none => some (.error .noMemory, memory)
  | some node =>
    if memory.shuttingDown then some (.error .shutdown, memory)
    else do
      match ← memory.findClientQueue client passes with
      | none => some (.error .notConnected, memory)
      | some queue =>
        let cell ← memory.queues queue
        if !cell.value.active || disconnected then some (.error .notConnected, memory)
        else
          let added := { memory with
            nodes := Function.update memory.nodes node
              (some ⟨{ client, seqNum := requestsReceived, rpcLine }, none⟩) }
          let linked ← match cell.value.tail with
            | some tail => added.writeNode tail fun before => { before with next := some node }
            | none => added.writeQueue queue fun cell =>
                { cell with value := { cell.value with head := some node } }
          let counted ← linked.writeQueue queue fun cell =>
            { cell with
              value := { cell.value with
                tail := some node
                queuedCount := cell.value.queuedCount + 1 } }
          some (.ok (), { counted with pendingRequests := counted.pendingRequests + 1 })

/-- The inner loop of `threadpool_destroy`: destroy the requests of a queue from a node on. -/
def freeNodes (memory : PoolMemory) : Nat → Option NodePtr → Option (List Request × PoolMemory)
  | _, none => some ([], memory)
  | 0, some _ => none
  | passes + 1, some node =>
    match memory.nodes node with
    | some cell =>
      ({ memory with nodes := Function.update memory.nodes node none }.freeNodes passes
        cell.next).map fun (requests, memory) => (cell.value :: requests, memory)
    | none => none

/-- The outer loop of `threadpool_destroy`, from a queue on. -/
def freeQueues (memory : PoolMemory) (nodePasses : Nat) :
    Nat → Option QueuePtr → Option (List Request × PoolMemory)
  | _, none => some ([], memory)
  | 0, some _ => none
  | passes + 1, some queue => do
    let cell ← memory.queues queue
    let (requests, emptied) ← memory.freeNodes nodePasses cell.value.head
    let (later, freed) ← { emptied with
      queues := Function.update emptied.queues queue none }.freeQueues nodePasses passes cell.next
    some (requests ++ later, freed)

/-- `threadpool_destroy` once its workers have exited: the requests that it destroys, and the memory
that is left. -/
def threadpoolDestroy (memory : PoolMemory) (passes : Nat) : Option (List Request × PoolMemory) :=
  memory.freeQueues passes passes memory.clientsHead

end PoolMemory

end AnimateService
