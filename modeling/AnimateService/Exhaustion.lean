import AnimateService.Sessions
import AnimateService.Workers

/-!
# Workers that all wait at a barrier

A barrier call keeps its worker while it waits, and the call that would let it through needs a
worker too. With as many waiting calls as workers, and one of any other user in the queue, nobody
is left to take it. As long as the pool never has more requests, queued and in hand together, than
workers, this cannot happen; with one more it can, whatever the number of workers.
-/
namespace AnimateService

open Transition

/-- A worker waits inside `canvas_record_barrier` or `canvas_record_wait_for_barrier` for a flag
that is set. -/
def BlockedOn (state : WorkersState) (worker : ThreadId) (record : CanvasPtr) (user : UserPtr) :
    Prop :=
  ∃ client pc, state.rpc.threads worker = some ⟨client, pc⟩ ∧ pc.waitsFor = some (record, user) ∧
    state.rpc.world.store.waiting record user = true

/-- The request is one of those that can let somebody through. -/
def MovesBarrier (request : Request) : Prop :=
  (requestTokens request.rpcLine).head? ∈
    [some (bytes "barrier"), some (bytes "destroy_canvas"), some (bytes "Disconnect")]

/-- The request comes from another connected user of a canvas that a worker waits on, and once it
is handled the worker can go on. -/
def Releases (auth : AuthDb) (workerCount : Nat) (state : WorkersState) (request : Request) :
    Prop :=
  MovesBarrier request ∧
  ∃ worker record user canvas waiter member, worker < workerCount ∧
    BlockedOn state worker record user ∧
    state.rpc.world.store.canvases[record]? = some canvas ∧ canvas.users[user]? = some waiter ∧
    member ∈ canvas.users ∧ member.connected = true ∧ member.username ≠ waiter.username ∧
    (state.rpc.sessions request.client).loggedIn = true ∧
    (state.rpc.sessions request.client).username = member.username ∧
    ∃ answers response session world,
      rpcHandleRequest auth (state.rpc.sessions request.client) state.rpc.world request.rpcLine
        answers = some (response, session, world) ∧
      world.store.waiting record user = false

/-- All workers wait at barriers while a request in the queue would let one of them go on. -/
def Exhausted (auth : AuthDb) (workerCount : Nat) (state : WorkersState) : Prop :=
  (∀ worker < workerCount, ∃ record user, BlockedOn state worker record user) ∧
    ∃ request ∈ state.pool.waiting, Releases auth workerCount state request

/-- The number of requests that wait in the pool or are in a worker's hand. -/
def load (workerCount : Nat) (state : WorkersState) : Nat :=
  state.pool.waiting.length +
    (List.range workerCount).countP fun worker => (state.inHand worker).isSome

variable {auth : AuthDb} {deadly : Bool} {workerCount : Nat} {state next : WorkersState}

/-- Exhausted workers have more requests than there are workers. -/
theorem Exhausted.load (formed : state.Formed workerCount)
    (exhausted : Exhausted auth workerCount state) : workerCount < load workerCount state := by
  obtain ⟨blocked, request, waits, -⟩ := exhausted
  have busy : ((List.range workerCount).countP fun worker => (state.inHand worker).isSome) =
      workerCount := by
    rw [List.countP_eq_length.mpr, List.length_range]
    intro worker member
    obtain ⟨record, user, client, pc, working, -⟩ := blocked worker (List.mem_range.mp member)
    obtain ⟨held, holding, -⟩ := formed.holding (List.mem_range.mp member) working
    rw [holding]
    rfl
  have queued := List.length_pos_of_mem waits
  rw [AnimateService.load, busy]
  omega

/-- No more requests are in hand than there are workers. -/
theorem load_le (state : WorkersState) :
    load workerCount state ≤ state.pool.waiting.length + workerCount := by
  have bounded : ((List.range workerCount).countP fun worker => (state.inHand worker).isSome) ≤
      (List.range workerCount).length := List.countP_le_length
  rw [List.length_range] at bounded
  exact Nat.add_le_add_left bounded _

/-! ## One user's barrier calls take all workers -/

/-- Two users. -/
def annAndBob : AuthDb := [⟨bytes "ann", 5⟩, ⟨bytes "bob", 5⟩]

/-- A client sends a line and one worker handles and answers it. -/
def served (client : ClientId) (line : String) (steps count : Nat) : List WorkersLabel :=
  [.submit client (bytes line) true, .dequeue 0] ++ List.replicate steps (.advance 0 {}) ++
    [.respond 0 true [.wrote count]]

/-- Ann shares a canvas with Bob, who looks it up. -/
def gathering : List WorkersLabel :=
  [.register 0 4 true, .register 1 5 true] ++ served 0 "Login ann" 1 2 ++
    served 1 "Login bob" 1 2 ++ served 0 "create_canvas 1 1 0" 2 4 ++
    served 0 "share_canvas 1 bob" 2 2 ++ served 1 "share_canvas 1 bob" 2 2

/-- Ann calls the barrier, and a worker waits for Bob. -/
def waitsAt (worker : ThreadId) : List WorkersLabel :=
  [.submit 0 (bytes "barrier 1") true, .dequeue worker, .advance worker {}, .advance worker {}]

/-- Ann waits at the barrier of the shared canvas. -/
def crowdedStore : HandleStore where
  nextId := 2
  canvases :=
    [{ id := 1, canvas := some 0, width := 1, height := 1, deleted := false,
       users := [⟨bytes "ann", true, true⟩, ⟨bytes "bob", true, false⟩] }]

/-- The queues while nothing waits. -/
def emptyQueues : Pool where
  clients := [{ client := 0 }, { client := 1 }]
  nextClient := some 1

/-- The session of a user. -/
def sessionOf (name : String) : Session :=
  { username := bytes name, balance := 5, loggedIn := true }

/-- The first workers are at barrier calls of Ann, and the others are idle. -/
structure Crowded (count : Nat) (state : WorkersState) : Prop where
  /-- The process lives. -/
  alive : state.alive = true
  /-- Ann waits. -/
  store : state.rpc.world.store = crowdedStore
  /-- Ann is logged in. -/
  ann : state.rpc.sessions 0 = sessionOf "ann"
  /-- Bob is logged in. -/
  bob : state.rpc.sessions 1 = sessionOf "bob"
  /-- The workers. -/
  threads : ∀ worker, state.rpc.threads worker =
    if worker < count then some ⟨0, .barrierWait 0 0⟩ else none
  /-- Nothing is queued. -/
  pool : state.pool = emptyQueues
  /-- Both clients are connected. -/
  connected : ∀ client < 2, ∃ record, state.clients client = some record ∧
    record.stream.output.disconnected = false

/-- Ann's request gets to the lock. -/
theorem crowded_start (world : World) :
    advance annAndBob {} (sessionOf "ann") world (.start (bytes "barrier 1")) =
      (sessionOf "ann", world, .locking (.barrier 1)) := rfl

/-- Once more Ann has to wait, and changes nothing by it. -/
theorem crowded_wait {world : World} (store : world.store = crowdedStore) :
    advance annAndBob {} (sessionOf "ann") world (.locking (.barrier 1)) =
      (sessionOf "ann", world, .barrierWait 0 0) := by
  obtain ⟨store, library, files⟩ := world
  subst store
  rfl

/-- Ann's request is queued. -/
def withBarrier (seqNum : Nat) : Pool where
  clients :=
    [{ client := 0, requests := [⟨0, seqNum, bytes "barrier 1"⟩], queuedCount := 1 }, { client := 1 }]
  nextClient := some 1
  pendingRequests := 1

/-- One more worker waits for Bob. -/
theorem Crowded.wait {count : Nat} (crowded : Crowded count state) (free : count < workerCount) :
    ∃ next, (workersMachine annAndBob true workerCount).run state (waitsAt count) = some next ∧
      (workersMachine annAndBob true workerCount).Always
        (fun state => state.pool.waiting.length ≤ 1) state (waitsAt count) ∧
      Crowded (count + 1) next := by
  obtain ⟨record, present, connected⟩ := crowded.connected 0 (by decide)
  have submitted : threadpoolSubmit state.pool 0 record.stream.output.disconnected
      record.requestsReceived (bytes "barrier 1") true = .ok (withBarrier record.requestsReceived) := by
    rw [crowded.pool, connected]
    rfl
  let queued := { state with pool := withBarrier record.requestsReceived }.setClient 0
    { record with
      requestsReceived := (record.requestsReceived + 1) % 2 ^ 64
      submitted := record.submitted ++ [bytes "barrier 1"] }
  have idle : queued.rpc.threads count = none :=
    (crowded.threads count).trans (if_neg (lt_irrefl _))
  have dequeued : dequeueFairRequest queued.pool =
      some (⟨0, record.requestsReceived, bytes "barrier 1"⟩, emptyQueues) := rfl
  let taken := queued.take count ⟨0, record.requestsReceived, bytes "barrier 1"⟩ emptyQueues
  let begun := { taken with
    rpc := taken.rpc.advanceThread annAndBob count 0 (.start (bytes "barrier 1")) {} }
  let waiting := { begun with
    rpc := begun.rpc.advanceThread annAndBob count 0 (.locking (.barrier 1)) {} }
  have ann : taken.rpc.sessions 0 = sessionOf "ann" := crowded.ann
  have begun_rpc : begun.rpc =
      { sessions := Function.update taken.rpc.sessions 0 (sessionOf "ann")
        world := state.rpc.world
        threads := Function.update taken.rpc.threads count (some ⟨0, .locking (.barrier 1)⟩) } := by
    simp only [begun, RpcState.advanceThread, ann, crowded_start]
    rfl
  have waiting_rpc : waiting.rpc =
      { sessions := Function.update begun.rpc.sessions 0 (sessionOf "ann")
        world := state.rpc.world
        threads := Function.update begun.rpc.threads count (some ⟨0, .barrierWait 0 0⟩) } := by
    simp only [waiting, RpcState.advanceThread, begun_rpc, Function.update_self,
      crowded_wait crowded.store]
  have working : taken.rpc.threads count = some ⟨0, .start (bytes "barrier 1")⟩ :=
    Function.update_self ..
  have locking : begun.rpc.threads count = some ⟨0, .locking (.barrier 1)⟩ := by
    rw [begun_rpc]
    exact Function.update_self ..
  have submits : (workersMachine annAndBob true workerCount).step state
      (.submit 0 (bytes "barrier 1") true) = some queued :=
    (WorkersStep.submit present submitted).possible crowded.alive
  have takes : (workersMachine annAndBob true workerCount).step queued (.dequeue count) =
      some taken := (WorkersStep.dequeue idle free dequeued).possible crowded.alive
  have begins : (workersMachine annAndBob true workerCount).step taken (.advance count {}) =
      some begun := (WorkersStep.advance (rpcMachine_advance working rfl)).possible crowded.alive
  have enters : (workersMachine annAndBob true workerCount).step begun (.advance count {}) =
      some waiting := (WorkersStep.advance (rpcMachine_advance locking rfl)).possible crowded.alive
  refine ⟨waiting, ?_, ?_, ?_⟩
  · exact Machine.run_cons_some.mpr ⟨_, submits, Machine.run_cons_some.mpr ⟨_, takes,
      Machine.run_cons_some.mpr ⟨_, begins, Machine.run_cons_some.mpr ⟨_, enters, rfl⟩⟩⟩⟩
  · refine Machine.always_cons ?_ submits (Machine.always_cons ?_ takes
      (Machine.always_cons ?_ begins (Machine.always_cons ?_ enters ?_)))
    · rw [crowded.pool]
      decide
    · exact Nat.le_refl 1
    all_goals exact Nat.zero_le 1
  · constructor
    case alive => exact crowded.alive
    case store => exact (congrArg (fun rpc => rpc.world.store) waiting_rpc).trans crowded.store
    case ann => simp only [waiting_rpc, Function.update_self]
    case bob =>
      have bob : taken.rpc.sessions 1 = sessionOf "bob" := crowded.bob
      have apart : (1 : ClientId) ≠ 0 := by decide
      simp only [waiting_rpc, begun_rpc, Function.update_of_ne apart, bob]
    case threads =>
      intro worker
      rw [waiting_rpc, begun_rpc]
      by_cases here : worker = count
      · simp [here]
      · have bound : worker < count + 1 ↔ worker < count := by
          rw [Nat.lt_succ_iff_lt_or_eq, or_iff_left here]
        simp only [Function.update_of_ne here, bound]
        exact (Function.update_of_ne here ..).trans (crowded.threads worker)
    case pool => rfl
    case connected =>
      intro client known
      by_cases here : client = 0
      · subst here
        have written : queued.clients 0 = some _ := clients_setClient_self
        exact ⟨_, written, connected⟩
      · obtain ⟨other, there, fine⟩ := crowded.connected client known
        exact ⟨other, (Function.update_of_ne here ..).trans there, fine⟩

/-- What there is to see of Ann, Bob and the first worker. -/
def scene (state : WorkersState) :
    (Bool × HandleStore × Pool) × (Session × Session) × Option Thread × Option Bool × Option Bool :=
  ((state.alive, state.rpc.world.store, state.pool), (state.rpc.sessions 0, state.rpc.sessions 1),
    state.rpc.threads 0,
    (state.clients 0).map fun record => record.stream.output.disconnected,
    (state.clients 1).map fun record => record.stream.output.disconnected)

/-- One worker can be made to wait for Bob. -/
theorem crowded_first : ∃ last,
    (workersMachine annAndBob true 1).run {} (gathering ++ waitsAt 0) = some last ∧
    Crowded 1 last := by
  have seen : ((workersMachine annAndBob true 1).run {} (gathering ++ waitsAt 0)).map scene =
      some ((true, crowdedStore, emptyQueues), (sessionOf "ann", sessionOf "bob"),
        some ⟨0, .barrierWait 0 0⟩, some false, some false) := rfl
  obtain ⟨last, ran, same⟩ := Option.map_eq_some_iff.mp seen
  simp only [scene, Prod.mk.injEq] at same
  obtain ⟨⟨alive, store, pool⟩, ⟨ann, bob⟩, waits, first, second⟩ := same
  refine ⟨last, ran, alive, store, ann, bob, ?_, pool, ?_⟩
  · intro worker
    by_cases known : worker < 1
    · obtain rfl := Nat.lt_one_iff.mp known
      exact waits
    · rw [if_neg known]
      exact workersMachine_run_quiet ran (by decide) worker (Nat.le_of_not_lt known)
  · intro client known
    obtain rfl | rfl := Nat.le_one_iff_eq_zero_or_eq_one.mp (Nat.lt_succ_iff.mp known)
    · exact Option.map_eq_some_iff.mp first
    · exact Option.map_eq_some_iff.mp second

/-- The calls of one user can take any number of the workers. -/
theorem crowded_run {count : Nat} (some_ : 1 ≤ count) (known : count ≤ workerCount) :
    ∃ labels last, (workersMachine annAndBob true workerCount).run {} labels = some last ∧
      (workersMachine annAndBob true workerCount).Always
        (fun state => state.pool.waiting.length ≤ 1) {} labels ∧
      Crowded count last := by
  induction count, some_ using Nat.le_induction with
  | base =>
    obtain ⟨last, ran, crowded⟩ := crowded_first
    have open_ : ∀ label ∈ gathering ++ waitsAt 0, label.closes = false := by decide
    have few : (workersMachine annAndBob true 1).Always
        (fun state => decide (state.pool.waiting.length ≤ 1) = true) {} (gathering ++ waitsAt 0) :=
      Machine.always_of_checks (by decide +kernel)
    exact ⟨_, last, workersMachine_run_more known open_ ran,
      workersMachine_always_more known open_ ran
        (few.imp fun state => of_decide_eq_true), crowded⟩
  | succ count many ih =>
    obtain ⟨labels, last, ran, few, crowded⟩ := ih (Nat.le_of_succ_le known)
    obtain ⟨next, more, always, waits⟩ := crowded.wait (Nat.lt_of_succ_le known)
    exact ⟨labels ++ waitsAt count, next, Machine.run_append_some.mpr ⟨_, ran, more⟩,
      Machine.always_append ran few always, waits⟩

/-- Bob's request waits. -/
def withBob (seqNum : Nat) : Pool where
  clients :=
    [{ client := 0 }, { client := 1, requests := [⟨1, seqNum, bytes "barrier 1"⟩], queuedCount := 1 }]
  nextClient := some 1
  pendingRequests := 1

/-- Bob's request would let Ann through. -/
theorem crowded_release {world : World} (store : world.store = crowdedStore) :
    ∃ response session after,
      rpcHandleRequest annAndBob (sessionOf "bob") world (bytes "barrier 1") [{}, {}] =
        some (response, session, after) ∧ after.store.waiting 0 0 = false := by
  obtain ⟨store, library, files⟩ := world
  subst store
  exact ⟨_, _, _, rfl, rfl⟩

/-- Once all workers wait for Bob, his request exhausts them. -/
theorem Crowded.exhausted (crowded : Crowded workerCount state) (staffed : 1 ≤ workerCount) :
    ∃ next, (workersMachine annAndBob true workerCount).step state
        (.submit 1 (bytes "barrier 1") true) = some next ∧
      next.pool.waiting.length ≤ 1 ∧ Exhausted annAndBob workerCount next := by
  obtain ⟨record, present, connected⟩ := crowded.connected 1 (by decide)
  have submitted : threadpoolSubmit state.pool 1 record.stream.output.disconnected
      record.requestsReceived (bytes "barrier 1") true = .ok (withBob record.requestsReceived) := by
    rw [crowded.pool, connected]
    rfl
  have blocked : ∀ worker < workerCount, BlockedOn state worker 0 0 := by
    intro worker known
    refine ⟨0, .barrierWait 0 0, (crowded.threads worker).trans (if_pos known), rfl, ?_⟩
    rw [crowded.store]
    rfl
  refine ⟨_, (WorkersStep.submit present submitted).possible crowded.alive, Nat.le_refl 1, ?_, ?_⟩
  · exact fun worker known => ⟨0, 0, blocked worker known⟩
  · obtain ⟨response, session, after, handled, through⟩ := crowded_release crowded.store
    rw [← crowded.bob] at handled
    refine ⟨⟨1, record.requestsReceived, bytes "barrier 1"⟩, List.mem_cons_self, ?_, 0, 0, 0, _,
      ⟨bytes "ann", true, true⟩, ⟨bytes "bob", true, false⟩, staffed, blocked 0 staffed,
      congrArg (fun store : HandleStore => store.canvases[0]?) crowded.store, rfl, ?_, rfl, ?_, ?_,
      ?_, [{}, {}], response, session, after, handled, through⟩
    · have word : (requestTokens (bytes "barrier 1")).head? = some (bytes "barrier") := by decide
      rw [MovesBarrier, word]
      exact List.mem_cons_self
    · exact List.mem_cons_of_mem _ List.mem_cons_self
    · decide
    · exact congrArg Session.loggedIn crowded.bob
    · exact congrArg Session.username crowded.bob

/-- In every run in which the pool never has more than a number of requests, queued and in hand
together, the workers are never exhausted, exactly if there are at least as many workers. -/
theorem never_exhausted_iff {workerCount limit : Nat} (staffed : 1 ≤ workerCount) :
    (∀ auth deadly labels last,
      (workersMachine auth deadly workerCount).run {} labels = some last →
      (workersMachine auth deadly workerCount).Always
        (fun state => load workerCount state ≤ limit) {} labels →
      (workersMachine auth deadly workerCount).Always
        (fun state => ¬ Exhausted auth workerCount state) {} labels) ↔ limit ≤ workerCount := by
  constructor
  · intro claim
    by_contra more
    obtain ⟨labels, last, ran, few, crowded⟩ := crowded_run staffed (le_refl workerCount)
    obtain ⟨next, step, one, exhausted⟩ := crowded.exhausted staffed
    have all := Machine.run_concat ran step
    have light : (workersMachine annAndBob true workerCount).Always
        (fun state => load workerCount state ≤ limit) {}
          (labels ++ [.submit 1 (bytes "barrier 1") true]) := by
      have ends : (workersMachine annAndBob true workerCount).Always
        (fun state => state.pool.waiting.length ≤ 1) next [] := one
      have always := Machine.always_append ran few (Machine.always_cons (few.last ran) step ends)
      refine always.imp fun state bounded => (load_le state).trans ?_
      omega
    exact (claim annAndBob true _ next all light).last all exhausted
  · intro enough auth deadly labels last ran light
    rw [Machine.always_iff_segments] at light ⊢
    intro front back reached split segment exhausted
    have bounded := light front back reached split segment
    have above := exhausted.load (workersMachine_run_formed segment)
    omega

/-- Bob's request comes while ann waits for him. -/
def bobComes : List WorkersLabel :=
  gathering ++ waitsAt 0 ++ [.submit 1 (bytes "barrier 1") true]

/-- Two workers that never have more than two requests are not exhausted by it. -/
theorem never_exhausted_iff_bobComes : ∃ last,
    (workersMachine annAndBob true 2).run {} bobComes = some last ∧ load 2 last = 2 ∧
      (workersMachine annAndBob true 2).Always (fun state => ¬ Exhausted annAndBob 2 state) {}
        bobComes := by
  obtain ⟨last, ran, two⟩ := Option.map_eq_some_iff.mp (by decide +kernel :
    ((workersMachine annAndBob true 2).run {} bobComes).map (load 2) = some 2)
  have light : (workersMachine annAndBob true 2).Always
      (fun state => decide (load 2 state ≤ 2) = true) {} bobComes :=
    Machine.always_of_checks (by decide +kernel)
  have claim := (never_exhausted_iff (by decide : 1 ≤ 2)).mpr (Nat.le_refl 2)
  exact ⟨last, ran, two, claim _ true _ last ran (light.imp fun _ => of_decide_eq_true)⟩

/-- It is not so that the workers are never exhausted. -/
theorem never_exhausted_false : ¬ ∀ (workerCount : Nat) (auth : AuthDb) (deadly : Bool)
    (labels : List WorkersLabel) (last : WorkersState), 1 ≤ workerCount →
    (workersMachine auth deadly workerCount).run {} labels = some last →
    ¬ Exhausted auth workerCount last := by
  intro claim
  obtain ⟨labels, last, ran, -, crowded⟩ := crowded_run (by decide) (le_refl 2)
  obtain ⟨next, step, -, exhausted⟩ := crowded.exhausted (by decide)
  exact claim 2 annAndBob true _ next (by decide) (Machine.run_concat ran step) exhausted

end AnimateService
