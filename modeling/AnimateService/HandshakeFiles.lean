import AnimateService.HandshakeSteps

/-!
# The FIFOs of the handshake

Where the FIFOs are that the server creates, and who has them open. Every FIFO is at the path of the
client it was created for, and only the server and processes of that PID open it, each in its own
direction. On every way out of `accept_client` and `close_client` the server has closed and unlinked
what does not belong to a record: its open FIFOs and the FIFOs in the directory are those of the
clients that it has not closed, be they marked as disconnected or not.
-/
namespace AnimateService

open Transition NamedPipes

variable {fifoDir : Option Bytes} {state next last : Handshake} {pid : Pid} {kind : FifoKind}
  {inode : Inode}

/-! ## Fields -/

@[simp] theorem terminate_files (place : ProcessPlace) :
    (state.terminate pid place).files = state.files := by cases place <;> rfl
@[simp] theorem terminate_origin (place : ProcessPlace) :
    (state.terminate pid place).origin = state.origin := by cases place <;> rfl
@[simp] theorem terminate_made (place : ProcessPlace) :
    (state.terminate pid place).made = state.made := by cases place <;> rfl
@[simp] theorem terminate_server (place : ProcessPlace) :
    (state.terminate pid place).server = state.server := by cases place <;> rfl
@[simp] theorem terminate_clients (place : ProcessPlace) :
    (state.terminate pid place).clients = state.clients := by cases place <;> rfl
@[simp] theorem terminate_held (place : ProcessPlace) :
    (state.terminate pid place).held = state.held := by cases place <;> rfl
@[simp] theorem terminate_pending (place : ProcessPlace) :
    (state.terminate pid place).pending = state.pending := by cases place <;> rfl
@[simp] theorem terminate_usr1 (place : ProcessPlace) :
    (state.terminate pid place).usr1 = state.usr1 := by cases place <;> rfl
@[simp] theorem terminate_processes (place : ProcessPlace) :
    (state.terminate pid place).processes = Function.update state.processes pid none := by
  cases place <;> rfl

/-- An `unlink` takes at most its path away. -/
theorem unlink_files (path : Bytes) (ok : Bool) (other : Bytes) :
    (state.unlink path ok).files other =
      if other = path ∧ ok = true then none else state.files other := by
  cases ok with
  | false => simp [Handshake.unlink]
  | true => simp [Handshake.unlink, Function.update_apply]

/-- It changes nothing but the directory. -/
theorem unlink_other (path : Bytes) (ok : Bool) :
    state.unlink path ok = { state with files := (state.unlink path ok).files } := by
  cases ok <;> rfl

/-! ## What the server has created -/

/-- A FIFO that the server created for a client is at its path. -/
def Handshake.Has (fifoDir : Option Bytes) (state : Handshake) (pid : Pid) (kind : FifoKind)
    (inode : Inode) : Prop :=
  state.files (fifoPath fifoDir kind pid) = some inode ∧ state.origin inode = some (pid, kind)

/-- The FIFOs that exist at a stage of `accept_client`. -/
def AcceptStage.Created (has : FifoKind → Inode → Prop) : AcceptStage → Prop
  | .make .s2c | .unmake => ∃ c2s, has .c2s c2s
  | .signal | .openC2s => ∃ fifos : FifoPair, ∀ kind, has kind (fifos.fifo kind)
  | .openS2c c2s => ∃ fifos : FifoPair, fifos.c2s = c2s ∧ ∀ kind, has kind (fifos.fifo kind)
  | .enterS2c fifos _ | .register fifos => ∀ kind, has kind (fifos.fifo kind)
  | _ => True

/-- The FIFOs that are closed while a client is dropped. -/
def LeaveStage.Created (created : FifoKind → Inode → Prop) : LeaveStage → Prop
  | .closeC2s c2s s2c => created .c2s c2s ∧ ∀ inode, s2c = some inode → created .s2c inode
  | .closeS2c s2c => created .s2c s2c
  | .unlink _ => True

/-- The place of the main loop fits what the server has created. -/
def ServerPlace.Fits (fifoDir : Option Bytes) (state : Handshake) : ServerPlace → Prop
  | .accept pid stage => pid ∉ state.clients ∧ stage.Created (state.Has fifoDir pid)
  | .leave pid stage => state.held pid = none ∧
      stage.Created fun kind inode => state.origin inode = some (pid, kind)
  | _ => True

/-- The FIFOs are numbered as they are created, each is where it was created, and a client that is
connected has its two. -/
structure Handshake.Sorted (fifoDir : Option Bytes) (state : Handshake) : Prop where
  /-- A FIFO was created before the ones that are yet to be. -/
  created : ∀ inode owner, state.origin inode = some owner → inode < state.made
  /-- So were those in the directory. -/
  found : ∀ path inode, state.files path = some inode → inode < state.made
  /-- A FIFO is not at another path. -/
  placed : ∀ path inode pid kind, state.files path = some inode →
    state.origin inode = some (pid, kind) → path = fifoPath fifoDir kind pid
  /-- A connected client is listed, and its FIFOs are there. -/
  held : ∀ pid fifos, state.held pid = some fifos →
    pid ∈ state.clients ∧ ∀ kind, state.Has fifoDir pid kind (fifos.fifo kind)
  /-- The main loop is on the way. -/
  fits : state.server.Fits fifoDir state

/-- The directory, the records and the main loop are the same. -/
structure Handshake.SameServer (state next : Handshake) : Prop where
  files : next.files = state.files
  origin : next.origin = state.origin
  made : next.made = state.made
  server : next.server = state.server
  clients : next.clients = state.clients
  held : next.held = state.held

/-- The end of a process leaves the server alone. -/
theorem sameServer_terminate (place : ProcessPlace) :
    state.SameServer (state.terminate pid place) := by
  constructor <;> simp

/-- What was said of the FIFOs depends on the server only. -/
theorem Handshake.Sorted.same (sorted : state.Sorted fifoDir) (same : state.SameServer next) :
    next.Sorted fifoDir := by
  obtain ⟨files, origin, made, server, clients, held⟩ := same
  have has : next.Has fifoDir = state.Has fifoDir := by
    funext pid kind inode
    rw [Handshake.Has, Handshake.Has, files, origin]
  have fits := sorted.fits
  constructor
  case created => rw [origin, made]; exact sorted.created
  case found => rw [files, made]; exact sorted.found
  case placed => rw [files, origin]; exact sorted.placed
  case held => rw [held, clients, has]; exact sorted.held
  case fits =>
    rw [server]
    cases place : state.server with
    | accept pid stage =>
      rw [place] at fits
      simpa only [ServerPlace.Fits, clients, has] using fits
    | leave pid stage =>
      rw [place] at fits
      simpa only [ServerPlace.Fits, held, origin] using fits
    | _ => trivial

/-- The main loop moves to a place that fits. -/
theorem Handshake.Sorted.goTo (sorted : state.Sorted fifoDir) {place : ServerPlace}
    (fits : place.Fits fifoDir (state.goTo place)) : (state.goTo place).Sorted fifoDir where
  created := sorted.created
  found := sorted.found
  placed := sorted.placed
  held := sorted.held
  fits := fits

/-- A client that is not listed is not connected. -/
theorem Handshake.Sorted.unlisted (sorted : state.Sorted fifoDir) (new : pid ∉ state.clients) :
    state.held pid = none := by
  cases connected : state.held pid with
  | none => rfl
  | some fifos => exact absurd (sorted.held pid fifos connected).1 new

/-- A FIFO stays that is not unlinked. -/
theorem has_unlink {other : FifoKind} {unlinked : Pid} (has : state.Has fifoDir pid kind inode)
    (apart : ¬ (kind = other ∧ pid = unlinked)) (ok : Bool) :
    (state.unlink (fifoPath fifoDir other unlinked) ok).Has fifoDir pid kind inode := by
  constructor
  · rw [unlink_files, if_neg fun same => apart (fifoPath_injective same.1)]
    exact has.1
  · rw [unlink_other]
    exact has.2

/-- An `unlink` for a client that is not connected; the main loop is elsewhere then. -/
theorem Handshake.Sorted.unlink (sorted : state.Sorted fifoDir) (free : state.held pid = none)
    (kind : FifoKind) (ok : Bool) {place : ServerPlace}
    (fits : place.Fits fifoDir
      ((state.unlink (fifoPath fifoDir kind pid) ok).goTo place)) :
    ((state.unlink (fifoPath fifoDir kind pid) ok).goTo place).Sorted fifoDir := by
  have kept : ∀ path inode, (state.unlink (fifoPath fifoDir kind pid) ok).files path = some inode →
      state.files path = some inode := by
    intro path inode there
    rw [unlink_files] at there
    exact (Option.ite_none_left_eq_some.mp there).2
  have origin : (state.unlink (fifoPath fifoDir kind pid) ok).origin = state.origin := by
    rw [unlink_other]
  have made : (state.unlink (fifoPath fifoDir kind pid) ok).made = state.made := by
    rw [unlink_other]
  have held : (state.unlink (fifoPath fifoDir kind pid) ok).held = state.held := by
    rw [unlink_other]
  have clients : (state.unlink (fifoPath fifoDir kind pid) ok).clients = state.clients := by
    rw [unlink_other]
  constructor
  case created =>
    change ∀ inode owner, (state.unlink _ ok).origin inode = some owner → inode < _
    rw [origin]
    exact fun inode owner there => lt_of_lt_of_eq (sorted.created inode owner there) made.symm
  case found =>
    exact fun path inode there => lt_of_lt_of_eq (sorted.found path inode (kept path inode there))
      made.symm
  case placed =>
    intro path inode pid kind there born
    change (state.unlink _ ok).origin inode = _ at born
    rw [origin] at born
    exact sorted.placed path inode pid kind (kept path inode there) born
  case held =>
    intro other fifos connected
    change (state.unlink _ ok).held other = _ at connected
    rw [held] at connected
    obtain ⟨listed, has⟩ := sorted.held other fifos connected
    refine ⟨?_, fun kind => ?_⟩
    · change other ∈ (state.unlink _ ok).clients
      rwa [clients]
    · refine has_unlink (has kind) ?_ ok
      rintro ⟨-, rfl⟩
      rw [free] at connected
      cases connected
  case fits => exact fits

/-- A FIFO is kept by the creation of another one. -/
theorem has_mkfifo (sorted : state.Sorted fifoDir) (has : state.Has fifoDir pid kind inode)
    {path : Bytes} (free : state.files path = none) (owner : Pid) (new : FifoKind) :
    (state.mkfifo path owner new).Has fifoDir pid kind inode := by
  constructor
  · change Function.update state.files path (some state.made) _ = _
    rw [Function.update_of_ne]
    · exact has.1
    · rintro rfl
      rw [has.1] at free
      cases free
  · change Function.update state.origin state.made (some (owner, new)) inode = _
    rw [Function.update_of_ne (Nat.ne_of_lt (sorted.created inode _ has.2))]
    exact has.2

/-- A `mkfifo` at a path that is free. -/
theorem Handshake.Sorted.mkfifo (sorted : state.Sorted fifoDir)
    (free : state.files (fifoPath fifoDir kind pid) = none) {place : ServerPlace}
    (fits : place.Fits fifoDir
      ((state.mkfifo (fifoPath fifoDir kind pid) pid kind).goTo place)) :
    ((state.mkfifo (fifoPath fifoDir kind pid) pid kind).goTo place).Sorted fifoDir := by
  constructor
  case created =>
    intro inode owner born
    change Function.update state.origin state.made _ inode = _ at born
    by_cases new : inode = state.made
    · exact new ▸ Nat.lt_succ_self _
    · rw [Function.update_of_ne new] at born
      exact Nat.lt_succ_of_lt (sorted.created inode owner born)
  case found =>
    intro path inode there
    change Function.update state.files _ _ path = _ at there
    by_cases here : path = fifoPath fifoDir kind pid
    · rw [here, Function.update_self] at there
      cases there
      exact Nat.lt_succ_self _
    · rw [Function.update_of_ne here] at there
      exact Nat.lt_succ_of_lt (sorted.found path inode there)
  case placed =>
    intro path inode other sort there born
    change Function.update state.files _ _ path = _ at there
    change Function.update state.origin state.made _ inode = _ at born
    by_cases here : path = fifoPath fifoDir kind pid
    · rw [here, Function.update_self] at there
      cases there
      rw [Function.update_self] at born
      cases born
      exact here
    · rw [Function.update_of_ne here] at there
      rw [Function.update_of_ne (Nat.ne_of_lt (sorted.found path inode there))] at born
      exact sorted.placed path inode other sort there born
  case held =>
    intro other fifos connected
    obtain ⟨listed, has⟩ := sorted.held other fifos connected
    exact ⟨listed, fun kind => has_mkfifo sorted (has kind) free _ _⟩
  case fits => exact fits

/-- The new FIFO is there. -/
theorem has_made : (state.mkfifo (fifoPath fifoDir kind pid) pid kind).Has fifoDir pid kind
    state.made := ⟨Function.update_self .., Function.update_self ..⟩

/-- A client is connected to the FIFOs that were created for it. -/
theorem Handshake.Sorted.register (sorted : state.Sorted fifoDir) {fifos : FifoPair}
    (has : ∀ kind, state.Has fifoDir pid kind (fifos.fifo kind)) :
    Handshake.Sorted fifoDir { state with
      server := .idle
      clients := pid :: state.clients
      held := Function.update state.held pid (some fifos) } := by
  refine ⟨sorted.created, sorted.found, sorted.placed, fun other opened connected => ?_, trivial⟩
  change Function.update state.held pid (some fifos) other = _ at connected
  by_cases here : other = pid
  · subst here
    rw [Function.update_self] at connected
    cases connected
    exact ⟨List.mem_cons_self, has⟩
  · rw [Function.update_of_ne here] at connected
    obtain ⟨listed, others⟩ := sorted.held other opened connected
    exact ⟨List.mem_cons_of_mem pid listed, others⟩

/-- A client is about to be dropped with its FIFOs. -/
theorem Handshake.Sorted.drop (sorted : state.Sorted fifoDir) {fifos : FifoPair}
    (connected : state.held pid = some fifos) :
    Handshake.Sorted fifoDir { state with
      server := .leave pid (.closeC2s fifos.c2s (some fifos.s2c))
      held := Function.update state.held pid none } := by
  obtain ⟨listed, has⟩ := sorted.held pid fifos connected
  refine ⟨sorted.created, sorted.found, sorted.placed, fun other opened held => ?_,
    Function.update_self .., (has .c2s).2, ?_⟩
  · change Function.update state.held pid none other = _ at held
    by_cases here : other = pid
    · rw [here, Function.update_self] at held
      cases held
    · rw [Function.update_of_ne here] at held
      exact sorted.held other opened held
  · rintro inode ⟨⟩
    exact (has .s2c).2

/-- Every step keeps the FIFOs sorted. -/
theorem HandshakeStep.sorted (sorted : state.Sorted fifoDir) {label : HandshakeLabel}
    (step : HandshakeStep fifoDir state label next) : next.Sorted fifoDir := by
  have fits := sorted.fits
  cases step with
  | gaveUp there why | exited there | killed there sent =>
    exact sorted.same (sameServer_terminate _)
  | interrupt sent handled place waits =>
    rw [place] at fits
    obtain ⟨new, has⟩ := fits
    exact ⟨sorted.created, sorted.found, sorted.placed, sorted.held,
      sorted.unlisted new, (has .c2s).2, by simp⟩
  | read place taken => exact ⟨sorted.created, sorted.found, sorted.placed, sorted.held, trivial⟩
  | decline place taken cleared =>
    exact ⟨sorted.created, sorted.found, sorted.placed, sorted.held, trivial⟩
  | accept place taken cleared real new =>
    exact ⟨sorted.created, sorted.found, sorted.placed, sorted.held, new, trivial⟩
  | tooLong place => exact sorted.goTo trivial
  | paths place named =>
    rw [place] at fits
    exact sorted.goTo ⟨fits.1, trivial⟩
  | unlinkOld place =>
    rename_i ok pid kind
    rw [place] at fits
    refine sorted.unlink (sorted.unlisted fits.1) kind ok ⟨?_, ?_⟩
    · rw [unlink_other]
      exact fits.1
    · cases kind <;> trivial
  | unmade place =>
    rename_i ok pid kind
    rw [place] at fits
    cases kind with
    | c2s => exact sorted.goTo trivial
    | s2c => exact sorted.goTo fits
  | make place free =>
    rename_i pid kind
    rw [place] at fits
    obtain ⟨new, has⟩ := fits
    refine sorted.mkfifo free ?_
    cases kind with
    | c2s => exact ⟨new, _, has_made⟩
    | s2c =>
      obtain ⟨c2s, has⟩ := has
      refine ⟨new, ⟨c2s, state.made⟩, fun kind => ?_⟩
      cases kind with
      | c2s => exact has_mkfifo sorted has free _ _
      | s2c => exact has_made
  | unmake place =>
    rename_i ok pid
    rw [place] at fits
    exact sorted.unlink (sorted.unlisted fits.1) .c2s ok trivial
  | signal place there =>
    rw [place] at fits
    exact ⟨sorted.created, sorted.found, sorted.placed, sorted.held, fits⟩
  | unsignalled place =>
    rw [place] at fits
    exact sorted.goTo ⟨sorted.unlisted fits.1, trivial⟩
  | openReading place found =>
    rw [place] at fits
    obtain ⟨new, fifos, has⟩ := fits
    have same := Option.some.inj ((has .c2s).1.symm.trans found)
    exact ⟨sorted.created, sorted.found, sorted.placed, sorted.held, new, fifos, same, has⟩
  | unopened place failed =>
    rw [place] at fits
    exact sorted.goTo ⟨sorted.unlisted fits.1, trivial⟩
  | openWriting place found =>
    rw [place] at fits
    obtain ⟨new, fifos, rfl, has⟩ := fits
    have same := Option.some.inj ((has .s2c).1.symm.trans found)
    refine ⟨sorted.created, sorted.found, sorted.placed, sorted.held, new, fun kind => ?_⟩
    cases kind with
    | c2s => exact has .c2s
    | s2c => exact same ▸ has .s2c
  | unopenedS2c place failed =>
    rw [place] at fits
    obtain ⟨new, fifos, rfl, has⟩ := fits
    exact sorted.goTo ⟨sorted.unlisted new, (has .c2s).2, by simp⟩
  | enter place returned =>
    rw [place] at fits
    exact sorted.goTo fits
  | register place =>
    rw [place] at fits
    exact sorted.register fits.2
  | unregistered place =>
    rw [place] at fits
    obtain ⟨new, has⟩ := fits
    refine sorted.goTo ⟨sorted.unlisted new, (has .c2s).2, ?_⟩
    rintro inode ⟨⟩
    exact (has .s2c).2
  | closeC2s place =>
    rename_i ok pid c2s s2c
    rw [place] at fits
    obtain ⟨free, born, closes⟩ := fits
    refine ⟨sorted.created, sorted.found, sorted.placed, sorted.held, free, ?_⟩
    cases s2c with
    | none => trivial
    | some s2c => exact closes s2c rfl
  | closeS2c place =>
    rw [place] at fits
    exact ⟨sorted.created, sorted.found, sorted.placed, sorted.held, fits.1, trivial⟩
  | unlink place =>
    rename_i ok pid kind
    rw [place] at fits
    refine sorted.unlink fits.1 kind ok ?_
    cases kind with
    | c2s =>
      refine ⟨?_, trivial⟩
      rw [unlink_other]
      exact fits.1
    | s2c => trivial
  | drop place connected =>
    exact sorted.drop connected
  | _ => exact sorted.same ⟨rfl, rfl, rfl, rfl, rfl, rfl⟩

/-- A server starts with a directory in which it has created nothing. -/
theorem sorted_begin {files : Bytes → Option Inode} {made : Nat}
    (stale : ∀ path inode, files path = some inode → inode < made) :
    (Handshake.begin files made).Sorted fifoDir where
  created := by rintro inode owner ⟨⟩
  found := stale
  placed := by rintro path inode pid kind - ⟨⟩
  held := by rintro pid fifos ⟨⟩
  fits := trivial

/-! ## Who has the FIFOs open -/

/-- The end of a FIFO that the server opens. -/
def FifoKind.serverEnd : FifoKind → End
  | .c2s => .reading
  | .s2c => .writing

/-- The ends of a FIFO that was created for a client are open in the server and in processes of that
PID, one each; those that are yet to be created are not open. -/
structure Handshake.Private (state : Handshake) : Prop where
  /-- A FIFO that is not created is not open. -/
  unborn : ∀ inode side, state.made ≤ inode → (state.pipes inode).holders side = []
  /-- Whose the ends are. -/
  ends : ∀ inode pid kind, state.origin inode = some (pid, kind) → ∀ side,
    ∀ party ∈ (state.pipes inode).holders side,
      party = if side = kind.serverEnd then .server else .client pid

/-- An open by the party that the end belongs to. -/
theorem Handshake.Private.openFifo (closed : state.Private) {side : End} {party : Party}
    (below : inode < state.made)
    (own : ∀ pid kind, state.origin inode = some (pid, kind) →
      party = if side = kind.serverEnd then .server else .client pid) :
    (state.openFifo inode side party).Private := by
  constructor
  · intro other end_ above
    have apart : other ≠ inode := Nat.ne_of_gt (Nat.lt_of_lt_of_le below above)
    simp only [Handshake.openFifo, Function.update_of_ne apart]
    exact closed.unborn other end_ above
  · intro other pid kind born end_ holder there
    change holder ∈ (Function.update state.pipes inode _ other).holders end_ at there
    by_cases here : other = inode
    · subst here
      rw [Function.update_self] at there
      by_cases opened : end_ = side
      · subst opened
        simp only [Pipe.openEnd, Function.update_self, List.mem_cons] at there
        rcases there with rfl | old
        · exact own pid kind born
        · exact closed.ends other pid kind born end_ holder old
      · simp only [Pipe.openEnd, Function.update_of_ne opened] at there
        exact closed.ends other pid kind born end_ holder there
    · rw [Function.update_of_ne here] at there
      exact closed.ends other pid kind born end_ holder there

/-- A close. -/
theorem Handshake.Private.closeFifo (closed : state.Private) (inode : Inode) (side : End)
    (party : Party) : (state.closeFifo inode side party).Private := by
  have fewer : ∀ other end_, ∀ holder ∈
      ((state.closeFifo inode side party).pipes other).holders end_,
      holder ∈ (state.pipes other).holders end_ := by
    intro other end_ holder there
    change holder ∈ (Function.update state.pipes inode _ other).holders end_ at there
    by_cases here : other = inode
    · subst here
      rw [Function.update_self] at there
      by_cases opened : end_ = side
      · subst opened
        simp only [Pipe.closeEnd, Function.update_self] at there
        exact List.mem_of_mem_erase there
      · simpa only [Pipe.closeEnd, Function.update_of_ne opened] using there
    · rwa [Function.update_of_ne here] at there
  constructor
  · intro other end_ above
    refine List.eq_nil_iff_forall_not_mem.mpr fun holder there => ?_
    have before := fewer other end_ holder there
    rw [closed.unborn other end_ above] at before
    cases before
  · exact fun other pid kind born end_ holder there =>
      closed.ends other pid kind born end_ holder (fewer other end_ holder there)

/-- Whether the FIFOs are private depends on who has them open and what was created only. -/
theorem Handshake.Private.congr (closed : state.Private) (pipes : next.pipes = state.pipes)
    (origin : next.origin = state.origin) (made : next.made = state.made) : next.Private := by
  constructor
  · rw [pipes, made]
    exact closed.unborn
  · rw [pipes, origin]
    exact closed.ends

/-- The end of a process. -/
theorem Handshake.Private.terminate (closed : state.Private) (pid : Pid) (place : ProcessPlace) :
    (state.terminate pid place).Private := by
  have gone : (state.setProcess pid none).Private := closed.congr rfl rfl rfl
  cases place with
  | enterC2s c2s ticket => exact gone.closeFifo _ _ _
  | openS2c c2s => exact gone.closeFifo _ _ _
  | enterS2c fifos ticket => exact (gone.closeFifo _ _ _).closeFifo _ _ _
  | connected fifos => exact (gone.closeFifo _ _ _).closeFifo _ _ _
  | _ => exact gone

/-- Every step keeps the FIFOs private. -/
theorem HandshakeStep.private (sorted : state.Sorted fifoDir) (closed : state.Private)
    {label : HandshakeLabel} (step : HandshakeStep fifoDir state label next) : next.Private := by
  have fits := sorted.fits
  cases step with
  | gaveUp there why | exited there | killed there sent => exact closed.terminate _ _
  | openC2s there place found =>
    rename_i pid process c2s
    have opened : (state.openFifo c2s .writing (.client pid)).Private := by
      refine closed.openFifo (sorted.found _ _ found) fun owner kind born => ?_
      obtain ⟨rfl, rfl⟩ := fifoPath_injective (sorted.placed _ _ _ _ found born)
      rfl
    exact opened.congr rfl rfl rfl
  | openS2c there place found =>
    rename_i pid process c2s s2c
    have opened : (state.openFifo s2c .reading (.client pid)).Private := by
      refine closed.openFifo (sorted.found _ _ found) fun owner kind born => ?_
      obtain ⟨rfl, rfl⟩ := fifoPath_injective (sorted.placed _ _ _ _ found born)
      rfl
    exact opened.congr rfl rfl rfl
  | interrupt sent handled place waits =>
    rename_i fifos ticket
    exact (closed.closeFifo fifos.s2c .writing .server).congr rfl rfl rfl
  | unlinkOld place =>
    rw [unlink_other]
    exact closed.congr rfl rfl rfl
  | make place free =>
    rename_i pid kind
    constructor
    · exact fun inode side above => closed.unborn inode side (Nat.le_of_succ_le above)
    · intro inode owner sort born side holder there
      change Function.update state.origin state.made _ inode = _ at born
      by_cases new : inode = state.made
      · subst new
        change holder ∈ (state.pipes state.made).holders side at there
        rw [closed.unborn _ side (Nat.le_refl _)] at there
        cases there
      · rw [Function.update_of_ne new] at born
        exact closed.ends inode owner sort born side holder there
  | unmake place =>
    rw [unlink_other]
    exact closed.congr rfl rfl rfl
  | openReading place found =>
    rename_i pid c2s
    have opened : (state.openFifo c2s .reading .server).Private := by
      refine closed.openFifo (sorted.found _ _ found) fun owner kind born => ?_
      obtain ⟨rfl, rfl⟩ := fifoPath_injective (sorted.placed _ _ _ _ found born)
      rfl
    exact opened.congr rfl rfl rfl
  | openWriting place found =>
    rename_i pid c2s s2c
    have opened : (state.openFifo s2c .writing .server).Private := by
      refine closed.openFifo (sorted.found _ _ found) fun owner kind born => ?_
      obtain ⟨rfl, rfl⟩ := fifoPath_injective (sorted.placed _ _ _ _ found born)
      rfl
    exact opened.congr rfl rfl rfl
  | closeC2s place => exact (closed.closeFifo _ _ _).congr rfl rfl rfl
  | closeS2c place => exact (closed.closeFifo _ _ _).congr rfl rfl rfl
  | unlink place =>
    rw [unlink_other]
    exact closed.congr rfl rfl rfl
  | _ => exact closed.congr rfl rfl rfl

/-- At the start nothing is open. -/
theorem private_begin (files : Bytes → Option Inode) (made : Nat) :
    (Handshake.begin files made).Private where
  unborn := fun _ _ _ => rfl
  ends := by rintro inode pid kind ⟨⟩

/-! ## What the server has open -/

/-- The FIFO of each kind that the main loop has open besides those of the records. -/
def ServerPlace.inUse : ServerPlace → FifoKind → Option Inode
  | .accept _ (.openS2c c2s), .c2s => some c2s
  | .accept _ (.enterS2c fifos _), kind => some (fifos.fifo kind)
  | .accept _ (.register fifos), kind => some (fifos.fifo kind)
  | .leave _ (.closeC2s c2s _), .c2s => some c2s
  | .leave _ (.closeC2s _ s2c), .s2c => s2c
  | .leave _ (.closeS2c s2c), .s2c => some s2c
  | _, _ => none

/-- A FIFO that the server uses. -/
def Handshake.Uses (state : Handshake) (kind : FifoKind) (inode : Inode) : Prop :=
  (∃ pid fifos, state.held pid = some fifos ∧ fifos.fifo kind = inode) ∨
    state.server.inUse kind = some inode

/-- How often the server has its end of a FIFO open. -/
def Handshake.serverOpens (state : Handshake) (kind : FifoKind) (inode : Inode) : Nat :=
  ((state.pipes inode).holders kind.serverEnd).count .server

/-- The server has the FIFOs open that it uses, once each. -/
def Handshake.Counted (state : Handshake) : Prop :=
  ∀ kind inode, state.serverOpens kind inode ≤ 1 ∧
    (state.serverOpens kind inode = 1 ↔ state.Uses kind inode)

/-- The ends of the server are different for the two kinds. -/
theorem serverEnd_injective {kind other : FifoKind} (same : kind.serverEnd = other.serverEnd) :
    kind = other := by
  cases kind <;> cases other <;> first | rfl | cases same

/-- What an open adds. -/
theorem serverOpens_openFifo (opened : FifoKind) (inode : Inode) (kind : FifoKind) (other : Inode) :
    (state.openFifo inode opened.serverEnd .server).serverOpens kind other =
      state.serverOpens kind other + if kind = opened ∧ other = inode then 1 else 0 := by
  by_cases here : other = inode
  · subst here
    by_cases same : kind = opened
    · subst same
      simp [Handshake.serverOpens, Handshake.openFifo, Pipe.openEnd]
    · have apart : kind.serverEnd ≠ opened.serverEnd := fun ends => same (serverEnd_injective ends)
      simp [Handshake.serverOpens, Handshake.openFifo, Pipe.openEnd, same, apart]
  · simp [Handshake.serverOpens, Handshake.openFifo, here]

/-- What a close takes away. -/
theorem serverOpens_closeFifo (closed : FifoKind) (inode : Inode) (kind : FifoKind)
    (other : Inode) :
    (state.closeFifo inode closed.serverEnd .server).serverOpens kind other =
      state.serverOpens kind other - if kind = closed ∧ other = inode then 1 else 0 := by
  by_cases here : other = inode
  · subst here
    by_cases same : kind = closed
    · subst same
      simp [Handshake.serverOpens, Handshake.closeFifo, Pipe.closeEnd]
    · have apart : kind.serverEnd ≠ closed.serverEnd := fun ends => same (serverEnd_injective ends)
      simp [Handshake.serverOpens, Handshake.closeFifo, Pipe.closeEnd, same, apart]
  · simp [Handshake.serverOpens, Handshake.closeFifo, here]

/-- An open or a close by a client does not count. -/
theorem serverOpens_client (inode : Inode) (side : End) (pid : Pid) (kind : FifoKind)
    (other : Inode) :
    (state.openFifo inode side (.client pid)).serverOpens kind other =
        state.serverOpens kind other ∧
      (state.closeFifo inode side (.client pid)).serverOpens kind other =
        state.serverOpens kind other := by
  by_cases here : other = inode
  · subst here
    by_cases same : kind.serverEnd = side
    · subst same
      simp [Handshake.serverOpens, Handshake.openFifo, Handshake.closeFifo, Pipe.openEnd,
        Pipe.closeEnd, List.count_erase_of_ne]
    · simp [Handshake.serverOpens, Handshake.openFifo, Handshake.closeFifo, Pipe.openEnd,
        Pipe.closeEnd, same]
  · simp [Handshake.serverOpens, Handshake.openFifo, Handshake.closeFifo, here]

/-- The server opens a FIFO that it has not used. -/
theorem Handshake.Counted.opened (counted : state.Counted) {used : FifoKind}
    (unused : ¬ state.Uses used inode)
    (opens : ∀ kind other, next.serverOpens kind other =
      state.serverOpens kind other + if kind = used ∧ other = inode then 1 else 0)
    (uses : ∀ kind other, next.Uses kind other ↔
      state.Uses kind other ∨ kind = used ∧ other = inode) : next.Counted := by
  intro kind other
  obtain ⟨once, exactly⟩ := counted kind other
  rw [opens, uses]
  by_cases here : kind = used ∧ other = inode
  · obtain ⟨rfl, rfl⟩ := here
    have fresh : state.serverOpens kind other ≠ 1 := mt exactly.mp unused
    rw [if_pos ⟨rfl, rfl⟩]
    exact ⟨by omega, fun _ => .inr ⟨rfl, rfl⟩, fun _ => by omega⟩
  · rw [if_neg here]
    exact ⟨once, exactly.trans ⟨.inl, fun either => either.resolve_right here⟩⟩

/-- The server closes a FIFO, and does not use it any more. -/
theorem Handshake.Counted.closed (counted : state.Counted) {used : FifoKind}
    (opens : ∀ kind other, next.serverOpens kind other =
      state.serverOpens kind other - if kind = used ∧ other = inode then 1 else 0)
    (uses : ∀ kind other, next.Uses kind other ↔
      state.Uses kind other ∧ ¬ (kind = used ∧ other = inode)) : next.Counted := by
  intro kind other
  obtain ⟨once, exactly⟩ := counted kind other
  rw [opens, uses]
  by_cases here : kind = used ∧ other = inode
  · rw [if_pos here]
    exact ⟨by omega, fun one => by omega, fun both => absurd here both.2⟩
  · rw [if_neg here]
    exact ⟨once, exactly.trans ⟨fun used => ⟨used, here⟩, And.left⟩⟩

/-- The server opens and closes nothing. -/
theorem Handshake.Counted.congr (counted : state.Counted)
    (opens : ∀ kind other, next.serverOpens kind other = state.serverOpens kind other)
    (uses : ∀ kind other, next.Uses kind other ↔ state.Uses kind other) : next.Counted := by
  intro kind other
  rw [opens, uses]
  exact counted kind other

/-- What the server uses depends on its records and its place. -/
theorem uses_congr (held : next.held = state.held) {kind : FifoKind}
    (place : next.server.inUse kind = state.server.inUse kind) (inode : Inode) :
    next.Uses kind inode ↔ state.Uses kind inode := by
  rw [Handshake.Uses, Handshake.Uses, held, place]

/-- A FIFO that was created for a client that is not connected belongs to no record. -/
theorem Handshake.Sorted.not_held (sorted : state.Sorted fifoDir) (free : state.held pid = none)
    (born : state.origin inode = some (pid, kind)) :
    ¬ ∃ other fifos, state.held other = some fifos ∧ fifos.fifo kind = inode := by
  rintro ⟨other, fifos, connected, rfl⟩
  have origin := ((sorted.held other fifos connected).2 kind).2
  cases Option.some.inj (origin.symm.trans born)
  rw [free] at connected
  cases connected

/-- The main loop comes to use a FIFO of a kind of which it used none. -/
theorem uses_opened (held : next.held = state.held) {used : FifoKind}
    (before : state.server.inUse used = none) (after : next.server.inUse used = some inode)
    (others : ∀ kind ≠ used, next.server.inUse kind = state.server.inUse kind) (kind : FifoKind)
    (other : Inode) :
    next.Uses kind other ↔ state.Uses kind other ∨ kind = used ∧ other = inode := by
  by_cases here : kind = used
  · subst here
    simp [Handshake.Uses, held, before, after, eq_comm]
  · simp [uses_congr held (others kind here), here]

/-- It does not use one any more that belongs to no record. -/
theorem uses_closed (held : next.held = state.held) {used : FifoKind}
    (nobody : ¬ ∃ pid fifos, state.held pid = some fifos ∧ fifos.fifo used = inode)
    (before : state.server.inUse used = some inode) (after : next.server.inUse used = none)
    (others : ∀ kind ≠ used, next.server.inUse kind = state.server.inUse kind) (kind : FifoKind)
    (other : Inode) :
    next.Uses kind other ↔ state.Uses kind other ∧ ¬ (kind = used ∧ other = inode) := by
  by_cases here : kind = used
  · subst here
    simp only [Handshake.Uses, held, before, after, reduceCtorEq, or_false, Option.some.injEq,
      true_and]
    constructor
    · rintro ⟨pid, fifos, connected, rfl⟩
      refine ⟨.inl ⟨pid, fifos, connected, rfl⟩, ?_⟩
      rintro same
      exact nobody ⟨pid, fifos, connected, same⟩
    · rintro ⟨record | same, apart⟩
      · exact record
      · exact absurd same.symm apart
  · simp [uses_congr held (others kind here), here]

/-- The end of a process closes nothing of the server's. -/
theorem serverOpens_terminate (pid : Pid) (place : ProcessPlace) (kind : FifoKind) (other : Inode) :
    (state.terminate pid place).serverOpens kind other = state.serverOpens kind other := by
  cases place with
  | enterC2s c2s ticket => exact (serverOpens_client _ _ _ _ _).2
  | openS2c c2s => exact (serverOpens_client _ _ _ _ _).2
  | enterS2c fifos ticket =>
    exact (serverOpens_client _ _ _ _ _).2.trans (serverOpens_client _ _ _ _ _).2
  | connected fifos =>
    exact (serverOpens_client _ _ _ _ _).2.trans (serverOpens_client _ _ _ _ _).2
  | _ => rfl

/-- A FIFO that was created for a client without a record is not used while none of its kind is. -/
theorem Handshake.Sorted.unused (sorted : state.Sorted fifoDir) (free : state.held pid = none)
    (born : state.origin inode = some (pid, kind)) (none_used : state.server.inUse kind = none) :
    ¬ state.Uses kind inode := by
  rintro (record | used)
  · exact sorted.not_held free born record
  · rw [none_used] at used
    cases used

/-- The record of a client takes over the FIFOs that the main loop uses. -/
theorem uses_recorded {fifos : FifoPair} (free : state.held pid = none)
    (held : next.held = Function.update state.held pid (some fifos))
    (before : ∀ kind, state.server.inUse kind = some (fifos.fifo kind))
    (after : ∀ kind, next.server.inUse kind = none) (kind : FifoKind) (inode : Inode) :
    next.Uses kind inode ↔ state.Uses kind inode := by
  simp only [Handshake.Uses, held, before, after, reduceCtorEq, or_false, Option.some.injEq]
  constructor
  · rintro ⟨other, opened, connected, same⟩
    by_cases here : other = pid
    · rw [here, Function.update_self] at connected
      cases connected
      exact .inr same
    · rw [Function.update_of_ne here] at connected
      exact .inl ⟨other, opened, connected, same⟩
  · rintro (⟨other, opened, connected, same⟩ | same)
    · have here : other ≠ pid := by
        rintro rfl
        rw [free] at connected
        cases connected
      exact ⟨other, opened, by rwa [Function.update_of_ne here], same⟩
    · exact ⟨pid, fifos, Function.update_self .., same⟩

/-- The main loop moves on with the FIFOs that it uses, and may unlink one. -/
theorem Handshake.Counted.goTo (counted : state.Counted) (path : Bytes) (ok : Bool)
    {place : ServerPlace} (same : ∀ kind, place.inUse kind = state.server.inUse kind) :
    ((state.unlink path ok).goTo place).Counted := by
  rw [unlink_other]
  exact counted.congr (fun _ _ => rfl) fun kind => uses_congr (by rfl) (same kind)

/-- The server opens the FIFO for reading that it has created. -/
theorem Handshake.Counted.openReading (counted : state.Counted) (sorted : state.Sorted fifoDir)
    {c2s : Inode} (place : state.server = .accept pid .openC2s)
    (found : state.files (fifoPath fifoDir .c2s pid) = some c2s) :
    ((state.openFifo c2s .reading .server).goTo (.accept pid (.openS2c c2s))).Counted := by
  have fits := sorted.fits
  rw [place] at fits
  obtain ⟨new, fifos, has⟩ := fits
  have same := Option.some.inj ((has .c2s).1.symm.trans found)
  have none_used : state.server.inUse .c2s = none := by rw [place]; rfl
  refine counted.opened (sorted.unused (sorted.unlisted new) (same ▸ (has .c2s).2) none_used)
    (serverOpens_openFifo .c2s c2s) (uses_opened (by rfl) none_used rfl ?_)
  intro kind other
  rw [place]
  cases kind with
  | c2s => exact absurd rfl other
  | s2c => rfl

/-- The server opens the other FIFO for writing. -/
theorem Handshake.Counted.openWriting (counted : state.Counted) (sorted : state.Sorted fifoDir)
    {c2s s2c : Inode} {ticket : Option Nat} (place : state.server = .accept pid (.openS2c c2s))
    (found : state.files (fifoPath fifoDir .s2c pid) = some s2c) :
    ((state.openFifo s2c .writing .server).goTo
      (.accept pid (.enterS2c ⟨c2s, s2c⟩ ticket))).Counted := by
  have fits := sorted.fits
  rw [place] at fits
  obtain ⟨new, fifos, rfl, has⟩ := fits
  have same := Option.some.inj ((has .s2c).1.symm.trans found)
  have none_used : state.server.inUse .s2c = none := by rw [place]; rfl
  refine counted.opened (sorted.unused (sorted.unlisted new) (same ▸ (has .s2c).2) none_used)
    (serverOpens_openFifo .s2c s2c) (uses_opened (by rfl) none_used rfl ?_)
  intro kind other
  rw [place]
  cases kind with
  | c2s => rfl
  | s2c => exact absurd rfl other

/-- It closes the end that it reads from. -/
theorem Handshake.Counted.closeReading (counted : state.Counted) (free : state.held pid = none)
    (sorted : state.Sorted fifoDir) {c2s : Inode} {s2c : Option Inode}
    (born : state.origin c2s = some (pid, .c2s))
    (place : state.server = .leave pid (.closeC2s c2s s2c)) :
    ((state.closeFifo c2s .reading .server).goTo (.leave pid (.afterClose s2c))).Counted := by
  refine counted.closed (serverOpens_closeFifo .c2s c2s)
    (uses_closed (by rfl) (sorted.not_held free born) (by rw [place]; rfl) ?_ ?_)
  · cases s2c <;> rfl
  · intro kind other
    rw [place]
    cases kind with
    | c2s => exact absurd rfl other
    | s2c => cases s2c <;> rfl

/-- It closes the end that it writes to. -/
theorem Handshake.Counted.closeWriting (counted : state.Counted) (free : state.held pid = none)
    (sorted : state.Sorted fifoDir) {s2c : Inode} (born : state.origin s2c = some (pid, .s2c))
    (before : state.server.inUse .s2c = some s2c) (after : next.server.inUse .s2c = none)
    (other : next.server.inUse .c2s = state.server.inUse .c2s) (held : next.held = state.held)
    (opens : ∀ kind inode, next.serverOpens kind inode =
      (state.closeFifo s2c .writing .server).serverOpens kind inode) : next.Counted := by
  refine counted.closed (fun kind inode => ?_)
    (uses_closed held (sorted.not_held free born) before after ?_)
  · rw [opens]
    exact serverOpens_closeFifo .s2c s2c kind inode
  · intro kind apart
    cases kind with
    | c2s => exact other
    | s2c => exact absurd rfl apart

/-- After every step the server has open what it uses. -/
theorem HandshakeStep.counted (sorted : state.Sorted fifoDir) (counted : state.Counted)
    {label : HandshakeLabel} (step : HandshakeStep fifoDir state label next) : next.Counted := by
  have fits := sorted.fits
  cases step with
  | gaveUp there why | exited there | killed there sent =>
    refine counted.congr (serverOpens_terminate _ _) fun kind => uses_congr ?_ ?_ <;> simp
  | openC2s there place found | openS2c there place found =>
    exact counted.congr (fun _ _ => (serverOpens_client _ _ _ _ _).1) fun _ _ => Iff.rfl
  | openReading place found => exact counted.openReading sorted place found
  | openWriting place found => exact counted.openWriting sorted place found
  | closeC2s place =>
    rw [place] at fits
    obtain ⟨free, born, -⟩ := fits
    exact counted.closeReading free sorted born place
  | closeS2c place =>
    rw [place] at fits
    obtain ⟨free, born⟩ := fits
    exact counted.closeWriting free sorted born (by rw [place]; rfl) rfl (by rw [place]; rfl) rfl
      fun _ _ => rfl
  | interrupt sent handled place waits =>
    rw [place] at fits
    obtain ⟨new, has⟩ := fits
    exact counted.closeWriting (sorted.unlisted new) sorted (has .s2c).2 (by rw [place]; rfl) rfl
      (by rw [place]; rfl) rfl fun _ _ => rfl
  | register place =>
    rename_i pid fifos
    rw [place] at fits
    exact counted.congr (fun _ _ => rfl) (uses_recorded (sorted.unlisted fits.1) rfl
      (fun kind => by rw [place]; rfl) fun _ => rfl)
  | drop place connected =>
    rename_i pid fifos
    refine counted.congr (fun _ _ => rfl) fun kind inode => Iff.symm ?_
    -- backwards the record takes the FIFOs over
    refine uses_recorded (Function.update_self ..) ?_ (fun kind => by cases kind <;> rfl)
      (fun kind => by rw [place]; rfl) kind inode
    rw [Function.update_idem, ← connected, Function.update_eq_self]
  | unlinkOld place =>
    rename_i ok pid kind
    exact counted.goTo _ _ fun sort => by rw [place]; cases kind <;> rfl
  | unmake place => exact counted.goTo _ _ fun sort => by rw [place]; rfl
  | unlink place =>
    rename_i ok pid kind
    exact counted.goTo _ _ fun sort => by rw [place]; cases kind <;> rfl
  | make place free | unmade place =>
    rename_i pid kind
    refine counted.congr (fun _ _ => rfl) fun sort => uses_congr (by rfl) ?_
    rw [place]
    cases kind <;> rfl
  | unopenedS2c place failed | unregistered place =>
    refine counted.congr (fun _ _ => rfl) fun kind => uses_congr (by rfl) ?_
    rw [place]
    cases kind <;> rfl
  | enter place returned | read place taken | decline place taken cleared
  | accept place taken cleared real new | tooLong place | paths place named | signal place there
  | unsignalled place | unopened place failed =>
    refine counted.congr (fun _ _ => rfl) fun sort => uses_congr (by rfl) ?_
    rw [place]
    rfl
  | _ => exact counted.congr (fun _ _ => rfl) fun _ _ => Iff.rfl

/-- At the start the server has nothing open. -/
theorem counted_begin (files : Bytes → Option Inode) (made : Nat) :
    (Handshake.begin files made).Counted := by
  intro kind inode
  have none_open : (Handshake.begin files made).serverOpens kind inode = 0 := rfl
  rw [none_open]
  refine ⟨Nat.zero_le _, fun opened => absurd opened Nat.zero_ne_one, ?_⟩
  rintro (⟨pid, fifos, connected, -⟩ | used)
  · cases connected
  · cases used

/-! ## What is left in the directory -/

/-- The FIFOs of a client that may exist at a stage of `accept_client`. -/
def AcceptStage.keeps : AcceptStage → FifoKind → Bool
  | .paths, _ | .unlinkOld _, _ | .make .c2s, _ => false
  | .make .s2c, kind | .unmake, kind => kind = .c2s
  | _, _ => true

/-- Those that may exist while a client is dropped. -/
def LeaveStage.keeps : LeaveStage → FifoKind → Bool
  | .unlink .s2c, kind => kind = .s2c
  | _, _ => true

/-- The FIFOs that the main loop has created or is about to unlink. -/
def ServerPlace.keeps (pid : Pid) (kind : FifoKind) : ServerPlace → Bool
  | .accept other stage => other = pid && stage.keeps kind
  | .leave other stage => other = pid && stage.keeps kind
  | _ => false

/-- The next call of the main loop is an `unlink` of a FIFO that it has created. -/
def ServerPlace.cleansUp : ServerPlace → Bool
  | .accept _ .unmake | .leave _ (.unlink _) => true
  | _ => false

/-- An `unlink` of a FIFO that the server has created does not fail. -/
def Handshake.Unlinks (state : Handshake) (label : HandshakeLabel) : Prop :=
  label = .server false → state.server.cleansUp = false

/-- The FIFOs in the directory that the server has created are those of its records and of the
client that it deals with; what it has not created is left over from the start. -/
structure Handshake.Tidy (fifoDir : Option Bytes) (first : Bytes → Option Inode)
    (state : Handshake) : Prop where
  /-- What it has created. -/
  kept : ∀ path inode pid kind, state.files path = some inode →
    state.origin inode = some (pid, kind) →
    (state.held pid).isSome = true ∨ state.server.keeps pid kind = true
  /-- What it has not. -/
  old : ∀ path inode, state.files path = some inode → state.origin inode = none →
    first path = some inode
  /-- Other paths. -/
  other : ∀ path, (∀ pid kind, path ≠ fifoPath fifoDir kind pid) → state.files path = first path

variable {first : Bytes → Option Inode}

/-- The main loop moves on with the same directory. -/
theorem Handshake.Tidy.move (tidy : state.Tidy fifoDir first) (files : next.files = state.files)
    (origin : next.origin = state.origin)
    (keeps : ∀ pid kind inode, state.files (fifoPath fifoDir kind pid) = some inode →
      state.origin inode = some (pid, kind) →
      (state.held pid).isSome = true ∨ state.server.keeps pid kind = true →
      (next.held pid).isSome = true ∨ next.server.keeps pid kind = true)
    (sorted : state.Sorted fifoDir) : next.Tidy fifoDir first := by
  constructor
  · intro path inode pid kind there born
    rw [files] at there
    rw [origin] at born
    obtain rfl := sorted.placed _ _ _ _ there born
    exact keeps pid kind inode there born (tidy.kept _ _ _ _ there born)
  · rw [files, origin]
    exact tidy.old
  · rw [files]
    exact tidy.other

/-- The main loop unlinks a FIFO. -/
theorem Handshake.Tidy.unlink (tidy : state.Tidy fifoDir first) (sorted : state.Sorted fifoDir)
    (kind : FifoKind) (ok : Bool) {place : ServerPlace}
    (keeps : ∀ other sort, ¬ (sort = kind ∧ other = pid ∧ ok = true) →
      state.server.keeps other sort = true → place.keeps other sort = true) :
    ((state.unlink (fifoPath fifoDir kind pid) ok).goTo place).Tidy fifoDir first := by
  have files : ∀ path inode,
      ((state.unlink (fifoPath fifoDir kind pid) ok).goTo place).files path = some inode →
      ¬ (path = fifoPath fifoDir kind pid ∧ ok = true) ∧ state.files path = some inode := by
    intro path inode there
    change (state.unlink _ ok).files path = _ at there
    rw [unlink_files] at there
    exact Option.ite_none_left_eq_some.mp there
  have origin : (state.unlink (fifoPath fifoDir kind pid) ok).origin = state.origin := by
    rw [unlink_other]
  have held : (state.unlink (fifoPath fifoDir kind pid) ok).held = state.held := by
    rw [unlink_other]
  constructor
  · intro path inode other sort there born
    obtain ⟨left, before⟩ := files path inode there
    change (state.unlink _ ok).origin inode = _ at born
    rw [origin] at born
    change ((state.unlink _ ok).held other).isSome = true ∨ place.keeps other sort = true
    rw [held]
    refine (tidy.kept path inode other sort before born).imp_right (keeps other sort ?_)
    rintro ⟨rfl, rfl, done⟩
    exact left ⟨sorted.placed _ _ _ _ before born, done⟩
  · intro path inode there born
    change (state.unlink _ ok).origin inode = _ at born
    rw [origin] at born
    exact tidy.old path inode (files path inode there).2 born
  · intro path elsewhere
    change (state.unlink _ ok).files path = _
    rw [unlink_files, if_neg fun same => elsewhere pid kind same.1]
    exact tidy.other path elsewhere

/-- The main loop creates a FIFO. -/
theorem Handshake.Tidy.make (tidy : state.Tidy fifoDir first) (sorted : state.Sorted fifoDir)
    {place : ServerPlace} (new : place.keeps pid kind = true)
    (keeps : ∀ other sort, state.server.keeps other sort = true → place.keeps other sort = true) :
    ((state.mkfifo (fifoPath fifoDir kind pid) pid kind).goTo place).Tidy fifoDir first := by
  constructor
  · intro path inode other sort there born
    change Function.update state.files _ _ path = _ at there
    change Function.update state.origin state.made _ inode = _ at born
    change (state.held other).isSome = true ∨ place.keeps other sort = true
    by_cases here : path = fifoPath fifoDir kind pid
    · rw [here, Function.update_self] at there
      cases there
      rw [Function.update_self] at born
      cases born
      exact .inr new
    · rw [Function.update_of_ne here] at there
      rw [Function.update_of_ne (Nat.ne_of_lt (sorted.found path inode there))] at born
      exact (tidy.kept path inode other sort there born).imp_right (keeps other sort)
  · intro path inode there born
    change Function.update state.files _ _ path = _ at there
    change Function.update state.origin state.made _ inode = _ at born
    by_cases here : path = fifoPath fifoDir kind pid
    · rw [here, Function.update_self] at there
      cases there
      rw [Function.update_self] at born
      cases born
    · rw [Function.update_of_ne here] at there
      rw [Function.update_of_ne (Nat.ne_of_lt (sorted.found path inode there))] at born
      exact tidy.old path inode there born
  · intro path elsewhere
    change Function.update state.files _ _ path = _
    rw [Function.update_of_ne (elsewhere pid kind)]
    exact tidy.other path elsewhere

/-- Where the main loop cleans up, the `unlink` that it calls succeeds. -/
theorem Handshake.Unlinks.succeeds {ok : Bool} (unlinks : state.Unlinks (.server ok))
    (cleans : state.server.cleansUp = true) : ok = true := by
  cases ok with
  | true => rfl
  | false => cases (unlinks rfl).symm.trans cleans

/-- Every step keeps the directory tidy, if what it unlinks goes. -/
theorem HandshakeStep.tidy (sorted : state.Sorted fifoDir) (tidy : state.Tidy fifoDir first)
    {label : HandshakeLabel} (unlinks : state.Unlinks label)
    (step : HandshakeStep fifoDir state label next) : next.Tidy fifoDir first := by
  have fits := sorted.fits
  cases step with
  | gaveUp there why | exited there | killed there sent =>
    refine tidy.move (terminate_files _) (terminate_origin _) (fun pid kind inode _ _ kept => ?_)
      sorted
    rwa [terminate_held, terminate_server]
  | unlinkOld place =>
    rename_i ok pid kind
    refine tidy.unlink sorted kind ok fun other sort _ kept => ?_
    rw [place] at kept
    simp [ServerPlace.keeps, AcceptStage.keeps] at kept
  | unmake place =>
    rename_i ok pid
    have fine := unlinks.succeeds (by rw [place]; rfl)
    refine tidy.unlink sorted .c2s ok fun other sort left kept => ?_
    rw [place] at kept
    obtain ⟨same, rfl⟩ : pid = other ∧ sort = .c2s := by
      simpa [ServerPlace.keeps, AcceptStage.keeps] using kept
    exact absurd ⟨rfl, same.symm, fine⟩ left
  | unlink place =>
    rename_i ok pid kind
    have fine := unlinks.succeeds (by rw [place]; rfl)
    refine tidy.unlink sorted kind ok fun other sort left kept => ?_
    rw [place] at kept
    cases kind with
    | c2s =>
      obtain rfl : pid = other := by simpa [ServerPlace.keeps, LeaveStage.keeps] using kept
      have second : sort = .s2c := by
        cases sort with
        | c2s => exact absurd ⟨rfl, rfl, fine⟩ left
        | s2c => rfl
      simp [ServerPlace.keeps, ServerPlace.afterUnlinked, LeaveStage.keeps, second]
    | s2c =>
      obtain ⟨same, rfl⟩ : pid = other ∧ sort = .s2c := by
        simpa [ServerPlace.keeps, LeaveStage.keeps] using kept
      exact absurd ⟨rfl, same.symm, fine⟩ left
  | make place free =>
    rename_i pid kind
    refine tidy.make sorted ?_ fun other sort kept => ?_
    · cases kind <;> simp [ServerPlace.keeps, AcceptStage.afterMake, AcceptStage.keeps]
    · rw [place] at kept
      cases kind <;> simp_all [ServerPlace.keeps, AcceptStage.afterMake, AcceptStage.keeps]
  | unmade place =>
    rename_i ok pid kind
    refine tidy.move rfl rfl (fun other sort inode _ _ kept => kept.imp_right ?_) sorted
    rw [place]
    cases kind with
    | c2s => simp [ServerPlace.keeps, AcceptStage.keeps]
    | s2c => exact id
  | register place =>
    rename_i pid fifos
    refine tidy.move rfl rfl (fun other sort inode _ _ kept => .inl ?_) sorted
    change (Function.update state.held pid (some fifos) other).isSome = true
    by_cases here : other = pid
    · rw [here, Function.update_self]
      rfl
    · rw [Function.update_of_ne here]
      refine kept.resolve_right ?_
      rw [place]
      simp [ServerPlace.keeps, Ne.symm here]
  | drop place connected =>
    rename_i pid fifos
    refine tidy.move rfl rfl (fun other sort inode _ _ kept => ?_) sorted
    change (Function.update state.held pid none other).isSome = true ∨ _
    by_cases here : other = pid
    · right
      simp [ServerPlace.keeps, LeaveStage.keeps, here]
    · left
      rw [Function.update_of_ne here]
      refine kept.resolve_right ?_
      rw [place]
      simp [ServerPlace.keeps]
  | interrupt sent handled place waits =>
    refine tidy.move rfl rfl (fun other sort inode _ _ kept => kept.imp_right ?_) sorted
    rw [place]
    exact id
  | closeC2s place =>
    rename_i ok pid c2s s2c
    refine tidy.move rfl rfl (fun other sort inode _ _ kept => kept.imp_right ?_) sorted
    rw [place]
    cases s2c <;> exact id
  | read place taken | decline place taken cleared | accept place taken cleared real new
  | tooLong place | paths place named | signal place there | unsignalled place
  | openReading place found | unopened place failed | openWriting place found
  | unopenedS2c place failed | enter place returned | unregistered place | closeS2c place =>
    refine tidy.move rfl rfl (fun other sort inode _ _ kept => kept.imp_right ?_) sorted
    rw [place]
    simp [ServerPlace.keeps, AcceptStage.keeps, LeaveStage.keeps, Handshake.goTo]
  | _ => exact tidy.move rfl rfl (fun _ _ _ _ _ kept => kept) sorted

/-- At the start all is left over. -/
theorem tidy_begin (files : Bytes → Option Inode) (made : Nat) :
    (Handshake.begin files made).Tidy fifoDir files where
  kept := by rintro path inode pid kind - ⟨⟩
  old := fun _ _ there _ => there
  other := fun _ _ => rfl

/-- What holds of the FIFOs in every state. -/
structure Handshake.Sound (fifoDir : Option Bytes) (state : Handshake) : Prop where
  sorted : state.Sorted fifoDir
  closed : state.Private
  counted : state.Counted

/-- After every step, the FIFOs are sorted, private, and counted by the server. -/
theorem HandshakeStep.sound (sound : state.Sound fifoDir) {label : HandshakeLabel}
    (step : HandshakeStep fifoDir state label next) : next.Sound fifoDir where
  sorted := step.sorted sound.sorted
  closed := step.private sound.sorted sound.closed
  counted := step.counted sound.sorted sound.counted

/-- At the start the FIFOs are sorted, private, and counted by the server. -/
theorem sound_begin {files : Bytes → Option Inode} {made : Nat}
    (stale : ∀ path inode, files path = some inode → inode < made) :
    (Handshake.begin files made).Sound fifoDir :=
  ⟨sorted_begin stale, private_begin files made, counted_begin files made⟩

/-- In every run the FIFOs are sorted, private, and counted by the server. -/
theorem handshakeMachine_sound {files : Bytes → Option Inode} {made : Nat}
    {labels : List HandshakeLabel} (stale : ∀ path inode, files path = some inode → inode < made)
    (ran : (handshakeMachine fifoDir).run (.begin files made) labels = some state) :
    state.Sound fifoDir :=
  Machine.run_invariant (fun _ _ _ sound stepped => (handshakeMachine_step stepped).sound sound)
    (sound_begin stale) ran

/-- Whatever fails or is interrupted on the way, when the main loop is neither accepting nor
dropping a client, the FIFOs that the server has created and that are in the directory are those of
the clients that `close_client` has not closed, at their paths, and the server has just these open,
its end of each once. What it has not created was there at the start, and no other path was
touched. -/
theorem fifos_follow_records {files : Bytes → Option Inode} {made : Nat}
    {labels : List HandshakeLabel} (stale : ∀ path inode, files path = some inode → inode < made)
    (ran : (handshakeMachine fifoDir).run (.begin files made) labels = some state)
    (unlinks : (handshakeMachine fifoDir).EveryStep Handshake.Unlinks (.begin files made) labels)
    (rests : state.server = .idle ∨ state.server = .taking) :
    (∀ path inode pid kind,
      state.files path = some inode ∧ state.origin inode = some (pid, kind) ↔
        path = fifoPath fifoDir kind pid ∧
          ∃ fifos, state.held pid = some fifos ∧ fifos.fifo kind = inode) ∧
    (∀ kind inode, state.serverOpens kind inode ≤ 1 ∧ (state.serverOpens kind inode = 1 ↔
      ∃ pid fifos, state.held pid = some fifos ∧ fifos.fifo kind = inode)) ∧
    (∀ path inode, state.files path = some inode → state.origin inode = none →
      files path = some inode) ∧
    ∀ path, (∀ pid kind, path ≠ fifoPath fifoDir kind pid) → state.files path = files path := by
  have sound := handshakeMachine_sound stale ran
  have both : state.Sorted fifoDir ∧ state.Tidy fifoDir files := by
    have kept : ∀ state label next, state.Sorted fifoDir ∧ state.Tidy fifoDir files →
        state.Unlinks label → (handshakeMachine fifoDir).step state label = some next →
        next.Sorted fifoDir ∧ next.Tidy fifoDir files := by
      rintro state label next ⟨sorted, tidy⟩ unlinks stepped
      have step := handshakeMachine_step stepped
      exact ⟨step.sorted sorted, step.tidy sorted tidy unlinks⟩
    exact (Machine.always_of_guarded kept ⟨sorted_begin stale, tidy_begin files made⟩
      unlinks).last ran
  have tidy := both.2
  have unused : ∀ pid kind, state.server.keeps pid kind = false ∧
      state.server.inUse kind = none := by
    intro pid kind
    rcases rests with idle | taking
    · rw [idle]
      exact ⟨rfl, rfl⟩
    · rw [taking]
      exact ⟨rfl, rfl⟩
  refine ⟨fun path inode pid kind => ⟨?_, ?_⟩, fun kind inode => ?_, tidy.old, tidy.other⟩
  · rintro ⟨there, born⟩
    obtain rfl := sound.sorted.placed path inode pid kind there born
    have connected : (state.held pid).isSome = true :=
      (tidy.kept _ inode pid kind there born).resolve_right (by simp [unused])
    obtain ⟨fifos, held⟩ := Option.isSome_iff_exists.mp connected
    have place := ((sound.sorted.held pid fifos held).2 kind).1
    exact ⟨rfl, fifos, held, Option.some.inj (place.symm.trans there)⟩
  · rintro ⟨rfl, fifos, held, rfl⟩
    exact (sound.sorted.held pid fifos held).2 kind
  · obtain ⟨once, exactly⟩ := sound.counted kind inode
    refine ⟨once, exactly.trans ?_⟩
    simp [Handshake.Uses, (unused 0 kind).2]

/-- A client asks and the server comes to open its first FIFO. -/
def askedFor (pid : Pid) : List HandshakeLabel :=
  [.start pid, .client pid, .client pid, .deliverUsr1] ++ List.replicate 10 (.server true)

/-- The server gives up a client that does not come, when another one asks: it has nothing left. -/
theorem fifos_follow_records_interrupted : ∃ state,
    (handshakeMachine none).run (.begin (fun _ => none) 0)
      (askedFor 7 ++ [.start 8, .client 8, .client 8, .deliverUsr1] ++
        List.replicate 3 (.server true)) = some state ∧
      ∀ inode, state.serverOpens .c2s inode = 0 := by
  obtain ⟨state, ran, facts⟩ := Option.map_eq_some_iff.mp
    (by decide +kernel : ((handshakeMachine none).run (.begin (fun _ => none) 0)
      (askedFor 7 ++ [.start 8, .client 8, .client 8, .deliverUsr1] ++
        List.replicate 3 (.server true))).map (fun state => (state.server, state.clients)) =
          some (.idle, []))
  obtain ⟨idle, nobody⟩ := Prod.mk.inj facts
  have stale : ∀ path inode, (fun _ => none : Bytes → Option Inode) path = some inode →
      inode < 0 := by
    rintro path inode ⟨⟩
  refine ⟨state, ran, fun inode => ?_⟩
  obtain ⟨-, opens, -⟩ := fifos_follow_records stale ran
    (Machine.everyStep_of_labels fun label member state failed => by
      subst failed
      exact absurd member (by decide +kernel)) (.inl idle)
  obtain ⟨once, exactly⟩ := opens .c2s inode
  have unheld : state.serverOpens .c2s inode ≠ 1 := by
    intro one
    obtain ⟨pid, fifos, held, -⟩ := exactly.mp one
    have listed := ((handshakeMachine_sound stale ran).sorted.held pid fifos held).1
    rw [nobody] at listed
    cases listed
  omega

end AnimateService
