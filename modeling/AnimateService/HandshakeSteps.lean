import AnimateService.Handshake
import AnimateService.Numerals

/-!
# The steps of the handshake

Every step of the handshake with what it does to the state, and the paths of the FIFOs: no two
clients share one.
-/
namespace AnimateService

open Transition NamedPipes

/-! ## Paths -/

/-- Numbers are printed differently. -/
theorem decimalNat_injective {value other : Nat} (same : decimalNat value = decimalNat other) :
    value = other := by
  have values := congrArg digitsValue same
  rwa [digitsValue_decimalNat, digitsValue_decimalNat] at values

/-- A path tells the kind of the FIFO and the PID. -/
theorem fifoPath_injective {fifoDir : Option Bytes} {kind other : FifoKind} {pid pid' : Pid}
    (same : fifoPath fifoDir kind pid = fifoPath fifoDir other pid') :
    kind = other ∧ pid = pid' := by
  have tails := List.append_cancel_left same
  have lengths : kind.text.length = other.text.length := by
    cases kind <;> cases other <;> decide +kernel
  obtain ⟨texts, numbers⟩ := List.append_inj tails lengths
  refine ⟨?_, decimalNat_injective numbers⟩
  cases kind <;> cases other <;> first | rfl | exact absurd texts (by decide +kernel)

/-- The server and the client of a PID name the same FIFOs. -/
theorem getFifoPaths_some {fifoDir : Option Bytes} {pid : Pid} {paths : Bytes × Bytes}
    (named : getFifoPaths fifoDir pid = some paths) :
    paths = (fifoPath fifoDir .c2s pid, fifoPath fifoDir .s2c pid) := by
  rw [getFifoPaths, getClientFifoPaths] at named
  exact (Option.some.inj (Option.ite_none_left_eq_some.mp named).2).symm

/-! ## Steps -/

/-- The server goes on to create and open the FIFOs, or to drop them. -/
def AcceptStage.afterUnlink : FifoKind → AcceptStage
  | .c2s => .unlinkOld .s2c
  | .s2c => .make .c2s

/-- What `create_fifos` does after a `mkfifo`. -/
def AcceptStage.afterMake : FifoKind → AcceptStage
  | .c2s => .make .s2c
  | .s2c => .signal

/-- What the main loop does after a `mkfifo` has failed. -/
def ServerPlace.afterMade (pid : Pid) : FifoKind → ServerPlace
  | .c2s => .idle
  | .s2c => .accept pid .unmake

/-- What it does after an `unlink` of `unlink_fifos`. -/
def ServerPlace.afterUnlinked (pid : Pid) : FifoKind → ServerPlace
  | .c2s => .leave pid (.unlink .s2c)
  | .s2c => .idle

/-- What it does after `close(c2s_fd)`. -/
def LeaveStage.afterClose : Option Inode → LeaveStage
  | none => .unlink .c2s
  | some s2c => .closeS2c s2c

/-- A call of a client process fails, and the program ends. -/
def Handshake.GivesUp (fifoDir : Option Bytes) (state : Handshake) (pid : Pid) :
    ProcessPlace → Prop
  | .waiting checks => 10 ≤ checks
  | .openC2s => getFifoPaths fifoDir pid = none ∨ state.files (fifoPath fifoDir .c2s pid) = none
  | .openS2c _ => state.files (fifoPath fifoDir .s2c pid) = none
  | _ => False

/-- What a step of the handshake does. -/
inductive HandshakeStep (fifoDir : Option Bytes) (state : Handshake) :
    HandshakeLabel → Handshake → Prop where
  | start {pid : Pid} (real : pid ≠ 0) (new : state.processes pid = none) :
    HandshakeStep fifoDir state (.start pid) (state.setProcess pid (some {}))
  | install {pid : Pid} {process : ClientProcess} (there : state.processes pid = some process)
      (place : process.place = .installing) :
    HandshakeStep fifoDir state (.client pid)
      (state.setProcess pid (some { process with place := .requesting }))
  | request {pid : Pid} {process : ClientProcess} (there : state.processes pid = some process)
      (place : process.place = .requesting) :
    HandshakeStep fifoDir state (.client pid)
      (Handshake.setProcess { state with usr1 := some (state.usr1.getD pid) } pid
        (some { process with place := .waiting 0 }))
  | look {pid : Pid} {process : ClientProcess} {checks : Nat}
      (there : state.processes pid = some process) (place : process.place = .waiting checks)
      (patient : checks < 10) :
    HandshakeStep fifoDir state (.client pid) (state.setProcess pid (some { process with
      place := if process.sigusr2Received then .openC2s else .waiting (checks + 1) }))
  | gaveUp {pid : Pid} {process : ClientProcess} (there : state.processes pid = some process)
      (why : state.GivesUp fifoDir pid process.place) :
    HandshakeStep fifoDir state (.client pid) (state.terminate pid process.place)
  | exited {pid : Pid} {process : ClientProcess} (there : state.processes pid = some process) :
    HandshakeStep fifoDir state (.exit pid) (state.terminate pid process.place)
  | killed {pid : Pid} {process : ClientProcess} (there : state.processes pid = some process)
      (sent : process.usr2 = true) :
    HandshakeStep fifoDir state (.deliverUsr2 pid) (state.terminate pid process.place)
  | openC2s {pid : Pid} {process : ClientProcess} {c2s : Inode}
      (there : state.processes pid = some process) (place : process.place = .openC2s)
      (found : state.files (fifoPath fifoDir .c2s pid) = some c2s) :
    HandshakeStep fifoDir state (.client pid)
      ((state.openFifo c2s .writing (.client pid)).setProcess pid
        (some { process with place := .enterC2s c2s ((state.pipes c2s).ticket .writing) }))
  | enterC2s {pid : Pid} {process : ClientProcess} {c2s : Inode} {ticket : Option Nat}
      (there : state.processes pid = some process) (place : process.place = .enterC2s c2s ticket)
      (returned : (state.pipes c2s).lets .writing ticket = true) :
    HandshakeStep fifoDir state (.client pid)
      (state.setProcess pid (some { process with place := .openS2c c2s }))
  | openS2c {pid : Pid} {process : ClientProcess} {c2s s2c : Inode}
      (there : state.processes pid = some process) (place : process.place = .openS2c c2s)
      (found : state.files (fifoPath fifoDir .s2c pid) = some s2c) :
    HandshakeStep fifoDir state (.client pid)
      ((state.openFifo s2c .reading (.client pid)).setProcess pid (some { process with
        place := .enterS2c ⟨c2s, s2c⟩ ((state.pipes s2c).ticket .reading) }))
  | enterS2c {pid : Pid} {process : ClientProcess} {fifos : FifoPair} {ticket : Option Nat}
      (there : state.processes pid = some process) (place : process.place = .enterS2c fifos ticket)
      (returned : (state.pipes fifos.s2c).lets .reading ticket = true) :
    HandshakeStep fifoDir state (.client pid)
      (state.setProcess pid (some { process with place := .connected fifos }))
  | notice {pid : Pid} {process : ClientProcess} (there : state.processes pid = some process)
      (sent : process.usr2 = true) (place : process.place ≠ .installing) :
    HandshakeStep fifoDir state (.deliverUsr2 pid) (state.setProcess pid
      (some { process with usr2 := false, sigusr2Received := true }))
  | record {pid : Pid} {pending : PendingClient} (sent : state.usr1 = some pid)
      (handled : pendingMachine.step state.pending (.handler pid) = some pending) :
    HandshakeStep fifoDir state .deliverUsr1 { state with usr1 := none, pending }
  | interrupt {sender pid : Pid} {pending : PendingClient} {fifos : FifoPair} {ticket : Option Nat}
      (sent : state.usr1 = some sender)
      (handled : pendingMachine.step state.pending (.handler sender) = some pending)
      (place : state.server = .accept pid (.enterS2c fifos ticket))
      (waits : (state.pipes fifos.s2c).lets .writing ticket = false) :
    HandshakeStep fifoDir state .deliverUsr1
      ((Handshake.closeFifo { state with usr1 := none, pending } fifos.s2c .writing .server).goTo
        (.leave pid (.closeC2s fifos.c2s none)))
  | read {ok : Bool} {pending : PendingClient} (place : state.server = .idle)
      (taken : pendingMachine.step state.pending .read = some pending) :
    HandshakeStep fifoDir state (.server ok) { state with pending, server := .taking }
  | decline {ok : Bool} {pending : PendingClient} {pid : Pid} (place : state.server = .taking)
      (taken : state.pending.clientPid = some pid)
      (cleared : pendingMachine.step state.pending .clear = some pending) :
    HandshakeStep fifoDir state (.server ok) { state with pending, server := .idle }
  | accept {ok : Bool} {pending : PendingClient} {pid : Pid} (place : state.server = .taking)
      (taken : state.pending.clientPid = some pid)
      (cleared : pendingMachine.step state.pending .clear = some pending) (real : pid ≠ 0)
      (new : pid ∉ state.clients) :
    HandshakeStep fifoDir state (.server ok) { state with pending, server := .accept pid .paths }
  | tooLong {ok : Bool} {pid : Pid} (place : state.server = .accept pid .paths) :
    HandshakeStep fifoDir state (.server ok) (state.goTo .idle)
  | paths {ok : Bool} {pid : Pid} (place : state.server = .accept pid .paths)
      (named : (getFifoPaths fifoDir pid).isSome = true) :
    HandshakeStep fifoDir state (.server ok) (state.goTo (.accept pid (.unlinkOld .c2s)))
  | unlinkOld {ok : Bool} {pid : Pid} {kind : FifoKind}
      (place : state.server = .accept pid (.unlinkOld kind)) :
    HandshakeStep fifoDir state (.server ok)
      ((state.unlink (fifoPath fifoDir kind pid) ok).goTo (.accept pid (.afterUnlink kind)))
  | unmade {ok : Bool} {pid : Pid} {kind : FifoKind}
      (place : state.server = .accept pid (.make kind)) :
    HandshakeStep fifoDir state (.server ok) (state.goTo (.afterMade pid kind))
  | make {pid : Pid} {kind : FifoKind} (place : state.server = .accept pid (.make kind))
      (free : state.files (fifoPath fifoDir kind pid) = none) :
    HandshakeStep fifoDir state (.server true)
      ((state.mkfifo (fifoPath fifoDir kind pid) pid kind).goTo (.accept pid (.afterMake kind)))
  | unmake {ok : Bool} {pid : Pid} (place : state.server = .accept pid .unmake) :
    HandshakeStep fifoDir state (.server ok)
      ((state.unlink (fifoPath fifoDir .c2s pid) ok).goTo .idle)
  | signal {pid : Pid} {process : ClientProcess} (place : state.server = .accept pid .signal)
      (there : state.processes pid = some process) :
    HandshakeStep fifoDir state (.server true)
      ((state.setProcess pid (some { process with usr2 := true })).goTo (.accept pid .openC2s))
  | unsignalled {ok : Bool} {pid : Pid} (place : state.server = .accept pid .signal) :
    HandshakeStep fifoDir state (.server ok) (state.goTo (.leave pid (.unlink .c2s)))
  | openReading {pid : Pid} {c2s : Inode} (place : state.server = .accept pid .openC2s)
      (found : state.files (fifoPath fifoDir .c2s pid) = some c2s) :
    HandshakeStep fifoDir state (.server true)
      ((state.openFifo c2s .reading .server).goTo (.accept pid (.openS2c c2s)))
  | unopened {ok : Bool} {pid : Pid} (place : state.server = .accept pid .openC2s)
      (failed : ok = false ∨ state.files (fifoPath fifoDir .c2s pid) = none) :
    HandshakeStep fifoDir state (.server ok) (state.goTo (.leave pid (.unlink .c2s)))
  | openWriting {pid : Pid} {c2s s2c : Inode} (place : state.server = .accept pid (.openS2c c2s))
      (found : state.files (fifoPath fifoDir .s2c pid) = some s2c) :
    HandshakeStep fifoDir state (.server true)
      ((state.openFifo s2c .writing .server).goTo
        (.accept pid (.enterS2c ⟨c2s, s2c⟩ ((state.pipes s2c).ticket .writing))))
  | unopenedS2c {ok : Bool} {pid : Pid} {c2s : Inode}
      (place : state.server = .accept pid (.openS2c c2s))
      (failed : ok = false ∨ state.files (fifoPath fifoDir .s2c pid) = none) :
    HandshakeStep fifoDir state (.server ok) (state.goTo (.leave pid (.closeC2s c2s none)))
  | enter {ok : Bool} {pid : Pid} {fifos : FifoPair} {ticket : Option Nat}
      (place : state.server = .accept pid (.enterS2c fifos ticket))
      (returned : (state.pipes fifos.s2c).lets .writing ticket = true) :
    HandshakeStep fifoDir state (.server ok) (state.goTo (.accept pid (.register fifos)))
  | register {pid : Pid} {fifos : FifoPair} (place : state.server = .accept pid (.register fifos)) :
    HandshakeStep fifoDir state (.server true) { state with
      server := .idle
      clients := pid :: state.clients
      held := Function.update state.held pid (some fifos) }
  | unregistered {pid : Pid} {fifos : FifoPair}
      (place : state.server = .accept pid (.register fifos)) :
    HandshakeStep fifoDir state (.server false)
      (state.goTo (.leave pid (.closeC2s fifos.c2s (some fifos.s2c))))
  | closeC2s {ok : Bool} {pid : Pid} {c2s : Inode} {s2c : Option Inode}
      (place : state.server = .leave pid (.closeC2s c2s s2c)) :
    HandshakeStep fifoDir state (.server ok)
      ((state.closeFifo c2s .reading .server).goTo (.leave pid (.afterClose s2c)))
  | closeS2c {ok : Bool} {pid : Pid} {s2c : Inode}
      (place : state.server = .leave pid (.closeS2c s2c)) :
    HandshakeStep fifoDir state (.server ok)
      ((state.closeFifo s2c .writing .server).goTo (.leave pid (.unlink .c2s)))
  | unlink {ok : Bool} {pid : Pid} {kind : FifoKind}
      (place : state.server = .leave pid (.unlink kind)) :
    HandshakeStep fifoDir state (.server ok)
      ((state.unlink (fifoPath fifoDir kind pid) ok).goTo (.afterUnlinked pid kind))
  | drop {pid : Pid} {fifos : FifoPair} (place : state.server = .idle)
      (connected : state.held pid = some fifos) :
    HandshakeStep fifoDir state (.close pid) { state with
      server := .leave pid (.closeC2s fifos.c2s (some fifos.s2c))
      held := Function.update state.held pid none }

section Inversion

variable {fifoDir : Option Bytes} {state next : Handshake} {pid : Pid} {process : ClientProcess}

/-- The steps of a client process. -/
theorem clientStep_some (there : state.processes pid = some process)
    (stepped : state.clientStep fifoDir pid process = some next) :
    HandshakeStep fifoDir state (.client pid) next := by
  unfold Handshake.clientStep at stepped
  split at stepped
  case h_1 place =>
    cases stepped
    exact .install there place
  case h_2 place =>
    cases stepped
    exact .request there place
  case h_3 checks place =>
    split at stepped
    · cases stepped
      exact .look there place ‹_›
    · cases stepped
      refine .gaveUp there ?_
      rw [place]
      exact Nat.not_lt.mp ‹_›
  case h_4 place =>
    split at stepped
    · cases stepped
      refine .gaveUp there ?_
      rw [place]
      exact .inl ‹_›
    · rename_i c2sPath s2cPath named
      obtain ⟨rfl, -⟩ := Prod.mk.inj (getFifoPaths_some named)
      split at stepped
      · cases stepped
        refine .gaveUp there ?_
        rw [place]
        exact .inr ‹_›
      · cases stepped
        exact .openC2s there place ‹_›
  case h_5 c2s ticket place =>
    obtain ⟨returned, made⟩ := Option.ite_none_right_eq_some.mp stepped
    cases made
    exact .enterC2s there place returned
  case h_6 c2s place =>
    split at stepped
    · cases stepped
      refine .gaveUp there ?_
      rw [place]
      exact ‹_›
    · cases stepped
      exact .openS2c there place ‹_›
  case h_7 fifos ticket place =>
    obtain ⟨returned, made⟩ := Option.ite_none_right_eq_some.mp stepped
    cases made
    exact .enterS2c there place returned
  case h_8 => cases stepped

/-- The delivery of `SIGUSR2`. -/
theorem receiveUsr2_step (there : state.processes pid = some process)
    (sent : process.usr2 = true) :
    HandshakeStep fifoDir state (.deliverUsr2 pid) (state.receiveUsr2 pid process) := by
  have ends : HandshakeStep fifoDir state (.deliverUsr2 pid)
      (state.terminate pid process.place) := .killed there sent
  unfold Handshake.receiveUsr2
  split
  case h_1 => exact ends
  case h_2 place =>
    split
    · exact .notice there sent (by simp [place])
    · exact ends
  case h_3 place =>
    split
    · exact .notice there sent (by simp [place])
    · exact ends
  case h_4 place _ _ => exact .notice there sent place

/-- The delivery of `SIGUSR1`. -/
theorem receiveUsr1_some (sent : state.usr1 = some pid)
    (received : state.receiveUsr1 pid = some next) :
    HandshakeStep fifoDir state .deliverUsr1 next := by
  obtain ⟨pending, handled, made⟩ := Option.map_eq_some_iff.mp received
  simp only at made
  split at made
  · rename_i place
    split at made
    · exact made ▸ .record sent handled
    · rename_i waits
      exact made ▸ .interrupt sent handled place (by simpa using waits)
  · exact made ▸ .record sent handled

/-- The steps of `accept_client`. -/
theorem acceptStep_some {ok : Bool} {stage : AcceptStage} (place : state.server = .accept pid stage)
    (stepped : state.acceptStep fifoDir pid ok stage = some next) :
    HandshakeStep fifoDir state (.server ok) next := by
  cases stage with
  | paths =>
    unfold Handshake.acceptStep at stepped
    dsimp only at stepped
    split at stepped
    · exact Option.some.inj stepped ▸ .tooLong place
    · rename_i named
      exact Option.some.inj stepped ▸ .paths place (by rw [named]; rfl)
  | unlinkOld kind => cases kind <;> exact Option.some.inj stepped ▸ .unlinkOld place
  | make kind =>
    unfold Handshake.acceptStep at stepped
    dsimp only at stepped
    split at stepped
    · cases kind <;> exact Option.some.inj stepped ▸ .unmade place
    · rename_i possible
      obtain ⟨free, fine⟩ := not_or.mp possible
      have there : state.files (fifoPath fifoDir kind pid) = none := by simpa using free
      obtain rfl : ok = true := by simpa using fine
      cases kind <;> exact Option.some.inj stepped ▸ .make place there
  | unmake => exact Option.some.inj stepped ▸ .unmake place
  | signal =>
    unfold Handshake.acceptStep at stepped
    dsimp only at stepped
    split at stepped
    · exact Option.some.inj stepped ▸ .signal place ‹_›
    · exact Option.some.inj stepped ▸ .unsignalled place
  | openC2s =>
    unfold Handshake.acceptStep at stepped
    dsimp only at stepped
    split at stepped
    · exact Option.some.inj stepped ▸ .openReading place ‹_›
    · rename_i failed
      refine Option.some.inj stepped ▸ .unopened place ?_
      by_contra proper
      obtain ⟨fine, found⟩ := not_or.mp proper
      obtain ⟨inode, there⟩ := Option.ne_none_iff_exists'.mp found
      exact failed inode (by simpa using fine) there
  | openS2c c2s =>
    unfold Handshake.acceptStep at stepped
    dsimp only at stepped
    split at stepped
    · exact Option.some.inj stepped ▸ .openWriting place ‹_›
    · rename_i failed
      refine Option.some.inj stepped ▸ .unopenedS2c place ?_
      by_contra proper
      obtain ⟨fine, found⟩ := not_or.mp proper
      obtain ⟨inode, there⟩ := Option.ne_none_iff_exists'.mp found
      exact failed inode (by simpa using fine) there
  | enterS2c fifos ticket =>
    obtain ⟨returned, made⟩ := Option.ite_none_right_eq_some.mp stepped
    exact Option.some.inj made ▸ .enter place returned
  | register fifos =>
    cases ok with
    | true => exact Option.some.inj stepped ▸ .register place
    | false => exact Option.some.inj stepped ▸ .unregistered place

/-- The steps of the main loop. -/
theorem serverStep_some {ok : Bool} (stepped : state.serverStep fifoDir ok = some next) :
    HandshakeStep fifoDir state (.server ok) next := by
  unfold Handshake.serverStep at stepped
  split at stepped
  case h_1 place =>
    obtain ⟨pending, taken, made⟩ := Option.map_eq_some_iff.mp stepped
    exact made ▸ .read place taken
  case h_2 place =>
    obtain ⟨pending, cleared, made⟩ := Option.map_eq_some_iff.mp stepped
    obtain ⟨pid, taken, -⟩ := Option.map_eq_some_iff.mp cleared
    simp only [taken, Option.getD_some] at made
    split at made
    · exact made ▸ .decline place taken cleared
    · rename_i proper
      obtain ⟨real, new⟩ := not_or.mp proper
      exact made ▸ .accept place taken cleared real new
  case h_3 pid stage place => exact acceptStep_some place stepped
  case h_4 pid stage place =>
    cases stage with
    | closeC2s c2s s2c => cases s2c <;> exact Option.some.inj stepped ▸ .closeC2s place
    | closeS2c s2c => exact Option.some.inj stepped ▸ .closeS2c place
    | unlink kind => cases kind <;> exact Option.some.inj stepped ▸ .unlink place

/-- Every step of the machine is one of the steps. -/
theorem handshakeMachine_step {label : HandshakeLabel}
    (stepped : (handshakeMachine fifoDir).step state label = some next) :
    HandshakeStep fifoDir state label next := by
  cases label with
  | start pid =>
    obtain ⟨possible, made⟩ := Option.ite_none_left_eq_some.mp stepped
    obtain ⟨real, new⟩ := not_or.mp possible
    exact Option.some.inj made ▸ .start real (by simpa using new)
  | client pid =>
    obtain ⟨process, there, goes⟩ := Option.bind_eq_some_iff.mp stepped
    exact clientStep_some there goes
  | exit pid =>
    obtain ⟨process, there, made⟩ := Option.map_eq_some_iff.mp stepped
    exact made ▸ .exited there
  | deliverUsr2 pid =>
    simp only [handshakeMachine] at stepped
    split at stepped
    · obtain ⟨sent, made⟩ := Option.ite_none_right_eq_some.mp stepped
      exact Option.some.inj made ▸ receiveUsr2_step ‹_› sent
    · cases stepped
  | deliverUsr1 =>
    obtain ⟨pid, sent, received⟩ := Option.bind_eq_some_iff.mp stepped
    exact receiveUsr1_some sent received
  | server ok => exact serverStep_some stepped
  | close pid =>
    change state.closeClient pid = some next at stepped
    unfold Handshake.closeClient at stepped
    split at stepped
    · exact Option.some.inj stepped ▸ .drop ‹_› ‹_›
    · cases stepped

end Inversion

end AnimateService
