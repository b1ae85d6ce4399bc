import Mathlib.Logic.Function.Basic

/-!
# The signals of the server

What `main` and `server_init_signals` do to the dispositions of the process and to the mask of
the main thread before `threadpool_create` starts the workers, which inherit that mask. A server
is started with the dispositions and the mask of its parent.
-/
namespace AnimateService

/-- The signals that the server sets up or that its writes raise. -/
inductive Signal where
  | usr1 | usr2 | pipe
  deriving DecidableEq, Repr

/-- What a signal does when it is delivered. -/
inductive Disposition where
  /-- Its default action, which ends the process. -/
  | standard
  /-- Nothing. -/
  | ignored
  /-- A handler runs. -/
  | handled
  deriving DecidableEq, Repr

/-- The dispositions of the process and the mask of a thread. -/
structure Signals where
  /-- The disposition of each signal. -/
  disposition : Signal → Disposition
  /-- The signal is blocked. -/
  blocked : Signal → Bool

/-- `pthread_sigmask` with `SIG_BLOCK` or `SIG_UNBLOCK`. -/
def Signals.mask (signals : Signals) (block : Bool) (set : List Signal) : Signals :=
  { signals with
    blocked := fun signal => if signal ∈ set then block else signals.blocked signal }

/-- `server_init_signals`. -/
def serverInitSignals (signals : Signals) : Signals :=
  { signals with disposition := Function.update signals.disposition .usr1 .handled }

/-- The signals when `main` calls `threadpool_create`, from those that the server was started
with. -/
def mainSignals (inherited : Signals) : Signals :=
  (serverInitSignals (inherited.mask true [.usr1, .usr2])).mask false [.usr1, .usr2]

/-- A write to a FIFO without a reader ends the process. -/
def Signals.pipeDeadly (signals : Signals) : Bool :=
  signals.disposition .pipe = .standard && !signals.blocked .pipe

/-- `main` leaves `SIGPIPE` as it was when the server was started. -/
theorem mainSignals_pipeDeadly (inherited : Signals) :
    (mainSignals inherited).pipeDeadly = inherited.pipeDeadly := by
  simp [mainSignals, serverInitSignals, Signals.mask, Signals.pipeDeadly]

end AnimateService
