import Mathlib.Order.Bounds.Basic
import AnimateService.Library.Machine
import AnimateService.Output

/-!
# The response stream of one client

Workers hand in responses in any order. The ring of pending responses and the counter of those
sent are a reorder window, so what reaches the FIFO is an initial part of the responses in the
order of their requests, whatever the order in which they are handed in.
-/
namespace AnimateService

open Reorder Transition

/-- One call of `send_ordered_response`, with the kernel's answers. -/
structure SendCall where
  /-- `request_seq_num` of the request that is answered. -/
  seqNum : Nat
  /-- The response. -/
  text : Bytes
  /-- What the kernel answers to the writes. -/
  results : List WriteResult
  deriving DecidableEq, Repr

/-- A client's output, with a record of what happened to it. -/
structure Stream where
  /-- The fields of the client. -/
  output : Output
  /-- The bytes that reached the FIFO. -/
  fifo : Bytes := []
  /-- The responses that arrived in the window of a connected client. -/
  accepted : Nat → Option Bytes := fun _ => none
  /-- A write ended the process. -/
  killed : Bool := false

/-- The sequence number is in the window. -/
def Output.inWindow (output : Output) (seqNum : Nat) : Prop :=
  output.responsesSent ≤ seqNum ∧ seqNum < output.responsesSent + maxPendingResponses

instance (output : Output) (seqNum : Nat) : Decidable (output.inWindow seqNum) :=
  inferInstanceAs (Decidable (_ ∧ _))

/-- The calls for one client, in the order in which they take its `output_mutex`. -/
def streamMachine (deadly : Bool) : Machine Stream SendCall where
  step stream call :=
    if stream.killed then none
    else
      (sendOrderedResponse deadly stream.output call.seqNum call.text call.results).map fun sent =>
        { output := sent.output
          fifo := stream.fifo ++ sent.written
          accepted :=
            if stream.output.disconnected = false ∧ stream.output.inWindow call.seqNum then
              Function.update stream.accepted call.seqNum (some call.text)
            else stream.accepted
          killed := sent.killed }

/-- The responses below a number, one after the other. -/
def concatenated (accepted : Nat → Option Bytes) (count : Nat) : Bytes :=
  (List.range count).flatMap fun seqNum => (accepted seqNum).getD []

/-- One more response is appended. -/
theorem concatenated_succ (accepted : Nat → Option Bytes) (count : Nat) :
    concatenated accepted (count + 1) =
      concatenated accepted count ++ (accepted count).getD [] := by
  simp [concatenated, List.range_succ]

/-- Only the responses below the number matter. -/
theorem concatenated_congr {accepted other : Nat → Option Bytes} {count : Nat}
    (same : ∀ seqNum < count, accepted seqNum = other seqNum) :
    concatenated accepted count = concatenated other count := by
  unfold concatenated
  apply List.flatMap_congr
  intro seqNum member
  rw [same seqNum (List.mem_range.mp member)]

/-- The first sequence number of which neither 2⁶⁴ nor the end of its window is in reach. -/
def seqLimit : Nat := 2 ^ 64 - maxPendingResponses

/-- The stream is a reorder window: what was sent has reached the FIFO in order, and what was
accepted beyond it is in the ring. -/
structure Ordered (accepted : Nat → Option Bytes) (fifo : Bytes) (output : Output) : Prop where
  /-- Everything below `responses_sent` was accepted. -/
  sent : ∀ seqNum < output.responsesSent, (accepted seqNum).isSome
  /-- The ring holds the accepted responses from there on. -/
  holds : Holds output.pending output.responsesSent fun seqNum =>
    if seqNum < output.responsesSent then none else accepted seqNum
  /-- The FIFO got the responses that were sent. -/
  fifo_eq : fifo = concatenated accepted output.responsesSent
  /-- Sequence numbers are far from their limit. -/
  bounded : ∀ seqNum, (accepted seqNum).isSome → seqNum < seqLimit

/-- A write failed in the middle of a response: the FIFO got all earlier responses and a proper
initial part of that one. -/
def Broken (accepted : Nat → Option Bytes) (fifo : Bytes) : Prop :=
  ∃ count text part, (∀ seqNum < count, (accepted seqNum).isSome) ∧ accepted count = some text ∧
    part <+: text ∧ part ≠ text ∧ fifo = concatenated accepted count ++ part

/-! ## One pass of the loop -/

variable {accepted : Nat → Option Bytes} {fifo : Bytes} {output : Output}

/-- The response in front is the accepted response that is next. -/
theorem Ordered.front_eq (ordered : Ordered accepted fifo output) :
    output.front = accepted output.responsesSent := by
  unfold Output.front
  split
  · rename_i seqNum text found
    obtain ⟨rfl, there⟩ := ordered.holds.front found
    rw [if_neg (lt_irrefl _)] at there
    rw [if_pos rfl, there]
  · rename_i empty
    cases next : accepted output.responsesSent with
    | none => rfl
    | some text =>
      have held : (if output.responsesSent < output.responsesSent then none
          else accepted output.responsesSent) = some text := by rw [if_neg (lt_irrefl _), next]
      rw [ordered.holds.there held] at empty
      cases empty

/-- Writing the response that is next keeps the order. -/
theorem Ordered.advance {text : Bytes} (ordered : Ordered accepted fifo output)
    (next : accepted output.responsesSent = some text) :
    Ordered accepted (fifo ++ text) output.advance := by
  have small : output.responsesSent < seqLimit := ordered.bounded _ (by simp [next])
  have counted : output.advance.responsesSent = output.responsesSent + 1 := by
    simp only [Output.advance, seqLimit, maxPendingResponses] at small ⊢
    omega
  have remaining : Function.update (fun seqNum =>
      if seqNum < output.responsesSent then none else accepted seqNum) output.responsesSent none =
      fun seqNum => if seqNum < output.responsesSent + 1 then none else accepted seqNum := by
    funext seqNum
    by_cases here : seqNum = output.responsesSent
    · simp [here]
    · rw [Function.update_of_ne here]
      by_cases below : seqNum < output.responsesSent
      · rw [if_pos below, if_pos (by omega)]
      · rw [if_neg below, if_neg (by omega)]
  constructor
  case sent =>
    rw [counted]
    intro seqNum below
    by_cases here : seqNum = output.responsesSent
    · simp [here, next]
    · exact ordered.sent seqNum (by omega)
  case holds =>
    rw [counted, ← remaining]
    exact ordered.holds.take
  case fifo_eq => rw [counted, concatenated_succ, next, ordered.fifo_eq, Option.getD_some]
  case bounded => exact ordered.bounded

/-- A new response in the window is stored. -/
theorem Ordered.store {seqNum : Nat} {text : Bytes} (ordered : Ordered accepted fifo output)
    (inside : output.inWindow seqNum) (new : accepted seqNum = none) (small : seqNum < seqLimit) :
    Ordered (Function.update accepted seqNum (some text)) fifo (output.store seqNum text) := by
  obtain ⟨above, below⟩ := inside
  have earlier : ∀ other < output.responsesSent,
      Function.update accepted seqNum (some text) other = accepted other := by
    intro other before
    rw [Function.update_of_ne (by omega)]
  constructor
  case sent =>
    intro other before
    rw [earlier other before]
    exact ordered.sent other before
  case holds =>
    have stored := ordered.holds.store above below (by rw [if_neg (by omega), new]) text
    have same : Function.update (fun other =>
        if other < output.responsesSent then none else accepted other) seqNum (some text) =
        fun other => if other < output.responsesSent then none
          else Function.update accepted seqNum (some text) other := by
      funext other
      by_cases here : other = seqNum
      · subst here
        rw [Function.update_self, if_neg (by omega), Function.update_self]
      · rw [Function.update_of_ne here, Function.update_of_ne here]
    rw [same] at stored
    exact stored
  case fifo_eq => exact ordered.fifo_eq.trans (concatenated_congr earlier).symm
  case bounded =>
    intro other arrived
    by_cases here : other = seqNum
    · rw [here]
      exact small
    · rw [Function.update_of_ne here] at arrived
      exact ordered.bounded other arrived

/-- A new response in the window finds its slot free. -/
theorem Ordered.free {seqNum : Nat} (ordered : Ordered accepted fifo output)
    (inside : output.inWindow seqNum) (new : accepted seqNum = none) :
    output.pending (slot seqNum) = none := by
  obtain ⟨above, below⟩ := inside
  exact ordered.holds.free above below (by rw [if_neg (by omega), new])

/-- The loop keeps the order until it finds no response, or breaks the stream off in one. -/
theorem Ordered.drain {deadly : Bool} {fuel : Nat} {results : List WriteResult} {sent : Sent}
    (ordered : Ordered accepted fifo output)
    (ran : drain deadly fuel output results = some sent) :
    (Ordered accepted (fifo ++ sent.written) sent.output ∧
      accepted sent.output.responsesSent = none ∧
      sent.output.disconnected = output.disconnected ∧ sent.killed = false) ∨
    (Broken accepted (fifo ++ sent.written) ∧
      (sent.output.disconnected = true ∨ sent.killed = true)) := by
  induction fuel generalizing fifo output results sent with
  | zero => cases ran
  | succ fuel ih =>
    unfold AnimateService.drain at ran
    cases next : output.front with
    | none =>
      simp only [next] at ran
      split at ran
      · cases ran
        refine .inl ⟨?_, ?_, rfl, rfl⟩
        · simpa using ordered
        · rw [← ordered.front_eq, next]
      · cases ran
    | some text =>
      have arrived := ordered.front_eq.symm.trans next
      simp only [next] at ran
      split at ran
      · cases ran
      · rename_i written rest wrote
        obtain rfl : written = text := (writeAll_written wrote).1 rfl
        obtain ⟨later, continued, rfl⟩ := Option.map_eq_some_iff.mp ran
        have going := ih (ordered.advance arrived) continued
        rw [List.append_assoc] at going
        exact going
      · rename_i written rest wrote
        obtain ⟨initial, proper⟩ := (writeAll_written wrote).2 (by simp)
        split at ran
        · cases ran
          exact .inr ⟨⟨output.responsesSent, text, written, ordered.sent, arrived, initial, proper,
            by rw [ordered.fifo_eq]⟩, .inl rfl⟩
        · cases ran
      · rename_i written rest wrote
        obtain ⟨initial, proper⟩ := (writeAll_written wrote).2 (by simp)
        split at ran
        · cases ran
          exact .inr ⟨⟨output.responsesSent, text, written, ordered.sent, arrived, initial, proper,
            by rw [ordered.fifo_eq]⟩, .inr rfl⟩
        · cases ran

/-! ## Whole runs -/

/-- A connected client's stream is in order and waits for the response that is next; otherwise it
broke off in a response. -/
structure StreamFormed (stream : Stream) : Prop where
  /-- The client's FIFO was opened. -/
  opened : stream.output.fifoS2c.isSome = true
  /-- No write failed. -/
  ordered : stream.output.disconnected = false → stream.killed = false →
    Ordered stream.accepted stream.fifo stream.output ∧
      stream.accepted stream.output.responsesSent = none
  /-- A write failed. -/
  broken : stream.output.disconnected = true ∨ stream.killed = true →
    Broken stream.accepted stream.fifo

/-- Below the limit the window test is the one on unbounded numbers, and it is the only reason to
discard a new response of a connected client. -/
theorem Ordered.discards_iff {seqNum : Nat} (ordered : Ordered accepted fifo output)
    (connected : output.disconnected = false) (opened : output.fifoS2c.isSome = true)
    (new : accepted seqNum = none) (small : seqNum < seqLimit) :
    output.discards seqNum = false ↔ output.inWindow seqNum := by
  have reach : output.responsesSent ≤ seqLimit := by
    rcases Nat.eq_zero_or_pos output.responsesSent with none | some
    · omega
    · have last := ordered.bounded _ (ordered.sent (output.responsesSent - 1) (by omega))
      omega
  simp only [seqLimit, maxPendingResponses] at small reach
  constructor
  · intro kept
    simp only [Output.discards, Bool.or_eq_false_iff, decide_eq_false_iff_not] at kept
    obtain ⟨⟨⟨-, above⟩, below⟩, -⟩ := kept
    simp only [maxPendingResponses] at below
    constructor
    · omega
    · simp only [maxPendingResponses]
      omega
  · intro inside
    have free := ordered.free inside new
    obtain ⟨above, below⟩ := inside
    simp only [maxPendingResponses] at below
    simp only [Output.discards, connected, free, Option.isSome_none, Bool.or_false, Bool.false_or,
      Bool.or_eq_false_iff, decide_eq_false_iff_not]
    refine ⟨⟨?_, ?_⟩, ?_⟩
    · simpa using opened
    · omega
    · simp only [maxPendingResponses]
      omega

/-- Writing leaves the FIFO open. -/
theorem drain_fifoS2c {deadly : Bool} {fuel : Nat} {results : List WriteResult} {sent : Sent}
    (ran : drain deadly fuel output results = some sent) : sent.output.fifoS2c = output.fifoS2c := by
  induction fuel generalizing output results sent with
  | zero => cases ran
  | succ fuel ih =>
    unfold drain at ran
    split at ran
    · split at ran <;> cases ran
      rfl
    · split at ran
      · cases ran
      · obtain ⟨later, continued, rfl⟩ := Option.map_eq_some_iff.mp ran
        have kept : later.output.fifoS2c = output.advance.fifoS2c := ih continued
        exact kept
      · split at ran <;> cases ran
        rfl
      · split at ran <;> cases ran
        rfl

/-- A call leaves the FIFO open. -/
theorem sendOrderedResponse_fifoS2c {deadly : Bool} {seqNum : Nat} {text : Bytes}
    {results : List WriteResult} {sent : Sent}
    (called : sendOrderedResponse deadly output seqNum text results = some sent) :
    sent.output.fifoS2c = output.fifoS2c := by
  unfold sendOrderedResponse at called
  split at called
  · split at called <;> cases called
    rfl
  · have kept : sent.output.fifoS2c = (output.store seqNum text).fifoS2c := drain_fifoS2c called
    exact kept

/-- A response that is discarded changes nothing. -/
theorem sendOrderedResponse_discards {deadly : Bool} {seqNum : Nat} {text : Bytes}
    {results : List WriteResult} {sent : Sent} (discarded : output.discards seqNum = true)
    (called : sendOrderedResponse deadly output seqNum text results = some sent) :
    sent = ⟨output, [], false⟩ := by
  simp only [sendOrderedResponse, discarded, ↓reduceIte] at called
  split at called
  · exact (Option.some.inj called).symm
  · cases called

/-- A call for a client that is gone changes nothing. -/
theorem StreamFormed.gone {deadly : Bool} {stream next : Stream} {call : SendCall}
    (gone : stream.output.disconnected = true)
    (step : (streamMachine deadly).step stream call = some next) :
    next.output = stream.output ∧ next.fifo = stream.fifo ∧ next.accepted = stream.accepted := by
  simp only [streamMachine] at step
  split at step
  · cases step
  · obtain ⟨sent, called, rfl⟩ := Option.map_eq_some_iff.mp step
    have discarded : stream.output.discards call.seqNum = true := by simp [Output.discards, gone]
    rw [sendOrderedResponse_discards discarded called]
    simp [gone]

/-- A call with a new sequence number keeps the stream formed. -/
theorem StreamFormed.step {deadly : Bool} {stream next : Stream} {call : SendCall}
    (formed : StreamFormed stream) (new : stream.accepted call.seqNum = none)
    (small : call.seqNum < seqLimit)
    (step : (streamMachine deadly).step stream call = some next) : StreamFormed next := by
  simp only [streamMachine] at step
  split at step
  · cases step
  · rename_i lives
    obtain ⟨sent, called, rfl⟩ := Option.map_eq_some_iff.mp step
    have opened : sent.output.fifoS2c.isSome = true := by
      rw [sendOrderedResponse_fifoS2c called]
      exact formed.opened
    by_cases gone : stream.output.disconnected = true
    · have discarded : stream.output.discards call.seqNum = true := by simp [Output.discards, gone]
      rw [sendOrderedResponse_discards discarded called] at opened ⊢
      simp only [gone, List.append_nil]
      exact
        { opened
          ordered := by simp [gone]
          broken := fun _ => by simpa using formed.broken (.inl gone) }
    · have connected : stream.output.disconnected = false := by simpa using gone
      obtain ⟨ordered, waits⟩ := formed.ordered connected (by simpa using lives)
      have discards := ordered.discards_iff connected formed.opened new small
      by_cases inside : stream.output.inWindow call.seqNum
      · have kept := discards.mpr inside
        simp only [sendOrderedResponse, kept, Bool.false_eq_true, ↓reduceIte] at called
        rcases (ordered.store inside new small).drain called with
          ⟨after, next, same, alive⟩ | ⟨broken, ended⟩
        · rw [if_pos ⟨connected, inside⟩]
          exact
            { opened
              ordered := fun _ _ => ⟨after, next⟩
              broken := by
                rintro (failed | died)
                · exact absurd (same.symm.trans failed) gone
                · cases died.symm.trans alive }
        · rw [if_pos ⟨connected, inside⟩]
          exact
            { opened
              ordered := by
                intro fine alive
                rcases ended with failed | died
                · cases failed.symm.trans fine
                · cases died.symm.trans alive
              broken := fun _ => broken }
      · have discarded : stream.output.discards call.seqNum = true := by
          by_contra other
          exact inside (discards.mp (by simpa using other))
        rw [sendOrderedResponse_discards discarded called] at opened ⊢
        rw [if_neg fun both => inside both.2]
        simp only [List.append_nil]
        exact
          { opened
            ordered := fun _ _ => ⟨ordered, waits⟩
            broken := by simp [connected] }

/-- A call accepts no response but its own. -/
theorem accepted_other {deadly : Bool} {stream next : Stream} {call : SendCall} {seqNum : Nat}
    (step : (streamMachine deadly).step stream call = some next) (other : seqNum ≠ call.seqNum) :
    next.accepted seqNum = stream.accepted seqNum := by
  simp only [streamMachine] at step
  split at step
  · cases step
  · obtain ⟨sent, -, rfl⟩ := Option.map_eq_some_iff.mp step
    dsimp only
    split
    · exact Function.update_of_ne other _ _
    · rfl

/-- A call in the window of a connected client is accepted. -/
theorem accepted_call {deadly : Bool} {stream next : Stream} {call : SendCall}
    (step : (streamMachine deadly).step stream call = some next)
    (connected : stream.output.disconnected = false)
    (inside : stream.output.inWindow call.seqNum) :
    next.accepted = Function.update stream.accepted call.seqNum (some call.text) := by
  simp only [streamMachine] at step
  split at step
  · cases step
  · obtain ⟨sent, -, rfl⟩ := Option.map_eq_some_iff.mp step
    exact if_pos ⟨connected, inside⟩

/-- Calls with new and distinct sequence numbers keep the stream formed. -/
theorem StreamFormed.run {deadly : Bool} {stream last : Stream} {calls : List SendCall}
    (formed : StreamFormed stream) (distinct : (calls.map SendCall.seqNum).Nodup)
    (new : ∀ call ∈ calls, stream.accepted call.seqNum = none)
    (small : ∀ call ∈ calls, call.seqNum < seqLimit)
    (ran : (streamMachine deadly).run stream calls = some last) : StreamFormed last := by
  induction calls generalizing stream with
  | nil =>
    cases ran
    exact formed
  | cons call calls ih =>
    obtain ⟨next, step, rest⟩ := Machine.run_cons_some.mp ran
    rw [List.map_cons, List.nodup_cons] at distinct
    have here := formed.step (new call List.mem_cons_self) (small call List.mem_cons_self) step
    refine ih here distinct.2 ?_ (fun other member => small other (List.mem_cons_of_mem _ member)) rest
    intro other member
    have apart : other.seqNum ≠ call.seqNum := by
      intro same
      exact distinct.1 (same ▸ List.mem_map_of_mem member)
    rw [accepted_other step apart]
    exact new other (List.mem_cons_of_mem _ member)

/-- After the client is gone, calls write nothing. -/
theorem gone_writes_nothing {deadly : Bool} {stream last : Stream} {calls : List SendCall}
    (gone : stream.output.disconnected = true ∨ stream.killed = true)
    (ran : (streamMachine deadly).run stream calls = some last) : last.fifo = stream.fifo := by
  induction calls generalizing stream with
  | nil =>
    cases ran
    rfl
  | cons call calls ih =>
    obtain ⟨next, step, rest⟩ := Machine.run_cons_some.mp ran
    rcases gone with disconnected | killed
    · obtain ⟨output, fifo, -⟩ := StreamFormed.gone disconnected step
      rw [← fifo]
      exact ih (.inl (by rw [output, disconnected])) rest
    · simp [streamMachine, killed] at step

/-- A connected client that has got nothing yet. -/
theorem streamFormed_initial (fifo : Nat) : StreamFormed { output := { fifoS2c := some fifo } } where
  opened := rfl
  ordered := fun _ _ =>
    ⟨{ sent := by simp
       holds := by simpa using Holds.empty 0
       fifo_eq := rfl
       bounded := by simp }, rfl⟩
  broken := by simp

/-- In whatever order the responses of a client are handed in, with distinct sequence numbers
below 2⁶⁴ - 1024: while no write fails, the FIFO has got exactly the responses 0, 1, ..., m - 1, where
m is the first one that was not accepted, `responses_sent` is m, and a new response in the window
finds its slot free; once a write fails, the FIFO has got the first responses and a proper initial
part of the one after them, and gets nothing more. -/
theorem responses_in_order {deadly : Bool} {fifo : Nat} {calls : List SendCall} {last : Stream}
    (distinct : (calls.map SendCall.seqNum).Nodup)
    (small : ∀ call ∈ calls, call.seqNum < 2 ^ 64 - 1024)
    (ran : (streamMachine deadly).run { output := { fifoS2c := some fifo } } calls = some last) :
    (last.output.disconnected = false → last.killed = false →
      IsLeast {seqNum | last.accepted seqNum = none} last.output.responsesSent ∧
      last.fifo = concatenated last.accepted last.output.responsesSent ∧
      ∀ seqNum, last.accepted seqNum = none → last.output.inWindow seqNum →
        last.output.pending (slot seqNum) = none) ∧
    (last.output.disconnected = true ∨ last.killed = true →
      Broken last.accepted last.fifo ∧
      ∀ more final, (streamMachine deadly).run last more = some final → final.fifo = last.fifo) := by
  have formed := (streamFormed_initial fifo).run distinct (fun _ _ => rfl) small ran
  constructor
  · intro connected alive
    obtain ⟨ordered, waits⟩ := formed.ordered connected alive
    refine ⟨⟨waits, fun seqNum missing => ?_⟩, ordered.fifo_eq,
      fun seqNum new inside => ordered.free inside new⟩
    by_contra below
    have there := ordered.sent seqNum (by omega)
    rw [show last.accepted seqNum = none from missing] at there
    cases there
  · exact fun gone => ⟨formed.broken gone, fun more final => gone_writes_nothing gone⟩

/-- The second response arrives first. -/
def swappedCalls : List SendCall :=
  [⟨1, bytes "b", []⟩, ⟨0, bytes "a", [.wrote 1, .interrupted, .wrote 1]⟩]

/-- The second response is written after the first. -/
theorem responses_in_order_swapped : ∃ last,
    (streamMachine true).run { output := { fifoS2c := some 4 } } swappedCalls = some last ∧
    last.fifo = bytes "ab" ∧ IsLeast {seqNum | last.accepted seqNum = none} 2 ∧
    last.fifo = concatenated last.accepted 2 := by
  have distinct : (swappedCalls.map SendCall.seqNum).Nodup := by decide
  have small : ∀ call ∈ swappedCalls, call.seqNum < 2 ^ 64 - 1024 := by decide
  have ran : (streamMachine true).run { output := { fifoS2c := some 4 } } swappedCalls = some _ :=
    rfl
  obtain ⟨least, written, -⟩ := (responses_in_order distinct small ran).1 rfl rfl
  exact ⟨_, ran, by decide, least, written⟩

end AnimateService
