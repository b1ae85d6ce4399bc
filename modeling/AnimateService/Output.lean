import Mathlib.Data.Fintype.Card
import AnimateService.Text
import AnimateService.Library.ReorderWindow

/-!
# Ordered responses

`write_all` and `send_ordered_response` of the thread pool, for one client. A call runs under the
client's `output_mutex`, so it is one step; what the kernel answers to its `write` calls is given
with the call and has to be consumed exactly. Sequence numbers are `uint64_t`: their sums are
taken modulo 2⁶⁴.
-/
namespace AnimateService

open Reorder

/-- `MAX_PENDING_RESPONSES`. -/
abbrev maxPendingResponses : Nat := 1024

instance : NeZero maxPendingResponses := ⟨by decide⟩

/-- What the kernel answers to one `write` on a FIFO. -/
inductive WriteResult where
  /-- That many bytes were taken. -/
  | wrote (count : Nat)
  /-- `EINTR`. -/
  | interrupted
  /-- Another error, such as `EAGAIN` on a full FIFO. -/
  | refused
  /-- The FIFO has no reader: `SIGPIPE` is raised, and `EPIPE` returned if the process lives. -/
  | noReader
  deriving DecidableEq, Repr

/-- How `write_all` ends. -/
inductive WriteEnd where
  /-- It returns 0. -/
  | complete
  /-- It returns -1. -/
  | failed
  /-- `SIGPIPE` ended the process. -/
  | killed
  deriving DecidableEq, Repr

/-- `write_all`: the bytes that were written, how it ends, and the answers it leaves over. The
default action of `SIGPIPE` is `deadly`. There is no result while the kernel has not answered. -/
def writeAll (deadly : Bool) : Bytes → List WriteResult → Option (Bytes × WriteEnd × List WriteResult)
  | [], results => some ([], .complete, results)
  | _ :: _, [] => none
  | text, .wrote count :: results =>
    if count = 0 then some ([], .failed, results)
    else if text.length < count then none
    else (writeAll deadly (text.drop count) results).map fun (written, ending, rest) =>
      (text.take count ++ written, ending, rest)
  | text, .interrupted :: results => writeAll deadly text results
  | _, .refused :: results => some ([], .failed, results)
  | _, .noReader :: results => some ([], if deadly then .killed else .failed, results)

/-- The fields of `client_state_t` that `send_ordered_response` uses. -/
structure Output where
  /-- `fifo_s2c_fd`; `none` is -1. -/
  fifoS2c : Option Nat
  /-- The client is closed or a write to it failed. -/
  disconnected : Bool := false
  /-- `responses_sent`. -/
  responsesSent : Nat := 0
  /-- `pending_responses`; a slot that is not `ready` is `none`. -/
  pending : Ring maxPendingResponses Bytes := fun _ => none

/-- What a call leaves and what it wrote. -/
structure Sent where
  /-- The client's fields after the call. -/
  output : Output
  /-- The bytes that reached the FIFO. -/
  written : Bytes
  /-- `SIGPIPE` ended the process. -/
  killed : Bool

/-- `free_response` on a slot. -/
def Output.freeResponse (output : Output) (slot : Fin maxPendingResponses) : Output :=
  { output with pending := Function.update output.pending slot none }

/-- The response that is next to go, if it has arrived. -/
def Output.front (output : Output) : Option Bytes :=
  match output.pending (slot output.responsesSent) with
  | some (seqNum, text) => if seqNum = output.responsesSent then some text else none
  | none => none

/-- The client's fields after the response that is next has been written. -/
def Output.advance (output : Output) : Output :=
  { output.freeResponse (slot output.responsesSent) with
    responsesSent := (output.responsesSent + 1) % 2 ^ 64 }

/-- The loop of `send_ordered_response`: write the responses that are next, in order. -/
def drain (deadly : Bool) : Nat → Output → List WriteResult → Option Sent
  | 0, _, _ => none
  | fuel + 1, output, results =>
    match output.front with
    | none => if results = [] then some ⟨output, [], false⟩ else none
    | some text =>
      match writeAll deadly text results with
      | none => none
      | some (written, .complete, rest) =>
        (drain deadly fuel output.advance rest).map fun sent =>
          { sent with written := written ++ sent.written }
      | some (written, .failed, rest) =>
        let freed := output.freeResponse (slot output.responsesSent)
        if rest = [] then some ⟨{ freed with disconnected := true }, written, false⟩ else none
      | some (written, .killed, rest) => if rest = [] then some ⟨output, written, true⟩ else none

/-- The two tests of `send_ordered_response` that discard a response: the client is gone, or the
sequence number is outside the window or its slot is taken. -/
def Output.discards (output : Output) (seqNum : Nat) : Bool :=
  output.disconnected || output.fifoS2c.isNone || seqNum < output.responsesSent ||
    (output.responsesSent + maxPendingResponses) % 2 ^ 64 ≤ seqNum ||
    (output.pending (slot seqNum)).isSome

/-- A response is put into its slot. -/
def Output.store (output : Output) (seqNum : Nat) (text : Bytes) : Output :=
  { output with pending := Function.update output.pending (slot seqNum) (some (seqNum, text)) }

/-- `send_ordered_response`. Each pass of its loop frees a slot, so there is fuel for all. -/
def sendOrderedResponse (deadly : Bool) (output : Output) (seqNum : Nat) (text : Bytes)
    (results : List WriteResult) : Option Sent :=
  if output.discards seqNum then if results = [] then some ⟨output, [], false⟩ else none
  else drain deadly (maxPendingResponses + 1) (output.store seqNum text) results

/-! ## Writing -/

/-- `write_all` writes the whole text if it succeeds, and a proper initial part of it otherwise. -/
theorem writeAll_written {deadly : Bool} {text written : Bytes} {results rest : List WriteResult}
    {ending : WriteEnd} (wrote : writeAll deadly text results = some (written, ending, rest)) :
    (ending = .complete → written = text) ∧
      (ending ≠ .complete → written <+: text ∧ written ≠ text) := by
  induction results generalizing text written with
  | nil =>
    cases text with
    | nil =>
      cases wrote
      simp
    | cons byte text => cases wrote
  | cons result results ih =>
    cases text with
    | nil =>
      cases wrote
      simp
    | cons byte text =>
      cases result with
      | wrote count =>
        simp only [writeAll] at wrote
        split at wrote
        · cases wrote
          simp
        · split at wrote
          · cases wrote
          · obtain ⟨⟨more, ended, left⟩, later, same⟩ := Option.map_eq_some_iff.mp wrote
            cases same
            obtain ⟨whole, part⟩ := ih later
            have parts : (byte :: text).take count ++ (byte :: text).drop count = byte :: text :=
              List.take_append_drop count (byte :: text)
            constructor
            · intro complete
              rw [whole complete, parts]
            · intro incomplete
              obtain ⟨initial, proper⟩ := part incomplete
              have extended := (List.prefix_append_right_inj ((byte :: text).take count)).mpr initial
              rw [parts] at extended
              refine ⟨extended, fun same => proper ?_⟩
              exact List.append_cancel_left (same.trans parts.symm)
      | interrupted => exact ih wrote
      | refused =>
        cases wrote
        simp
      | noReader =>
        cases wrote
        cases deadly <;> simp

/-- The kernel's answers when it takes a whole text at once. -/
def taken (text : Bytes) : List WriteResult := if text = [] then [] else [.wrote text.length]

/-- A text that is taken at once is written. -/
theorem writeAll_taken (deadly : Bool) (text : Bytes) (rest : List WriteResult) :
    writeAll deadly text (taken text ++ rest) = some (text, .complete, rest) := by
  cases text with
  | nil => cases rest <;> rfl
  | cons byte text => simp [taken, writeAll]

/-! ## The loop ends -/

/-- The slots that are ready. -/
def Output.ready (output : Output) : Finset (Fin maxPendingResponses) :=
  Finset.univ.filter fun place => (output.pending place).isSome

@[simp] theorem mem_ready {output : Output} {place : Fin maxPendingResponses} :
    place ∈ output.ready ↔ (output.pending place).isSome = true := by
  simp [Output.ready]

/-- A ring has no more responses than slots. -/
theorem card_ready_le (output : Output) : output.ready.card ≤ maxPendingResponses := by
  simpa using Finset.card_le_univ output.ready

/-- The slot of the response that is next is ready. -/
theorem front_ready {output : Output} {text : Bytes} (next : output.front = some text) :
    output.pending (slot output.responsesSent) = some (output.responsesSent, text) := by
  unfold Output.front at next
  split at next
  · rename_i seqNum stored found
    split at next
    · rename_i same
      cases next
      rw [found, same]
    · cases next
  · cases next

/-- Each pass frees a slot. -/
theorem card_ready_advance {output : Output} {text : Bytes} (next : output.front = some text) :
    output.advance.ready.card < output.ready.card := by
  apply Finset.card_lt_card
  rw [Finset.ssubset_iff_of_subset]
  · refine ⟨slot output.responsesSent, by simp [front_ready next], ?_⟩
    rw [mem_ready]
    simp [Output.advance, Output.freeResponse]
  · intro place
    rw [mem_ready, mem_ready]
    by_cases same : place = slot output.responsesSent
    · simp [Output.advance, Output.freeResponse, same]
    · simp [Output.advance, Output.freeResponse, Function.update_of_ne same]

/-- More fuel than there are ready responses makes no difference. -/
theorem drain_fuel {deadly : Bool} {fuel more : Nat} {output : Output} {results : List WriteResult}
    (enough : output.ready.card < fuel) (also : output.ready.card < more) :
    drain deadly fuel output results = drain deadly more output results := by
  induction fuel generalizing more output results with
  | zero => omega
  | succ fuel ih =>
    cases more with
    | zero => omega
    | succ more =>
      unfold drain
      cases next : output.front with
      | none => rfl
      | some text =>
        have fewer := card_ready_advance next
        have later : ∀ rest : List WriteResult,
            drain deadly fuel output.advance rest = drain deadly more output.advance rest :=
          fun rest => ih (lt_of_lt_of_le fewer (Nat.lt_succ_iff.mp enough))
            (lt_of_lt_of_le fewer (Nat.lt_succ_iff.mp also))
        simp only [later]

/-- An answer of a kernel that takes whole texts. -/
def WriteResult.takes : WriteResult → Bool
  | .wrote count => count ≠ 0
  | _ => false

/-- While the kernel takes whole texts, the loop ends, and the process lives. -/
theorem drain_returns {deadly : Bool} {fuel : Nat} {output : Output}
    (enough : output.ready.card < fuel) :
    ∃ results sent, drain deadly fuel output results = some sent ∧ sent.killed = false ∧
      ∀ result ∈ results, result.takes = true := by
  induction fuel generalizing output with
  | zero => omega
  | succ fuel ih =>
    cases next : output.front with
    | none => exact ⟨[], ⟨output, [], false⟩, by simp [drain, next], rfl, by simp⟩
    | some text =>
      have fewer := card_ready_advance next
      obtain ⟨rest, sent, later, lives, takes⟩ :=
        ih (lt_of_lt_of_le fewer (Nat.lt_succ_iff.mp enough))
      refine ⟨taken text ++ rest, { sent with written := text ++ sent.written }, ?_, lives, ?_⟩
      · simp [drain, next, writeAll_taken, later]
      · intro result inside
        rcases List.mem_append.mp inside with here | there
        · unfold taken at here
          split at here
          · cases here
          · rename_i written
            rw [List.mem_singleton.mp here]
            simpa [WriteResult.takes] using written
        · exact takes result there

/-- Where nobody reads, the loop ends at its first write. -/
theorem drain_unread {deadly : Bool} {fuel : Nat} {output : Output}
    (enough : output.ready.card < fuel) :
    ∃ results sent, drain deadly fuel output results = some sent ∧
      ∀ result ∈ results, result = .noReader := by
  induction fuel generalizing output with
  | zero => omega
  | succ fuel ih =>
    cases next : output.front with
    | none => exact ⟨[], ⟨output, [], false⟩, by simp [drain, next], by simp⟩
    | some text =>
      cases text with
      | nil =>
        have fewer := card_ready_advance next
        obtain ⟨rest, sent, later, unread⟩ :=
          ih (lt_of_lt_of_le fewer (Nat.lt_succ_iff.mp enough))
        exact ⟨rest, { sent with written := [] ++ sent.written },
          by simp [drain, next, writeAll, later], unread⟩
      | cons byte text =>
        refine ⟨[.noReader], ?_⟩
        cases deadly <;> simp [drain, next, writeAll]

/-- Every call returns for some answers of the kernel that let the process live, and its fuel is no
restriction. -/
theorem sendOrderedResponse_returns (deadly : Bool) (output : Output) (seqNum : Nat)
    (text : Bytes) : ∃ results sent,
      sendOrderedResponse deadly output seqNum text results = some sent ∧ sent.killed = false ∧
        ∀ result ∈ results, result.takes = true := by
  unfold sendOrderedResponse
  split
  · exact ⟨[], _, rfl, rfl, by simp⟩
  · exact drain_returns (Nat.lt_succ_of_le (card_ready_le _))

/-- It also returns where nobody reads. -/
theorem sendOrderedResponse_unread (deadly : Bool) (output : Output) (seqNum : Nat)
    (text : Bytes) : ∃ results sent,
      sendOrderedResponse deadly output seqNum text results = some sent ∧
        ∀ result ∈ results, result = .noReader := by
  unfold sendOrderedResponse
  split
  · exact ⟨[], _, rfl, by simp⟩
  · exact drain_unread (Nat.lt_succ_of_le (card_ready_le _))

end AnimateService
