import AnimateService.Library.Framing
import AnimateService.Lines

/-!
# Lines and the reads that bring them

A client's bytes come in by any number of reads, which end anywhere. What `read_client_requests`
hands to `submit_line`, with what stays in the buffer, is the cut of the whole stream behind every
newline and, where none comes in time, behind every full buffer: the reads leave no trace in it.
-/
namespace AnimateService

open Framing Transition

/-- The cut of a stream behind every newline and every full buffer: what the lines should be,
however the bytes arrive. -/
def referenceLines (stream : Bytes) : List Bytes × Bytes :=
  split (fun byte => byte = 10) clientReadBuffer [] stream

/-- What happens to the bytes of one client. -/
inductive LineEvent where
  /-- A `read` returns them. -/
  | received (chunk : Bytes)
  /-- A line of them is handed to `submit_line`. -/
  | handed (line : Bytes)
  deriving DecidableEq, Repr

/-- The bytes that the reads returned, one after the other. -/
def receivedBytes (events : List LineEvent) : Bytes :=
  events.flatMap fun event =>
    match event with
    | .received chunk => chunk
    | .handed _ => []

/-- The lines that were handed to `submit_line`. -/
def handedLines (events : List LineEvent) : List Bytes :=
  events.flatMap fun event =>
    match event with
    | .received _ => []
    | .handed line => [line]

/-- The main loop is at a `read` of a client's FIFO. -/
def ServerState.isReading (state : ServerState) (client : ClientId) : Bool :=
  match state.main with
  | .reading other _ => other = client ∧ state.workers.isDisconnected client = false
  | _ => false

/-- What a step does to the bytes of a client. -/
def ServerState.lineEvents (client : ClientId) (state : ServerState) : ServerLabel → List LineEvent
  | .main (.read (.data chunk)) => if state.isReading client then [.received chunk] else []
  | .main (.submit _) => ((state.toSubmit client).take 1).map .handed
  | _ => []

/-- The loop of `process_buffered_lines` cuts a text that fits the buffer as the reference does, but
for a line that fills the buffer. -/
theorem cutLines_split {line text : Bytes} (short : line.length < clientReadBuffer)
    (fits : line.length + text.length ≤ clientReadBuffer) :
    split (fun byte => byte = 10) clientReadBuffer line text =
      if (cutLines line text).2.length = clientReadBuffer then
        ((cutLines line text).1 ++ [(cutLines line text).2], [])
      else cutLines line text := by
  have empty : (([] : Bytes)).length < clientReadBuffer := by decide
  induction text generalizing line with
  | nil =>
    rw [cutLines, if_neg (Nat.ne_of_lt short)]
    rfl
  | cons byte text ih =>
    rw [List.length_cons] at fits
    by_cases newline : byte = 10
    · have rest := ih empty (by rw [List.length_nil]; omega)
      simp only [split, cutLines, newline, decide_true, Bool.true_or, ↓reduceIte, rest]
      split
      · rfl
      · rfl
    · have longer : (line ++ [byte]).length = line.length + 1 := by simp
      by_cases full : (line ++ [byte]).length = clientReadBuffer
      · -- the last byte of a full buffer
        obtain rfl : text = [] := List.length_eq_zero_iff.mp (by omega)
        simp [split, cutLines, newline, full]
      · have rest := @ih (line ++ [byte]) (by omega) (by omega)
        simp only [split, cutLines, newline, full, decide_false, Bool.or_self,
          Bool.false_eq_true, ↓reduceIte, rest]

/-- `process_buffered_lines` cuts a buffer as the reference does. -/
theorem processBufferedLines_eq {buffer : Bytes} (fits : buffer.length ≤ clientReadBuffer) :
    processBufferedLines buffer = referenceLines buffer := by
  have cut := @cutLines_split [] buffer (by decide)
    (by rw [List.length_nil]; omega)
  rw [referenceLines, cut]
  rfl

section Steps

variable {auth : AuthDb} {deadly : Bool} {workerCount : Nat} {state next : ServerState}
  {client : ClientId}

/-- A `read` that returns bytes returns as many as the buffer has room for, at most. -/
theorem read_fits {chunk : Bytes} {rest : List ClientId}
    (place : state.main = .reading client rest)
    (connected : state.workers.isDisconnected client = false)
    (stepped : (serverMachine auth deadly workerCount).step state (.main (.read (.data chunk))) =
      some next) :
    (state.readBuffer client ++ chunk).length ≤ clientReadBuffer := by
  simp only [serverMachine] at stepped
  split at stepped
  · have read : state.read client rest (.data chunk) = some next := by
      rw [place] at stepped
      exact stepped
    simp only [ServerState.read, connected, Bool.false_eq_true, ↓reduceIte] at read
    obtain ⟨connection, present, cut⟩ := Option.bind_eq_some_iff.mp read
    split at cut
    · rename_i room
      simpa [ServerState.readBuffer, present] using room.2
    · cases cut
  · cases stepped

/-- Submitting takes the first of the lines that the loop has cut. -/
theorem submit_toSubmit {memory : Bool}
    (stepped : (serverMachine auth deadly workerCount).step state (.main (.submit memory)) =
      some next) :
    next.toSubmit client = (state.toSubmit client).tail := by
  simp only [serverMachine] at stepped
  split at stepped
  · generalize place : state.main = main at stepped
    cases main with
    | submitting other lines rest =>
      cases lines with
      | nil => cases stepped
      | cons line lines =>
        obtain ⟨middle, -, rfl⟩ := Option.map_eq_some_iff.mp stepped
        by_cases same : other = client
        · subst same
          have before : state.toSubmit other = line :: lines := by
            rw [ServerState.toSubmit, place]
            exact if_pos rfl
          rw [before]
          exact toSubmit_submit lines rest
        · have before : state.toSubmit client = [] := by
            rw [ServerState.toSubmit, place]
            exact if_neg same
          rw [before]
          exact toSubmit_submit_ne same lines rest
    | cleaning now unvisited => cases unvisited <;> cases stepped
    | serving unserved => cases unserved <;> cases stepped
    | _ => cases stepped
  · cases stepped

/-- What the reference knows of a client's stream: the lines handed on and cut, and the buffer. -/
structure Framed (client : ClientId) (state : ServerState) (events : List LineEvent) : Prop where
  /-- A client that was not accepted has no buffer. -/
  known : state.workers.clients client = none → state.connections client = none
  /-- The stream is cut as the reference cuts it. -/
  cut : referenceLines (receivedBytes events) =
    (handedLines events ++ state.toSubmit client, state.readBuffer client)

/-- What is in the buffer is the front of a line. -/
theorem Framed.begun {events : List LineEvent} (framed : Framed client state events) :
    Begun (fun byte => byte = 10) clientReadBuffer (state.readBuffer client) := by
  have started : Begun (fun byte : UInt8 => byte = 10) clientReadBuffer [] := begun_nil (by decide)
  have left := split_begun started (receivedBytes events)
  rwa [show split _ clientReadBuffer [] _ = _ from framed.cut] at left

/-- More bytes are cut behind those in the buffer. -/
theorem Framed.received {events : List LineEvent} (framed : Framed client state events)
    {chunk : Bytes} (fits : (state.readBuffer client ++ chunk).length ≤ clientReadBuffer)
    (idle : state.toSubmit client = []) :
    referenceLines (receivedBytes events ++ chunk) =
      (handedLines events ++ (processBufferedLines (state.readBuffer client ++ chunk)).1,
        (processBufferedLines (state.readBuffer client ++ chunk)).2) := by
  have whole : split (fun byte : UInt8 => byte = 10) clientReadBuffer [] (receivedBytes events) =
      (handedLines events ++ state.toSubmit client, state.readBuffer client) := framed.cut
  rw [referenceLines, split_append, whole, idle, List.append_nil,
    split_eq_split_nil framed.begun, processBufferedLines_eq fits]
  rfl

/-- A step that neither reads from the client nor submits for it shows nothing. -/
theorem lineEvents_kept {label : ServerLabel}
    (apart : ∀ chunk rest, label = .main (.read (.data chunk)) → state.main = .reading client rest →
      state.workers.isDisconnected client = true)
    (other : ∀ memory, label ≠ .main (.submit memory)) : state.lineEvents client label = [] := by
  unfold ServerState.lineEvents
  split
  · rename_i chunk
    refine if_neg fun reading => ?_
    unfold ServerState.isReading at reading
    split at reading
    · rename_i place
      obtain ⟨rfl, connected⟩ := of_decide_eq_true reading
      cases (apart chunk _ rfl place).symm.trans connected
    · cases reading
  · exact absurd rfl (other _)
  · rfl

/-- Every step of the server keeps to the reference. -/
theorem Framed.step {label : ServerLabel} {events : List LineEvent}
    (framed : Framed client state events)
    (stepped : (serverMachine auth deadly workerCount).step state label = some next) :
    Framed client next (events ++ state.lineEvents client label) := by
  have known := (serverMachine_step stepped).known framed.known
  refine ⟨known, ?_⟩
  have change := serverMachine_lineChange framed.known stepped
  by_cases submits : ∃ memory, label = .main (.submit memory)
  · obtain ⟨memory, rfl⟩ := submits
    have bytes_ : receivedBytes (events ++ state.lineEvents client (.main (.submit memory))) =
        receivedBytes events := by
      simp only [receivedBytes, ServerState.lineEvents, List.flatMap_append, List.flatMap_map]
      simp
    have lines_ : handedLines (events ++ state.lineEvents client (.main (.submit memory))) =
        handedLines events ++ (state.toSubmit client).take 1 := by
      simp only [handedLines, ServerState.lineEvents, List.flatMap_append, List.flatMap_map]
      simp
    have buffer : next.readBuffer client = state.readBuffer client := by
      cases change with
      | kept toSubmit readBuffer submitted apart => exact readBuffer
      | received called place connected workers toSubmit readBuffer => cases called
      | submitted called front step toSubmit readBuffer => exact readBuffer
    rw [bytes_, lines_, framed.cut, submit_toSubmit stepped, buffer, List.append_assoc]
    cases state.toSubmit client <;> rfl
  · have other : ∀ memory, label ≠ .main (.submit memory) := fun memory same =>
      submits ⟨memory, same⟩
    cases change with
    | kept toSubmit readBuffer submitted apart =>
      rw [lineEvents_kept apart other, List.append_nil, framed.cut, toSubmit, readBuffer]
    | received called place connected workers toSubmit readBuffer =>
      rename_i chunk rest
      subst called
      have reading : state.isReading client = true := by
        simp [ServerState.isReading, place, connected]
      have seen : state.lineEvents client (.main (.read (.data chunk))) = [.received chunk] :=
        if_pos reading
      have idle : state.toSubmit client = [] := by rw [ServerState.toSubmit, place]; rfl
      have cut := framed.received (read_fits place connected stepped) idle
      rw [seen, toSubmit, readBuffer]
      simpa [receivedBytes, handedLines] using cut
    | submitted called front step toSubmit readBuffer => exact absurd called (other _)

end Steps

/-- In every run of the server, the lines that are handed to `submit_line` for a client, with those
that `process_buffered_lines` is about to hand on, and the bytes that are left in the buffer, are the
cut of the client's whole stream behind every newline and every full buffer: nothing is lost or
moved, the buffer has room for the next read, and a stream of lines that fit is cut into them. -/
theorem framing_independent_of_reads (auth : AuthDb) (deadly : Bool) (workerCount : Nat)
    (client : ClientId) (labels : List ServerLabel) (last : ServerState)
    (ran : (serverMachine auth deadly workerCount).run {} labels = some last) :
    let events := (serverMachine auth deadly workerCount).observed
      (ServerState.lineEvents client) {} labels
    let lines := handedLines events ++ last.toSubmit client
    (lines, last.readBuffer client) = referenceLines (receivedBytes events) ∧
      lines.flatten ++ last.readBuffer client = receivedBytes events ∧
      (last.readBuffer client).length < clientReadBuffer ∧
      ∀ whole : List Bytes, (∀ line ∈ whole, ∃ body, line = body ++ [10] ∧ 10 ∉ body ∧
          line.length ≤ clientReadBuffer) →
        receivedBytes events = whole.flatten → lines = whole ∧ last.readBuffer client = [] := by
  intro events lines
  have initially : Framed client {} [] := ⟨fun _ => rfl, rfl⟩
  have preserved : ∀ state label next seen, Framed client state seen →
      (serverMachine auth deadly workerCount).step state label = some next →
      Framed client next (seen ++ state.lineEvents client label) :=
    fun _ _ _ _ framed stepped => framed.step stepped
  have framed : Framed client last ([] ++ events) :=
    Machine.run_observed preserved initially ran
  rw [List.nil_append] at framed
  refine ⟨framed.cut.symm, ?_, framed.begun.short, ?_⟩
  · have conserved := @split_flatten UInt8 (fun byte => byte = 10) clientReadBuffer []
      (receivedBytes events)
    rwa [show split _ clientReadBuffer [] _ = _ from framed.cut] at conserved
  · intro whole fitting same
    have complete : ∀ line ∈ whole,
        Complete (fun byte : UInt8 => byte = 10) clientReadBuffer line := by
      intro line member
      obtain ⟨body, rfl, plain, short⟩ := fitting line member
      rw [List.length_append, List.length_singleton] at short
      refine ⟨body, 10, rfl, ⟨fun byte inside => ?_, by omega⟩, .inl rfl⟩
      exact decide_eq_false fun newline => plain (newline ▸ inside)
    have cut := split_frames complete (begun_nil (by decide))
    rw [List.append_nil, ← same] at cut
    exact Prod.mk.inj (framed.cut.symm.trans cut)

/-- A client that is accepted writes two lines and the front of a third; they are read in two
chunks. -/
def brokenLines : List ServerLabel :=
  [.main (.poll (some (1, 3, 4))), .main (.beginCleanup 0), .main (.visit true), .main .endCleanup,
    .main (.select [1]), .main .serve, .main (.read (.data (bytes "ab\nc"))),
    .main (.submit true), .main (.read (.data (bytes "d\ne"))), .main (.submit true)]

/-- The two lines are handed on, and the front of the third stays in the buffer. -/
theorem framing_independent_of_reads_broken : ∃ last,
    (serverMachine [] true 1).run {} brokenLines = some last ∧
      (handedLines ((serverMachine [] true 1).observed (ServerState.lineEvents 1) {} brokenLines) ++
          last.toSubmit 1, last.readBuffer 1) =
        referenceLines (bytes "ab\ncd\ne") := by
  refine ⟨_, rfl, ?_⟩
  have cut := (framing_independent_of_reads [] true 1 1 brokenLines _ rfl).1
  exact cut

end AnimateService
