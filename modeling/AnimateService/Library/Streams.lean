import Mathlib.Logic.Function.Basic
import Mathlib.Data.List.Infix

/-!
# Buffered output streams

Streams write to named files at positions of their own, and what a stream has taken may stay in its
buffer until it is closed. How much leaves the buffer is up to the environment, except that a close
that succeeds sends the rest, unless an earlier write failed: nothing is promised after that. While
no other stream is open on a file, the file and the buffer together hold what the stream has taken.
-/
namespace OutputStreams

/-- Data placed at a position of a file; a gap between the file's end and the position is filled. -/
def overwrite {Element : Type} (gap : Element) (content : List Element) (position : Nat)
    (data : List Element) : List Element :=
  if data.isEmpty then content
  else content.take position ++ List.replicate (position - content.length) gap ++ data ++
    content.drop (position + data.length)

/-- At the end of a file data is appended. -/
theorem overwrite_end {Element : Type} (gap : Element) (content data : List Element) :
    overwrite gap content content.length data = content ++ data := by
  cases data with
  | nil => simp [overwrite]
  | cons first data => simp [overwrite]

/-- A stream that is open for writing. -/
structure Stream (Name Element : Type) where
  /-- The file it writes to. -/
  name : Name
  /-- Where in the file the buffer goes. -/
  position : Nat := 0
  /-- The buffer: what was taken and has not reached the file. -/
  pending : List Element := []
  /-- A write has failed. -/
  failed : Bool := false

/-- The contents of the files and the open streams. -/
structure Disk (Key Name Element : Type) where
  /-- The content of each file. -/
  files : Name → List Element := fun _ => []
  /-- The stream of each key. -/
  streams : Key → Option (Stream Name Element) := fun _ => none

/-- An operation on the stream of a key, with what the environment decides about it. -/
inductive Operation (Name Element : Type) where
  /-- A file is emptied or made, and a stream opened on it. -/
  | opened (name : Name)
  /-- The stream takes so much of the data, and so much of its buffer is sent. -/
  | wrote (data : List Element) (taken sent : Nat)
  /-- The stream is closed; so much of its buffer is sent if that fails. -/
  | closed (succeeded : Bool) (sent : Nat)

variable {Key Name Element : Type}

/-- The stream takes the front of the data; it fails unless it takes everything. -/
def Stream.take (stream : Stream Name Element) (data : List Element) (taken : Nat) :
    Stream Name Element :=
  { stream with
    pending := stream.pending ++ data.take taken
    failed := stream.failed || decide (taken < data.length) }

/-- No other key has a stream on the file. -/
def Disk.Alone (disk : Disk Key Name Element) (key : Key) (name : Name) : Prop :=
  ∀ other stream, other ≠ key → disk.streams other = some stream → stream.name ≠ name

/-- A stream on a file has taken `written`, of which the file holds a front and the buffer the
rest. -/
def Disk.Carries (disk : Disk Key Name Element) (key : Key) (name : Name)
    (written : List Element) (failed : Bool) : Prop :=
  ∃ stream, disk.streams key = some stream ∧ stream.name = name ∧ stream.failed = failed ∧
    stream.position = (disk.files name).length ∧ disk.files name ++ stream.pending = written

/-- A file and the stream on it are what they were, and no other stream is open on the file. -/
structure Disk.Spared (before after : Disk Key Name Element) (key : Key) (name : Name) : Prop where
  /-- The file is the same. -/
  files : after.files name = before.files name
  /-- The stream is the same. -/
  streams : after.streams key = before.streams key
  /-- It is the only one on the file. -/
  alone : after.Alone key name

/-- What a stream has taken is the same where its file is. -/
theorem Disk.Carries.spared {disk after : Disk Key Name Element} {key : Key} {name : Name}
    {written : List Element} {failed : Bool} (carries : disk.Carries key name written failed)
    (spared : disk.Spared after key name) : after.Carries key name written failed := by
  obtain ⟨stream, opened, named, fails, place, held⟩ := carries
  exact ⟨stream, spared.streams.trans opened, named, fails, by rw [spared.files, place],
    by rw [spared.files, held]⟩

/-- The file that a key's stream is open on after operations, from the one it is open on before; none
where no stream is open. There is no answer if an operation writes to or closes no stream, or opens
a second one. -/
def lifetime : Option Name → List (Operation Name Element) → Option (Option Name)
  | before, [] => some before
  | none, .opened name :: rest => lifetime (some name) rest
  | some name, .wrote _ _ _ :: rest => lifetime (some name) rest
  | some _, .closed _ _ :: rest => lifetime none rest
  | _, _ :: _ => none

/-- Lifetimes go on where they were. -/
theorem lifetime_append (before : Option Name) (first second : List (Operation Name Element)) :
    lifetime before (first ++ second) = (lifetime before first).bind (lifetime · second) := by
  induction first generalizing before with
  | nil => cases before <;> rfl
  | cons operation first ih =>
    cases before <;> cases operation <;> first | exact ih _ | rfl

variable [DecidableEq Key] [DecidableEq Name]

/-- So much of a stream's buffer is sent to its file. -/
def Disk.send (gap : Element) (disk : Disk Key Name Element) (key : Key)
    (stream : Stream Name Element) (sent : Nat) : Disk Key Name Element where
  files := Function.update disk.files stream.name
    (overwrite gap (disk.files stream.name) stream.position (stream.pending.take sent))
  streams := Function.update disk.streams key (some
    { stream with
      position := stream.position + (stream.pending.take sent).length
      pending := stream.pending.drop sent })

/-- An operation on the stream of a key. -/
def Disk.perform (gap : Element) (disk : Disk Key Name Element) (key : Key) :
    Operation Name Element → Disk Key Name Element
  | .opened name =>
    { files := Function.update disk.files name []
      streams := Function.update disk.streams key (some { name }) }
  | .wrote data taken sent =>
    match disk.streams key with
    | some stream => disk.send gap key (stream.take data taken) sent
    | none => disk
  | .closed succeeded sent =>
    match disk.streams key with
    | some stream =>
      let sent := if succeeded && !stream.failed then stream.pending.length else sent
      let disk := disk.send gap key stream sent
      { disk with streams := Function.update disk.streams key none }
    | none => disk

/-- Operations on the stream of a key, in their order. -/
def Disk.performAll (gap : Element) (disk : Disk Key Name Element) (key : Key)
    (operations : List (Operation Name Element)) : Disk Key Name Element :=
  operations.foldl (fun disk operation => disk.perform gap key operation) disk

section Own

variable (gap : Element) {disk : Disk Key Name Element} {key : Key} {name : Name}
  {written : List Element} {failed : Bool}

/-- A stream that was just opened has taken nothing. -/
theorem carries_opened (disk : Disk Key Name Element) (key : Key) (name : Name) :
    (disk.perform gap key (.opened name)).Carries key name [] false :=
  ⟨{ name }, by simp [Disk.perform], rfl, rfl, by simp [Disk.perform], by simp [Disk.perform]⟩

/-- Sending from the buffer changes nothing about what was taken. -/
theorem carries_send (stream : Stream Name Element)
    (place : stream.position = (disk.files stream.name).length) (sent : Nat) :
    (disk.send gap key stream sent).Carries key stream.name
      (disk.files stream.name ++ stream.pending) stream.failed := by
  have file : (disk.send gap key stream sent).files stream.name =
      disk.files stream.name ++ stream.pending.take sent := by
    simp only [Disk.send, Function.update_self, place, overwrite_end]
  refine ⟨_, Function.update_self _ _ _, rfl, rfl, ?_, ?_⟩
  · rw [file, List.length_append, place]
  · rw [file, List.append_assoc, List.take_append_drop]

/-- A write appends what it takes to what was taken. -/
theorem Disk.Carries.wrote (carries : disk.Carries key name written failed)
    (data : List Element) (taken sent : Nat) :
    (disk.perform gap key (.wrote data taken sent)).Carries key name
      (written ++ data.take taken) (failed || decide (taken < data.length)) := by
  obtain ⟨stream, opened, rfl, rfl, place, rfl⟩ := carries
  have sends : (disk.send gap key (stream.take data taken) sent).Carries key stream.name
      (disk.files stream.name ++ (stream.pending ++ data.take taken))
      (stream.failed || decide (taken < data.length)) :=
    carries_send gap (stream.take data taken) place sent
  simp only [Disk.perform, opened, List.append_assoc]
  exact sends

/-- A closed stream leaves a front of what it has taken in the file, and all of it when the close
succeeds without an earlier failure or when everything is sent. -/
theorem Disk.Carries.closed (carries : disk.Carries key name written failed) (succeeded : Bool)
    (sent : Nat) :
    (disk.perform gap key (.closed succeeded sent)).streams key = none ∧
      (disk.perform gap key (.closed succeeded sent)).files name <+: written ∧
      (succeeded = true ∧ failed = false ∨ written.length ≤ sent →
        (disk.perform gap key (.closed succeeded sent)).files name = written) := by
  obtain ⟨stream, opened, rfl, rfl, place, rfl⟩ := carries
  simp only [Disk.perform, opened, Disk.send, Function.update_self, place, overwrite_end]
  refine ⟨trivial, ?_, fun whole => ?_⟩
  · exact List.prefix_append_right_inj _ |>.mpr (List.take_prefix _ _)
  · rw [List.take_of_length_le]
    split
    · exact Nat.le_refl _
    · rename_i partly
      rcases whole with ⟨rfl, unfailed⟩ | all
      · simp [unfailed] at partly
      · rw [List.length_append] at all
        exact Nat.le_trans (Nat.le_add_left _ _) all

/-- What a key does with its stream leaves it alone on the file. -/
theorem Disk.Alone.perform (alone : disk.Alone key name) (operation : Operation Name Element) :
    (disk.perform gap key operation).Alone key name := by
  intro other stream apart
  cases operation with
  | opened file =>
    simp only [Disk.perform, Function.update_of_ne apart]
    exact alone other stream apart
  | wrote data taken sent =>
    simp only [Disk.perform]
    split
    · simp only [Disk.send, Function.update_of_ne apart]
      exact alone other stream apart
    · exact alone other stream apart
  | closed succeeded sent =>
    simp only [Disk.perform]
    split
    · simp only [Disk.send, Function.update_of_ne apart]
      exact alone other stream apart
    · exact alone other stream apart

end Own

section Others

variable (gap : Element) {disk : Disk Key Name Element} {key other : Key} {name : Name}

/-- A stream on another file leaves the file as it is. -/
theorem spared_send {stream : Stream Name Element} (alone : disk.Alone key name)
    (apart : other ≠ key) (elsewhere : stream.name ≠ name) (sent : Nat) :
    disk.Spared (disk.send gap other stream sent) key name where
  files := Function.update_of_ne (Ne.symm elsewhere) _ _
  streams := Function.update_of_ne (Ne.symm apart) _ _
  alone := by
    intro third open_ away
    by_cases same : third = other
    · subst same
      simp only [Disk.send, Function.update_self, Option.some.injEq]
      rintro rfl
      exact elsewhere
    · simp only [Disk.send, Function.update_of_ne same]
      exact alone third open_ away

/-- Another key's operation that does not open the file leaves it as it is. -/
theorem Disk.Alone.spared (alone : disk.Alone key name) (apart : other ≠ key)
    {operation : Operation Name Element} (elsewhere : operation ≠ .opened name) :
    disk.Spared (disk.perform gap other operation) key name := by
  cases operation with
  | opened file =>
    have away : name ≠ file := by
      rintro rfl
      exact elsewhere rfl
    refine ⟨Function.update_of_ne away _ _, Function.update_of_ne (Ne.symm apart) _ _, ?_⟩
    intro third open_ distinct
    by_cases same : third = other
    · subst same
      simp only [Disk.perform, Function.update_self, Option.some.injEq]
      rintro rfl
      exact Ne.symm away
    · simp only [Disk.perform, Function.update_of_ne same]
      exact alone third open_ distinct
  | wrote data taken sent =>
    simp only [Disk.perform]
    split
    · rename_i stream opened
      have away : (stream.take data taken).name ≠ name := alone other stream apart opened
      exact spared_send gap alone apart away sent
    · exact ⟨rfl, rfl, alone⟩
  | closed succeeded sent =>
    simp only [Disk.perform]
    split
    · rename_i stream opened
      have away : stream.name ≠ name := alone other stream apart opened
      have sent : disk.Spared (disk.send gap other stream
          (if succeeded && !stream.failed then stream.pending.length else sent)) key name :=
        spared_send gap alone apart away _
      refine ⟨sent.files, ?_, ?_⟩
      · exact (Function.update_of_ne (Ne.symm apart) _ _).trans sent.streams
      · intro third open_ distinct
        by_cases same : third = other
        · subst same
          simp only [Function.update_self, reduceCtorEq, false_implies]
        · simp only [Function.update_of_ne same]
          exact sent.alone third open_ distinct
    · exact ⟨rfl, rfl, alone⟩

/-- All the operations of another key that do not open the file spare it. -/
theorem Disk.Alone.spared_all {operations : List (Operation Name Element)}
    (alone : disk.Alone key name) (apart : other ≠ key)
    (elsewhere : ∀ operation ∈ operations, operation ≠ .opened name) :
    disk.Spared (disk.performAll gap other operations) key name := by
  induction operations generalizing disk with
  | nil => exact ⟨rfl, rfl, alone⟩
  | cons operation operations ih =>
    have first : disk.Spared (disk.perform gap other operation) key name :=
      alone.spared gap apart (elsewhere operation List.mem_cons_self)
    have rest := ih first.alone fun later member =>
      elsewhere later (List.mem_cons_of_mem operation member)
    exact ⟨rest.files.trans first.files, rest.streams.trans first.streams, rest.alone⟩

end Others

section Lifetime

variable (gap : Element) {disk : Disk Key Name Element} {key other : Key}

/-- The stream of a key is open on the file that its operations lead to. -/
theorem Disk.performAll_lifetime {operations : List (Operation Name Element)} {after : Option Name}
    (leads : lifetime ((disk.streams key).map Stream.name) operations = some after) :
    ((disk.performAll gap key operations).streams key).map Stream.name = after := by
  induction operations generalizing disk with
  | nil =>
    have same : some ((disk.streams key).map Stream.name) = some after := by
      rw [← leads]
      cases (disk.streams key).map Stream.name <;> rfl
    exact Option.some.inj same
  | cons operation operations ih =>
    refine @ih (disk.perform gap key operation) ?_
    cases found : disk.streams key with
    | none =>
      rw [found, Option.map_none] at leads
      cases operation with
      | opened name =>
        have opened : ((disk.perform gap key (.opened name)).streams key).map Stream.name =
            some name := by
          simp [Disk.perform]
        rw [opened]
        exact leads
      | wrote data taken sent => cases leads
      | closed succeeded sent => cases leads
    | some stream =>
      rw [found, Option.map_some] at leads
      cases operation with
      | opened name => cases leads
      | wrote data taken sent =>
        have kept : ((disk.perform gap key (.wrote data taken sent)).streams key).map Stream.name =
            some stream.name := by
          simp [Disk.perform, found, Disk.send, Stream.take]
        rw [kept]
        exact leads
      | closed succeeded sent =>
        have gone : ((disk.perform gap key (.closed succeeded sent)).streams key).map Stream.name =
            none := by
          simp [Disk.perform, found]
        rw [gone]
        exact leads

/-- Operations of another key leave it alone. -/
theorem Disk.performAll_streams_ne (apart : key ≠ other)
    (operations : List (Operation Name Element)) :
    (disk.performAll gap other operations).streams key = disk.streams key := by
  induction operations generalizing disk with
  | nil => rfl
  | cons operation operations ih =>
    refine (@ih (disk.perform gap other operation)).trans ?_
    cases operation with
    | opened name => exact Function.update_of_ne apart ..
    | wrote data taken sent =>
      simp only [Disk.perform]
      split
      · exact Function.update_of_ne apart ..
      · rfl
    | closed succeeded sent =>
      simp only [Disk.perform]
      split
      · simp only [Disk.send, Function.update_of_ne apart]
      · rfl

/-- A file that is neither opened nor open stays as it is. -/
theorem Disk.performAll_files {operations : List (Operation Name Element)} {name : Name}
    (apart : (disk.streams key).map Stream.name ≠ some name)
    (unopened : ∀ operation ∈ operations, operation ≠ .opened name) :
    (disk.performAll gap key operations).files name = disk.files name := by
  induction operations generalizing disk with
  | nil => rfl
  | cons operation operations ih =>
    have rest := fun later member => unopened later (List.mem_cons_of_mem operation member)
    have first : ((disk.perform gap key operation).streams key).map Stream.name ≠ some name ∧
        (disk.perform gap key operation).files name = disk.files name := by
      cases operation with
      | opened file =>
        have away : file ≠ name := by
          rintro rfl
          exact unopened _ List.mem_cons_self rfl
        exact ⟨by simpa [Disk.perform] using away, Function.update_of_ne (Ne.symm away) ..⟩
      | wrote data taken sent =>
        cases found : disk.streams key with
        | none => simp [Disk.perform, found]
        | some stream =>
          have away : stream.name ≠ name := by simpa [found] using apart
          simp [Disk.perform, found, Disk.send, Stream.take, away, Ne.symm away]
      | closed succeeded sent =>
        cases found : disk.streams key with
        | none => simp [Disk.perform, found]
        | some stream =>
          have away : stream.name ≠ name := by simpa [found] using apart
          simp [Disk.perform, found, Disk.send, Ne.symm away]
    exact (ih first.1 rest).trans first.2

end Lifetime

end OutputStreams
