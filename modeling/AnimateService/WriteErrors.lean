import AnimateService.OrderedStream

/-!
# Write errors

What the kernel's answers to the writes of a response decide: whether the client is given up, and
whether `SIGPIPE` ends the process. Nothing else gives a client up, and no error leaves anything
else behind.
-/
namespace AnimateService

/-- `write_all` gives up at this answer and returns -1. -/
def WriteResult.fails (deadly : Bool) : WriteResult → Bool
  | .wrote count => count = 0
  | .interrupted => false
  | .refused => true
  | .noReader => !deadly

/-- This answer is the signal that ends the process. -/
def WriteResult.kills (deadly : Bool) : WriteResult → Bool
  | .noReader => deadly
  | _ => false

variable {deadly : Bool}

/-- `write_all` fails at an answer that fails and is killed by one that kills; before it there is
none of either. -/
theorem writeAll_end {text written : Bytes} {results rest : List WriteResult} {ending : WriteEnd}
    (wrote : writeAll deadly text results = some (written, ending, rest)) :
    ∃ used, results = used ++ rest ∧
      ((∃ result ∈ used, result.fails deadly = true) ↔ ending = .failed) ∧
      ((∃ result ∈ used, result.kills deadly = true) ↔ ending = .killed) := by
  induction results generalizing text written with
  | nil =>
    cases text with
    | nil =>
      cases wrote
      exact ⟨[], rfl, by simp, by simp⟩
    | cons byte text => cases wrote
  | cons result results ih =>
    cases text with
    | nil =>
      cases wrote
      exact ⟨[], rfl, by simp, by simp⟩
    | cons byte text =>
      cases result with
      | wrote count =>
        simp only [writeAll] at wrote
        split at wrote
        · rename_i none
          subst none
          cases wrote
          exact ⟨[.wrote 0], rfl, by simp [WriteResult.fails], by simp [WriteResult.kills]⟩
        · rename_i some_
          split at wrote
          · cases wrote
          · obtain ⟨⟨more, ended, left⟩, later, same⟩ := Option.map_eq_some_iff.mp wrote
            cases same
            obtain ⟨used, rfl, fails, kills⟩ := ih later
            exact ⟨.wrote count :: used, rfl, by simpa [WriteResult.fails, some_] using fails,
              by simpa [WriteResult.kills] using kills⟩
      | interrupted =>
        obtain ⟨used, rfl, fails, kills⟩ := ih wrote
        exact ⟨.interrupted :: used, rfl, by simpa [WriteResult.fails] using fails,
          by simpa [WriteResult.kills] using kills⟩
      | refused =>
        cases wrote
        exact ⟨[.refused], rfl, by simp [WriteResult.fails], by simp [WriteResult.kills]⟩
      | noReader =>
        cases wrote
        cases deadly <;>
          exact ⟨[.noReader], rfl, by simp [WriteResult.fails], by simp [WriteResult.kills]⟩

/-- How the kernel's answers decide the end of a call. -/
structure Decided (deadly : Bool) (output : Output) (results : List WriteResult) (sent : Sent) :
    Prop where
  /-- The client is given up exactly at an answer that fails. -/
  fails : sent.output.disconnected = true ↔
    output.disconnected = true ∨ ∃ result ∈ results, result.fails deadly = true
  /-- The process ends exactly at an answer that kills. -/
  kills : sent.killed = true ↔ ∃ result ∈ results, result.kills deadly = true

/-- The loop of `send_ordered_response` is decided by the kernel's answers. -/
theorem drain_decided {fuel : Nat} {output : Output} {results : List WriteResult} {sent : Sent}
    (ran : drain deadly fuel output results = some sent) : Decided deadly output results sent := by
  induction fuel generalizing output results sent with
  | zero => cases ran
  | succ fuel ih =>
    unfold drain at ran
    split at ran
    · split at ran <;> cases ran
      rename_i none
      subst none
      exact ⟨by simp, by simp⟩
    · split at ran
      · cases ran
      · rename_i written rest wrote
        obtain ⟨used, rfl, fails, kills⟩ := writeAll_end wrote
        obtain ⟨later, continued, rfl⟩ := Option.map_eq_some_iff.mp ran
        obtain ⟨failed, killed⟩ := ih continued
        have going : (∃ result ∈ used, result.fails deadly = true) ↔ False := by simpa using fails
        have living : (∃ result ∈ used, result.kills deadly = true) ↔ False := by simpa using kills
        have kept : output.advance.disconnected = output.disconnected := rfl
        constructor
        · rw [failed, kept]
          simp only [List.mem_append, or_and_right, exists_or, going, false_or]
        · rw [killed]
          simp only [List.mem_append, or_and_right, exists_or, living, false_or]
      · rename_i written rest wrote
        obtain ⟨used, rfl, fails, kills⟩ := writeAll_end wrote
        split at ran <;> cases ran
        rename_i none
        subst none
        rw [List.append_nil] at *
        exact ⟨iff_of_true rfl (.inr (fails.mpr rfl)), by simpa using kills⟩
      · rename_i written rest wrote
        obtain ⟨used, rfl, fails, kills⟩ := writeAll_end wrote
        split at ran <;> cases ran
        rename_i none
        subst none
        rw [List.append_nil] at *
        have going : (∃ result ∈ used, result.fails deadly = true) ↔ False := by simpa using fails
        exact ⟨by rw [going, or_false], iff_of_true rfl (kills.mpr rfl)⟩

/-- A call of `send_ordered_response` is decided by the kernel's answers. -/
theorem sendOrderedResponse_decided {output : Output} {seqNum : Nat} {text : Bytes}
    {results : List WriteResult} {sent : Sent}
    (called : sendOrderedResponse deadly output seqNum text results = some sent) :
    Decided deadly output results sent := by
  unfold sendOrderedResponse at called
  split at called
  · split at called <;> cases called
    rename_i none
    subst none
    exact ⟨by simp, by simp⟩
  · obtain ⟨fails, kills⟩ := drain_decided called
    exact ⟨fails, kills⟩

end AnimateService
