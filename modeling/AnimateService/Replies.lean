import AnimateService.LoginState
import AnimateService.ServerSteps

/-!
# The shape of responses

Every response of `rpc_handle_request` is one line that fits the client's response buffer: a text
without a newline and without a NUL, and a newline behind it. So is the response that a worker sends
where the handler has none.
-/
namespace AnimateService

open Transition

/-- The text has neither a newline nor a NUL. -/
def IsText (text : Bytes) : Prop := ∀ byte ∈ text, byte ≠ 10 ∧ byte ≠ 0

instance (text : Bytes) : Decidable (IsText text) := List.decidableBAll _ text

/-- One line, with its newline, that fits the client's `response_buffer`. -/
def IsReply (text : Bytes) : Prop :=
  ∃ body, text = body ++ [10] ∧ IsText body ∧ text.length < maxResponseLen

/-- A thread that has finished has a reply, or none. -/
def Pc.Replies : Pc → Prop
  | .finished response => ∀ text ∈ response, IsReply text
  | _ => True

/-! ## The response texts -/

/-- Texts one after the other are a text. -/
theorem IsText.append {front back : Bytes} (left : IsText front) (right : IsText back) :
    IsText (front ++ back) := by
  intro byte inside
  rcases List.mem_append.mp inside with before | behind
  · exact left byte before
  · exact right byte behind

/-- What `%d` prints is a text. -/
theorem isText_decimalInt (value : Int) : IsText (decimalInt value) := by
  intro byte inside
  obtain ⟨plain, noNul⟩ := decimalInt_plain value byte inside
  refine ⟨?_, noNul⟩
  rintro rfl
  cases plain

/-- A `uint64_t` is printed in at most 20 bytes. -/
theorem decimalNat_length (value : UInt64) : (decimalNat value.toNat).length ≤ 20 := by
  have small : value.toNat < 2 ^ 64 := value.toNat_lt
  simp only [decimalNat, List.length_map]
  exact (Nat.length_toDigits_le_iff (by decide) (by decide)).mpr (by omega)

/-- A short text with a newline behind it is a reply. -/
theorem IsText.reply {body : Bytes} (text : IsText body) (short : body.length ≤ 100) :
    IsReply (body ++ [10]) := by
  refine ⟨body, rfl, text, ?_⟩
  rw [List.length_append]
  simp only [List.length_singleton, maxResponseLen]
  omega

/-- `response_code` and `response_i32` make replies. -/
theorem isReply_responseCode {code : Int} (above : -(2 ^ 63) ≤ code) (below : code < 2 ^ 63) :
    IsReply (responseCode code) := by
  have short := decimalInt_length above below
  exact (isText_decimalInt code).reply (by omega)

/-- `response_u64` makes a reply. -/
theorem isReply_responseU64 (value : UInt64) : IsReply (responseU64 value) := by
  have zero : IsText (bytes "0 ") := by decide
  have two : (bytes "0 ").length = 2 := by decide
  have short := decimalNat_length value
  refine (zero.append (isText_decimalInt (.ofNat value.toNat))).reply ?_
  rw [List.length_append, two]
  exact (Nat.add_le_add_left short 2).trans (by decide)

/-- `response_generate` makes a reply. -/
theorem isReply_responseGenerate {dat movie : Int} (first : dat = 0 ∨ dat = -1)
    (second : movie = 0 ∨ movie = -1) : IsReply (responseGenerate dat movie) := by
  have texts : ∀ dat ∈ [(0 : Int), -1], ∀ movie ∈ [(0 : Int), -1],
      IsText (bytes "0 " ++ decimalInt dat ++ [32] ++ decimalInt movie) ∧
        (bytes "0 " ++ decimalInt dat ++ [32] ++ decimalInt movie).length ≤ 100 := by decide
  obtain ⟨text, short⟩ := texts dat (by simpa using first) movie (by simpa using second)
  exact text.reply short

/-- The codes of errors and successes make replies. -/
theorem isReply_code {code : Int} (known : code ∈ [0, rpcFail, rpcValue, rpcInternal]) :
    IsReply (responseCode code) := by
  have codes : ∀ code ∈ [0, rpcFail, rpcValue, rpcInternal], -(2 ^ 63) ≤ code ∧ code < 2 ^ 63 := by
    decide
  obtain ⟨above, below⟩ := codes code known
  exact isReply_responseCode above below

/-- What a worker sends instead of a missing response is a reply. -/
theorem isReply_workerResponse {response : Option Bytes} {copied : Bool} {text : Bytes}
    (replies : ∀ text ∈ response, IsReply text) (sent : workerResponse response copied = some text) :
    IsReply text := by
  cases response with
  | some own =>
    cases sent
    exact replies text rfl
  | none =>
    cases copied with
    | true =>
      cases sent
      exact isReply_code (by decide : rpcFail ∈ _)
    | false => cases sent

/-! ## The steps of a handler -/

variable {auth : AuthDb} {answers : Answers} {session : Session} {world : World}
  {allowed : Bytes → Prop}

/-- A thread that has finished has an allowed response, or none. -/
def Pc.RepliesIn (allowed : Bytes → Prop) : Pc → Prop
  | .finished response => ∀ text ∈ response, allowed text
  | _ => True

/-- All responses but those to a Login are allowed. -/
structure AllowsReplies (allowed : Bytes → Prop) : Prop where
  /-- The codes of `response_code`. -/
  codes : ∀ code ∈ [0, rpcFail, rpcValue, rpcInternal], allowed (responseCode code)
  /-- The values of `response_u64`. -/
  values : ∀ value, allowed (responseU64 value)
  /-- What `response_generate` is called with. -/
  generated : ∀ dat movie : Int, dat = 0 ∨ dat = -1 → movie = 0 ∨ movie = -1 →
    allowed (responseGenerate dat movie)

/-- A response is allowed as its text is, if it can be allocated. -/
theorem Answers.repliesIn {text : Bytes} (reply : allowed text) :
    (answers.reply text).RepliesIn allowed := by
  unfold Answers.reply
  split
  · rintro other ⟨⟩
    exact reply
  · rintro other ⟨⟩

/-- The codes. -/
theorem AllowsReplies.code (allows : AllowsReplies allowed) {code : Int}
    (known : code ∈ [0, rpcFail, rpcValue, rpcInternal]) :
    (answers.reply (responseCode code)).RepliesIn allowed :=
  Answers.repliesIn (allows.codes code known)

/-- A command that is not parsed is refused with a code. -/
theorem parsed_error {parsed : Option Command} {code : Int}
    (refused : (match parsed with
      | some command => Except.ok command
      | none => .error rpcValue) = Except.error code) :
    code ∈ [0, rpcFail, rpcValue, rpcInternal] := by
  cases parsed with
  | none =>
    cases refused
    decide
  | some command => cases refused

/-- The command chain refuses with two codes. -/
theorem parseCommand_error {command : Bytes} {arguments : List Bytes} {code : Int}
    (refused : parseCommand auth command arguments = .error code) :
    code ∈ [0, rpcFail, rpcValue, rpcInternal] := by
  have fail : (Except.error rpcFail : Except Int Command) = .error code →
      code ∈ [0, rpcFail, rpcValue, rpcInternal] := by
    rintro ⟨⟩
    decide
  have branch : ∀ {condition : Prop} [Decidable condition] {here rest : Except Int Command},
      (here = .error code → code ∈ [0, rpcFail, rpcValue, rpcInternal]) →
      (rest = .error code → code ∈ [0, rpcFail, rpcValue, rpcInternal]) →
      (if condition then here else rest) = .error code →
        code ∈ [0, rpcFail, rpcValue, rpcInternal] := by
    intro condition _ here rest left right chosen
    split at chosen
    · exact left chosen
    · exact right chosen
  unfold parseCommand at refused
  refine branch parsed_error (branch (fun here => ?sprite) (branch parsed_error (branch parsed_error
    (branch parsed_error (branch parsed_error (branch parsed_error (branch parsed_error
    (branch parsed_error (branch parsed_error (branch parsed_error (branch parsed_error
    (branch parsed_error (branch parsed_error (branch parsed_error
    (branch (fun here => ?generate) fail))))))))))))))) refused
  case sprite =>
    split at here
    · cases here
    · exact fail here
  case generate =>
    split at here
    · exact parsed_error here
    · exact fail here

/-- The lines for the client are allowed. -/
theorem allowsReplies_isReply : AllowsReplies IsReply :=
  ⟨fun _ known => isReply_code known, isReply_responseU64,
    fun _ _ dat movie => isReply_responseGenerate dat movie⟩

/-- The replies of Login. -/
theorem login_replies (fits : BalancesFit auth) (arguments : List Bytes) :
    (login auth answers session arguments).2.RepliesIn IsReply := by
  unfold login
  split
  · split
    · split
      · have text : IsText (bytes "Reject UNAUTHORISED") := by decide
        exact Answers.repliesIn (text.reply (by decide))
      · rename_i balance found
        split
        · have text : IsText (bytes "Reject BALANCE") := by decide
          exact Answers.repliesIn (text.reply (by decide))
        · obtain ⟨user, known, -, rfl⟩ := authLookup_some found
          obtain ⟨above, below⟩ := fits user known
          exact Answers.repliesIn (isReply_responseCode (by omega) (by omega))
    · exact allowsReplies_isReply.code (by decide)
  · exact allowsReplies_isReply.code (by decide)

/-- The replies before the first section of a command. -/
theorem AllowsReplies.startRequest_replies (allows : AllowsReplies allowed) {line : Bytes}
    (logins : ∀ arguments, requestTokens line = bytes "Login" :: arguments →
      (login auth answers session arguments).2.RepliesIn allowed) :
    (startRequest auth answers session world line).2.2.RepliesIn allowed := by
  have begun : ∀ command, (beginCommand answers world command).2.RepliesIn allowed := by
    intro command
    cases command with
    | store command => trivial
    | _ =>
      simp only [beginCommand]
      split
      · trivial
      · exact allows.code (by decide)
  unfold startRequest
  split
  · dsimp only
    split
    · exact allows.code (by decide)
    · split
      · exact allows.code (by decide)
      · rename_i command arguments tokens
        split
        · rename_i named
          exact logins arguments (named ▸ tokens)
        · split
          · trivial
          · split
            · rename_i refusal refused
              obtain ⟨-, same⟩ := Option.ite_none_right_eq_some.mp refused
              rw [← Option.some.inj same]
              rintro text ⟨⟩
              exact allows.codes rpcValue (by decide)
            · split
              · exact begun _
              · rename_i code refused
                exact allows.code (parseCommand_error refused)
  · exact allows.code (by decide)

/-- The replies of a canvas operation behind its wait. -/
theorem AllowsReplies.resumeAfterWait_replies (allows : AllowsReplies allowed) (resume : Resume) :
    (resumeAfterWait answers world resume).2.RepliesIn allowed := by
  cases resume with
  | place canvas sprite canvasId spriteId x y =>
    simp only [resumeAfterWait]
    split
    · trivial
    · exact allows.code (by decide)
  | move move placement => exact allows.code (by decide)
  | setParams placement vx vy ax ay => exact allows.code (by decide)
  | generate canvas job =>
    simp only [resumeAfterWait]
    split
    · split
      · trivial
      · exact Answers.repliesIn (allows.generated _ _ (.inr rfl) (.inl rfl))
    · exact allows.code (by decide)

/-- The replies of a command behind a wait, with the wait. -/
theorem AllowsReplies.waitThenResume_replies (allows : AllowsReplies allowed) (record : CanvasPtr)
    (username : Bytes) (resume : Resume) :
    (waitThenResume answers world record username resume).2.RepliesIn allowed := by
  unfold waitThenResume
  split
  · trivial
  · exact allows.resumeAfterWait_replies resume

/-- The replies of a placement operation. -/
theorem AllowsReplies.throughPlacement_replies (allows : AllowsReplies allowed) (username : Bytes)
    (placement : Nat) (resume : Resume) :
    (throughPlacement answers world username placement resume).2.RepliesIn allowed := by
  unfold throughPlacement
  split
  · exact allows.waitThenResume_replies _ _ _
  · exact allows.resumeAfterWait_replies _

/-- The replies of a command's first section. -/
theorem AllowsReplies.lockedSection_replies (allows : AllowsReplies allowed)
    (command : StoreCommand) :
    (lockedSection answers session world command).2.RepliesIn allowed := by
  -- a code that is 0 or an error
  have decided : ∀ (condition : Prop) [Decidable condition] (error : Int),
      error ∈ [rpcValue, rpcInternal] →
      (answers.reply (responseCode (if condition then 0 else error))).RepliesIn allowed := by
    intro condition _ error known
    refine allows.code ?_
    split
    · decide
    · exact List.mem_cons_of_mem _ (List.mem_cons_of_mem _ known)
  cases command with
  | destroyCanvas id => exact decided _ _ (by decide)
  | destroySprite id =>
    simp only [lockedSection]
    split
    · exact allows.code (by decide)
    · exact Answers.repliesIn (allows.values _)
  | placeSprite canvasId spriteId x y =>
    simp only [lockedSection]
    split
    · exact allows.waitThenResume_replies _ _ _
    · exact allows.code (by decide)
  | movePlacement move id =>
    simp only [lockedSection]
    split
    · exact allows.throughPlacement_replies _ _ _
    · exact allows.code (by decide)
  | destroyPlacement id => exact decided _ _ (by decide)
  | setAnimationParams id vx vy ax ay =>
    simp only [lockedSection]
    split
    · exact allows.throughPlacement_replies _ _ _
    · exact allows.code (by decide)
  | shareCanvas canvasId target =>
    simp only [lockedSection]
    split
    · exact decided _ _ (by decide)
    · exact allows.code (by decide)
  | barrier canvasId =>
    simp only [lockedSection]
    split
    · trivial
    · exact allows.code (by decide)
    · exact allows.code (by decide)
    · exact allows.code (by decide)
  | generate job =>
    simp only [lockedSection]
    split
    · exact allows.waitThenResume_replies _ _ _
    · exact allows.code (by decide)

/-- The replies of a frame of `handle_generate`. -/
theorem AllowsReplies.generateFrame_replies (allows : AllowsReplies allowed) (job : GenerateJob)
    (frame : UInt64) :
    (generateFrame answers session world job frame).2.RepliesIn allowed := by
  unfold generateFrame
  split
  · dsimp only
    split
    · split
      · trivial
      · unfold finishGenerate
        dsimp only
        split
        · refine Answers.repliesIn (allows.generated _ _ (.inl rfl) ?_)
          split
          · exact .inl rfl
          · exact .inr rfl
        · exact Answers.repliesIn (allows.generated _ _ (.inr rfl) (.inl rfl))
    · exact Answers.repliesIn (allows.generated _ _ (.inr rfl) (.inl rfl))
  · exact allows.code (by decide)

/-- The replies that answer with a handle. -/
theorem AllowsReplies.answerHandle_replies (allows : AllowsReplies allowed) (id : UInt64)
    (undo : Call) :
    (answerHandle answers world id undo).2.RepliesIn allowed := by
  unfold answerHandle
  split
  · exact allows.code (by decide)
  · exact Answers.repliesIn (allows.values id)

/-- Whatever a handler finishes with behind its start is allowed. -/
theorem AllowsReplies.advance_replies (allows : AllowsReplies allowed) {pc : Pc}
    (logins : ∀ line, pc = .start line →
      ∀ arguments, requestTokens line = bytes "Login" :: arguments →
      (login auth answers session arguments).2.RepliesIn allowed) (replies : pc.RepliesIn allowed) :
    (advance auth answers session world pc).2.2.RepliesIn allowed := by
  cases pc with
  | start line => exact allows.startRequest_replies (logins line rfl)
  | addCanvas canvas width height => exact allows.answerHandle_replies _ _
  | addSprite sprite => exact allows.answerHandle_replies _ _
  | locking command => exact allows.lockedSection_replies command
  | barrierWait record user =>
    simp only [advance]
    split
    · trivial
    · exact allows.code (by decide)
  | canvasWait record user resume =>
    simp only [advance]
    split
    · trivial
    · exact allows.resumeAfterWait_replies resume
  | addPlacement placement canvasId spriteId => exact allows.answerHandle_replies _ _
  | frame job frame => exact allows.generateFrame_replies job frame
  | disconnect =>
    simp only [advance]
    split
    · trivial
    · exact allows.code (by decide)
  | endSession => exact allows.code (by decide)
  | finished response => exact replies

/-- A thread has a reply if its response is a line for the client. -/
theorem Pc.replies_iff {pc : Pc} : pc.Replies ↔ pc.RepliesIn IsReply := by
  cases pc <;> exact Iff.rfl

/-- Whatever a handler finishes with is a reply. -/
theorem advance_replies (fits : BalancesFit auth) {pc : Pc} (replies : pc.Replies) :
    (advance auth answers session world pc).2.2.Replies :=
  Pc.replies_iff.mpr (allowsReplies_isReply.advance_replies
    (fun _ _ arguments _ => login_replies fits arguments) (Pc.replies_iff.mp replies))

/-! ## The workers -/

/-- Every thread that has finished has a reply, or none. -/
def WorkersState.Replies (state : WorkersState) : Prop :=
  ∀ thread client pc, state.rpc.threads thread = some ⟨client, pc⟩ → pc.Replies

/-- After every step of the server, a thread that has finished has a reply, or none. -/
theorem WorkersStep.replies {deadly : Bool} {workerCount : Nat} {state next : WorkersState}
    {label : WorkersLabel} (fits : BalancesFit auth) (replies : state.Replies)
    (step : WorkersStep auth deadly workerCount state label next) : next.Replies := by
  intro thread client pc working
  by_cases inside : ∃ busy answers, label = .advance busy answers
  · obtain ⟨busy, answers, rfl⟩ := inside
    cases step with
    | advance stepped =>
      obtain ⟨served, place, there, -, rfl⟩ := rpcMachine_step stepped
      by_cases here : thread = busy
      · subst here
        simp only [RpcState.advanceThread, Function.update_self, Option.some.injEq,
          Thread.mk.injEq] at working
        obtain ⟨rfl, rfl⟩ := working
        exact advance_replies fits (replies thread served place there)
      · simp only [RpcState.advanceThread, Function.update_of_ne here] at working
        exact replies thread client pc working
  · have outside : ∀ busy answers, label ≠ .advance busy answers :=
      fun busy answers same => inside ⟨busy, answers, same⟩
    rcases (step.rpc_kept outside).2.2 thread client pc working with old | ⟨⟨line, rfl⟩, -⟩ | rfl
    · exact replies thread client pc old
    · trivial
    · trivial

end AnimateService
