import AnimateService.Replies

/-!
# What the client shows

`display_rpc_response`, which prints a reply for the user, and the responses of the server that it
is for. Whatever other clients do, the client shows for each of its commands the one message that
names its outcome, and the messages of different outcomes are different.
-/
namespace AnimateService

/-- `puts`, and `printf` of a text and a newline. -/
def puts (text : Bytes) : Bytes := text ++ [10]

/-- `trim_whitespace`: the text between its white space. -/
def trimWhitespace (text : Bytes) : Bytes :=
  ((text.dropWhile isSpace).reverse.dropWhile isSpace).reverse

/-- The delimiters `" \t"`. -/
def isBlank (byte : UInt8) : Bool := byte = 32 ∨ byte = 9

/-- `strtok_r` with the delimiters `" \t"`: the next token and the text behind its delimiter. -/
def nextToken (text : Bytes) : Option (Bytes × Bytes) :=
  let start := text.dropWhile isBlank
  if start = [] then none
  else some (start.takeWhile (!isBlank ·), (start.dropWhile (!isBlank ·)).drop 1)

/-- What is shown of a reply whose first token is `"0"`, with the text behind it. -/
def displaySuccess (rest : Bytes) : Bytes :=
  match nextToken rest with
  | none => puts (bytes "Success")
  | some (t1, rest) =>
    if t1 = bytes "-1" then puts (bytes "Data write failed")
    else if t1 = bytes "0" then
      match nextToken rest with
      | none => puts (bytes "Success")
      | some (t2, _) =>
        puts (if t2 = bytes "0" then bytes "Success" else bytes "Movie write failed")
    else puts (bytes "Success " ++ t1)

/-- `display_rpc_response`. A reply of another form is printed up to the NUL that `strtok_r` puts
behind its first token. -/
def displayRpcResponse (response : Bytes) : Bytes :=
  let copy := stripNewline (copyText maxResponseLen response)
  let token := trimWhitespace copy
  if token = [] then puts (cString response)
  else if token = bytes "-1" then puts (bytes "RPC Failed")
  else if token = bytes "-2" then puts (bytes "Value error")
  else if token = bytes "-3" then puts (bytes "Internal error")
  else
    match nextToken token with
    | none => puts (copy.takeWhile isSpace ++ token)
    | some (first, rest) =>
      if first = bytes "0" then displaySuccess rest else puts (copy.takeWhile isSpace ++ first)

/-! ## Outcomes -/

/-- How a command ends, as its user can know it. -/
inductive Outcome where
  /-- The request is not understood, or there is no response. -/
  | rpcFailed
  /-- It is refused. -/
  | valueError
  /-- The server fails. -/
  | internalError
  /-- It succeeds, with a handle or the number 1 of a sprite that stays. -/
  | success (value : Option UInt64)
  /-- `generate` fails to write its data. -/
  | dataFailed
  /-- `generate` fails to write its movie. -/
  | movieFailed
  deriving DecidableEq, Repr

/-- The message of an outcome. -/
def Outcome.message : Outcome → Bytes
  | .rpcFailed => bytes "RPC Failed"
  | .valueError => bytes "Value error"
  | .internalError => bytes "Internal error"
  | .success none => bytes "Success"
  | .success (some value) => bytes "Success " ++ decimalNat value.toNat
  | .dataFailed => bytes "Data write failed"
  | .movieFailed => bytes "Movie write failed"

/-- The outcome of a value of `response_u64`. -/
def Outcome.ofValue (value : UInt64) : Outcome := .success (if value = 0 then none else some value)

/-- The texts that say an outcome. -/
inductive Outcome.Tells : Outcome → Bytes → Prop where
  | rpcFailed : Tells .rpcFailed (responseCode rpcFail)
  | valueError : Tells .valueError (responseCode rpcValue)
  | internalError : Tells .internalError (responseCode rpcInternal)
  | success : Tells (.success none) (responseCode 0)
  | value (value : UInt64) : Tells (.ofValue value) (responseU64 value)
  | generated : Tells (.success none) (responseGenerate 0 0)
  | dataFailed (movie : Int) (known : movie = 0 ∨ movie = -1) :
    Tells .dataFailed (responseGenerate (-1) movie)
  | movieFailed : Tells .movieFailed (responseGenerate 0 (-1))

/-- Every response but those to a Login says an outcome. -/
theorem allowsReplies_tells : AllowsReplies fun text => ∃ outcome : Outcome, outcome.Tells text where
  codes := by
    intro code known
    simp only [List.mem_cons, List.not_mem_nil, or_false] at known
    rcases known with rfl | rfl | rfl | rfl
    · exact ⟨_, .success⟩
    · exact ⟨_, .rpcFailed⟩
    · exact ⟨_, .valueError⟩
    · exact ⟨_, .internalError⟩
  values value := ⟨_, .value value⟩
  generated := by
    rintro dat movie (rfl | rfl) known
    · rcases known with rfl | rfl
      · exact ⟨_, .generated⟩
      · exact ⟨_, .movieFailed⟩
    · exact ⟨_, .dataFailed movie known⟩

/-! ## The message of a response -/

/-- The digits of a number other than 0 are not those of 0. -/
theorem decimalNat_ne_zero {value : Nat} (positive : value ≠ 0) : decimalNat value ≠ bytes "0" := by
  intro same
  have read := digitsValue_decimalNat value
  rw [same] at read
  exact positive read.symm

/-- What is not white space is no blank. -/
theorem isBlank_of_not_space {byte : UInt8} (text : isSpace byte = false) : isBlank byte = false := by
  simp only [isBlank, isSpace, decide_eq_false_iff_not, not_or, not_and,
    UInt8.le_iff_toNat_le, ← UInt8.toNat_inj, UInt8.reduceToNat] at text ⊢
  omega

/-- A text without blanks is one token. -/
theorem nextToken_plain {text : Bytes} (some_ : text ≠ [])
    (plain : ∀ byte ∈ text, isBlank byte = false) :
    nextToken text = some (text, []) := by
  have start : text.dropWhile isBlank = text := by
    rw [List.dropWhile_eq_self_iff]
    intro _ blank
    rw [plain _ (List.getElem_mem _)] at blank
    cases blank
  have inside : text.takeWhile (fun byte => !isBlank byte) = text :=
    List.takeWhile_eq_self_iff.mpr fun byte member => by simp [plain byte member]
  have behind : text.dropWhile (fun byte => !isBlank byte) = [] :=
    List.dropWhile_eq_nil_iff.mpr fun byte member => by simp [plain byte member]
  simp [nextToken, start, some_, inside, behind]

/-- A text that begins and ends with other bytes than white space is not trimmed. -/
theorem trimWhitespace_plain {front : Bytes} {first last : UInt8} (begins : isSpace first = false)
    (ends : isSpace last = false) :
    trimWhitespace (first :: (front ++ [last])) = first :: (front ++ [last]) := by
  simp [trimWhitespace, begins, ends]

/-- Behind a zero and a blank the reply goes on. -/
theorem displayRpcResponse_zero {body : Bytes} (some_ : body ≠ [])
    (plain : ∀ byte ∈ body, isSpace byte = false ∧ byte ≠ 0) (short : body.length ≤ 100) :
    displayRpcResponse (bytes "0 " ++ body ++ [10]) = displaySuccess body := by
  obtain ⟨front, last, rfl⟩ := (List.eq_nil_or_concat' body).resolve_left some_
  have text : bytes "0 " ++ (front ++ [last]) ++ [10] = 48 :: (32 :: front ++ [last]) ++ [10] := rfl
  have ends := plain last (by simp)
  have noNul : 0 ∉ (48 :: (32 :: front ++ [last]) ++ [10] : Bytes) := by
    intro inside
    simp only [List.cons_append, List.mem_cons, List.mem_append, List.not_mem_nil, or_false] at inside
    rcases inside with none | none | (inside | rfl) | none
    · cases none
    · cases none
    · exact (plain 0 (List.mem_append_left _ inside)).2 rfl
    · exact ends.2 rfl
    · cases none
  have copied : copyText maxResponseLen (48 :: (32 :: front ++ [last]) ++ [10]) =
      48 :: (32 :: front ++ [last]) ++ [10] := by
    rw [copyText, cString_eq noNul, List.take_of_length_le]
    simp only [List.length_append, List.length_cons, List.length_nil, maxResponseLen] at short ⊢
    omega
  have kept : ¬ (last = 10 ∨ last = 13) := by
    rintro (rfl | rfl) <;> cases ends.1
  have stripped : stripNewline (48 :: (32 :: front ++ [last]) ++ [10]) =
      48 :: (32 :: front ++ [last]) := by
    simp [stripNewline, kept]
  have trimmed := @trimWhitespace_plain (32 :: front) 48 last rfl ends.1
  have first : nextToken (48 :: (32 :: front ++ [last])) = some (bytes "0", front ++ [last]) := by
    simp [nextToken, isBlank, bytes]
  rw [text, displayRpcResponse, copied, stripped, trimmed, first]
  simp [bytes]

/-- A value is shown as the message of its outcome. -/
theorem displayRpcResponse_value (value : UInt64) :
    displayRpcResponse (responseU64 value) = puts (Outcome.ofValue value).message := by
  have digits := decimalNat_digits value.toNat
  have plain : ∀ byte ∈ decimalNat value.toNat, isSpace byte = false ∧ byte ≠ 0 := by
    intro byte inside
    refine ⟨(digit_plain (digits byte inside)).1, ?_⟩
    rintro rfl
    cases digits 0 inside
  have short := decimalNat_length value
  have token := nextToken_plain (decimalNat_ne_nil value.toNat)
    fun byte inside => isBlank_of_not_space (plain byte inside).1
  have no_sign : decimalNat value.toNat ≠ bytes "-1" := by
    intro same
    have sign : (45 : UInt8) ∈ decimalNat value.toNat := by
      rw [same]
      decide
    cases digits 45 sign
  rw [responseU64, displayRpcResponse_zero (decimalNat_ne_nil _) plain (by omega), displaySuccess,
    token]
  by_cases zero : value = 0
  · subst zero
    decide +kernel
  · have digits_other := decimalNat_ne_zero fun none => zero (UInt64.toNat_inj.mp none)
    simp only [if_neg no_sign, if_neg digits_other, Outcome.ofValue, if_neg zero, Outcome.message]

/-- A response is shown as the message of its outcome. -/
theorem Outcome.Tells.displayed {outcome : Outcome} {text : Bytes} (tells : outcome.Tells text) :
    displayRpcResponse text = puts outcome.message := by
  cases tells with
  | value value => exact displayRpcResponse_value value
  | dataFailed movie known => rcases known with rfl | rfl <;> decide +kernel
  | _ => decide +kernel

/-- Different outcomes have different messages. -/
theorem Outcome.message_injective : Function.Injective Outcome.message := by
  -- a message with digits begins and ends like no other
  have digits : ∀ (value : UInt64) (other : Outcome),
      (Outcome.success (some value)).message = other.message → .success (some value) = other := by
    intro value other same
    rcases other with _ | _ | _ | (_ | another) | _ | _
    case success.some =>
      have read := congrArg digitsValue (List.append_cancel_left same)
      rw [digitsValue_decimalNat, digitsValue_decimalNat] at read
      rw [UInt64.toNat_inj.mp read]
    case success.none =>
      have longer := congrArg List.length same
      simp [Outcome.message, bytes] at longer
    all_goals simp [Outcome.message, bytes] at same
  intro left right same
  rcases left with _ | _ | _ | (_ | value) | _ | _ <;>
    rcases right with _ | _ | _ | (_ | another) | _ | _ <;>
    first
    | rfl
    | exact digits _ _ same
    | exact (digits _ _ same.symm).symm
    | exact absurd same (by decide)

/-! ## Commands -/

section Commands

variable {auth : AuthDb} {session : Session} {allowed : Bytes → Prop}

/-- Whatever other clients do, a command at work ends with an allowed response. -/
theorem AllowsReplies.serveAmong_replies (allows : AllowsReplies allowed) {pc : Pc}
    (working : pc.Working) (replies : pc.RepliesIn allowed) (steps : List (World × Answers)) :
    (serveAmong auth session pc steps).2.RepliesIn allowed := by
  induction steps generalizing session pc with
  | nil => exact replies
  | cons step steps ih =>
    have stays := (@advance_working auth step.2 session step.1 pc working).2
    refine ih stays (allows.advance_replies ?_ replies)
    rintro line rfl
    cases working

/-- The response to a command of the client, other than a Login and a Disconnect. -/
theorem AllowsReplies.command_replies (allows : AllowsReplies allowed) {client : ClientMain}
    {written : Written} {rest : Bytes} (wrote : client.pass = .wrote written rest)
    (login : written.command ≠ bytes "Login") (other : written.command ≠ bytes "Disconnect")
    (steps : List (World × Answers)) :
    (serveAmong auth session (.start written.line) steps).2.RepliesIn allowed := by
  have formed := pass_formed wrote
  have head := firstToken_head formed.command
  cases steps with
  | nil => trivial
  | cons step steps =>
    obtain ⟨same, working⟩ :=
      startRequest_other auth step.2 session step.1 formed.noNul head login other
    refine allows.serveAmong_replies working (allows.startRequest_replies ?_) steps
    intro arguments tokens
    exact absurd (requestTokens_head formed.noNul head tokens).symm login

/-- The client shows how its command ended. Whatever other clients do meanwhile, the response to each
command of the client but Login and Disconnect tells an outcome, also where the worker has to send
its own; the client reads it whole, whatever is behind it, and prints the message of that outcome, and
no response that tells another outcome has this message. -/
theorem commands_shown_as_answered {client : ClientMain} {written : Written}
    {rest text behind : Bytes} {steps : List (World × Answers)} {after : Session}
    {response : Option Bytes} {copied : Bool} (wrote : client.pass = .wrote written rest)
    (login : written.command ≠ bytes "Login") (other : written.command ≠ bytes "Disconnect")
    (served : serveAmong auth session (.start written.line) steps = (after, .finished response))
    (answer : workerResponse response copied = some text) :
    ∃ outcome : Outcome, outcome.Tells text ∧
      (readResponseLine maxResponseLen (text ++ behind)).1 = text ∧
      displayRpcResponse text = puts outcome.message ∧
      ∀ (another : Outcome) (reply : Bytes), another.Tells reply →
        displayRpcResponse reply = puts outcome.message → another = outcome := by
  have told : ∃ outcome : Outcome, outcome.Tells text := by
    have replies := @AllowsReplies.command_replies auth session _ allowsReplies_tells _ _ _ wrote login
      other steps
    rw [served] at replies
    cases response with
    | some reply =>
      cases answer
      exact replies text rfl
    | none =>
      cases copied with
      | true =>
        cases answer
        exact ⟨_, .rpcFailed⟩
      | false => cases answer
  have line : IsReply text := by
    have replies := @AllowsReplies.command_replies auth session _ allowsReplies_isReply _ _ _ wrote
      login other steps
    rw [served] at replies
    exact isReply_workerResponse replies answer
  obtain ⟨outcome, tells⟩ := told
  refine ⟨outcome, tells, ?_, tells.displayed, fun another reply same shown => ?_⟩
  · obtain ⟨body, rfl, plain, short⟩ := line
    rw [readResponseLine, List.append_assoc, List.singleton_append]
    rw [takeLine_line behind (fun inside => (plain 10 inside).1 rfl) (by
      rw [List.length_append] at short
      exact Nat.lt_sub_of_add_lt short)]
  · rw [same.displayed] at shown
    exact Outcome.message_injective (List.append_cancel_right shown)

/-- Ann is logged in and asks for the destruction of a canvas that there is not. -/
theorem commands_shown_as_answered_missing :
    displayRpcResponse (responseCode rpcValue) = puts (bytes "Value error") ∧
    ∃ outcome : Outcome, outcome.Tells (responseCode rpcValue) ∧
      outcome.message = bytes "Value error" := by
  have shown := @commands_shown_as_answered [] { username := bytes "ann", loggedIn := true }
    { input := bytes "destroy_canvas 1\n", loggedIn := true }
    ⟨bytes "destroy_canvas 1\n", bytes "destroy_canvas", []⟩ [] (responseCode rpcValue) []
    [({}, {}), ({}, {})] _ _ false (by decide +kernel) (by decide) (by decide) rfl rfl
  obtain ⟨outcome, tells, -, displayed, -⟩ := shown
  have message : displayRpcResponse (responseCode rpcValue) = puts (bytes "Value error") := by
    decide +kernel
  exact ⟨message, outcome, tells, List.append_cancel_right (displayed.symm.trans message)⟩

end Commands

end AnimateService
