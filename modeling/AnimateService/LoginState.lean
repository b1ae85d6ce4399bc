import AnimateService.ClientMain
import AnimateService.Library.Machine
import AnimateService.Numerals
import AnimateService.Sessions
import AnimateService.Workers

/-!
# The login state of client and server

A client program and its session on the server, line by line: a pass of the client's loop, the
handling of the line that it writes, and the reply. Other clients go on meanwhile, so the handler
finds any world at each of its steps. The client takes every integer for a balance, so it welcomes
its user also when the reply to a Login is an error code; those are the Logins that the guard
`LoginsAnswered` excludes.
-/
namespace AnimateService

open Transition

/-- The steps of a request among those of other clients, with the world that each step finds. -/
def serveAmong (auth : AuthDb) (session : Session) (pc : Pc) : List (World × Answers) → Session × Pc
  | [] => (session, pc)
  | (world, answers) :: rest =>
    let (session, _, pc) := advance auth answers session world pc
    serveAmong auth session pc rest

/-- A client program with its session. -/
structure Dialogue where
  /-- The program. -/
  client : ClientMain
  /-- The session. -/
  session : Session := {}
  deriving DecidableEq, Repr

/-- The environment's choices in a pass of the client's loop. -/
structure Round where
  /-- The steps of the handler, if a line is written. -/
  steps : List (World × Answers) := []
  /-- There is memory for the worker's own response. -/
  copied : Bool := true
  deriving DecidableEq, Repr

/-- A written line is handled, and the reply processed, if the client waits for one. -/
def Dialogue.exchange (auth : AuthDb) (client : ClientMain) (session : Session) (written : Written)
    (round : Round) : Option Dialogue :=
  match serveAmong auth session (.start written.line) round.steps with
  | (session, .finished response) =>
    if written.command = bytes "Disconnect" then
      some { client := { client with sentDisconnect := true, going := false }, session }
    else
      (workerResponse response round.copied).map fun text =>
        { client := client.processReply written (readResponseLine maxResponseLen text).1, session }
  | _ => none

/-- The passes of the client's loop. -/
def dialogueMachine (auth : AuthDb) : Machine Dialogue Round where
  step state round :=
    if state.client.going then
      match state.client.pass with
      | .ended => some { state with client := { state.client with going := false } }
      | .skipped rest => some { state with client := { state.client with input := rest } }
      | .wrote written rest =>
        Dialogue.exchange auth { state.client with input := rest } state.session written round
    else none

/-- A client that goes on and its session agree. -/
def Agreed (state : Dialogue) : Prop :=
  state.client.going = true → state.client.loggedIn = state.session.loggedIn ∧
    (state.client.loggedIn = true ∧ state.session.loggedIn = true →
      state.client.currentUsername = state.session.username ∧
        state.client.announced = some state.session.balance)

/-- A Login that the client writes has one valid name, and there is memory to handle it. -/
def LoginsAnswered (state : Dialogue) (round : Round) : Prop :=
  ∀ written rest, state.client.pass = .wrote written rest → written.command = bytes "Login" →
    (∃ name, strtok written.line = [bytes "Login", name] ∧ authValidUsername name = true) ∧
      ∀ world answers later, round.steps = (world, answers) :: later →
        answers.lineCopied = true ∧ answers.replied = true

/-! ## The first token of a line -/

/-- The first token of a text that does not begin with a delimiter. -/
theorem tokensFrom_head {current : Bytes} (begun : current ≠ []) (text : Bytes) :
    (tokensFrom text current).head? =
      some (current.reverse ++ text.takeWhile fun byte => !isDelimiter byte) := by
  induction text generalizing current with
  | nil =>
    cases current with
    | nil => exact absurd rfl begun
    | cons byte current => simp [tokensFrom]
  | cons byte rest ih =>
    cases delimiter : isDelimiter byte with
    | true =>
      cases current with
      | nil => exact absurd rfl begun
      | cons last current => simp [tokensFrom, delimiter]
    | false =>
      simp only [tokensFrom, delimiter, Bool.false_eq_true, ↓reduceIte]
      rw [ih (List.cons_ne_nil byte current)]
      simp [delimiter]

/-- The client's first token is the server's. -/
theorem firstToken_head {line command : Bytes} {tokenLen : Nat}
    (found : firstToken line tokenLen = some command) : (strtok line).head? = some command := by
  unfold firstToken at found
  dsimp only at found
  split at found
  · cases found
  · rename_i proper
    cases found
    rw [not_or] at proper
    replace proper := proper.1
    unfold strtok
    induction line with
    | nil => exact absurd rfl proper
    | cons byte rest ih =>
      cases delimiter : isDelimiter byte with
      | true =>
        by_cases blank : byte = 32 ∨ byte = 9
        · simp only [List.dropWhile_cons, blank, decide_true, ↓reduceIte] at proper ⊢
          simpa [tokensFrom, delimiter] using ih proper
        · simp [blank, delimiter] at proper
      | false =>
        have plain : ¬ (byte = 32 ∨ byte = 9) := by
          rintro (rfl | rfl) <;> cases delimiter
        simp only [tokensFrom, delimiter, Bool.false_eq_true, ↓reduceIte]
        rw [tokensFrom_head (List.cons_ne_nil byte [])]
        simp [plain, delimiter]

/-! ## What the handler does to the session -/

variable {auth : AuthDb} {answers : Answers} {session : Session} {world : World}

/-- Nobody is logged in without a positive balance. -/
def Session.Paid (session : Session) : Prop := session.loggedIn = true → 0 < session.balance

/-- After a Login nobody is logged in without a positive balance. -/
theorem login_paid (paid : session.Paid) (arguments : List Bytes) :
    (login auth answers session arguments).1.Paid := by
  unfold login
  split
  · split
    · split
      · exact paid
      · split
        · exact paid
        · rename_i positive
          exact fun _ => Int.not_le.mp positive
    · exact paid
  · exact paid

/-- After every step of a handler nobody is logged in without a positive balance. -/
theorem advance_paid (paid : session.Paid) (pc : Pc) :
    (advance auth answers session world pc).1.Paid := by
  cases pc with
  | start line =>
    apply startRequest_cases (motive := fun result => result.1.Paid)
    · exact fun _ _ => paid
    · exact fun arguments _ => login_paid paid arguments
    · exact fun _ _ => paid
    · exact fun _ _ _ _ _ _ _ _ _ => paid
  | disconnect =>
    simp only [advance]
    split <;> exact paid
  | endSession => exact fun impossible => absurd impossible Bool.false_ne_true
  | canvasWait record user resume =>
    simp only [advance]
    split <;> exact paid
  | _ => exact paid

/-- After a request nobody is logged in without a positive balance. -/
theorem serveAmong_paid (auth : AuthDb) (paid : session.Paid) (pc : Pc)
    (steps : List (World × Answers)) : (serveAmong auth session pc steps).1.Paid := by
  induction steps generalizing session pc with
  | nil => exact paid
  | cons step steps ih => exact ih (advance_paid paid pc) _

/-- A command at work keeps the session. -/
theorem serveAmong_working {pc : Pc} (working : pc.Working) (steps : List (World × Answers)) :
    (serveAmong auth session pc steps).1 = session := by
  induction steps generalizing pc with
  | nil => rfl
  | cons step steps ih =>
    obtain ⟨same, stays⟩ : (advance auth step.2 session step.1 pc).1 = session ∧
        (advance auth step.2 session step.1 pc).2.2.Working := advance_working working
    have first : serveAmong auth session pc (step :: steps) =
      serveAmong auth (advance auth step.2 session step.1 pc).1
        (advance auth step.2 session step.1 pc).2.2 steps := rfl
    rw [first, same]
    exact ih stays

/-- A request that has finished is over. -/
theorem serveAmong_finished (response : Option Bytes) (steps : List (World × Answers)) :
    serveAmong auth session (.finished response) steps = (session, .finished response) := by
  induction steps with
  | nil => rfl
  | cons step steps ih => exact ih

/-- A request that is handled alone is one that is handled among none. -/
theorem rpcHandleRequest_serveAmong {line : Bytes} {given : List Answers}
    {response : Option Bytes} {after : Session} {left : World}
    (handled : rpcHandleRequest auth session world line given = some (response, after, left)) :
    ∃ steps, steps.map Prod.snd = given ∧
      serveAmong auth session (.start line) steps = (after, .finished response) := by
  -- the worlds that its own steps leave
  have alone : ∀ pc (session : Session) (world : World), ∃ steps, steps.map Prod.snd = given ∧
      serveAmong auth session pc steps =
        ((serve auth session world pc given).1, (serve auth session world pc given).2.2) := by
    clear handled
    induction given with
    | nil => exact fun pc session world => ⟨[], rfl, rfl⟩
    | cons answers given ih =>
      intro pc session world
      obtain ⟨steps, same, served⟩ := ih (advance auth answers session world pc).2.2
        (advance auth answers session world pc).1 (advance auth answers session world pc).2.1
      exact ⟨(world, answers) :: steps, congrArg (List.cons answers) same, served⟩
  obtain ⟨steps, same, served⟩ := alone (.start line) session world
  refine ⟨steps, same, served.trans ?_⟩
  unfold rpcHandleRequest at handled
  split at handled
  · rename_i ended
    cases handled
    rw [ended]
  · cases handled

/-! ## The first step of the line of a client -/

/-- What the handler makes of a Login line: the session after it and the response, if there is
memory for it. -/
inductive LoginOutcome (auth : AuthDb) (answers : Answers) (session : Session) (line : Bytes) :
    Session → Bytes → Prop where
  /-- The user is welcome. -/
  | welcomed {name : Bytes} {balance : Int} {user : AuthUser} (copied : answers.lineCopied = true)
      (tokens : strtok line = [bytes "Login", name]) (valid : authValidUsername name = true)
      (known : user ∈ auth) (same : user.balance = balance) (positive : 0 < balance) :
    LoginOutcome auth answers session line { session with username := name, balance, loggedIn := true }
      (responseCode balance)
  /-- The user is turned away. -/
  | rejected {name text : Bytes} {now : Nat} (copied : answers.lineCopied = true)
      (tokens : strtok line = [bytes "Login", name]) (valid : authValidUsername name = true)
      (rejects : text = bytes "Reject UNAUTHORISED\n" ∨ text = bytes "Reject BALANCE\n") :
    LoginOutcome auth answers session line { session with disconnectAfter := now } text
  /-- The line is no Login of a valid name, or it was not copied. -/
  | failed {code : Int} (bad : answers.lineCopied = false ∨
        ¬ ∃ name, strtok line = [bytes "Login", name] ∧ authValidUsername name = true)
      (negative : code < 0) (small : -3 ≤ code) :
    LoginOutcome auth answers session line session (responseCode code)

/-- A user that is looked up is in the database. -/
theorem authLookup_some {name : Bytes} {balance : Int} (found : authLookup auth name = some balance) :
    ∃ user ∈ auth, user.username = name ∧ user.balance = balance := by
  obtain ⟨user, there, rfl⟩ := Option.map_eq_some_iff.mp found
  exact ⟨user, List.mem_of_find?_eq_some there, by simpa using List.find?_some there, rfl⟩

/-- The handler answers a Login line at once. -/
theorem startRequest_login (auth : AuthDb) (answers : Answers) (session : Session) (world : World)
    {line : Bytes} (noNul : 0 ∉ line) (named : (strtok line).head? = some (bytes "Login")) :
    ∃ after text, LoginOutcome auth answers session line after text ∧
      startRequest auth answers session world line =
        (after, world, .finished (if answers.replied then some text else none)) := by
  cases copied : answers.lineCopied with
  | false =>
    refine ⟨session, responseCode rpcInternal, .failed (.inl copied) (by decide) (by decide), ?_⟩
    simp only [startRequest, copied, Bool.false_eq_true, ↓reduceIte, Answers.reply]
  | true =>
    simp only [startRequest, copied, ↓reduceIte, cString_eq noNul]
    cases tokens : strtok line with
    | nil =>
      rw [tokens] at named
      cases named
    | cons command arguments =>
      rw [tokens] at named
      obtain rfl := Option.some.inj named
      have failing : (¬ ∃ name, strtok line = [bytes "Login", name] ∧ authValidUsername name = true) →
          LoginOutcome auth answers session line session (responseCode rpcFail) :=
        fun bad => .failed (.inr bad) (by decide) (by decide)
      rw [tokens] at failing
      by_cases many : 16 < (bytes "Login" :: arguments).length
      · refine ⟨session, responseCode rpcFail, failing ?_, ?_⟩
        · rintro ⟨name, same, -⟩
          rw [same] at many
          simp at many
        · have stored : (tokenize line 16).1 = 17 := by
            simp only [tokenize, tokens, if_pos many]
          rw [if_pos (.inr (by rw [stored]; decide))]
          rfl
      · have stored : tokenize line 16 = ((bytes "Login" :: arguments).length,
            bytes "Login" :: arguments) := by
          simp only [tokenize, tokens, if_neg many]
        have proper : ¬ ((bytes "Login" :: arguments).length = 0 ∨
            16 < (bytes "Login" :: arguments).length) := by
          rw [not_or]
          exact ⟨by simp, many⟩
        rw [stored]
        dsimp only
        rw [if_neg proper, if_pos rfl]
        unfold login
        split
        · rename_i name
          split
          · rename_i valid
            split
            · exact ⟨_, _, .rejected copied tokens valid (.inl rfl), rfl⟩
            · rename_i balance found
              obtain ⟨user, known, -, same⟩ := authLookup_some found
              split
              · exact ⟨_, _, .rejected copied tokens valid (.inr rfl), rfl⟩
              · rename_i positive
                rw [copyUsername_short (authValidUsername_length valid)]
                exact ⟨_, _, .welcomed copied tokens valid known same (Int.not_le.mp positive), rfl⟩
          · rename_i invalid
            refine ⟨session, _, failing ?_, rfl⟩
            rintro ⟨other, same, valid⟩
            obtain ⟨-, rest⟩ := List.cons.inj same
            obtain ⟨rfl, -⟩ := List.cons.inj rest
            exact invalid valid
        · rename_i other
          refine ⟨session, _, failing ?_, rfl⟩
          rintro ⟨name, same, -⟩
          exact other name (List.cons.inj same).2

/-- The first token of a C string is the server's. -/
theorem requestTokens_head {line first command : Bytes} {arguments : List Bytes} (noNul : 0 ∉ line)
    (named : (strtok line).head? = some command) (tokens : requestTokens line = first :: arguments) :
    first = command := by
  have same : (tokenize (cString line) 16).2.head? = (strtok line).head? := by
    rw [cString_eq noNul]
    unfold tokenize
    dsimp only
    split
    · cases strtok line <;> rfl
    · rfl
  rw [requestTokens] at tokens
  rw [tokens, named] at same
  exact Option.some.inj same

/-- The line of another command than Login and Disconnect keeps the session. -/
theorem startRequest_other (auth : AuthDb) (answers : Answers) (session : Session) (world : World)
    {line : Bytes} (noNul : 0 ∉ line) {command : Bytes}
    (named : (strtok line).head? = some command) (login : command ≠ bytes "Login")
    (disconnect : command ≠ bytes "Disconnect") :
    (startRequest auth answers session world line).1 = session ∧
      (startRequest auth answers session world line).2.2.Working := by
  have head : ∀ {first arguments}, (tokenize (cString line) 16).2 = first :: arguments →
      first = command := requestTokens_head noNul named
  apply startRequest_cases (motive := fun result => result.1 = session ∧ result.2.2.Working)
  · exact fun _ _ => ⟨rfl, trivial⟩
  · exact fun arguments tokens => absurd (head tokens).symm login
  · exact fun arguments tokens => absurd (head tokens).symm disconnect
  · intro name arguments parsed tokens _ _ _ _ found
    exact ⟨rfl, (beginCommand_working answers world
      fun target shares => parseCommand_target found shares).2⟩

/-! ## What the client makes of the reply -/

/-- A newline at the end of a text without one is stripped. -/
theorem stripNewline_line {body : Bytes} (plain : ∀ byte ∈ body, isDelimiter byte = false) :
    stripNewline (body ++ [10]) = body := by
  have kept : body.reverse.dropWhile (fun byte => byte = 10 ∨ byte = 13) = body.reverse := by
    cases last : body.reverse with
    | nil => rfl
    | cons byte rest =>
      have inside : byte ∈ body := List.mem_reverse.mp (last ▸ List.mem_cons_self)
      have text := plain byte inside
      simp only [isDelimiter, decide_eq_false_iff_not, not_or] at text
      exact List.dropWhile_cons_of_neg (by simp [text.2.2.1, text.2.2.2])
  have reversed : (body ++ [10]).reverse = 10 :: body.reverse := by simp
  unfold stripNewline
  rw [reversed, List.dropWhile_cons_of_pos (by decide), kept, List.reverse_reverse]

/-- A number of 64 bits is printed in at most 20 bytes. -/
theorem decimalInt_length {value : Int} (above : -(2 ^ 63) ≤ value) (below : value < 2 ^ 63) :
    (decimalInt value).length ≤ 20 := by
  have digits : ∀ value : Nat, value ≤ 2 ^ 63 → (decimalNat value).length ≤ 19 := by
    intro value small
    simp only [decimalNat, List.length_map]
    exact (Nat.length_toDigits_le_iff (by decide) (by decide)).mpr (by omega)
  cases value with
  | ofNat value =>
    have short := digits value (by simp only [Int.ofNat_eq_natCast] at below; omega)
    exact Nat.le_succ_of_le short
  | negSucc value => exact Nat.succ_le_succ (digits (value + 1) (by omega))

/-- A code is read as it was sent. -/
theorem readResponseLine_code {code : Int} (above : -(2 ^ 63) ≤ code) (below : code < 2 ^ 63) :
    (readResponseLine maxResponseLen (responseCode code)).1 = responseCode code := by
  have one : 10 ∉ decimalInt code := fun inside => by cases (decimalInt_plain code 10 inside).1
  have short := decimalInt_length above below
  have fits : (decimalInt code).length < maxResponseLen - 1 := by
    simp only [maxResponseLen]
    omega
  have taken := takeLine_line [] one fits
  exact congrArg Prod.fst taken

/-- The text of a code is parsed to the code. -/
theorem parseIntegerReply_code {code : Int} (above : -(2 ^ 63) ≤ code) (below : code < 2 ^ 63) :
    stripNewline (copyText maxResponseLen (responseCode code)) = decimalInt code ∧
      parseIntegerReply (responseCode code) = some code := by
  have plain := decimalInt_plain code
  have noNul : 0 ∉ responseCode code := by
    rw [responseCode, List.mem_append, not_or]
    exact ⟨fun inside => (plain 0 inside).2 rfl, by decide⟩
  have short := decimalInt_length above below
  have copied : copyText maxResponseLen (responseCode code) = responseCode code := by
    rw [copyText, cString_eq noNul, List.take_of_length_le]
    simp only [responseCode, List.length_append, List.length_singleton, maxResponseLen]
    omega
  have stripped : stripNewline (responseCode code) = decimalInt code :=
    stripNewline_line fun byte inside => (plain byte inside).1
  refine ⟨by rw [copied, stripped], ?_⟩
  have printed := (decimalInt_ne_nil code).symm
  simp [parseIntegerReply, copied, stripped, strtoll_decimalInt above below, printed]

/-- No number begins like a rejection. -/
theorem decimalInt_not_reject (code : Int) : (decimalInt code).take 6 ≠ bytes "Reject" := by
  have digits : ∀ value, (82 : UInt8) ∉ decimalNat value := fun value inside => by
    cases decimalNat_digits value 82 inside
  have absent : (82 : UInt8) ∉ decimalInt code := by
    cases code with
    | ofNat value => exact digits value
    | negSucc value =>
      rw [decimalInt, List.mem_cons, not_or]
      exact ⟨by decide, digits (value + 1)⟩
  intro same
  have inside : (82 : UInt8) ∈ (decimalInt code).take 6 := by
    rw [same]
    decide
  exact absent (List.mem_of_mem_take inside)

variable {client : ClientMain} {written : Written}

/-- The client takes every code that answers a Login for the balance of its user. -/
theorem processReply_code {code : Int} (above : -(2 ^ 63) ≤ code) (below : code < 2 ^ 63)
    (login : written.command = bytes "Login") :
    client.processReply written (readResponseLine maxResponseLen (responseCode code)).1 =
      { client with
        loggedIn := true, currentUsername := copyUsername written.loginName,
        announced := some code } := by
  obtain ⟨display, parsed⟩ := parseIntegerReply_code above below
  rw [readResponseLine_code above below]
  simp only [ClientMain.processReply, login, ↓reduceIte, display, decimalInt_not_reject code, parsed]

/-- A rejection ends the loop. -/
theorem processReply_reject {text : Bytes} (login : written.command = bytes "Login")
    (rejects : text = bytes "Reject UNAUTHORISED\n" ∨ text = bytes "Reject BALANCE\n") :
    (client.processReply written (readResponseLine maxResponseLen text).1).going = false := by
  have display : (stripNewline (copyText maxResponseLen
      (readResponseLine maxResponseLen text).1)).take 6 = bytes "Reject" := by
    rcases rejects with rfl | rfl <;> decide +kernel
  simp only [ClientMain.processReply, login, ↓reduceIte, display]

/-- The reply to another command changes nothing. -/
theorem processReply_other (other : written.command ≠ bytes "Login") (response : Bytes) :
    client.processReply written response = client := if_neg other

/-- The client finds the user of a Login that the server accepts. -/
theorem loginName_eq {name : Bytes} (formed : written.Formed client.loggedIn)
    (login : written.command = bytes "Login")
    (tokens : strtok written.line = [bytes "Login", name]) (valid : authValidUsername name = true) :
    copyUsername written.loginName = name := by
  have copied : copyText maxInputLen written.line = written.line := by
    rw [copyText, cString_eq formed.noNul, List.take_of_length_le]
    have short := formed.short
    omega
  have fits := authValidUsername_length valid
  have found : loginUsername written.line (maxUsernameLen + 1) = some name := by
    simp [loginUsername, copied, tokens, Nat.lt_succ_of_le fits]
  rw [formed.loginName, if_pos login, found]
  exact copyUsername_short fits

/-! ## A pass of the client's loop -/

variable {state next : Dialogue} {round : Round}

/-- What a pass of the client's loop does. -/
inductive DialogueStep (auth : AuthDb) (state : Dialogue) (round : Round) : Dialogue → Prop where
  /-- Nothing is written. -/
  | silent {input : Bytes} {going : Bool}
      (none : ∀ written rest, state.client.pass ≠ .wrote written rest) :
    DialogueStep auth state round { state with client := { state.client with input, going } }
  /-- The client sends its Disconnect and goes. -/
  | left {written : Written} {rest : Bytes} {session : Session} {response : Option Bytes}
      (wrote : state.client.pass = .wrote written rest)
      (disconnect : written.command = bytes "Disconnect")
      (served : serveAmong auth state.session (.start written.line) round.steps =
        (session, .finished response)) :
    DialogueStep auth state round
      { client := { state.client with input := rest, sentDisconnect := true, going := false }, session }
  /-- The reply is processed. -/
  | answered {written : Written} {rest text : Bytes} {session : Session} {response : Option Bytes}
      (wrote : state.client.pass = .wrote written rest)
      (other : written.command ≠ bytes "Disconnect")
      (served : serveAmong auth state.session (.start written.line) round.steps =
        (session, .finished response))
      (answer : workerResponse response round.copied = some text) :
    DialogueStep auth state round
      { client := { state.client with input := rest }.processReply written
          (readResponseLine maxResponseLen text).1
        session }

/-- Every pass is one of these, of a client that goes on. -/
theorem dialogueMachine_step (step : (dialogueMachine auth).step state round = some next) :
    state.client.going = true ∧ DialogueStep auth state round next := by
  simp only [dialogueMachine] at step
  split at step
  · rename_i going
    refine ⟨going, ?_⟩
    split at step
    · rename_i ended
      cases step
      exact .silent fun written rest wrote => by cases ended.symm.trans wrote
    · rename_i left skipped
      cases step
      exact .silent fun written rest wrote => by cases skipped.symm.trans wrote
    · rename_i written rest wrote
      unfold Dialogue.exchange at step
      split at step
      · rename_i session response served
        split at step
        · rename_i disconnect
          cases step
          exact .left wrote disconnect served
        · rename_i other
          obtain ⟨text, answer, rfl⟩ := Option.map_eq_some_iff.mp step
          exact .answered wrote other served answer
      · cases step
  · cases step

/-- No pass leaves a session without a balance. -/
theorem DialogueStep.paid (step : DialogueStep auth state round next) (paid : state.session.Paid) :
    next.session.Paid := by
  cases step with
  | silent none => exact paid
  | left wrote disconnect served =>
    rename_i written rest session response
    have after := serveAmong_paid auth paid (.start written.line) round.steps
    rwa [served] at after
  | answered wrote other served answer =>
    rename_i written rest text session response
    have after := serveAmong_paid auth paid (.start written.line) round.steps
    rwa [served] at after

/-- The balances are numbers of 32 bits. -/
def BalancesFit (auth : AuthDb) : Prop :=
  ∀ user ∈ auth, -(2 ^ 31) ≤ user.balance ∧ user.balance < 2 ^ 31

/-- A client whose Login is handled agrees with its session afterwards exactly if the Login had one
valid name and there was memory to handle it. -/
theorem agreed_login (fits : BalancesFit auth) (client : ClientMain) {written : Written}
    {world : World} {answers : Answers} {later : List (World × Answers)} {session after : Session}
    {response : Option Bytes} {copied : Bool} {text : Bytes}
    (formed : written.Formed client.loggedIn) (paid : session.Paid) (going : client.going = true)
    (login : written.command = bytes "Login")
    (served : serveAmong auth session (.start written.line) ((world, answers) :: later) =
      (after, .finished response))
    (answer : workerResponse response copied = some text) :
    Agreed ⟨client.processReply written (readResponseLine maxResponseLen text).1, after⟩ ↔
      (∃ name, strtok written.line = [bytes "Login", name] ∧ authValidUsername name = true) ∧
        answers.lineCopied = true ∧ answers.replied = true := by
  obtain ⟨given, sent, outcome, started⟩ := startRequest_login auth answers session world
    formed.noNul (login ▸ firstToken_head formed.command)
  have first : serveAmong auth session (.start written.line) ((world, answers) :: later) =
      (given, .finished (if answers.replied then some sent else none)) := by
    simp only [serveAmong, advance, started, serveAmong_finished]
  obtain ⟨rfl, ended⟩ := Prod.mk.inj (first.symm.trans served)
  obtain rfl := Pc.finished.inj ended
  -- an error code is taken for a balance that nobody has
  have broken : ∀ code : Int, code < 0 → -3 ≤ code → given.Paid → text = responseCode code →
      ¬ Agreed ⟨client.processReply written (readResponseLine maxResponseLen text).1, given⟩ := by
    rintro code negative small paid rfl agreed
    rw [processReply_code (by omega) (by omega) login] at agreed
    obtain ⟨logged, same⟩ := agreed going
    obtain ⟨-, balance⟩ := same ⟨rfl, logged.symm⟩
    have positive := paid logged.symm
    have equal : code = given.balance := Option.some.inj balance
    omega
  have silent : answers.replied = false → given.Paid →
      ¬ Agreed ⟨client.processReply written (readResponseLine maxResponseLen text).1, given⟩ := by
    intro lacking paid
    refine broken (-1) (by decide) (by decide) paid ?_
    cases copied with
    | true =>
      simp only [workerResponse, lacking, Bool.false_eq_true, ↓reduceIte, Option.or] at answer
      exact (Option.some.inj answer).symm
    | false => simp [workerResponse, lacking] at answer
  cases replied : answers.replied with
  | false =>
    refine iff_of_false (silent replied ?_) fun conditions => absurd conditions.2.2 Bool.false_ne_true
    cases outcome with
    | welcomed copied tokens valid known same positive => exact fun _ => positive
    | rejected copied tokens valid rejects => exact paid
    | failed bad negative small => exact paid
  | true =>
    have heard : text = sent := by
      simp only [workerResponse, replied, ↓reduceIte, Option.or] at answer
      exact (Option.some.inj answer).symm
    subst heard
    cases outcome with
    | welcomed copied tokens valid known same positive =>
      rename_i name balance user
      refine iff_of_true ?_ ⟨⟨name, tokens, valid⟩, copied, rfl⟩
      have bounds := fits user known
      rw [processReply_code (by omega) (by omega) login]
      exact fun _ => ⟨rfl, fun _ => ⟨loginName_eq formed login tokens valid, rfl⟩⟩
    | rejected copied tokens valid rejects =>
      rename_i name now
      refine iff_of_true ?_ ⟨⟨name, tokens, valid⟩, copied, rfl⟩
      intro goes
      rw [processReply_reject login rejects] at goes
      cases goes
    | failed bad negative small =>
      rename_i code
      refine iff_of_false (broken code negative small paid rfl) ?_
      rintro ⟨proper, copied, -⟩
      rcases bad with lacking | improper
      · rw [copied] at lacking
        cases lacking
      · exact improper proper

/-- A pass keeps the agreement exactly if a Login that it writes is answered. -/
theorem DialogueStep.agreed (fits : BalancesFit auth) (step : DialogueStep auth state round next)
    (going : state.client.going = true) (paid : state.session.Paid) (agreed : Agreed state) :
    Agreed next ↔ LoginsAnswered state round := by
  cases step with
  | silent none =>
    refine iff_of_true (fun _ => agreed going) ?_
    intro written rest wrote
    exact absurd wrote (none written rest)
  | left wrote disconnect served =>
    refine iff_of_true (fun goes => absurd goes Bool.false_ne_true) ?_
    intro other rest again login
    obtain ⟨rfl, -⟩ := Pass.wrote.inj (wrote.symm.trans again)
    rw [disconnect] at login
    exact absurd login (by decide)
  | answered wrote other served answer =>
    rename_i written rest text session response
    have formed := pass_formed wrote
    cases steps : round.steps with
    | nil =>
      rw [steps] at served
      cases served
    | cons first later =>
      obtain ⟨world, answers⟩ := first
      rw [steps] at served
      by_cases login : written.command = bytes "Login"
      · refine (agreed_login fits { state.client with input := rest } formed paid going login served
          answer).trans ⟨fun conditions => ?_, fun answered => ?_⟩
        · intro other left again _
          obtain ⟨rfl, -⟩ := Pass.wrote.inj (wrote.symm.trans again)
          refine ⟨conditions.1, fun someWorld given more same => ?_⟩
          rw [steps] at same
          obtain ⟨-, rfl⟩ := Prod.mk.inj (List.cons.inj same).1
          exact conditions.2
        · obtain ⟨proper, memory⟩ := answered written rest wrote login
          exact ⟨proper, memory world answers later steps⟩
      · rw [processReply_other login]
        have kept : session = state.session := by
          obtain ⟨same, working⟩ := startRequest_other auth answers state.session world formed.noNul
            (firstToken_head formed.command) login other
          have rest : (serveAmong auth state.session _ later).1 = state.session :=
            serveAmong_working working later
          simp only [serveAmong, advance, same] at served
          rw [served] at rest
          exact rest
        subst kept
        refine iff_of_true (fun _ => agreed going) ?_
        intro again left wrote_again named
        obtain ⟨rfl, -⟩ := Pass.wrote.inj (wrote.symm.trans wrote_again)
        exact absurd named login

/-- For every users database, every content of the client's input and every way the lines are
handled: client and session agree throughout exactly if every Login that the client writes has one
valid name and is handled with memory. -/
theorem login_state_agreed_iff (auth : AuthDb) (fits : BalancesFit auth) (input : Bytes)
    (rounds : List Round) :
    (dialogueMachine auth).Always Agreed { client := { input } } rounds ↔
      (dialogueMachine auth).EveryStep LoginsAnswered { client := { input } } rounds := by
  have kept : ∀ state round next, state.session.Paid →
      (dialogueMachine auth).step state round = some next → next.session.Paid :=
    fun state round next paid step => (dialogueMachine_step step).2.paid paid
  have exactly : ∀ state round next, state.session.Paid → Agreed state →
      (dialogueMachine auth).step state round = some next →
      (Agreed next ↔ LoginsAnswered state round) := by
    intro state round next paid agreed step
    obtain ⟨going, step⟩ := dialogueMachine_step step
    exact step.agreed fits going paid agreed
  refine Machine.always_iff_everyStep kept exactly ?_ ?_
  · exact fun logged => absurd logged Bool.false_ne_true
  · exact fun _ => ⟨rfl, fun logged => absurd logged.1 Bool.false_ne_true⟩

/-- A user logs in. -/
theorem login_state_agreed_ann :
    (dialogueMachine [⟨bytes "ann", 5⟩]).Always Agreed { client := { input := bytes "Login ann\n" } }
      [{ steps := [({}, {})] }] := by
  refine (login_state_agreed_iff _ ?_ _ _).mpr fun next _ => ⟨?_, trivial⟩
  · simp [BalancesFit]
  · intro written rest wrote _
    have passed : ({ input := bytes "Login ann\n" } : ClientMain).pass =
        .wrote ⟨bytes "Login ann\n", bytes "Login", bytes "ann"⟩ [] := by decide +kernel
    obtain ⟨rfl, -⟩ := Pass.wrote.inj (passed.symm.trans wrote)
    refine ⟨⟨bytes "ann", by decide, by decide⟩, ?_⟩
    rintro world answers later ⟨⟩
    exact ⟨rfl, rfl⟩

/-- A Login without a name is answered with an error code, and the client believes that it is logged
in. -/
theorem namelessLogin_disagrees :
    ¬ (dialogueMachine []).Always Agreed { client := { input := bytes "Login\n" } }
      [{ steps := [({}, {})] }] := by
  intro always
  obtain ⟨last, ran, scene⟩ := Option.map_eq_some_iff.mp
    (by decide +kernel : ((dialogueMachine []).run { client := { input := bytes "Login\n" } }
      [{ steps := [({}, {})] }]).map (fun last =>
        (last.client.going, last.client.loggedIn, last.session.loggedIn)) = some (true, true, false))
  obtain ⟨going, logged⟩ := Prod.mk.inj scene
  obtain ⟨client, session⟩ := Prod.mk.inj logged
  have agreed := (always.last ran going).1
  rw [client, session] at agreed
  cases agreed

end AnimateService
