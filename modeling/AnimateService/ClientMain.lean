import Mathlib.Data.List.TakeWhile
import AnimateService.Handles

/-!
# The client program

`client_main.c`: a pass of the main loop up to the write of a request line, and the rest of the
pass after the reply. A pass that writes nothing reads nothing. Of what is printed only the balance
of the welcome is here; `display_rpc_response` has a module of its own.
-/
namespace AnimateService

/-- `MAX_INPUT_LEN`. -/
def maxInputLen : Nat := 4096

/-- `MAX_RESPONSE_LEN`. -/
def maxResponseLen : Nat := 4096

/-- The size of `command` in `main`. -/
def commandLen : Nat := 64

/-- The bytes up to the first newline and with it, but no more than a limit, and the bytes behind
them. -/
def takeLine : Nat → Bytes → Bytes × Bytes
  | 0, input => ([], input)
  | _ + 1, [] => ([], [])
  | limit + 1, byte :: rest =>
    if byte = 10 then ([byte], rest)
    else
      let (line, left) := takeLine limit rest
      (byte :: line, left)

/-- `fgets`: the bytes stored and what is left of the stream; `NULL` at its end. -/
def fgets (size : Nat) (input : Bytes) : Option (Bytes × Bytes) :=
  if input = [] then none else some (takeLine (size - 1) input)

/-- The loop over `getchar` that drops the rest of a line. -/
def dropLine (input : Bytes) : Bytes := (input.dropWhile (· ≠ 10)).drop 1

/-- `read_response_line` from a FIFO whose writer is open: the buffer and what is left in the
FIFO. -/
def readResponseLine (len : Nat) (fifo : Bytes) : Bytes × Bytes := takeLine (len - 1) fifo

/-- `strncpy` to an array of a size, whose last byte is set to NUL. -/
def copyText (size : Nat) (text : Bytes) : Bytes := (cString text).take (size - 1)

/-- `strip_newline`. -/
def stripNewline (text : Bytes) : Bytes :=
  (text.reverse.dropWhile fun byte => byte = 10 ∨ byte = 13).reverse

/-- `first_token` of a C string. -/
def firstToken (line : Bytes) (tokenLen : Nat) : Option Bytes :=
  let token := (line.dropWhile fun byte => byte = 32 ∨ byte = 9).takeWhile fun byte =>
    !isDelimiter byte
  if token = [] ∨ tokenLen ≤ token.length then none else some token

/-- `login_username`. -/
def loginUsername (line : Bytes) (usernameLen : Nat) : Option Bytes :=
  match strtok (copyText maxInputLen line) with
  | [tok, name] => if tok = bytes "Login" ∧ name.length < usernameLen then some name else none
  | _ => none

/-- `parse_integer_reply`. The end is compared with the start behind the blanks that follow the
number, so blanks without a number are 0. -/
def parseIntegerReply (response : Bytes) : Option Int :=
  let copy := stripNewline (copyText maxResponseLen response)
  let conversion := strtoll copy
  let rest := conversion.rest.dropWhile fun byte => byte = 32 ∨ byte = 9
  if ¬ conversion.outOfRange ∧ rest ≠ copy ∧ rest = [] then some conversion.value else none

/-- The variables of `main` that outlive a pass of its loop, with its standard input. -/
structure ClientMain where
  /-- What is left of the standard input. -/
  input : Bytes
  /-- `logged_in`. -/
  loggedIn : Bool := false
  /-- `sent_disconnect`. -/
  sentDisconnect : Bool := false
  /-- `current_username`. -/
  currentUsername : Bytes := []
  /-- The balance in the last welcome. -/
  announced : Option Int := none
  /-- The loop goes on. -/
  going : Bool := true
  deriving DecidableEq, Repr

/-- A request line that a pass writes, with the variables of the pass that are read after the
reply. -/
structure Written where
  /-- `input_buffer` as it is written. -/
  line : Bytes
  /-- `command`. -/
  command : Bytes
  /-- `login_name`. -/
  loginName : Bytes
  deriving DecidableEq, Repr

/-- How far a pass comes without the server. -/
inductive Pass where
  /-- The input is at its end. -/
  | ended
  /-- The line is rejected or skipped. -/
  | skipped (rest : Bytes)
  /-- The line is written. -/
  | wrote (written : Written) (rest : Bytes)
  deriving DecidableEq, Repr

/-- A pass with a line that ends in a newline. -/
def ClientMain.takeCommand (client : ClientMain) (line rest : Bytes) : Pass :=
  match firstToken line commandLen with
  | none => .skipped rest
  | some command =>
    if client.loggedIn = false ∧ command ≠ bytes "Login" ∧ command ≠ bytes "Disconnect" then
      .skipped rest
    else
      let loginName :=
        if command = bytes "Login" then (loginUsername line (maxUsernameLen + 1)).getD [] else []
      .wrote ⟨line, command, loginName⟩ rest

/-- A pass up to the write. A line that fills the buffer is dropped whole; one that ends in
another way gets a newline. -/
def ClientMain.pass (client : ClientMain) : Pass :=
  match fgets maxInputLen client.input with
  | none => .ended
  | some (buffer, rest) =>
    let line := cString buffer
    if line = [] then .skipped rest
    else if line.getLast? = some 10 then client.takeCommand line rest
    else if maxInputLen ≤ line.length + 1 then .skipped (dropLine rest)
    else client.takeCommand (line ++ [10]) rest

/-- The rest of a pass with the response buffer. -/
def ClientMain.processReply (client : ClientMain) (written : Written) (response : Bytes) :
    ClientMain :=
  if written.command = bytes "Login" then
    if (stripNewline (copyText maxResponseLen response)).take 6 = bytes "Reject" then
      { client with sentDisconnect := true, going := false }
    else
      match parseIntegerReply response with
      | some balance =>
        { client with
          loggedIn := true
          currentUsername := copyUsername written.loginName
          announced := some balance }
      | none => client
  else client

/-! ## What is read and written -/

/-- A line that is taken is the front of its input, and it has a newline at its end only. -/
theorem takeLine_spec (limit : Nat) (input : Bytes) :
    (takeLine limit input).1 ++ (takeLine limit input).2 = input ∧
      (takeLine limit input).1.length ≤ limit ∧
      ∀ body byte, (takeLine limit input).1 = body ++ [byte] → 10 ∉ body := by
  fun_induction takeLine limit input with
  | case1 input => exact ⟨rfl, Nat.le_refl 0, by simp⟩
  | case2 limit => exact ⟨rfl, Nat.zero_le _, by simp⟩
  | case3 limit rest =>
    refine ⟨rfl, by simp, fun body last same => ?_⟩
    obtain ⟨rfl, -⟩ := List.append_inj' (show [] ++ [(10 : UInt8)] = body ++ [last] from same) rfl
    exact List.not_mem_nil
  | case4 limit byte rest other line left taken ih =>
    rw [taken] at ih
    obtain ⟨joined, short, inside⟩ := ih
    refine ⟨congrArg (List.cons byte) joined, Nat.succ_le_succ short, fun body last same => ?_⟩
    cases body with
    | nil => exact List.not_mem_nil
    | cons first body =>
      have same : byte :: line = first :: (body ++ [last]) := same
      obtain ⟨rfl, later⟩ := List.cons.inj same
      rw [List.mem_cons, not_or]
      exact ⟨Ne.symm other, inside body last later⟩

/-- A line that fits is taken whole. -/
theorem takeLine_line {limit : Nat} {body : Bytes} (rest : Bytes) (one : 10 ∉ body)
    (short : body.length < limit) : takeLine limit (body ++ 10 :: rest) = (body ++ [10], rest) := by
  induction body generalizing limit with
  | nil =>
    cases limit with
    | zero => cases short
    | succ limit => rfl
  | cons byte body ih =>
    cases limit with
    | zero => cases short
    | succ limit =>
      rw [List.mem_cons, not_or] at one
      simp only [List.cons_append, takeLine, if_neg (Ne.symm one.1),
        ih one.2 (Nat.lt_of_succ_lt_succ short)]

/-- What a written line is: a C string that ends in its only newline and fits the buffer, whose
first token is the command. -/
structure Written.Formed (loggedIn : Bool) (written : Written) : Prop where
  /-- There is one newline, at the end. -/
  line_eq : ∃ body, written.line = body ++ [10] ∧ 10 ∉ body
  /-- There is no NUL. -/
  noNul : 0 ∉ written.line
  /-- It fits the buffer with its NUL. -/
  short : written.line.length < maxInputLen
  /-- The command is its first token. -/
  command : firstToken written.line commandLen = some written.command
  /-- The user of a Login. -/
  loginName : written.loginName =
    if written.command = bytes "Login" then
      (loginUsername written.line (maxUsernameLen + 1)).getD []
    else []
  /-- Without a login, there is only Login and Disconnect. -/
  allowed : loggedIn = true ∨ written.command = bytes "Login" ∨ written.command = bytes "Disconnect"

/-- The text of a C string is not cut. -/
theorem cString_eq {text : Bytes} (noNul : 0 ∉ text) : cString text = text := by
  unfold cString
  rw [List.takeWhile_eq_self_iff]
  intro byte member
  simp only [ne_eq, decide_eq_true_eq]
  rintro rfl
  exact noNul member

/-- No NUL is in a C string. -/
theorem cString_noNul (buffer : Bytes) : 0 ∉ cString buffer := by
  intro member
  have other := List.mem_takeWhile_imp member
  simp at other

/-- A C string is the front of its buffer. -/
theorem cString_front (buffer : Bytes) : ∃ rest, buffer = cString buffer ++ rest :=
  ⟨_, List.takeWhile_append_dropWhile.symm⟩

variable {client : ClientMain}

/-- What a pass writes is formed. -/
theorem takeCommand_formed {line rest left : Bytes} {written : Written}
    (took : client.takeCommand line rest = .wrote written left)
    (line_eq : ∃ body, line = body ++ [10] ∧ 10 ∉ body) (noNul : 0 ∉ line)
    (short : line.length < maxInputLen) : written.Formed client.loggedIn ∧ left = rest := by
  unfold ClientMain.takeCommand at took
  split at took
  · cases took
  · rename_i command token
    split at took
    · cases took
    · rename_i allowed
      cases took
      refine ⟨⟨line_eq, noNul, short, token, rfl, ?_⟩, rfl⟩
      cases logged : client.loggedIn with
      | true => exact .inl rfl
      | false =>
        by_cases login : command = bytes "Login"
        · exact .inr (.inl login)
        · by_cases disconnect : command = bytes "Disconnect"
          · exact .inr (.inr disconnect)
          · exact absurd ⟨logged, login, disconnect⟩ allowed

/-- Every pass writes what is formed. -/
theorem pass_formed {rest : Bytes} {written : Written} (passed : client.pass = .wrote written rest) :
    written.Formed client.loggedIn := by
  unfold ClientMain.pass at passed
  split at passed
  · cases passed
  · rename_i buffer left got
    unfold fgets at got
    split at got
    · cases got
    · obtain ⟨joined, short, one⟩ := takeLine_spec (maxInputLen - 1) client.input
      simp only [Option.some.injEq] at got
      rw [got] at short one
      replace short : buffer.length ≤ maxInputLen - 1 := short
      have noNul := cString_noNul buffer
      obtain ⟨behind, split_⟩ := cString_front buffer
      generalize cString buffer = line at *
      have fits : line.length ≤ maxInputLen - 1 := by
        have total := congrArg List.length split_
        simp only [List.length_append] at total
        omega
      -- a newline in the C string is the last byte of the buffer
      have last : ∀ body byte, line = body ++ [byte] → 10 ∉ body := by
        rintro body byte rfl inside
        rcases List.eq_nil_or_concat behind with rfl | ⟨front, final, rfl⟩
        · exact one body byte (by rw [split_, List.append_nil]) inside
        · refine one (body ++ [byte] ++ front) final (by rw [split_]; simp) ?_
          simp [inside]
      dsimp only at passed
      split at passed
      · cases passed
      · rename_i some_
        obtain ⟨body, byte, same⟩ : ∃ body byte, line = body ++ [byte] :=
          ⟨line.dropLast, line.getLast some_, (List.dropLast_concat_getLast some_).symm⟩
        split at passed
        · rename_i newline
          have ends : byte = 10 := by simpa [same] using newline
          subst ends
          exact (takeCommand_formed passed ⟨body, same, last body 10 same⟩ noNul
            (by simp only [maxInputLen] at *; omega)).1
        · rename_i open_
          split at passed
          · cases passed
          · rename_i room
            have other : byte ≠ 10 := by simpa [same] using open_
            refine (takeCommand_formed passed ⟨line, rfl, ?_⟩ ?_ ?_).1
            · rw [same, List.mem_append, not_or]
              exact ⟨last body byte same, by simpa using Ne.symm other⟩
            · simpa using noNul
            · rw [List.length_append]
              simp only [List.length_singleton]
              omega

end AnimateService
