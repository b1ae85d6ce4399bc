import Mathlib.Data.List.Induction
import AnimateService.ClientMain
import AnimateService.Library.Framing
import AnimateService.ParsedNumbers

/-!
# The users file

`auth_load` reads the file with `fgets` into 512 bytes, so what its loop takes for a line is a block
of a line of the file. `BlocksAgree` says when that makes no difference.
-/
namespace AnimateService

open Framing

/-- The size of `line` in `auth_load`. -/
def authLineLen : Nat := 512

/-- The bytes that one `fgets` of `auth_load` stores at most. -/
abbrev blockLen : Nat := authLineLen - 1

/-- `parse_balance`: an `int32_t`. -/
def parseBalance (text : Bytes) : Option Int :=
  let conversion := strtoll text
  if conversion.outOfRange ∨ ¬ conversion.converted ∨ conversion.rest ≠ [] ∨
      conversion.value < -(2 ^ 31) ∨ 2 ^ 31 - 1 < conversion.value then
    none
  else some conversion.value

/-- The user that the loop of `auth_load` adds for the text in its buffer. -/
def authUser (line : Bytes) : Option AuthUser :=
  match strtok (cString line) with
  | username :: balance :: _ =>
    if authValidUsername username then
      (parseBalance balance).map fun balance => ⟨username.take maxUsernameLen, balance⟩
    else none
  | _ => none

/-- The texts that `fgets` returns one after the other, up to a number of calls. -/
def fgetsAll (size : Nat) : Nat → Bytes → List Bytes
  | 0, _ => []
  | calls + 1, content =>
    match fgets size content with
    | some (line, rest) => line :: fgetsAll size calls rest
    | none => []

/-- The loop of `auth_load`; it gives up where it cannot allocate a user. -/
def addLines (memory : Nat → Bool) : List Bytes → AuthDb → Option AuthDb
  | [], db => some db
  | line :: rest, db =>
    match authUser line with
    | some user => if memory (db.length + 1) then addLines memory rest (user :: db) else none
    | none => addLines memory rest db

/-- `auth_load` of a file, or of none. Every call of `fgets` takes a byte. -/
def authLoad (memory : Nat → Bool) (file : Option Bytes) : Option AuthDb :=
  if memory 0 then
    match file with
    | some content => addLines memory (fgetsAll authLineLen content.length content) []
    | none => some []
  else none

/-- Each text with whether it begins a line: it is the first, or the one before ends in a newline. -/
def markStarts : Bool → List Bytes → List (Bool × Bytes)
  | _, [] => []
  | start, text :: rest => (start, text) :: markStarts (text.getLast? = some 10) rest

/-! ## What should be read -/

/-- A line names a user: its first token is a valid name and its second a decimal balance of 32
bits. -/
def NamesUser (line : Bytes) (user : AuthUser) : Prop :=
  ∃ balance rest negative magnitude, strtok line = user.username :: balance :: rest ∧
    authValidUsername user.username = true ∧ IsNumeral balance negative magnitude ∧
    user.balance = signedValue negative magnitude ∧
    -(2 ^ 31) ≤ user.balance ∧ user.balance ≤ 2 ^ 31 - 1

/-- The last line that names a user of a name gives it a balance. -/
def LastNames (lines : List Bytes) (name : Bytes) (balance : Int) : Prop :=
  ∃ before line after, lines = before ++ line :: after ∧ NamesUser line ⟨name, balance⟩ ∧
    ∀ later ∈ after, ∀ other, ¬ NamesUser later ⟨name, other⟩

/-- The users file is read line by line. -/
structure ReadByLine (content : Bytes) (db : AuthDb) : Prop where
  /-- The users are those that lines name. -/
  found : ∀ name, (∃ balance, authLookup db name = some balance) ↔
    ∃ line ∈ content.splitOn 10, ∃ balance, NamesUser line ⟨name, balance⟩
  /-- Their balance is that of the last line. -/
  balance : ∀ name balance, authLookup db name = some balance →
    LastNames (content.splitOn 10) name balance
  /-- A text that creates a user is at the start of a line. -/
  starts : ∀ entry ∈ markStarts true (fgetsAll authLineLen content.length content),
    (authUser entry.2).isSome = true → entry.1 = true

/-- The blocks of the lines make no difference: no block of a line behind its first one names a user,
and the first blocks name the same users and balances as the lines. -/
structure BlocksAgree (content : Bytes) : Prop where
  /-- No block of a line behind its first one creates a user. -/
  later : ∀ line ∈ content.splitOn 10,
    ∀ block ∈ fgetsAll authLineLen line.length (line.drop blockLen), authUser block = none
  /-- Cutting the lines behind their first blocks does not change whom they name last. -/
  first : ∀ name balance,
    LastNames ((content.splitOn 10).map fun line => line.take blockLen) name balance ↔
      LastNames (content.splitOn 10) name balance

/-! ## The blocks -/

/-- An end mark of a line. -/
abbrev isNewline (byte : UInt8) : Bool := byte = 10

/-- The blocks of a text. -/
def blocks (content : Bytes) : List Bytes :=
  (split isNewline blockLen [] content).1 ++
    if (split isNewline blockLen [] content).2 = [] then []
    else [(split isNewline blockLen [] content).2]

/-- A line that is taken is complete, or it is all there is. -/
theorem takeLine_complete {limit : Nat} (positive : 0 < limit) {input : Bytes}
    (some_ : input ≠ []) :
    Complete isNewline limit (takeLine limit input).1 ∨
      Begun isNewline limit (takeLine limit input).1 ∧ (takeLine limit input).2 = [] := by
  induction input generalizing limit with
  | nil => exact absurd rfl some_
  | cons byte rest ih =>
    obtain ⟨limit, rfl⟩ : ∃ below, limit = below + 1 := ⟨limit - 1, by omega⟩
    by_cases newline : byte = 10
    · subst newline
      refine .inl ⟨[], 10, rfl, begun_nil positive, .inl rfl⟩
    · simp only [takeLine, if_neg newline]
      rcases Nat.eq_zero_or_pos limit with rfl | more
      · refine .inl ⟨[], byte, rfl, begun_nil positive, .inr rfl⟩
      · by_cases ended : rest = []
        · subst ended
          obtain ⟨below, rfl⟩ : ∃ below, limit = below + 1 := ⟨limit - 1, by omega⟩
          refine .inr ⟨⟨?_, by simp [takeLine]⟩, rfl⟩
          intro other member
          rw [List.mem_singleton.mp member]
          exact decide_eq_false newline
        · rcases ih more ended with complete | ⟨begun, all⟩
          · obtain ⟨front, last, same, begun, ends⟩ := complete.ends
            refine .inl ⟨byte :: front, last, by simp [same], ⟨?_, ?_⟩, ?_⟩
            · intro other member
              rcases List.mem_cons.mp member with rfl | later
              · exact decide_eq_false newline
              · exact begun.plain other later
            · exact Nat.succ_lt_succ begun.short
            · exact ends.imp id fun full => congrArg (· + 1) full
          · refine .inr ⟨⟨?_, Nat.succ_lt_succ begun.short⟩, all⟩
            intro other member
            rcases List.mem_cons.mp member with rfl | later
            · exact decide_eq_false newline
            · exact begun.plain other later

/-- An empty text has no blocks. -/
@[simp] theorem blocks_nil : blocks [] = [] := rfl

/-- A frame is the first block of what it begins. -/
theorem blocks_of_complete {line : Bytes} (complete : Complete isNewline blockLen line)
    (rest : Bytes) : blocks (line ++ rest) = line :: blocks rest := by
  simp only [blocks, split_of_complete complete, List.cons_append]

/-- A text below the limit without a newline is its only block. -/
theorem blocks_of_begun {line : Bytes} (begun : Begun isNewline blockLen line) :
    blocks line = if line = [] then [] else [line] := by
  simp only [blocks, @split_of_begun _ _ _ [] _ begun, List.nil_append]

/-- The calls of `fgets` return the blocks. -/
theorem fgetsAll_eq {calls : Nat} {content : Bytes} (enough : content.length ≤ calls) :
    fgetsAll authLineLen calls content = blocks content := by
  induction calls generalizing content with
  | zero =>
    obtain rfl := List.length_eq_zero_iff.mp (Nat.le_zero.mp enough)
    rfl
  | succ calls ih =>
    by_cases ended : content = []
    · subst ended
      rfl
    · have taken : fgets authLineLen content = some (takeLine blockLen content) := if_neg ended
      obtain ⟨whole, -, -⟩ := takeLine_spec blockLen content
      have shape := @takeLine_complete blockLen (by decide) _ ended
      simp only [fgetsAll, taken]
      generalize takeLine blockLen content = read at whole shape ⊢
      obtain ⟨line, rest⟩ := read
      dsimp only at whole shape ⊢
      subst whole
      rw [List.length_append] at enough
      rcases shape with complete | ⟨begun, rfl⟩
      · obtain ⟨front, last, same, -⟩ := complete.ends
        have more : 0 < line.length := by simp [same]
        rw [blocks_of_complete complete, ih (by omega)]
      · rw [List.append_nil] at ended ⊢
        rw [blocks_of_begun begun, if_neg ended, ih (Nat.zero_le _)]
        rfl

/-! ## The users of a block -/

/-- A newline at the end of a text ends no token but the last. -/
theorem tokensFrom_newline (text current : Bytes) :
    tokensFrom (text ++ [10]) current = tokensFrom text current := by
  induction text generalizing current with
  | nil => cases current <;> rfl
  | cons byte text ih =>
    simp only [List.cons_append, tokensFrom]
    split
    · cases current <;> simp [ih]
    · exact ih _

/-- A newline at the end of a text does not change the user that it names. -/
theorem authUser_newline {line : Bytes} (noNul : 0 ∉ line) :
    authUser (line ++ [10]) = authUser line := by
  have both : 0 ∉ line ++ [10] := by simp [noNul]
  rw [authUser, authUser, cString_eq noNul, cString_eq both, strtok, strtok, tokensFrom_newline]

/-- `parse_balance` accepts the decimal numerals of 32 bits. -/
theorem parseBalance_some {text : Bytes} {balance : Int} :
    parseBalance text = some balance ↔ ∃ negative magnitude, IsNumeral text negative magnitude ∧
      balance = signedValue negative magnitude ∧ -(2 ^ 31) ≤ balance ∧ balance ≤ 2 ^ 31 - 1 := by
  constructor
  · intro accepted
    simp only [parseBalance] at accepted
    split at accepted
    · cases accepted
    · rename_i passed
      simp only [not_or, not_not, Bool.not_eq_true, not_lt] at passed
      obtain ⟨inRange, converted, whole, low, high⟩ := passed
      obtain ⟨negative, magnitude, numeral, below, above⟩ :=
        strtoll_accepts.mp ⟨inRange, by simpa using converted, whole⟩
      obtain rfl := Option.some.inj accepted
      exact ⟨negative, magnitude, numeral, numeral.strtoll_value below above, low, high⟩
  · rintro ⟨negative, magnitude, numeral, rfl, low, high⟩
    have inside : -(2 ^ 63) ≤ signedValue negative magnitude ∧
        signedValue negative magnitude < 2 ^ 63 := by omega
    have read : strtoll text = ⟨signedValue negative magnitude, false, true, []⟩ := by
      rw [numeral.strtoll, if_pos inside]
    have small : ¬ signedValue negative magnitude < -(2 ^ 31) := by omega
    have large : ¬ 2 ^ 31 - 1 < signedValue negative magnitude := by omega
    simp only [parseBalance, read, small, large, not_true, ne_eq, or_self, Bool.false_eq_true,
      ↓reduceIte]

/-- The loop adds the user that the text names. -/
theorem authUser_some {line : Bytes} (noNul : 0 ∉ line) {user : AuthUser} :
    authUser line = some user ↔ NamesUser line user := by
  unfold authUser NamesUser
  rw [cString_eq noNul]
  cases tokens : strtok line with
  | nil => simp
  | cons username rest =>
    cases rest with
    | nil => simp
    | cons balance rest =>
      dsimp only
      by_cases valid : authValidUsername username = true
      · have short : username.take maxUsernameLen = username :=
          List.take_of_length_le (authValidUsername_length valid)
        rw [if_pos valid, Option.map_eq_some_iff, short]
        constructor
        · rintro ⟨value, parsed, rfl⟩
          obtain ⟨negative, magnitude, numeral, denoted, low, high⟩ := parseBalance_some.mp parsed
          exact ⟨balance, rest, negative, magnitude, rfl, valid, numeral, denoted, low, high⟩
        · rintro ⟨second, others, negative, magnitude, same, -, numeral, denoted, low, high⟩
          obtain ⟨rfl, later⟩ := List.cons.inj same
          obtain ⟨rfl, -⟩ := List.cons.inj later
          exact ⟨user.balance, parseBalance_some.mpr
            ⟨negative, magnitude, numeral, denoted, low, high⟩, rfl⟩
      · rw [if_neg valid]
        refine ⟨fun none_ => (by cases none_), ?_⟩
        rintro ⟨_, _, _, _, same, named, -⟩
        rw [← (List.cons.inj same).1] at named
        exact absurd named valid

/-! ## The blocks of a line -/

/-- Text behind a newline is cut apart from what is before it. -/
theorem line_induction {motive : Bytes → Prop} (last : ∀ line, 10 ∉ line → motive line)
    (line : ∀ line rest, 10 ∉ line → motive rest → motive (line ++ 10 :: rest))
    (content : Bytes) : motive content := by
  induction bound : content.length using Nat.strongRecOn generalizing content with
  | ind size ih =>
    by_cases newline : 10 ∈ content
    · obtain ⟨front, rest, rfl, plain⟩ := List.eq_append_cons_of_mem newline
      have smaller : rest.length < size := by
        rw [← bound, List.length_append, List.length_cons]
        omega
      exact line front rest plain (ih rest.length smaller rest rfl)
    · exact last content newline

/-- A line that is long enough begins with a full block. -/
theorem complete_take {line : Bytes} (plain : 10 ∉ line) (long : blockLen ≤ line.length) :
    Complete isNewline blockLen (line.take blockLen) := by
  have full : (line.take blockLen).length = blockLen := by
    rw [List.length_take]
    omega
  obtain ⟨front, last, same⟩ : ∃ front last, line.take blockLen = front ++ [last] := by
    have more : line.take blockLen ≠ [] := by
      intro empty
      rw [empty] at full
      cases full
    exact ⟨_, _, (List.dropLast_concat_getLast more).symm⟩
  refine ⟨front, last, same, ⟨fun byte member => ?_, ?_⟩, .inr full⟩
  · refine decide_eq_false fun newline => plain ?_
    rw [← newline]
    refine List.mem_of_mem_take (i := blockLen) ?_
    rw [same]
    exact List.mem_append_left _ member
  · rw [same, List.length_append, List.length_singleton] at full
    omega

/-- A line that is shorter has not come to an end. -/
theorem begun_line {line : Bytes} (plain : 10 ∉ line) (short : line.length < blockLen) :
    Begun isNewline blockLen line :=
  ⟨fun _ member => decide_eq_false fun same => plain (same ▸ member), short⟩

/-- The blocks of a line are its first one and those of what is behind it. -/
theorem blocks_line {line : Bytes} (plain : 10 ∉ line) (some_ : line ≠ []) :
    blocks line = line.take blockLen :: blocks (line.drop blockLen) := by
  by_cases short : line.length < blockLen
  · rw [blocks_of_begun (begun_line plain short), if_neg some_,
      List.take_of_length_le (Nat.le_of_lt short), List.drop_of_length_le (Nat.le_of_lt short),
      blocks_nil]
  · rw [← blocks_of_complete (complete_take plain (Nat.le_of_not_lt short)),
      List.take_append_drop]

/-- The blocks of a line with its newline: it stands behind the last one. -/
def lineBlocks (line : Bytes) : List Bytes :=
  (split isNewline blockLen [] line).1 ++ [(split isNewline blockLen [] line).2 ++ [10]]

/-- The blocks of a line are followed by those of the next lines. -/
theorem blocks_append_line {line : Bytes} (rest : Bytes) :
    blocks (line ++ 10 :: rest) = lineBlocks line ++ blocks rest := by
  have newline : split isNewline blockLen (split isNewline blockLen [] line).2 (10 :: rest) =
      (((split isNewline blockLen [] line).2 ++ [10]) :: (split isNewline blockLen [] rest).1,
        (split isNewline blockLen [] rest).2) := rfl
  simp only [blocks, lineBlocks, split_append, newline, List.append_assoc, List.cons_append,
    List.nil_append]

/-- They name the users that the blocks of the line name. -/
theorem filterMap_lineBlocks {line : Bytes} (noNul : 0 ∉ line) :
    (lineBlocks line).filterMap authUser = (blocks line).filterMap authUser := by
  have whole := @split_flatten _ isNewline blockLen [] line
  have left : 0 ∉ (split isNewline blockLen [] line).2 := by
    intro member
    refine noNul ?_
    rw [List.nil_append] at whole
    rw [← whole]
    exact List.mem_append_right _ member
  have last : authUser ((split isNewline blockLen [] line).2 ++ [10]) =
      authUser (split isNewline blockLen [] line).2 := authUser_newline left
  simp only [lineBlocks, blocks, List.filterMap_append]
  split
  · rename_i none_
    rw [none_]
    rfl
  · simp only [List.filterMap_cons, List.filterMap_nil, last]

/-! ## The users of a file -/

/-- The users that the loop adds, in the order of the file. -/
def usersOf (texts : List Bytes) : List AuthUser := texts.filterMap authUser

/-- The loop adds a user for each text that names one. -/
theorem addLines_eq (texts : List Bytes) (db : AuthDb) :
    addLines (fun _ => true) texts db = some ((usersOf texts).reverse ++ db) := by
  induction texts generalizing db with
  | nil => rfl
  | cons text texts ih =>
    simp only [addLines, usersOf, List.filterMap_cons]
    cases authUser text with
    | none => exact ih db
    | some user =>
      have added : ((user :: usersOf texts).reverse ++ db : AuthDb) =
          (usersOf texts).reverse ++ (user :: db) := by simp
      exact (ih (user :: db)).trans (congrArg some added.symm)

/-- The users of a file are those of its lines, block by block. -/
theorem usersOf_blocks (content : Bytes) (noNul : 0 ∉ content) :
    usersOf (blocks content) =
      (content.splitOn 10).flatMap fun line => usersOf (blocks line) := by
  induction content using line_induction with
  | last line plain => rw [List.splitOn_eq_singleton plain, List.flatMap_singleton]
  | line line rest plain ih =>
    simp only [List.mem_append, List.mem_cons, not_or] at noNul
    rw [List.splitOn_append_cons_self_of_not_mem plain, List.flatMap_cons, ← ih noNul.2.2,
      blocks_append_line, usersOf, List.filterMap_append, filterMap_lineBlocks noNul.1]
    rfl

/-- The users of a line are the one of its first block and those of the others. -/
theorem usersOf_line {line : Bytes} (plain : 10 ∉ line) :
    usersOf (blocks line) =
      usersOf [line.take blockLen] ++ usersOf (blocks (line.drop blockLen)) := by
  by_cases some_ : line = []
  · subst some_
    rfl
  · rw [blocks_line plain some_]
    exact List.filterMap_append (l := [line.take blockLen])

/-- The last text of a list comes first. -/
theorem lastNames_concat {texts : List Bytes} {text name : Bytes} {balance : Int} :
    LastNames (texts ++ [text]) name balance ↔ NamesUser text ⟨name, balance⟩ ∨
      (∀ other, ¬ NamesUser text ⟨name, other⟩) ∧ LastNames texts name balance := by
  constructor
  · rintro ⟨before, line, after, same, names, silent⟩
    rcases List.eq_nil_or_concat after with rfl | ⟨front, last, rfl⟩
    · obtain ⟨-, one⟩ := List.append_inj' same rfl
      rw [(List.cons.inj one).1]
      exact .inl names
    · rw [List.concat_eq_append, ← List.cons_append, ← List.append_assoc] at same
      obtain ⟨rfl, one⟩ := List.append_inj' same rfl
      obtain rfl := (List.cons.inj one).1
      refine .inr ⟨silent text (by simp), before, line, front, rfl, names, ?_⟩
      exact fun later member => silent later (by simp [member])
  · rintro (names | ⟨silent, before, line, after, rfl, names, others⟩)
    · exact ⟨texts, text, [], rfl, names, by simp⟩
    · refine ⟨before, line, after ++ [text], by simp, names, fun later member => ?_⟩
      rcases List.mem_append.mp member with old | new
      · exact others later old
      · rw [List.mem_singleton.mp new]
        exact silent

/-- A lookup finds the last text that names the user. -/
theorem authLookup_usersOf {texts : List Bytes} (noNul : ∀ text ∈ texts, 0 ∉ text) (name : Bytes)
    (balance : Int) :
    authLookup (usersOf texts).reverse name = some balance ↔ LastNames texts name balance := by
  induction texts using List.reverseRecOn with
  | nil =>
    refine ⟨fun found => (by cases found), ?_⟩
    rintro ⟨before, line, after, same, -⟩
    simp at same
  | append_singleton texts text ih =>
    have clean := noNul text (by simp)
    have ih := ih fun other member => noNul other (by simp [member])
    have users : (usersOf (texts ++ [text])).reverse =
        (authUser text).toList ++ (usersOf texts).reverse := by
      rw [usersOf, List.filterMap_append, List.reverse_append]
      cases added : authUser text <;> simp [added, usersOf]
    rw [lastNames_concat, ← ih, users]
    cases added : authUser text with
    | none =>
      have silent : ∀ user, ¬ NamesUser text user := by
        intro user names
        rw [(authUser_some clean).mpr names] at added
        cases added
      constructor
      · exact fun found => .inr ⟨fun other => silent ⟨name, other⟩, found⟩
      · rintro (names | ⟨-, found⟩)
        · exact absurd names (silent _)
        · exact found
    | some user =>
      have names := (authUser_some clean).mp added
      have only : ∀ other, NamesUser text other → other = user := by
        intro other named
        rw [(authUser_some clean).mpr named] at added
        exact Option.some.inj added
      by_cases same : user.username = name
      · have found : authLookup ((some user).toList ++ (usersOf texts).reverse) name =
            some user.balance := by simp [authLookup, same]
        rw [found]
        constructor
        · intro balance_eq
          obtain rfl := Option.some.inj balance_eq
          subst same
          exact .inl names
        · rintro (named | ⟨silent, -⟩)
          · rw [← only _ named]
          · subst same
            exact absurd names (silent user.balance)
      · have found : authLookup ((some user).toList ++ (usersOf texts).reverse) name =
            authLookup (usersOf texts).reverse name := by simp [authLookup, same]
        rw [found]
        constructor
        · intro later
          refine .inr ⟨fun other named => same ?_, later⟩
          rw [← only _ named]
        · rintro (named | ⟨-, later⟩)
          · refine absurd ?_ same
            rw [← only _ named]
          · exact later

/-! ## Where the users begin -/

/-- The marked texts are the texts. -/
theorem markStarts_snd (start : Bool) (texts : List Bytes) :
    (markStarts start texts).map Prod.snd = texts := by
  induction texts generalizing start with
  | nil => rfl
  | cons text texts ih => simp only [markStarts, List.map_cons, ih]

/-- The marks of one list of texts, and those of the next. -/
theorem markStarts_append (start : Bool) (init : List Bytes) (last : Bytes) (back : List Bytes) :
    markStarts start ((init ++ [last]) ++ back) =
      markStarts start (init ++ [last]) ++ markStarts (last.getLast? = some 10) back := by
  induction init generalizing start with
  | nil => rfl
  | cons text init ih =>
    simp only [List.cons_append, markStarts]
    rw [ih]

/-- Every text that creates a user begins a line. -/
def Starts (marked : List (Bool × Bytes)) : Prop :=
  ∀ entry ∈ marked, (authUser entry.2).isSome = true → entry.1 = true

/-- Texts of which none begins a line must not create a user. -/
theorem starts_iff {marked : List (Bool × Bytes)} (inside : ∀ entry ∈ marked, entry.1 = false) :
    Starts marked ↔ usersOf (marked.map Prod.snd) = [] := by
  rw [usersOf, List.filterMap_map, List.filterMap_eq_nil_iff]
  refine forall₂_congr fun entry member => ?_
  rw [inside entry member, Function.comp_apply]
  simp

/-- Texts behind texts without a newline begin no line, whatever the last one ends in. -/
theorem markStarts_inside {texts : List Bytes} (plain : ∀ text ∈ texts, 10 ∉ text)
    (last : Option Bytes) : ∀ entry ∈ markStarts false (texts ++ last.toList), entry.1 = false := by
  induction texts with
  | nil => cases last <;> simp [markStarts]
  | cons text texts ih =>
    have ended : decide (text.getLast? = some 10) = false :=
      decide_eq_false fun same => plain text List.mem_cons_self (List.mem_of_getLast? same)
    rw [List.cons_append, markStarts, ended]
    intro entry member
    rcases List.mem_cons.mp member with rfl | later
    · rfl
    · exact ih (fun other inside => plain other (List.mem_cons_of_mem text inside)) entry later

/-- The full blocks of a line have no newline. -/
theorem frames_plain {line : Bytes} (plain : 10 ∉ line) :
    ∀ frame ∈ (split isNewline blockLen [] line).1, 10 ∉ frame := by
  intro frame member inside
  have whole := @split_flatten _ isNewline blockLen [] line
  rw [List.nil_append] at whole
  refine plain ?_
  rw [← whole]
  exact List.mem_append_left _ (List.mem_flatten.mpr ⟨frame, member, inside⟩)

/-- The first block of a line does not end in a newline, if there are others. -/
theorem take_getLast {line : Bytes} (plain : 10 ∉ line) :
    (line.take blockLen).getLast? ≠ some 10 :=
  fun same => plain (List.mem_of_mem_take (List.mem_of_getLast? same))

/-- The blocks of a line are its first one and others, which name the users of what is behind the
first one. -/
theorem lineBlocks_eq {line : Bytes} (plain : 10 ∉ line) (noNul : 0 ∉ line) :
    ∃ first others, lineBlocks line = first :: others ∧
      (others ≠ [] → first.getLast? ≠ some 10) ∧
      usersOf others = usersOf (blocks (line.drop blockLen)) ∧
      ∀ entry ∈ markStarts false others, entry.1 = false := by
  by_cases short : line.length < blockLen
  · refine ⟨line ++ [10], [], ?_, fun more => absurd rfl more, ?_, by simp [markStarts]⟩
    · rw [lineBlocks, @split_of_begun _ _ _ [] _ (begun_line plain short)]
      rfl
    · rw [List.drop_of_length_le (Nat.le_of_lt short)]
      rfl
  · have full := complete_take plain (Nat.le_of_not_lt short)
    have rest : 10 ∉ line.drop blockLen := fun inside => plain (List.mem_of_mem_drop inside)
    refine ⟨line.take blockLen, lineBlocks (line.drop blockLen), ?_, fun _ => take_getLast plain,
      ?_, ?_⟩
    · have cut := split_of_complete full (line.drop blockLen)
      rw [List.take_append_drop] at cut
      rw [lineBlocks, cut]
      rfl
    · exact filterMap_lineBlocks fun inside => noNul (List.mem_of_mem_drop inside)
    · exact markStarts_inside (frames_plain rest) (some _)

/-- A first text may create a user; the others must not. -/
theorem starts_cons {first : Bytes} {others : List Bytes}
    (ended : others ≠ [] → first.getLast? ≠ some 10)
    (inside : ∀ entry ∈ markStarts false others, entry.1 = false) :
    Starts (markStarts true (first :: others)) ↔ usersOf others = [] := by
  have marked : markStarts true (first :: others) = (true, first) :: markStarts false others := by
    rw [markStarts]
    by_cases none_ : others = []
    · subst none_
      rfl
    · rw [decide_eq_false (ended none_)]
  have rest := starts_iff inside
  rw [markStarts_snd] at rest
  rw [marked, ← rest]
  constructor
  · exact fun starts entry member => starts entry (List.mem_cons_of_mem _ member)
  · intro starts entry member
    rcases List.mem_cons.mp member with rfl | later
    · exact fun _ => rfl
    · exact starts entry later

/-- In the last line of a file, only the first block may create a user. -/
theorem starts_last {line : Bytes} (plain : 10 ∉ line) :
    Starts (markStarts true (blocks line)) ↔ usersOf (blocks (line.drop blockLen)) = [] := by
  by_cases some_ : line = []
  · subst some_
    simp [Starts, markStarts, usersOf]
  · rw [blocks_line plain some_]
    refine starts_cons (fun _ => take_getLast plain) ?_
    have rest : 10 ∉ line.drop blockLen := fun inside => plain (List.mem_of_mem_drop inside)
    generalize line.drop blockLen = behind at rest ⊢
    have inside := markStarts_inside (frames_plain rest)
      (if (split isNewline blockLen [] behind).2 = [] then none
        else some (split isNewline blockLen [] behind).2)
    rw [blocks]
    split
    · rename_i none_
      rwa [if_pos none_] at inside
    · rename_i more
      rwa [if_neg more] at inside

/-- The first line of several starts new lines where it should if only its first block has users, and
the others do. -/
theorem starts_line {line : Bytes} (plain : 10 ∉ line) (noNul : 0 ∉ line) (rest : List Bytes) :
    Starts (markStarts true (lineBlocks line ++ rest)) ↔
      usersOf (blocks (line.drop blockLen)) = [] ∧ Starts (markStarts true rest) := by
  obtain ⟨first, others, same, ended, users, inside⟩ := lineBlocks_eq plain noNul
  have marked : markStarts true (lineBlocks line ++ rest) =
      markStarts true (lineBlocks line) ++ markStarts true rest := by
    have newline : ((split isNewline blockLen [] line).2 ++ [(10 : UInt8)]).getLast? = some 10 := by
      simp
    rw [lineBlocks, markStarts_append, newline]
    rfl
  have front := starts_cons ended inside
  rw [marked, ← users, ← front, ← same]
  constructor
  · exact fun starts => ⟨fun entry member => starts entry (List.mem_append_left _ member),
      fun entry member => starts entry (List.mem_append_right _ member)⟩
  · rintro ⟨here, there⟩ entry member
    rcases List.mem_append.mp member with front | back
    · exact here entry front
    · exact there entry back

/-- In a file, only the first blocks of its lines may create users. -/
theorem starts_content {content : Bytes} (noNul : 0 ∉ content) :
    Starts (markStarts true (blocks content)) ↔
      ∀ line ∈ content.splitOn 10, usersOf (blocks (line.drop blockLen)) = [] := by
  induction content using line_induction with
  | last line plain =>
    rw [List.splitOn_eq_singleton plain, starts_last plain]
    simp
  | line line rest plain ih =>
    simp only [List.mem_append, List.mem_cons, not_or] at noNul
    rw [List.splitOn_append_cons_self_of_not_mem plain, blocks_append_line,
      starts_line plain noNul.1, ih noNul.2.2]
    simp

/-! ## The file and its lines -/

/-- The lines of a file have no newline, and no NUL if the file has none. -/
theorem mem_lines {content line : Bytes} (member : line ∈ content.splitOn 10) :
    10 ∉ line ∧ (0 ∉ content → 0 ∉ line) := by
  induction content using line_induction with
  | last whole plain =>
    rw [List.splitOn_eq_singleton plain, List.mem_singleton] at member
    subst member
    exact ⟨plain, id⟩
  | line first rest plain ih =>
    rw [List.splitOn_append_cons_self_of_not_mem plain] at member
    rcases List.mem_cons.mp member with rfl | later
    · exact ⟨plain, fun noNul inside => noNul (List.mem_append_left _ inside)⟩
    · obtain ⟨one, clean⟩ := ih later
      exact ⟨one, fun noNul => clean fun inside =>
        noNul (List.mem_append_right _ (List.mem_cons_of_mem _ inside))⟩

/-- If the blocks behind the first ones name nobody, the users are those of the first blocks. -/
theorem usersOf_first {content : Bytes} (noNul : 0 ∉ content)
    (later : ∀ line ∈ content.splitOn 10, usersOf (blocks (line.drop blockLen)) = []) :
    usersOf (blocks content) =
      usersOf ((content.splitOn 10).map fun line => line.take blockLen) := by
  rw [usersOf_blocks content noNul]
  have each : ∀ line ∈ content.splitOn 10,
      usersOf (blocks line) = usersOf [line.take blockLen] := by
    intro line member
    rw [usersOf_line (mem_lines member).1, later line member, List.append_nil]
  generalize content.splitOn 10 = lines at each
  induction lines with
  | nil => rfl
  | cons line lines ih =>
    rw [List.flatMap_cons, each line List.mem_cons_self,
      ih fun other member => each other (List.mem_cons_of_mem line member)]
    exact (List.filterMap_append (l := [line.take blockLen])).symm

/-- A name that a text names has a last one. -/
theorem exists_lastNames {texts : List Bytes} {name : Bytes} :
    (∃ balance, LastNames texts name balance) ↔
      ∃ text ∈ texts, ∃ balance, NamesUser text ⟨name, balance⟩ := by
  constructor
  · rintro ⟨balance, before, line, after, rfl, names, -⟩
    exact ⟨line, by simp, balance, names⟩
  · induction texts using List.reverseRecOn with
    | nil => simp
    | append_singleton texts text ih =>
      rintro ⟨line, member, balance, names⟩
      by_cases last : ∃ other, NamesUser text ⟨name, other⟩
      · obtain ⟨other, named⟩ := last
        exact ⟨other, lastNames_concat.mpr (.inl named)⟩
      · have silent : ∀ other, ¬ NamesUser text ⟨name, other⟩ := fun other named =>
          last ⟨other, named⟩
        rcases List.mem_append.mp member with old | new
        · obtain ⟨earlier, found⟩ := ih ⟨line, old, balance, names⟩
          exact ⟨earlier, lastNames_concat.mpr (.inr ⟨silent, found⟩)⟩
        · rw [List.mem_singleton.mp new] at names
          exact absurd names (silent balance)

/-- A last balance is the only one. -/
theorem LastNames.unique {texts : List Bytes} (noNul : ∀ text ∈ texts, 0 ∉ text) {name : Bytes}
    {balance other : Int} (first : LastNames texts name balance)
    (second : LastNames texts name other) : balance = other := by
  rw [← authLookup_usersOf noNul] at first second
  exact Option.some.inj (first.symm.trans second)

/-- The blocks behind the first one of a line, as the calls of `fgets` return them. -/
theorem later_iff (line : Bytes) :
    (∀ block ∈ fgetsAll authLineLen line.length (line.drop blockLen), authUser block = none) ↔
      usersOf (blocks (line.drop blockLen)) = [] := by
  rw [fgetsAll_eq (by rw [List.length_drop]; omega), usersOf, List.filterMap_eq_nil_iff]

/-- The users file is read line by line, if no allocation fails, exactly if the blocks of its lines
make no difference. -/
theorem users_read_by_line_iff (content : Bytes) (noNul : 0 ∉ content) :
    ∃ db, authLoad (fun _ => true) (some content) = some db ∧
      (ReadByLine content db ↔ BlocksAgree content) := by
  have clean : ∀ line ∈ content.splitOn 10, 0 ∉ line := fun line member =>
    (mem_lines member).2 noNul
  have cleanFirst : ∀ block ∈ (content.splitOn 10).map (fun line => line.take blockLen),
      0 ∉ block := by
    intro block member inside
    obtain ⟨line, there, rfl⟩ := List.mem_map.mp member
    exact clean line there (List.mem_of_mem_take inside)
  have pieces := fgetsAll_eq (Nat.le_refl content.length)
  refine ⟨(usersOf (blocks content)).reverse, ?_, ?_⟩
  · simp only [authLoad, ↓reduceIte, pieces, addLines_eq, List.append_nil]
  · constructor
    · intro read
      have starts := read.starts
      rw [pieces] at starts
      have later := (starts_content noNul).mp starts
      have looked := authLookup_usersOf cleanFirst
      rw [← usersOf_first noNul later] at looked
      refine ⟨fun line member => (later_iff line).mpr (later line member), fun name balance => ?_⟩
      rw [← looked]
      refine ⟨read.balance name balance, fun last => ?_⟩
      obtain ⟨other, found⟩ := (read.found name).mpr (exists_lastNames.mp ⟨balance, last⟩)
      rw [last.unique clean (read.balance name other found)]
      exact found
    · intro agree
      have later : ∀ line ∈ content.splitOn 10, usersOf (blocks (line.drop blockLen)) = [] :=
        fun line member => (later_iff line).mp (agree.later line member)
      have looked : ∀ name balance,
          authLookup (usersOf (blocks content)).reverse name = some balance ↔
            LastNames (content.splitOn 10) name balance := by
        intro name balance
        rw [usersOf_first noNul later, authLookup_usersOf cleanFirst, agree.first]
      refine ⟨fun name => ?_, fun name balance => (looked name balance).mp, ?_⟩
      · rw [← exists_lastNames]
        exact exists_congr fun balance => looked name balance
      · rw [pieces]
        exact (starts_content noNul).mpr later

/-- The blocks of lines of at most 511 bytes make no difference. -/
theorem blocksAgree_of_short {content : Bytes}
    (short : ∀ line ∈ content.splitOn 10, line.length ≤ blockLen) : BlocksAgree content where
  later line member := by
    rw [later_iff, List.drop_of_length_le (short line member)]
    rfl
  first name balance := by
    have same : (content.splitOn 10).map (fun line => line.take blockLen) =
        (content.splitOn 10).map id :=
      List.map_congr_left fun line member => List.take_of_length_le (short line member)
    rw [same, List.map_id]

/-- Two lines, the second without its newline. -/
def unterminatedFile : Bytes := bytes "ann 5\nbob 7"

/-- They are read line by line. -/
theorem users_read_by_line_unterminated : ∃ db, authLoad (fun _ => true) (some unterminatedFile) = some db ∧
    ReadByLine unterminatedFile db := by
  obtain ⟨db, loaded, exactly⟩ := users_read_by_line_iff unterminatedFile (by decide)
  exact ⟨db, loaded, exactly.mpr (blocksAgree_of_short (by decide))⟩

/-- A line of 517 bytes with its newline, whose user is `rootann`. -/
def longLine : Bytes := List.replicate 507 32 ++ bytes "rootann 5\n"

/-- A user `ann` is created from the middle of the line. -/
theorem longLine_creates : ∃ db, authLoad (fun _ => true) (some longLine) = some db ∧
    authLookup db (bytes "ann") = some 5 ∧ ¬ ReadByLine longLine db := by
  refine ⟨[⟨bytes "ann", 5⟩], by decide +kernel, by decide, fun read => ?_⟩
  have start := read.starts (false, bytes "ann 5\n") (by decide +kernel) (by decide)
  cases start

end AnimateService
