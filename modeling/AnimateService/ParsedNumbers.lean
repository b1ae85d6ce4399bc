import AnimateService.Numerals
import AnimateService.Request

/-!
# Numbers in requests and on the command line

Which integer a text denotes, and which one the parsers store for it. The unsigned parsers look for
a minus sign at the first byte only, while `strtoull` skips white space before it; the client casts
the `long` that it parsed to a `pid_t`.
-/
namespace AnimateService

/-- `parse_arguments` of the client: the PID of the server. The cast keeps the low 32 bits. -/
def clientParseArguments : List Bytes → Option Int
  | [_, text] =>
    let conversion := strtoll text
    if conversion.outOfRange ∨ ¬ conversion.converted ∨ conversion.rest ≠ [] ∨
        conversion.value < 1 then
      none
    else some (conversion.value.bmod (2 ^ 32))
  | _ => none

/-- A text is a numeral: white space, a sign or none, and digits. -/
structure IsNumeral (text : Bytes) (negative : Bool) (magnitude : Nat) : Prop where
  /-- Its parts. -/
  parts : ∃ spaces sign digits, text = spaces ++ (sign ++ digits) ∧
    (∀ byte ∈ spaces, isSpace byte = true) ∧
    (negative = true ∧ sign = [45] ∨ negative = false ∧ (sign = [43] ∨ sign = [])) ∧
    digits ≠ [] ∧ (∀ byte ∈ digits, isDigit byte = true) ∧ digitsValue digits = magnitude

/-- The integer that a numeral denotes. -/
def signedValue (negative : Bool) (magnitude : Nat) : Int :=
  if negative then -magnitude else magnitude

@[simp] theorem signedValue_true (magnitude : Nat) : signedValue true magnitude = -magnitude := rfl

@[simp] theorem signedValue_false (magnitude : Nat) : signedValue false magnitude = magnitude := rfl

/-- A parser of integers in a range rejects a text or stores the integer that it denotes, which is in
the range; without a sign, for an unsigned parser. -/
def StoresDenoted (parse : Bytes → Option Int) (unsigned : Bool) (low high : Int)
    (text : Bytes) : Prop :=
  ∀ value, parse text = some value → ∃ negative magnitude, IsNumeral text negative magnitude ∧
    value = signedValue negative magnitude ∧ low ≤ value ∧ value ≤ high ∧
    (unsigned = true → negative = false)

/-- A numeral with a minus sign behind white space, whose magnitude `strtoull` negates into the range
of a parser. -/
def NegatedInto (bound : Nat) (text : Bytes) : Prop :=
  ∃ magnitude, IsNumeral text true magnitude ∧ text.head? ≠ some 45 ∧ magnitude < 2 ^ 64 ∧
    (2 ^ 64 - magnitude) % 2 ^ 64 ≤ bound

section Numerals

variable {text : Bytes} {negative : Bool} {magnitude : Nat}

/-- A numeral is read to its end. -/
theorem IsNumeral.strtoDecimal (numeral : IsNumeral text negative magnitude)
    (limit : Bool → Nat → Int × Bool) :
    strtoDecimal limit text =
      ⟨(limit negative magnitude).1, (limit negative magnitude).2, true, []⟩ := by
  obtain ⟨spaces, sign, digits, rfl, blank, signed, some_, all, rfl⟩ := numeral.parts
  obtain ⟨digit, others, rfl⟩ := List.exists_cons_of_ne_nil some_
  obtain ⟨plain, minus, plus, -⟩ := digit_plain (all digit List.mem_cons_self)
  have taken : (digit :: others).takeWhile isDigit = digit :: others :=
    List.takeWhile_eq_self_iff.mpr all
  have dropped : (digit :: others).dropWhile isDigit = [] := List.dropWhile_eq_nil_iff.mpr all
  have unsigned : numeralSign ((spaces ++ (sign ++ digit :: others)).dropWhile isSpace) =
      (negative, digit :: others) := by
    rcases signed with ⟨rfl, rfl⟩ | ⟨rfl, rfl | rfl⟩
    · rw [List.dropWhile_append_of_pos blank]
      rfl
    · rw [List.dropWhile_append_of_pos blank]
      rfl
    · rw [List.dropWhile_append_of_pos blank, List.nil_append,
        List.dropWhile_cons_of_neg (by simp [plain])]
      unfold numeralSign
      split
      · rename_i same
        exact absurd (List.cons.inj same).1 minus
      · rename_i same
        exact absurd (List.cons.inj same).1 plus
      · rfl
  simp only [AnimateService.strtoDecimal, unsigned, taken, dropped, List.cons_ne_nil, ↓reduceIte]

/-- A text is a numeral in one way only. -/
theorem IsNumeral.unique (numeral : IsNumeral text negative magnitude) {other : Bool} {value : Nat}
    (again : IsNumeral text other value) : other = negative ∧ value = magnitude := by
  -- a reading that keeps the sign and the magnitude
  have first := numeral.strtoDecimal fun negative magnitude => ((magnitude : Int), negative)
  have second := again.strtoDecimal fun negative magnitude => ((magnitude : Int), negative)
  obtain ⟨value_eq, sign_eq, -, -⟩ := Conversion.mk.inj (second.symm.trans first)
  exact ⟨sign_eq, Int.ofNat.inj value_eq⟩

/-- The sign that is read is the front of the text. -/
theorem numeralSign_parts (text : Bytes) :
    ∃ sign, text = sign ++ (numeralSign text).2 ∧
      ((numeralSign text).1 = true ∧ sign = [45] ∨
        (numeralSign text).1 = false ∧ (sign = [43] ∨ sign = [])) := by
  unfold numeralSign
  split
  · exact ⟨[45], rfl, .inl ⟨rfl, rfl⟩⟩
  · exact ⟨[43], rfl, .inr ⟨rfl, .inl rfl⟩⟩
  · exact ⟨[], rfl, .inr ⟨rfl, .inr rfl⟩⟩

/-- What is read to its end is a numeral. -/
theorem strtoDecimal_whole {limit : Bool → Nat → Int × Bool}
    (converted : (strtoDecimal limit text).converted = true)
    (whole : (strtoDecimal limit text).rest = []) :
    ∃ negative magnitude, IsNumeral text negative magnitude := by
  have parts := numeralSign_parts (text.dropWhile isSpace)
  unfold strtoDecimal at converted whole
  generalize numeralSign (text.dropWhile isSpace) = read at parts converted whole
  obtain ⟨negative, unsigned⟩ := read
  obtain ⟨sign, split_, signed⟩ := parts
  dsimp only at split_ signed converted whole
  by_cases empty : unsigned.takeWhile isDigit = []
  · rw [if_pos empty] at converted
    cases converted
  · rw [if_neg empty] at whole
    have all : ∀ byte ∈ unsigned, isDigit byte = true := List.dropWhile_eq_nil_iff.mp whole
    have some_ : unsigned ≠ [] := by
      rintro rfl
      exact empty rfl
    refine ⟨negative, digitsValue unsigned, text.takeWhile isSpace, sign, unsigned, ?_, ?_, signed,
      some_, all, rfl⟩
    · rw [← split_, List.takeWhile_append_dropWhile]
    · exact fun byte member => List.mem_takeWhile_imp member

/-! ## The unsigned parsers -/

/-- The value that `strtoull` returns for a magnitude in its range. -/
def wrapped (negative : Bool) (magnitude : Nat) : Nat :=
  if negative then (2 ^ 64 - magnitude) % 2 ^ 64 else magnitude

/-- The wrapped magnitude has 64 bits. -/
theorem wrapped_lt (small : magnitude < 2 ^ 64) : wrapped negative magnitude < 2 ^ 64 := by
  unfold wrapped
  split
  · exact Nat.mod_lt _ (by decide)
  · exact small

/-- `strtoull` on a numeral. -/
theorem IsNumeral.strtoull (numeral : IsNumeral text negative magnitude) :
    strtoull text = if 2 ^ 64 ≤ magnitude then ⟨2 ^ 64 - 1, true, true, []⟩
      else ⟨wrapped negative magnitude, false, true, []⟩ := by
  rw [AnimateService.strtoull, numeral.strtoDecimal]
  by_cases large : 2 ^ 64 ≤ magnitude
  · simp only [if_pos large]
  · simp only [if_neg large]
    have value : (if negative then ((-(magnitude : Int)) % 2 ^ 64, false)
        else ((magnitude : Int), false)) = ((wrapped negative magnitude : Int), false) := by
      cases negative with
      | false => rfl
      | true =>
        simp only [wrapped, ↓reduceIte, Prod.mk.injEq, and_true]
        omega
    rw [value]

/-- `parse_u64` accepts the numerals of a magnitude below 2⁶⁴ that do not begin with a minus sign,
and stores what `strtoull` returns. -/
theorem parseU64_some {value : UInt64} :
    parseU64 text = some value ↔ ∃ negative magnitude, IsNumeral text negative magnitude ∧
      text.head? ≠ some 45 ∧ magnitude < 2 ^ 64 ∧ value.toNat = wrapped negative magnitude := by
  constructor
  · intro accepted
    simp only [parseU64] at accepted
    split at accepted
    · cases accepted
    · rename_i passed
      simp only [not_or, not_not] at passed
      obtain ⟨plain, inRange, converted, whole⟩ := passed
      obtain ⟨negative, magnitude, numeral⟩ := strtoDecimal_whole converted whole
      have small : magnitude < 2 ^ 64 := by
        by_contra large
        rw [numeral.strtoull, if_pos (Nat.le_of_not_lt large)] at inRange
        exact inRange rfl
      rw [numeral.strtoull, if_neg (Nat.not_le_of_lt small)] at accepted
      refine ⟨negative, magnitude, numeral, plain, small, ?_⟩
      rw [← Option.some.inj accepted]
      simpa using Nat.mod_eq_of_lt (wrapped_lt small)
  · rintro ⟨negative, magnitude, numeral, plain, small, stored⟩
    simp only [parseU64, numeral.strtoull, if_neg (Nat.not_le_of_lt small)]
    simp [plain, ← stored]

/-- An unsigned parser with a bound stores what the text denotes unless the text is negated into its
range. -/
theorem storesDenoted_iff {parse : Bytes → Option Int} {bound : Nat}
    (parses : ∀ value, parse text = some value ↔
      ∃ stored, parseU64 text = some stored ∧ stored.toNat ≤ bound ∧ value = stored.toNat) :
    StoresDenoted parse true 0 bound text ↔ ¬ NegatedInto bound text := by
  constructor
  · rintro stores ⟨magnitude, numeral, plain, small, below⟩
    have stored : (UInt64.ofNat (wrapped true magnitude)).toNat = wrapped true magnitude := by
      simpa using Nat.mod_eq_of_lt (wrapped_lt small)
    have accepted := parseU64_some.mpr ⟨true, magnitude, numeral, plain, small, stored⟩
    have inside : (UInt64.ofNat (wrapped true magnitude)).toNat ≤ bound := by
      rw [stored]
      exact below
    obtain ⟨negative, other, again, -, -, -, plus⟩ :=
      stores _ ((parses _).mpr ⟨_, accepted, inside, rfl⟩)
    obtain ⟨minus, -⟩ := numeral.unique again
    cases minus.symm.trans (plus rfl)
  · intro direct value accepted
    obtain ⟨stored, parsed, below, rfl⟩ := (parses value).mp accepted
    obtain ⟨negative, magnitude, numeral, plain, small, same⟩ := parseU64_some.mp parsed
    have plus : negative = false := by
      by_contra minus
      simp only [Bool.not_eq_false] at minus
      subst minus
      exact direct ⟨magnitude, numeral, plain, small, by rwa [same] at below⟩
    subst plus
    have stored_eq : stored.toNat = magnitude := same
    refine ⟨false, magnitude, numeral, ?_, Int.natCast_nonneg _, Int.ofNat_le.mpr below,
      fun _ => rfl⟩
    rw [stored_eq]
    rfl

/-- The bound of `parse_color` and `parse_bool_token` on what `parse_u64` stores. -/
theorem filter_some {bound : UInt64} {value : UInt64} :
    (parseU64 text).filter (fun stored => stored ≤ bound) = some value ↔
      parseU64 text = some value ∧ value.toNat ≤ bound.toNat := by
  rw [Option.filter_eq_some_iff, decide_eq_true_eq, UInt64.le_iff_toNat_le]

/-- The truth value that `parse_bool_token` stores is the number. -/
theorem flag_value {stored : UInt64} (below : stored.toNat ≤ 1) :
    (if decide (stored ≠ 0) = true then (1 : Int) else 0) = stored.toNat := by
  by_cases zero : stored = 0
  · simp [zero]
  · have positive : stored.toNat ≠ 0 := fun same => zero (UInt64.toNat_inj.mp same)
    have one : stored.toNat = 1 := by omega
    simp [zero, one]

/-! ## The signed parsers -/

/-- `strtoll` and `strtol` on a numeral. -/
theorem IsNumeral.strtoll (numeral : IsNumeral text negative magnitude) :
    strtoll text =
      if -(2 ^ 63) ≤ signedValue negative magnitude ∧ signedValue negative magnitude < 2 ^ 63 then
        ⟨signedValue negative magnitude, false, true, []⟩
      else ⟨if negative then -(2 ^ 63) else 2 ^ 63 - 1, true, true, []⟩ := by
  rw [AnimateService.strtoll, numeral.strtoDecimal]
  cases negative with
  | true =>
    by_cases large : 2 ^ 63 < magnitude
    · have outside : ¬ (-(2 ^ 63) ≤ signedValue true magnitude ∧ signedValue true magnitude < 2 ^ 63) := by
        rw [signedValue_true]
        omega
      rw [if_neg outside]
      simp only [↓reduceIte, if_pos large]
    · have inside : -(2 ^ 63) ≤ signedValue true magnitude ∧ signedValue true magnitude < 2 ^ 63 := by
        rw [signedValue_true]
        omega
      rw [if_pos inside]
      simp only [↓reduceIte, if_neg large, signedValue_true]
  | false =>
    by_cases large : 2 ^ 63 ≤ magnitude
    · have outside :
          ¬ (-(2 ^ 63) ≤ signedValue false magnitude ∧ signedValue false magnitude < 2 ^ 63) := by
        rw [signedValue_false]
        omega
      rw [if_neg outside]
      simp only [Bool.false_eq_true, ↓reduceIte, if_pos large]
    · have inside : -(2 ^ 63) ≤ signedValue false magnitude ∧ signedValue false magnitude < 2 ^ 63 := by
        rw [signedValue_false]
        omega
      rw [if_pos inside]
      simp only [Bool.false_eq_true, ↓reduceIte, if_neg large, signedValue_false]

/-- The numerals that the signed functions accept. -/
theorem strtoll_accepts :
    (strtoll text).outOfRange = false ∧ (strtoll text).converted = true ∧ (strtoll text).rest = [] ↔
      ∃ negative magnitude, IsNumeral text negative magnitude ∧
        -(2 ^ 63) ≤ signedValue negative magnitude ∧ signedValue negative magnitude < 2 ^ 63 := by
  constructor
  · rintro ⟨inRange, converted, whole⟩
    obtain ⟨negative, magnitude, numeral⟩ := strtoDecimal_whole converted whole
    refine ⟨negative, magnitude, numeral, ?_⟩
    by_contra outside
    rw [numeral.strtoll, if_neg outside] at inRange
    cases inRange
  · rintro ⟨negative, magnitude, numeral, inside⟩
    rw [numeral.strtoll, if_pos inside]
    exact ⟨rfl, rfl, rfl⟩

/-- Their value is what they denote. -/
theorem IsNumeral.strtoll_value (numeral : IsNumeral text negative magnitude)
    (low : -(2 ^ 63) ≤ signedValue negative magnitude) (high : signedValue negative magnitude < 2 ^ 63) :
    (AnimateService.strtoll text).value = signedValue negative magnitude := by
  rw [numeral.strtoll, if_pos ⟨low, high⟩]

/-- `parse_ssize` rejects a text or stores what it denotes. -/
theorem parseSsize_stores : StoresDenoted parseSsize false (-(2 ^ 63)) (2 ^ 63 - 1) text := by
  intro value accepted
  simp only [parseSsize] at accepted
  split at accepted
  · cases accepted
  · rename_i passed
    simp only [not_or, not_not, Bool.not_eq_true] at passed
    obtain ⟨inRange, converted, whole⟩ := passed
    obtain ⟨negative, magnitude, numeral, low, high⟩ :=
      strtoll_accepts.mp ⟨inRange, by simpa using converted, whole⟩
    obtain rfl := Option.some.inj accepted
    rw [numeral.strtoll_value low high]
    exact ⟨negative, magnitude, numeral, rfl, low, by omega, fun signed => by cases signed⟩

/-- The client accepts the numerals from 1 on that `strtol` has in its range, and stores their low
32 bits. -/
theorem clientParseArguments_some {program : Bytes} {value : Int} :
    clientParseArguments [program, text] = some value ↔ ∃ negative magnitude,
      IsNumeral text negative magnitude ∧ 1 ≤ signedValue negative magnitude ∧
        signedValue negative magnitude < 2 ^ 63 ∧
        value = (signedValue negative magnitude).bmod (2 ^ 32) := by
  constructor
  · intro accepted
    simp only [clientParseArguments] at accepted
    split at accepted
    · cases accepted
    · rename_i passed
      simp only [not_or, not_not, Bool.not_eq_true, not_lt] at passed
      obtain ⟨inRange, converted, whole, positive⟩ := passed
      obtain ⟨negative, magnitude, numeral, low, high⟩ :=
        strtoll_accepts.mp ⟨inRange, by simpa using converted, whole⟩
      rw [numeral.strtoll_value low high] at positive accepted
      exact ⟨negative, magnitude, numeral, positive, high, (Option.some.inj accepted).symm⟩
  · rintro ⟨negative, magnitude, numeral, positive, high, rfl⟩
    have inside : -(2 ^ 63) ≤ signedValue negative magnitude ∧
        signedValue negative magnitude < 2 ^ 63 := ⟨by omega, high⟩
    have passed : ¬ signedValue negative magnitude < 1 := by omega
    have read : AnimateService.strtoll text = ⟨signedValue negative magnitude, false, true, []⟩ := by
      rw [numeral.strtoll, if_pos inside]
    simp [clientParseArguments, read, passed]

/-- The client stores the PID that the text denotes unless the text denotes one that a `pid_t` of 32
bits does not represent. -/
theorem clientParseArguments_stores_iff (program : Bytes) :
    StoresDenoted (fun text => clientParseArguments [program, text]) false 1 (2 ^ 31 - 1) text ↔
      ¬ ∃ magnitude, IsNumeral text false magnitude ∧ 2 ^ 31 ≤ magnitude ∧ magnitude < 2 ^ 63 := by
  constructor
  · rintro stores ⟨magnitude, numeral, large, small⟩
    have accepted : clientParseArguments [program, text] =
        some ((signedValue false magnitude).bmod (2 ^ 32)) :=
      clientParseArguments_some.mpr ⟨false, magnitude, numeral, by rw [signedValue_false]; omega,
        by rw [signedValue_false]; omega, rfl⟩
    obtain ⟨negative, other, again, same, -, high, -⟩ := stores _ accepted
    obtain ⟨rfl, rfl⟩ := numeral.unique again
    rw [same, signedValue_false] at high
    omega
  · intro direct value accepted
    obtain ⟨negative, magnitude, numeral, positive, high, rfl⟩ :=
      clientParseArguments_some.mp accepted
    have plus : negative = false := by
      by_contra minus
      simp only [Bool.not_eq_false] at minus
      subst minus
      rw [signedValue_true] at positive
      omega
    subst plus
    have small : magnitude < 2 ^ 31 := by
      by_contra large
      refine direct ⟨magnitude, numeral, Nat.le_of_not_lt large, ?_⟩
      rw [signedValue_false] at high
      omega
    rw [signedValue_false] at positive
    have same : (signedValue false magnitude).bmod (2 ^ 32) = signedValue false magnitude := by
      rw [signedValue_false, Int.bmod_eq_of_le (by omega) (by omega)]
    rw [same]
    refine ⟨false, magnitude, numeral, rfl, positive, ?_, fun signed => by cases signed⟩
    rw [signedValue_false]
    omega

end Numerals

/-- For every text, each parser rejects it or stores the integer that it denotes, which is in the
range of the destination, exactly unless: for the unsigned parsers, the text is white space, a minus
sign and digits that `strtoull` negates into their range; for the client's PID, it denotes an integer
of 32 bits or more that a `long` holds. -/
theorem numbers_stored_iff (text program : Bytes) :
    (StoresDenoted (fun text => (parseU64 text).map fun stored => (stored.toNat : Int)) true
        0 (2 ^ 64 - 1 : Nat) text ↔ ¬ NegatedInto (2 ^ 64 - 1) text) ∧
      (StoresDenoted (fun text => (parseSize text).map fun stored => (stored.toNat : Int)) true
        0 (2 ^ 64 - 1 : Nat) text ↔ ¬ NegatedInto (2 ^ 64 - 1) text) ∧
      (StoresDenoted (fun text => (parseColor text).map fun stored => (stored.toNat : Int)) true
        0 (2 ^ 32 - 1 : Nat) text ↔ ¬ NegatedInto (2 ^ 32 - 1) text) ∧
      (StoresDenoted (fun text => (parseBoolToken text).map fun stored =>
        if stored then (1 : Int) else 0) true 0 (1 : Nat) text ↔ ¬ NegatedInto 1 text) ∧
      StoresDenoted parseSsize false (-(2 ^ 63)) (2 ^ 63 - 1) text ∧
      (StoresDenoted (fun text => clientParseArguments [program, text]) false 1 (2 ^ 31 - 1) text ↔
        ¬ ∃ magnitude, IsNumeral text false magnitude ∧ 2 ^ 31 ≤ magnitude ∧
          magnitude < 2 ^ 63) := by
  have whole : StoresDenoted (fun text => (parseU64 text).map fun stored => (stored.toNat : Int))
      true 0 (2 ^ 64 - 1 : Nat) text ↔ ¬ NegatedInto (2 ^ 64 - 1) text := by
    refine storesDenoted_iff fun value => ?_
    rw [Option.map_eq_some_iff]
    constructor
    · rintro ⟨stored, parsed, rfl⟩
      exact ⟨stored, parsed, Nat.le_sub_one_of_lt stored.toNat_lt, rfl⟩
    · rintro ⟨stored, parsed, -, rfl⟩
      exact ⟨stored, parsed, rfl⟩
  refine ⟨whole, whole, ?_, ?_, parseSsize_stores, clientParseArguments_stores_iff program⟩
  · refine storesDenoted_iff fun value => ?_
    simp only [parseColor, Option.map_eq_some_iff, filter_some]
    constructor
    · rintro ⟨stored, ⟨parsed, below⟩, rfl⟩
      exact ⟨stored, parsed, below, rfl⟩
    · rintro ⟨stored, parsed, below, rfl⟩
      exact ⟨stored, ⟨parsed, below⟩, rfl⟩
  · refine storesDenoted_iff fun value => ?_
    simp only [parseBoolToken, Option.map_eq_some_iff, filter_some]
    constructor
    · rintro ⟨-, ⟨stored, ⟨parsed, below⟩, rfl⟩, rfl⟩
      exact ⟨stored, parsed, below, flag_value below⟩
    · rintro ⟨stored, parsed, below, rfl⟩
      exact ⟨_, ⟨stored, ⟨parsed, below⟩, rfl⟩, flag_value below⟩

/-- A token that begins with a vertical tab is negated modulo 2⁶⁴, and a command-line argument loses
its high bits. -/
theorem hidden_minus_stored :
    tokenize (bytes "destroy_canvas \x0b-5\n") 16 = (2, [bytes "destroy_canvas", bytes "\x0b-5"]) ∧
      parseU64 (bytes "\x0b-5") = some 18446744073709551611 ∧
      ¬ StoresDenoted (fun text => (parseU64 text).map fun stored => (stored.toNat : Int)) true
        0 (2 ^ 64 - 1 : Nat) (bytes "\x0b-5") ∧
      clientParseArguments [bytes "animate_client", bytes "4294967297"] = some 1 ∧
      ¬ StoresDenoted (fun text => clientParseArguments [bytes "animate_client", text]) false
        1 (2 ^ 31 - 1) (bytes "4294967297") := by
  have minusFive : IsNumeral (bytes "\x0b-5") true 5 :=
    ⟨[11], [45], [53], rfl, List.all_eq_true.mp rfl, .inl ⟨rfl, rfl⟩, by decide,
      List.all_eq_true.mp rfl, rfl⟩
  have large : IsNumeral (bytes "4294967297") false 4294967297 :=
    ⟨[], [], bytes "4294967297", rfl, nofun, .inr ⟨rfl, .inr rfl⟩, by decide,
      List.all_eq_true.mp rfl, rfl⟩
  refine ⟨rfl, rfl, fun stores => ?_, rfl, fun stores => ?_⟩
  · obtain ⟨negative, magnitude, again, -, -, -, plus⟩ := stores 18446744073709551611 rfl
    cases (minusFive.unique again).1.symm.trans (plus rfl)
  · obtain ⟨negative, magnitude, again, same, -⟩ := stores 1 rfl
    obtain ⟨rfl, rfl⟩ := large.unique again
    cases same

end AnimateService
