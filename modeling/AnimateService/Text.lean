import Mathlib.Algebra.Group.Int.Defs
import Mathlib.Algebra.Group.Nat.Defs

/-!
# Byte strings and the C library's text functions

A C string is the list of its bytes without the terminating NUL. The functions below are the
ones of the C library that the request parser calls, in the C locale on a 64-bit system:
`strtok_r` with the server's delimiters, and `strtoull`, `strtoll` and `strtol` in base ten with
their `errno` and end pointer.
-/
namespace AnimateService

/-- A byte string; as a C string, without its terminating NUL. -/
abbrev Bytes := List UInt8

/-- The bytes of a source literal. -/
def bytes (literal : String) : Bytes := literal.toList.map fun letter => UInt8.ofNat letter.toNat

/-- The C string that starts at the front of a buffer: the bytes before the first NUL. -/
def cString (buffer : Bytes) : Bytes := buffer.takeWhile (· ≠ 0)

/-- `isspace` in the C locale: blank, and tab through carriage return. -/
def isSpace (byte : UInt8) : Bool := byte = 32 ∨ (9 ≤ byte ∧ byte ≤ 13)

/-- `isdigit`. -/
def isDigit (byte : UInt8) : Bool := 48 ≤ byte ∧ byte ≤ 57

/-- `isalnum` in the C locale. -/
def isAlnum (byte : UInt8) : Bool :=
  isDigit byte ∨ (65 ≤ byte ∧ byte ≤ 90) ∨ (97 ≤ byte ∧ byte ≤ 122)

/-- The delimiters `" \t\r\n"` of every `strtok_r` call of the program. -/
def isDelimiter (byte : UInt8) : Bool := byte = 32 ∨ byte = 9 ∨ byte = 13 ∨ byte = 10

/-- The successive results of `strtok_r`, from a text whose current token has the given bytes,
last byte first. -/
def tokensFrom : Bytes → Bytes → List Bytes
  | [], [] => []
  | [], current => [current.reverse]
  | byte :: rest, current =>
    if isDelimiter byte then
      match current with
      | [] => tokensFrom rest []
      | current => current.reverse :: tokensFrom rest []
    else tokensFrom rest (byte :: current)

/-- The tokens of a text: its longest delimiter-free segments. -/
def strtok (text : Bytes) : List Bytes := tokensFrom text []

/-- The value of a run of decimal digits. -/
def digitsValue (digits : Bytes) : Nat :=
  digits.foldl (fun value digit => 10 * value + (digit.toNat - 48)) 0

/-- What a `strto*` call reports: its value, whether it set `errno` to `ERANGE`, whether it
converted anything (`end != s`), and the text at its end pointer. -/
structure Conversion where
  /-- The returned value. -/
  value : Int
  /-- `errno == ERANGE` after the call. -/
  outOfRange : Bool
  /-- The end pointer moved past the start of the text. -/
  converted : Bool
  /-- The text from the end pointer on. -/
  rest : Bytes

/-- The sign of a numeral and the text after it; a missing sign is a plus. -/
def numeralSign : Bytes → Bool × Bytes
  | 45 :: rest => (true, rest)
  | 43 :: rest => (false, rest)
  | text => (false, text)

/-- Read a decimal numeral as the `strto*` functions do: skip white space, an optional sign, then
at least one digit. `limit` turns the sign and the magnitude into the returned value and the
range error. -/
def strtoDecimal (limit : Bool → Nat → Int × Bool) (text : Bytes) : Conversion :=
  let (negative, unsigned) := numeralSign (text.dropWhile isSpace)
  let digits := unsigned.takeWhile isDigit
  if digits = [] then ⟨0, false, false, text⟩
  else
    let (value, outOfRange) := limit negative (digitsValue digits)
    ⟨value, outOfRange, true, unsigned.dropWhile isDigit⟩

/-- `strtoull`: a magnitude of 64 bits, negated modulo 2⁶⁴ after a minus sign. -/
def strtoull : Bytes → Conversion :=
  strtoDecimal fun negative magnitude =>
    if 2 ^ 64 ≤ magnitude then (2 ^ 64 - 1, true)
    else if negative then ((-(magnitude : Int)) % 2 ^ 64, false)
    else (magnitude, false)

/-- `strtoll`, and `strtol` where `long` has 64 bits: the signed 64-bit range, saturated. -/
def strtoll : Bytes → Conversion :=
  strtoDecimal fun negative magnitude =>
    if negative then
      if 2 ^ 63 < magnitude then (-(2 ^ 63), true) else (-(magnitude : Int), false)
    else if 2 ^ 63 ≤ magnitude then (2 ^ 63 - 1, true)
    else (magnitude, false)

/-- The digits that `%llu` prints. -/
def decimalNat (value : Nat) : Bytes := (Nat.toDigits 10 value).map fun digit => UInt8.ofNat digit.toNat

/-- The digits and sign that `%d` prints. -/
def decimalInt : Int → Bytes
  | .ofNat value => decimalNat value
  | .negSucc value => 45 :: decimalNat (value + 1)

end AnimateService
