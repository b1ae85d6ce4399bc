import Mathlib.Data.List.TakeWhile
import Mathlib.Tactic.IntervalCases
import AnimateService.Text

/-!
# Printed numbers

What `printf` prints for a number is read back by `strtol`, and contains no byte that ends a token
or a line.
-/
namespace AnimateService

/-- The byte that is printed for a digit. -/
theorem digitChar_byte {digit : Nat} (small : digit < 10) :
    UInt8.ofNat digit.digitChar.toNat = UInt8.ofNat (48 + digit) := by
  interval_cases digit <;> rfl

/-- The last digit is printed last. -/
theorem decimalNat_eq (value : Nat) : decimalNat value =
    (if value < 10 then [] else decimalNat (value / 10)) ++ [UInt8.ofNat (48 + value % 10)] := by
  unfold decimalNat
  rw [Nat.toDigits_eq_if (by omega)]
  have small : value % 10 < 10 := Nat.mod_lt _ (by omega)
  split
  · rename_i single
    simp [digitChar_byte single, Nat.mod_eq_of_lt single]
  · simp [digitChar_byte small]

/-- The value of a printed digit. -/
theorem digit_toNat {digit : Nat} (small : digit < 10) : (UInt8.ofNat (48 + digit)).toNat = 48 + digit := by
  simp only [UInt8.toNat_ofNat']
  omega

/-- Every printed byte of a natural number is a digit. -/
theorem decimalNat_digits (value : Nat) : ∀ byte ∈ decimalNat value, isDigit byte = true := by
  induction value using Nat.strongRecOn with
  | ind value ih =>
    rw [decimalNat_eq]
    intro byte member
    rcases List.mem_append.mp member with front | last
    · split at front
      · cases front
      · exact ih (value / 10) (by omega) byte front
    · rw [List.mem_singleton.mp last]
      have small : value % 10 < 10 := Nat.mod_lt _ (by omega)
      simp only [isDigit, decide_eq_true_eq, UInt8.le_iff_toNat_le, digit_toNat small]
      exact ⟨by simp, by simpa using by omega⟩

/-- Something is printed. -/
theorem decimalNat_ne_nil (value : Nat) : decimalNat value ≠ [] := by
  rw [decimalNat_eq]
  simp

/-- One more digit is ten times the value and the digit. -/
theorem digitsValue_concat (digits : Bytes) (digit : UInt8) :
    digitsValue (digits ++ [digit]) = 10 * digitsValue digits + (digit.toNat - 48) := by
  simp [digitsValue]

/-- The digits that are printed have the value. -/
theorem digitsValue_decimalNat (value : Nat) : digitsValue (decimalNat value) = value := by
  induction value using Nat.strongRecOn with
  | ind value ih =>
    have small : value % 10 < 10 := Nat.mod_lt _ (by omega)
    rw [decimalNat_eq, digitsValue_concat, digit_toNat small]
    split
    · rename_i single
      simp only [digitsValue, List.foldl_nil]
      omega
    · rw [ih (value / 10) (by omega)]
      omega

/-- A digit is no blank and no sign. -/
theorem digit_plain {byte : UInt8} (digit : isDigit byte = true) :
    isSpace byte = false ∧ byte ≠ 45 ∧ byte ≠ 43 ∧ isDelimiter byte = false := by
  simp only [isDigit, decide_eq_true_eq, UInt8.le_iff_toNat_le] at digit
  have low : 48 ≤ byte.toNat := by simpa using digit.1
  have other : ∀ bound : Nat, bound < 48 → byte ≠ UInt8.ofNat bound := by
    rintro bound below rfl
    simp only [UInt8.toNat_ofNat'] at low
    omega
  refine ⟨?_, other 45 (by omega), other 43 (by omega), ?_⟩
  · have high : ¬ byte ≤ 13 := by
      rw [UInt8.le_iff_toNat_le]
      simpa using by omega
    have blank : byte ≠ 32 := other 32 (by omega)
    simp [isSpace, blank, high]
  · simp only [isDelimiter, decide_eq_false_iff_not, not_or]
    exact ⟨other 32 (by omega), other 9 (by omega), other 13 (by omega), other 10 (by omega)⟩

/-- Reading digits that begin a text, after an optional minus sign. -/
theorem strtoDecimal_digits (limit : Bool → Nat → Int × Bool) {digits : Bytes}
    (some_ : digits ≠ []) (all : ∀ byte ∈ digits, isDigit byte = true) (negative : Bool) :
    strtoDecimal limit ((if negative then [45] else []) ++ digits) =
      ⟨(limit negative (digitsValue digits)).1, (limit negative (digitsValue digits)).2, true, []⟩ := by
  have taken : digits.takeWhile isDigit = digits := List.takeWhile_eq_self_iff.mpr all
  have dropped : digits.dropWhile isDigit = [] := List.dropWhile_eq_nil_iff.mpr all
  have unsigned : numeralSign (List.dropWhile isSpace ((if negative then [45] else []) ++ digits)) =
      (negative, digits) := by
    cases negative with
    | true => rfl
    | false =>
      cases digits with
      | nil => exact absurd rfl some_
      | cons digit digits =>
        obtain ⟨plain, minus, plus, -⟩ := digit_plain (all digit List.mem_cons_self)
        simp only [Bool.false_eq_true, ↓reduceIte, List.nil_append, List.dropWhile_cons, plain]
        unfold numeralSign
        split
        · rename_i same
          exact absurd (List.cons.inj same).1 minus
        · rename_i same
          exact absurd (List.cons.inj same).1 plus
        · rfl
  simp only [strtoDecimal, unsigned, taken, dropped, if_neg some_]

/-- `%d` prints something. -/
theorem decimalInt_ne_nil (value : Int) : decimalInt value ≠ [] := by
  cases value with
  | ofNat value => exact decimalNat_ne_nil value
  | negSucc value => exact List.cons_ne_nil _ _

/-- `strtol` reads back what `%d` prints. -/
theorem strtoll_decimalInt {value : Int} (above : -(2 ^ 63) ≤ value) (below : value < 2 ^ 63) :
    strtoll (decimalInt value) = ⟨value, false, true, []⟩ := by
  unfold strtoll
  cases value with
  | ofNat value =>
    have small : ¬ 2 ^ 63 ≤ value := by
      simp only [Int.ofNat_eq_natCast] at below
      omega
    refine (strtoDecimal_digits _ (decimalNat_ne_nil value) (decimalNat_digits value) false).trans ?_
    rw [digitsValue_decimalNat, if_neg Bool.false_ne_true, if_neg small]
    rfl
  | negSucc value =>
    have small : ¬ 2 ^ 63 < value + 1 := by omega
    refine (strtoDecimal_digits _ (decimalNat_ne_nil (value + 1)) (decimalNat_digits (value + 1))
      true).trans ?_
    rw [digitsValue_decimalNat, if_pos rfl, if_neg small]
    rfl

/-- What `%d` prints contains no delimiter and no NUL. -/
theorem decimalInt_plain (value : Int) :
    ∀ byte ∈ decimalInt value, isDelimiter byte = false ∧ byte ≠ 0 := by
  have digits : ∀ value : Nat, ∀ byte ∈ decimalNat value, isDelimiter byte = false ∧ byte ≠ 0 := by
    intro value byte member
    have digit := decimalNat_digits value byte member
    refine ⟨(digit_plain digit).2.2.2, ?_⟩
    rintro rfl
    cases digit
  cases value with
  | ofNat value => exact digits value
  | negSucc value =>
    intro byte member
    rcases List.mem_cons.mp member with rfl | later
    · exact ⟨by decide, by decide⟩
    · exact digits (value + 1) byte later

end AnimateService
