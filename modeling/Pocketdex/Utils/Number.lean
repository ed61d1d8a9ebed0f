import Mathlib.Algebra.Group.Nat.Defs
import Mathlib.Data.List.TakeWhile
import Pocketdex.Utils.Js

/-! The numbers of the runtime, as far as parsing an integer produces them. -/

namespace Pocketdex

/-- A number without a fraction, or one of the values that are no finite number. -/
inductive Number where
  | nan
  | infinity (negative : Bool)
  | integer (value : Int)
  deriving DecidableEq, Repr

/-- The double closest to a natural number, the even one of two, or none beyond the largest. -/
def nearestDouble (value : ℕ) : Option ℕ :=
  if value < 2 ^ 53 then some value
  else
    let unit := 2 ^ (value.log2 - 52)
    let whole := value / unit
    let rest := value % unit
    let up := unit < 2 * rest ∨ (unit = 2 * rest ∧ whole % 2 = 1)
    let rounded := (if up then whole + 1 else whole) * unit
    if rounded < 2 ^ 1024 then some rounded else none

/-- The number closest to a natural number. -/
def Number.ofNat (value : ℕ) : Number :=
  match nearestDouble value with
  | some double => .integer double
  | none => .infinity false

/-- The number a run of decimal digits is read as. -/
def digitsNumber (negative : Bool) (digits : List Char) : Number :=
  match nearestDouble (Nat.ofDigitChars 10 digits 0) with
  | some value => .integer (if negative then -Int.ofNat value else value)
  | none => .infinity negative

/-- Whether a number is negative, and what follows its sign. -/
def splitSign : List Char → Bool × List Char
  | '-' :: rest => (true, rest)
  | '+' :: rest => (false, rest)
  | chars => (false, chars)

/-- Parsing an integer in radix ten: what follows its digits is ignored. -/
def parseInt (text : String) : Number :=
  let (negative, chars) := splitSign (text.toList.dropWhile isWhitespace)
  match chars.takeWhile Char.isDigit with
  | [] => .nan
  | digits => digitsNumber negative digits

/-- Whether two numbers are strictly equal. -/
def Number.equals (first second : Number) : Bool := first ≠ .nan && first = second

/-- A text, or zero where it is empty. -/
def orZero (text : String) : String := if text = "" then "0" else text

/-- Whether a text consists of decimal digits. -/
def IsDecimal (text : String) : Prop :=
  text.toList ≠ [] ∧ ∀ char ∈ text.toList, char.isDigit = true

instance (text : String) : Decidable (IsDecimal text) :=
  @instDecidableAnd _ _ inferInstance (List.decidableBAll (fun char => char.isDigit = true) text.toList)

/-- The number a decimal text spells. -/
def decimalValue (text : String) : ℕ := Nat.ofDigitChars 10 text.toList 0

/-- Numbers below two to the fifty-three are doubles themselves. -/
theorem nearestDouble_exact {value : ℕ} (small : value < 2 ^ 53) :
    nearestDouble value = some value := by
  rw [nearestDouble, if_pos small]

/-- An empty text denotes zero, like the zero that stands in for it. -/
theorem bigInt_orZero (text : String) : bigInt (orZero text) = bigInt text := by
  by_cases empty : text = ""
  · subst empty
    rfl
  · rw [orZero, if_neg empty]

/-- A decimal text is converted to the integer it spells. -/
theorem bigInt_decimal {text : String} (decimal : IsDecimal text) :
    bigInt text = .ok (decimalValue text : Int) :=
  bigInt_of_isDigit decimal.1 decimal.2

/-- A number is written in digits. -/
theorem isDecimal_toString (number : ℕ) : IsDecimal (toString number) := by
  have listed : (toString number).toList = Nat.toDigits 10 number := by
    rw [Nat.toString_eq_ofList_toDigits, String.toList_ofList]
  rw [IsDecimal, listed]
  exact ⟨Nat.toDigits_ne_nil, fun char member =>
    Nat.isDigit_of_mem_toDigits (by decide) (by decide) member⟩

/-- An integer written in decimal is read back. -/
theorem bigInt_int (number : Int) : bigInt (toString number) = .ok number := by
  cases number with
  | ofNat value => exact bigInt_toString value
  | negSucc value =>
    have spelled : (toString (Int.negSucc value)).toList = '-' :: Nat.toDigits 10 (value + 1) := by
      have prefixed : toString (Int.negSucc value) = "-" ++ toString (value + 1) := rfl
      rw [prefixed, String.toList_append, Nat.toString_eq_ofList_toDigits]
      simp
    have digits : ∀ char ∈ Nat.toDigits 10 (value + 1), char.isDigit = true :=
      fun char member => Nat.isDigit_of_mem_toDigits (by decide) (by decide) member
    have unblank : ∀ char ∈ '-' :: Nat.toDigits 10 (value + 1), isWhitespace char = false :=
      List.forall_mem_cons.mpr
        ⟨by decide, fun char member => isWhitespace_of_isDigit (digits char member)⟩
    -- Only the digits are read, and they spell the number without its sign.
    have read : digitsValue 10 (Nat.toDigits 10 (value + 1)) = some (value + 1) := by
      unfold digitsValue
      split
      · rename_i empty
        exact absurd empty Nat.toDigits_ne_nil
      · rw [foldl_addDigit digits, Nat.ofDigitChars_ten_toDigits]
    unfold bigInt
    rw [spelled, trimBlanks_of_unblank unblank]
    simp only [read, Option.map_some]
    rfl

/-- A text that begins with a digit has no sign. -/
theorem splitSign_of_isDigit {first : Char} {rest : List Char} (digit : first.isDigit = true) :
    splitSign (first :: rest) = (false, first :: rest) := by
  unfold splitSign
  split
  · rename_i same
    exact absurd ((List.cons.inj same).1 ▸ digit) (by decide)
  · rename_i same
    exact absurd ((List.cons.inj same).1 ▸ digit) (by decide)
  · rfl

/-- A decimal text is parsed as the double closest to the number it spells. -/
theorem parseInt_decimal {text : String} (decimal : IsDecimal text) :
    parseInt text = Number.ofNat (decimalValue text) := by
  obtain ⟨nonempty, digits⟩ := decimal
  -- Digits are no blanks and no signs, and all of them are read.
  obtain ⟨first, rest, listed⟩ := List.exists_cons_of_ne_nil nonempty
  have digit : first.isDigit = true := digits first (by simp [listed])
  have unblank : text.toList.dropWhile isWhitespace = text.toList := by
    rw [listed, List.dropWhile_cons_of_neg]
    simp [isWhitespace_of_isDigit digit]
  have taken : text.toList.takeWhile Char.isDigit = text.toList :=
    List.takeWhile_eq_self_iff.mpr digits
  have unsigned : splitSign text.toList = (false, text.toList) := by
    rw [listed]
    exact splitSign_of_isDigit digit
  unfold parseInt
  rw [unblank, unsigned]
  simp only [taken]
  rw [listed, digitsNumber, ← listed, ← decimalValue, Number.ofNat]
  cases nearestDouble (decimalValue text) <;> rfl

/-- A number below two to the fifty-three is closest to itself. -/
theorem Number.ofNat_exact {value : ℕ} (small : value < 2 ^ 53) :
    Number.ofNat value = .integer value := by
  rw [Number.ofNat, nearestDouble_exact small]

/-- No natural number is closest to NaN. -/
theorem Number.ofNat_ne_nan (value : ℕ) : Number.ofNat value ≠ .nan := by
  unfold Number.ofNat
  split <;> simp

end Pocketdex
