import Mathlib.Algebra.Order.Floor.Ring
import Mathlib.Data.Int.Log
import Mathlib.Data.Rat.Floor
import Mathlib.Tactic.FieldSimp
import Mathlib.Tactic.Linarith
import Pocketdex.Utils.Number

/-! Double arithmetic on exact values, rounded to the nearest double after each operation. -/

namespace Pocketdex

/-- A double, with both zeros as one. -/
inductive Double where
  | nan
  | infinity (negative : Bool)
  | finite (value : ℚ)
  deriving DecidableEq

namespace Double

/-- The integer closest to an exact value, the even one of two. -/
def roundEven (value : ℚ) : Int :=
  let below := ⌊value⌋
  let rest := value - below
  if 1 / 2 < rest ∨ (rest = 1 / 2 ∧ below % 2 = 1) then below + 1 else below

/-- The double closest to an exact value. -/
def ofRat (value : ℚ) : Double :=
  if value = 0 then .finite 0
  else
    -- A double has fifty-three bits, and its last one stands for no less than the smallest double.
    let unit : ℚ := 2 ^ max (Int.log 2 |value| - 52) (-1074)
    let rounded := roundEven (value / unit) * unit
    if |rounded| < 2 ^ (1024 : ℤ) then .finite rounded else .infinity (value < 0)

/-- The double closest to an integer, which is the integer itself if it has few enough bits. -/
def ofInt (value : Int) : Double :=
  if value.natAbs < 2 ^ 53 then .finite value else ofRat value

/-- The product of two doubles. -/
def mul : Double → Double → Double
  | finite first, finite second => ofRat (first * second)
  | infinity negative, finite value =>
    if value = 0 then nan else infinity (negative != (value < 0))
  | finite value, infinity negative =>
    if value = 0 then nan else infinity (negative != (value < 0))
  | infinity first, infinity second => infinity (first != second)
  | _, _ => nan

/-- The quotient of two doubles. -/
def div : Double → Double → Double
  | finite first, finite second =>
    if second = 0 then (if first = 0 then nan else infinity (first < 0)) else ofRat (first / second)
  | infinity negative, finite value => infinity (negative != (value < 0))
  | finite _, infinity _ => finite 0
  | _, _ => nan

/-- The largest integer not above a double. -/
def floor : Double → Double
  | finite value => finite ⌊value⌋
  | other => other

/-- The integer closest to a double, the upper one of two. -/
def round : Double → Double
  | finite value => finite ⌊value + 1 / 2⌋
  | other => other

/-- Converting a double to an integer throws unless it is one. -/
def toBigInt : Double → Except String Int
  | finite value =>
    if value.den = 1 then .ok value.num
    else .error "The number cannot be converted to a BigInt because it is not an integer"
  | _ => .error "The number cannot be converted to a BigInt because it is not an integer"

/-- The exact value of digits with a fraction and an exponent, and what follows them. -/
def decimalPrefix (text : List Char) : Option (ℚ × List Char) :=
  let whole := text.takeWhile Char.isDigit
  let rest := text.dropWhile Char.isDigit
  let (fraction, rest) := match rest with
    | '.' :: more => (more.takeWhile Char.isDigit, more.dropWhile Char.isDigit)
    | _ => ([], rest)
  if whole = [] ∧ fraction = [] then none
  else
    let value : ℚ := Nat.ofDigitChars 10 (whole ++ fraction) 0 / 10 ^ fraction.length
    match Json.parseExponent rest with
    | some (_ :: exponent, rest) =>
      let negative := exponent.head? = some '-'
      let size := Nat.ofDigitChars 10 (exponent.filter Char.isDigit) 0
      some (if negative then value / 10 ^ size else value * 10 ^ size, rest)
    | _ => some (value, rest)

/-- The double at the front of a text, whatever follows it. -/
def parseFloat (text : String) : Double :=
  let (negative, chars) := splitSign (text.toList.dropWhile isWhitespace)
  if "Infinity".toList.isPrefixOf chars then .infinity negative
  else match decimalPrefix chars with
    | some (value, _) => ofRat (if negative then -value else value)
    | none => .nan

/-- The double a whole text spells. -/
def ofText (text : String) : Double :=
  match bigInt text with
  | .ok value => ofInt value
  | .error _ =>
    let (negative, chars) := splitSign (trimBlanks text.toList)
    if chars = "Infinity".toList then .infinity negative
    else match decimalPrefix chars with
      | some (value, []) => ofRat (if negative then -value else value)
      | _ => .nan

/-- The shortest digits, followed by zeros, that stand for an integer double. -/
def shortestDigits (value : ℕ) : ℕ → ℕ
  | 0 => value
  | zeros + 1 =>
    let unit := 10 ^ (zeros + 1)
    let closest := (2 * value + unit) / (2 * unit) * unit
    if 0 < closest ∧ nearestDouble closest = some value then closest else shortestDigits value zeros

/-- The notation of a number that has more than twenty-one digits. -/
def exponentText (digits : List Char) : String :=
  let mantissa := (digits.reverse.dropWhile (· = '0')).reverse
  let fraction := if mantissa.length ≤ 1 then [] else '.' :: mantissa.drop 1
  String.ofList (mantissa.take 1 ++ fraction) ++ s!"e+{digits.length - 1}"

/-- The text of an integer double: its shortest digits, which may stand for another integer. -/
def integerText : Double → String
  | finite value =>
    let number := value.num.natAbs
    let digits := Nat.toDigits 10 (shortestDigits number (Nat.toDigits 10 number).length)
    let text := if 10 ^ 21 ≤ number then exponentText digits else String.ofList digits
    if value < 0 then "-" ++ text else text
  | infinity negative => if negative then "-Infinity" else "Infinity"
  | nan => "NaN"

/-- Rounding to an integer moves a value by no more than a half. -/
theorem abs_roundEven_sub_le (value : ℚ) : |(roundEven value : ℚ) - value| ≤ 1 / 2 := by
  have above : (⌊value⌋ : ℚ) ≤ value := Int.floor_le value
  have below : value < ⌊value⌋ + 1 := Int.lt_floor_add_one value
  unfold roundEven
  simp only
  split
  · -- The value is rounded up when it is past the middle, or in it.
    rename_i up
    have middle : 1 / 2 ≤ value - ⌊value⌋ := up.elim le_of_lt fun tie => tie.1.ge
    rw [abs_le]
    push_cast
    constructor <;> linarith
  · rename_i down
    have middle : value - ⌊value⌋ ≤ 1 / 2 := by
      by_contra past
      exact down (Or.inl (lt_of_not_ge past))
    rw [abs_le]
    constructor <;> linarith

/-- Rounding to multiples of a unit moves a value by half of it at most. -/
theorem abs_roundEven_mul_sub_le (value : ℚ) {unit : ℚ} (positive : 0 < unit) :
    |(roundEven (value / unit) : ℚ) * unit - value| ≤ unit / 2 := by
  have split : (roundEven (value / unit) : ℚ) * unit - value =
      ((roundEven (value / unit) : ℚ) - value / unit) * unit := by
    field_simp
  rw [split, abs_mul, abs_of_pos positive]
  calc |(roundEven (value / unit) : ℚ) - value / unit| * unit
      ≤ 1 / 2 * unit := mul_le_mul_of_nonneg_right (abs_roundEven_sub_le _) positive.le
    _ = unit / 2 := by ring

/-- The last bit of a double weighs no more than half of what it rounds, or half of one. -/
theorem unit_le {value : ℚ} (nonzero : value ≠ 0) :
    (2 : ℚ) ^ max (Int.log 2 |value| - 52) (-1074) ≤ max |value| 1 / 2 := by
  rcases le_total (Int.log 2 |value| - 52) (-1074) with low | high
  · rw [max_eq_right low]
    have tiny : (2 : ℚ) ^ (-1074 : ℤ) ≤ 2 ^ (-1 : ℤ) :=
      zpow_le_zpow_right₀ (by norm_num) (by norm_num)
    have one : (1 : ℚ) ≤ max |value| 1 := le_max_right _ _
    refine tiny.trans ?_
    rw [zpow_neg_one]
    linarith
  · rw [max_eq_left high]
    have log : (2 : ℚ) ^ Int.log 2 |value| ≤ |value| := by
      exact_mod_cast Int.zpow_log_le_self (b := 2) (by norm_num) (abs_pos.mpr nonzero)
    have less : (2 : ℚ) ^ (Int.log 2 |value| - 52) ≤ 2 ^ (Int.log 2 |value| - 1) :=
      zpow_le_zpow_right₀ (by norm_num) (by omega)
    rw [zpow_sub_one₀ (by norm_num)] at less
    linarith [le_max_left |value| 1]

/-- A value far from the largest double is rounded to a double that is not far from it. -/
theorem ofRat_finite {value : ℚ} (small : |value| < 2 ^ 200) :
    ∃ rounded, ofRat value = .finite rounded ∧ |rounded - value| ≤ max |value| 1 / 2 := by
  unfold ofRat
  by_cases zero : value = 0
  · refine ⟨0, if_pos zero, ?_⟩
    subst zero
    norm_num
  rw [if_neg zero]
  set unit : ℚ := 2 ^ max (Int.log 2 |value| - 52) (-1074)
  have unitPos : 0 < unit := zpow_pos (by norm_num) _
  have near : |(roundEven (value / unit) : ℚ) * unit - value| ≤ max |value| 1 / 2 := by
    have moved := abs_roundEven_mul_sub_le value unitPos
    have small : unit ≤ max |value| 1 / 2 := unit_le zero
    linarith
  -- Twice the value is still no overflow.
  have bound : |(roundEven (value / unit) : ℚ) * unit| < 2 ^ (1024 : ℤ) := by
    have large : max |value| 1 < (2 : ℚ) ^ 200 := max_lt small (by norm_num)
    have power : (2 : ℚ) ^ 200 + 2 ^ 200 ≤ 2 ^ (1024 : ℤ) := by
      have doubled : (2 : ℚ) ^ 200 + 2 ^ 200 = 2 ^ (201 : ℤ) := by norm_num
      rw [doubled]
      exact zpow_le_zpow_right₀ (by norm_num) (by norm_num)
    have apart := abs_sub_abs_le_abs_sub ((roundEven (value / unit) : ℚ) * unit) value
    calc |(roundEven (value / unit) : ℚ) * unit| ≤ |value| + max |value| 1 / 2 := by linarith
      _ < 2 ^ 200 + 2 ^ 200 := by linarith
      _ ≤ 2 ^ (1024 : ℤ) := power
  exact ⟨_, if_pos bound, near⟩

/-- An integer of sixty-four bits is rounded to a double that is not far from it. -/
theorem ofInt_finite {value : Int} (small : |value| < 2 ^ 64) :
    ∃ rounded : ℚ, ofInt value = .finite rounded ∧ |rounded| < 2 ^ 66 ∧
      (value ≠ 0 → 1 ≤ |rounded|) := by
  have castSmall : |(value : ℚ)| < 2 ^ 64 := by exact_mod_cast small
  unfold ofInt
  split
  · refine ⟨value, rfl, by linarith, fun nonzero => ?_⟩
    exact_mod_cast Int.one_le_abs nonzero
  · rename_i large
    have two : (2 : ℚ) ≤ |(value : ℚ)| := by
      have size : (2 : Int) ≤ |value| := by
        rw [Int.abs_eq_natAbs]
        omega
      exact_mod_cast size
    obtain ⟨rounded, found, near⟩ := ofRat_finite (by linarith : |(value : ℚ)| < 2 ^ 200)
    rw [max_eq_left (by linarith)] at near
    have above := abs_sub_abs_le_abs_sub rounded (value : ℚ)
    have below := abs_sub_abs_le_abs_sub (value : ℚ) rounded
    rw [abs_sub_comm] at below
    exact ⟨rounded, found, by linarith, fun _ => by linarith⟩

/-- The quotient of a double by one that is not near zero is a double. -/
theorem div_finite {first second : ℚ} (small : |first| < 2 ^ 66) (one : 1 ≤ |second|) :
    ∃ rounded, (Double.finite first).div (.finite second) = .finite rounded := by
  have nonzero : second ≠ 0 := by
    rintro rfl
    norm_num at one
  have less : |first / second| ≤ |first| := by
    rw [abs_div]
    exact div_le_self (abs_nonneg first) one
  obtain ⟨rounded, found, -⟩ :=
    ofRat_finite (by linarith : |first / second| < 2 ^ 200)
  exact ⟨rounded, by rw [div]; simp only [nonzero, if_false]; exact found⟩

end Double

end Pocketdex
