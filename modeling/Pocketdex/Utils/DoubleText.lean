import Pocketdex.Utils.Digits
import Pocketdex.Utils.DoubleLaws

/-! Doubles as they are written: the fewest digits that stand for them, laid out around a point. -/

namespace Pocketdex

namespace Double

/-- An integer with a power of ten. -/
structure Scientific where
  digits : ℕ
  exponent : ℤ
  deriving DecidableEq, Repr

/-- The value it spells. -/
def Scientific.value (number : Scientific) : ℚ := number.digits * 10 ^ number.exponent

/-- The multiples of a power of ten next to a value, the closest one first. -/
def candidates (value : ℚ) (exponent : ℤ) : List Scientific :=
  let count := value / 10 ^ exponent
  [⟨(roundEven count).toNat, exponent⟩, ⟨⌊count⌋.toNat + 1, exponent⟩]

/-- The first of them that stands for a double. -/
def standIn (value : ℚ) (exponent : ℤ) : Option Scientific :=
  (candidates value exponent).find? fun number => ofRat number.value = .finite value

/-- The one with the largest of some powers of ten, which has the fewest digits. -/
def shortest (value : ℚ) : ℕ → ℤ → Option Scientific
  | 0, _ => none
  | tries + 1, exponent => (standIn value exponent).or (shortest value tries (exponent - 1))

/-- A point is written only in front of a fraction. -/
def withFraction (whole fraction : List Char) : List Char :=
  if fraction = [] then whole else whole ++ '.' :: fraction

/-- The power of ten behind the digits, with its sign. -/
def exponentChars (exponent : ℤ) : List Char :=
  'e' :: (if exponent < 0 then '-' else '+') :: Nat.toDigits 10 exponent.natAbs

/-- Digits with a power of ten: up to twenty-one digits are written out, and a few zeros. -/
def positional (digits : List Char) (exponent : ℤ) : List Char :=
  let point := digits.length + exponent
  if digits.length ≤ point ∧ point ≤ 21 then digits ++ List.replicate exponent.toNat '0'
  else if 0 < point ∧ point ≤ 21 then
    withFraction (digits.take point.toNat) (digits.drop point.toNat)
  else if -6 < point ∧ point ≤ 0 then
    withFraction ['0'] (List.replicate (-point).toNat '0' ++ digits)
  else withFraction (digits.take 1) (digits.drop 1) ++ exponentChars (point - 1)

/-- A positive double as it is written: seventeen digits are enough. -/
def positiveText (value : ℚ) : List Char :=
  match shortest value 18 (Int.log 10 value + 1) with
  | some number => positional (Nat.toDigits 10 number.digits) number.exponent
  | none => []

/-- A finite double as it is written. -/
def numberText (value : ℚ) : List Char :=
  if value = 0 then ['0']
  else if value < 0 then '-' :: positiveText (-value)
  else positiveText value

example : numberText (3602879701896397 / 2 ^ 55) = "0.1".toList := by decide +kernel

/-- A stand-in is rounded to the double. -/
theorem standIn_spec {value : ℚ} {exponent : ℤ} {number : Scientific}
    (found : standIn value exponent = some number) : ofRat number.value = .finite value := by
  have accepted := List.find?_some found
  exact of_decide_eq_true accepted

/-- So are the shortest digits. -/
theorem shortest_spec {value : ℚ} {tries : ℕ} {exponent : ℤ} {number : Scientific}
    (found : shortest value tries exponent = some number) :
    ofRat number.value = .finite value := by
  induction tries generalizing exponent with
  | zero => simp [shortest] at found
  | succ tries ih =>
    rcases Option.or_eq_some_iff.mp found with first | ⟨-, later⟩
    · exact standIn_spec first
    · exact ih later

/-- The search finds what is within its tries. -/
theorem shortest_isSome {value : ℚ} {tries : ℕ} {exponent : ℤ} (index : ℕ) (within : index < tries)
    (found : (standIn value (exponent - index)).isSome) :
    (shortest value tries exponent).isSome := by
  induction tries generalizing exponent index with
  | zero => omega
  | succ tries ih =>
    rw [shortest, Option.isSome_or, Bool.or_eq_true]
    cases index with
    | zero => exact Or.inl (by simpa using found)
    | succ index =>
      refine Or.inr (ih index (by omega) ?_)
      rwa [sub_sub, add_comm 1, ← Nat.cast_succ]

/-- With seventeen digits the closest integer stands for a double. -/
theorem standIn_isSome {value : ℚ} (positive : 0 < value) (double : ofRat value = .finite value) :
    (standIn value (Int.log 10 value - 16)).isSome := by
  have power : (0 : ℚ) < 10 ^ (Int.log 10 value - 16) := zpow_pos (by norm_num) _
  -- The power of ten is a small part of the double.
  have small : (10 : ℚ) ^ (Int.log 10 value - 16) ≤ value / 10 ^ 16 := by
    have below : (10 : ℚ) ^ Int.log 10 value ≤ value := by
      exact_mod_cast Int.zpow_log_le_self (b := 10) (by norm_num) positive
    rw [zpow_sub₀ (by norm_num)]
    exact div_le_div_of_nonneg_right below (by positivity)
  have near := abs_roundEven_mul_sub_le value power
  have nonneg : 0 ≤ roundEven (value / 10 ^ (Int.log 10 value - 16)) := by
    have low := (abs_le.mp (abs_roundEven_sub_le (value / 10 ^ (Int.log 10 value - 16)))).1
    have quotient : 0 < value / 10 ^ (Int.log 10 value - 16) := div_pos positive power
    have more : (-1 : ℚ) < roundEven (value / 10 ^ (Int.log 10 value - 16)) := by linarith
    have cast : -1 < roundEven (value / 10 ^ (Int.log 10 value - 16)) := by exact_mod_cast more
    omega
  have close : |(roundEven (value / 10 ^ (Int.log 10 value - 16)) : ℚ) *
      10 ^ (Int.log 10 value - 16) - value| < value / 2 ^ 54 := by
    have part : value / 10 ^ 16 / 2 < value / 2 ^ 54 := by
      rw [div_div]
      exact div_lt_div_of_pos_left positive (by norm_num) (by norm_num)
    linarith
  have rounded := ofRat_of_close positive double close
  have cast : ((roundEven (value / 10 ^ (Int.log 10 value - 16))).toNat : ℚ) =
      roundEven (value / 10 ^ (Int.log 10 value - 16)) := by
    exact_mod_cast Int.toNat_of_nonneg nonneg
  rw [standIn, List.find?_isSome]
  refine ⟨_, List.mem_cons_self, ?_⟩
  rw [Scientific.value, cast, rounded]
  simp

/-- Every positive double is written with digits that stand for it. -/
theorem positiveText_eq {value : ℚ} (positive : 0 < value) (double : ofRat value = .finite value) :
    ∃ number : Scientific, ofRat number.value = .finite value ∧
      positiveText value = positional (Nat.toDigits 10 number.digits) number.exponent := by
  have last : Int.log 10 value + 1 - (17 : ℕ) = Int.log 10 value - 16 := by omega
  have found : (shortest value 18 (Int.log 10 value + 1)).isSome :=
    shortest_isSome 17 (by omega) (last ▸ standIn_isSome positive double)
  obtain ⟨number, located⟩ := Option.isSome_iff_exists.mp found
  refine ⟨number, shortest_spec located, ?_⟩
  rw [positiveText, located]

section Reading

/-- A power of ten is read up to its last digit. -/
theorem parseExponent_exponentChars (exponent : ℤ) :
    Json.parseExponent (exponentChars exponent) = some (exponentChars exponent, []) := by
  have digits : ∀ char ∈ Nat.toDigits 10 exponent.natAbs, char.isDigit = true :=
    fun char member => Nat.isDigit_of_mem_toDigits (by decide) (by decide) member
  have read : Json.parseDigits (Nat.toDigits 10 exponent.natAbs) =
      some (Nat.toDigits 10 exponent.natAbs, []) := by
    unfold Json.parseDigits
    rw [List.takeWhile_eq_self_iff.mpr digits, List.dropWhile_eq_nil_iff.mpr digits]
    split
    · rename_i empty
      exact absurd empty Nat.toDigits_ne_nil
    · rfl
  by_cases negative : exponent < 0
  · simp [exponentChars, negative, Json.parseExponent, read]
  · simp [exponentChars, negative, Json.parseExponent, read]

/-- The digits behind its sign spell its size. -/
theorem exponentChars_size (exponent : ℤ) :
    Nat.ofDigitChars 10 (((if exponent < 0 then '-' else '+') ::
      Nat.toDigits 10 exponent.natAbs).filter Char.isDigit) 0 = exponent.natAbs := by
  have unsigned : ¬(if exponent < 0 then '-' else '+').isDigit = true := by
    split <;> decide
  have digits : (Nat.toDigits 10 exponent.natAbs).filter Char.isDigit =
      Nat.toDigits 10 exponent.natAbs :=
    List.filter_eq_self.mpr fun char member =>
      Nat.isDigit_of_mem_toDigits (by decide) (by decide) member
  rw [List.filter_cons_of_neg unsigned, digits, Nat.ofDigitChars_ten_toDigits]

/-- A power of ten divides where it is negative. -/
theorem mul_zpow_natAbs (value : ℚ) (exponent : ℤ) :
    (if exponent < 0 then value / 10 ^ exponent.natAbs else value * 10 ^ exponent.natAbs) =
      value * 10 ^ exponent := by
  split
  · have power : exponent = -(exponent.natAbs : ℤ) := by omega
    nth_rewrite 2 [power]
    rw [zpow_neg, zpow_natCast, div_eq_mul_inv]
  · have power : exponent = (exponent.natAbs : ℤ) := by omega
    nth_rewrite 2 [power]
    rw [zpow_natCast]

/-- What may follow the digits of a number: nothing, or a power of ten. -/
def tailChars (power : Option ℤ) : List Char := (power.map exponentChars).getD []

/-- It continues the number with no digit and no point. -/
theorem tailChars_stops {power : Option ℤ} {char : Char} {more : List Char}
    (same : tailChars power = char :: more) : char.isDigit = false ∧ char ≠ '.' := by
  cases power with
  | none => simp [tailChars] at same
  | some exponent =>
    simp only [tailChars, Option.map_some, Option.getD_some, exponentChars] at same
    rw [← (List.cons.inj same).1]
    decide

/-- A number with digits on both sides of its point is read up to its end. -/
theorem decimalPrefix_withFraction (whole fraction : List Char) (nonempty : whole ≠ [])
    (wholeDigits : ∀ char ∈ whole, char.isDigit = true)
    (fractionDigits : ∀ char ∈ fraction, char.isDigit = true) (power : Option ℤ) :
    decimalPrefix (withFraction whole fraction ++ tailChars power) =
      some ((Nat.ofDigitChars 10 (whole ++ fraction) 0 : ℚ) / 10 ^ fraction.length *
        10 ^ power.getD 0, []) := by
  -- A run of digits ends where the tail begins.
  have taken : ∀ {digits : List Char}, (∀ char ∈ digits, char.isDigit = true) →
      (digits ++ tailChars power).takeWhile Char.isDigit = digits ∧
        (digits ++ tailChars power).dropWhile Char.isDigit = tailChars power := by
    intro digits decimal
    rw [List.takeWhile_append_of_pos decimal, List.dropWhile_append_of_pos decimal]
    cases next : tailChars power with
    | nil => simp
    | cons char more =>
      have none : ¬char.isDigit = true := by simp [(tailChars_stops next).1]
      rw [List.takeWhile_cons_of_neg none, List.dropWhile_cons_of_neg none, List.append_nil]
      exact ⟨rfl, rfl⟩
  have left : (whole ++ '.' :: (fraction ++ tailChars power)).takeWhile Char.isDigit = whole := by
    rw [List.takeWhile_append_of_pos wholeDigits, List.takeWhile_cons_of_neg (by decide),
      List.append_nil]
  have right : (whole ++ '.' :: (fraction ++ tailChars power)).dropWhile Char.isDigit =
      '.' :: (fraction ++ tailChars power) := by
    rw [List.dropWhile_append_of_pos wholeDigits, List.dropWhile_cons_of_neg (by decide)]
  have wholeTaken := taken wholeDigits
  have fractionTaken := taken fractionDigits
  unfold decimalPrefix withFraction
  -- There is a fraction or none, and a power of ten or none.
  cases power with
  | none =>
    simp only [tailChars, Option.map_none, Option.getD_none, List.append_nil] at *
    by_cases integer : fraction = []
    · simp [integer, wholeTaken.1, wholeTaken.2, nonempty, Json.parseExponent]
    · simp [integer, left, right, fractionTaken.1, fractionTaken.2, nonempty, Json.parseExponent]
  | some exponent =>
    have read := parseExponent_exponentChars exponent
    simp only [tailChars, Option.map_some, Option.getD_some, exponentChars] at *
    by_cases integer : fraction = []
    · simp [integer, wholeTaken.1, wholeTaken.2, nonempty, read, exponentChars_size,
        mul_zpow_natAbs]
    · simp [integer, left, right, fractionTaken.1, fractionTaken.2, nonempty, read,
        exponentChars_size, mul_zpow_natAbs]

/-- Digits laid out around a point spell the value they have with their power of ten. -/
theorem decimalPrefix_positional (digits : List Char) (nonempty : digits ≠ [])
    (decimal : ∀ char ∈ digits, char.isDigit = true) (exponent : ℤ) :
    decimalPrefix (positional digits exponent) =
      some ((Nat.ofDigitChars 10 digits 0 : ℚ) * 10 ^ exponent, []) := by
  have zeros : ∀ count : ℕ, ∀ char ∈ List.replicate count '0', char.isDigit = true := by
    intro count char member
    rw [(List.mem_replicate.mp member).2]
    decide
  have size : 0 < digits.length := List.length_pos_iff.mpr nonempty
  -- A number is its digits divided by a power of ten, and multiplied by another one.
  have value : ∀ {moved : ℕ} {power : ℤ}, power - moved = exponent →
      (Nat.ofDigitChars 10 digits 0 : ℚ) / 10 ^ moved * 10 ^ power =
        (Nat.ofDigitChars 10 digits 0 : ℚ) * 10 ^ exponent := by
    intro moved power same
    rw [← same, zpow_sub₀ (by norm_num), zpow_natCast]
    ring
  unfold positional
  simp only
  split
  · -- All digits are in front of the point, and zeros behind them.
    rename_i integer
    have read := decimalPrefix_withFraction (digits ++ List.replicate exponent.toNat '0') []
      (by simp [nonempty])
      (fun char member => (List.mem_append.mp member).elim (decimal char) (zeros _ char))
      (by simp) none
    have spelled : Nat.ofDigitChars 10 (digits ++ List.replicate exponent.toNat '0') 0 =
        Nat.ofDigitChars 10 digits 0 * 10 ^ exponent.toNat := by
      rw [ofDigitChars_append_eq, Nat.ofDigitChars_replicate_zero, List.length_replicate]
      simp
    have power : (10 : ℚ) ^ exponent = 10 ^ exponent.toNat := by
      rw [← zpow_natCast, Int.toNat_of_nonneg (by omega)]
    simp only [withFraction, if_true, tailChars, Option.map_none, Option.getD_none,
      List.append_nil, spelled] at read
    rw [read, power]
    simp
  split
  · -- The point is between two digits.
    have read := decimalPrefix_withFraction (digits.take (digits.length + exponent).toNat)
      (digits.drop (digits.length + exponent).toNat)
      (List.ne_nil_of_length_pos (by rw [List.length_take]; omega))
      (fun char member => decimal char (List.mem_of_mem_take member))
      (fun char member => decimal char (List.mem_of_mem_drop member)) none
    rw [List.take_append_drop, value (by simp; omega)] at read
    simpa [tailChars] using read
  split
  · -- Zeros stand between the point and the digits.
    have read := decimalPrefix_withFraction ['0']
      (List.replicate (-(digits.length + exponent)).toNat '0' ++ digits) (by simp) (by simp)
      (fun char member => (List.mem_append.mp member).elim (zeros _ char) (decimal char)) none
    have spelled : Nat.ofDigitChars 10 (['0'] ++
        (List.replicate (-(digits.length + exponent)).toNat '0' ++ digits)) 0 =
        Nat.ofDigitChars 10 digits 0 := by
      rw [ofDigitChars_append_eq, ofDigitChars_append_eq, Nat.ofDigitChars_replicate_zero]
      simp [Nat.ofDigitChars]
    rw [spelled, value (by simp; omega)] at read
    simpa [tailChars] using read
  · -- A power of ten follows the digits.
    have read := decimalPrefix_withFraction (digits.take 1) (digits.drop 1)
      (List.ne_nil_of_length_pos (by rw [List.length_take]; omega))
      (fun char member => decimal char (List.mem_of_mem_take member))
      (fun char member => decimal char (List.mem_of_mem_drop member))
      (some (digits.length + exponent - 1))
    rw [List.take_append_drop, value (by simp; omega)] at read
    simpa [tailChars] using read

end Reading

section Writing

/-- The characters a number is written with. -/
def isNumberChar (char : Char) : Bool :=
  char.isDigit || char = '.' || char = 'e' || char = '+' || char = '-'

theorem isNumberChar_of_isDigit {char : Char} (digit : char.isDigit = true) :
    isNumberChar char = true := by
  simp [isNumberChar, digit]

/-- A text of a number: it begins with a digit and goes on with such characters. -/
structure NumberChars (text : List Char) : Prop where
  begins : ∃ first rest, text = first :: rest ∧ first.isDigit = true
  chars : ∀ char ∈ text, isNumberChar char = true

/-- What follows a number may be more of such characters. -/
theorem NumberChars.append {text more : List Char} (number : NumberChars text)
    (others : ∀ char ∈ more, isNumberChar char = true) : NumberChars (text ++ more) := by
  obtain ⟨⟨first, rest, same, digit⟩, chars⟩ := number
  refine ⟨⟨first, rest ++ more, by rw [same, List.cons_append], digit⟩, ?_⟩
  intro char member
  exact (List.mem_append.mp member).elim (chars char) (others char)

/-- Digits are a number. -/
theorem numberChars_of_isDigit {digits : List Char} (nonempty : digits ≠ [])
    (decimal : ∀ char ∈ digits, char.isDigit = true) : NumberChars digits := by
  obtain ⟨first, rest, rfl⟩ := List.exists_cons_of_ne_nil nonempty
  exact ⟨⟨first, rest, rfl, decimal first List.mem_cons_self⟩, fun char member =>
    isNumberChar_of_isDigit (decimal char member)⟩

/-- So are digits with a fraction. -/
theorem numberChars_withFraction {whole fraction : List Char} (nonempty : whole ≠ [])
    (wholeDigits : ∀ char ∈ whole, char.isDigit = true)
    (fractionDigits : ∀ char ∈ fraction, char.isDigit = true) :
    NumberChars (withFraction whole fraction) := by
  have number := numberChars_of_isDigit nonempty wholeDigits
  unfold withFraction
  split
  · exact number
  · refine number.append fun char member => ?_
    rcases List.mem_cons.mp member with rfl | member
    · rfl
    · exact isNumberChar_of_isDigit (fractionDigits char member)

/-- So is a power of ten. -/
theorem exponentChars_chars (exponent : ℤ) :
    ∀ char ∈ exponentChars exponent, isNumberChar char = true := by
  intro char member
  rcases List.mem_cons.mp member with rfl | member
  · rfl
  rcases List.mem_cons.mp member with rfl | member
  · split <;> rfl
  · exact isNumberChar_of_isDigit (Nat.isDigit_of_mem_toDigits (by decide) (by decide) member)

/-- Digits laid out around a point are a number. -/
theorem numberChars_positional {digits : List Char} (nonempty : digits ≠ [])
    (decimal : ∀ char ∈ digits, char.isDigit = true) (exponent : ℤ) :
    NumberChars (positional digits exponent) := by
  have size : 0 < digits.length := List.length_pos_iff.mpr nonempty
  have zeros : ∀ count : ℕ, ∀ char ∈ List.replicate count '0', char.isDigit = true := by
    intro count char member
    rw [(List.mem_replicate.mp member).2]
    decide
  have front : ∀ {count : ℕ}, 0 < count →
      NumberChars (withFraction (digits.take count) (digits.drop count)) := fun more =>
    numberChars_withFraction (List.ne_nil_of_length_pos (by rw [List.length_take]; omega))
      (fun char member => decimal char (List.mem_of_mem_take member))
      (fun char member => decimal char (List.mem_of_mem_drop member))
  unfold positional
  simp only
  split
  · exact (numberChars_of_isDigit nonempty decimal).append fun char member =>
      isNumberChar_of_isDigit (zeros _ char member)
  split
  · exact front (by omega)
  split
  · exact numberChars_withFraction (by simp) (by simp) fun char member =>
      (List.mem_append.mp member).elim (zeros _ char) (decimal char)
  · exact (front Nat.one_pos).append (exponentChars_chars _)

/-- A double that is not negative is written as a number, and a negative one after a sign. -/
theorem numberChars_numberText {value : ℚ} (nonneg : 0 ≤ value)
    (double : ofRat value = .finite value) : NumberChars (numberText value) := by
  rcases nonneg.eq_or_lt with zero | positive
  · subst zero
    have text : numberText 0 = ['0'] := by simp [numberText]
    rw [text]
    exact numberChars_of_isDigit (by simp) (by simp)
  · obtain ⟨number, -, written⟩ := positiveText_eq positive double
    rw [numberText, if_neg positive.ne', if_neg (not_lt.mpr nonneg), written]
    exact numberChars_positional Nat.toDigits_ne_nil (fun char member =>
      Nat.isDigit_of_mem_toDigits (by decide) (by decide) member) _

theorem numberText_neg {value : ℚ} (negative : value < 0) :
    numberText value = '-' :: numberText (-value) := by
  have positive : 0 < -value := neg_pos.mpr negative
  rw [numberText, if_neg negative.ne, if_pos negative, numberText, if_neg positive.ne',
    if_neg (not_lt.mpr positive.le)]

/-- A double that is not negative is read back from its text. -/
theorem decimalPrefix_numberText {value : ℚ} (nonneg : 0 ≤ value)
    (double : ofRat value = .finite value) :
    ∃ read, decimalPrefix (numberText value) = some (read, []) ∧ ofRat read = .finite value := by
  rcases nonneg.eq_or_lt with zero | positive
  · -- Zero is its own digit.
    subst zero
    refine ⟨0, ?_, double⟩
    have read := decimalPrefix_positional ['0'] (by simp) (by simp) 0
    simpa [numberText, positional, Nat.ofDigitChars] using read
  · obtain ⟨number, rounded, written⟩ := positiveText_eq positive double
    have read := decimalPrefix_positional (Nat.toDigits 10 number.digits) Nat.toDigits_ne_nil
      (fun char member => Nat.isDigit_of_mem_toDigits (by decide) (by decide) member)
      number.exponent
    rw [Nat.ofDigitChars_ten_toDigits] at read
    refine ⟨number.value, ?_, rounded⟩
    rw [numberText, if_neg positive.ne', if_neg (not_lt.mpr nonneg), written, read]
    rfl

/-- Doubles written the same are the same. -/
theorem numberText_injective {first second : ℚ} (one : ofRat first = .finite first)
    (two : ofRat second = .finite second) (same : numberText first = numberText second) :
    first = second := by
  -- Doubles that are not negative are read back from their texts.
  have unsigned : ∀ {first second : ℚ}, 0 ≤ first → 0 ≤ second → ofRat first = .finite first →
      ofRat second = .finite second → numberText first = numberText second → first = second := by
    intro first second positive other one two same
    obtain ⟨read, found, rounded⟩ := decimalPrefix_numberText positive one
    obtain ⟨again, located, roundedToo⟩ := decimalPrefix_numberText other two
    rw [same, located, Option.some.injEq, Prod.mk.injEq] at found
    rw [found.1, rounded] at roundedToo
    injection roundedToo
  -- A sign is no digit.
  have apart : ∀ {value other : ℚ}, value < 0 → 0 ≤ other → ofRat other = .finite other →
      numberText value ≠ numberText other := by
    intro value other negative nonneg double same
    obtain ⟨begun, rest, written, digit⟩ := (numberChars_numberText nonneg double).begins
    rw [numberText_neg negative, written] at same
    rw [← (List.cons.inj same).1] at digit
    exact absurd digit (by decide)
  rcases lt_or_ge first 0 with negative | nonneg <;> rcases lt_or_ge second 0 with less | more
  · rw [numberText_neg negative, numberText_neg less, List.cons.injEq] at same
    exact neg_inj.mp (unsigned (neg_nonneg.mpr negative.le) (neg_nonneg.mpr less.le)
      (ofRat_neg one) (ofRat_neg two) same.2)
  · exact absurd same (apart negative more two)
  · exact absurd same.symm (apart less nonneg one)
  · exact unsigned nonneg more one two same

/-- A double is written with a digit or a sign first, and such characters only. -/
theorem numberText_chars {value : ℚ} (double : ofRat value = .finite value) :
    (∃ first rest, numberText value = first :: rest ∧ (first.isDigit = true ∨ first = '-')) ∧
      ∀ char ∈ numberText value, isNumberChar char = true := by
  rcases lt_or_ge value 0 with negative | nonneg
  · obtain ⟨-, chars⟩ := numberChars_numberText (neg_nonneg.mpr negative.le) (ofRat_neg double)
    rw [numberText_neg negative]
    refine ⟨⟨_, _, rfl, Or.inr rfl⟩, fun char member => ?_⟩
    rcases List.mem_cons.mp member with rfl | member
    · rfl
    · exact chars char member
  · obtain ⟨⟨first, rest, written, digit⟩, chars⟩ := numberChars_numberText nonneg double
    exact ⟨⟨first, rest, written, Or.inl digit⟩, chars⟩

end Writing

end Double

end Pocketdex
