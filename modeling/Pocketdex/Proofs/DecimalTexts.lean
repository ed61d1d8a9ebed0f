import Pocketdex.Primitives.GenesisEntities
import Pocketdex.Proofs.CoinTexts
import Pocketdex.Utils.Digits

/-! Decimals with up to eighteen digits behind the point, and how each conversion reads them. -/

namespace Pocketdex

/-- No digit is a point. -/
theorem pointless {digits : List Char} (decimal : ∀ char ∈ digits, char.isDigit = true) :
    ∀ char ∈ digits, decide (char ≠ '.') = true := by
  intro char member
  have digit := decimal char member
  rw [decide_eq_true_eq]
  rintro rfl
  exact absurd digit (by decide)

/-- A decimal: digits, and behind a point, if there is one, up to eighteen more. -/
structure DecimalText where
  int : String
  frac : Option String
  intDigits : IsDecimal int
  fracDigits : ∀ digits, frac = some digits →
    (∀ char ∈ digits.toList, char.isDigit = true) ∧ digits.toList.length ≤ 18

namespace DecimalText

/-- The digits behind the point. -/
def fracChars (dec : DecimalText) : List Char := (dec.frac.map String.toList).getD []

/-- The decimal as it is written. -/
def text (dec : DecimalText) : String :=
  match dec.frac with
  | none => dec.int
  | some digits => dec.int ++ "." ++ digits

/-- The value a decimal spells. -/
def value (dec : DecimalText) : ℚ :=
  decimalValue dec.int + Nat.ofDigitChars 10 dec.fracChars 0 / 10 ^ dec.fracChars.length

/-- The value scaled by ten to the eighteenth, an integer. -/
def scaled (dec : DecimalText) : ℕ :=
  decimalValue dec.int * 10 ^ 18 +
    Nat.ofDigitChars 10 dec.fracChars 0 * 10 ^ (18 - dec.fracChars.length)

variable (dec : DecimalText)

/-- The digits behind the point are at most eighteen. -/
theorem fracChars_valid :
    (∀ char ∈ dec.fracChars, char.isDigit = true) ∧ dec.fracChars.length ≤ 18 := by
  unfold fracChars
  cases written : dec.frac with
  | none => simp
  | some digits => exact dec.fracDigits digits written

/-- The scaled value is ten to the eighteenth times the value. -/
theorem scaled_eq : (dec.scaled : ℚ) = dec.value * 10 ^ 18 := by
  -- The digits behind the point are moved to the left of it, with zeros behind them.
  have moved : (10 : ℚ) ^ 18 / 10 ^ dec.fracChars.length = 10 ^ (18 - dec.fracChars.length) := by
    rw [div_eq_iff (by positivity), ← pow_add, Nat.sub_add_cancel dec.fracChars_valid.2]
  rw [value, add_mul, div_mul_eq_mul_div, mul_div_assoc, moved, scaled]
  push_cast
  ring

/-- What stands in front of the first point of a decimal. -/
theorem takeWhile_point : dec.text.toList.takeWhile (· ≠ '.') = dec.int.toList := by
  have front := pointless dec.intDigits.2
  unfold text
  split
  · exact List.takeWhile_eq_self_iff.mpr front
  · rw [String.toList_append, String.toList_append, List.append_assoc,
      List.takeWhile_append_of_pos front]
    simp

/-- What stands behind it. -/
theorem dropWhile_point : ((dec.text.toList.dropWhile (· ≠ '.')).drop 1).takeWhile (· ≠ '.') =
    dec.fracChars := by
  have valid := pointless dec.fracChars_valid.1
  have front := pointless dec.intDigits.2
  unfold text
  cases written : dec.frac with
  | none =>
    have none : dec.int.toList.dropWhile (· ≠ '.') = [] := List.dropWhile_eq_nil_iff.mpr front
    simp only [none, fracChars, written]
    rfl
  | some digits =>
    rw [String.toList_append, String.toList_append, List.append_assoc,
      List.dropWhile_append_of_pos front]
    simp only [fracChars, written, Option.map_some, Option.getD_some] at valid ⊢
    simpa using List.takeWhile_eq_self_iff.mpr valid

/-- A decimal is scaled on its digits without an error. -/
theorem decToScaledInt_text : decToScaledInt dec.text = toString dec.scaled := by
  obtain ⟨decimal, short⟩ := dec.fracChars_valid
  have padded : (dec.fracChars ++ List.replicate (18 - dec.fracChars.length) '0').take 18 =
      dec.fracChars ++ List.replicate (18 - dec.fracChars.length) '0' :=
    List.take_of_length_le (by simp; omega)
  have digits : ∀ char ∈ dec.int.toList ++
      (dec.fracChars ++ List.replicate (18 - dec.fracChars.length) '0'), char.isDigit = true := by
    intro char member
    rcases List.mem_append.mp member with whole | rest
    · exact dec.intDigits.2 char whole
    · rcases List.mem_append.mp rest with fraction | zero
      · exact decimal char fraction
      · rw [(List.mem_replicate.mp zero).2]
        decide
  -- All digits together, with the zeros, spell the scaled value.
  have spelled : Nat.ofDigitChars 10 (dec.int.toList ++
      (dec.fracChars ++ List.replicate (18 - dec.fracChars.length) '0')) 0 = dec.scaled := by
    rw [ofDigitChars_append_eq, ofDigitChars_append_eq, Nat.ofDigitChars_replicate_zero]
    simp only [List.length_append, List.length_replicate, Nat.add_sub_cancel' short, scaled,
      decimalValue, Nat.mul_zero, Nat.add_zero]
  rw [← spelled, toString_ofDigitChars digits]
  unfold decToScaledInt
  simp only [takeWhile_point, dropWhile_point, padded]

variable {dec}

/-- A decimal with a point is its digits with the point between them. -/
theorem toList_text (pointed : dec.frac ≠ none) :
    dec.text.toList = dec.int.toList ++ '.' :: dec.fracChars := by
  unfold text fracChars
  cases written : dec.frac with
  | none => exact absurd written pointed
  | some digits =>
    simp only [String.toList_append, List.append_assoc, Option.map_some, Option.getD_some]
    rfl

/-- The digits on both sides of the point are read up to the end. -/
theorem decimalPrefix_text (pointed : dec.frac ≠ none) :
    Double.decimalPrefix dec.text.toList = some (dec.value, []) := by
  obtain ⟨decimal, -⟩ := dec.fracChars_valid
  have nonzero : (10 : ℚ) ^ dec.fracChars.length ≠ 0 := by positivity
  have whole : (dec.int.toList ++ '.' :: dec.fracChars).takeWhile Char.isDigit =
      dec.int.toList := by
    rw [List.takeWhile_append_of_pos dec.intDigits.2, List.takeWhile_cons_of_neg (by decide),
      List.append_nil]
  have rest : (dec.int.toList ++ '.' :: dec.fracChars).dropWhile Char.isDigit =
      '.' :: dec.fracChars := by
    rw [List.dropWhile_append_of_pos dec.intDigits.2, List.dropWhile_cons_of_neg (by decide)]
  -- Both runs of digits together spell the value, moved to the left by the second one.
  have spelled : (Nat.ofDigitChars 10 (dec.int.toList ++ dec.fracChars) 0 : ℚ) /
      10 ^ dec.fracChars.length = dec.value := by
    rw [ofDigitChars_append_eq, value, decimalValue]
    push_cast
    rw [add_div, mul_div_cancel_right₀ _ nonzero]
  unfold Double.decimalPrefix
  simp only [toList_text pointed, whole, rest, List.takeWhile_eq_self_iff.mpr decimal,
    List.dropWhile_eq_nil_iff.mpr decimal, dec.intDigits.1, false_and, if_false, spelled,
    Json.parseExponent]

/-- A decimal with a point is read as the double closest to its value, for it spells no integer. -/
theorem ofText_text (pointed : dec.frac ≠ none) :
    Double.ofText dec.text = Double.ofRat dec.value := by
  have chars : ∀ char ∈ dec.text.toList, char.isDigit = true ∨ char = '.' := by
    intro char member
    rw [toList_text pointed] at member
    rcases List.mem_append.mp member with whole | rest
    · exact Or.inl (dec.intDigits.2 char whole)
    · rcases List.mem_cons.mp rest with point | fraction
      · exact Or.inr point
      · exact Or.inl (dec.fracChars_valid.1 char fraction)
  have point : '.' ∈ dec.text.toList := by simp [toList_text pointed]
  have noInteger : digitsValue 10 dec.text.toList = none := digitsValue_none point (by decide)
  -- The first character is a digit, and none is a blank.
  obtain ⟨first, others, whole⟩ := List.exists_cons_of_ne_nil dec.intDigits.1
  have begun : dec.text.toList = first :: (others ++ '.' :: dec.fracChars) := by
    rw [toList_text pointed, whole, List.cons_append]
  have digit : first.isDigit = true := dec.intDigits.2 first (by simp [whole])
  have unblank : trimBlanks dec.text.toList = dec.text.toList :=
    trimBlanks_of_unblank fun char member =>
      (chars char member).elim isWhitespace_of_isDigit fun same => by rw [same]; decide
  have unsigned : splitSign dec.text.toList = (false, dec.text.toList) := by
    rw [begun]
    exact splitSign_of_isDigit digit
  have finite : dec.text.toList ≠ "Infinity".toList := by
    intro same
    have letter : first = 'I' := (List.cons.inj (begun.symm.trans same)).1
    exact absurd digit (by rw [letter]; decide)
  unfold Double.ofText
  rw [bigInt_numeral (by rw [begun]; simp) chars, noInteger]
  simp only [unblank, unsigned, finite, if_false, decimalPrefix_text pointed]
  rfl

/-- A coin written with a decimal is parsed into what the decimal is converted to. -/
theorem parseCoin_text (pointed : dec.frac ≠ none) {denom : String}
    (valid : isDenom denom.toList = true) (convert : String → Int) :
    parseCoins convert (dec.text ++ denom) = .ok [⟨toString (convert dec.text), denom⟩] := by
  obtain ⟨⟨first, rest, shape, letter⟩, denomChars⟩ := isDenom_chars valid
  obtain ⟨noDigit, -⟩ := isLatinLetter_plain letter
  refine parseCoins_text ?_ ?_
  · intro char member
    rw [String.toList_append, toList_text pointed, List.append_assoc, List.cons_append] at member
    -- A digit, the point or a letter of the denomination is neither a blank nor a comma.
    have plain : ∀ char : Char, char.isDigit = true → isWhitespace char = false ∧ char ≠ ',' :=
      fun char digit => ⟨isWhitespace_of_isDigit digit, fun same =>
        absurd (same ▸ digit) (by decide)⟩
    rcases List.mem_append.mp member with whole | other
    · exact plain char (dec.intDigits.2 char whole)
    · rcases List.mem_cons.mp other with rfl | other
      · decide
      · rcases List.mem_append.mp other with fraction | unit
        · exact plain char (dec.fracChars_valid.1 char fraction)
        · exact isDenomChar_plain (denomChars char unit)
  · have whole : (dec.int.toList ++ '.' :: (dec.fracChars ++ denom.toList)).takeWhile
        Char.isDigit = dec.int.toList := by
      rw [List.takeWhile_append_of_pos dec.intDigits.2, List.takeWhile_cons_of_neg (by decide),
        List.append_nil]
    have left : (dec.int.toList ++ '.' :: (dec.fracChars ++ denom.toList)).dropWhile
        Char.isDigit = '.' :: (dec.fracChars ++ denom.toList) := by
      rw [List.dropWhile_append_of_pos dec.intDigits.2, List.dropWhile_cons_of_neg (by decide)]
    -- The fraction ends where the letter begins.
    have split : splitFraction ('.' :: (dec.fracChars ++ denom.toList)) =
        (some ('.' :: dec.fracChars), denom.toList) := by
      have none : ¬first.isDigit = true := by simp [noDigit]
      rw [splitFraction, shape, List.takeWhile_append_of_pos dec.fracChars_valid.1,
        List.dropWhile_append_of_pos dec.fracChars_valid.1, List.takeWhile_cons_of_neg none,
        List.dropWhile_cons_of_neg none, List.append_nil]
    have text : String.ofList (dec.int.toList ++ '.' :: dec.fracChars) = dec.text := by
      rw [← toList_text pointed, String.ofList_toList]
    rw [String.toList_append, toList_text pointed, List.append_assoc, List.cons_append]
    unfold parseCoin
    simp only [whole, left, split, valid, if_true]
    obtain ⟨first, others, begun⟩ := List.exists_cons_of_ne_nil dec.intDigits.1
    rw [begun] at text ⊢
    simp only [text, String.ofList_toList]

end DecimalText

end Pocketdex
