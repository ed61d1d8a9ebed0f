import Pocketdex.Bank.BalanceChange
import Pocketdex.Utils.Number

/-! How the texts of single coins are parsed. -/

namespace Pocketdex

/-- The characters of a denomination are ASCII characters. -/
theorem isDenomChar_ascii {char : Char} (valid : isDenomChar char = true) : char.toNat < 128 := by
  simp only [isDenomChar, isLatinLetter, Char.isDigit, Bool.or_eq_true, Bool.and_eq_true,
    decide_eq_true_eq] at valid
  rcases valid with ((lower | upper) | digit) | slash
  · have high : char.toNat ≤ 122 := lower.2
    omega
  · have high : char.toNat ≤ 90 := upper.2
    omega
  · have high : char.toNat ≤ 57 := digit.2
    omega
  · subst slash
    decide

/-- The characters of a denomination are neither blanks nor commas. -/
theorem isDenomChar_plain {char : Char} (valid : isDenomChar char = true) :
    isWhitespace char = false ∧ char ≠ ',' := by
  have checked : ∀ code < 128, isDenomChar (Char.ofNat code) = true →
      isWhitespace (Char.ofNat code) = false ∧ Char.ofNat code ≠ ',' := by decide
  exact ascii_forall (fun char => isDenomChar char = true →
    isWhitespace char = false ∧ char ≠ ',') checked (isDenomChar_ascii valid) valid

/-- A letter is neither a digit nor a point. -/
theorem isLatinLetter_plain {char : Char} (letter : isLatinLetter char = true) :
    char.isDigit = false ∧ char ≠ '.' := by
  have ascii : char.toNat < 128 := isDenomChar_ascii (by simp [isDenomChar, letter])
  have checked : ∀ code < 128, isLatinLetter (Char.ofNat code) = true →
      (Char.ofNat code).isDigit = false ∧ Char.ofNat code ≠ '.' := by decide
  exact ascii_forall (fun char => isLatinLetter char = true →
    char.isDigit = false ∧ char ≠ '.') checked ascii letter

/-- A denomination begins with a letter, and all its characters are allowed ones. -/
theorem isDenom_chars {denom : List Char} (valid : isDenom denom = true) :
    (∃ first rest, denom = first :: rest ∧ isLatinLetter first = true) ∧
      ∀ char ∈ denom, isDenomChar char = true := by
  cases denom with
  | nil => simp [isDenom] at valid
  | cons first rest =>
    simp only [isDenom, Bool.and_eq_true, List.all_eq_true] at valid
    refine ⟨⟨first, rest, rfl, valid.1.1.1⟩, ?_⟩
    intro char member
    rcases List.mem_cons.mp member with rfl | inside
    · simp [isDenomChar, valid.1.1.1]
    · exact valid.1.1.2 char inside

/-- A number and a denomination after it are parsed apart. -/
theorem parseCoin_digits {decimal : String → Int} {digits denom : List Char}
    (nonempty : digits ≠ []) (numeral : ∀ char ∈ digits, char.isDigit = true)
    (valid : isDenom denom = true) :
    parseCoin decimal (digits ++ denom) = some ⟨String.ofList digits, String.ofList denom⟩ := by
  obtain ⟨⟨first, rest, shape, letter⟩, _⟩ := isDenom_chars valid
  obtain ⟨noDigit, noPoint⟩ := isLatinLetter_plain letter
  -- The digits end where the letter begins, and no fraction follows them.
  have whole : (digits ++ denom).takeWhile Char.isDigit = digits := by
    rw [List.takeWhile_append_of_pos numeral, shape, List.takeWhile_cons_of_neg (by simp [noDigit]),
      List.append_nil]
  have left : (digits ++ denom).dropWhile Char.isDigit = denom := by
    rw [List.dropWhile_append_of_pos numeral, shape, List.dropWhile_cons_of_neg (by simp [noDigit])]
  have unsplit : splitFraction denom = (none, denom) := by
    rw [shape]
    unfold splitFraction
    split
    · rename_i same
      exact absurd (List.cons.inj same).1 noPoint
    · rfl
  unfold parseCoin
  rw [whole, left, unsplit]
  simp only [valid, if_true]

/-- A text without blanks and commas is parsed as the one coin it spells. -/
theorem parseCoins_text {decimal : String → Int} {text : String} {coin : Coin}
    (plain : ∀ char ∈ text.toList, isWhitespace char = false ∧ char ≠ ',')
    (read : parseCoin decimal text.toList = some coin) :
    parseCoins decimal text = .ok [coin] := by
  have nonempty : text.toList ≠ [] := by
    intro none
    rw [none] at read
    simp [parseCoin, splitFraction, isDenom] at read
  have unblank : text.toList.filter (fun char => !isWhitespace char) = text.toList :=
    List.filter_eq_self.mpr fun char member => by simp [(plain char member).1]
  -- Without a comma the text is one part.
  have onePart : splitCommas text.toList = [text.toList] := by
    rw [splitCommas, List.splitOnP_eq_singleton fun char member => by simp [(plain char member).2]]
    simp [nonempty]
  rw [parseCoins, unblank, onePart]
  simp only [List.mapM_cons, List.mapM_nil, read, bind, Except.bind, pure, Except.pure]

/-- A numeral and a denomination hold neither blanks nor commas. -/
theorem coinText_plain {amount denom : String} (numeral : IsDecimal amount)
    (valid : isDenom denom.toList = true) :
    ∀ char ∈ (amount ++ denom).toList, isWhitespace char = false ∧ char ≠ ',' := by
  intro char member
  rw [String.toList_append] at member
  rcases List.mem_append.mp member with inside | inside
  · exact ⟨isWhitespace_of_isDigit (numeral.2 char inside), fun same =>
      absurd (same ▸ numeral.2 char inside) (by decide)⟩
  · exact isDenomChar_plain ((isDenom_chars valid).2 char inside)

/-- A numeral with a denomination after it is parsed into both. -/
theorem parseCoins_decimal {decimal : String → Int} {amount denom : String}
    (numeral : IsDecimal amount) (valid : isDenom denom.toList = true) :
    parseCoins decimal (amount ++ denom) = .ok [⟨amount, denom⟩] := by
  refine parseCoins_text (coinText_plain numeral valid) ?_
  rw [String.toList_append, parseCoin_digits numeral.1 numeral.2 valid, String.ofList_toList,
    String.ofList_toList]

end Pocketdex
