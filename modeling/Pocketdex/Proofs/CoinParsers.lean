import Pocketdex.Proofs.CoinTexts
import Pocketdex.Utils.Texts

/-! The two parsers of coins, on the ways a coin is written in attributes. -/

namespace Pocketdex

/-- The ways a coin is written: as it is, between quotes, or as a JSON object. -/
inductive CoinNotation where
  | bare
  | quoted
  | object
  deriving DecidableEq, Repr

/-- A text writes an amount of a denomination in one of the ways. -/
inductive WritesCoin (amount denom : String) : CoinNotation → String → Prop
  | bare : WritesCoin amount denom .bare (amount ++ denom)
  | quoted {text : String} (parsed : Json.parse text = some (.string (amount ++ denom))) :
    WritesCoin amount denom .quoted text
  | object {text : String} {fields : List (String × Json)}
    (parsed : Json.parse text = some (.object fields))
    (amountField : Json.field fields "amount" = some (.string amount))
    (denomField : Json.field fields "denom" = some (.string denom)) :
    WritesCoin amount denom .object text

/-- Both parsers accept a coin, read the same from it, and what they read spells the bare text. -/
def ParsersAgree (decimal : String → Int) (amount denom text : String) : Prop :=
  ∃ coin, getDenomAndAmount text = .ok coin ∧
    parseCoins decimal (amount ++ denom) = .ok [coin] ∧
    coin.amount ++ coin.denom = amount ++ denom

/-- A denomination of letters only. -/
def LettersOnly (denom : String) : Prop := ∀ char ∈ denom.toList, isLatinLetter char = true

instance (denom : String) : Decidable (LettersOnly denom) :=
  List.decidableBAll (fun char => isLatinLetter char = true) denom.toList

/-- A digit is no blank between tokens. -/
theorem isBlank_of_isDigit {char : Char} (digit : char.isDigit = true) :
    Json.isBlank char = false := by
  by_contra blank
  simp only [Json.isBlank, Bool.not_eq_false, Bool.or_eq_true, decide_eq_true_eq] at blank
  rcases blank with ((rfl | rfl) | rfl) | rfl <;> exact absurd digit (by decide)

/-- A digit begins no JSON value but a number. -/
theorem parseValue_digit {first : Char} (digit : first.isDigit = true) (fuel : ℕ)
    (rest : List Char) :
    Json.parseValue (fuel + 1) (first :: rest) =
      (Json.parseNumber (first :: rest)).map fun parsed => (.number parsed.1, parsed.2) := by
  have unblank : Json.skipBlanks (first :: rest) = first :: rest := by
    rw [Json.skipBlanks, List.dropWhile_cons_of_neg]
    simp [isBlank_of_isDigit digit]
  rw [Json.parseValue, unblank]
  -- Every other value begins with a character that is no digit.
  split
  · rename_i same
    exact absurd ((List.cons.inj same).1 ▸ digit) (by decide)
  · rename_i same
    exact absurd ((List.cons.inj same).1 ▸ digit) (by decide)
  · rename_i same
    exact absurd ((List.cons.inj same).1 ▸ digit) (by decide)
  · rename_i same
    exact absurd ((List.cons.inj same).1 ▸ digit) (by decide)
  · rename_i same
    exact absurd ((List.cons.inj same).1 ▸ digit) (by decide)
  · rename_i same
    exact absurd ((List.cons.inj same).1 ▸ digit) (by decide)
  · cases Json.parseNumber (first :: rest) <;> rfl

/-- A text that begins with a digit denotes a number or nothing. -/
theorem parse_digit {text : String} {first : Char} {rest : List Char}
    (listed : text.toList = first :: rest) (digit : first.isDigit = true) :
    Json.parse text = none ∨ ∃ literal left, Json.parse text = some (.number literal) ∧
      Json.parseNumber text.toList = some (literal, left) ∧ Json.skipBlanks left = [] := by
  rw [Json.parse, listed, parseValue_digit digit]
  cases found : Json.parseNumber (first :: rest) with
  | none => exact Or.inl rfl
  | some parsed =>
    by_cases filled : Json.skipBlanks parsed.2 = []
    · refine Or.inr ⟨parsed.1, parsed.2, ?_, rfl, filled⟩
      simp [filled]
    · refine Or.inl ?_
      simp [filled]

/-- No digits are parsed where a letter stands, or nothing. -/
theorem parseDigits_letters {letters : List Char}
    (plain : ∀ char ∈ letters, isLatinLetter char = true) : Json.parseDigits letters = none := by
  have taken : letters.takeWhile Char.isDigit = [] := by
    cases letters with
    | nil => rfl
    | cons first rest =>
      have noDigit := (isLatinLetter_plain (plain first List.mem_cons_self)).1
      rw [List.takeWhile_cons_of_neg (by simp [noDigit])]
  rw [Json.parseDigits, taken]

/-- Letters alone are no exponent: they are left, or the number is none. -/
theorem parseExponent_letters {letters exponent left : List Char}
    (plain : ∀ char ∈ letters, isLatinLetter char = true)
    (parsed : Json.parseExponent letters = some (exponent, left)) : left = letters := by
  unfold Json.parseExponent at parsed
  split at parsed
  · rename_i first rest
    have others : ∀ char ∈ rest, isLatinLetter char = true := fun char member =>
      plain char (List.mem_cons_of_mem _ member)
    split at parsed
    · -- An exponent needs a digit after its letter and sign.
      split at parsed
      · exact absurd (others '+' List.mem_cons_self) (by decide)
      · exact absurd (others '-' List.mem_cons_self) (by decide)
      · simp [parseDigits_letters others] at parsed
    · cases parsed
      rfl
  · cases parsed
    rfl

/-- A digit begins no exponent. -/
theorem parseExponent_digit {first : Char} {rest : List Char} (digit : first.isDigit = true) :
    Json.parseExponent (first :: rest) = some ([], first :: rest) := by
  have unmarked : ¬(first = 'e' ∨ first = 'E') := by
    rintro (rfl | rfl) <;> exact absurd digit (by decide)
  unfold Json.parseExponent
  simp only [unmarked, if_false]

/-- The integer part of a number leaves the letters, and maybe digits before them. -/
theorem parseInteger_letters {digits letters integer rest : List Char} (nonempty : digits ≠ [])
    (numeral : ∀ char ∈ digits, char.isDigit = true)
    (plain : ∀ char ∈ letters, isLatinLetter char = true)
    (parsed : Json.parseInteger (digits ++ letters) = some (integer, rest)) :
    ∃ more, (∀ char ∈ more, char.isDigit = true) ∧ rest = more ++ letters := by
  obtain ⟨first, more, rfl⟩ := List.exists_cons_of_ne_nil nonempty
  unfold Json.parseInteger at parsed
  split at parsed
  · -- A leading zero is the whole integer part.
    rename_i same
    simp only [List.cons_append, List.cons.injEq] at same
    cases parsed
    exact ⟨more, fun char member => numeral char (List.mem_cons_of_mem _ member), same.2.symm⟩
  · have left : (first :: more ++ letters).dropWhile Char.isDigit = letters := by
      rw [List.dropWhile_append_of_pos numeral]
      cases letters with
      | nil => rfl
      | cons letter others =>
        have noDigit := (isLatinLetter_plain (plain letter List.mem_cons_self)).1
        rw [List.dropWhile_cons_of_neg (by simp [noDigit])]
    unfold Json.parseDigits at parsed
    split at parsed
    · cases parsed
    · cases parsed
      exact ⟨[], by simp, left⟩

/-- Neither a digit nor a letter begins a fraction. -/
theorem parseFraction_plain {text : List Char} (noPoint : ∀ rest, text ≠ '.' :: rest) :
    Json.parseFraction text = some ([], text) := by
  unfold Json.parseFraction
  split
  · exact absurd rfl (noPoint _)
  · rfl

/-- Digits with letters after them are no number that fills the text. -/
theorem parseNumber_letters {digits letters : List Char} {literal : String} {left : List Char}
    (nonempty : digits ≠ []) (numeral : ∀ char ∈ digits, char.isDigit = true)
    (some_letter : letters ≠ []) (plain : ∀ char ∈ letters, isLatinLetter char = true)
    (parsed : Json.parseNumber (digits ++ letters) = some (literal, left)) :
    Json.skipBlanks left ≠ [] := by
  -- No character of the text is a sign, a point or a blank.
  have chars : ∀ {more : List Char} {first : Char} {rest : List Char},
      (∀ char ∈ more, char.isDigit = true) → more ++ letters = first :: rest →
        first ≠ '-' ∧ first ≠ '.' ∧ Json.isBlank first = false := by
    intro more first rest digit shape
    have member : first ∈ more ++ letters := shape ▸ List.mem_cons_self
    rcases List.mem_append.mp member with inside | inside
    · have found := digit first inside
      exact ⟨by rintro rfl; exact absurd found (by decide),
        by rintro rfl; exact absurd found (by decide), isBlank_of_isDigit found⟩
    · have found := plain first inside
      refine ⟨by rintro rfl; exact absurd found (by decide), (isLatinLetter_plain found).2, ?_⟩
      by_contra blank
      simp only [Json.isBlank, Bool.not_eq_false, Bool.or_eq_true, decide_eq_true_eq] at blank
      rcases blank with ((rfl | rfl) | rfl) | rfl <;> exact absurd found (by decide)
  unfold Json.parseNumber at parsed
  split at parsed
  rename_i sign text signed
  have unsigned : text = digits ++ letters := by
    split at signed
    · rename_i same
      exact absurd rfl (chars numeral same).1
    · cases signed
      rfl
  subst unsigned
  simp only [Option.bind_eq_bind, Option.bind_eq_some_iff] at parsed
  obtain ⟨⟨integer, afterInteger⟩, readInteger, ⟨fraction, afterFraction⟩, readFraction,
    ⟨exponent, afterExponent⟩, readExponent, result⟩ := parsed
  obtain ⟨more, digit, rfl⟩ := parseInteger_letters nonempty numeral plain readInteger
  rw [parseFraction_plain fun rest same => (chars digit same).2.1 rfl] at readFraction
  cases readFraction
  cases result
  -- The letters are left over in any case.
  have leftover : afterExponent = more ++ letters := by
    cases more with
    | nil => exact parseExponent_letters plain readExponent
    | cons first rest =>
      rw [List.cons_append, parseExponent_digit (digit first List.mem_cons_self)] at readExponent
      cases readExponent
      rfl
  rw [leftover]
  cases shape : more ++ letters with
  | nil => exact absurd (List.append_eq_nil_iff.mp shape).2 some_letter
  | cons first rest =>
    rw [Json.skipBlanks, List.dropWhile_cons_of_neg (by simp [(chars digit shape).2.2])]
    exact List.cons_ne_nil _ _

/-- A numeral with letters after it is no JSON text. -/
theorem parse_coin_letters {amount denom : String} (numeral : IsDecimal amount)
    (valid : isDenom denom.toList = true) (letters : LettersOnly denom) :
    Json.parse (amount ++ denom) = none := by
  obtain ⟨first, rest, listed⟩ := List.exists_cons_of_ne_nil numeral.1
  obtain ⟨⟨letter, others, shape, -⟩, -⟩ := isDenom_chars valid
  have joined : (amount ++ denom).toList = first :: (rest ++ denom.toList) := by
    rw [String.toList_append, listed, List.cons_append]
  rcases parse_digit joined (numeral.2 first (by simp [listed])) with none | number
  · exact none
  · -- A number would leave the letters.
    obtain ⟨literal, left, -, parsed, filled⟩ := number
    rw [String.toList_append] at parsed
    exact absurd filled (parseNumber_letters numeral.1 numeral.2 (by simp [shape]) letters parsed)

/-- The pattern of the first parser matches exactly the denominations of letters. -/
theorem matchCoin_decimal {amount denom : String} (numeral : IsDecimal amount)
    (valid : isDenom denom.toList = true) :
    matchCoin (amount ++ denom) = if LettersOnly denom then some ⟨amount, denom⟩ else none := by
  obtain ⟨⟨first, rest, shape, letter⟩, -⟩ := isDenom_chars valid
  have noDigit := (isLatinLetter_plain letter).1
  have digits : (amount ++ denom).toList.takeWhile Char.isDigit = amount.toList := by
    rw [String.toList_append, List.takeWhile_append_of_pos numeral.2, shape,
      List.takeWhile_cons_of_neg (by simp [noDigit]), List.append_nil]
  have letters : (amount ++ denom).toList.dropWhile Char.isDigit = denom.toList := by
    rw [String.toList_append, List.dropWhile_append_of_pos numeral.2, shape,
      List.dropWhile_cons_of_neg (by simp [noDigit])]
  have matched : (amount.toList ≠ [] ∧ denom.toList ≠ [] ∧
      denom.toList.all isLatinLetter = true) ↔ LettersOnly denom := by
    constructor
    · rintro ⟨-, -, every⟩
      exact List.all_eq_true.mp every
    · intro every
      exact ⟨numeral.1, by simp [shape], List.all_eq_true.mpr every⟩
  unfold matchCoin
  simp only [digits, letters, String.ofList_toList]
  exact if_congr matched rfl rfl

/-- What the first parser makes of a coin it finds as a text. -/
theorem getDenomAndAmount_quoted {amount denom text : String} (numeral : IsDecimal amount)
    (valid : isDenom denom.toList = true)
    (parsed : Json.parse text = some (.string (amount ++ denom))) :
    getDenomAndAmount text =
      if LettersOnly denom then .ok ⟨amount, denom⟩ else .error s!"Invalid coinAndDenom={text}" := by
  unfold getDenomAndAmount
  rw [parsed]
  simp only [matchCoin_decimal numeral valid]
  by_cases letters : LettersOnly denom
  · simp [letters]
  · simp [letters]

/-- A coin as it is is accepted exactly if its denomination has letters only. -/
theorem getDenomAndAmount_bare {amount denom : String} (numeral : IsDecimal amount)
    (valid : isDenom denom.toList = true) (coin : Coin) :
    getDenomAndAmount (amount ++ denom) = .ok coin ↔ LettersOnly denom ∧ coin = ⟨amount, denom⟩ := by
  by_cases letters : LettersOnly denom
  · unfold getDenomAndAmount
    rw [parse_coin_letters numeral valid letters]
    simp only [matchCoin_decimal numeral valid, letters, if_true, true_and]
    exact ⟨fun same => (Except.ok.inj same).symm, fun same => by rw [same]⟩
  · simp only [letters, false_and, iff_false]
    obtain ⟨first, rest, listed⟩ := List.exists_cons_of_ne_nil numeral.1
    have joined : (amount ++ denom).toList = first :: (rest ++ denom.toList) := by
      rw [String.toList_append, listed, List.cons_append]
    unfold getDenomAndAmount
    -- The text may still denote a number, which has no pattern to match.
    rcases parse_digit joined (numeral.2 first (by simp [listed])) with none | number
    · rw [none]
      simp [matchCoin_decimal numeral valid, letters]
    · obtain ⟨literal, -, parsed, -⟩ := number
      rw [parsed]
      simp

/-- A coin inside a JSON object is returned as it stands there. -/
theorem getDenomAndAmount_object {amount denom text : String} {fields : List (String × Json)}
    (parsed : Json.parse text = some (.object fields))
    (amountField : Json.field fields "amount" = some (.string amount))
    (denomField : Json.field fields "denom" = some (.string denom)) :
    getDenomAndAmount text = .ok ⟨amount, denom⟩ := by
  unfold getDenomAndAmount
  rw [parsed]
  simp only [amountField, denomField, amountOfJson]
  rfl

/-- The parsers agree on a coin exactly if it is written as an object or its denomination has
letters only. -/
theorem coinParsers_agree_iff (decimal : String → Int) {amount denom text : String}
    {style : CoinNotation} (numeral : IsDecimal amount) (valid : isDenom denom.toList = true)
    (written : WritesCoin amount denom style text) :
    ParsersAgree decimal amount denom text ↔ style = .object ∨ LettersOnly denom := by
  have listed : parseCoins decimal (amount ++ denom) = .ok [⟨amount, denom⟩] :=
    parseCoins_decimal numeral valid
  have agree : ParsersAgree decimal amount denom text ↔
      getDenomAndAmount text = .ok ⟨amount, denom⟩ := by
    constructor
    · rintro ⟨coin, accepted, same, -⟩
      rw [listed] at same
      cases same
      exact accepted
    · intro accepted
      exact ⟨_, accepted, listed, rfl⟩
  rw [agree]
  cases written with
  | bare => simp [getDenomAndAmount_bare numeral valid]
  | quoted parsed =>
    rw [getDenomAndAmount_quoted numeral valid parsed]
    by_cases letters : LettersOnly denom <;> simp [letters]
  | object parsed amountField denomField =>
    simp [getDenomAndAmount_object parsed amountField denomField]

/-- Every character is written as one character at least. -/
theorem length_le_escaped (text : List Char) :
    text.length ≤ (text.flatMap Json.escapeChar).length := by
  induction text with
  | nil => simp
  | cons char rest ih =>
    have some : 0 < (Json.escapeChar char).length := by
      unfold Json.escapeChar
      split <;> try simp
      split <;> simp
    rw [List.flatMap_cons, List.length_append, List.length_cons]
    omega

/-- The characters of a quoted text are parsed up to its closing quote. -/
theorem parseString_quote (text : String) (rest : List Char) :
    Json.parseString ((text.toList.flatMap Json.escapeChar ++ '"' :: rest).length + 1)
      (text.toList.flatMap Json.escapeChar ++ '"' :: rest) = some (text.toList, rest) := by
  apply Json.parseString_quoted
  rw [List.length_append]
  have longer := length_le_escaped text.toList
  omega

/-- A text between quotes is parsed at the front of any other. -/
theorem parseValue_quote (text : String) (fuel : ℕ) (rest : List Char) :
    Json.parseValue (fuel + 1) (Json.quote text ++ rest) = some (.string text, rest) := by
  have written : Json.quote text ++ rest =
      '"' :: (text.toList.flatMap Json.escapeChar ++ '"' :: rest) := by
    simp [Json.quote]
  have unblank : Json.skipBlanks ('"' :: (text.toList.flatMap Json.escapeChar ++ '"' :: rest)) =
      '"' :: (text.toList.flatMap Json.escapeChar ++ '"' :: rest) := rfl
  rw [written, Json.parseValue, unblank]
  simp only [parseString_quote, Option.bind_eq_bind, Option.bind_some, String.ofList_toList]
  rfl

/-- A coin between quotes is one of the ways to write it. -/
theorem writesCoin_quote (amount denom : String) :
    WritesCoin amount denom .quoted (stringify (.string (amount ++ denom))) := by
  refine .quoted ?_
  have listed : (stringify (.string (amount ++ denom))).toList =
      Json.quote (amount ++ denom) ++ [] := by
    rw [stringify, String.toList_ofList, List.append_nil]
    rfl
  rw [Json.parse, listed, parseValue_quote]
  rfl

/-- A field with a text is parsed, and what stands behind it decides how the object goes on. -/
theorem parseFields_quote (name text : String) (fuel : ℕ) (rest : List Char) :
    Json.parseFields (fuel + 2) (Json.fieldText name (Json.quote text) ++ rest) =
      match Json.skipBlanks rest with
      | ',' :: rest => do
        let (fields, rest) ← Json.parseFields (fuel + 1) rest
        return ((name, .string text) :: fields, rest)
      | '\x7d' :: rest => some ([(name, .string text)], rest)
      | _ => none := by
  have written : Json.fieldText name (Json.quote text) ++ rest =
      '"' :: (name.toList.flatMap Json.escapeChar ++ '"' :: ':' :: (Json.quote text ++ rest)) := by
    simp [Json.fieldText, Json.quote]
  have unblank : ∀ after, Json.skipBlanks ('"' :: after) = '"' :: after := fun after => rfl
  have colon : ∀ after, Json.skipBlanks (':' :: after) = ':' :: after := fun after => rfl
  rw [written, Json.parseFields, unblank]
  simp only [parseString_quote, Option.bind_eq_bind, Option.bind_some, colon, parseValue_quote,
    String.ofList_toList]
  all_goals rfl

/-- A coin as a JSON object is one of the ways to write it. -/
theorem writesCoin_object (amount denom : String) : WritesCoin amount denom .object
    (stringify (.object [("denom", .string denom), ("amount", .string amount)])) := by
  let fields : List (String × Json) := [("denom", .string denom), ("amount", .string amount)]
  have parsed : Json.parse (stringify (.object fields)) = some (.object fields) := by
    have listed : (stringify (.object fields)).toList =
        '\x7b' :: (Json.fieldText "denom" (Json.quote denom) ++
          ',' :: (Json.fieldText "amount" (Json.quote amount) ++ ['\x7d'])) := by
      simp [stringify, fields, Json.write, Json.writeFields, Json.enclosed, List.intercalate]
    -- The text is longer than the three steps its parser takes.
    obtain ⟨fuel, long⟩ : ∃ fuel, (stringify (.object fields)).length = fuel + 3 := by
      refine ⟨(stringify (.object fields)).length - 3, ?_⟩
      rw [← String.length_toList, listed]
      simp [Json.fieldText, Json.quote]
      omega
    have comma : ∀ after, Json.skipBlanks (',' :: after) = ',' :: after := fun after => rfl
    have brace : Json.skipBlanks ['\x7d'] = ['\x7d'] := rfl
    have inside : Json.parseFields (fuel + 3) (Json.fieldText "denom" (Json.quote denom) ++
        ',' :: (Json.fieldText "amount" (Json.quote amount) ++ ['\x7d'])) = some (fields, []) := by
      rw [parseFields_quote, comma]
      simp only [parseFields_quote, brace]
      rfl
    -- The first field begins with a quote, so the object is not empty.
    obtain ⟨rest, quoted⟩ : ∃ rest, Json.fieldText "denom" (Json.quote denom) ++
        ',' :: (Json.fieldText "amount" (Json.quote amount) ++ ['\x7d']) = '"' :: rest := ⟨_, rfl⟩
    rw [quoted] at inside listed
    have opened : Json.skipBlanks ('\x7b' :: '"' :: rest) = '\x7b' :: '"' :: rest := rfl
    have unblank : Json.skipBlanks ('"' :: rest) = '"' :: rest := rfl
    have whole : Json.parseValue (fuel + 4) ('\x7b' :: '"' :: rest) =
        some (.object fields, []) := by
      rw [Json.parseValue, opened]
      simp only [unblank]
      show ((Json.parseFields (fuel + 3) ('"' :: rest)).bind fun parsed =>
        some (Json.object parsed.1, parsed.2)) = some (.object fields, [])
      rw [inside]
      rfl
    rw [Json.parse, listed, long, whole]
    rfl
  exact .object parsed rfl rfl

/-- A voucher from another chain is parsed as a list of coins, but not as a coin of its own. -/
theorem coinParsers_disagree : ¬∀ (amount denom text : String) (style : CoinNotation),
    IsDecimal amount → isDenom denom.toList = true → WritesCoin amount denom style text →
      ParsersAgree (fun _ => 0) amount denom text := by
  intro agree
  have numeral : IsDecimal "5" := by decide
  have valid : isDenom "ibc/27".toList = true := by decide
  obtain ⟨coin, accepted, -, -⟩ := agree "5" "ibc/27" _ .bare numeral valid .bare
  have letters := ((getDenomAndAmount_bare numeral valid coin).mp accepted).1
  exact absurd letters (by decide)

/-- The native token is parsed alike between quotes. -/
theorem coinParsers_agree_iff_quoted : IsDecimal "5" ∧ isDenom "upokt".toList = true ∧
    WritesCoin "5" "upokt" .quoted (stringify (.string ("5" ++ "upokt"))) ∧
    ParsersAgree (fun _ => 0) "5" "upokt" (stringify (.string ("5" ++ "upokt"))) :=
  ⟨by decide, by decide, writesCoin_quote "5" "upokt",
    (coinParsers_agree_iff _ (by decide) (by decide) (writesCoin_quote "5" "upokt")).mpr
      (Or.inr (by decide))⟩

end Pocketdex
