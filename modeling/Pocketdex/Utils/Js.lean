import Mathlib.Data.Nat.Notation
import Pocketdex.Base.Json

/-! The built-in text operations the indexer relies on. -/

namespace Pocketdex

/-- A text without its double quotes. -/
def replaceQuotes (text : String) : String := String.ofList (text.toList.filter (· ≠ '"'))

/-- A number continued by one more digit. -/
def addDigit (radix : ℕ) (total : Option ℕ) (digit : Char) : Option ℕ := do
  let total ← total
  let value ← Json.hexDigit digit
  if value < radix then some (radix * total + value) else none

/-- The value of a nonempty run of digits in a radix. -/
def digitsValue (radix : ℕ) (digits : List Char) : Option ℕ :=
  match digits with
  | [] => none
  | _ => digits.foldl (addDigit radix) (some 0)

/-- Bytes in lower case hexadecimal digits. -/
def toHex (bytes : List UInt8) : String :=
  String.ofList (bytes.flatMap fun byte =>
    [Nat.digitChar (byte.toNat / 16), Nat.digitChar (byte.toNat % 16)])

/-- The characters that count as white space. -/
def isWhitespace (char : Char) : Bool :=
  char ∈ ['\t', '\n', '\x0b', '\x0c', '\r', ' ', '\u00a0', '\u1680', '\u2028', '\u2029', '\u202f',
    '\u205f', '\u3000', '\ufeff'] || ('\u2000' ≤ char && char ≤ '\u200a')

/-- The characters BigInt ignores around a numeral. -/
def trimBlanks (text : List Char) : List Char :=
  ((text.dropWhile isWhitespace).reverse.dropWhile isWhitespace).reverse

/-- The integer a text denotes: empty texts denote zero, and only decimals carry a sign. -/
def bigInt (text : String) : Except String Int :=
  let value : Option Int := match trimBlanks text.toList with
    | [] => some 0
    | '+' :: digits => (digitsValue 10 digits).map Int.ofNat
    | '-' :: digits => (digitsValue 10 digits).map fun value => -Int.ofNat value
    | '0' :: 'x' :: digits => (digitsValue 16 digits).map Int.ofNat
    | '0' :: 'X' :: digits => (digitsValue 16 digits).map Int.ofNat
    | '0' :: 'o' :: digits => (digitsValue 8 digits).map Int.ofNat
    | '0' :: 'O' :: digits => (digitsValue 8 digits).map Int.ofNat
    | '0' :: 'b' :: digits => (digitsValue 2 digits).map Int.ofNat
    | '0' :: 'B' :: digits => (digitsValue 2 digits).map Int.ofNat
    | digits => (digitsValue 10 digits).map Int.ofNat
  match value with
  | some value => .ok value
  | none => .error s!"Cannot convert {text} to a BigInt"

/-- Parsing a text that denotes no value throws. -/
def parseJson (text : String) : Except String Json :=
  match Json.parse text with
  | some value => .ok value
  | none => .error "Unexpected token in JSON"

/-- Reading a property of null throws, and of any other value without fields gives nothing. -/
def property (value : Json) (name : String) : Except String (Option Json) :=
  match value with
  | .null => .error s!"Cannot read properties of null (reading '{name}')"
  | .object fields => .ok (Json.field fields name)
  | _ => .ok none

/-- The property behind an optional chain, which stops at null and undefined. -/
def optionalProperty (value : Option Json) (name : String) : Option Json :=
  match value with
  | some (.object fields) => Json.field fields name
  | _ => none

/-- Whether a condition on a value holds. -/
def truthy : Option Json → Bool
  | none => false
  | some .null => false
  | some (.bool value) => value
  -- A number is zero when no digit before its exponent is another one.
  | some (.number text) =>
    !(text.toList.takeWhile fun char => char ≠ 'e' ∧ char ≠ 'E').all fun char =>
      char = '-' ∨ char = '.' ∨ char = '0'
  | some (.string text) => text ≠ ""
  | some (.array _) => true
  | some (.object _) => true

/-- Whether a value has no own fields, items or characters. -/
def isEmpty : Json → Bool
  | .string text => text = ""
  | .array items => items.isEmpty
  | .object fields => fields.isEmpty
  | _ => true

mutual

/-- A value inside a template text. -/
def templateText : Json → String
  | .null => "null"
  | .bool value => if value then "true" else "false"
  | .number text => text
  | .string text => text
  | .array items => ",".intercalate (itemTexts items)
  | .object _ => "[object Object]"

/-- The items of an array inside a template text, where null is left blank. -/
def itemTexts : List Json → List String
  | [] => []
  | .null :: rest => "" :: itemTexts rest
  | item :: rest => templateText item :: itemTexts rest

end

/-- A value that may be missing inside a template text. -/
def optionText (value : Option Json) : String := (value.map templateText).getD "undefined"

/-- A decimal digit continues a number. -/
theorem addDigit_decimal {char : Char} (digit : char.isDigit = true) (total : ℕ) :
    addDigit 10 (some total) char = some (10 * total + (char.toNat - 48)) := by
  simp only [Char.isDigit, Bool.and_eq_true, decide_eq_true_eq] at digit
  have low : 48 ≤ char.toNat := digit.1
  have high : char.toNat ≤ 57 := digit.2
  have inside : '0' ≤ char ∧ char ≤ '9' := ⟨digit.1, digit.2⟩
  have small : char.toNat - 48 < 10 := by omega
  simp only [addDigit, Json.hexDigit, Option.bind_eq_bind, Option.bind_some, if_pos inside,
    if_pos small]

/-- Reading decimal digits from some total on gives the number they spell. -/
theorem foldl_addDigit {digits : List Char} (decimal : ∀ char ∈ digits, char.isDigit = true)
    (total : ℕ) :
    digits.foldl (addDigit 10) (some total) = some (Nat.ofDigitChars 10 digits total) := by
  induction digits generalizing total with
  | nil => rfl
  | cons char rest ih =>
    rw [List.foldl_cons, addDigit_decimal (decimal char List.mem_cons_self),
      ih (fun other member => decimal other (List.mem_cons_of_mem _ member))]
    rfl

/-- What holds of every ASCII code holds of every ASCII character. -/
theorem ascii_forall (holds : Char → Prop) (codes : ∀ code < 128, holds (Char.ofNat code))
    {char : Char} (ascii : char.toNat < 128) : holds char := by
  have spelled := codes char.toNat ascii
  rwa [Char.ofNat_toNat] at spelled

/-- Digits are no blanks. -/
theorem isWhitespace_of_isDigit {char : Char} (digit : char.isDigit = true) :
    isWhitespace char = false := by
  have bounds := digit
  simp only [Char.isDigit, Bool.and_eq_true, decide_eq_true_eq] at bounds
  have high : char.toNat ≤ 57 := bounds.2
  have checked : ∀ code < 128, (Char.ofNat code).isDigit = true →
      isWhitespace (Char.ofNat code) = false := by decide
  exact ascii_forall (fun char => char.isDigit = true → isWhitespace char = false) checked
    (by omega) digit

/-- A text without blanks has none to trim. -/
theorem trimBlanks_of_unblank {text : List Char}
    (unblank : ∀ char ∈ text, isWhitespace char = false) : trimBlanks text = text := by
  have kept : ∀ {text : List Char}, (∀ char ∈ text, isWhitespace char = false) →
      text.dropWhile isWhitespace = text := by
    intro text all
    cases text with
    | nil => rfl
    | cons first rest =>
      rw [List.dropWhile_cons_of_neg]
      simp [all first List.mem_cons_self]
  have turned : ∀ char ∈ text.reverse, isWhitespace char = false := fun char member =>
    unblank char (List.mem_reverse.mp member)
  rw [trimBlanks, kept unblank, kept turned, List.reverse_reverse]

/-- A text of digits and points has no sign and no radix: its characters are read as they are. -/
theorem bigInt_numeral {text : String} (nonempty : text.toList ≠ [])
    (numeral : ∀ char ∈ text.toList, char.isDigit = true ∨ char = '.') :
    bigInt text = match digitsValue 10 text.toList with
      | some value => .ok (value : Int)
      | none => .error s!"Cannot convert {text} to a BigInt" := by
  have unblank : ∀ char ∈ text.toList, isWhitespace char = false := by
    intro char member
    rcases numeral char member with digit | point
    · exact isWhitespace_of_isDigit digit
    · rw [point]
      decide
  -- Digits and points are neither a sign nor the letter of a radix.
  have signed : ∀ {sign : Char} {rest : List Char}, text.toList = sign :: rest →
      sign.isDigit = true ∨ sign = '.' := fun {sign rest} same => numeral sign (by simp [same])
  have marked : ∀ {letter : Char} {rest : List Char}, text.toList = '0' :: letter :: rest →
      letter.isDigit = true ∨ letter = '.' :=
    fun {letter rest} same => numeral letter (by simp [same])
  unfold bigInt
  rw [trimBlanks_of_unblank unblank]
  split
  · rename_i none
    exact absurd none nonempty
  · rename_i same
    exact absurd (signed same) (by decide)
  · rename_i same
    exact absurd (signed same) (by decide)
  · rename_i same
    exact absurd (marked same) (by decide)
  · rename_i same
    exact absurd (marked same) (by decide)
  · rename_i same
    exact absurd (marked same) (by decide)
  · rename_i same
    exact absurd (marked same) (by decide)
  · rename_i same
    exact absurd (marked same) (by decide)
  · rename_i same
    exact absurd (marked same) (by decide)
  · cases digitsValue 10 text.toList <;> rfl

/-- Decimal digits are read as the number they spell. -/
theorem bigInt_of_isDigit {text : String} (some : text.toList ≠ [])
    (decimal : ∀ char ∈ text.toList, char.isDigit = true) :
    bigInt text = .ok (Nat.ofDigitChars 10 text.toList 0 : Int) := by
  have value : digitsValue 10 text.toList = Option.some (Nat.ofDigitChars 10 text.toList 0) := by
    rw [← foldl_addDigit decimal 0]
    unfold digitsValue
    split
    · rename_i none
      exact absurd none some
    · rfl
  rw [bigInt_numeral some fun char member => Or.inl (decimal char member), value]

/-- A character that is no digit of any radix spoils a numeral. -/
theorem digitsValue_none {radix : ℕ} {digits : List Char} {char : Char} (member : char ∈ digits)
    (undigit : Json.hexDigit char = none) : digitsValue radix digits = none := by
  have spoiled : ∀ rest : List Char, rest.foldl (addDigit radix) none = none := by
    intro rest
    induction rest with
    | nil => rfl
    | cons _ rest ih => exact ih
  obtain ⟨front, rest, rfl⟩ := List.append_of_mem member
  -- Whatever is read before the character, nothing is left after it.
  have stopped : addDigit radix (front.foldl (addDigit radix) (some 0)) char = none := by
    cases front.foldl (addDigit radix) (some 0) <;> simp [addDigit, undigit]
  unfold digitsValue
  split
  · rfl
  · rw [List.foldl_append, List.foldl_cons, stopped, spoiled]

/-- A number written in decimal is read back. -/
theorem bigInt_toString (number : ℕ) : bigInt (toString number) = .ok (number : Int) := by
  have listed : (toString number).toList = Nat.toDigits 10 number := by
    rw [Nat.toString_eq_ofList_toDigits, String.toList_ofList]
  have decimal : ∀ char ∈ (toString number).toList, char.isDigit = true := by
    intro char member
    rw [listed] at member
    exact Nat.isDigit_of_mem_toDigits (by decide) (by decide) member
  have some : (toString number).toList ≠ [] := by
    rw [listed]
    exact Nat.toDigits_ne_nil
  rw [bigInt_of_isDigit some decimal, listed, Nat.ofDigitChars_ten_toDigits]

end Pocketdex
