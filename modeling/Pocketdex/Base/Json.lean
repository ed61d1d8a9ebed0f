import Mathlib.Data.Nat.Notation

/-! JSON texts and the values they denote. -/

namespace Pocketdex

/-- A parsed JSON value, with numbers kept as they are spelled. -/
inductive Json where
  | null
  | bool (value : Bool)
  | number (text : String)
  | string (text : String)
  | array (items : List Json)
  | object (fields : List (String × Json))

namespace Json

/-- The characters allowed between two tokens. -/
def isBlank (char : Char) : Bool :=
  char = ' ' || char = '\t' || char = '\n' || char = '\r'

/-- The text after its leading blanks. -/
def skipBlanks (text : List Char) : List Char := text.dropWhile isBlank

/-- The value of one hexadecimal digit. -/
def hexDigit (char : Char) : Option ℕ :=
  if '0' ≤ char ∧ char ≤ '9' then some (char.toNat - 48)
  else if 'a' ≤ char ∧ char ≤ 'f' then some (char.toNat - 87)
  else if 'A' ≤ char ∧ char ≤ 'F' then some (char.toNat - 55)
  else none

/-- The code unit spelled by four hexadecimal digits. -/
def codeUnit : List Char → Option (ℕ × List Char)
  | a :: b :: c :: d :: rest => do
    let high ← hexDigit a
    let next ← hexDigit b
    let third ← hexDigit c
    let low ← hexDigit d
    return (((high * 16 + next) * 16 + third) * 16 + low, rest)
  | _ => none

/-- The character behind a single-letter escape. -/
def escaped (char : Char) : Option Char :=
  match char with
  | '"' => some '"'
  | '\\' => some '\\'
  | '/' => some '/'
  | 'b' => some '\x08'
  | 'f' => some '\x0c'
  | 'n' => some '\n'
  | 'r' => some '\r'
  | 't' => some '\t'
  | _ => none

/-- The rest of a string literal after its opening quote. -/
def parseString : Nat → List Char → Option (List Char × List Char)
  | 0, _ => none
  | _ + 1, [] => none
  | fuel + 1, char :: rest =>
    if char = '"' then some ([], rest)
    else if char = '\\' then
      match rest with
      | 'u' :: digits => do
        let (unit, rest) ← codeUnit digits
        match (0xD800 ≤ unit ∧ unit < 0xDC00 : Bool), rest with
        -- A high surrogate followed by a low one spells a single character.
        | true, '\\' :: 'u' :: more => do
          let (low, after) ← codeUnit more
          if 0xDC00 ≤ low ∧ low < 0xE000 then
            let (tail, left) ← parseString fuel after
            return (Char.ofNat ((unit - 0xD800) * 0x400 + (low - 0xDC00) + 0x10000) :: tail, left)
          else
            let (tail, left) ← parseString fuel rest
            return (Char.ofNat 0xFFFD :: tail, left)
        | _, _ => do
          let (tail, left) ← parseString fuel rest
          -- A lone surrogate stands for no character of its own.
          let char := if 0xD800 ≤ unit ∧ unit < 0xE000 then Char.ofNat 0xFFFD else Char.ofNat unit
          return (char :: tail, left)
      | letter :: rest => do
        let char ← escaped letter
        let (tail, left) ← parseString fuel rest
        return (char :: tail, left)
      | [] => none
    -- Control characters must be escaped.
    else if char.toNat < 0x20 then none
    else do
      let (tail, left) ← parseString fuel rest
      return (char :: tail, left)

/-- The longest run of digits at the front of a text, which must not be empty. -/
def parseDigits (text : List Char) : Option (List Char × List Char) :=
  match text.takeWhile Char.isDigit with
  | [] => none
  | digits => some (digits, text.dropWhile Char.isDigit)

/-- The integer part of a number has no leading zero unless it is zero itself. -/
def parseInteger (text : List Char) : Option (List Char × List Char) :=
  match text with
  | '0' :: rest => some (['0'], rest)
  | _ => parseDigits text

/-- The optional fraction of a number. -/
def parseFraction (text : List Char) : Option (List Char × List Char) :=
  match text with
  | '.' :: rest => do
    let (digits, left) ← parseDigits rest
    return ('.' :: digits, left)
  | _ => some ([], text)

/-- The optional exponent of a number. -/
def parseExponent (text : List Char) : Option (List Char × List Char) :=
  match text with
  | char :: rest =>
    if char = 'e' ∨ char = 'E' then
      match rest with
      | '+' :: rest => do
        let (digits, left) ← parseDigits rest
        return (char :: '+' :: digits, left)
      | '-' :: rest => do
        let (digits, left) ← parseDigits rest
        return (char :: '-' :: digits, left)
      | _ => do
        let (digits, left) ← parseDigits rest
        return (char :: digits, left)
    else some ([], text)
  | [] => some ([], text)

/-- A number literal. -/
def parseNumber (text : List Char) : Option (String × List Char) := do
  let (sign, text) := match text with
    | '-' :: rest => (['-'], rest)
    | _ => ([], text)
  let (integer, text) ← parseInteger text
  let (fraction, text) ← parseFraction text
  let (exponent, text) ← parseExponent text
  return (String.ofList (sign ++ integer ++ fraction ++ exponent), text)

mutual

/-- One value after leading blanks. -/
def parseValue : Nat → List Char → Option (Json × List Char)
  | 0, _ => none
  | fuel + 1, text =>
    match skipBlanks text with
    | 'n' :: 'u' :: 'l' :: 'l' :: rest => some (null, rest)
    | 't' :: 'r' :: 'u' :: 'e' :: rest => some (bool true, rest)
    | 'f' :: 'a' :: 'l' :: 's' :: 'e' :: rest => some (bool false, rest)
    | '"' :: rest => do
      let (chars, rest) ← parseString (rest.length + 1) rest
      return (string (String.ofList chars), rest)
    | '[' :: rest =>
      match skipBlanks rest with
      | ']' :: rest => some (array [], rest)
      | rest => do
        let (items, rest) ← parseItems fuel rest
        return (array items, rest)
    | '{' :: rest =>
      match skipBlanks rest with
      | '}' :: rest => some (object [], rest)
      | rest => do
        let (fields, rest) ← parseFields fuel rest
        return (object fields, rest)
    -- Whatever begins with none of these is a number, or no value at all.
    | rest => do
      let (literal, rest) ← parseNumber rest
      return (number literal, rest)

/-- The items of an array up to its closing bracket. -/
def parseItems : Nat → List Char → Option (List Json × List Char)
  | 0, _ => none
  | fuel + 1, text => do
    let (item, rest) ← parseValue fuel text
    match skipBlanks rest with
    | ',' :: rest => do
      let (items, rest) ← parseItems fuel rest
      return (item :: items, rest)
    | ']' :: rest => some ([item], rest)
    | _ => none

/-- The fields of an object up to its closing brace. -/
def parseFields : Nat → List Char → Option (List (String × Json) × List Char)
  | 0, _ => none
  | fuel + 1, text =>
    match skipBlanks text with
    | '"' :: rest => do
      let (name, rest) ← parseString (rest.length + 1) rest
      match skipBlanks rest with
      | ':' :: rest => do
        let (value, rest) ← parseValue fuel rest
        match skipBlanks rest with
        | ',' :: rest => do
          let (fields, rest) ← parseFields fuel rest
          return ((String.ofList name, value) :: fields, rest)
        | '}' :: rest => some ([(String.ofList name, value)], rest)
        | _ => none
      | _ => none
    | _ => none

end

/-- A text denotes a value when one value fills it up to blanks. -/
def parse (text : String) : Option Json :=
  match parseValue (text.length + 1) text.toList with
  | some (value, rest) => if (skipBlanks rest).isEmpty then some value else none
  | none => none

/-- The value of a field, the last one where its name is repeated. -/
def field (fields : List (String × Json)) (name : String) : Option Json :=
  (fields.reverse.find? fun entry => entry.1 = name).map Prod.snd

mutual

/-- Whether two values are the same. -/
def same : Json → Json → Bool
  | null, null => true
  | bool first, bool second => first = second
  | number first, number second => first = second
  | string first, string second => first = second
  | array first, array second => sameItems first second
  | object first, object second => sameFields first second
  | _, _ => false

/-- Whether two lists of items are the same. -/
def sameItems : List Json → List Json → Bool
  | [], [] => true
  | first :: rest, second :: more => same first second && sameItems rest more
  | _, _ => false

/-- Whether two lists of fields are the same. -/
def sameFields : List (String × Json) → List (String × Json) → Bool
  | [], [] => true
  | (name, first) :: rest, (other, second) :: more =>
    decide (name = other) && same first second && sameFields rest more
  | _, _ => false

end

mutual

/-- Values that are found to be the same are the same. -/
theorem eq_of_same : ∀ {first second : Json}, same first second = true → first = second
  | null, null, _ => rfl
  | bool _, bool _, told => by rw [of_decide_eq_true told]
  | number _, number _, told => by rw [of_decide_eq_true told]
  | string _, string _, told => by rw [of_decide_eq_true told]
  | array _, array _, told => by rw [eq_of_sameItems told]
  | object _, object _, told => by rw [eq_of_sameFields told]

/-- So are their lists of items. -/
theorem eq_of_sameItems : ∀ {first second : List Json}, sameItems first second = true →
    first = second
  | [], [], _ => rfl
  | first :: rest, second :: more, told => by
    simp only [sameItems, Bool.and_eq_true] at told
    rw [eq_of_same told.1, eq_of_sameItems told.2]

/-- And their lists of fields. -/
theorem eq_of_sameFields : ∀ {first second : List (String × Json)}, sameFields first second = true →
    first = second
  | [], [], _ => rfl
  | (name, first) :: rest, (other, second) :: more, told => by
    simp only [sameFields, Bool.and_eq_true, decide_eq_true_eq] at told
    rw [told.1.1, eq_of_same told.1.2, eq_of_sameFields told.2]

end

/-- A text denotes a value if what it denotes is found to be the same. -/
theorem parse_of_same {text : String} {json : Json} (told : (parse text).any (json.same ·) = true) :
    parse text = some json := by
  obtain ⟨found, parsed, told⟩ := (Option.any_eq_true _ _).mp told
  rw [parsed, eq_of_same told]

/-- A text denotes a value if its characters are found to spell it. -/
theorem parse_of_chars {text : String} {chars : List Char} {json : Json}
    (listed : text.toList = chars) (told : ((parseValue (chars.length + 1) chars).any fun read =>
      json.same read.1 && (skipBlanks read.2).isEmpty) = true) : parse text = some json := by
  obtain ⟨⟨found, rest⟩, parsed, told⟩ := (Option.any_eq_true _ _).mp told
  simp only [Bool.and_eq_true] at told
  rw [parse, ← String.length_toList, listed, parsed, eq_of_same told.1]
  simp only [told.2, if_true]

end Json

end Pocketdex
