import Pocketdex.Base.JsonText

/-! How values and names are written as texts. -/

namespace Pocketdex

namespace Json

/-- A written field of an object. -/
def fieldText (name : String) (value : List Char) : List Char := quote name ++ ':' :: value

/-- Written parts between two brackets. -/
def enclosed (opening closing : Char) (parts : List (List Char)) : List Char :=
  opening :: [','].intercalate parts ++ [closing]

mutual

/-- A value as it is written. -/
def write : Json → List Char
  | null => "null".toList
  | bool value => (if value then "true" else "false").toList
  | number text => text.toList
  | string text => quote text
  | array items => enclosed '[' ']' (writeItems items)
  | object fields => enclosed '\x7b' '\x7d' (writeFields fields)

/-- The items of an array as they are written. -/
def writeItems : List Json → List (List Char)
  | [] => []
  | item :: rest => write item :: writeItems rest

/-- The fields of an object as they are written. -/
def writeFields : List (String × Json) → List (List Char)
  | [] => []
  | (name, value) :: rest => fieldText name (write value) :: writeFields rest

end

end Json

/-- The text of a value. -/
def stringify (value : Json) : String := String.ofList value.write

/-- A text stays as it is, and any other value is written. -/
def sanitize : Json → String
  | .string text => text
  | value => stringify value

/-- Whether a character starts a new word after another one, looking one character ahead. -/
def startsWord (previous current : Char) (next : Option Char) : Bool :=
  (previous.isLower && current.isUpper) ||
    (previous.isUpper && current.isUpper && next.any Char.isLower) ||
    previous.isDigit != current.isDigit

/-- The words of a name of Latin letters and digits, after those of a word that are read already. -/
def wordsFrom (word : List Char) : List Char → List (List Char)
  | [] => if word = [] then [] else [word]
  | char :: rest =>
    if !char.isAlphanum then (if word = [] then [] else [word]) ++ wordsFrom [] rest
    else match word.getLast? with
      | none => wordsFrom [char] rest
      | some previous =>
        if startsWord previous char rest.head? then word :: wordsFrom [char] rest
        else wordsFrom (word ++ [char]) rest

/-- A name with its words in small letters, joined by underscores. -/
def snakeCase (name : String) : String :=
  String.ofList (['_'].intercalate ((wordsFrom [] name.toList).map (List.map Char.toLower)))

/-- A name is written in snake case character by character. -/
theorem snakeCase_of_chars {name result : String} {chars snake : List Char}
    (spelled : name = String.ofList chars) (written : result = String.ofList snake)
    (same : ['_'].intercalate ((wordsFrom [] chars).map (List.map Char.toLower)) = snake) :
    snakeCase name = result := by
  rw [snakeCase, spelled, String.toList_ofList, same, written]

example : snakeCase "sigVerifyCostSecp256k1" = "sig_verify_cost_secp_256_k_1" :=
  snakeCase_of_chars rfl rfl rfl

/-- A text holds the characters it is spelled with, and no others. -/
theorem not_mem_of_chars {text : String} {char : Char} {chars : List Char}
    (spelled : text = String.ofList chars) (absent : char ∉ chars) : char ∉ text.toList := by
  rwa [spelled, String.toList_ofList]

end Pocketdex
