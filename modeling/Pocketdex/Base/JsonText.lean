import Mathlib.Data.List.Basic
import Pocketdex.Base.Json

/-! JSON texts as they are written, and why two of them agree only on the same value. -/

namespace Pocketdex

/-- A way of writing values in which every value shows where its text ends. -/
def PrefixCode {α : Type} (write : α → List Char) : Prop :=
  ∀ (first second : α) (rest more : List Char),
    write first ++ rest = write second ++ more → first = second ∧ rest = more

/-- Values written the same are the same. -/
theorem PrefixCode.injective {α : Type} {write : α → List Char} (code : PrefixCode write) :
    Function.Injective write := by
  intro first second same
  have nothing : write first ++ [] = write second ++ [] := by rw [same]
  exact (code _ _ _ _ nothing).1

namespace Json

/-- A hexadecimal digit. -/
def hexChar (digit : ℕ) : Char :=
  if digit < 10 then Char.ofNat (48 + digit) else Char.ofNat (87 + digit)

/-- The characters a written text spells by their codes. -/
def isEscapable (char : Char) : Bool :=
  let code := char.toNat
  code < 0x20 || (0x7f ≤ code && code ≤ 0x9f) || code = 0xad || (0x600 ≤ code && code ≤ 0x604) ||
    code = 0x70f || code = 0x17b4 || code = 0x17b5 || (0x200c ≤ code && code ≤ 0x200f) ||
    (0x2028 ≤ code && code ≤ 0x202f) || (0x2060 ≤ code && code ≤ 0x206f) || code = 0xfeff ||
    (0xfff0 ≤ code && code ≤ 0xffff)

/-- One character inside a written text. -/
def escapeChar (char : Char) : List Char :=
  match char with
  | '\x08' => ['\\', 'b']
  | '\t' => ['\\', 't']
  | '\n' => ['\\', 'n']
  | '\x0c' => ['\\', 'f']
  | '\r' => ['\\', 'r']
  | '"' => ['\\', '"']
  | '\\' => ['\\', '\\']
  | char =>
    let code := char.toNat
    if isEscapable char then
      ['\\', 'u', hexChar (code / 4096), hexChar (code / 256 % 16), hexChar (code / 16 % 16),
        hexChar (code % 16)]
    else [char]

/-- A text between quotes. -/
def quote (text : String) : List Char := '"' :: text.toList.flatMap escapeChar ++ ['"']

/-- The items of an array after the first one, and its closing bracket. -/
def moreItems : List (List Char) → List Char
  | [] => [']']
  | item :: rest => ',' :: item ++ moreItems rest

/-- An array of written items. -/
def arrayText : List (List Char) → List Char
  | [] => ['[', ']']
  | item :: rest => '[' :: item ++ moreItems rest

/-- A written hexadecimal digit is read back. -/
theorem hexDigit_hexChar {digit : ℕ} (small : digit < 16) : hexDigit (hexChar digit) = some digit := by
  -- There are sixteen digits to check.
  have checked : ∀ digit < 16, hexDigit (hexChar digit) = some digit := by decide
  exact checked digit small

/-- A code spelled by its digits is read back. -/
theorem codeUnit_hexChar {code : ℕ} (small : code < 0x10000) (rest : List Char) :
    codeUnit (hexChar (code / 4096) :: hexChar (code / 256 % 16) :: hexChar (code / 16 % 16) ::
      hexChar (code % 16) :: rest) = some (code, rest) := by
  -- The four digits are those of the code in base sixteen.
  have high : code / 4096 < 16 := by omega
  have digits : ((code / 4096 * 16 + code / 256 % 16) * 16 + code / 16 % 16) * 16 + code % 16 =
      code := by omega
  simp only [codeUnit, hexDigit_hexChar high, hexDigit_hexChar (Nat.mod_lt _ (by decide : 0 < 16)),
    Option.bind_eq_bind, Option.bind_some, digits]
  rfl

/-- The characters spelled by their codes have codes of four digits. -/
theorem isEscapable_small {char : Char} (spelled : isEscapable char = true) :
    char.toNat < 0x10000 := by
  simp only [isEscapable, Bool.or_eq_true, Bool.and_eq_true, decide_eq_true_eq] at spelled
  omega

/-- A character is no surrogate. -/
theorem not_surrogate (char : Char) : ¬(0xD800 ≤ char.toNat ∧ char.toNat < 0xE000) := by
  have valid : char.toNat < 0xD800 ∨ 0xDFFF < char.toNat ∧ char.toNat < 0x110000 := char.valid
  omega

/-- A written character is read back, and what follows it is read next. -/
theorem parseString_escapeChar (fuel : ℕ) (char : Char) (rest : List Char) :
    parseString (fuel + 1) (escapeChar char ++ rest) =
      (parseString fuel rest).map fun parsed => (char :: parsed.1, parsed.2) := by
  -- Seven characters have an escape letter, others are spelled by their codes or as they are.
  unfold escapeChar
  split
  case h_8 letter _ _ _ _ _ quoted slashed =>
    split
    · rename_i spelled
      have apart := not_surrogate char
      have plain : ¬(0xD800 ≤ char.toNat ∧ char.toNat < 0xDC00) := by omega
      simp only [parseString, List.cons_append, List.nil_append,
        codeUnit_hexChar (isEscapable_small spelled), Option.bind_eq_bind, Option.bind_some,
        plain, apart, Char.ofNat_toNat]
      cases parseString fuel rest <;> simp
    · rename_i spelled
      have high : ¬char.toNat < 0x20 := by
        intro low
        simp [isEscapable, low] at spelled
      have noQuote : char ≠ '"' := quoted
      have noSlash : char ≠ '\\' := slashed
      simp only [parseString, List.cons_append, List.nil_append, noQuote, noSlash, high]
      cases parseString fuel rest <;> simp
  all_goals
    simp only [parseString, escaped, List.cons_append, List.nil_append]
    cases parsed : parseString fuel rest <;> simp [parsed]

/-- A written text is read back up to its closing quote. -/
theorem parseString_quoted (text rest : List Char) {fuel : ℕ} (enough : text.length < fuel) :
    parseString fuel (text.flatMap escapeChar ++ '"' :: rest) = some (text, rest) := by
  -- Each character takes one step, and the closing quote another one.
  induction text generalizing fuel with
  | nil =>
    obtain ⟨less, rfl⟩ : ∃ less, fuel = less + 1 := ⟨fuel - 1, by simp at enough; omega⟩
    simp [parseString]
  | cons char chars ih =>
    simp only [List.length_cons] at enough
    obtain ⟨less, rfl⟩ : ∃ less, fuel = less + 1 := ⟨fuel - 1, by omega⟩
    rw [List.flatMap_cons, List.append_assoc, parseString_escapeChar, ih (by omega)]
    rfl

/-- A written text shows where it ends. -/
theorem quote_prefixCode : PrefixCode quote := by
  intro first second rest more same
  -- Reading both sides back gives the texts and what follows them.
  simp only [quote, List.cons_append, List.append_assoc, List.nil_append, List.cons.injEq,
    true_and] at same
  let fuel := first.toList.length + second.toList.length + 1
  have one : parseString fuel (first.toList.flatMap escapeChar ++ '"' :: rest) =
      some (first.toList, rest) := parseString_quoted _ _ (by omega)
  have two : parseString fuel (second.toList.flatMap escapeChar ++ '"' :: more) =
      some (second.toList, more) := parseString_quoted _ _ (by omega)
  rw [same, two, Option.some.injEq, Prod.mk.injEq] at one
  exact ⟨String.toList_inj.mp one.1.symm, one.2.symm⟩

section

variable {α : Type} {write : α → List Char}

/-- The items after the first one of an array show where they end. -/
theorem moreItems_prefixCode (code : PrefixCode write) :
    PrefixCode fun items : List α => moreItems (items.map write) := by
  -- A comma announces one more item, and a bracket ends them.
  intro first
  induction first with
  | nil =>
    intro second rest more same
    cases second with
    | nil => exact ⟨rfl, by simpa [moreItems] using same⟩
    | cons item items => simp [moreItems] at same
  | cons head tail ih =>
    intro second rest more same
    cases second with
    | nil => simp [moreItems] at same
    | cons item items =>
      simp only [List.map_cons, moreItems, List.cons_append, List.append_assoc, List.cons.injEq,
        true_and] at same
      obtain ⟨heads, tails⟩ := code _ _ _ _ same
      obtain ⟨others, rests⟩ := ih _ _ _ tails
      exact ⟨by rw [heads, others], rests⟩

/-- An array shows where it ends when its items do and none begins with a bracket. -/
theorem arrayText_prefixCode (code : PrefixCode write)
    (opened : ∀ item tail rest, write item ++ tail ≠ ']' :: rest) :
    PrefixCode fun items : List α => arrayText (items.map write) := by
  -- An array without items closes where the first item of another one would begin.
  intro first second rest more same
  cases first with
  | nil =>
    cases second with
    | nil => exact ⟨rfl, by simpa [arrayText] using same⟩
    | cons item items =>
      simp only [List.map_nil, List.map_cons, arrayText, List.cons_append, List.nil_append,
        List.append_assoc, List.cons.injEq, true_and] at same
      exact absurd same.symm (opened _ _ _)
  | cons head tail =>
    cases second with
    | nil =>
      simp only [List.map_nil, List.map_cons, arrayText, List.cons_append, List.nil_append,
        List.append_assoc, List.cons.injEq, true_and] at same
      exact absurd same (opened _ _ _)
    | cons item items =>
      simp only [List.map_cons, arrayText, List.cons_append, List.append_assoc, List.cons.injEq,
        true_and] at same
      obtain ⟨heads, tails⟩ := code _ _ _ _ same
      obtain ⟨others, rests⟩ := moreItems_prefixCode code _ _ _ _ tails
      exact ⟨by rw [heads, others], rests⟩

end

end Json

end Pocketdex
