import Pocketdex.Types
import Pocketdex.Utils.Js

/-! The status filters every handler group starts from, and the coin notation of attributes. -/

namespace Pocketdex

/-- An event of block finalization. -/
def isEventOfFinalizedBlockKind (event : CosmosEvent) : Bool := event.kind = .finalizeBlock

/-- Events of successful transactions, and those of no transaction, apart from the failed ones. -/
def filterEventsByTxStatus (events : List CosmosEvent) : List CosmosEvent × List CosmosEvent :=
  events.partition fun event =>
    match event.tx with
    | none => true
    | some tx => tx.code == 0

/-- Messages of successful transactions, apart from the failed ones. -/
def filterMsgByTxStatus (messages : List CosmosMessage) : List CosmosMessage × List CosmosMessage :=
  messages.partition fun message => message.tx.code == 0

/-- The value the attributes of one key leave in a variable that starts at a default. -/
def readAttribute {α : Type} (key : String) (read : String → Except String α) (default : α)
    (attributes : List Attribute) : Except String α :=
  attributes.foldlM (fun value entry =>
    if entry.key = key then read entry.value else .ok value) default

/-- A letter of either case. -/
def isLatinLetter (char : Char) : Bool :=
  ('a' ≤ char && char ≤ 'z') || ('A' ≤ char && char ≤ 'Z')

/-- A run of digits followed by a run of letters, as in 121upokt. -/
def matchCoin (text : String) : Option Coin :=
  let digits := text.toList.takeWhile Char.isDigit
  let letters := text.toList.dropWhile Char.isDigit
  if digits ≠ [] ∧ letters ≠ [] ∧ letters.all isLatinLetter then
    some ⟨String.ofList digits, String.ofList letters⟩
  else none

/-- The text of an amount inside a JSON coin. -/
def amountOfJson : Option Json → Except String String
  | some (.string text) => .ok text
  | some (.number text) => .ok text
  | _ => .error "Cannot convert undefined to a BigInt"

/-- A coin written as a text, as a quoted text, or as a JSON object. -/
def getDenomAndAmount (coinAndDenom : String) : Except String Coin :=
  let fromText (text : String) : Except String Coin :=
    match matchCoin text with
    | some coin => .ok coin
    | none => .error s!"Invalid coinAndDenom={coinAndDenom}"
  match Json.parse coinAndDenom with
  | none => fromText coinAndDenom
  | some (.string text) => fromText text
  | some (.object fields) => do
    let amount ← amountOfJson (Json.field fields "amount")
    match Json.field fields "denom" with
    | some (.string denom) => return ⟨amount, denom⟩
    | _ => .error "Cannot read properties of undefined (reading denom)"
  | some _ => .error "parsed.match is not a function"

end Pocketdex
