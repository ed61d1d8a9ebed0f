import Pocketdex.Base.Dict
import Pocketdex.Utils.Db
import Pocketdex.Utils.Double
import Pocketdex.Utils.Ids
import Pocketdex.Utils.Primitives

/-! Balances are rebuilt from the coins that accounts receive and spend. -/

namespace Pocketdex

/-- The stored balance of an account in one denomination. -/
structure BalanceProps where
  id : String
  accountId : String
  denom : String
  amount : Int
  lastUpdatedBlockId : ℕ
  deriving DecidableEq, Repr

/-- A letter, digit or slash, as they follow the first letter of a denomination. -/
def isDenomChar (char : Char) : Bool := isLatinLetter char || char.isDigit || char = '/'

/-- A letter followed by two to 127 letters, digits or slashes. -/
def isDenom (text : List Char) : Bool :=
  match text with
  | [] => false
  | first :: rest =>
    isLatinLetter first && rest.all isDenomChar && 2 ≤ rest.length && rest.length ≤ 127

/-- A decimal scaled by ten to the eighteenth and rounded: no integer is too large but infinity. -/
def cosmosDecimalToBigInt (decimalString : String) : Except String Int :=
  let num := Double.ofText decimalString
  (num.mul (.finite (10 ^ 18))).round.toBigInt

/-- An optional fraction in front of a text. -/
def splitFraction (text : List Char) : Option (List Char) × List Char :=
  match text with
  | '.' :: rest => (some ('.' :: rest.takeWhile Char.isDigit), rest.dropWhile Char.isDigit)
  | _ => (none, text)

/-- One coin of a list: a number, which may have a fraction, and a denomination. -/
def parseCoin (cosmosDecimalToBigInt : String → Int) (part : List Char) : Option Coin :=
  let whole := part.takeWhile Char.isDigit
  let (fraction, denom) := splitFraction (part.dropWhile Char.isDigit)
  if isDenom denom then
    match whole, fraction with
    | [], none => none
    | [], some fraction =>
      -- Without a whole part the fraction itself must have digits, and is kept as it is.
      if fraction.length > 1 then some ⟨String.ofList fraction, String.ofList denom⟩ else none
    | whole, none => some ⟨String.ofList whole, String.ofList denom⟩
    | whole, some fraction =>
      some ⟨toString (cosmosDecimalToBigInt (String.ofList (whole ++ fraction))),
        String.ofList denom⟩
  else none

/-- The nonempty parts of a text between commas. -/
def splitCommas (text : List Char) : List (List Char) :=
  (text.splitOnP fun char => char = ',').filter fun part => !part.isEmpty

/-- A list of coins between commas, where blanks do not count. -/
def parseCoins (cosmosDecimalToBigInt : String → Int) (input : String) :
    Except String (List Coin) :=
  let parts := splitCommas (input.toList.filter fun char => !isWhitespace char)
  parts.mapM fun part =>
    match parseCoin cosmosDecimalToBigInt part with
    | some coin => .ok coin
    | none => .error s!"Got an invalid coin string. Value={input}"

/-- The parts of a list of one size. -/
def chunkArray {α : Type} (arr : List α) (size : ℕ) : List (List α) :=
  sliceBatches size arr.length arr

/-- A change of one account's balance in one denomination. -/
structure Posting where
  account : String
  denom : String
  amount : Int
  deriving DecidableEq, Repr

/-- Whether an attribute names the account of a coin event. -/
def isAccountAttribute (attr : Attribute) : Bool := attr.key = "receiver" || attr.key = "spender"

/-- The change a coin event is read as: the amount is taken from the attribute after the account. -/
def readPosting (cosmosDecimalToBigInt : String → Int) (event : CosmosEvent) :
    Except String Posting := do
  match event.attributes.dropWhile fun attr => !isAccountAttribute attr with
  | [] => .error s!"Event {event.type.name} does not have a receiver or spender attribute"
  | attr :: following =>
    if event.attributes.all fun attr => attr.key ≠ "amount" then
      .error s!"Event {event.type.name} does not have an amount attribute"
    else
      -- The amount is the attribute after the account, whatever its key.
      match following with
      | [] => .error "Cannot read properties of undefined (reading 'replace')"
      | next :: _ =>
        let coins ← parseCoins cosmosDecimalToBigInt next.value
        match coins with
        | [] => .error "Cannot read properties of undefined (reading 'amount')"
        -- Only the first of the coins is read.
        | coin :: _ =>
          let coins ← bigInt coin.amount
          let amount := if attr.key = "spender" then 0 - coins else coins
          return ⟨attr.value, coin.denom, amount⟩

/-- The balance a posting changes. -/
def Posting.mapId (posting : Posting) : String := getBalanceId posting.account posting.denom

/-- Adding a posting to the changes of its balance. -/
def addPosting (addressDenomMap : Dict String Int) (posting : Posting) : Dict String Int :=
  addressDenomMap.set posting.mapId
    ((addressDenomMap.get posting.mapId).getD 0 + posting.amount)

/-- The summed changes of the balances, in the order the events first name them. -/
def getBalanceChanges (cosmosDecimalToBigInt : String → Int) (events : List CosmosEvent) :
    Except String (Dict String Int) := do
  let postings ← events.mapM (readPosting cosmosDecimalToBigInt)
  return postings.foldl addPosting Dict.empty

/-- The account and the denomination of an id: what stands around its first dash. -/
def splitBalanceId (id : String) : String × String :=
  let address := id.toList.takeWhile (· ≠ '-')
  let rest := (id.toList.dropWhile (· ≠ '-')).drop 1
  (String.ofList address, String.ofList (rest.takeWhile (· ≠ '-')))

/-- Rows a failed attempt of the block wrote are deleted, and those it closed are reopened. -/
def cleanBalances (blockId : ℕ) (rows : List (Row BalanceProps)) : List (Row BalanceProps) :=
  (rows.filter fun row => row.data.lastUpdatedBlockId ≠ blockId).map fun row =>
    if row.blockRange.upper = some blockId then row.reopen else row

/-- The balances of the given ids that are visible at a height. -/
def getBalancesByIds (height : ℕ) (rows : List (Row BalanceProps)) (ids : List String) :
    List BalanceProps :=
  (rows.filter fun row => row.openAt height && row.data.id ∈ ids).map Row.data

/-- The stored balances of the given ids, fetched a thousand ids at a time, page by page. -/
def fetchBalances (height : ℕ) (rows : List (Row BalanceProps)) (ids : List String) :
    List BalanceProps :=
  (chunkArray ids 1000).flatMap fun batch =>
    let records := getBalancesByIds height rows batch
    fetchPaginatedRecords (fun offset limit => (records.drop offset).take limit)
      (records.length + 1) 0

/-- The new balance of an id. -/
def balanceToSave (blockId : ℕ) (currentBalancesMap : Dict String Int) (id : String)
    (change : Int) : BalanceProps :=
  let (address, denom) := splitBalanceId id
  { id := id
    accountId := address
    denom := denom
    amount := (currentBalancesMap.get id).getD 0 + change
    lastUpdatedBlockId := blockId }

/-- The changed balances replace the stored ones, which are closed at the block. -/
def updateBalances (addressDenomEntries : List (String × Int)) (blockId : ℕ)
    (rows : List (Row BalanceProps)) : List (Row BalanceProps) :=
  let ids := addressDenomEntries.map Prod.fst
  if ids.isEmpty then rows
  else
    let cleaned := cleanBalances blockId rows
    let balances := fetchBalances blockId cleaned ids
    let currentBalancesMap := Dict.collect BalanceProps.id BalanceProps.amount balances
    let balancesToSaveWithOptimize := addressDenomEntries.map fun (id, change) =>
      balanceToSave blockId currentBalancesMap id change
    -- Without a balance that was found there is nothing to close.
    let closed := if currentBalancesMap.keys.isEmpty then cleaned
      else closeWhere (fun balance => balance.id ∈ currentBalancesMap.keys) blockId cleaned
    closed ++ balancesToSaveWithOptimize.map fun balance =>
      stamp blockId ⟨balance, none, some ⟨blockId, none⟩⟩

/-- The balances after the coin events of a block. -/
def indexBalances (cosmosDecimalToBigInt : String → Int) (events : List CosmosEvent)
    (blockId : ℕ) (rows : List (Row BalanceProps)) : Except String (List (Row BalanceProps)) := do
  let addressDenomMap ← getBalanceChanges cosmosDecimalToBigInt events
  return updateBalances addressDenomMap.entries blockId rows

end Pocketdex
