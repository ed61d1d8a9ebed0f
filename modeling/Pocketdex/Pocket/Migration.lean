import Pocketdex.Base.Versions
import Pocketdex.Pocket.Suppliers

/-! The claims, imports and recoveries of Morse accounts, and the accounts that are marked as
claimed. -/

namespace Pocketdex

structure MorseClaimableAccountProps where
  id : String
  msgImportMorseClaimableAccountsId : String
  applicationStakeAmount : Int
  applicationStakeDenom : String
  supplierStakeAmount : Int
  supplierStakeDenom : String
  claimed : Bool
  unstakedBalanceAmount : Int
  unstakedBalanceDenom : String
  morseOutputAddress : Option String := none
  unstakingTime : Option Int := none
  shannonDestAddress : Option String := none
  claimedAtId : Option ℕ := none
  transactionId : Option String := none
  claimedMsgId : Option String := none
  deriving DecidableEq, Repr

structure MsgClaimMorseAccount where
  shannonDestAddress : String
  shannonSigningAddress : String
  morsePublicKey : List UInt8
  morseSignature : List UInt8
  deriving DecidableEq, Repr

/-- A claim of a Morse account, with its transaction and its index inside it. -/
structure ClaimMorseAccountMessage where
  idx : ℕ
  height : ℕ
  tx : CosmosTransaction
  decodedMsg : MsgClaimMorseAccount
  deriving DecidableEq, Repr

structure MsgClaimMorseAccountProps where
  id : String
  accountId : String
  transactionId : String
  blockId : ℕ
  shannonDestAddress : String
  messageId : String
  morseSignature : String
  morsePublicKey : String
  morseSrcAddress : String
  shannonSigningAddress : String
  balanceAmount : Int
  balanceDenom : String
  deriving DecidableEq, Repr

/-- The balance the claim events of a transaction tell, the last one found. -/
def claimedBalance (events : List TxEvent) : Except String (Option Coin) :=
  (events.filter fun event => event.type = .morseAccountClaimed).foldlM
    (fun balanceCoin event => readAttribute "claimed_balance"
      (fun value => (getDenomAndAmount value).map some) balanceCoin event.attributes) none

/-- The record of one claim of a Morse account. -/
def _handleMsgClaimMorseAccount (externals : Externals) (msg : ClaimMorseAccountMessage) :
    Except String MsgClaimMorseAccountProps := do
  let balanceCoin ← claimedBalance msg.tx.events
  let balanceCoin ← requireCoin balanceCoin
    "[handleMsgClaimMorseSupplier] balance coin not found in event"
  let balanceAmount ← bigInt balanceCoin.amount
  let msgId := s!"{msg.tx.hash}-{msg.idx}"
  return {
    id := msgId
    accountId := msg.decodedMsg.shannonDestAddress
    transactionId := msg.tx.hash
    blockId := msg.height
    shannonDestAddress := msg.decodedMsg.shannonDestAddress
    messageId := msgId
    morseSignature := toHex msg.decodedMsg.morseSignature
    morsePublicKey := toHex msg.decodedMsg.morsePublicKey
    morseSrcAddress := externals.pubKeyToAddress msg.decodedMsg.morsePublicKey
    shannonSigningAddress := msg.decodedMsg.shannonSigningAddress
    balanceAmount := balanceAmount
    balanceDenom := balanceCoin.denom }

/-- A text in lower case, as far as its letters are Latin ones, which those of addresses are. -/
def toLowerCase (text : String) : String := String.ofList (text.toList.map Char.toLower)

/-- A claim that marks an account, which is named by its address or its key. -/
structure ClaimedItem where
  publicKey : Option (List UInt8)
  morseAddress : Option String
  destinationAddress : String
  transactionHash : String
  claimedMsgId : String

/-- The id of the account a claim marks. -/
def ClaimedItem.accountId (externals : Externals) (item : ClaimedItem) : Except String String :=
  let morseAddress := item.morseAddress.getD ""
  if morseAddress ≠ "" then .ok (toLowerCase morseAddress)
  else match item.publicKey with
    | some publicKey => .ok (externals.pubKeyToAddress publicKey)
    | none => .error "Unexpected type of data"

/-- An account that is claimed. -/
def ClaimedItem.mark (blockHeight : ℕ) (item : ClaimedItem)
    (account : MorseClaimableAccountProps) : MorseClaimableAccountProps :=
  { account with
    claimedAtId := some blockHeight
    claimed := true
    shannonDestAddress := some item.destinationAddress
    transactionId := some item.transactionHash
    claimedMsgId := some item.claimedMsgId }

/-- Marking the rows of one account as claimed. -/
def updateMorseClaimableAccount (externals : Externals) (blockHeight : ℕ) (item : ClaimedItem)
    (rows : List (Row MorseClaimableAccountProps)) :
    Except String (List (Row MorseClaimableAccountProps)) := do
  let id ← item.accountId externals
  return rows.map fun row =>
    if row.data.id = id then { row with data := item.mark blockHeight row.data } else row

/-- Marking accounts as claimed, one after the other. -/
def updateMorseClaimableAccounts (externals : Externals) (blockHeight : ℕ)
    (items : List ClaimedItem) (rows : List (Row MorseClaimableAccountProps)) :
    Except String (List (Row MorseClaimableAccountProps)) :=
  items.foldlM (fun rows item => updateMorseClaimableAccount externals blockHeight item rows) rows

/-- The accounts that the claims of suppliers mark, by the address of the key that signed. -/
def claimedSuppliers (claimMsgs : List MsgClaimMorseSupplierProps) : List ClaimedItem :=
  claimMsgs.map fun msg => {
    publicKey := none
    morseAddress := some msg.morseSrcAddress
    destinationAddress := msg.shannonOwnerAddress
    transactionHash := msg.transactionId
    claimedMsgId := msg.messageId }

/-- The records of claims of Morse accounts, and the accounts they mark. -/
def handleMsgClaimMorseAccount (externals : Externals) (blockHeight : ℕ)
    (messages : List ClaimMorseAccountMessage) (rows : List (Row MorseClaimableAccountProps)) :
    Except String (List MsgClaimMorseAccountProps × List (Row MorseClaimableAccountProps)) := do
  let records ← messages.mapM (_handleMsgClaimMorseAccount externals)
  let rows ← updateMorseClaimableAccounts externals blockHeight (messages.map fun msg => {
    publicKey := some msg.decodedMsg.morsePublicKey
    morseAddress := none
    destinationAddress := msg.decodedMsg.shannonDestAddress
    transactionHash := msg.tx.hash
    claimedMsgId := s!"{msg.tx.hash}-{msg.idx}" }) rows
  return (records, rows)

/-- The message that recovers a Morse account, for an admin or not. -/
structure MsgRecoverMorseAccount where
  authority : String
  shannonDestAddress : String
  morseSrcAddress : String
  deriving DecidableEq, Repr

structure MsgRecoverMorseAccountProps where
  id : String
  recoveredBalanceAmount : Int
  recoveredBalanceDenom : String
  authorityId : String
  morseSrcAddress : String
  shannonDestAddressId : String
  blockId : ℕ
  transactionId : String
  messageId : String
  isAdmin : Bool
  deriving DecidableEq, Repr

/-- The last text an attribute of a key holds, without its quotes. -/
def lastText (key : String) (attributes : List Attribute) : Option String :=
  (attributes.reverse.find? fun entry => entry.key = key).map fun entry => replaceQuotes entry.value

/-- The balance the first event about the recovered account tells. -/
def recoveredBalance (eventTypeTarget : EventType) (decoded : MsgRecoverMorseAccount) :
    List TxEvent → Except String (Option Coin)
  | [] => .ok none
  | event :: rest =>
    if event.type = eventTypeTarget then do
      let coin ← readAttribute "recovered_balance"
        (fun value => (getDenomAndAmount value).map some) none event.attributes
      let morseAddress := lastText "morse_src_address" event.attributes
      let shannonAddress := lastText "shannon_dest_address" event.attributes
      if coin.isSome ∧ morseAddress.map toLowerCase = some (toLowerCase decoded.morseSrcAddress) ∧
          shannonAddress.map toLowerCase = some (toLowerCase decoded.shannonDestAddress) then
        return coin
      else recoveredBalance eventTypeTarget decoded rest
    else recoveredBalance eventTypeTarget decoded rest

/-- The record of a recovery that was executed for another account. -/
def handleMsgRecoverMorseAccount (decode : List UInt8 → Except String MsgRecoverMorseAccount)
    (value : List UInt8) (tx : CosmosTransaction) (blockId : ℕ) (messageId : String)
    (isAdmin : Bool) : Except String (MsgRecoverMorseAccount × MsgRecoverMorseAccountProps) := do
  let decodedMsg ← decode value
  -- The balance is told by the event of the transaction, which differs for an admin.
  let recovered ← recoveredBalance
    (if isAdmin then .morseAccountRecoveredAdmin else .morseAccountRecovered) decodedMsg tx.events
  let recovered ← requireCoin recovered
    "[handleMsgRecoverMorseAccount] recovered balance not found in event"
  let amount ← bigInt recovered.amount
  return (decodedMsg, {
    id := messageId
    recoveredBalanceAmount := amount
    recoveredBalanceDenom := recovered.denom
    authorityId := decodedMsg.authority
    morseSrcAddress := toLowerCase decodedMsg.morseSrcAddress
    shannonDestAddressId := decodedMsg.shannonDestAddress
    blockId := blockId
    transactionId := tx.hash
    messageId := messageId
    isAdmin := isAdmin })

/-- An account of the Morse state, with the milliseconds at which it is unstaked, if it is
unstaking. -/
structure MorseClaimableAccount where
  morseSrcAddress : String
  applicationStake : Option Coin
  supplierStake : Option Coin
  unstakedBalance : Option Coin
  morseOutputAddress : String
  unstakingTime : Option Int
  deriving DecidableEq, Repr

structure MsgImportMorseClaimableAccounts where
  authority : String
  morseAccountState : Option (List MorseClaimableAccount)
  morseAccountStateHash : List UInt8
  deriving DecidableEq, Repr

structure MsgImportMorseClaimableAccountsProps where
  id : String
  blockId : ℕ
  transactionId : String
  messageId : String
  morseAccountStateHash : String
  authorityId : String
  deriving DecidableEq, Repr

/-- The amount of a coin that may be left out. -/
def amountOrZero (coin : Option Coin) : Except String Int :=
  match coin with
  | none => .ok 0
  | some coin => if coin.amount = "" then .ok 0 else bigInt coin.amount

/-- The denomination of a coin that may be left out. -/
def denomOrEmpty (coin : Option Coin) : String := (coin.map Coin.denom).getD ""

/-- The row of an account that becomes claimable. -/
def claimableAccount (importId : String) (account : MorseClaimableAccount) :
    Except String MorseClaimableAccountProps := do
  let applicationStake ← amountOrZero account.applicationStake
  let supplierStake ← amountOrZero account.supplierStake
  let unstakedBalance ← amountOrZero account.unstakedBalance
  return {
    id := toLowerCase account.morseSrcAddress
    msgImportMorseClaimableAccountsId := importId
    applicationStakeAmount := applicationStake
    applicationStakeDenom := denomOrEmpty account.applicationStake
    supplierStakeAmount := supplierStake
    supplierStakeDenom := denomOrEmpty account.supplierStake
    claimed := false
    unstakedBalanceAmount := unstakedBalance
    unstakedBalanceDenom := denomOrEmpty account.unstakedBalance
    morseOutputAddress := if account.morseOutputAddress = "" then none
      else some account.morseOutputAddress
    unstakingTime := account.unstakingTime }

/-- The record of an import that was executed for another account, and the accounts that become
claimable. -/
def handleMsgImportMorseClaimableAccounts
    (decode : List UInt8 → Except String MsgImportMorseClaimableAccounts) (value : List UInt8)
    (transactionId : String) (blockId : ℕ) (messageId : String) :
    Except String (MsgImportMorseClaimableAccounts × MsgImportMorseClaimableAccountsProps ×
      List MorseClaimableAccountProps) := do
  let decodedMsg ← decode value
  match decodedMsg.morseAccountState with
  | none => .error "Cannot read properties of undefined (reading 'accounts')"
  | some accounts => do
    let accounts ← accounts.mapM (claimableAccount messageId)
    return (decodedMsg, {
      id := messageId
      blockId := blockId
      transactionId := transactionId
      messageId := messageId
      morseAccountStateHash := toHex decodedMsg.morseAccountStateHash
      authorityId := decodedMsg.authority }, accounts)

end Pocketdex
