import Pocketdex.Base.Dict
import Pocketdex.Base.Store
import Pocketdex.Pocket.Migration
import Pocketdex.Pocket.Params

/-! Messages executed for other accounts, and the rows of the messages inside them. -/

namespace Pocketdex.Authz

/-- A message as another one holds it. -/
structure EncodedMsg where
  typeUrl : String
  value : List UInt8
  deriving DecidableEq, Repr

structure AuthzExecMsg where
  grantee : String
  msgs : List EncodedMsg
  deriving DecidableEq, Repr

/-- A message that executes others, with its transaction and its index inside it. -/
structure ExecMessage where
  idx : ℕ
  height : ℕ
  tx : CosmosTransaction
  decodedMsg : AuthzExecMsg
  deriving DecidableEq, Repr

/-- The type URL under which messages reach the handler. -/
def ExecMessage.typeUrl (_ : ExecMessage) : String := "/cosmos.authz.v1beta1.MsgExec"

/-- A message is identified by its transaction and its index. -/
def ExecMessage.id (msg : ExecMessage) : String := s!"{msg.tx.hash}-{msg.idx}"

/-- The types of messages that update parameters. -/
def msgUpdateParamsMap : List String := [
  "/pocket.application.MsgUpdateParam", "/pocket.application.MsgUpdateParams",
  "/pocket.service.MsgUpdateParam", "/pocket.service.MsgUpdateParams",
  "/pocket.supplier.MsgUpdateParam", "/pocket.supplier.MsgUpdateParams",
  "/pocket.gateway.MsgUpdateParam", "/pocket.gateway.MsgUpdateParams",
  "/pocket.proof.MsgUpdateParam", "/pocket.proof.MsgUpdateParams",
  "/pocket.shared.MsgUpdateParam", "/pocket.shared.MsgUpdateParams",
  "/pocket.tokenomics.MsgUpdateParam", "/pocket.tokenomics.MsgUpdateParams",
  "/pocket.session.MsgUpdateParam", "/pocket.session.MsgUpdateParams",
  "/pocket.migration.MsgUpdateParams",
  "/cosmos.auth.v1beta1.MsgUpdateParams",
  "/cosmos.bank.v1beta1.MsgUpdateParams",
  "/cosmos.distribution.v1beta1.MsgUpdateParams",
  "/cosmos.mint.v1beta1.MsgUpdateParams",
  "/cosmos.slashing.v1beta1.MsgUpdateParams",
  "/cosmos.staking.v1beta1.MsgUpdateParams",
  "/cosmos.consensus.v1.MsgUpdateParams",
  "/cosmos.gov.v1.MsgUpdateParams"]

/-- The types of the framework that are decoded as they are. -/
def allModuleTypes : List String := [
  "/cosmos.auth.v1beta1.BaseAccount",
  "/cosmos.auth.v1beta1.ModuleAccount",
  "/cosmos.bank.v1beta1.MsgMultiSend",
  "/cosmos.bank.v1beta1.MsgSend",
  "/cosmos.distribution.v1beta1.MsgFundCommunityPool",
  "/cosmos.distribution.v1beta1.MsgSetWithdrawAddress",
  "/cosmos.distribution.v1beta1.MsgWithdrawDelegatorReward",
  "/cosmos.distribution.v1beta1.MsgWithdrawValidatorCommission",
  "/cosmos.gov.v1beta1.MsgDeposit",
  "/cosmos.gov.v1beta1.MsgSubmitProposal",
  "/cosmos.gov.v1beta1.MsgVote",
  "/cosmos.gov.v1beta1.MsgVoteWeighted",
  "/ibc.applications.transfer.v1.MsgTransfer",
  "/ibc.core.channel.v1.MsgAcknowledgement",
  "/ibc.core.channel.v1.MsgChannelCloseConfirm",
  "/ibc.core.channel.v1.MsgChannelCloseInit",
  "/ibc.core.channel.v1.MsgChannelOpenAck",
  "/ibc.core.channel.v1.MsgChannelOpenConfirm",
  "/ibc.core.channel.v1.MsgChannelOpenInit",
  "/ibc.core.channel.v1.MsgChannelOpenTry",
  "/ibc.core.channel.v1.MsgRecvPacket",
  "/ibc.core.channel.v1.MsgTimeout",
  "/ibc.core.channel.v1.MsgTimeoutOnClose",
  "/ibc.core.client.v1.MsgCreateClient",
  "/ibc.core.client.v1.MsgSubmitMisbehaviour",
  "/ibc.core.client.v1.MsgUpdateClient",
  "/ibc.core.client.v1.MsgUpgradeClient",
  "/ibc.core.connection.v1.MsgConnectionOpenAck",
  "/ibc.core.connection.v1.MsgConnectionOpenConfirm",
  "/ibc.core.connection.v1.MsgConnectionOpenInit",
  "/ibc.core.connection.v1.MsgConnectionOpenTry",
  "/cosmos.staking.v1beta1.MsgBeginRedelegate",
  "/cosmos.staking.v1beta1.MsgCreateValidator",
  "/cosmos.staking.v1beta1.MsgDelegate",
  "/cosmos.staking.v1beta1.MsgEditValidator",
  "/cosmos.staking.v1beta1.MsgUndelegate",
  "/cosmwasm.wasm.v1.MsgClearAdmin",
  "/cosmwasm.wasm.v1.MsgExecuteContract",
  "/cosmwasm.wasm.v1.MsgMigrateContract",
  "/cosmwasm.wasm.v1.MsgStoreCode",
  "/cosmwasm.wasm.v1.MsgInstantiateContract",
  "/cosmwasm.wasm.v1.MsgUpdateAdmin"]

/-- How the bytes of a type of messages are decoded, and the text of what they hold. -/
structure Codec (α : Type) where
  decode : List UInt8 → Except String α
  stringify : α → String

/-- The codecs of messages; what updates parameters also tells the object made of it. -/
structure Codecs where
  exec : AuthzExecMsg → String
  importAccounts : Codec MsgImportMorseClaimableAccounts
  recoverAccount : Codec MsgRecoverMorseAccount
  adminRecoverAccount : Codec MsgRecoverMorseAccount
  updateParams : String → Codec (List (String × Json))
  moduleType : String → Codec Json

structure MessageProps where
  id : String
  idx : ℕ
  typeUrl : String
  json : String
  transactionId : String
  blockId : ℕ
  deriving DecidableEq, Repr

structure AuthzExecProps where
  id : String
  grantee : String
  messageId : String
  transactionId : String
  blockId : ℕ
  deriving DecidableEq, Repr

structure AuthzMsgExecProps where
  id : String
  authzExecId : String
  messageId : String
  deriving DecidableEq, Repr

/-- The rows of executed messages. -/
structure HandleAuthzExecResult where
  messages : List MessageProps := []
  authzExec : List AuthzExecProps := []
  authzExecMsgs : List AuthzMsgExecProps := []
  params : List ParamProps := []
  msgImportMorseClaimableAccounts : List MsgImportMorseClaimableAccountsProps := []
  morseClaimableAccount : List MorseClaimableAccountProps := []
  msgRecoverMorseAccount : List MsgRecoverMorseAccountProps := []
  deriving DecidableEq, Repr

/-- The rows of several results, one after the other. -/
def merge (results : List HandleAuthzExecResult) : HandleAuthzExecResult where
  messages := results.flatMap HandleAuthzExecResult.messages
  authzExec := results.flatMap HandleAuthzExecResult.authzExec
  authzExecMsgs := results.flatMap HandleAuthzExecResult.authzExecMsgs
  params := results.flatMap HandleAuthzExecResult.params
  msgImportMorseClaimableAccounts :=
    results.flatMap HandleAuthzExecResult.msgImportMorseClaimableAccounts
  morseClaimableAccount := results.flatMap HandleAuthzExecResult.morseClaimableAccount
  msgRecoverMorseAccount := results.flatMap HandleAuthzExecResult.msgRecoverMorseAccount

/-- An inner message is identified by the outer one and its place in it. -/
def subMsgId (msg : ExecMessage) (i : ℕ) : String := s!"{msg.id}-{i}"

/-- The rows that every decoded inner message has. -/
def subMsgRows (msg : ExecMessage) (i : ℕ) (json : String) : HandleAuthzExecResult where
  messages := [{
    id := subMsgId msg i
    idx := msg.idx
    typeUrl := msg.typeUrl
    json := json
    transactionId := msg.tx.hash
    blockId := msg.height }]
  authzExecMsgs := [{
    id := subMsgId msg i
    authzExecId := msg.id
    messageId := subMsgId msg i }]

/-- The rows of an inner message, if its type is known. -/
def handleSubMsg (codecs : Codecs) (msg : ExecMessage) (encodedMsg : EncodedMsg) (i : ℕ) :
    Except String HandleAuthzExecResult :=
  if encodedMsg.typeUrl = "/pocket.migration.MsgImportMorseClaimableAccounts" then do
    let (decodedMsg, record, accounts) ← handleMsgImportMorseClaimableAccounts
      codecs.importAccounts.decode encodedMsg.value msg.tx.hash (getBlockId msg.height) msg.id
    return { subMsgRows msg i (codecs.importAccounts.stringify decodedMsg) with
      msgImportMorseClaimableAccounts := [record]
      morseClaimableAccount := accounts }
  else if encodedMsg.typeUrl = "/pocket.migration.MsgRecoverMorseAccount" then do
    let (decodedMsg, record) ← handleMsgRecoverMorseAccount codecs.recoverAccount.decode
      encodedMsg.value msg.tx (getBlockId msg.height) msg.id false
    return { subMsgRows msg i (codecs.recoverAccount.stringify decodedMsg) with
      msgRecoverMorseAccount := [record] }
  else if encodedMsg.typeUrl = "/pocket.migration.MsgAdminRecoverMorseAccount" then do
    let (decodedMsg, record) ← handleMsgRecoverMorseAccount codecs.adminRecoverAccount.decode
      encodedMsg.value msg.tx (getBlockId msg.height) msg.id true
    return { subMsgRows msg i (codecs.adminRecoverAccount.stringify decodedMsg) with
      msgRecoverMorseAccount := [record] }
  else if encodedMsg.typeUrl ∈ msgUpdateParamsMap then do
    let decodedMsg ← (codecs.updateParams encodedMsg.typeUrl).decode encodedMsg.value
    let params ← _handleUpdateParam encodedMsg.typeUrl decodedMsg (getBlockId msg.height)
    return { subMsgRows msg i ((codecs.updateParams encodedMsg.typeUrl).stringify decodedMsg) with
      params := params }
  else if encodedMsg.typeUrl ∈ allModuleTypes then do
    let decodedMsg ← (codecs.moduleType encodedMsg.typeUrl).decode encodedMsg.value
    return subMsgRows msg i ((codecs.moduleType encodedMsg.typeUrl).stringify decodedMsg)
  -- A type that no module knows is skipped, without a row.
  else .ok {}

/-- The rows of the outer message. -/
def execRows (codecs : Codecs) (msg : ExecMessage) : HandleAuthzExecResult where
  messages := [{
    id := msg.id
    idx := msg.idx
    typeUrl := msg.typeUrl
    json := codecs.exec msg.decodedMsg
    transactionId := msg.tx.hash
    blockId := msg.height }]
  authzExec := [{
    id := msg.id
    grantee := msg.decodedMsg.grantee
    messageId := msg.id
    transactionId := msg.tx.hash
    blockId := msg.height }]

/-- The rows of a message and of those it executes. -/
def _handleAuthzExec (codecs : Codecs) (msg : ExecMessage) :
    Except String HandleAuthzExecResult := do
  let inner ← msg.decodedMsg.msgs.zipIdx.mapM fun (encodedMsg, i) =>
    handleSubMsg codecs msg encodedMsg i
  return merge (execRows codecs msg :: inner)

/-- The rows of all messages of a block that execute others. -/
def allResults (codecs : Codecs) (messages : List ExecMessage) :
    Except String HandleAuthzExecResult := do
  let results ← messages.mapM (_handleAuthzExec codecs)
  return merge results

/-- The tables that executed messages are stored in. -/
structure Tables where
  messages : Store MessageProps.id
  authzExec : Store AuthzExecProps.id
  authzExecMsgs : Store AuthzMsgExecProps.id
  params : Store ParamProps.id
  msgImportMorseClaimableAccounts : Store MsgImportMorseClaimableAccountsProps.id
  morseClaimableAccount : Store MorseClaimableAccountProps.id
  msgRecoverMorseAccount : Store MsgRecoverMorseAccountProps.id

/-- The accounts that recoveries mark. -/
def recovered (records : List MsgRecoverMorseAccountProps) : List ClaimedItem :=
  records.map fun msg => {
    publicKey := none
    morseAddress := some msg.morseSrcAddress
    destinationAddress := msg.shannonDestAddressId
    claimedMsgId := msg.id
    transactionHash := msg.transactionId }

/-- Storing the rows, and marking the accounts that were recovered. -/
def handleAuthzExec (codecs : Codecs) (externals : Externals) (blockHeight : ℕ)
    (messages : List ExecMessage) (tables : Tables)
    (accounts : List (Row MorseClaimableAccountProps)) :
    Except String (Tables × List (Row MorseClaimableAccountProps)) := do
  let result ← allResults codecs messages
  let accounts ← updateMorseClaimableAccounts externals blockHeight
    (recovered result.msgRecoverMorseAccount) accounts
  return ({
    messages := tables.messages.bulkCreate result.messages
    authzExec := tables.authzExec.bulkCreate result.authzExec
    authzExecMsgs := tables.authzExecMsgs.bulkCreate result.authzExecMsgs
    params := tables.params.bulkCreate result.params
    msgImportMorseClaimableAccounts :=
      tables.msgImportMorseClaimableAccounts.bulkCreate result.msgImportMorseClaimableAccounts
    morseClaimableAccount := tables.morseClaimableAccount.bulkCreate result.morseClaimableAccount
    msgRecoverMorseAccount :=
      tables.msgRecoverMorseAccount.bulkCreate result.msgRecoverMorseAccount }, accounts)

end Pocketdex.Authz
