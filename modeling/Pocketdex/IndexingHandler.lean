import Pocketdex.Pocket.Delegations
import Pocketdex.Pocket.SupplierIndex

/-! The indexing of a block: its messages and events are filed by type, and handed to handlers. -/

namespace Pocketdex.IndexingHandler

def PREFIX : String := "pokt"

/-- The types of messages that have a handler. -/
inductive MsgType where
  | grant
  | claimMorseAccount
  | recoverMorseAccount
  | claimMorseApplication
  | send
  | createValidator
  | exec
  | stakeApplication
  | delegateToGateway
  | undelegateFromGateway
  | unstakeApplication
  | transferApplication
  | addService
  | stakeSupplier
  | unstakeSupplier
  | claimMorseSupplier
  | stakeGateway
  | unstakeGateway
  | createClaim
  | submitProof
  deriving DecidableEq, Repr

/-- The types of events that have a handler, or are balances built from. -/
inductive HandledEvent where
  | grant
  | rewards
  | commission
  | transferBegin
  | transferEnd
  | transferError
  | applicationUnbondingBegin
  | applicationUnbondingEnd
  | supplierServiceConfigActivated
  | supplierUnbondingBegin
  | supplierUnbondingEnd
  | relayMiningDifficultyUpdated
  | gatewayUnstaked
  | gatewayUnbondingBegin
  | gatewayUnbondingEnd
  | claimSettled
  | claimExpired
  | supplierSlashed
  | applicationOverserviced
  | applicationReimbursementRequest
  | settlementBatch
  | validatorRewardDistribution
  | claimUpdated
  | proofUpdated
  | proofValidityChecked
  | mint
  | coinbase
  | transfer
  | burn
  | coinReceived
  | coinSpent
  deriving DecidableEq, Repr

/-- The keys of the message handlers. -/
def MsgHandlers : List (MsgType × String) := [
  (.grant, "/cosmos.authz.v1beta1.MsgGrant"),
  (.claimMorseAccount, "/pocket.migration.MsgClaimMorseAccount"),
  (.recoverMorseAccount, "/pocket.migration.MsgRecoverMorseAccount"),
  (.claimMorseApplication, "/pocket.migration.MsgClaimMorseApplication"),
  (.send, "/cosmos.bank.v1beta1.MsgSend"),
  (.createValidator, "/cosmos.staking.v1beta1.MsgCreateValidator"),
  (.exec, "/cosmos.authz.v1beta1.MsgExec"),
  (.stakeApplication, "/pocket.application.MsgStakeApplication"),
  (.delegateToGateway, "/pocket.application.MsgDelegateToGateway"),
  (.undelegateFromGateway, "/pocket.application.MsgUndelegateFromGateway"),
  (.unstakeApplication, "/pocket.application.MsgUnstakeApplication"),
  (.transferApplication, "/pocket.application.MsgTransferApplication"),
  (.addService, "/pocket.service.MsgAddService"),
  (.stakeSupplier, "/pocket.supplier.MsgStakeSupplier"),
  (.unstakeSupplier, "/pocket.supplier.MsgUnstakeSupplier"),
  (.claimMorseSupplier, "/pocket.migration.MsgClaimMorseSupplier"),
  (.stakeGateway, "/pocket.gateway.MsgStakeGateway"),
  (.unstakeGateway, "/pocket.gateway.MsgUnstakeGateway"),
  (.createClaim, "/pocket.proof.MsgCreateClaim"),
  (.submitProof, "/pocket.proof.MsgSubmitProof")]

/-- The keys of the event handlers, and the two types that balances are built from. -/
def EventHandlers : List (HandledEvent × String) := [
  (.grant, "cosmos.authz.v1beta1.EventGrant"),
  (.rewards, "rewards"),
  (.commission, "commission"),
  (.transferBegin, "pocket.application.EventTransferBegin"),
  (.transferEnd, "pocket.application.EventTransferEnd"),
  (.transferError, "pocket.application.EventTransferError"),
  (.applicationUnbondingBegin, "pocket.application.EventApplicationUnbondingBegin"),
  (.applicationUnbondingEnd, "pocket.application.EventApplicationUnbondingEnd"),
  (.supplierServiceConfigActivated, "pocket.supplier.EventSupplierServiceConfigActivated"),
  (.supplierUnbondingBegin, "pocket.supplier.EventSupplierUnbondingBegin"),
  (.supplierUnbondingEnd, "pocket.supplier.EventSupplierUnbondingEnd"),
  (.relayMiningDifficultyUpdated, "pocket.service.EventRelayMiningDifficultyUpdated"),
  (.gatewayUnstaked, "pocket.gateway.EventGatewayUnstaked"),
  (.gatewayUnbondingBegin, "pocket.gateway.EventGatewayUnbondingBegin"),
  (.gatewayUnbondingEnd, "pocket.gateway.EventGatewayUnbondingEnd"),
  (.claimSettled, "pocket.tokenomics.EventClaimSettled"),
  (.claimExpired, "pocket.tokenomics.EventClaimExpired"),
  (.supplierSlashed, "pocket.tokenomics.EventSupplierSlashed"),
  (.applicationOverserviced, "pocket.tokenomics.EventApplicationOverserviced"),
  (.applicationReimbursementRequest, "pocket.tokenomics.EventApplicationReimbursementRequest"),
  (.settlementBatch, "pocket.tokenomics.EventSettlementBatch"),
  (.validatorRewardDistribution, "pocket.tokenomics.EventValidatorRewardDistribution"),
  (.claimUpdated, "pocket.proof.EventClaimUpdated"),
  (.proofUpdated, "pocket.proof.EventProofUpdated"),
  (.proofValidityChecked, "pocket.proof.EventProofValidityChecked"),
  (.mint, "mint"),
  (.coinbase, "coinbase"),
  (.transfer, "transfer"),
  (.burn, "burn"),
  (.coinReceived, "coin_received"),
  (.coinSpent, "coin_spent")]

/-- A message of a block, with the code of its transaction. -/
structure BlockMsg where
  idx : ℕ
  hash : String
  code : ℕ
  typeUrl : String
  deriving DecidableEq, Repr

/-- An event of a block, with the code of its transaction if it has one. -/
structure BlockEvent where
  idx : ℕ
  code : Option ℕ
  type : String
  attributes : List Attribute
  deriving DecidableEq, Repr

/-- A message or an event of a block. -/
inductive BlockDatum where
  | msg (msg : BlockMsg)
  | event (event : BlockEvent)
  deriving DecidableEq, Repr

/-- A type that has a handler. -/
inductive HandledType where
  | msg (type : MsgType)
  | event (type : HandledEvent)
  deriving DecidableEq, Repr

namespace BlockDatum

/-- The type a datum is filed under, if it has a handler. -/
def type? : BlockDatum → Option HandledType
  | msg sent => (MsgHandlers.find? fun key => key.2 = sent.typeUrl).map fun key => .msg key.1
  | event emitted =>
    (EventHandlers.find? fun key => key.2 = emitted.type).map fun key => .event key.1

/-- Whether the transaction of a datum succeeded, or it has none. -/
def succeeded : BlockDatum → Bool
  | msg sent => sent.code = 0
  | event emitted => emitted.code.all fun code => code = 0

end BlockDatum

/-- No attribute of an event holds an empty amount. -/
def hasValidAmountAttribute (event : BlockEvent) : Bool :=
  !event.attributes.any fun attr => attr.key = "amount" && attr.value.isEmpty

/-- The events that are indexed at all: coins of module accounts are not, as these accounts are
tracked on their own. -/
def isValidEvent (moduleAccounts : List String) (evt : BlockEvent) : Bool :=
  if evt.type = "message" then false
  else if evt.type = "tx" then false
  else if !hasValidAmountAttribute evt then false
  else
    let isModuleAccount := evt.attributes.any fun attr =>
      attr.value.startsWith PREFIX && moduleAccounts.contains attr.value
    let isCoinReceived := evt.type = "coin_received"
    let isCoinSpent := evt.type = "coin_spent"
    !(isModuleAccount && (isCoinReceived || isCoinSpent))

/-- Which data are handled by the status of their transaction. -/
inductive ByTxStatus where
  | all
  | success
  | error
  deriving DecidableEq, Repr

def ByTxStatus.keeps (status : ByTxStatus) (datum : BlockDatum) : Bool :=
  match status with
  | all => true
  | success => datum.succeeded
  | error => !datum.succeeded

/-- Who is handed data: the handler of their type, or a function for data of several types. -/
inductive Recipient where
  | handler (type : HandledType)
  | applications
  | gateways
  | suppliers
  | claimSettled
  | balances
  deriving DecidableEq, Repr

/-- Data that are handed over together, beside others that are only looked up. -/
structure Call where
  recipient : Recipient
  docs : List BlockDatum
  lookedUp : List BlockDatum := []

/-- The data filed under a type. -/
def byType (data : List BlockDatum) (type : HandledType) : List BlockDatum :=
  data.filter fun datum => datum.type? = some type

/-- The handler of each type that has data is called once. -/
def handleByType (types : List HandledType) (data : List BlockDatum) (byTxStatus : ByTxStatus) :
    List Call :=
  types.filterMap fun type =>
    let docs := byType data type
    if docs.length > 0 then
      some { recipient := .handler type, docs := docs.filter byTxStatus.keeps }
    else none

/-- The data of several types, where those of failed transactions are left out. -/
def successfulByType (types : List HandledType) (data : List BlockDatum) : List BlockDatum :=
  (types.flatMap (byType data)).filter BlockDatum.succeeded

def applicationTypes : List HandledType := [.msg .delegateToGateway, .msg .undelegateFromGateway,
  .msg .unstakeApplication, .msg .stakeApplication, .msg .claimMorseApplication,
  .msg .transferApplication, .event .transferBegin, .event .transferEnd, .event .transferError,
  .event .applicationUnbondingBegin, .event .applicationUnbondingEnd]

def gatewayTypes : List HandledType := [.msg .unstakeGateway, .msg .stakeGateway,
  .event .gatewayUnstaked, .event .gatewayUnbondingBegin, .event .gatewayUnbondingEnd]

def supplierTypes : List HandledType := [.msg .unstakeSupplier, .msg .claimMorseSupplier,
  .msg .stakeSupplier, .event .supplierUnbondingBegin, .event .supplierUnbondingEnd,
  .event .supplierServiceConfigActivated, .event .supplierSlashed]

def indexParams (data : List BlockDatum) : List Call := handleByType [.msg .exec] data .success

def indexStake (data : List BlockDatum) : List Call := [
  { recipient := .applications, docs := successfulByType applicationTypes data },
  { recipient := .gateways, docs := successfulByType gatewayTypes data },
  { recipient := .suppliers, docs := successfulByType supplierTypes data }]

/-- Settled claims are handled on their own, whatever the status of their transaction. -/
def indexRelays (data : List BlockDatum) : List Call :=
  handleByType [.msg .createClaim, .msg .submitProof] data .success ++
  handleByType [.event .claimExpired, .event .claimUpdated, .event .proofUpdated,
    .event .proofValidityChecked, .event .applicationOverserviced,
    .event .applicationReimbursementRequest, .event .settlementBatch,
    .event .validatorRewardDistribution] data .success ++
  [{ recipient := .claimSettled
     docs := byType data (.event .claimSettled)
     -- The effective burns of overserviced applications.
     lookedUp := byType data (.event .applicationOverserviced) }]

def indexBalances (data : List BlockDatum) : List Call :=
  { recipient := .balances
    docs := byType data (.event .coinReceived) ++ byType data (.event .coinSpent) } ::
    handleByType [.msg .send] data .all

def indexGrants (data : List BlockDatum) : List Call :=
  handleByType [.msg .grant] data .success ++ handleByType [.event .grant] data .success

def indexService (data : List BlockDatum) : List Call :=
  handleByType [.msg .addService] data .success ++
    handleByType [.event .relayMiningDifficultyUpdated] data .success

def indexValidators (data : List BlockDatum) : List Call :=
  handleByType [.msg .createValidator] data .success ++
    handleByType [.event .rewards, .event .commission] data .all

def indexMigrationAccounts (data : List BlockDatum) : List Call :=
  handleByType [.msg .claimMorseAccount, .msg .recoverMorseAccount] data .success

/-- What the messages and events of a block are handed to. -/
def indexingHandler (moduleAccounts : List String) (messages : List BlockMsg)
    (events : List BlockEvent) : List Call :=
  let filteredEvents := events.filter (isValidEvent moduleAccounts)
  let data := messages.map .msg ++ filteredEvents.map .event
  indexParams data ++ indexStake data ++ indexRelays data ++ indexBalances data ++
    indexGrants data ++ indexService data ++ indexValidators data ++ indexMigrationAccounts data

end Pocketdex.IndexingHandler
