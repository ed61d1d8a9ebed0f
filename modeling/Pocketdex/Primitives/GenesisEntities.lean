import Pocketdex.Pocket.Suppliers
import Pocketdex.Pocket.Validators
import Pocketdex.Utils.Double

/-! The entities of the genesis file are stored with transactions and messages made up for them. -/

namespace Pocketdex

/-- The kinds of entities transactions are made up for. -/
inductive FakeTxType where
  | app
  | supplier
  | gateway
  | service
  | validator
  deriving DecidableEq, Repr

/-- The letter the hashes of a kind end in. -/
def FakeTxType.entityId : FakeTxType → Char
  | app => 'A'
  | supplier => 'B'
  | gateway => 'C'
  | service => 'D'
  | validator => 'E'

/-- The digits of the number of an entity, which counts from one. -/
def fakeTxDigits (index : ℕ) : List Char := (toString (index + 1)).toList

/-- The number of an entity and the letter of its kind, filled up to the length of a hash. -/
def fakeTxHash (entity : FakeTxType) (index : ℕ) : String :=
  String.ofList (List.replicate (64 - (fakeTxDigits index).length - 1) '0' ++ fakeTxDigits index ++
    [entity.entityId])

/-- A text that looks like a transaction hash: repeating a text a negative time throws. -/
def getGenesisFakeTxHash (entity : FakeTxType) (index : ℕ) : Except String String :=
  if 64 < (fakeTxDigits index).length + 1 then
    .error s!"Invalid count value: -{(fakeTxDigits index).length + 1 - 64}"
  else .ok (fakeTxHash entity index)

structure GenesisService where
  id : String
  name : String
  computeUnitsPerRelay : Double
  ownerAddress : String
  deriving DecidableEq

structure GenesisSupplier where
  operatorAddress : String
  ownerAddress : String
  stake : Coin
  deriving DecidableEq, Repr

structure GenesisApplication where
  address : String
  stake : Coin
  delegateeGatewayAddresses : List String
  deriving DecidableEq, Repr

structure GenesisGateway where
  address : String
  stake : Coin
  deriving DecidableEq, Repr

/-- The key a validator signs blocks with, and the address derived from it. -/
structure ConsensusKey where
  type : String
  key : String
  address : String
  deriving DecidableEq, Repr

structure CommissionRates where
  rate : String
  maxRate : String
  maxChangeRate : String
  deriving DecidableEq, Repr

/-- A transaction of the genesis file: its first message, and what its signer's key derives. -/
structure GenesisTransaction where
  type : Option String
  signerAddress : String
  poktSignerAddress : String
  validatorAddress : String
  pubkey : ConsensusKey
  description : JsonField
  commission : CommissionRates
  minSelfDelegation : String
  value : Coin
  deriving DecidableEq

/-- A validator carried over as state, with its operator's address under the account prefix. -/
structure GenesisStakingValidator where
  operatorAddress : String
  poktOperatorAddress : String
  consensusPubkey : ConsensusKey
  tokens : String
  description : JsonField
  commissionRates : CommissionRates
  minSelfDelegation : String
  deriving DecidableEq

/-- The lists of entities in the genesis file. -/
structure GenesisEntities where
  services : List GenesisService
  suppliers : List GenesisSupplier
  applications : List GenesisApplication
  gateways : List GenesisGateway
  genTxs : List GenesisTransaction
  stakingValidators : List GenesisStakingValidator
  deriving DecidableEq

structure TransactionProps where
  id : String
  blockId : ℕ
  idx : ℕ := 0
  signerAddress : Option String := none
  gasUsed : ℕ := 0
  gasWanted : ℕ := 0
  fees : List Coin := [⟨"0", "upokt"⟩]
  codespace : String := ""
  memo : String := ""
  log : String := ""
  timeoutHeight : Option ℕ := none
  status : String := "Success"
  isMultisig : Bool := false
  code : ℕ := 0
  deriving DecidableEq, Repr

structure MessageProps where
  id : String
  typeUrl : String
  blockId : ℕ
  transactionId : String
  idx : ℕ := 0
  deriving DecidableEq, Repr

structure MsgAddServiceProps where
  id : String
  serviceId : String
  name : String
  computeUnitsPerRelay : Int
  ownerId : String
  blockId : ℕ
  transactionId : String
  messageId : String
  deriving DecidableEq, Repr

structure MsgDelegateToGatewayProps where
  id : String
  applicationId : String
  gatewayId : String
  blockId : ℕ
  transactionId : String
  messageId : String
  deriving DecidableEq, Repr

structure MsgStakeGatewayProps where
  id : String
  stakeAmount : Int
  stakeDenom : String
  blockId : ℕ
  gatewayId : String
  transactionId : String
  messageId : String
  deriving DecidableEq, Repr

structure MsgCreateValidatorProps where
  id : String
  pubkey : ConsensusKey
  signerId : String
  signerPoktPrefixId : String
  description : JsonField
  commission : CommissionRates
  minSelfDelegation : Number
  stakeDenom : String
  stakeAmount : Int
  blockId : ℕ
  transactionId : String
  messageId : String
  deriving DecidableEq

/-- What one entity adds: a transaction, a message, and the record of the message's kind. -/
structure GenesisDocs (μ : Type) where
  transaction : TransactionProps
  message : MessageProps
  entityMsg : μ

/-- The transaction and the message made up for an entity. -/
def genesisDocs {μ : Type} (blockId : ℕ) (msgId typeUrl transactionHash : String)
    (signerAddress : Option String) (timeoutHeight : Option ℕ) (entityMsg : μ) : GenesisDocs μ where
  transaction := {
    id := transactionHash
    blockId := blockId
    signerAddress := signerAddress
    timeoutHeight := timeoutHeight }
  message := {
    id := msgId
    typeUrl := typeUrl
    blockId := blockId
    transactionId := transactionHash }
  entityMsg := entityMsg

/-- A service: the number of its transaction is always zero. -/
def genesisServiceDocs (blockId : ℕ) (service : GenesisService) :
    Except String (GenesisDocs MsgAddServiceProps) := do
  let computeUnitsPerRelay ← service.computeUnitsPerRelay.toBigInt
  let msgId := s!"genesis-{service.id}"
  let transactionHash ← getGenesisFakeTxHash .service 0
  return genesisDocs blockId msgId "/pocket.service.MsgAddService" transactionHash none none {
    id := msgId
    serviceId := service.id
    name := service.name
    computeUnitsPerRelay := computeUnitsPerRelay
    ownerId := service.ownerAddress
    blockId := blockId
    transactionId := transactionHash
    messageId := msgId }

def _handleGenesisServices (blockId : ℕ) (services : List GenesisService) :
    Except String (List (GenesisDocs MsgAddServiceProps)) :=
  services.mapM (genesisServiceDocs blockId)

/-- A supplier at its place in the list. -/
def genesisSupplierDocs (blockId : ℕ) : GenesisSupplier × ℕ →
    Except String (GenesisDocs MsgStakeSupplierProps)
  | (supplier, i) => do
    let msgId := s!"genesis-{supplier.operatorAddress}"
    let transactionHash ← getGenesisFakeTxHash .supplier i
    let stakeAmount ← bigInt supplier.stake.amount
    return genesisDocs blockId msgId "/pocket.supplier.MsgStakeSupplier" transactionHash none
      (some 0) {
        id := msgId
        blockId := blockId
        stakeAmount := stakeAmount
        stakeDenom := supplier.stake.denom
        transactionId := transactionHash
        ownerId := supplier.ownerAddress
        signerId := supplier.ownerAddress
        supplierId := supplier.operatorAddress
        messageId := msgId }

def _handleGenesisSuppliers (blockId : ℕ) (suppliers : List GenesisSupplier) :
    Except String (List (GenesisDocs MsgStakeSupplierProps)) :=
  suppliers.zipIdx.mapM (genesisSupplierDocs blockId)

/-- A delegation of an application is recorded under the gateway's address alone. -/
def genesisDelegation (blockId : ℕ) (address transactionHash gatewayAddress : String) :
    MsgDelegateToGatewayProps where
  id := s!"genesis-{gatewayAddress}"
  applicationId := address
  gatewayId := gatewayAddress
  blockId := blockId
  transactionId := transactionHash
  messageId := s!"genesis-{gatewayAddress}"

/-- An application at its place in the list, with its delegations. -/
def genesisApplicationDocs (blockId : ℕ) : GenesisApplication × ℕ →
    Except String (GenesisDocs (MsgStakeApplicationProps × List MsgDelegateToGatewayProps))
  | (app, i) => do
    let msgId := s!"genesis-{app.address}"
    let transactionHash ← getGenesisFakeTxHash .app i
    let stakeAmount ← bigInt app.stake.amount
    return genesisDocs blockId msgId "/pocket.application.MsgStakeApplication" transactionHash none
      none ({
        id := msgId
        stakeAmount := stakeAmount
        stakeDenom := app.stake.denom
        blockId := blockId
        applicationId := app.address
        transactionId := transactionHash
        messageId := msgId },
      app.delegateeGatewayAddresses.map (genesisDelegation blockId app.address transactionHash))

def _handleGenesisApplications (blockId : ℕ) (applications : List GenesisApplication) :
    Except String (List (GenesisDocs (MsgStakeApplicationProps × List MsgDelegateToGatewayProps))) :=
  applications.zipIdx.mapM (genesisApplicationDocs blockId)

/-- A gateway at its place in the list. -/
def genesisGatewayDocs (blockId : ℕ) : GenesisGateway × ℕ →
    Except String (GenesisDocs MsgStakeGatewayProps)
  | (gateway, i) => do
    let msgId := s!"genesis-{gateway.address}"
    let transactionHash ← getGenesisFakeTxHash .gateway i
    let stakeAmount ← bigInt gateway.stake.amount
    return genesisDocs blockId msgId "/pocket.gateway.MsgStakeGateway" transactionHash none none {
      id := msgId
      stakeAmount := stakeAmount
      stakeDenom := gateway.stake.denom
      blockId := blockId
      gatewayId := gateway.address
      transactionId := transactionHash
      messageId := msgId }

def _handleGenesisGateways (blockId : ℕ) (gateways : List GenesisGateway) :
    Except String (List (GenesisDocs MsgStakeGatewayProps)) :=
  gateways.zipIdx.mapM (genesisGatewayDocs blockId)

/-- The type of the messages that create validators. -/
def createValidatorTypeUrl : String := "/cosmos.staking.v1beta1.MsgCreateValidator"

/-- The create message of a genesis transaction, which its operator has to sign. -/
def _handleMsgCreateValidator (blockId : ℕ) (genTx : GenesisTransaction) (index : ℕ) :
    Except String MsgCreateValidatorProps := do
  let txHash ← getGenesisFakeTxHash .validator index
  if genTx.signerAddress ≠ genTx.validatorAddress then
    .error (s!"[handleGenesisGenTxs] gen_tx {index}: derived signer address " ++
      s!"{genTx.signerAddress} != msg validator_address {genTx.validatorAddress}")
  else do
    let stakeAmount ← bigInt genTx.value.amount
    return {
      id := s!"genesis-gen-txs-{index}-0"
      pubkey := genTx.pubkey
      signerId := genTx.signerAddress
      signerPoktPrefixId := genTx.poktSignerAddress
      description := genTx.description
      commission := genTx.commission
      minSelfDelegation := parseInt genTx.minSelfDelegation
      stakeDenom := genTx.value.denom
      stakeAmount := stakeAmount
      blockId := blockId
      transactionId := txHash
      messageId := s!"genesis-gen-txs-{index}-0" }

/-- A genesis transaction at its place in the list: only create messages are known. -/
def genTxDocs (blockId : ℕ) : GenesisTransaction × ℕ →
    Except String (GenesisDocs MsgCreateValidatorProps)
  | (genTx, i) =>
    match genTx.type with
    | none =>
      .error "[handleGenesisGenTxs] Null/Undefined gen_t.body.messages[0].@type: undefined"
    | some type =>
      if type ≠ createValidatorTypeUrl then
        .error s!"[handleGenesisGenTxs] Unknown gen_txs type: {type}"
      else do
        let validatorMsg ← _handleMsgCreateValidator blockId genTx i
        return genesisDocs blockId validatorMsg.id type validatorMsg.transactionId
          (some validatorMsg.signerId) none validatorMsg

/-- A decimal text as the digits of the number scaled by ten to the eighteenth. -/
def decToScaledInt (dec : String) : String :=
  let int := dec.toList.takeWhile (· ≠ '.')
  let frac := ((dec.toList.dropWhile (· ≠ '.')).drop 1).takeWhile (· ≠ '.')
  let padded := (frac ++ List.replicate (18 - frac.length) '0').take 18
  let scaled := (int ++ padded).dropWhile (· = '0')
  if scaled = [] then "0" else String.ofList scaled

/-- The bond denomination, which is implicit in the staking module. -/
def STAKING_BOND_DENOM : String := "upokt"

/-- The create message made up for a validator that was carried over as state. -/
def _handleGenesisStakingValidator (blockId : ℕ) (validator : GenesisStakingValidator)
    (index : ℕ) : Except String MsgCreateValidatorProps := do
  let stakeAmount ← bigInt validator.tokens
  let transactionId ← getGenesisFakeTxHash .validator index
  return {
    id := s!"genesis-staking-validator-{validator.operatorAddress}"
    pubkey := validator.consensusPubkey
    signerId := validator.operatorAddress
    signerPoktPrefixId := validator.poktOperatorAddress
    description := validator.description
    commission := {
      rate := decToScaledInt validator.commissionRates.rate
      maxRate := decToScaledInt validator.commissionRates.maxRate
      maxChangeRate := decToScaledInt validator.commissionRates.maxChangeRate }
    minSelfDelegation := parseInt (orZero validator.minSelfDelegation)
    stakeDenom := STAKING_BOND_DENOM
    stakeAmount := stakeAmount
    blockId := blockId
    transactionId := transactionId
    messageId := s!"genesis-staking-validator-{validator.operatorAddress}" }

/-- A validator carried over as state, numbered on from the genesis transactions. -/
def stakingValidatorDocs (blockId genTxs : ℕ) : GenesisStakingValidator × ℕ →
    Except String (GenesisDocs MsgCreateValidatorProps)
  | (validator, j) => do
    let validatorMsg ← _handleGenesisStakingValidator blockId validator (genTxs + j)
    return genesisDocs blockId validatorMsg.id createValidatorTypeUrl validatorMsg.transactionId
      (some validatorMsg.signerId) none validatorMsg

/-- The numbered validators whose operators have no genesis transaction. -/
def GenesisEntities.numberedValidators (genesis : GenesisEntities) :
    List (GenesisStakingValidator × ℕ) :=
  genesis.stakingValidators.zipIdx.filter fun (validator, _) =>
    validator.operatorAddress ∉ genesis.genTxs.map GenesisTransaction.validatorAddress

def _handleGenesisGenTxs (blockId : ℕ) (genesis : GenesisEntities) :
    Except String (List (GenesisDocs MsgCreateValidatorProps)) := do
  let created ← genesis.genTxs.zipIdx.mapM (genTxDocs blockId)
  let carried ← genesis.numberedValidators.mapM
    (stakingValidatorDocs blockId genesis.genTxs.length)
  return created ++ carried

/-- The records the genesis block writes to the tables of transactions and messages. -/
structure GenesisRecords where
  transactions : List TransactionProps
  messages : List MessageProps
  msgAddService : List MsgAddServiceProps
  msgStakeSupplier : List MsgStakeSupplierProps
  msgStakeApplication : List MsgStakeApplicationProps
  msgDelegateToGateway : List MsgDelegateToGatewayProps
  msgStakeGateway : List MsgStakeGatewayProps
  msgCreateValidator : List MsgCreateValidatorProps

/-- The groups of entities are handled apart, and their transactions and messages merged. -/
def handleGenesisEntities (blockId : ℕ) (genesis : GenesisEntities) :
    Except String GenesisRecords := do
  let services ← _handleGenesisServices blockId genesis.services
  let suppliers ← _handleGenesisSuppliers blockId genesis.suppliers
  let applications ← _handleGenesisApplications blockId genesis.applications
  let gateways ← _handleGenesisGateways blockId genesis.gateways
  let genTxs ← _handleGenesisGenTxs blockId genesis
  return {
    transactions := services.map GenesisDocs.transaction ++ suppliers.map GenesisDocs.transaction ++
      applications.map GenesisDocs.transaction ++ gateways.map GenesisDocs.transaction ++
      genTxs.map GenesisDocs.transaction
    messages := services.map GenesisDocs.message ++ suppliers.map GenesisDocs.message ++
      applications.map GenesisDocs.message ++ gateways.map GenesisDocs.message ++
      genTxs.map GenesisDocs.message
    msgAddService := services.map GenesisDocs.entityMsg
    msgStakeSupplier := suppliers.map GenesisDocs.entityMsg
    msgStakeApplication := applications.map fun docs => docs.entityMsg.1
    msgDelegateToGateway := applications.flatMap fun docs => docs.entityMsg.2
    msgStakeGateway := gateways.map GenesisDocs.entityMsg
    msgCreateValidator := genTxs.map GenesisDocs.entityMsg }

end Pocketdex
