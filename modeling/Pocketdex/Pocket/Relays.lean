import Pocketdex.Base.Dict
import Pocketdex.Utils.Db
import Pocketdex.Utils.Ids
import Pocketdex.Utils.Primitives

/-! Reward transfers of settled claims and of settlement batches, and the writes that store them. -/

namespace Pocketdex

/-- Why a settlement operation moves coins. -/
inductive SettlementOpReason where
  | unspecified
  | tlmRelayBurnEqualsMintSupplierStakeMint
  | tlmRelayBurnEqualsMintApplicationStakeBurn
  | tlmGlobalMintInflation
  | tlmRelayBurnEqualsMintSupplierShareholderRd
  | tlmGlobalMintDaoRewardDistribution
  | tlmGlobalMintProposerRewardDistribution
  | tlmGlobalMintSupplierShareholderRewardDistribution
  | tlmGlobalMintSourceOwnerRewardDistribution
  | tlmGlobalMintApplicationRewardDistribution
  | tlmGlobalMintReimbursementRequestEscrowDaoTransfer
  | unspecifiedTlmSupplierSlashModuleTransfer
  | unspecifiedTlmSupplierSlashStakeBurn
  | tlmGlobalMintSupplierShareholderRewardModuleTransfer
  | tlmGlobalMintReimbursementRequestEscrowModuleTransfer
  | tlmRelayBurnEqualsMintDaoRewardDistribution
  | tlmRelayBurnEqualsMintSourceOwnerRd
  | tlmRelayBurnEqualsMintApplicationRd
  | tlmRelayBurnEqualsMintTokenomicsMint
  | tlmRelayBurnEqualsMintValidatorRd
  | tlmRelayBurnEqualsMintDelegatorRd
  | tlmGlobalMintValidatorRewardDistribution
  | tlmGlobalMintDelegatorRewardDistribution
  deriving DecidableEq, Repr

/-- The label a reason is stored under, which the database keeps short. -/
def SettlementOpReason.label : SettlementOpReason → String
  | unspecified => "UNSPECIFIED"
  | tlmRelayBurnEqualsMintSupplierStakeMint => "TLM_RELAY_BURN_EQUALS_MINT_SUPPLIER_STAKE_MINT"
  | tlmRelayBurnEqualsMintApplicationStakeBurn => "TLM_RELAY_BURN_EQUALS_MINT_APPLICATION_STAKE_BURN"
  | tlmGlobalMintInflation => "TLM_GLOBAL_MINT_INFLATION"
  | tlmRelayBurnEqualsMintSupplierShareholderRd => "TLM_RELAY_BURN_EQUALS_MINT_SUPPLIER_SHAREHOLDER_RD"
  | tlmGlobalMintDaoRewardDistribution => "TLM_GLOBAL_MINT_DAO_REWARD_DISTRIBUTION"
  | tlmGlobalMintProposerRewardDistribution => "TLM_GLOBAL_MINT_PROPOSER_REWARD_DISTRIBUTION"
  | tlmGlobalMintSupplierShareholderRewardDistribution => "TLM_GLOBAL_MINT_SUPPLIER_SHAREHOLDER_REWARD_DISTRIBUTION"
  | tlmGlobalMintSourceOwnerRewardDistribution => "TLM_GLOBAL_MINT_SOURCE_OWNER_REWARD_DISTRIBUTION"
  | tlmGlobalMintApplicationRewardDistribution => "TLM_GLOBAL_MINT_APPLICATION_REWARD_DISTRIBUTION"
  | tlmGlobalMintReimbursementRequestEscrowDaoTransfer => "TLM_GLOBAL_MINT_REIMBURSEMENT_REQUEST_ESCROW_DAO_TRANSFER"
  | unspecifiedTlmSupplierSlashModuleTransfer => "UNSPECIFIED_TLM_SUPPLIER_SLASH_MODULE_TRANSFER"
  | unspecifiedTlmSupplierSlashStakeBurn => "UNSPECIFIED_TLM_SUPPLIER_SLASH_STAKE_BURN"
  | tlmGlobalMintSupplierShareholderRewardModuleTransfer => "TLM_GLOBAL_MINT_SUPPLIER_SHAREHOLDER_REWARD_MODULE_TRANSFER"
  | tlmGlobalMintReimbursementRequestEscrowModuleTransfer => "TLM_GLOBAL_MINT_REIMBURSEMENT_REQUEST_ESCROW_MODULE_TRANSFER"
  | tlmRelayBurnEqualsMintDaoRewardDistribution => "TLM_RELAY_BURN_EQUALS_MINT_DAO_REWARD_DISTRIBUTION"
  | tlmRelayBurnEqualsMintSourceOwnerRd => "TLM_RELAY_BURN_EQUALS_MINT_SOURCE_OWNER_RD"
  | tlmRelayBurnEqualsMintApplicationRd => "TLM_RELAY_BURN_EQUALS_MINT_APPLICATION_RD"
  | tlmRelayBurnEqualsMintTokenomicsMint => "TLM_RELAY_BURN_EQUALS_MINT_TOKENOMICS_MINT"
  | tlmRelayBurnEqualsMintValidatorRd => "TLM_RELAY_BURN_EQUALS_MINT_VALIDATOR_RD"
  | tlmRelayBurnEqualsMintDelegatorRd => "TLM_RELAY_BURN_EQUALS_MINT_DELEGATOR_RD"
  | tlmGlobalMintValidatorRewardDistribution => "TLM_GLOBAL_MINT_VALIDATOR_REWARD_DISTRIBUTION"
  | tlmGlobalMintDelegatorRewardDistribution => "TLM_GLOBAL_MINT_DELEGATOR_REWARD_DISTRIBUTION"

/-- The names and numbers the chain uses for the reasons. -/
def settlementOpReasons : List (String × ℕ × SettlementOpReason) := [
  ("UNSPECIFIED", 0, .unspecified),
  ("TLM_RELAY_BURN_EQUALS_MINT_SUPPLIER_STAKE_MINT", 1, .tlmRelayBurnEqualsMintSupplierStakeMint),
  ("TLM_RELAY_BURN_EQUALS_MINT_APPLICATION_STAKE_BURN", 2, .tlmRelayBurnEqualsMintApplicationStakeBurn),
  ("TLM_GLOBAL_MINT_INFLATION", 3, .tlmGlobalMintInflation),
  ("TLM_RELAY_BURN_EQUALS_MINT_SUPPLIER_SHAREHOLDER_REWARD_DISTRIBUTION", 4, .tlmRelayBurnEqualsMintSupplierShareholderRd),
  ("TLM_GLOBAL_MINT_DAO_REWARD_DISTRIBUTION", 5, .tlmGlobalMintDaoRewardDistribution),
  ("TLM_GLOBAL_MINT_PROPOSER_REWARD_DISTRIBUTION", 6, .tlmGlobalMintProposerRewardDistribution),
  ("TLM_GLOBAL_MINT_SUPPLIER_SHAREHOLDER_REWARD_DISTRIBUTION", 7, .tlmGlobalMintSupplierShareholderRewardDistribution),
  ("TLM_GLOBAL_MINT_SOURCE_OWNER_REWARD_DISTRIBUTION", 8, .tlmGlobalMintSourceOwnerRewardDistribution),
  ("TLM_GLOBAL_MINT_APPLICATION_REWARD_DISTRIBUTION", 9, .tlmGlobalMintApplicationRewardDistribution),
  ("TLM_GLOBAL_MINT_REIMBURSEMENT_REQUEST_ESCROW_DAO_TRANSFER", 10, .tlmGlobalMintReimbursementRequestEscrowDaoTransfer),
  ("UNSPECIFIED_TLM_SUPPLIER_SLASH_MODULE_TRANSFER", 11, .unspecifiedTlmSupplierSlashModuleTransfer),
  ("UNSPECIFIED_TLM_SUPPLIER_SLASH_STAKE_BURN", 12, .unspecifiedTlmSupplierSlashStakeBurn),
  ("TLM_GLOBAL_MINT_SUPPLIER_SHAREHOLDER_REWARD_MODULE_TRANSFER", 13, .tlmGlobalMintSupplierShareholderRewardModuleTransfer),
  ("TLM_GLOBAL_MINT_REIMBURSEMENT_REQUEST_ESCROW_MODULE_TRANSFER", 14, .tlmGlobalMintReimbursementRequestEscrowModuleTransfer),
  ("TLM_RELAY_BURN_EQUALS_MINT_DAO_REWARD_DISTRIBUTION", 15, .tlmRelayBurnEqualsMintDaoRewardDistribution),
  ("TLM_RELAY_BURN_EQUALS_MINT_SOURCE_OWNER_REWARD_DISTRIBUTION", 17, .tlmRelayBurnEqualsMintSourceOwnerRd),
  ("TLM_RELAY_BURN_EQUALS_MINT_APPLICATION_REWARD_DISTRIBUTION", 18, .tlmRelayBurnEqualsMintApplicationRd),
  ("TLM_RELAY_BURN_EQUALS_MINT_TOKENOMICS_CLAIM_DISTRIBUTION_MINT", 19, .tlmRelayBurnEqualsMintTokenomicsMint),
  ("TLM_RELAY_BURN_EQUALS_MINT_VALIDATOR_REWARD_DISTRIBUTION", 20, .tlmRelayBurnEqualsMintValidatorRd),
  ("TLM_RELAY_BURN_EQUALS_MINT_DELEGATOR_REWARD_DISTRIBUTION", 23, .tlmRelayBurnEqualsMintDelegatorRd),
  ("TLM_GLOBAL_MINT_VALIDATOR_REWARD_DISTRIBUTION", 21, .tlmGlobalMintValidatorRewardDistribution),
  ("TLM_GLOBAL_MINT_DELEGATOR_REWARD_DISTRIBUTION", 24, .tlmGlobalMintDelegatorRewardDistribution)]

/-- A transfer from a module to an account. -/
structure ModToAcctTransferRecord where
  id : String
  eventClaimSettledId : String
  blockId : ℕ
  opReason : SettlementOpReason
  recipientId : String
  amount : Int
  denom : String
  deriving DecidableEq, Repr

/-- The transfers of one block that share recipient, reason, denomination and service. -/
structure SummarizedTransferRecord where
  id : String
  blockId : ℕ
  recipientId : String
  opReason : SettlementOpReason
  denom : String
  serviceId : String
  amount : Int
  transferCount : ℕ
  deriving DecidableEq, Repr

/-- The reason behind a name or a number, where unknown ones count as unspecified. -/
def getSettlementOpReasonFromSDK (item : Option Json) : SettlementOpReason :=
  let named : String × ℕ × SettlementOpReason → Bool := match item with
    | some (.string text) => fun (name, _, _) => name = text
    | some (.number text) => fun (_, number, _) => digitsValue 10 text.toList = some number
    | _ => fun _ => false
  match settlementOpReasons.find? named with
  | some (_, _, reason) => reason
  | none => .unspecified

/-- What the attributes of a settled claim say about its service and its transfers. -/
structure ClaimAttributes where
  claim : Json
  settlementResult : Option Json
  rewardDistribution : Option Json
  rewardDistributionDetailed : Option Json

/-- The claim pieced together from flat attributes, as far as the transfers need it. -/
def flatClaim (attributes : List Attribute) : Except String Json := do
  let serviceId ← readAttribute "service_id" (fun value => .ok [("service_id",
    Json.string (replaceQuotes value))]) [] attributes
  let supplier ← readAttribute "supplier_operator_address" (fun value => .ok
    [("supplier_operator_address", Json.string (replaceQuotes value))]) [] attributes
  let status ← readAttribute "claim_proof_status_int" (fun value => .ok
    [("proof_validation_status", Json.number (replaceQuotes value))]) [] attributes
  return .object (("session_header", .object serviceId) :: supplier ++ status)

/-- A flat claim replaces an empty one only if it has more than a session header. -/
def chooseClaim (claim newClaim : Json) : Json :=
  match newClaim with
  | .object fields => if isEmpty claim ∧ fields.length > 1 then newClaim else claim
  | _ => claim

/-- The attributes of a settled claim. -/
def getAttributes (attributes : List Attribute) : Except String ClaimAttributes := do
  let parsed (key : String) : Except String (Option Json) :=
    readAttribute key (fun value => (parseJson value).map some) none attributes
  let claim ← parsed "claim"
  let newClaim ← flatClaim attributes
  let settlementResult ← parsed "settlement_result"
  let rewardDistribution ← parsed "reward_distribution"
  let rewardDistributionDetailed ← parsed "reward_distribution_detailed"
  return ⟨chooseClaim (claim.getD (.object [])) newClaim, settlementResult, rewardDistribution,
    rewardDistributionDetailed⟩

/-- The items of a value that is mapped over. -/
def arrayItems (value : Json) : Except String (List Json) :=
  match value with
  | .array items => .ok items
  | _ => .error "map is not a function"

/-- The coin of a reward, which is written as a text. -/
def rewardCoin (value : Option Json) : Except String Coin :=
  match value with
  | some (.string text) => getDenomAndAmount text
  | _ => .error "Invalid coinAndDenom"

/-- The transfers of a claim take their ids from the event and their place in its list. -/
def claimTransfer (eventId : String) (blockId index : ℕ) (recipientId : String) (amount : Int)
    (denom : String) (opReason : SettlementOpReason) : ModToAcctTransferRecord :=
  ⟨s!"{eventId}-{index}", eventId, blockId, opReason, recipientId, amount, denom⟩

/-- The coin of a transfer, which must be there for its amount to be read. -/
def transferCoin (coin : Option Json) : Except String Json :=
  match coin with
  | some coin => .ok coin
  | none => .error "Cannot read properties of undefined (reading 'amount')"

/-- The transfers of a settlement result. -/
def _buildSettlementFromResult (settlementResult : Json) (eventId : String) (blockId : ℕ) :
    Except String (List ModToAcctTransferRecord) := do
  match optionalProperty (some settlementResult) "mod_to_acct_transfers" with
  | none => return []
  | some .null => return []
  | some transfers =>
    let items ← arrayItems transfers
    items.zipIdx.mapM fun (item, index) => do
      let recipient ← property item "RecipientAddress"
      let coin ← transferCoin (← property item "coin")
      let amountText ← amountOfJson (← property coin "amount")
      let amount ← bigInt amountText
      let denom ← property coin "denom"
      let opReason ← property item "op_reason"
      return claimTransfer eventId blockId index (optionText recipient) amount
        (optionText denom) (getSettlementOpReasonFromSDK opReason)

/-- The transfers of a detailed reward distribution. -/
def _buildSettlementFromDetailedDistribution (rewardDistributionDetailed : Json)
    (eventId : String) (blockId : ℕ) : Except String (List ModToAcctTransferRecord) := do
  let items ← arrayItems rewardDistributionDetailed
  items.zipIdx.mapM fun (item, index) => do
    let coin ← rewardCoin (← property item "amount")
    let coinAmount ← bigInt coin.amount
    let reason ← property item "op_reason"
    let recipient ← property item "recipient_address"
    return claimTransfer eventId blockId index (optionText recipient) coinAmount coin.denom
      (getSettlementOpReasonFromSDK reason)

/-- The entries of a value, where a repeated field keeps its first place and its last value. -/
def objectEntries : Json → List (String × Json)
  | .object fields => (Dict.collect Prod.fst Prod.snd fields).entries
  | .array items => items.zipIdx.map fun (item, index) => (toString index, item)
  | .string text => text.toList.zipIdx.map fun (char, index) =>
      (toString index, .string (String.singleton char))
  | _ => []

/-- The transfers of a reward distribution without reasons. -/
def _buildSettlementFromDistribution (rewardDistribution : Json) (eventId : String)
    (blockId : ℕ) : Except String (List ModToAcctTransferRecord) :=
  (objectEntries rewardDistribution).zipIdx.mapM fun ((address, coinString), index) => do
    let coin ← rewardCoin (some coinString)
    let coinAmount ← bigInt coin.amount
    return claimTransfer eventId blockId index address coinAmount coin.denom .unspecified

/-- The transfers of a settled claim come from the first of three attributes it carries. -/
def _resolveSettlementParts (attributes : ClaimAttributes) (eventId : String) (blockId : ℕ) :
    Except String (List ModToAcctTransferRecord) :=
  if truthy attributes.settlementResult then
    _buildSettlementFromResult (attributes.settlementResult.getD .null) eventId blockId
  else if truthy attributes.rewardDistributionDetailed then
    _buildSettlementFromDetailedDistribution
      (attributes.rewardDistributionDetailed.getD .null) eventId blockId
  else if truthy attributes.rewardDistribution then
    _buildSettlementFromDistribution (attributes.rewardDistribution.getD .null) eventId blockId
  else .ok []

/-- A settled claim as far as its transfers need it: the id, the service, and the transfers. -/
structure EventSettled where
  id : String
  serviceId : String
  modToAcctTransfers : List ModToAcctTransferRecord
  deriving DecidableEq, Repr

/-- The service and the transfers of one settled claim. -/
def _handleEventClaimSettled (kindText : CosmosEventKind → String) (event : CosmosEvent) :
    Except String EventSettled := do
  let attributes ← getAttributes event.attributes
  let sessionHeader ← property attributes.claim "session_header"
  let eventId := getEventId kindText event
  let serviceId := optionalProperty sessionHeader "service_id"
  let transfers ← _resolveSettlementParts attributes eventId (getBlockId event.height)
  return ⟨eventId, if truthy serviceId then optionText serviceId else "", transfers⟩

/-- Adding a transfer to the summary with its recipient, reason, denomination and service. -/
def summarizeTransfer (blockId : ℕ) (serviceIdByEventSettledId : Dict String String)
    (grouped : Dict String SummarizedTransferRecord) (r : ModToAcctTransferRecord) :
    Dict String SummarizedTransferRecord :=
  let serviceId := (serviceIdByEventSettledId.get r.eventClaimSettledId).getD ""
  let key := s!"{r.recipientId}|{r.opReason.label}|{r.denom}|{serviceId}"
  match grouped.get key with
  | some existing => grouped.set key { existing with
      amount := existing.amount + r.amount
      transferCount := existing.transferCount + 1 }
  | none => grouped.set key {
      id := s!"{blockId}-{r.recipientId}-{r.opReason.label}-{r.denom}-{serviceId}"
      blockId := blockId
      recipientId := r.recipientId
      opReason := r.opReason
      denom := r.denom
      serviceId := serviceId
      amount := r.amount
      transferCount := 1 }

/-- Summing up the transfers of the block of the first one. -/
def summarizeTransfers (records : List ModToAcctTransferRecord)
    (serviceIdByEventSettledId : Dict String String) : List SummarizedTransferRecord :=
  match records with
  | [] => []
  | first :: _ =>
    (records.foldl (summarizeTransfer first.blockId serviceIdByEventSettledId) Dict.empty).values

/-- A statement on one of the two transfer tables. -/
inductive TransferStatement where
  | modToAcctTransfers (statement : Statement ModToAcctTransferRecord)
  | modToAcctTransfersSummarized (statement : Statement SummarizedTransferRecord)

/-- Storing transfers under the block of the first one. -/
def bulkInsertModToAcctTransfers (records : List ModToAcctTransferRecord) :
    Task (Statement ModToAcctTransferRecord) :=
  match records with
  | [] => Task.skip
  | first :: _ => rawBulkInsert ModToAcctTransferRecord.blockId first.blockId records

/-- Storing summaries under the block of the first one. -/
def bulkInsertSummarizedTransfers (records : List SummarizedTransferRecord) :
    Task (Statement SummarizedTransferRecord) :=
  match records with
  | [] => Task.skip
  | first :: _ => rawBulkInsert SummarizedTransferRecord.blockId first.blockId records

/-- The rows one handler builds for the two tables. -/
structure TransferRows where
  transfers : List ModToAcctTransferRecord
  summarized : List SummarizedTransferRecord
  deriving DecidableEq, Repr

/-- Storing the rows of one handler in both tables side by side. -/
def TransferRows.insert (rows : TransferRows) : Task TransferStatement :=
  Task.all [
    (bulkInsertModToAcctTransfers rows.transfers).map .modToAcctTransfers,
    (bulkInsertSummarizedTransfers rows.summarized).map .modToAcctTransfersSummarized]

/-- The rows of the settled claims of a block. -/
def claimSettledRows (kindText : CosmosEventKind → String) (events : List CosmosEvent) :
    Except String TransferRows := do
  let settled ← events.mapM (_handleEventClaimSettled kindText)
  let serviceIdByEventSettledId := Dict.collect EventSettled.id EventSettled.serviceId settled
  let modToAcctTransfersToSave := settled.flatMap EventSettled.modToAcctTransfers
  return ⟨modToAcctTransfersToSave,
    summarizeTransfers modToAcctTransfersToSave serviceIdByEventSettledId⟩

/-- Settled claims are stored with their transfers. -/
def handleEventClaimSettled (kindText : CosmosEventKind → String) (events : List CosmosEvent) :
    Except String (Task TransferStatement) :=
  (claimSettledRows kindText events).map TransferRows.insert

/-- The reasons whose transfers are emitted in batches only. -/
def VALIDATOR_REWARD_OP_REASONS : List String := [
  "TLM_RELAY_BURN_EQUALS_MINT_VALIDATOR_REWARD_DISTRIBUTION",
  "TLM_RELAY_BURN_EQUALS_MINT_DELEGATOR_REWARD_DISTRIBUTION",
  "TLM_GLOBAL_MINT_VALIDATOR_REWARD_DISTRIBUTION",
  "TLM_GLOBAL_MINT_DELEGATOR_REWARD_DISTRIBUTION"]

/-- The transfer of a settlement batch, if it rewards validators or delegators. -/
def settlementBatchTransfer (kindText : CosmosEventKind → String) (event : CosmosEvent) :
    Except String (Option ModToAcctTransferRecord) := do
  let text (key : String) : Except String String :=
    readAttribute key (fun value => .ok (replaceQuotes value)) "" event.attributes
  let opType ← text "op_type"
  let opReason ← text "op_reason"
  let recipient ← text "recipient"
  let totalAmount ← readAttribute "total_amount" (fun value => .ok value) "" event.attributes
  if opType ≠ "mod_to_acct" ∨ opReason ∉ VALIDATOR_REWARD_OP_REASONS then return none
  else
    let coin ← getDenomAndAmount totalAmount
    let amount ← bigInt coin.amount
    return some ⟨getEventId kindText event, "", getBlockId event.height,
      getSettlementOpReasonFromSDK (some (.string opReason)), recipient, amount, coin.denom⟩

/-- The rows of the settlement batches of a block. -/
def settlementBatchRows (kindText : CosmosEventKind → String) (events : List CosmosEvent) :
    Except String TransferRows := do
  let transfers ← events.mapM (settlementBatchTransfer kindText)
  let modToAcctTransfers := transfers.filterMap id
  return ⟨modToAcctTransfers, summarizeTransfers modToAcctTransfers Dict.empty⟩

/-- Settlement batches are stored as transfers. -/
def handleEventSettlementBatch (kindText : CosmosEventKind → String)
    (events : List CosmosEvent) : Except String (Task TransferStatement) :=
  (settlementBatchRows kindText events).map TransferRows.insert

/-- Both handlers of a block are started together. -/
def indexRelays (kindText : CosmosEventKind → String) (settlementBatches claimsSettled :
    List CosmosEvent) : Except String (Task TransferStatement) := do
  let batches ← handleEventSettlementBatch kindText settlementBatches
  let claims ← handleEventClaimSettled kindText claimsSettled
  return Task.par batches claims

end Pocketdex
