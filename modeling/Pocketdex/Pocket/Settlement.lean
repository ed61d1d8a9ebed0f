import Pocketdex.Base.Except
import Pocketdex.Pocket.Relays
import Pocketdex.Utils.Double

/-! The records of settled and expired claims: what is read from the attributes of an event in any of
its formats, and the amounts that are derived from it. -/

namespace Pocketdex.Settlement

/-- How far the proof of a claim is validated. -/
inductive ClaimProofStatus where
  | pendingValidation
  | validated
  | invalid
  deriving DecidableEq, Repr

/-- Why a proof is required. -/
inductive ProofRequirementReason where
  | notRequired
  | probabilistic
  | threshold
  deriving DecidableEq, Repr

/-- Why a claim expires. -/
inductive ClaimExpirationReason where
  | unspecified
  | proofMissing
  | proofInvalid
  deriving DecidableEq, Repr

/-- Whether a value is one case of an enumeration, by its number or by its name. -/
def isCase (item : Json) (number : ℕ) (name : String) : Bool :=
  match item with
  | .number text => Double.ofText text = .finite number
  | .string text => text = name
  | _ => false

/-- The number of a status, or minus one if it is not recognized. -/
def claimProofStatusFromJSON (object : Double) : Int :=
  if object = .finite 0 then 0
  else if object = .finite 1 then 1
  else if object = .finite 2 then 2
  else -1

/-- The status behind a number or a name; what does not count as given has none. -/
def getClaimProofStatusFromSDK (item : Option Json) : Except String (Option ClaimProofStatus) :=
  match item with
  | none => .ok none
  | some value =>
    if !truthy item then .ok none
    else if isCase value 0 "PENDING_VALIDATION" then .ok (some .pendingValidation)
    else if isCase value 1 "VALIDATED" then .ok (some .validated)
    else if isCase value 2 "INVALID" then .ok (some .invalid)
    else .error s!"Unknown ClaimProofStatus={templateText value}"

/-- The reason behind a number or a name. -/
def proofRequirementReasonFromJSON (item : Json) : Option ProofRequirementReason :=
  if isCase item 0 "NOT_REQUIRED" then some .notRequired
  else if isCase item 1 "PROBABILISTIC" then some .probabilistic
  else if isCase item 2 "THRESHOLD" then some .threshold
  else none

/-- The reason behind a name. -/
def claimExpirationReasonFromJSON (text : String) : Option ClaimExpirationReason :=
  if text = "EXPIRATION_REASON_UNSPECIFIED" then some .unspecified
  else if text = "PROOF_MISSING" then some .proofMissing
  else if text = "PROOF_INVALID" then some .proofInvalid
  else none

/-- The number of a reason, or minus one if it is not recognized: the one numbered six is not. -/
def settlementOpReasonFromJSON (item : Option Json) : Int :=
  match item with
  | none => -1
  | some value =>
    match settlementOpReasons.find? fun (name, number, _) =>
        number ≠ 6 && isCase value number name with
    | some (_, number, _) => number
    | none => -1

/-- The number a reason has on the chain. -/
def SettlementOpReasonSdk (reason : SettlementOpReason) : Int :=
  match settlementOpReasons.find? fun (_, _, other) => other = reason with
  | some (_, number, _) => number
  | none => -1

/-- The value the attributes of some keys leave in a variable that starts at a default. -/
def readAttributes {α : Type} (keys : List String) (read : Attribute → Except String α)
    (default : α) (attributes : List Attribute) : Except String α :=
  attributes.foldlM (fun value entry =>
    if entry.key ∈ keys then read entry else .ok value) default

/-- What the attributes of an event about a claim say. -/
structure EventAttributes where
  claim : Json
  proof : Json
  numRelays : Int
  numClaimedComputedUnits : Int
  numEstimatedComputedUnits : Int
  claimed : Option Coin
  proofRequirement : ProofRequirementReason
  expirationReason : ClaimExpirationReason
  proofMissingPenalty : Option Coin
  failureReason : Option String
  proofValidationStatus : Option ClaimProofStatus
  settlementResult : Option Json
  rewardDistribution : Option Json
  rewardDistributionDetailed : Option Json
  settledUpokt : Option Coin
  mintRatioStr : Option String
  supplierOwnerAddress : Option String
  chainNumEstimatedRelays : Option Int
  mintedUpokt : Option Coin
  overservicingLossUpokt : Option Coin
  deflationLossUpokt : Option Coin
  supplierStakeAfterSlash : Option Coin

/-- The status a flat attribute gives by its number. -/
def flatStatus (entry : Attribute) : Int :=
  claimProofStatusFromJSON (Double.ofText (replaceQuotes entry.value))

/-- An optional field of an object. -/
def optionalField (name : String) (value : Option Json) : List (String × Json) :=
  (value.map fun value => (name, value)).toList

/-- The claim pieced together from flat attributes. -/
def newClaim (attributes : List Attribute) : Except String Json := do
  let text (key : String) : Except String (Option String) :=
    readAttributes [key] (fun entry => .ok (some (replaceQuotes entry.value))) none attributes
  let supplier ← text "supplier_operator_address"
  let serviceId ← text "service_id"
  let application ← text "application_address"
  let sessionEnd ← readAttributes ["session_end_block_height"]
    (fun entry => (bigInt (replaceQuotes entry.value)).map some) none attributes
  let sessionId ← text "session_id"
  let status ← readAttributes ["claim_proof_status_int"]
    (fun entry => .ok (some (flatStatus entry))) none attributes
  -- An end height brings the other fields of a session with it.
  let sessionId := match sessionId, sessionEnd with
    | none, some _ => some ""
    | sessionId, _ => sessionId
  let sessionHeader :=
    optionalField "service_id" (serviceId.map .string) ++
    optionalField "application_address" (application.map .string) ++
    optionalField "session_end_block_height" (sessionEnd.map fun height => .number (toString height)) ++
    optionalField "session_start_block_height" (sessionEnd.map fun _ => .number "0") ++
    optionalField "session_id" (sessionId.map .string)
  return .object (("session_header", .object sessionHeader) ::
    optionalField "supplier_operator_address" (supplier.map .string) ++
    optionalField "proof_validation_status" (status.map fun status => .number (toString status)))

/-- The status of the last attribute that gives one. -/
def readProofStatus (entry : Attribute) : Except String (Option ClaimProofStatus) :=
  if entry.key = "claim_proof_status_int" then
    getClaimProofStatusFromSDK (some (.number (toString (flatStatus entry))))
  else getClaimProofStatusFromSDK (some (.string (replaceQuotes entry.value)))

/-- The number an integer attribute is read as. -/
def numberJson (text : String) : Json :=
  match parseInt text with
  | .integer value => .number (toString value)
  | _ => .null

/-- The reason of an attribute that gives one. -/
def readProofRequirement (entry : Attribute) : Except String ProofRequirementReason :=
  let parsed := replaceQuotes entry.value
  let value := if entry.key = "proof_requirement_int" then numberJson parsed else .string parsed
  match proofRequirementReasonFromJSON value with
  | some reason => .ok reason
  | none => .error s!"Unknown ProofRequirementReason: {entry.value}"

/-- The reason a claim expired for. -/
def readExpirationReason (entry : Attribute) : Except String ClaimExpirationReason :=
  match claimExpirationReasonFromJSON (replaceQuotes entry.value) with
  | some reason => .ok reason
  | none => .error s!"Unknown ClaimExpirationReason: {entry.value}"

/-- The attributes of an event about a claim. -/
def getAttributes (attributes : List Attribute) : Except String EventAttributes := do
  let json (key : String) : Except String (Option Json) :=
    readAttributes [key] (fun entry => (parseJson entry.value).map some) none attributes
  let integer (keys : List String) : Except String (Option Int) :=
    readAttributes keys (fun entry => (bigInt (replaceQuotes entry.value)).map some) none attributes
  let coin (key : String) : Except String (Option Coin) :=
    readAttributes [key] (fun entry => (getDenomAndAmount entry.value).map some) none attributes
  let text (key : String) : Except String (Option String) :=
    readAttributes [key] (fun entry => .ok (some (replaceQuotes entry.value))) none attributes
  let proof ← json "proof"
  let claim ← json "claim"
  let flat ← newClaim attributes
  let proofValidationStatus ← readAttributes ["claim_proof_status_int", "proof_status"]
    readProofStatus none attributes
  let numRelays ← integer ["num_relays"]
  -- Older versions name the claimed compute units differently.
  let numClaimed ← integer ["num_compute_units", "num_claimed_compute_units"]
  let numEstimated ← integer ["num_estimated_compute_units"]
  let claimed ← coin "claimed_upokt"
  let settlementResult ← json "settlement_result"
  let rewardDistribution ← json "reward_distribution"
  let rewardDistributionDetailed ← json "reward_distribution_detailed"
  let settledUpokt ← coin "settled_upokt"
  let mintRatioStr ← text "mint_ratio"
  let supplierOwnerAddress ← text "supplier_owner_address"
  let chainNumEstimatedRelays ← integer ["num_estimated_relays"]
  let mintedUpokt ← coin "minted_upokt"
  let overservicingLossUpokt ← coin "overservicing_loss_upokt"
  let deflationLossUpokt ← coin "deflation_loss_upokt"
  let proofMissingPenalty ← coin "proof_missing_penalty"
  let supplierStakeAfterSlash ← coin "supplier_stake_after_slash"
  let failureReason ← text "failure_reason"
  let proofRequirement ← readAttributes ["proof_requirement_int", "proof_requirement"]
    readProofRequirement .notRequired attributes
  let expirationReason ← readAttributes ["expiration_reason"] readExpirationReason .unspecified
    attributes
  return {
    claim := chooseClaim (claim.getD (.object [])) flat
    proof := proof.getD (.object [])
    numRelays := numRelays.getD 0
    numClaimedComputedUnits := numClaimed.getD 0
    numEstimatedComputedUnits := numEstimated.getD 0
    claimed, proofRequirement, expirationReason, proofMissingPenalty, failureReason
    proofValidationStatus, settlementResult, rewardDistribution, rewardDistributionDetailed
    settledUpokt, mintRatioStr, supplierOwnerAddress, chainNumEstimatedRelays, mintedUpokt
    overservicingLossUpokt, deflationLossUpokt, supplierStakeAfterSlash }

/-- A mint or a burn of a settlement, with the number of its reason. -/
structure MintBurnOp where
  opReason : Int
  destinationModule : Option String
  amount : Int
  denom : Option String
  deriving DecidableEq, Repr

/-- A transfer between modules. -/
structure ModToModTransfer where
  opReason : Int
  senderModule : Option String
  recipientModule : Option String
  amount : Int
  denom : Option String
  deriving DecidableEq, Repr

/-- The amount minted for a claim, whose denomination may be missing. -/
structure MintedCoin where
  amount : String
  denom : Option String
  deriving DecidableEq, Repr

/-- What a settlement moves, mints and burns. -/
structure SettlementParts where
  modToAcctTransfers : List ModToAcctTransferRecord
  mints : List MintBurnOp
  burns : List MintBurnOp
  modToModTransfers : List ModToModTransfer
  mintedUpokt : Option MintedCoin

/-- The minted amount of the chain, which has a denomination. -/
def mintedCoin (coin : Coin) : MintedCoin := ⟨coin.amount, some coin.denom⟩

/-- The text of a value that may be missing. -/
def textOf (value : Option Json) : Option String := value.map templateText

/-- The amount and the denomination of an operation. -/
def operationCoin (item : Json) : Except String (Int × Option String) := do
  let coin ← transferCoin (← property item "coin")
  let amountText ← amountOfJson (← property coin "amount")
  let amount ← bigInt amountText
  let denom ← property coin "denom"
  return (amount, textOf denom)

/-- A mint or a burn as a settlement result lists it. -/
def mintBurnOp (item : Json) : Except String MintBurnOp := do
  let opReason ← property item "op_reason"
  let destinationModule ← property item "DestinationModule"
  let (amount, denom) ← operationCoin item
  return ⟨settlementOpReasonFromJSON opReason, textOf destinationModule, amount, denom⟩

/-- A transfer between modules as a settlement result lists it. -/
def modToModTransfer (item : Json) : Except String ModToModTransfer := do
  let opReason ← property item "op_reason"
  let senderModule ← property item "SenderModule"
  let recipientModule ← property item "RecipientModule"
  let (amount, denom) ← operationCoin item
  return ⟨settlementOpReasonFromJSON opReason, textOf senderModule, textOf recipientModule, amount,
    denom⟩

/-- The operations a settlement result lists under a name, if it does. -/
def listedOps {α : Type} (settlementResult : Json) (name : String) (read : Json → Except String α) :
    Except String (List α) :=
  match optionalProperty (some settlementResult) name with
  | none => .ok []
  | some .null => .ok []
  | some items => do
    let items ← arrayItems items
    items.mapM read

/-- The parts of a settlement result: what it burns is what it mints. -/
def _buildSettlementFromResult (settlementResult : Json) (eventId : String) (blockId : ℕ)
    (effectiveBurn : String) (claimed : Option Coin) (mintedUpokt : Option Coin) :
    Except String SettlementParts := do
  let modToAcctTransfers ← Pocketdex._buildSettlementFromResult settlementResult eventId blockId
  let mints ← listedOps settlementResult "mints" mintBurnOp
  let burns ← listedOps settlementResult "burns" mintBurnOp
  let modToModTransfers ← listedOps settlementResult "mod_to_mod_transfers" modToModTransfer
  return {
    modToAcctTransfers, mints, burns, modToModTransfers
    mintedUpokt := some ((mintedUpokt.map mintedCoin).getD ⟨effectiveBurn, claimed.map Coin.denom⟩) }

/-- An operation with an amount of the claimed denomination. -/
def claimedOp (reason : SettlementOpReason) (amount : Int) (claimed : Option Coin) : MintBurnOp :=
  ⟨SettlementOpReasonSdk reason, some "", amount, claimed.map Coin.denom⟩

/-- The amounts of the transfers with one reason. -/
def amountWithReason (reason : SettlementOpReason) (transfers : List ModToAcctTransferRecord) : Int :=
  ((transfers.filter fun transfer => transfer.opReason = reason).map
    ModToAcctTransferRecord.amount).sum

/-- A mint that is recorded only when something was minted. -/
def mintIfPositive (reason : SettlementOpReason) (amount : Int) (claimed : Option Coin) :
    List MintBurnOp :=
  if amount > 0 then [claimedOp reason amount claimed] else []

/-- The parts of a detailed reward distribution: the global mints follow from its transfers. -/
def _buildSettlementFromDetailedDistribution (rewardDistributionDetailed : Json) (eventId : String)
    (blockId : ℕ) (effectiveBurn : String) (claimed : Option Coin) (mintedUpokt : Option Coin) :
    Except String SettlementParts := do
  let modToAcctTransfers ← Pocketdex._buildSettlementFromDetailedDistribution
    rewardDistributionDetailed eventId blockId
  let inflationAmount := amountWithReason .tlmGlobalMintDaoRewardDistribution modToAcctTransfers
  let reimbursementAmount :=
    amountWithReason .tlmGlobalMintReimbursementRequestEscrowDaoTransfer modToAcctTransfers
  -- Without a minted amount, everything that was burned was minted.
  let resolvedMintedUpokt :=
    (mintedUpokt.map mintedCoin).getD ⟨effectiveBurn, claimed.map Coin.denom⟩
  let burned ← bigInt effectiveBurn
  let minted ← bigInt resolvedMintedUpokt.amount
  return {
    modToAcctTransfers
    mints := claimedOp .tlmRelayBurnEqualsMintTokenomicsMint minted claimed ::
      mintIfPositive .tlmGlobalMintDaoRewardDistribution inflationAmount claimed ++
      mintIfPositive .tlmGlobalMintReimbursementRequestEscrowDaoTransfer reimbursementAmount claimed
    burns := [claimedOp .tlmRelayBurnEqualsMintApplicationStakeBurn burned claimed]
    modToModTransfers := []
    mintedUpokt := some resolvedMintedUpokt }

/-- The share of a settled amount that is minted. -/
def mintedAfterRatio (effectiveBurn : String) (mintRatio : Double) : Double :=
  ((Double.ofText effectiveBurn).mul mintRatio).floor

/-- The mints and burns behind the total of a reward distribution: what was distributed beyond the
minted amount was minted for inflation and for reimbursement in equal parts. -/
def _buildBurnsAndMintsFromRewardTotal (totalFromRewardDistribution : Int) (effectiveBurn : String)
    (mintRatio : Double) (claimed : Option Coin) (mintedUpokt : Option MintedCoin) :
    Except String (List MintBurnOp × List MintBurnOp × MintedCoin) := do
  -- Amounts are doubles here, so a large one loses its last digits.
  let mintedAfterRatio := match mintedUpokt with
    | some coin => Double.ofText coin.amount
    | none => mintedAfterRatio effectiveBurn mintRatio
  let minted ← mintedAfterRatio.toBigInt
  let inflationPlusReimbursementMint := totalFromRewardDistribution - minted
  if inflationPlusReimbursementMint < 0 then
    .error s!"inflationAndReimbursementMint is negative, totalFromRewardDistribution: {totalFromRewardDistribution}, claimed.amount: {effectiveBurn}"
  else do
    -- What was distributed beyond the mint is halved, and a remainder is dropped.
    let inflationAndReimbursementMint := inflationPlusReimbursementMint.tdiv 2
    let burned ← bigInt effectiveBurn
    return ([claimedOp .tlmRelayBurnEqualsMintApplicationStakeBurn burned claimed],
      [claimedOp .tlmGlobalMintInflation inflationAndReimbursementMint claimed,
        claimedOp .tlmGlobalMintReimbursementRequestEscrowDaoTransfer inflationAndReimbursementMint
          claimed,
        claimedOp .tlmRelayBurnEqualsMintSupplierStakeMint minted claimed],
      mintedUpokt.getD ⟨mintedAfterRatio.integerText, claimed.map Coin.denom⟩)

/-- The parts of a reward distribution without reasons. -/
def _buildSettlementFromDistribution (rewardDistribution : Json) (eventId : String) (blockId : ℕ)
    (effectiveBurn : String) (mintRatio : Double) (claimed : Option Coin) :
    Except String SettlementParts := do
  let modToAcctTransfers ← Pocketdex._buildSettlementFromDistribution rewardDistribution eventId
    blockId
  let totalFromRewardDistribution := (modToAcctTransfers.map ModToAcctTransferRecord.amount).sum
  let (burns, mints, mintedUpokt) ← _buildBurnsAndMintsFromRewardTotal totalFromRewardDistribution
    effectiveBurn mintRatio claimed none
  return { modToAcctTransfers, mints, burns, modToModTransfers := [], mintedUpokt := some mintedUpokt }

/-- The parts of a settlement come from the first of three attributes the event carries. -/
def _resolveSettlementParts (attributes : EventAttributes) (eventId : String) (blockId : ℕ)
    (effectiveBurn : String) (mintRatio : Double) : Except String SettlementParts :=
  if truthy attributes.settlementResult then
    _buildSettlementFromResult (attributes.settlementResult.getD .null) eventId blockId effectiveBurn
      attributes.claimed attributes.mintedUpokt
  else if truthy attributes.rewardDistributionDetailed then
    _buildSettlementFromDetailedDistribution (attributes.rewardDistributionDetailed.getD .null)
      eventId blockId effectiveBurn attributes.claimed attributes.mintedUpokt
  else if truthy attributes.rewardDistribution then
    _buildSettlementFromDistribution (attributes.rewardDistribution.getD .null) eventId blockId
      effectiveBurn mintRatio attributes.claimed
  else .ok ⟨[], [], [], [], attributes.mintedUpokt.map mintedCoin⟩

/-- The number of relays, estimated from compute units where the chain does not tell it. -/
def _computeNumEstimatedRelays (chainNumEstimatedRelays : Option Int)
    (numEstimatedComputedUnits numClaimedComputedUnits numRelays : Int) : Except String Int :=
  match chainNumEstimatedRelays with
  | some relays => .ok relays
  | none =>
    if numRelays = 0 then .ok 0
    else
      let cupr := ((Double.ofInt numClaimedComputedUnits).div (Double.ofInt numRelays)).floor
      if cupr = .finite 0 then .ok 0
      else ((Double.ofInt numEstimatedComputedUnits).div cupr).round.toBigInt

/-- The minted amount of a settlement, if it has one. -/
def mintedAmountOf (mintedUpokt : Option MintedCoin) : Except String (Option Int) :=
  match mintedUpokt with
  | some coin => (bigInt coin.amount).map some
  | none => .ok none

/-- What a claim loses to deflation: the chain's amount, or what was not minted. -/
def _computeDeflationLoss (deflationLossUpokt : Option Coin) (effectiveBurn : String)
    (mintedUpokt : Option MintedCoin) : Except String Int :=
  match deflationLossUpokt with
  | some coin => bigInt coin.amount
  | none => do
    let burned ← bigInt effectiveBurn
    let minted ← mintedAmountOf mintedUpokt
    return burned - minted.getD 0

/-- What a claim loses to overservicing: the chain's amount, or what was not settled. -/
def _computeOverservicingLoss (overservicingLossUpokt : Option Coin) (claimedAmount : Option String)
    (effectiveBurn : String) : Except String Int :=
  match overservicingLossUpokt with
  | some coin => bigInt coin.amount
  | none =>
    match claimedAmount with
    | none => .error "Cannot convert undefined to a BigInt"
    | some claimedAmount =>
      if claimedAmount ≠ effectiveBurn then do
        let claimed ← bigInt claimedAmount
        let burned ← bigInt effectiveBurn
        return claimed - burned
      else .ok 0

/-- A field as a text, which is empty where the field is missing or empty. -/
def orEmpty (value : Option Json) : String := if truthy value then optionText value else ""

/-- The height a field spells, which is zero where the field is missing. -/
def heightOf (value : Option Json) : Except String Int :=
  match value with
  | none => .ok 0
  | some .null => .ok 0
  | some value => if templateText value = "" then .ok 0 else bigInt (templateText value)

/-- The stored record of a settled claim. -/
structure EventClaimSettledProps where
  id : String
  supplierId : Option String
  applicationId : String
  serviceId : String
  sessionId : String
  sessionStartHeight : Int
  sessionEndHeight : Int
  numRelays : Int
  numEstimatedRelays : Int
  numClaimedComputedUnits : Int
  numEstimatedComputedUnits : Int
  claimedDenom : String
  claimedAmount : Int
  proofValidationStatus : Option ClaimProofStatus
  transactionId : Option String
  blockId : ℕ
  proofRequirement : ProofRequirementReason
  mints : List MintBurnOp
  burns : List MintBurnOp
  modToModTransfers : List ModToModTransfer
  settledAmount : Int
  settledDenom : Option String
  mintRatio : Double
  supplierOwnerId : Option String
  mintedAmount : Option Int
  mintedDenom : Option String
  overservicingLossAmount : Int
  overservicingLossDenom : Option String
  deflationLossAmount : Int
  deflationLossDenom : Option String

/-- A denomination, or another one where it is missing or empty. -/
def denomOr (denom other : Option String) : Option String :=
  match denom with
  | some "" => other
  | some denom => some denom
  | none => other

/-- The record of a settled claim and its settlement. -/
def _buildClaimSettledProps (kindText : CosmosEventKind → String) (event : CosmosEvent)
    (attributes : EventAttributes) (settlement : SettlementParts) (effectiveBurn : String)
    (mintRatio : Double) : Except String EventClaimSettledProps := do
  let proofValidationStatus ← property attributes.claim "proof_validation_status"
  let sessionHeader ← property attributes.claim "session_header"
  let supplierOperatorAddress ← property attributes.claim "supplier_operator_address"
  let claimedDenom := attributes.claimed.map Coin.denom
  let numEstimatedRelays ← _computeNumEstimatedRelays attributes.chainNumEstimatedRelays
    attributes.numEstimatedComputedUnits attributes.numClaimedComputedUnits attributes.numRelays
  let overservicingLossAmount ← _computeOverservicingLoss attributes.overservicingLossUpokt
    (attributes.claimed.map Coin.amount) effectiveBurn
  let deflationLossAmount ← _computeDeflationLoss attributes.deflationLossUpokt effectiveBurn
    settlement.mintedUpokt
  let sessionStartHeight ← heightOf (optionalProperty sessionHeader "session_start_block_height")
  let sessionEndHeight ← heightOf (optionalProperty sessionHeader "session_end_block_height")
  -- The claimed and the settled amount are both the effective burn.
  let claimedAmount ← bigInt (orZero effectiveBurn)
  let proofValidationStatus ← getClaimProofStatusFromSDK proofValidationStatus
  let settledAmount ← bigInt effectiveBurn
  let mintedAmount ← mintedAmountOf settlement.mintedUpokt
  return {
    id := getEventId kindText event
    supplierId := textOf supplierOperatorAddress
    applicationId := orEmpty (optionalProperty sessionHeader "application_address")
    serviceId := orEmpty (optionalProperty sessionHeader "service_id")
    sessionId := orEmpty (optionalProperty sessionHeader "session_id")
    sessionStartHeight, sessionEndHeight
    numRelays := attributes.numRelays
    numEstimatedRelays
    numClaimedComputedUnits := attributes.numClaimedComputedUnits
    numEstimatedComputedUnits := attributes.numEstimatedComputedUnits
    claimedDenom := (denomOr claimedDenom none).getD ""
    claimedAmount, proofValidationStatus
    transactionId := event.tx.map CosmosTransaction.hash
    blockId := getBlockId event.height
    proofRequirement := attributes.proofRequirement
    mints := settlement.mints
    burns := settlement.burns
    modToModTransfers := settlement.modToModTransfers
    settledAmount
    settledDenom := denomOr (attributes.settledUpokt.map Coin.denom) claimedDenom
    mintRatio
    supplierOwnerId := attributes.supplierOwnerAddress
    mintedAmount
    mintedDenom := denomOr (settlement.mintedUpokt.bind MintedCoin.denom) claimedDenom
    overservicingLossAmount
    overservicingLossDenom := denomOr (attributes.overservicingLossUpokt.map Coin.denom) claimedDenom
    deflationLossAmount
    deflationLossDenom := denomOr (attributes.deflationLossUpokt.map Coin.denom) claimedDenom }

/-- What the record of a settled claim is built from. -/
structure BuiltClaim (kindText : CosmosEventKind → String) (event : CosmosEvent)
    (attributes : EventAttributes) (settlement : SettlementParts) (effectiveBurn : String)
    (props : EventClaimSettledProps) : Prop where
  id : props.id = getEventId kindText event
  blockId : props.blockId = getBlockId event.height
  mints : props.mints = settlement.mints
  status : ∃ given, property attributes.claim "proof_validation_status" = .ok given ∧
    getClaimProofStatusFromSDK given = .ok props.proofValidationStatus
  names : ∃ header supplier, property attributes.claim "session_header" = .ok header ∧
    property attributes.claim "supplier_operator_address" = .ok supplier ∧
    props.supplierId = textOf supplier ∧
    props.applicationId = orEmpty (optionalProperty header "application_address") ∧
    props.serviceId = orEmpty (optionalProperty header "service_id") ∧
    props.sessionId = orEmpty (optionalProperty header "session_id")
  claimed : bigInt (orZero effectiveBurn) = .ok props.claimedAmount
  settled : bigInt effectiveBurn = .ok props.settledAmount
  overserviced : _computeOverservicingLoss attributes.overservicingLossUpokt
    (attributes.claimed.map Coin.amount) effectiveBurn = .ok props.overservicingLossAmount
  deflation : _computeDeflationLoss attributes.deflationLossUpokt effectiveBurn
    settlement.mintedUpokt = .ok props.deflationLossAmount
  minted : mintedAmountOf settlement.mintedUpokt = .ok props.mintedAmount

/-- Building the record of a settled claim. -/
theorem buildClaimSettledProps_ok {kindText : CosmosEventKind → String} {event : CosmosEvent}
    {attributes : EventAttributes} {settlement : SettlementParts} {effectiveBurn : String}
    {mintRatio : Double} {props : EventClaimSettledProps}
    (built : _buildClaimSettledProps kindText event attributes settlement effectiveBurn mintRatio =
      .ok props) : BuiltClaim kindText event attributes settlement effectiveBurn props := by
  unfold _buildClaimSettledProps at built
  obtain ⟨given, status, built⟩ := exceptBind_ok built
  obtain ⟨header, session, built⟩ := exceptBind_ok built
  obtain ⟨supplier, operator, built⟩ := exceptBind_ok built
  obtain ⟨relays, -, built⟩ := exceptBind_ok built
  obtain ⟨overserviced, lost, built⟩ := exceptBind_ok built
  obtain ⟨deflation, deflated, built⟩ := exceptBind_ok built
  obtain ⟨startHeight, -, built⟩ := exceptBind_ok built
  obtain ⟨endHeight, -, built⟩ := exceptBind_ok built
  obtain ⟨claimed, claiming, built⟩ := exceptBind_ok built
  obtain ⟨proofStatus, reading, built⟩ := exceptBind_ok built
  obtain ⟨settled, settling, built⟩ := exceptBind_ok built
  obtain ⟨minted, minting, built⟩ := exceptBind_ok built
  cases built
  exact ⟨rfl, rfl, rfl, ⟨given, status, reading⟩,
    ⟨header, supplier, session, operator, rfl, rfl, rfl, rfl⟩, claiming, settling, lost, deflated,
    minting⟩

/-- What a claim is settled for: the chain's settled amount, the burn of its overserviced application,
or the claimed amount. -/
def effectiveBurnOf (attributes : EventAttributes) (getEffectiveBurn : String → String → Option String) :
    Except String String := do
  let sessionHeader ← property attributes.claim "session_header"
  let supplier ← property attributes.claim "supplier_operator_address"
  match attributes.settledUpokt with
  | some coin => return coin.amount
  | none =>
    let application := orEmpty (optionalProperty sessionHeader "application_address")
    match getEffectiveBurn application (optionText supplier), attributes.claimed with
    | some burn, _ => return burn
    | none, some coin => return coin.amount
    -- Without any amount the first conversion throws.
    | none, none => .error "Cannot convert undefined to a BigInt"

/-- The mint ratio of an event, or else the one of the parameters. -/
def mintRatioOf (attributes : EventAttributes) (mintRatioFromParams : Double) : Double :=
  match attributes.mintRatioStr with
  | some text => if text = "" then mintRatioFromParams else Double.parseFloat text
  | none => mintRatioFromParams

/-- The record and the transfers of one settled claim. -/
def _handleEventClaimSettled (kindText : CosmosEventKind → String) (mintRatioFromParams : Double)
    (getEffectiveBurn : String → String → Option String) (event : CosmosEvent) :
    Except String (EventClaimSettledProps × List ModToAcctTransferRecord) := do
  let attributes ← getAttributes event.attributes
  let mintRatio := mintRatioOf attributes mintRatioFromParams
  let effectiveBurn ← effectiveBurnOf attributes getEffectiveBurn
  let settlement ← _resolveSettlementParts attributes (getEventId kindText event)
    (getBlockId event.height) effectiveBurn mintRatio
  let props ← _buildClaimSettledProps kindText event attributes settlement effectiveBurn mintRatio
  return (props, settlement.modToAcctTransfers)

/-- The stored record of an expired claim. -/
structure EventClaimExpiredProps where
  id : String
  supplierId : Option String
  applicationId : String
  serviceId : String
  sessionId : String
  sessionStartHeight : Int
  sessionEndHeight : Int
  numRelays : Int
  numEstimatedRelays : Int
  numClaimedComputedUnits : Int
  numEstimatedComputedUnits : Int
  claimedDenom : String
  claimedAmount : Int
  proofValidationStatus : Option ClaimProofStatus
  expirationReason : ClaimExpirationReason
  transactionId : Option String
  blockId : ℕ

/-- The record of one expired claim. -/
def _handleEventClaimExpired (kindText : CosmosEventKind → String) (event : CosmosEvent) :
    Except String EventClaimExpiredProps := do
  let attributes ← getAttributes event.attributes
  let proofValidationStatus ← property attributes.claim "proof_validation_status"
  let sessionHeader ← property attributes.claim "session_header"
  let supplierOperatorAddress ← property attributes.claim "supplier_operator_address"
  let numEstimatedRelays ← _computeNumEstimatedRelays attributes.chainNumEstimatedRelays
    attributes.numEstimatedComputedUnits attributes.numClaimedComputedUnits attributes.numRelays
  let sessionStartHeight ← heightOf (optionalProperty sessionHeader "session_start_block_height")
  let sessionEndHeight ← heightOf (optionalProperty sessionHeader "session_end_block_height")
  let claimedAmount ← bigInt (orZero ((attributes.claimed.map Coin.amount).getD ""))
  let proofValidationStatus ← getClaimProofStatusFromSDK proofValidationStatus
  return {
    id := getEventId kindText event
    supplierId := textOf supplierOperatorAddress
    applicationId := orEmpty (optionalProperty sessionHeader "application_address")
    serviceId := orEmpty (optionalProperty sessionHeader "service_id")
    sessionId := orEmpty (optionalProperty sessionHeader "session_id")
    sessionStartHeight, sessionEndHeight
    numRelays := attributes.numRelays
    numEstimatedRelays
    numClaimedComputedUnits := attributes.numClaimedComputedUnits
    numEstimatedComputedUnits := attributes.numEstimatedComputedUnits
    claimedDenom := (attributes.claimed.map Coin.denom).getD ""
    claimedAmount, proofValidationStatus
    expirationReason := attributes.expirationReason
    transactionId := event.tx.map CosmosTransaction.hash
    blockId := getBlockId event.height }

/-- The burn an overserviced application could pay, under its address and the supplier's. -/
def effectiveBurnEntry (event : CosmosEvent) : Except String (Option (String × String)) := do
  let text (key : String) : Except String String :=
    readAttributes [key] (fun entry => .ok (replaceQuotes entry.value)) "" event.attributes
  let application ← text "application_addr"
  let supplier ← text "supplier_operator_addr"
  let effectiveBurn ← readAttributes ["effective_burn"]
    (fun entry => (getDenomAndAmount entry.value).map some) none event.attributes
  match effectiveBurn with
  | some coin =>
    if application ≠ "" ∧ supplier ≠ "" then return some (s!"{application}-{supplier}", coin.amount)
    else return none
  | none => return none

/-- The burns of the overserviced applications of a block, where an empty one does not count. -/
def getEffectiveBurn (overservices : List CosmosEvent) :
    Except String (String → String → Option String) := do
  let entries ← overservices.mapM effectiveBurnEntry
  let effectiveBurnPerAppAndSupplier := Dict.collect Prod.fst Prod.snd entries.reduceOption
  return fun application supplier =>
    (effectiveBurnPerAppAndSupplier.get s!"{application}-{supplier}").filter (· ≠ "")

/-- The mint ratio of the parameters, which is one before there is such a parameter. -/
def mintRatioFromParam (mintRatioParam : Option String) : Double :=
  match mintRatioParam with
  | some value => Double.parseFloat value
  | none => .finite 1

/-- The records and the transfers of the settled claims of a block. -/
def eventsSettled (kindText : CosmosEventKind → String) (mintRatioParam : Option String)
    (events overservices : List CosmosEvent) :
    Except String (List (EventClaimSettledProps × List ModToAcctTransferRecord)) := do
  let getEffectiveBurn ← getEffectiveBurn overservices
  events.mapM (_handleEventClaimSettled kindText (mintRatioFromParam mintRatioParam)
    getEffectiveBurn)

/-- A statement on the settled claims, or on one of the two transfer tables. -/
inductive SettlementStatement where
  | eventClaimSettleds (statement : Statement (Row EventClaimSettledProps))
  | transfers (statement : TransferStatement)

/-- A record as it is handed to the bulk write. -/
def claimSettledDoc (props : EventClaimSettledProps) : Doc EventClaimSettledProps where
  data := props
  blockId := some props.blockId

/-- Storing the records, the transfers and their summaries side by side. -/
def storeSettled (height : ℕ)
    (settled : List (EventClaimSettledProps × List ModToAcctTransferRecord)) :
    Task SettlementStatement :=
  let modToAcctTransfersToSave := settled.flatMap Prod.snd
  let serviceIdByEventSettledId := Dict.collect EventClaimSettledProps.id
    EventClaimSettledProps.serviceId (settled.map Prod.fst)
  let summarized := summarizeTransfers modToAcctTransfersToSave serviceIdByEventSettledId
  Task.par
    ((optimizedBulkCreate height (settled.map fun (props, _) => claimSettledDoc props) .blockId).map
      .eventClaimSettleds)
    ((TransferRows.insert ⟨modToAcctTransfersToSave, summarized⟩).map .transfers)

/-- The settled claims of a block are stored with their transfers. -/
def handleEventClaimSettled (kindText : CosmosEventKind → String) (mintRatioParam : Option String)
    (height : ℕ) (events overservices : List CosmosEvent) :
    Except String (Task SettlementStatement) :=
  (eventsSettled kindText mintRatioParam events overservices).map (storeSettled height)

end Pocketdex.Settlement
