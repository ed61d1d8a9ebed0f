import Pocketdex.Base.Store
import Pocketdex.Types
import Pocketdex.Utils.Texts

/-! Module parameters are stored at genesis, and by the update messages executed through others. -/

namespace Pocketdex

structure ParamProps where
  id : String
  key : String
  value : String
  ns : String
  blockId : ℕ
  deriving DecidableEq, Repr

/-- A parameter is identified by its module and its name. -/
def getParamId (ns key : String) : String := s!"{ns}-{key}"

/-- The row of a parameter. -/
def paramRow (ns : String) (blockId : ℕ) (key : String) (value : Json) : ParamProps where
  id := getParamId ns key
  key := key
  value := sanitize value
  ns := ns
  blockId := blockId

/-- The rows of a section of the genesis file, whose names are kept as they are. -/
def saveParams (ns : String) (params : List (String × Json)) (blockId : ℕ) : List ParamProps :=
  params.map fun (key, value) => paramRow ns blockId key value

/-- The sections of the genesis file that hold parameters. -/
def genesisNamespaces : List String :=
  ["application", "auth", "bank", "distribution", "gateway", "gov", "mint", "proof", "service",
    "session", "shared", "slashing", "staking", "supplier", "tokenomics", "consensus"]

/-- The parameters of the genesis file are saved together. -/
def _handleGenesisParams (sections : String → List (String × Json)) (blockId : ℕ)
    (store : Store ParamProps.id) : Store ParamProps.id :=
  store.bulkCreate (genesisNamespaces.flatMap fun ns => saveParams ns (sections ns) blockId)

/-- A field of a decoded message: a number by its spelling, a text, a flag, or another message. -/
inductive FieldValue where
  | number (spelling : String)
  | string (text : String)
  | flag (raised : Bool)
  | message (fields : Option (List (String × Json)))

namespace FieldValue

/-- Whether a generated encoder leaves a field out. -/
def isDefault : FieldValue → Bool
  | number spelling => spelling = "0"
  | string text => text = ""
  | flag raised => !raised
  | message fields => fields.isNone

/-- The value of a field. -/
def json : FieldValue → Json
  | number spelling => .number spelling
  | string text => .string text
  | flag raised => .bool raised
  | message fields => (fields.map Json.object).getD .null

end FieldValue

/-- A field of a message under the names the chain and the generated code have for it. -/
structure MessageField where
  name : String
  jsonName : String
  value : FieldValue

/-- The object a generated encoder makes of a message: fields with default values are left out. -/
def encodeFields (fields : List MessageField) : List (String × Json) :=
  (fields.filter fun field => !field.value.isDefault).map fun field =>
    (field.jsonName, field.value.json)

/-- A coin as a generated encoder writes it. -/
def Coin.toJSON (coin : Coin) : List (String × Json) :=
  encodeFields [⟨"denom", "denom", .string coin.denom⟩, ⟨"amount", "amount", .string coin.amount⟩]

/-- How minted tokens are distributed, with each share as a number by its spelling. -/
structure MintAllocationPercentages where
  dao : String
  proposer : String
  supplier : String
  sourceOwner : String
  application : String
  deriving DecidableEq, Repr

def MintAllocationPercentages.toJSON (shares : MintAllocationPercentages) : List (String × Json) :=
  encodeFields [⟨"dao", "dao", .number shares.dao⟩,
    ⟨"proposer", "proposer", .number shares.proposer⟩,
    ⟨"supplier", "supplier", .number shares.supplier⟩,
    ⟨"source_owner", "sourceOwner", .number shares.sourceOwner⟩,
    ⟨"application", "application", .number shares.application⟩]

/-- The distribution used where minted tokens equal the burnt ones has the same shares. -/
abbrev MintEqualsBurnClaimDistribution := MintAllocationPercentages

structure ApplicationParams where
  maxDelegatedGateways : String
  minStake : Option Coin
  deriving DecidableEq, Repr

structure ServiceParams where
  addServiceFee : Option Coin
  targetNumRelays : String
  deriving DecidableEq, Repr

structure SupplierParams where
  minStake : Option Coin
  stakingFee : Option Coin
  deriving DecidableEq, Repr

structure GatewayParams where
  minStake : Option Coin
  deriving DecidableEq, Repr

structure ProofParams where
  proofRequestProbability : String
  proofRequirementThreshold : Option Coin
  proofMissingPenalty : Option Coin
  proofSubmissionFee : Option Coin
  deriving DecidableEq, Repr

/-- The generated code does not know the last two fields of the message. -/
structure SharedParams where
  numBlocksPerSession : String
  gracePeriodEndOffsetBlocks : String
  claimWindowOpenOffsetBlocks : String
  claimWindowCloseOffsetBlocks : String
  proofWindowOpenOffsetBlocks : String
  proofWindowCloseOffsetBlocks : String
  supplierUnbondingPeriodSessions : String
  applicationUnbondingPeriodSessions : String
  computeUnitsToTokensMultiplier : String
  gatewayUnbondingPeriodSessions : String
  computeUnitCostGranularity : String
  sessionGridAnchorHeight : String
  sessionNumberAtAnchor : String
  deriving DecidableEq, Repr

structure TokenomicsParams where
  daoRewardAddress : String
  mintAllocationPercentages : Option MintAllocationPercentages
  globalInflationPerClaim : String
  mintEqualsBurnClaimDistribution : Option MintEqualsBurnClaimDistribution
  mintRatio : String
  deriving DecidableEq, Repr

structure SessionParams where
  numSuppliersPerSession : String
  deriving DecidableEq, Repr

structure MigrationParams where
  waiveMorseClaimGasFees : Bool
  allowMorseAccountImportOverwrite : Bool
  morseAccountClaimingEnabled : Bool
  deriving DecidableEq, Repr

/-- A coin as a field of a message. -/
def coinField (coin : Option Coin) : FieldValue := .message (coin.map Coin.toJSON)

/-- Shares as a field of a message. -/
def sharesField (shares : Option MintAllocationPercentages) : FieldValue :=
  .message (shares.map MintAllocationPercentages.toJSON)

def ApplicationParams.fields (message : ApplicationParams) : List MessageField :=
  [⟨"max_delegated_gateways", "maxDelegatedGateways", .number message.maxDelegatedGateways⟩,
    ⟨"min_stake", "minStake", coinField message.minStake⟩]

def ServiceParams.fields (message : ServiceParams) : List MessageField :=
  [⟨"add_service_fee", "addServiceFee", coinField message.addServiceFee⟩,
    ⟨"target_num_relays", "targetNumRelays", .number message.targetNumRelays⟩]

def SupplierParams.fields (message : SupplierParams) : List MessageField :=
  [⟨"min_stake", "minStake", coinField message.minStake⟩,
    ⟨"staking_fee", "stakingFee", coinField message.stakingFee⟩]

def GatewayParams.fields (message : GatewayParams) : List MessageField :=
  [⟨"min_stake", "minStake", coinField message.minStake⟩]

def ProofParams.fields (message : ProofParams) : List MessageField :=
  [⟨"proof_request_probability", "proofRequestProbability",
      .number message.proofRequestProbability⟩,
    ⟨"proof_requirement_threshold", "proofRequirementThreshold",
      coinField message.proofRequirementThreshold⟩,
    ⟨"proof_missing_penalty", "proofMissingPenalty", coinField message.proofMissingPenalty⟩,
    ⟨"proof_submission_fee", "proofSubmissionFee", coinField message.proofSubmissionFee⟩]

def SharedParams.fields (message : SharedParams) : List MessageField :=
  [⟨"num_blocks_per_session", "numBlocksPerSession", .number message.numBlocksPerSession⟩,
    ⟨"grace_period_end_offset_blocks", "gracePeriodEndOffsetBlocks",
      .number message.gracePeriodEndOffsetBlocks⟩,
    ⟨"claim_window_open_offset_blocks", "claimWindowOpenOffsetBlocks",
      .number message.claimWindowOpenOffsetBlocks⟩,
    ⟨"claim_window_close_offset_blocks", "claimWindowCloseOffsetBlocks",
      .number message.claimWindowCloseOffsetBlocks⟩,
    ⟨"proof_window_open_offset_blocks", "proofWindowOpenOffsetBlocks",
      .number message.proofWindowOpenOffsetBlocks⟩,
    ⟨"proof_window_close_offset_blocks", "proofWindowCloseOffsetBlocks",
      .number message.proofWindowCloseOffsetBlocks⟩,
    ⟨"supplier_unbonding_period_sessions", "supplierUnbondingPeriodSessions",
      .number message.supplierUnbondingPeriodSessions⟩,
    ⟨"application_unbonding_period_sessions", "applicationUnbondingPeriodSessions",
      .number message.applicationUnbondingPeriodSessions⟩,
    ⟨"compute_units_to_tokens_multiplier", "computeUnitsToTokensMultiplier",
      .number message.computeUnitsToTokensMultiplier⟩,
    ⟨"gateway_unbonding_period_sessions", "gatewayUnbondingPeriodSessions",
      .number message.gatewayUnbondingPeriodSessions⟩,
    ⟨"compute_unit_cost_granularity", "computeUnitCostGranularity",
      .number message.computeUnitCostGranularity⟩]

/-- The fields of a shared update that are lost when it is decoded. -/
def SharedParams.unknownFields (message : SharedParams) : List (String × FieldValue) :=
  [("session_grid_anchor_height", .number message.sessionGridAnchorHeight),
    ("session_number_at_anchor", .number message.sessionNumberAtAnchor)]

def TokenomicsParams.fields (message : TokenomicsParams) : List MessageField :=
  [⟨"dao_reward_address", "daoRewardAddress", .string message.daoRewardAddress⟩,
    ⟨"mint_allocation_percentages", "mintAllocationPercentages",
      sharesField message.mintAllocationPercentages⟩,
    ⟨"global_inflation_per_claim", "globalInflationPerClaim",
      .number message.globalInflationPerClaim⟩,
    ⟨"mint_equals_burn_claim_distribution", "mintEqualsBurnClaimDistribution",
      sharesField message.mintEqualsBurnClaimDistribution⟩,
    ⟨"mint_ratio", "mintRatio", .number message.mintRatio⟩]

def SessionParams.fields (message : SessionParams) : List MessageField :=
  [⟨"num_suppliers_per_session", "numSuppliersPerSession", .number message.numSuppliersPerSession⟩]

def MigrationParams.fields (message : MigrationParams) : List MessageField :=
  [⟨"waive_morse_claim_gas_fees", "waiveMorseClaimGasFees", .flag message.waiveMorseClaimGasFees⟩,
    ⟨"allow_morse_account_import_overwrite", "allowMorseAccountImportOverwrite",
      .flag message.allowMorseAccountImportOverwrite⟩,
    ⟨"morse_account_claiming_enabled", "morseAccountClaimingEnabled",
      .flag message.morseAccountClaimingEnabled⟩]

/-- The parameters of one of the modules whose code is generated here. -/
inductive PocketParams where
  | application (params : ApplicationParams)
  | service (params : ServiceParams)
  | supplier (params : SupplierParams)
  | gateway (params : GatewayParams)
  | proof (params : ProofParams)
  | shared (params : SharedParams)
  | tokenomics (params : TokenomicsParams)
  | session (params : SessionParams)
  | migration (params : MigrationParams)

namespace PocketParams

/-- The module the parameters belong to. -/
def module : PocketParams → String
  | application _ => "application"
  | service _ => "service"
  | supplier _ => "supplier"
  | gateway _ => "gateway"
  | proof _ => "proof"
  | shared _ => "shared"
  | tokenomics _ => "tokenomics"
  | session _ => "session"
  | migration _ => "migration"

/-- The fields the generated code knows. -/
def fields : PocketParams → List MessageField
  | application params => params.fields
  | service params => params.fields
  | supplier params => params.fields
  | gateway params => params.fields
  | proof params => params.fields
  | shared params => params.fields
  | tokenomics params => params.fields
  | session params => params.fields
  | migration params => params.fields

/-- The fields the generated code does not know. -/
def unknownFields : PocketParams → List (String × FieldValue)
  | shared params => params.unknownFields
  | _ => []

end PocketParams

/-- The modules whose single parameters can be updated. -/
inductive ParamModule where
  | application
  | service
  | supplier
  | gateway
  | proof
  | shared
  | tokenomics
  | session
  deriving DecidableEq, Repr

def ParamModule.name : ParamModule → String
  | application => "application"
  | service => "service"
  | supplier => "supplier"
  | gateway => "gateway"
  | proof => "proof"
  | shared => "shared"
  | tokenomics => "tokenomics"
  | session => "session"

/-- The types of value a single parameter is updated with. -/
inductive AsType where
  | asUint64
  | asString
  | asBytes
  | asFloat
  | asCoin
  | asMintAllocationPercentages
  | asMintEqualsBurnClaimDistribution
  deriving DecidableEq, Repr

def AsType.jsonName : AsType → String
  | asUint64 => "asUint64"
  | asString => "asString"
  | asBytes => "asBytes"
  | asFloat => "asFloat"
  | asCoin => "asCoin"
  | asMintAllocationPercentages => "asMintAllocationPercentages"
  | asMintEqualsBurnClaimDistribution => "asMintEqualsBurnClaimDistribution"

/-- The modules whose code comes with the chain's framework. -/
inductive CosmosModule where
  | auth
  | bank
  | distribution
  | mint
  | slashing
  | staking
  | consensus
  | gov
  deriving DecidableEq, Repr

def CosmosModule.name : CosmosModule → String
  | auth => "auth"
  | bank => "bank"
  | distribution => "distribution"
  | mint => "mint"
  | slashing => "slashing"
  | staking => "staking"
  | consensus => "consensus"
  | gov => "gov"

def CosmosModule.version : CosmosModule → String
  | consensus => "v1"
  | gov => "v1"
  | _ => "v1beta1"

/-- The fields of a module, under the names of the chain and of its code. -/
def CosmosModule.fields : CosmosModule → List (String × String)
  | auth => [("max_memo_characters", "maxMemoCharacters"), ("tx_sig_limit", "txSigLimit"),
      ("tx_size_cost_per_byte", "txSizeCostPerByte"),
      ("sig_verify_cost_ed25519", "sigVerifyCostEd25519"),
      ("sig_verify_cost_secp256k1", "sigVerifyCostSecp256k1")]
  | bank => [("send_enabled", "sendEnabled"), ("default_send_enabled", "defaultSendEnabled")]
  | distribution => [("community_tax", "communityTax"),
      ("base_proposer_reward", "baseProposerReward"),
      ("bonus_proposer_reward", "bonusProposerReward"),
      ("withdraw_addr_enabled", "withdrawAddrEnabled")]
  | mint => [("mint_denom", "mintDenom"), ("inflation_rate_change", "inflationRateChange"),
      ("inflation_max", "inflationMax"), ("inflation_min", "inflationMin"),
      ("goal_bonded", "goalBonded"), ("blocks_per_year", "blocksPerYear")]
  | slashing => [("signed_blocks_window", "signedBlocksWindow"),
      ("min_signed_per_window", "minSignedPerWindow"),
      ("downtime_jail_duration", "downtimeJailDuration"),
      ("slash_fraction_double_sign", "slashFractionDoubleSign"),
      ("slash_fraction_downtime", "slashFractionDowntime")]
  | staking => [("unbonding_time", "unbondingTime"), ("max_validators", "maxValidators"),
      ("max_entries", "maxEntries"), ("historical_entries", "historicalEntries"),
      ("bond_denom", "bondDenom"), ("min_commission_rate", "minCommissionRate")]
  | consensus => [("block", "block"), ("evidence", "evidence"), ("validator", "validator"),
      ("abci", "abci")]
  | gov => [("min_deposit", "minDeposit"), ("max_deposit_period", "maxDepositPeriod"),
      ("voting_period", "votingPeriod"), ("quorum", "quorum"), ("threshold", "threshold"),
      ("veto_threshold", "vetoThreshold"),
      ("min_initial_deposit_ratio", "minInitialDepositRatio"),
      ("proposal_cancel_ratio", "proposalCancelRatio"),
      ("proposal_cancel_dest", "proposalCancelDest"),
      ("expedited_voting_period", "expeditedVotingPeriod"),
      ("expedited_threshold", "expeditedThreshold"),
      ("expedited_min_deposit", "expeditedMinDeposit"), ("burn_vote_quorum", "burnVoteQuorum"),
      ("burn_proposal_deposit_prevote", "burnProposalDepositPrevote"),
      ("burn_vote_veto", "burnVoteVeto"), ("min_deposit_ratio", "minDepositRatio")]

/-- An update of a module that comes with the framework, by the values of its fields. -/
structure CosmosParams where
  module : CosmosModule
  authority : String
  value : String → Json

/-- An update message, as its codec decodes it. -/
inductive UpdateMsg where
  | pocketParams (authority : String) (params : PocketParams)
  | pocketParam (module : ParamModule) (authority name : String) (asType : AsType) (value : Json)
  | cosmosParams (params : CosmosParams)

/-- The type URL of an update message. -/
def UpdateMsg.typeUrl : UpdateMsg → String
  | pocketParams _ params => "/pocket." ++ params.module ++ ".MsgUpdateParams"
  | pocketParam module _ _ _ _ => "/pocket." ++ module.name ++ ".MsgUpdateParam"
  | cosmosParams params =>
    "/cosmos." ++ params.module.name ++ "." ++ params.module.version ++ ".MsgUpdateParams"

/-- A text field of an object, which is left out when it is empty. -/
def textField (name text : String) : List (String × Json) :=
  encodeFields [⟨name, name, .string text⟩]

/-- The object a codec makes of an update message: those of the framework are not generated here. -/
def UpdateMsg.toJSON (cosmosJSON : CosmosParams → List (String × Json)) :
    UpdateMsg → List (String × Json)
  | pocketParams authority params =>
    textField "authority" authority ++ [("params", .object (encodeFields params.fields))]
  | pocketParam _ authority name asType value =>
    textField "authority" authority ++ textField "name" name ++ [(asType.jsonName, value)]
  | cosmosParams params => cosmosJSON params

/-- The part of a type URL between its first two dots. -/
def namespaceOf (typeUrl : String) : String :=
  String.ofList (((typeUrl.toList.dropWhile (· ≠ '.')).drop 1).takeWhile (· ≠ '.'))

/-- The name of the updated parameter, in the way names are written for the genesis file. -/
def updatedName (decodedJsonMsg : List (String × Json)) : String :=
  match Json.field decodedJsonMsg "name" with
  | some (.string name) => snakeCase name
  | _ => ""

/-- The rows of an update message. -/
def _handleUpdateParam (typeUrl : String) (decodedJsonMsg : List (String × Json)) (blockId : ℕ) :
    Except String (List ParamProps) :=
  let ns := namespaceOf typeUrl
  if "MsgUpdateParams".toList.isSuffixOf typeUrl.toList then
    match Json.field decodedJsonMsg "params" with
    | some (.object fields) =>
      .ok (fields.map fun (key, value) => paramRow ns blockId (snakeCase key) value)
    | _ => .error "Cannot convert undefined or null to object"
  else
    .ok ((decodedJsonMsg.filter fun (key, _) => "as".toList.isPrefixOf key.toList).map
      fun (_, value) => paramRow ns blockId (updatedName decodedJsonMsg) value)

/-- The update messages a block executes: their rows are saved together. -/
def handleAuthzExec (cosmosJSON : CosmosParams → List (String × Json)) (blockId : ℕ)
    (messages : List UpdateMsg) (store : Store ParamProps.id) :
    Except String (Store ParamProps.id) := do
  let params ← messages.mapM fun message =>
    _handleUpdateParam message.typeUrl (message.toJSON cosmosJSON) blockId
  return store.bulkCreate params.flatten

end Pocketdex
