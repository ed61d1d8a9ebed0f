import Mathlib.Data.Nat.Notation

/-! Blocks as the indexer receives them: transactions, decoded messages, and events. -/

namespace Pocketdex

/-- The part of block execution an event comes from. -/
inductive CosmosEventKind where
  | beginBlock
  | endBlock
  | message
  | transaction
  | finalizeBlock
  deriving DecidableEq, Repr

/-- The event types the indexer has handlers for, as far as they are modelled. -/
inductive EventType where
  | coinReceived
  | coinSpent
  | applicationTransferBegin
  | applicationTransferEnd
  | applicationTransferError
  | applicationUnbondingBegin
  | applicationUnbondingEnd
  | gatewayUnstaked
  | gatewayUnbondingBegin
  | gatewayUnbondingEnd
  | supplierServiceConfigActivated
  | supplierUnbondingBegin
  | supplierUnbondingEnd
  | supplierSlashed
  | morseAccountClaimed
  | morseAccountRecovered
  | morseAccountRecoveredAdmin
  | morseApplicationClaimed
  | morseSupplierClaimed
  | claimSettled
  | applicationOverserviced
  | applicationReimbursementRequest
  | settlementBatch
  | relayMiningDifficultyUpdated
  deriving DecidableEq, Repr

/-- The name the chain emits an event type under. -/
def EventType.name : EventType → String
  | coinReceived => "coin_received"
  | coinSpent => "coin_spent"
  | applicationTransferBegin => "pocket.application.EventTransferBegin"
  | applicationTransferEnd => "pocket.application.EventTransferEnd"
  | applicationTransferError => "pocket.application.EventTransferError"
  | applicationUnbondingBegin => "pocket.application.EventApplicationUnbondingBegin"
  | applicationUnbondingEnd => "pocket.application.EventApplicationUnbondingEnd"
  | gatewayUnstaked => "pocket.gateway.EventGatewayUnstaked"
  | gatewayUnbondingBegin => "pocket.gateway.EventGatewayUnbondingBegin"
  | gatewayUnbondingEnd => "pocket.gateway.EventGatewayUnbondingEnd"
  | supplierServiceConfigActivated => "pocket.supplier.EventSupplierServiceConfigActivated"
  | supplierUnbondingBegin => "pocket.supplier.EventSupplierUnbondingBegin"
  | supplierUnbondingEnd => "pocket.supplier.EventSupplierUnbondingEnd"
  | supplierSlashed => "pocket.tokenomics.EventSupplierSlashed"
  | morseAccountClaimed => "pocket.migration.EventMorseAccountClaimed"
  | morseAccountRecovered => "pocket.migration.EventMorseAccountRecovered"
  | morseAccountRecoveredAdmin => "pocket.migration.EventMorseAccountRecoveredAdmin"
  | morseApplicationClaimed => "pocket.migration.EventMorseApplicationClaimed"
  | morseSupplierClaimed => "pocket.migration.EventMorseSupplierClaimed"
  | claimSettled => "pocket.tokenomics.EventClaimSettled"
  | applicationOverserviced => "pocket.tokenomics.EventApplicationOverserviced"
  | applicationReimbursementRequest => "pocket.tokenomics.EventApplicationReimbursementRequest"
  | settlementBatch => "pocket.tokenomics.EventSettlementBatch"
  | relayMiningDifficultyUpdated => "pocket.service.EventRelayMiningDifficultyUpdated"

/-- One attribute of an event. -/
structure Attribute where
  key : String
  value : String
  deriving DecidableEq, Repr

/-- An event as the result of a transaction lists it. -/
structure TxEvent where
  type : EventType
  attributes : List Attribute
  deriving DecidableEq, Repr

/-- A transaction with its place in the block, its status code, and the events of its result. -/
structure CosmosTransaction where
  idx : ℕ
  hash : String
  code : ℕ
  events : List TxEvent
  deriving DecidableEq, Repr

/-- An amount of one denomination. -/
structure Coin where
  amount : String
  denom : String
  deriving DecidableEq, Repr

/-- The service an application stakes for. -/
structure ApplicationServiceConfig where
  serviceId : String
  deriving DecidableEq, Repr

structure MsgStakeApplication where
  address : String
  stake : Option Coin
  services : List ApplicationServiceConfig
  deriving DecidableEq, Repr

structure MsgClaimMorseApplication where
  shannonDestAddress : String
  shannonSigningAddress : String
  serviceConfig : Option ApplicationServiceConfig
  deriving DecidableEq, Repr

structure MsgUnstakeApplication where
  address : String
  deriving DecidableEq, Repr

structure MsgTransferApplication where
  sourceAddress : String
  destinationAddress : String
  deriving DecidableEq, Repr

structure MsgDelegateToGateway where
  appAddress : String
  gatewayAddress : String
  deriving DecidableEq, Repr

structure MsgUndelegateFromGateway where
  appAddress : String
  gatewayAddress : String
  deriving DecidableEq, Repr

structure MsgStakeGateway where
  address : String
  stake : Option Coin
  deriving DecidableEq, Repr

structure MsgUnstakeGateway where
  address : String
  deriving DecidableEq, Repr

/-- An option of an endpoint. -/
structure ConfigOption where
  key : ℕ
  value : String
  deriving DecidableEq, Repr

/-- Where a supplier serves a service. -/
structure SupplierEndpoint where
  url : String
  rpcType : ℕ
  configs : List ConfigOption
  deriving DecidableEq, Repr

/-- The share of the revenue of a service that goes to an address. -/
structure ServiceRevenueShare where
  address : String
  revSharePercentage : ℕ
  deriving DecidableEq, Repr

/-- The service a supplier stakes for. -/
structure SupplierServiceConfig where
  serviceId : String
  endpoints : List SupplierEndpoint
  revShare : List ServiceRevenueShare
  deriving DecidableEq, Repr

structure MsgStakeSupplier where
  signer : String
  ownerAddress : String
  operatorAddress : String
  stake : Option Coin
  services : List SupplierServiceConfig
  deriving DecidableEq, Repr

structure MsgUnstakeSupplier where
  signer : String
  operatorAddress : String
  deriving DecidableEq, Repr

structure MsgClaimMorseSupplier where
  shannonSigningAddress : String
  shannonOwnerAddress : String
  shannonOperatorAddress : String
  morsePublicKey : List UInt8
  morseSignature : List UInt8
  morseNodeAddress : String
  signerIsOutputAddress : Bool
  services : List SupplierServiceConfig
  deriving DecidableEq, Repr

/-- A decoded message of one of the stake types. -/
inductive DecodedMsg where
  | stakeApplication (msg : MsgStakeApplication)
  | claimMorseApplication (msg : MsgClaimMorseApplication)
  | unstakeApplication (msg : MsgUnstakeApplication)
  | transferApplication (msg : MsgTransferApplication)
  | delegateToGateway (msg : MsgDelegateToGateway)
  | undelegateFromGateway (msg : MsgUndelegateFromGateway)
  | stakeGateway (msg : MsgStakeGateway)
  | unstakeGateway (msg : MsgUnstakeGateway)
  | stakeSupplier (msg : MsgStakeSupplier)
  | unstakeSupplier (msg : MsgUnstakeSupplier)
  | claimMorseSupplier (msg : MsgClaimMorseSupplier)
  deriving DecidableEq, Repr

namespace DecodedMsg

/-- The type URL of a message. -/
def typeUrl : DecodedMsg → String
  | stakeApplication _ => "/pocket.application.MsgStakeApplication"
  | claimMorseApplication _ => "/pocket.migration.MsgClaimMorseApplication"
  | unstakeApplication _ => "/pocket.application.MsgUnstakeApplication"
  | transferApplication _ => "/pocket.application.MsgTransferApplication"
  | delegateToGateway _ => "/pocket.application.MsgDelegateToGateway"
  | undelegateFromGateway _ => "/pocket.application.MsgUndelegateFromGateway"
  | stakeGateway _ => "/pocket.gateway.MsgStakeGateway"
  | unstakeGateway _ => "/pocket.gateway.MsgUnstakeGateway"
  | stakeSupplier _ => "/pocket.supplier.MsgStakeSupplier"
  | unstakeSupplier _ => "/pocket.supplier.MsgUnstakeSupplier"
  | claimMorseSupplier _ => "/pocket.migration.MsgClaimMorseSupplier"

/-- The text field of a message behind a path. -/
def get : DecodedMsg → String → Option String
  | stakeApplication msg, "address" => some msg.address
  | claimMorseApplication msg, "shannonDestAddress" => some msg.shannonDestAddress
  | claimMorseApplication msg, "shannonSigningAddress" => some msg.shannonSigningAddress
  | unstakeApplication msg, "address" => some msg.address
  | transferApplication msg, "sourceAddress" => some msg.sourceAddress
  | transferApplication msg, "destinationAddress" => some msg.destinationAddress
  | delegateToGateway msg, "appAddress" => some msg.appAddress
  | delegateToGateway msg, "gatewayAddress" => some msg.gatewayAddress
  | undelegateFromGateway msg, "appAddress" => some msg.appAddress
  | undelegateFromGateway msg, "gatewayAddress" => some msg.gatewayAddress
  | stakeGateway msg, "address" => some msg.address
  | unstakeGateway msg, "address" => some msg.address
  | stakeSupplier msg, "operatorAddress" => some msg.operatorAddress
  | unstakeSupplier msg, "operatorAddress" => some msg.operatorAddress
  | claimMorseSupplier msg, "shannonOperatorAddress" => some msg.shannonOperatorAddress
  | _, _ => none

end DecodedMsg

/-- A message with its transaction and its index inside it. -/
structure CosmosMessage where
  idx : ℕ
  height : ℕ
  tx : CosmosTransaction
  decodedMsg : DecodedMsg
  deriving DecidableEq, Repr

/-- An event of a block, with the transaction and message it was emitted by, if any. -/
structure CosmosEvent where
  idx : ℕ
  height : ℕ
  kind : CosmosEventKind
  type : EventType
  attributes : List Attribute
  tx : Option CosmosTransaction
  msg : Option CosmosMessage
  deriving DecidableEq, Repr

end Pocketdex
