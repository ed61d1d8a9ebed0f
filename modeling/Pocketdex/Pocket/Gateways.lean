import Pocketdex.Pocket.Applications

/-! Gateway handlers. -/

namespace Pocketdex

/-- The stored row of a gateway. -/
structure Gateway where
  id : String
  accountId : String
  stakeAmount : Int
  stakeDenom : String
  stakeStatus : StakeStatus
  unstakingBeginBlockId : Option ℕ := none
  unstakingEndHeight : Option Int := none
  unstakingEndBlockId : Option Int := none
  deriving DecidableEq, Repr

/-- A program over the gateway rows that are open at the current height. -/
abbrev GatewayProgram := Program String String Gateway

/-- The row of a gateway that must be stored. -/
def getGateway (id message : String) : GatewayProgram Gateway := do
  match ← Program.read id with
  | some gateway => return gateway
  | none => Program.fail s!"{message} {id}"

/-- Staking overwrites the row. -/
def _handleGatewayMsgStake (decoded : MsgStakeGateway) : GatewayProgram Unit := do
  let stake ← Program.lift (match decoded.stake with
    | some stake => .ok stake
    | none => .error "[handleGatewayMsgStake] stake not provided in msg")
  let stakeAmount ← Program.lift (bigInt stake.amount)
  Program.write decoded.address {
    id := decoded.address
    accountId := decoded.address
    stakeAmount := stakeAmount
    stakeDenom := stake.denom
    stakeStatus := .staked }

/-- An unstake message starts the unstaking. -/
def _handleGatewayMsgUnstake (msg : CosmosMessage) (decoded : MsgUnstakeGateway) :
    GatewayProgram Unit := do
  let gateway ← getGateway decoded.address
    "[handleGatewayMsgUnstake] gateway not found with address:"
  Program.write gateway.id { gateway with
    stakeStatus := .unstaking
    unstakingBeginBlockId := some (getBlockId msg.height) }

/-- The older event of a finished unstake, which only carries the whole gateway. -/
def _handleGatewayUnstakeEvent (event : CosmosEvent) : GatewayProgram Unit := do
  let gatewayStringified ← Program.lift
    (match event.attributes.find? fun entry => entry.key = "gateway" with
      | some entry =>
        if entry.value = "" then .error "[handleGatewayUnstakeEvent] gateway not provided in event"
        else .ok entry.value
      | none => .error "[handleGatewayUnstakeEvent] gateway not provided in event")
  let gatewayAddress ← Program.lift ((readJsonAddress gatewayStringified).bind
    (requireAddress · "[handleGatewayUnstakeEvent] address not provided in gateway event"))
  let gateway ← getGateway gatewayAddress
    "[handleGatewayMsgUnstake] gateway not found with address:"
  Program.write gateway.id { gateway with
    unstakingEndBlockId := some (getBlockId event.height)
    stakeStatus := .unstaked
    stakeAmount := 0 }

/-- The heights and the gateway of an unbonding event, all of which must be present. -/
def readGatewayUnbonding (handler : String) (attributes : List Attribute) :
    Except String (UnbondingHeights × String) := do
  let gatewayAddress ← readAddress "gateway_address" "gateway" none attributes
  let heights ← readUnbondingHeights handler "unstakingEndHeight" attributes
  let gatewayAddress ← requireAddress gatewayAddress
    s!"[{handler}] gatewayAddress not found in event"
  return (heights, gatewayAddress)

/-- An unbonding that begins notes the height it ends at. -/
def _handleEventGatewayUnbondingBegin (event : CosmosEvent) : GatewayProgram Unit := do
  let (heights, gatewayAddress) ← Program.lift
    (readGatewayUnbonding "handleEventGatewayUnbondingBegin" event.attributes)
  let gateway ← getGateway gatewayAddress
    "[handleEventGatewayUnbondingBegin] gateway not found for address"
  Program.write gateway.id { gateway with unstakingEndHeight := some heights.unstakingEndHeight }

/-- An unbonding that ends leaves no stake. -/
def _handleEventGatewayUnbondingEnd (event : CosmosEvent) : GatewayProgram Unit := do
  let (heights, gatewayAddress) ← Program.lift
    (readGatewayUnbonding "handleEventGatewayUnbondingEnd" event.attributes)
  let gateway ← getGateway gatewayAddress
    "[handleEventGatewayUnbondingEnd] gateway not found for address"
  Program.write gateway.id { gateway with
    unstakingEndBlockId := some heights.unstakingEndHeight
    stakeStatus := .unstaked
    stakeAmount := 0 }

end Pocketdex
