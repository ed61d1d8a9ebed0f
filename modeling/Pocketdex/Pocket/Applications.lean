import Pocketdex.Base.Program
import Pocketdex.Utils.Db
import Pocketdex.Utils.Ids
import Pocketdex.Utils.Primitives

/-! Application handlers, and the reconciliation of application rows with the chain. -/

namespace Pocketdex

/-- The stake state of an application, gateway or supplier. -/
inductive StakeStatus where
  | staked
  | unstaking
  | unstaked
  deriving DecidableEq, Repr

/-- Why an application is unbonded. -/
inductive ApplicationUnbondingReason where
  | elective
  | belowMinimumStake
  | transfer
  | migration
  deriving DecidableEq, Repr

/-- The stored row of an application. -/
structure Application where
  id : String
  accountId : String
  stakeAmount : Int
  stakeDenom : String
  stakeStatus : StakeStatus
  unstakingBeginBlockId : Option ℕ := none
  unstakingEndHeight : Option Int := none
  unstakingReason : Option ApplicationUnbondingReason := none
  unstakingEndBlockId : Option ℕ := none
  transferredFromAtId : Option ℕ := none
  sourceApplicationId : Option String := none
  destinationApplicationId : Option String := none
  transferEndBlockId : Option ℕ := none
  transferringToId : Option String := none
  transferEndHeight : Option Int := none
  deriving DecidableEq, Repr

/-- A program over the application rows that are open at the current height. -/
abbrev ApplicationProgram := Program String String Application

/-- A service listed by a stake message. -/
structure MsgServiceProps where
  id : String
  serviceId : String
  msgId : String
  deriving DecidableEq, Repr

/-- A service an application is configured for. -/
structure ApplicationServiceProps where
  id : String
  serviceId : String
  applicationId : String
  deriving DecidableEq, Repr

/-- The record of a stake message. -/
structure MsgStakeApplicationProps where
  id : String
  transactionId : String
  blockId : ℕ
  applicationId : String
  messageId : String
  stakeAmount : Int
  stakeDenom : String
  deriving DecidableEq, Repr

/-- The record of a Morse claim, without the keys and signatures it carries along. -/
structure MsgClaimMorseApplicationProps where
  id : String
  transactionId : String
  blockId : ℕ
  applicationId : String
  messageId : String
  stakeAmount : Int
  stakeDenom : String
  balanceAmount : Int
  balanceDenom : String
  shannonDestAddress : String
  shannonSigningAddress : String
  deriving DecidableEq, Repr

/-- The number an unbonding reason is decoded to. -/
def applicationUnbondingReasonFromJSON (object : String) : Int :=
  if object = "APPLICATION_UNBONDING_REASON_ELECTIVE" then 0
  else if object = "APPLICATION_UNBONDING_REASON_BELOW_MIN_STAKE" then 1
  else if object = "APPLICATION_UNBONDING_REASON_MIGRATION" then 2
  else -1

/-- The stored reason behind a decoded number. -/
def getAppUnbondingReasonFromSDK (item : Int) : Except String ApplicationUnbondingReason :=
  if item = 0 then .ok .elective
  else if item = 1 then .ok .belowMinimumStake
  else if item = 2 then .ok .migration
  else .error s!"Unknown ApplicationUnbondingReason={item}"

/-- A height written with or without quotes. -/
def readHeight (value : String) : Except String Int := bigInt (replaceQuotes value)

/-- The address of the entity a JSON attribute holds. -/
def readJsonAddress (value : String) : Except String (Option String) := do
  let entity ← parseJson value
  match ← property entity "address" with
  | some (.string address) => return some address
  | none => return none
  | some .null => return none
  | some _ => .error "address is not a text"

/-- The address found in attributes that hold it flat or inside a JSON entity. -/
def readAddress (flatKey jsonKey : String) (default : Option String)
    (attributes : List Attribute) : Except String (Option String) :=
  attributes.foldlM (fun address entry =>
    if entry.key = flatKey then .ok (some (replaceQuotes entry.value))
    else if entry.key = jsonKey then readJsonAddress entry.value
    else .ok address) default

/-- An address that is present and not empty. -/
def requireAddress (address : Option String) (message : String) : Except String String :=
  match address with
  | none => .error message
  | some text => if text = "" then .error message else .ok text

/-- The row of an application that must be stored. -/
def getApplication (id message : String) : ApplicationProgram Application := do
  match ← Program.read id with
  | some application => return application
  | none => Program.fail s!"{message} {id}"

/-- Storing applications one after the other. -/
def saveApplications : List Application → ApplicationProgram Unit
  | [] => return ()
  | application :: rest => do
    Program.write application.id application
    saveApplications rest

/-- Handling a list of data: all rows are read and updated, and then stored together. -/
def handleAll {δ : Type} (handleOne : δ → ApplicationProgram (List Application)) (data : List δ) :
    ApplicationProgram Unit := do
  let applications ← data.mapM handleOne
  saveApplications applications.flatten

/-- Staking overwrites the row, keeping what it says about a pending transfer. -/
def _stakeApplication (address msgId : String) (services : List ApplicationServiceConfig)
    (stakeAmount : Int) (stakeDenom : String) :
    ApplicationProgram (Application × List MsgServiceProps × List ApplicationServiceProps) := do
  let prevApp ← Program.read address
  -- Besides a pending transfer, nothing of the application before is kept.
  let application : Application := {
    id := address
    accountId := address
    stakeAmount := stakeAmount
    stakeDenom := stakeDenom
    stakeStatus := .staked
    transferringToId := prevApp.bind Application.transferringToId
    transferEndHeight := prevApp.bind Application.transferEndHeight }
  return (application,
    services.map fun service =>
      ⟨getMsgStakeServiceId msgId service.serviceId, service.serviceId, msgId⟩,
    services.map fun service =>
      ⟨getStakeServiceId address service.serviceId, service.serviceId, address⟩)

/-- The amount of an optional coin, where an absent or empty one counts as zero. -/
def stakeAmountOf (stake : Option Coin) : Except String Int :=
  match stake with
  | none => .ok 0
  | some coin => if coin.amount = "" then .ok 0 else bigInt coin.amount

/-- The rows of one stake message. -/
def _handleAppMsgStake (msg : CosmosMessage) (decoded : MsgStakeApplication) :
    ApplicationProgram (MsgStakeApplicationProps × Application × List MsgServiceProps ×
      List ApplicationServiceProps) := do
  let msgId := messageId msg
  let stakeAmount ← Program.lift (stakeAmountOf decoded.stake)
  let stakeDenom := (decoded.stake.map Coin.denom).getD ""
  let rows ← _stakeApplication decoded.address msgId decoded.services stakeAmount stakeDenom
  return (⟨msgId, msg.tx.hash, getBlockId msg.height, decoded.address, msgId, stakeAmount,
    stakeDenom⟩, rows)

/-- The coin an attribute of the claim events of a transaction carries, the last one found. -/
def claimedCoin (key : String) (events : List TxEvent) : Except String (Option Coin) :=
  (events.filter fun event => event.type = .morseApplicationClaimed).foldlM
    (fun coin event => readAttribute key (fun value => (getDenomAndAmount value).map some) coin
      event.attributes) none

/-- A coin that must have been found. -/
def requireCoin (coin : Option Coin) (message : String) : Except String Coin :=
  match coin with
  | some coin => .ok coin
  | none => .error message

/-- The rows of one Morse claim, whose stake is added to the stored one. -/
def _handleMsgClaimMorseApplication (msg : CosmosMessage) (decoded : MsgClaimMorseApplication) :
    ApplicationProgram (MsgClaimMorseApplicationProps × Application × List MsgServiceProps ×
      List ApplicationServiceProps) := do
  let msgId := messageId msg
  let stakeCoin ← Program.lift ((claimedCoin "claimed_application_stake" msg.tx.events).bind
    (requireCoin · "[handleMsgClaimMorseApplication] stake coin not found in event"))
  let balanceCoin ← Program.lift ((claimedCoin "claimed_balance" msg.tx.events).bind
    (requireCoin · "[handleMsgClaimMorseApplication] balance coin not found in event"))
  let app ← Program.read decoded.shannonDestAddress
  let stakeAmount ← Program.lift (bigInt stakeCoin.amount)
  let balanceAmount ← Program.lift (bigInt balanceCoin.amount)
  let services ← Program.lift (match decoded.serviceConfig with
    | some service => .ok [service]
    | none => .error "Cannot destructure property serviceId of undefined")
  -- A claim adds to the stake that the application has.
  let rows ← _stakeApplication decoded.shannonDestAddress msgId services
    (stakeAmount + (app.map Application.stakeAmount).getD 0) stakeCoin.denom
  return (⟨msgId, msg.tx.hash, getBlockId msg.height, decoded.shannonDestAddress, msgId,
    stakeAmount, stakeCoin.denom, balanceAmount, balanceCoin.denom, decoded.shannonDestAddress,
    decoded.shannonSigningAddress⟩, rows)

/-- The records of a list of stake messages or claims, besides the application rows. -/
structure StakeDocs (μ : Type) where
  msgs : List μ
  msgServices : List MsgServiceProps
  services : List ApplicationServiceProps

/-- The message records of a call, handed to a bulk write that removes by the block's id. -/
def StakeDocs.msgDocs {μ : Type} (blockIdOf : μ → ℕ) (docs : StakeDocs μ) : List (Doc μ) :=
  docs.msgs.map fun record => ⟨record, some (blockIdOf record), none⟩

/-- The services of the messages, handed to a bulk write that removes by the block range. -/
def StakeDocs.msgServiceDocs {μ : Type} (docs : StakeDocs μ) : List (Doc MsgServiceProps) :=
  docs.msgServices.map fun record => ⟨record, none, none⟩

/-- Handling stake messages or claims: their rows are collected, and the applications stored. -/
def collectStakes {δ μ : Type} (handleOne : δ → ApplicationProgram (μ × Application ×
    List MsgServiceProps × List ApplicationServiceProps)) (messages : List δ) :
    ApplicationProgram (StakeDocs μ) := do
  let rows ← messages.mapM handleOne
  saveApplications (rows.map fun row => row.2.1)
  return ⟨rows.map fun row => row.1, rows.flatMap fun row => row.2.2.1,
    rows.flatMap fun row => row.2.2.2⟩

/-- Handling stake messages. -/
def handleAppMsgStake (messages : List (CosmosMessage × MsgStakeApplication)) :
    ApplicationProgram (StakeDocs MsgStakeApplicationProps) :=
  collectStakes (fun (msg, decoded) => _handleAppMsgStake msg decoded) messages

/-- Handling Morse claims. -/
def handleMsgClaimMorseApplication (messages : List (CosmosMessage × MsgClaimMorseApplication)) :
    ApplicationProgram (StakeDocs MsgClaimMorseApplicationProps) :=
  collectStakes (fun (msg, decoded) => _handleMsgClaimMorseApplication msg decoded) messages

/-- An unstake message only notes the block it was received in. -/
def _handleUnstakeApplicationMsg (msg : CosmosMessage) (decoded : MsgUnstakeApplication) :
    ApplicationProgram (List Application) := do
  let application ← getApplication decoded.address
    "[handleUnstakeApplicationMsg] application not found for address"
  return [{ application with unstakingBeginBlockId := some (getBlockId msg.height) }]

/-- A transfer message notes the destination. -/
def _handleTransferApplicationMsg (decoded : MsgTransferApplication) :
    ApplicationProgram (List Application) := do
  let application ← getApplication decoded.sourceAddress
    "[handleTransferApplicationMsg] source application not found for address"
  return [{ application with transferringToId := some decoded.destinationAddress }]

/-- A transfer that begins notes the height it ends at, for the source its message names. -/
def _handleTransferApplicationBeginEvent (event : CosmosEvent) :
    ApplicationProgram (List Application) := do
  let transferEndHeight ← Program.lift
    (match event.attributes.find? fun entry => entry.key = "transfer_end_height" with
      | some entry =>
        if entry.value = "" then
          .error "[handleTransferApplicationBeginEvent] transferEndHeight not found"
        else .ok entry.value
      | none => .error "[handleTransferApplicationBeginEvent] transferEndHeight not found")
  let sourceAddress ← Program.lift (match event.msg with
    | none => .error "Cannot read properties of undefined (reading msg)"
    | some msg => match msg.decodedMsg.get "sourceAddress" with
      | some sourceAddress => .ok sourceAddress
      | none => .error
        "[handleTransferApplicationBeginEvent] application not found for address undefined")
  let application ← getApplication sourceAddress
    "[handleTransferApplicationBeginEvent] application not found for address"
  let height ← Program.lift (readHeight transferEndHeight)
  return [{ application with transferEndHeight := some height }]

/-- A transfer that ends closes the source's transfer and creates or updates the destination. -/
def _handleTransferApplicationEndEvent (event : CosmosEvent) :
    ApplicationProgram (List Application) := do
  let sourceAddress ← Program.lift (readAttribute "source_address"
    (fun value => .ok (some (replaceQuotes value))) none event.attributes)
  let destinationAppAddress ← Program.lift (readAddress "destination_address"
    "destination_application" none event.attributes)
  let sourceAddress ← Program.lift (requireAddress sourceAddress
    "[handleTransferApplicationEndEvent] event.event.attributes not found")
  let sourceAddress := replaceQuotes sourceAddress
  let destinationAppAddress ← Program.lift (requireAddress destinationAppAddress
    "[handleTransferApplicationMsg] destination application not in event")
  let destinationAppAddress := replaceQuotes destinationAppAddress
  let sourceApplication ← Program.read sourceAddress
  let destinationApplication ← Program.read destinationAppAddress
  match sourceApplication with
  | none =>
    Program.fail
      s!"[handleTransferApplicationMsg] source application not found for address {sourceAddress}"
  | some sourceApplication =>
    let blockId := getBlockId event.height
    let prevUnstakingEndBlockId := sourceApplication.unstakingEndBlockId
    let destinationApplication := destinationApplication.getD {
      id := destinationAppAddress
      accountId := destinationAppAddress
      stakeAmount := sourceApplication.stakeAmount
      stakeDenom := sourceApplication.stakeDenom
      stakeStatus := .staked }
    -- The source's stakeStatus is left to reconciliation.
    return [
      { sourceApplication with
        transferringToId := none
        transferEndHeight := none
        transferEndBlockId := some blockId
        unstakingReason := some .transfer
        unstakingEndBlockId := some blockId
        destinationApplicationId := some destinationAppAddress },
      { destinationApplication with
        sourceApplicationId := some sourceAddress
        transferredFromAtId := some blockId
        unstakingBeginBlockId := sourceApplication.unstakingBeginBlockId
        unstakingEndBlockId :=
          destinationApplication.unstakingEndBlockId.orElse fun _ => prevUnstakingEndBlockId }]

/-- A transfer that fails leaves the source as it was before the transfer began. -/
def _handleTransferApplicationErrorEvent (event : CosmosEvent) :
    ApplicationProgram (List Application) := do
  let sourceAddress ← Program.lift (readAttribute "source_address"
    (fun value => .ok (some (replaceQuotes value))) none event.attributes)
  let destinationAddress ← Program.lift (readAddress "destination_address"
    "destination_application" none event.attributes)
  let error ← Program.lift (readAttribute "error"
    (fun value => .ok (some (replaceQuotes value))) none event.attributes)
  let sourceAddress ← Program.lift (requireAddress sourceAddress
    "[handleTransferApplicationEndEvent] source_address not found in event")
  let _ ← Program.lift (requireAddress destinationAddress
    "[handleTransferApplicationErrorEvent] destination_address not found in event")
  let _ ← Program.lift (requireAddress error
    "[handleTransferApplicationErrorEvent] error not found in event")
  let application ← getApplication sourceAddress
    "[handleTransferApplicationErrorEvent] application not found for address"
  return [{ application with transferringToId := none, transferEndHeight := none }]

/-- The numbers both unbonding events must carry. -/
structure UnbondingHeights where
  unstakingEndHeight : Int
  sessionEndHeight : Int

/-- The heights of an unbonding event, neither of which may be absent or zero. -/
def readUnbondingHeights (handler unbonding : String) (attributes : List Attribute) :
    Except String UnbondingHeights := do
  let unstakingEndHeight ← readAttribute "unbonding_end_height" readHeight 0 attributes
  let sessionEndHeight ← readAttribute "session_end_height" readHeight 0 attributes
  if unstakingEndHeight = 0 then .error s!"[{handler}] {unbonding} not found in event"
  else if sessionEndHeight = 0 then .error s!"[{handler}] sessionEndHeight not found in event"
  else return ⟨unstakingEndHeight, sessionEndHeight⟩

/-- The decoded reason of an unbonding event, which must be present. -/
def readUnbondingReason (handler : String) (attributes : List Attribute) : Except String Int := do
  let reason ← readAttribute "reason"
    (fun value => .ok (some (applicationUnbondingReasonFromJSON (replaceQuotes value)))) none
    attributes
  match reason with
  | some reason => return reason
  | none => .error s!"[{handler}] reason not found in event"

/-- The application of an unbonding that begins: its message's, or else the attributes'. -/
def unbondingBeginAddress (event : CosmosEvent) : Except String (Option String) :=
  match event.msg with
  | some msg => .ok (msg.decodedMsg.get "address")
  | none => readAddress "application_address" "application" (some "") event.attributes

/-- An unbonding that begins notes its reason and the height it ends at. -/
def _handleApplicationUnbondingBeginEvent (event : CosmosEvent) :
    ApplicationProgram (List Application) := do
  let address ← Program.lift (unbondingBeginAddress event)
  let heights ← Program.lift (readUnbondingHeights "handleApplicationUnbondingBeginEvent"
    "unbondingEndHeight" event.attributes)
  let reason ← Program.lift (readUnbondingReason "handleApplicationUnbondingBeginEvent"
    event.attributes)
  let address ← Program.lift (requireAddress address
    "[handleApplicationUnbondingBeginEvent] address not found in event")
  let application ← getApplication address
    "[handleApplicationUnbondingBeginEvent] application not found for operator address"
  let unstakingReason ← Program.lift (getAppUnbondingReasonFromSDK reason)
  return [{ application with
    unstakingEndHeight := some heights.unstakingEndHeight
    unstakingReason := some unstakingReason }]

/-- An unbonding that ends notes the block, and leaves the stakeStatus to reconciliation. -/
def _handleApplicationUnbondingEndEvent (event : CosmosEvent) :
    ApplicationProgram (List Application) := do
  let applicationAddress ← Program.lift (readAddress "application_address" "application" none
    event.attributes)
  let _ ← Program.lift (readUnbondingHeights "handleApplicationUnbondingEndEvent"
    "unbondingEndHeight" event.attributes)
  let _ ← Program.lift (readUnbondingReason "handleApplicationUnbondingEndEvent" event.attributes)
  let applicationAddress ← Program.lift (requireAddress applicationAddress
    "[handleApplicationUnbondingEndEvent] applicationAddress not found in event")
  let application ← getApplication applicationAddress
    "[handleApplicationUnbondingEndEvent] application not found for address"
  return [{ application with unstakingEndBlockId := some (getBlockId event.height) }]

/-- Handling unstake messages. -/
def handleUnstakeApplicationMsg (messages : List (CosmosMessage × MsgUnstakeApplication)) :
    ApplicationProgram Unit :=
  handleAll (fun (msg, decoded) => _handleUnstakeApplicationMsg msg decoded) messages

/-- Handling transfer messages. -/
def handleTransferApplicationMsg (messages : List MsgTransferApplication) :
    ApplicationProgram Unit :=
  handleAll _handleTransferApplicationMsg messages

/-- Handling transfers that begin. -/
def handleTransferApplicationBeginEvent (events : List CosmosEvent) : ApplicationProgram Unit :=
  handleAll _handleTransferApplicationBeginEvent events

/-- Handling transfers that end. -/
def handleTransferApplicationEndEvent (events : List CosmosEvent) : ApplicationProgram Unit :=
  handleAll _handleTransferApplicationEndEvent events

/-- Handling transfers that fail. -/
def handleTransferApplicationErrorEvent (events : List CosmosEvent) : ApplicationProgram Unit :=
  handleAll _handleTransferApplicationErrorEvent events

/-- Handling unbondings that begin. -/
def handleApplicationUnbondingBeginEvent (events : List CosmosEvent) : ApplicationProgram Unit :=
  handleAll _handleApplicationUnbondingBeginEvent events

/-- Handling unbondings that end. -/
def handleApplicationUnbondingEndEvent (events : List CosmosEvent) : ApplicationProgram Unit :=
  handleAll _handleApplicationUnbondingEndEvent events

/-- An application as the chain's query returns it. -/
structure ChainApplication where
  address : String
  stake : Option Coin
  unstakeSessionEndHeight : ℕ
  deriving DecidableEq, Repr

/-- The row of a stored application brought in line with the chain. -/
def syncApplication (app : Application) (ca : ChainApplication) : Except String Application := do
  let stakeAmount ← match ca.stake with
    | some coin => bigInt coin.amount
    | none => .ok 0
  return { app with
    stakeAmount := stakeAmount
    stakeDenom := (ca.stake.map Coin.denom).getD app.stakeDenom
    stakeStatus := if ca.unstakeSessionEndHeight > 0 then .unstaking else .staked }

/-- The stored applications the chain returned, brought in line with it. -/
def syncReturned (table : Dict String Application) :
    List ChainApplication → Except String (List Application)
  | [] => .ok []
  | ca :: rest => do
    match table.get ca.address with
    | none => syncReturned table rest
    | some app => do
      let app ← syncApplication app ca
      let later ← syncReturned table rest
      return app :: later

/-- The stored applications with a stake status. -/
def fetchAllApplicationByStatus (table : Dict String Application) (status : StakeStatus) :
    List Application :=
  table.values.filter fun app => app.stakeStatus = status

/-- Absent applications are closed out when they were unstaking, and otherwise left alone. -/
def closeOutAbsent (seen : List String) (tracked : List Application) : List Application :=
  (tracked.filter fun app => app.id ∉ seen ∧ app.stakeStatus = .unstaking).map fun app =>
    { app with stakeStatus := .unstaked, stakeAmount := 0 }

/-- Every stored application is compared with the chain's set at the current height. -/
def reconcileApplications (chainApps : List ChainApplication) (table : Dict String Application) :
    Except String (Dict String Application) := do
  let returned ← syncReturned table chainApps
  let seen := chainApps.map ChainApplication.address
  let tracked := fetchAllApplicationByStatus table .staked ++
    fetchAllApplicationByStatus table .unstaking
  let toUpsert := returned ++ closeOutAbsent seen tracked
  return toUpsert.foldl (fun table app => table.set app.id app) table

end Pocketdex
