import Pocketdex.Bank.BalanceChange
import Pocketdex.Pocket.Applications
import Pocketdex.Pocket.Settlement

/-! Supplier handlers: what each message and event makes of a supplier and its service configs. -/

namespace Pocketdex

/-- Why a supplier is unbonded. -/
inductive SupplierUnbondingReason where
  | unspecified
  | voluntary
  | belowMinStake
  | migration
  deriving DecidableEq, Repr

/-- Who signed the claim of a Morse supplier. -/
inductive MorseSupplierClaimSignerType where
  | unspecified
  | custodialSignedByNodeAddr
  | nonCustodialSignedByNodeAddr
  | nonCustodialSignedByOwner
  deriving DecidableEq, Repr

/-- The stored row of a supplier. -/
structure Supplier where
  id : String
  operatorId : String
  ownerId : String
  stakeAmount : Int
  stakeDenom : String
  stakeStatus : StakeStatus
  unstakingEndHeight : Option Int := none
  unstakingEndBlockId : Option Int := none
  unstakingBeginBlockId : Option ℕ := none
  unstakingReason : Option SupplierUnbondingReason := none
  deriving DecidableEq, Repr

/-- The share of a service's revenue, as it is stored. -/
structure SupplierRevShare where
  address : String
  revSharePercentage : String
  deriving DecidableEq, Repr

/-- The stored row of a service a supplier is configured for. -/
structure SupplierServiceConfigProps where
  id : String
  serviceId : String
  supplierId : String
  endpoints : List SupplierEndpoint
  revShare : List SupplierRevShare
  domains : List String
  activatedAtId : Option Int := none
  activatedEventId : Option String := none
  deriving DecidableEq, Repr

structure MsgStakeSupplierProps where
  id : String
  blockId : ℕ
  stakeAmount : Int
  stakeDenom : String
  transactionId : String
  ownerId : String
  signerId : String
  supplierId : String
  messageId : String
  deriving DecidableEq, Repr

structure MsgClaimMorseSupplierProps where
  id : String
  supplierId : String
  shannonSigningAddress : String
  shannonOwnerAddress : String
  shannonOperatorAddress : String
  morsePublicKey : String
  morseSrcAddress : String
  morseSignature : String
  stakeAmount : Int
  stakeDenom : String
  balanceAmount : Int
  balanceDenom : String
  blockId : ℕ
  transactionId : String
  messageId : String
  morseNodeAddress : String
  signerIsOutputAddress : Bool
  claimSignerType : Option MorseSupplierClaimSignerType
  deriving DecidableEq, Repr

structure MsgUnstakeSupplierProps where
  id : String
  signerId : String
  supplierId : String
  blockId : ℕ
  transactionId : String
  messageId : String
  deriving DecidableEq, Repr

structure EventSupplierServiceConfigActivatedProps where
  id : String
  eventId : String
  blockId : ℕ
  deriving DecidableEq, Repr

/-- The record of an unbonding that begins or ends. -/
structure EventSupplierUnbondingProps where
  id : String
  unbondingEndHeight : Int
  sessionEndHeight : Int
  supplierId : String
  blockId : ℕ
  reason : SupplierUnbondingReason
  eventId : String
  deriving DecidableEq, Repr

structure EventSupplierSlashedProps where
  id : String
  supplierId : String
  applicationId : Option String
  serviceId : Option String
  sessionId : String
  sessionEndHeight : Int
  sessionStartHeight : Int
  blockId : ℕ
  eventId : String
  proofMissingPenalty : Int
  proofMissingPenaltyDenom : String
  previousStakeAmount : Int
  afterStakeAmount : Int
  proofValidationStatus : Option Settlement.ClaimProofStatus
  deriving DecidableEq, Repr

/-- What a block knows of an operator: its supplier, and its service configs by their ids. -/
structure SupplierRecord where
  supplier : Option Supplier
  services : Dict String SupplierServiceConfigProps
  deriving DecidableEq

/-- A record without a supplier and without services. -/
def SupplierRecord.blank : SupplierRecord := ⟨none, Dict.empty⟩

/-- A program over the records of a block, by operator. -/
abbrev SupplierProgram := Program String String SupplierRecord

/-- What the handlers take from outside: how the node spells event kinds, the address of a public
key, the host of an URL, and the arithmetic of decimal coins. -/
structure Externals where
  kindText : CosmosEventKind → String
  pubKeyToAddress : List UInt8 → String
  hostname : String → Option String
  cosmosDecimalToBigInt : String → Int

/-- The number an unbonding reason is decoded to. -/
def supplierUnbondingReasonFromJSON (object : String) : Int :=
  if object = "SUPPLIER_UNBONDING_REASON_UNSPECIFIED" then 0
  else if object = "SUPPLIER_UNBONDING_REASON_VOLUNTARY" then 1
  else if object = "SUPPLIER_UNBONDING_REASON_BELOW_MIN_STAKE" then 2
  else if object = "SUPPLIER_UNBONDING_REASON_MIGRATION" then 3
  else -1

/-- The stored reason behind a decoded number. -/
def getSupplierUnbondingReasonFromSDK (item : Int) : Except String SupplierUnbondingReason :=
  if item = 0 then .ok .unspecified
  else if item = 1 then .ok .voluntary
  else if item = 2 then .ok .belowMinStake
  else if item = 3 then .ok .migration
  else .error s!"Unknown SupplierUnbondingReason={item}"

/-- The signer type behind its name. -/
def getMorseSupplierClaimSignerType (item : String) : Except String MorseSupplierClaimSignerType :=
  if item = "MORSE_SUPPLIER_CLAIM_SIGNER_TYPE_UNSPECIFIED" then .ok .unspecified
  else if item = "MORSE_SUPPLIER_CLAIM_SIGNER_TYPE_CUSTODIAL_SIGNED_BY_NODE_ADDR" then
    .ok .custodialSignedByNodeAddr
  else if item = "MORSE_SUPPLIER_CLAIM_SIGNER_TYPE_NON_CUSTODIAL_SIGNED_BY_NODE_ADDR" then
    .ok .nonCustodialSignedByNodeAddr
  else if item = "MORSE_SUPPLIER_CLAIM_SIGNER_TYPE_NON_CUSTODIAL_SIGNED_BY_OWNER" then
    .ok .nonCustodialSignedByOwner
  else .error s!"Unknown MorseSupplierClaimSignerType={item}"

/-- The operator of the supplier a JSON attribute holds. -/
def readJsonOperator (value : String) : Except String (Option String) := do
  let supplier ← parseJson value
  match ← property supplier "operator_address" with
  | some (.string address) => return some address
  | none => return none
  | some .null => return none
  | some _ => .error "operator_address is not a text"

/-- The operator an event names flat or inside a JSON supplier, the last one found. -/
def readOperator (attributes : List Attribute) : Except String (Option String) :=
  attributes.foldlM (fun operatorAddress entry =>
    if entry.key = "supplier" then readJsonOperator entry.value
    else if entry.key = "operator_address" then .ok (some (replaceQuotes entry.value))
    else .ok operatorAddress) none

/-- The attributes of an unbonding event. -/
structure SupplierUnbonding where
  unbondingHeight : Option Int
  sessionEndHeight : Option Int
  reason : Option Int
  operatorAddress : String

/-- The attributes of an unbonding event, which must name an operator. -/
def readSupplierUnbonding (handler : String) (attributes : List Attribute) :
    Except String SupplierUnbonding := do
  let unbondingHeight ← readAttribute "unbonding_end_height"
    (fun value => (readHeight value).map some) none attributes
  let sessionEndHeight ← readAttribute "session_end_height"
    (fun value => (readHeight value).map some) none attributes
  let reason ← readAttribute "reason"
    (fun value => .ok (some (supplierUnbondingReasonFromJSON (replaceQuotes value)))) none attributes
  let operatorAddress ← readOperator attributes
  let operatorAddress ← requireAddress operatorAddress
    s!"[{handler}] operatorAddress not provided in event"
  return ⟨unbondingHeight, sessionEndHeight, reason, operatorAddress⟩

/-- A number that counts as given: one that is present and not zero. -/
def given (number : Option Int) : Option Int := number.filter fun value => value ≠ 0

/-- The reason that replaces the stored one, if the event gives one. -/
def givenReason (reason : Option Int) : Except String (Option SupplierUnbondingReason) :=
  match given reason with
  | some number => (getSupplierUnbondingReasonFromSDK number).map some
  | none => .ok none

/-- The reason that is recorded with an event. -/
def recordedReason (reason : Option Int) : Except String SupplierUnbondingReason :=
  match reason with
  | some number => getSupplierUnbondingReasonFromSDK number
  | none => .ok .unspecified

/-- The record of an unbonding event. -/
def unbondingProps (eventId : String) (height : ℕ) (unbonding : SupplierUnbonding)
    (reason : SupplierUnbondingReason) : EventSupplierUnbondingProps where
  id := eventId
  unbondingEndHeight := unbonding.unbondingHeight.getD 0
  sessionEndHeight := unbonding.sessionEndHeight.getD 0
  supplierId := unbonding.operatorAddress
  blockId := getBlockId height
  reason := reason
  eventId := eventId

/-- The supplier of an operator, which must be known. -/
def getSupplier (operatorAddress message : String) : SupplierProgram (SupplierRecord × Supplier) := do
  match ← Program.read operatorAddress with
  | some entry =>
    match entry.supplier with
    | some supplier => return (entry, supplier)
    | none => Program.fail s!"{message} {operatorAddress}"
  | none => Program.fail s!"{message} {operatorAddress}"

/-- Putting a supplier in its own record, which must be there. -/
def setSupplier (supplier : Supplier) : SupplierProgram Unit := do
  match ← Program.read supplier.id with
  | some entry => Program.write supplier.id { entry with supplier := some supplier }
  | none => Program.fail "Cannot set properties of undefined (setting 'supplier')"

/-- The last two labels of a host. -/
def rootDomain (host : List Char) : String :=
  let parts := host.splitOnP fun char => char = '.'
  String.ofList (['.'].intercalate (parts.drop (parts.length - 2)))

/-- The rest of a text after a prefix. -/
def afterPrefix : List Char → List Char → Option (List Char)
  | [], text => some text
  | first :: rest, char :: text => if first = char then afterPrefix rest text else none
  | _ :: _, [] => none

/-- What stands for a host where an URL begins: the characters up to a slash or a colon. -/
def matchHost (text : List Char) : Option (List Char) :=
  let hostOf (text : List Char) : Option (List Char) :=
    match text.takeWhile fun char => char ≠ '/' ∧ char ≠ ':' with
    | [] => none
    | host => some host
  ((afterPrefix "https://".toList text).bind hostOf).or
    ((afterPrefix "http://".toList text).bind hostOf)

/-- The first host found in a text that is no URL. -/
def findHost : List Char → Option (List Char)
  | [] => none
  | char :: text => (matchHost (char :: text)).or (findHost text)

/-- The root domain of an endpoint. -/
def endpointDomain (externals : Externals) (url : String) : Option String :=
  match externals.hostname url with
  | some host => some (rootDomain host.toList)
  | none => (findHost url.toList).map rootDomain

/-- The configs a message leaves, and the ids it removes. -/
structure StakedServices where
  services : List SupplierServiceConfigProps
  servicesToRemove : List String

/-- The config of one service of a message. -/
def serviceConfig (externals : Externals) (operatorAddress : String)
    (raw : SupplierServiceConfig) : SupplierServiceConfigProps where
  id := getStakeServiceId operatorAddress raw.serviceId
  serviceId := raw.serviceId
  supplierId := operatorAddress
  endpoints := raw.endpoints
  revShare := raw.revShare.map fun share => ⟨share.address, toString share.revSharePercentage⟩
  domains := (raw.endpoints.filterMap fun endpoint =>
    endpointDomain externals endpoint.url).reverse.dedup.reverse

/-- The configs of a message's services: existing ids are compared with plain service ids. -/
def getServices (externals : Externals) (rawServices : List SupplierServiceConfig)
    (operatorAddress : String) (existingServicesId : List String) : StakedServices where
  services := rawServices.map (serviceConfig externals operatorAddress)
  servicesToRemove := existingServicesId.filter fun serviceId =>
    serviceId ∉ rawServices.map SupplierServiceConfig.serviceId

/-- What a stake or a Morse claim leads to. -/
structure Staking (μ : Type) where
  supplier : Supplier
  msg : μ
  staked : StakedServices

/-- The services a record knows. -/
def knownServices (entry : Option SupplierRecord) : Dict String SupplierServiceConfigProps :=
  (entry.map SupplierRecord.services).getD Dict.empty

/-- The supplier a record knows. -/
def knownSupplier (entry : Option SupplierRecord) : Option Supplier :=
  entry.bind SupplierRecord.supplier

/-- The supplier right after it staked. -/
def stakedSupplier (operatorAddress ownerAddress : String) (stakeAmount : Int)
    (stakeDenom : String) : Supplier where
  id := operatorAddress
  operatorId := operatorAddress
  ownerId := ownerAddress
  stakeAmount := stakeAmount
  stakeDenom := stakeDenom
  stakeStatus := .staked

/-- The stake of a message, or else the one its supplier has. -/
def stakeOf (decoded : MsgStakeSupplier) (previous : Option Supplier) :
    Except String (Int × String) :=
  match decoded.stake, previous with
  | some coin, _ => (bigInt coin.amount).map fun amount => (amount, coin.denom)
  | none, some supplier => .ok (supplier.stakeAmount, supplier.stakeDenom)
  | none, none =>
    .error s!"[handleSupplierStakeMsg] previous supplier not found for operator address {decoded.operatorAddress}"

/-- The record of a stake message. -/
def stakeSupplierProps (msg : CosmosMessage) (decoded : MsgStakeSupplier) (stakeAmount : Int)
    (stakeDenom : String) : MsgStakeSupplierProps where
  id := messageId msg
  blockId := getBlockId msg.height
  stakeAmount := stakeAmount
  stakeDenom := stakeDenom
  transactionId := msg.tx.hash
  ownerId := decoded.ownerAddress
  signerId := decoded.signer
  supplierId := decoded.operatorAddress
  messageId := messageId msg

/-- Staking builds the supplier anew. -/
def _handleSupplierStakeMsg (externals : Externals) (msg : CosmosMessage)
    (decoded : MsgStakeSupplier) : SupplierProgram (Staking MsgStakeSupplierProps) := do
  let entry ← Program.read decoded.operatorAddress
  let (stakeAmount, stakeDenom) ← Program.lift (stakeOf decoded (knownSupplier entry))
  return {
    supplier := stakedSupplier decoded.operatorAddress decoded.ownerAddress stakeAmount stakeDenom
    msg := stakeSupplierProps msg decoded stakeAmount stakeDenom
    staked := getServices externals decoded.services decoded.operatorAddress
      (knownServices entry).keys }

/-- What the claim events of a transaction leave in a variable, the last one found. -/
def claimedSupplierAttribute {α : Type} (key : String) (read : String → Except String α)
    (events : List TxEvent) : Except String (Option α) :=
  (events.filter fun event => event.type = .morseSupplierClaimed).foldlM
    (fun found event => readAttribute key (fun value => (read value).map some) found
      event.attributes) none

/-- The type of the signer, where it is given. -/
def claimSignerTypeOf (claimSignerType : Option String) :
    Except String (Option MorseSupplierClaimSignerType) :=
  match claimSignerType with
  | none => .ok none
  | some text => if text = "" then .ok none else (getMorseSupplierClaimSignerType text).map some

/-- The record of a Morse claim. -/
def claimSupplierProps (externals : Externals) (msg : CosmosMessage)
    (decoded : MsgClaimMorseSupplier) : Except String MsgClaimMorseSupplierProps := do
  let claimSignerType ← claimedSupplierAttribute "claim_signer_type"
    (fun value => .ok (replaceQuotes value)) msg.tx.events
  let balanceCoin ← claimedSupplierAttribute "claimed_balance" getDenomAndAmount msg.tx.events
  let stakeCoin ← claimedSupplierAttribute "claimed_supplier_stake" getDenomAndAmount msg.tx.events
  let stakeCoin ← requireCoin stakeCoin
    "[handleMsgClaimMorseSupplier] stake coin not found in event"
  let balanceCoin ← requireCoin balanceCoin
    "[handleMsgClaimMorseSupplier] balance coin not found in event"
  let stakeAmount ← bigInt stakeCoin.amount
  let balanceAmount ← bigInt balanceCoin.amount
  let claimSignerType ← claimSignerTypeOf claimSignerType
  return {
    id := messageId msg
    supplierId := decoded.shannonOperatorAddress
    shannonSigningAddress := decoded.shannonSigningAddress
    shannonOwnerAddress := decoded.shannonOwnerAddress
    shannonOperatorAddress := decoded.shannonOperatorAddress
    morsePublicKey := toHex decoded.morsePublicKey
    morseSrcAddress := externals.pubKeyToAddress decoded.morsePublicKey
    morseSignature := toHex decoded.morseSignature
    stakeAmount := stakeAmount
    stakeDenom := stakeCoin.denom
    balanceAmount := balanceAmount
    balanceDenom := balanceCoin.denom
    blockId := getBlockId msg.height
    transactionId := msg.tx.hash
    messageId := messageId msg
    morseNodeAddress := decoded.morseNodeAddress
    signerIsOutputAddress := decoded.signerIsOutputAddress
    claimSignerType := claimSignerType }

/-- A Morse claim builds the supplier anew, on top of the stake it has. -/
def _handleClaimSupplier (externals : Externals) (msg : CosmosMessage)
    (decoded : MsgClaimMorseSupplier) : SupplierProgram (Staking MsgClaimMorseSupplierProps) := do
  let props ← Program.lift (claimSupplierProps externals msg decoded)
  let entry ← Program.read decoded.shannonOperatorAddress
  let previous := ((knownSupplier entry).map Supplier.stakeAmount).getD 0
  return {
    supplier := stakedSupplier decoded.shannonOperatorAddress decoded.shannonOwnerAddress
      (props.stakeAmount + previous) props.stakeDenom
    msg := props
    staked := getServices externals decoded.services decoded.shannonOperatorAddress
      (knownServices entry).keys }

/-- The record of an unstake message. -/
def unstakeSupplierProps (msg : CosmosMessage) (decoded : MsgUnstakeSupplier) :
    MsgUnstakeSupplierProps where
  id := messageId msg
  signerId := decoded.signer
  supplierId := decoded.operatorAddress
  blockId := getBlockId msg.height
  transactionId := msg.tx.hash
  messageId := messageId msg

/-- A supplier that starts unstaking at a height. -/
def Supplier.beginUnstaking (height : ℕ) (supplier : Supplier) : Supplier :=
  { supplier with
    stakeStatus := .unstaking
    unstakingBeginBlockId := some (getBlockId height) }

/-- An unstake message starts the unstaking. -/
def _handleUnstakeSupplierMsg (msg : CosmosMessage) (decoded : MsgUnstakeSupplier) :
    SupplierProgram (Supplier × MsgUnstakeSupplierProps) := do
  let (entry, supplier) ← getSupplier decoded.operatorAddress
    "[handleUnstakeSupplierMsg] supplier not found for operator address"
  let unstaking := supplier.beginUnstaking msg.height
  -- The stored supplier is changed in place.
  Program.write decoded.operatorAddress { entry with supplier := some unstaking }
  return (unstaking, unstakeSupplierProps msg decoded)

/-- A supplier whose unbonding begins, with the height and reason that are given. -/
def Supplier.noteUnbonding (height : Option Int) (reason : Option SupplierUnbondingReason)
    (supplier : Supplier) : Supplier :=
  { supplier with
    unstakingEndHeight := (given height).or supplier.unstakingEndHeight
    unstakingReason := reason.or supplier.unstakingReason }

/-- An unbonding that begins notes its reason and the height it ends at. -/
def _handleSupplierUnbondingBeginEvent (externals : Externals) (event : CosmosEvent) :
    SupplierProgram (Supplier × EventSupplierUnbondingProps) := do
  let unbonding ← Program.lift
    (readSupplierUnbonding "handleSupplierUnbondingBeginEvent" event.attributes)
  let (_, supplier) ← getSupplier unbonding.operatorAddress
    "[handleSupplierUnbondingBeginEvent] supplier not found for operator address"
  let reason ← Program.lift (givenReason unbonding.reason)
  let recorded ← Program.lift (recordedReason unbonding.reason)
  let eventId := getEventId externals.kindText event
  return (supplier.noteUnbonding unbonding.unbondingHeight reason,
    unbondingProps eventId event.height unbonding recorded)

/-- The services an ended unbonding removes. -/
structure EndedUnbonding where
  supplier : Supplier
  servicesToRemove : List String
  unbondingEndEvent : EventSupplierUnbondingProps

/-- A supplier that holds nothing any more. -/
def Supplier.unstake (supplier : Supplier) : Supplier :=
  { supplier with stakeStatus := .unstaked, stakeAmount := 0 }

/-- A supplier whose unbonding ended, with the height and reason that are given. -/
def Supplier.endUnbonding (height : Option Int) (reason : Option SupplierUnbondingReason)
    (supplier : Supplier) : Supplier :=
  { supplier with
    unstakingEndBlockId := (given height).or supplier.unstakingEndBlockId
    unstakingReason := reason.or supplier.unstakingReason }

/-- An unbonding that ends leaves no stake and none of the services the block knows. -/
def _handleSupplierUnbondingEndEvent (externals : Externals) (event : CosmosEvent) :
    SupplierProgram EndedUnbonding := do
  let unbonding ← Program.lift
    (readSupplierUnbonding "handleSupplierUnbondingEndEvent" event.attributes)
  let (entry, supplier) ← getSupplier unbonding.operatorAddress
    "[handleSupplierUnbondingEndEvent] supplier not found for operator address"
  -- The stored supplier is changed in place.
  Program.write unbonding.operatorAddress { entry with supplier := some supplier.unstake }
  let reason ← Program.lift (givenReason unbonding.reason)
  let recorded ← Program.lift (recordedReason unbonding.reason)
  let eventId := getEventId externals.kindText event
  return {
    supplier := supplier.unstake.endUnbonding unbonding.unbondingHeight reason
    servicesToRemove := entry.services.keys
    unbondingEndEvent := unbondingProps eventId event.height unbonding recorded }

/-- The config of a service once an event activated it. -/
def SupplierServiceConfigProps.activate (height : Int) (eventId : String)
    (service : SupplierServiceConfigProps) : SupplierServiceConfigProps :=
  { service with activatedAtId := some height, activatedEventId := some eventId }

/-- Whether a config has been activated, at a height other than zero. -/
def SupplierServiceConfigProps.isActivated (service : SupplierServiceConfigProps) : Bool :=
  (given service.activatedAtId).isSome

/-- The configs an activation returns: all those of the operator that are not activated yet. -/
def activatedServices (height : Int) (eventId : String)
    (services : Dict String SupplierServiceConfigProps) : List SupplierServiceConfigProps :=
  (services.values.filter fun service => !service.isActivated).map
    (SupplierServiceConfigProps.activate height eventId)

/-- An activation: the event's service id is never read. -/
def _handleEventSupplierServiceConfigActivated (externals : Externals) (event : CosmosEvent) :
    SupplierProgram (List SupplierServiceConfigProps × EventSupplierServiceConfigActivatedProps) :=
    do
  let activationHeight ← Program.lift (readAttribute "activation_height" readHeight 0
    event.attributes)
  let operatorAddress ← Program.lift (readOperator event.attributes)
  let activationHeight ← Program.lift (if activationHeight = 0 then
    .error "[handleEventSupplierServiceConfigActivated] activation_height not found in event"
    else .ok activationHeight)
  let operatorAddress ← Program.lift (requireAddress operatorAddress
    "[handleEventSupplierServiceConfigActivated] operatorAddress not found in event")
  let entry ← Program.read operatorAddress
  let eventId := getEventId externals.kindText event
  let services := activatedServices activationHeight eventId (knownServices entry)
  let serviceConfigEvent := ⟨eventId, eventId, getBlockId event.height⟩
  match entry with
  | none => return (services, serviceConfigEvent)
  | some entry => do
    -- The stored configs are changed in place.
    Program.write operatorAddress { entry with
      services := Dict.storeAll SupplierServiceConfigProps.id services entry.services }
    return (services, serviceConfigEvent)

/-- The attributes of a slash. A penalty may be an object without an amount. -/
structure SlashedValues where
  operatorAddress : String
  application : Option String
  service : Option String
  session : String
  sessionStartHeight : Int
  sessionEndHeight : Int
  proofMissingPenalty : Option (Option Coin)
  proofValidationStatus : Option Settlement.ClaimProofStatus
  supplierStakeAfterSlash : Option Coin

/-- A penalty that is only checked to be a list of coins. -/
def checkPenalty (externals : Externals) (entry : Attribute) : Except String Unit := do
  let coins ← parseCoins externals.cosmosDecimalToBigInt (replaceQuotes entry.value)
  if coins.isEmpty then
    .error s!"[handleEventSupplierSlashed] event attribute key={entry.key} value={entry.value} is not a valid coin"
  else .ok ()

/-- The attributes of the older event, which do not tell the stake that is left. -/
def _getValuesOldEventSupplierSlashed (externals : Externals) (attributes : List Attribute) :
    Except String SlashedValues := do
  let slashingCoin ← readAttribute "slashing_amount"
    (fun value => (getDenomAndAmount value).map some) none attributes
  let _ ← (attributes.filter fun entry => entry.key = "proof_missing_penalty").mapM
    (checkPenalty externals)
  let operatorAddress ← Settlement.readAttributes
    ["supplier_operator_addr", "supplier_operator_address"]
    (fun entry => .ok (replaceQuotes entry.value)) "" attributes
  return {
    operatorAddress
    application := some ""
    service := some ""
    session := ""
    sessionStartHeight := 0
    sessionEndHeight := 0
    proofMissingPenalty := slashingCoin.map some
    proofValidationStatus := none
    supplierStakeAfterSlash := none }

/-- Whether a claim has a session header. -/
def hasSession (claim : Json) : Bool :=
  truthy (some claim) && truthy (optionalProperty (some claim) "session_header") && !isEmpty claim

/-- A height of a session, which is zero where it is missing. -/
def sessionHeight (value : Option Json) : Except String Int :=
  if truthy value then bigInt (optionText value) else .ok 0

/-- The attributes of a slash; without a claim they are read the older way. -/
def _getValuesEventSupplierSlashed (externals : Externals) (attributes : List Attribute) :
    Except String SlashedValues := do
  let values ← Settlement.getAttributes attributes
  let claim := values.claim
  -- Events without a claim that names a session are of the old format.
  if !hasSession claim then _getValuesOldEventSupplierSlashed externals attributes
  else do
    let operatorAddress ← property claim "supplier_operator_address"
    let sessionHeader := (optionalProperty (some claim) "session_header").getD .null
    let application ← property sessionHeader "application_address"
    let service ← property sessionHeader "service_id"
    let session ← property sessionHeader "session_id"
    let sessionEndHeight ← sessionHeight (optionalProperty (some sessionHeader)
      "session_end_block_height")
    let sessionStartHeight ← sessionHeight (optionalProperty (some sessionHeader)
      "session_start_block_height")
    let proofValidationStatus ← Settlement.getClaimProofStatusFromSDK
      (optionalProperty (some claim) "proof_validation_status")
    return {
      operatorAddress := Settlement.orEmpty operatorAddress
      application := Settlement.textOf application
      service := Settlement.textOf service
      session := Settlement.orEmpty session
      sessionStartHeight, sessionEndHeight
      proofMissingPenalty := some values.proofMissingPenalty
      proofValidationStatus
      supplierStakeAfterSlash := values.supplierStakeAfterSlash }

/-- The stake before and after a slash: the chain tells the one that is left, or else the penalty
is taken from the tracked one. -/
def slashedStake (tracked penalty : Int) (supplierStakeAfterSlash : Option Int) : Int × Int :=
  match supplierStakeAfterSlash with
  | some afterStakeAmount => (afterStakeAmount + penalty, afterStakeAmount)
  | none => (tracked, tracked - penalty)

/-- The amount of a coin that may be missing. -/
def coinAmount (coin : Option Coin) : Except String Int :=
  match coin with
  | some coin => bigInt coin.amount
  | none => .error "Cannot convert undefined to a BigInt"

/-- The penalty, which must have been found. -/
def requirePenalty (values : SlashedValues) : Except String (Option Coin) :=
  match values.proofMissingPenalty with
  | some coin => .ok coin
  | none => .error "[handleEventSupplierSlashed] proofMissingPenalty not found in event"

/-- The stake that is left, where the chain tells it. -/
def stakeAfterSlash (values : SlashedValues) : Except String (Option Int) :=
  match values.supplierStakeAfterSlash with
  | some coin => (bigInt coin.amount).map some
  | none => .ok none

/-- The record of a slash. -/
def slashingProps (eventId : String) (height : ℕ) (values : SlashedValues) (penalty : Int)
    (penaltyDenom : String) (stake : Int × Int) : EventSupplierSlashedProps where
  id := eventId
  supplierId := values.operatorAddress
  applicationId := values.application
  serviceId := values.service
  sessionId := values.session
  sessionEndHeight := values.sessionEndHeight
  sessionStartHeight := values.sessionStartHeight
  blockId := getBlockId height
  eventId := eventId
  proofMissingPenalty := penalty
  proofMissingPenaltyDenom := penaltyDenom
  previousStakeAmount := stake.1
  afterStakeAmount := stake.2
  proofValidationStatus := values.proofValidationStatus

/-- A supplier with another stake. -/
def Supplier.withStake (stakeAmount : Int) (supplier : Supplier) : Supplier :=
  { supplier with stakeAmount := stakeAmount }

/-- A slash sets the stake of a supplier. -/
def _handleEventSupplierSlashed (externals : Externals) (event : CosmosEvent) :
    SupplierProgram (Supplier × EventSupplierSlashedProps) := do
  let values ← Program.lift (_getValuesEventSupplierSlashed externals event.attributes)
  let operatorAddress ← Program.lift (requireAddress (some values.operatorAddress)
    "[handleEventSupplierSlashed] operatorAddress not found in event")
  let proofMissingPenalty ← Program.lift (requirePenalty values)
  let (_, currentSupplier) ← getSupplier operatorAddress
    "[handleEventSupplierSlashed] supplier not found for address:"
  let supplierStakeAfterSlash ← Program.lift (stakeAfterSlash values)
  let penalty ← Program.lift (coinAmount proofMissingPenalty)
  let stake := slashedStake currentSupplier.stakeAmount penalty supplierStakeAfterSlash
  return (currentSupplier.withStake stake.2,
    slashingProps (getEventId externals.kindText event) event.height values penalty
      ((proofMissingPenalty.map Coin.denom).getD "") stake)

end Pocketdex
