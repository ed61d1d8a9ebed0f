import Pocketdex.Pocket.Settlement

/-! Messages that create claims: each takes its counts from an event of its transaction. -/

namespace Pocketdex.Settlement

/-- An event as the result of a transaction lists it, with its type as the chain spells it. -/
structure ResultEvent where
  type : String
  attributes : List Attribute
  deriving DecidableEq, Repr

/-- The session a claim is for. -/
structure SessionHeader where
  applicationAddress : String
  serviceId : String
  sessionId : String
  sessionStartBlockHeight : Int
  sessionEndBlockHeight : Int
  deriving DecidableEq, Repr

structure MsgCreateClaim where
  supplierOperatorAddress : String
  sessionHeader : Option SessionHeader
  deriving DecidableEq, Repr

/-- A transaction as far as its claims need it. -/
structure ClaimTransaction where
  hash : String
  events : List ResultEvent
  deriving DecidableEq, Repr

/-- A message that creates a claim, with its transaction and its index inside it. -/
structure CreateClaimMessage where
  idx : ℕ
  height : ℕ
  tx : ClaimTransaction
  decodedMsg : MsgCreateClaim
  deriving DecidableEq, Repr

/-- The stored record of a created claim. -/
structure MsgCreateClaimProps where
  id : String
  transactionId : String
  blockId : ℕ
  supplierId : String
  applicationId : String
  serviceId : String
  sessionId : String
  numRelays : Int
  numEstimatedRelays : Int
  numClaimedComputedUnits : Int
  numEstimatedComputedUnits : Int
  claimedDenom : String
  claimedAmount : Int
  sessionStartHeight : Int
  sessionEndHeight : Int
  rootHash : Option String
  deriving DecidableEq, Repr

/-- The names the loop over the attributes of an event collects. -/
structure ClaimNames where
  supplier : Json
  app : Json
  service : Json

/-- The names before the loop. -/
def ClaimNames.empty : ClaimNames := ⟨.string "", .string "", .string ""⟩

/-- A value, or an empty text where it is missing or does not count as given. -/
def orEmptyText (value : Option Json) : Json :=
  if truthy value then value.getD (.string "") else .string ""

/-- What one attribute leaves of the names. -/
def readClaimNames (names : ClaimNames) (entry : Attribute) :
    Except String ClaimNames :=
  let text := Json.string (replaceQuotes entry.value)
  if entry.key = "service_id" then .ok { names with service := text }
  else if entry.key = "application_address" then .ok { names with app := text }
  else if entry.key = "supplier_operator_address" then .ok { names with supplier := text }
  else if entry.key = "claim" then do
    let claim ← parseJson entry.value
    let sessionHeader ← property claim "session_header"
    let supplier ← property claim "supplier_operator_address"
    return {
      app := orEmptyText (optionalProperty sessionHeader "application_address")
      service := orEmptyText (optionalProperty sessionHeader "service_id")
      supplier := orEmptyText supplier }
  else .ok names

/-- Whether all names count as given. -/
def ClaimNames.complete (names : ClaimNames) : Bool :=
  truthy (some names.service) && truthy (some names.app) && truthy (some names.supplier)

/-- The loop over the attributes, which is left once all names are given. -/
def claimNames (names : ClaimNames) :
    List Attribute → Except String ClaimNames
  | [] => .ok names
  | entry :: rest =>
    (readClaimNames names entry).bind fun names =>
      if names.complete then .ok names else claimNames names rest

/-- Whether a value is some text. -/
def isText (value : Json) (text : String) : Bool :=
  match value with
  | .string other => other = text
  | _ => false

/-- Whether an event tells that a claim was created or updated. -/
def isClaimEvent (event : ResultEvent) : Bool :=
  event.type = "pocket.proof.EventClaimCreated" || event.type = "pocket.proof.EventClaimUpdated"

/-- Whether an event is taken for the one of a claim. -/
def isEventOf (serviceId applicationId supplierOperatorAddress : String) (event : ResultEvent) :
    Except String Bool :=
  if isClaimEvent event then
    (claimNames .empty event.attributes).map fun names =>
      isText names.service serviceId && isText names.app applicationId &&
        isText names.supplier supplierOperatorAddress
  else .ok false

/-- The record of a created claim with the counts of an event. -/
def claimRecord (msg : CreateClaimMessage) (attributes : EventAttributes) :
    Except String MsgCreateClaimProps := do
  let sessionHeader := msg.decodedMsg.sessionHeader
  let numEstimatedRelays ← _computeNumEstimatedRelays attributes.chainNumEstimatedRelays
    attributes.numEstimatedComputedUnits attributes.numClaimedComputedUnits attributes.numRelays
  let claimedAmount ← bigInt (orZero ((attributes.claimed.map Coin.amount).getD ""))
  return {
    -- The names are those of the message; the event tells the figures.
    id := s!"{msg.tx.hash}-{msg.idx}"
    transactionId := msg.tx.hash
    blockId := getBlockId msg.height
    supplierId := msg.decodedMsg.supplierOperatorAddress
    applicationId := (sessionHeader.map SessionHeader.applicationAddress).getD ""
    serviceId := (sessionHeader.map SessionHeader.serviceId).getD ""
    sessionId := (sessionHeader.map SessionHeader.sessionId).getD ""
    numRelays := attributes.numRelays
    numEstimatedRelays
    numClaimedComputedUnits := attributes.numClaimedComputedUnits
    numEstimatedComputedUnits := attributes.numEstimatedComputedUnits
    claimedDenom := (attributes.claimed.map Coin.denom).getD ""
    claimedAmount
    sessionStartHeight := (sessionHeader.map SessionHeader.sessionStartBlockHeight).getD 0
    sessionEndHeight := (sessionHeader.map SessionHeader.sessionEndBlockHeight).getD 0
    rootHash := none }

/-- The record of one created claim: its event is looked up among those of the transaction. -/
def _handleMsgCreateClaim (msg : CreateClaimMessage) : Except String MsgCreateClaimProps := do
  let sessionHeader := msg.decodedMsg.sessionHeader
  let applicationId := (sessionHeader.map SessionHeader.applicationAddress).getD ""
  let serviceId := (sessionHeader.map SessionHeader.serviceId).getD ""
  let eventClaimCreated ← msg.tx.events.findM?
    (isEventOf serviceId applicationId msg.decodedMsg.supplierOperatorAddress)
  match eventClaimCreated with
  | none =>
    .error s!"EventClaimCreated not found for msg MsgCreateClaim {msg.idx} {msg.tx.hash} {msg.height}"
  | some event =>
    let attributes ← getAttributes event.attributes
    claimRecord msg attributes

/-- The records of created claims, under the block they belong to. -/
def handleMsgCreateClaim (height : ℕ) (messages : List CreateClaimMessage) :
    Except String (Task (Statement (Row MsgCreateClaimProps))) := do
  let records ← messages.mapM _handleMsgCreateClaim
  return optimizedBulkCreate height
    (records.map fun record => ⟨record, some record.blockId, none⟩) .blockId

end Pocketdex.Settlement
