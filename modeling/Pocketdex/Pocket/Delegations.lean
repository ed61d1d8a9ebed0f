import Mathlib.Data.Finset.Insert
import Pocketdex.Base.Store
import Pocketdex.Handlers

/-! Delegations to gateways, which application handlers and gateway handlers store side by side. -/

namespace Pocketdex

/-- The stored delegation of an application to a gateway. -/
structure ApplicationGateway where
  applicationId : String
  gatewayId : String
  deriving DecidableEq, Repr

/-- A delegation is identified by its two addresses. -/
def ApplicationGateway.id (row : ApplicationGateway) : String :=
  getAppDelegatedToGatewayId row.applicationId row.gatewayId

/-- The column by which delegations are fetched. -/
inductive DelegationQuery where
  | byApplicationId (applicationId : String)
  | byGatewayId (gatewayId : String)
  deriving DecidableEq, Repr

/-- Whether a delegation is among those fetched. -/
def DelegationQuery.selects : DelegationQuery → ApplicationGateway → Bool
  | byApplicationId applicationId, row => row.applicationId = applicationId
  | byGatewayId gatewayId, row => row.gatewayId = gatewayId

/-- What handlers do with delegations; what is fetched belongs to the event that is handled. -/
inductive DelegationCall where
  | save (row : ApplicationGateway)
  | remove (row : ApplicationGateway)
  | fetchAll (reader : CosmosEvent) (query : DelegationQuery)
  | bulkCreate (reader : CosmosEvent) (applicationId : String)
  | bulkRemove (reader : CosmosEvent)
  deriving DecidableEq, Repr

/-- One operation of the store: a call, or one page of a fetch. -/
inductive DelegationOperation where
  | call (call : DelegationCall)
  | page (reader : CosmosEvent) (query : DelegationQuery) (index : ℕ)
  deriving DecidableEq, Repr

/-- The stored delegations, what each event's handler has fetched, and whether it has fetched all. -/
structure DelegationState where
  rows : Store ApplicationGateway.id
  fetched : CosmosEvent → List ApplicationGateway
  loaded : CosmosEvent → Bool

namespace DelegationState

/-- A block starts with nothing fetched. -/
def start (rows : Store ApplicationGateway.id) : DelegationState :=
  ⟨rows, fun _ => [], fun _ => false⟩

/-- The delegations a query selects, in the order of their ids. -/
def matching (query : DelegationQuery) (state : DelegationState) : List ApplicationGateway :=
  (state.rows.records.filter query.selects).insertionSort fun first second => first.id ≤ second.id

/-- A call takes effect as a whole. -/
def apply : DelegationCall → DelegationState → DelegationState
  | .save row, state => { state with rows := state.rows.save row }
  | .remove row, state => { state with rows := state.rows.remove row.id }
  | .fetchAll reader query, state => { state with
      fetched := Function.update state.fetched reader (state.matching query)
      loaded := Function.update state.loaded reader true }
  | .bulkCreate reader applicationId, state => { state with
      rows := state.rows.bulkCreate
        ((state.fetched reader).map fun row => ⟨applicationId, row.gatewayId⟩) }
  | .bulkRemove reader, state => { state with
      rows := state.rows.bulkRemove ((state.fetched reader).map ApplicationGateway.id) }

/-- One more page is fetched, the last one if it is not full. -/
def fetchPage (reader : CosmosEvent) (query : DelegationQuery) (state : DelegationState) :
    DelegationState :=
  let results := state.fetched reader
  let batch := ((state.matching query).drop results.length).take PAGE_LIMIT
  { state with
    fetched := Function.update state.fetched reader (results ++ batch)
    loaded := Function.update state.loaded reader (batch.length ≠ PAGE_LIMIT) }

/-- The first page starts without results, and after the last one there is nothing to fetch. -/
def perform : DelegationOperation → DelegationState → DelegationState
  | .call call, state => state.apply call
  | .page reader query 0, state =>
    fetchPage reader query { state with fetched := Function.update state.fetched reader [] }
  | .page reader query (_ + 1), state =>
    if state.loaded reader then state else fetchPage reader query state

/-- The state after calls in the given order. -/
def applyAll (calls : List DelegationCall) (state : DelegationState) : DelegationState :=
  calls.foldl (fun state call => state.apply call) state

/-- The state after operations in the given order. -/
def performAll (operations : List DelegationOperation) (state : DelegationState) :
    DelegationState :=
  operations.foldl (fun state operation => state.perform operation) state

end DelegationState

/-- A fetch is a loop over pages, of which there are at most one more than the given rounds. -/
def DelegationCall.operations (rounds : ℕ) : DelegationCall → Task DelegationOperation
  | .fetchAll reader query =>
    Task.chain ((List.range (rounds + 1)).map fun index => Task.step (.page reader query index))
  | call => Task.step (.call call)

/-- The two applications of a transfer that ends. -/
def readTransferEnd (event : CosmosEvent) : Except String (String × String) := do
  let sourceAddress ← readAttribute "source_address"
    (fun value => .ok (some (replaceQuotes value))) none event.attributes
  let destinationAppAddress ← readAddress "destination_address" "destination_application" none
    event.attributes
  let sourceAddress ← requireAddress sourceAddress
    "[handleTransferApplicationEndEvent] event.event.attributes not found"
  let destinationAppAddress ← requireAddress destinationAppAddress
    "[handleTransferApplicationMsg] destination application not in event"
  return (replaceQuotes sourceAddress, replaceQuotes destinationAppAddress)

/-- The gateway that a finished unstake of the older kind releases. -/
def readUnstakedGateway (event : CosmosEvent) : Except String String := do
  let gatewayStringified ← match event.attributes.find? fun entry => entry.key = "gateway" with
    | some entry =>
      if entry.value = "" then .error "[handleGatewayUnstakeEvent] gateway not provided in event"
      else .ok entry.value
    | none => .error "[handleGatewayUnstakeEvent] gateway not provided in event"
  let gatewayAddress ← readJsonAddress gatewayStringified
  requireAddress gatewayAddress "[handleGatewayUnstakeEvent] address not provided in gateway event"

/-- The gateway that an event releases from its stake. -/
def readReleasedGateway (event : CosmosEvent) : Except String String :=
  match event.type with
  | .gatewayUnbondingEnd => (readGatewayUnbonding "handleEventGatewayUnbondingEnd"
      event.attributes).map Prod.snd
  | .gatewayUnstaked => readUnstakedGateway event
  | _ => .error "no handler"

/-- The delegations of the source are copied to the destination and removed, side by side. -/
def transferDelegations (event : CosmosEvent) (sourceAddress destinationAppAddress : String) :
    Task DelegationCall :=
  Task.seq (Task.step (.fetchAll event (.byApplicationId sourceAddress)))
    (Task.par (Task.step (.bulkCreate event destinationAppAddress))
      (Task.step (.bulkRemove event)))

/-- The delegations to a gateway are fetched and removed. -/
def getUndelegatesForUnstakedGateway (event : CosmosEvent) (gatewayId : String) :
    Task DelegationCall :=
  Task.seq (Task.step (.fetchAll event (.byGatewayId gatewayId))) (Task.step (.bulkRemove event))

/-- What the handler of a datum does with delegations. -/
def handleDelegations : StakeDatum → Except String (Task DelegationCall)
  | .msg sent => match sent.decodedMsg with
    | .delegateToGateway msg =>
      .ok (Task.step (.save ⟨msg.appAddress, msg.gatewayAddress⟩))
    | .undelegateFromGateway msg =>
      .ok (Task.step (.remove ⟨msg.appAddress, msg.gatewayAddress⟩))
    | _ => .ok Task.skip
  | .event emitted => match emitted.type with
    | .applicationTransferEnd => (readTransferEnd emitted).map fun (sourceAddress, destination) =>
        transferDelegations emitted sourceAddress destination
    | .gatewayUnbondingEnd => (readReleasedGateway emitted).map
        (getUndelegatesForUnstakedGateway emitted)
    | .gatewayUnstaked => (readReleasedGateway emitted).map
        (getUndelegatesForUnstakedGateway emitted)
    | _ => .ok Task.skip

/-- Groups run side by side, and inside a group each handler is awaited before the next. -/
def chainDelegations (groups : List (List StakeDatum)) : Except String (Task DelegationCall) := do
  let chains ← groups.mapM fun group => (group.mapM handleDelegations).map Task.chain
  return Task.all chains

/-- The messages and events that gateway rows are built from. -/
def gatewayTypes : List String := [
  "/pocket.gateway.MsgUnstakeGateway",
  "/pocket.gateway.MsgStakeGateway",
  "pocket.gateway.EventGatewayUnstaked",
  "pocket.gateway.EventGatewayUnbondingBegin",
  "pocket.gateway.EventGatewayUnbondingEnd"]

/-- What a block does with delegations: applications and gateways are indexed side by side. -/
def indexStakeDelegations (data : List StakeDatum) : Except String (Task DelegationCall) := do
  let applicationGroups ← indexStakeEntityGroups (dataOfTypes applicationTypes data) applicationIds
  let gatewayGroups ← indexStakeEntityGroups (dataOfTypes gatewayTypes data) gatewayIds
  let indexApplications ← chainDelegations applicationGroups
  let indexGateway ← chainDelegations gatewayGroups
  return Task.par indexApplications indexGateway

end Pocketdex
