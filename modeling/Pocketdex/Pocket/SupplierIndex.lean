import Pocketdex.Base.Versions
import Pocketdex.Handlers
import Pocketdex.Pocket.Suppliers

/-! Indexing suppliers: a block's data are handled in order, and row versions closed and opened. -/

namespace Pocketdex

/-- The records a block adds besides suppliers and configs, and the configs whose rows it closes. -/
structure SupplierChanges where
  servicesToClose : List String := []
  stakeMsgs : List MsgStakeSupplierProps := []
  claimMsgs : List MsgClaimMorseSupplierProps := []
  unstakeMsgs : List MsgUnstakeSupplierProps := []
  serviceConfigActivatedEvents : List EventSupplierServiceConfigActivatedProps := []
  slashingEvents : List EventSupplierSlashedProps := []
  unbondingBeginEvents : List EventSupplierUnbondingProps := []
  unbondingEndEvents : List EventSupplierUnbondingProps := []

/-- The changes of two data, one after the other. -/
def SupplierChanges.append (first second : SupplierChanges) : SupplierChanges where
  servicesToClose := first.servicesToClose ++ second.servicesToClose
  stakeMsgs := first.stakeMsgs ++ second.stakeMsgs
  claimMsgs := first.claimMsgs ++ second.claimMsgs
  unstakeMsgs := first.unstakeMsgs ++ second.unstakeMsgs
  serviceConfigActivatedEvents :=
    first.serviceConfigActivatedEvents ++ second.serviceConfigActivatedEvents
  slashingEvents := first.slashingEvents ++ second.slashingEvents
  unbondingBeginEvents := first.unbondingBeginEvents ++ second.unbondingBeginEvents
  unbondingEndEvents := first.unbondingEndEvents ++ second.unbondingEndEvents

/-- The operator of the first attribute that names it flat or inside a JSON supplier. -/
def eventGetId : List Attribute → Except String (Option Json)
  | [] => .ok none
  | entry :: rest =>
    if entry.key = "supplier" then do property (← parseJson entry.value) "operator_address"
    else if entry.key = "operator_address" then .ok (some (.string (replaceQuotes entry.value)))
    else eventGetId rest

/-- The operator of the first attribute that names it flat or inside a JSON claim. -/
def slashingGetId : List Attribute → Except String (Option Json)
  | [] => .ok none
  | entry :: rest =>
    if entry.key = "supplier_operator_addr" ∨ entry.key = "supplier_operator_address" then
      .ok (some (.string (replaceQuotes entry.value)))
    else if entry.key = "claim" then do
      property (← parseJson entry.value) "supplier_operator_address"
    else slashingGetId rest

/-- How the id of a supplier is read from a message, and from an event. -/
def supplierPath : DecodedMsg → Option String
  | .unstakeSupplier _ => some "operatorAddress"
  | .stakeSupplier _ => some "operatorAddress"
  | .claimMorseSupplier _ => some "shannonOperatorAddress"
  | _ => none

def supplierGetId : EventType → Option (List Attribute → Except String (Option Json))
  | .supplierUnbondingBegin => some eventGetId
  | .supplierUnbondingEnd => some eventGetId
  | .supplierServiceConfigActivated => some eventGetId
  | .supplierSlashed => some slashingGetId
  | _ => none

/-- Removing configs from a record, and setting others. -/
def updateServices (servicesToRemove : List String) (services : List SupplierServiceConfigProps)
    (known : Dict String SupplierServiceConfigProps) : Dict String SupplierServiceConfigProps :=
  Dict.storeAll SupplierServiceConfigProps.id services (servicesToRemove.foldl Dict.erase known)

/-- Entering a staked supplier with its configs: both those it had and those it has are closed. -/
def enterStaking {μ : Type} (staking : Staking μ) : SupplierProgram (List String) := do
  let entry := (← Program.read staking.supplier.id).getD SupplierRecord.blank
  Program.write staking.supplier.id ⟨some staking.supplier,
    updateServices staking.staked.servicesToRemove staking.staked.services entry.services⟩
  return staking.staked.servicesToRemove ++
    staking.staked.services.map SupplierServiceConfigProps.id

/-- Entering a supplier whose unbonding ended. -/
def enterUnbondingEnd (ended : EndedUnbonding) : SupplierProgram Unit := do
  match ← Program.read ended.supplier.id with
  | some entry => Program.write ended.supplier.id ⟨some ended.supplier,
      updateServices ended.servicesToRemove [] entry.services⟩
  | none => Program.fail "Cannot read properties of undefined (reading 'services')"

/-- Entering activated configs under the operator the id getter reads. -/
def enterServices (operator : String) (services : List SupplierServiceConfigProps) :
    SupplierProgram Unit :=
  if services.isEmpty then return ()
  else do
    match ← Program.read operator with
    | some entry => Program.write operator { entry with
        services := updateServices [] services entry.services }
    | none => Program.fail "Cannot read properties of undefined (reading 'services')"

/-- Handling one event. -/
def processSupplierEvent (externals : Externals) (event : CosmosEvent) :
    SupplierProgram SupplierChanges :=
  match event.type with
  | .supplierServiceConfigActivated => do
    let (services, serviceConfigEvent) ← _handleEventSupplierServiceConfigActivated externals event
    let operator ← Program.lift (eventGetId event.attributes)
    enterServices (optionText operator) services
    return {
      servicesToClose := services.map SupplierServiceConfigProps.id
      serviceConfigActivatedEvents := [serviceConfigEvent] }
  | .supplierSlashed => do
    let (supplier, slashingEvent) ← _handleEventSupplierSlashed externals event
    setSupplier supplier
    return { slashingEvents := [slashingEvent] }
  | .supplierUnbondingBegin => do
    let (supplier, unbondingBeginEvent) ← _handleSupplierUnbondingBeginEvent externals event
    setSupplier supplier
    return { unbondingBeginEvents := [unbondingBeginEvent] }
  -- Only this event and the activation close stored configs.
  | .supplierUnbondingEnd => do
    let ended ← _handleSupplierUnbondingEndEvent externals event
    enterUnbondingEnd ended
    return {
      servicesToClose := ended.servicesToRemove
      unbondingEndEvents := [ended.unbondingEndEvent] }
  | _ => return {}

/-- Handling one message. -/
def processSupplierMsg (externals : Externals) (msg : CosmosMessage) :
    SupplierProgram SupplierChanges :=
  match msg.decodedMsg with
  | .stakeSupplier decoded => do
    let staking ← _handleSupplierStakeMsg externals msg decoded
    let servicesToClose ← enterStaking staking
    return { servicesToClose, stakeMsgs := [staking.msg] }
  | .claimMorseSupplier decoded => do
    let staking ← _handleClaimSupplier externals msg decoded
    let servicesToClose ← enterStaking staking
    return { servicesToClose, claimMsgs := [staking.msg] }
  | .unstakeSupplier decoded => do
    let (supplier, unstakedMsg) ← _handleUnstakeSupplierMsg msg decoded
    setSupplier supplier
    return { unstakeMsgs := [unstakedMsg] }
  | _ => return {}

/-- Handling one datum. -/
def processSupplierDatum (externals : Externals) : StakeDatum → SupplierProgram SupplierChanges
  | .event emitted => processSupplierEvent externals emitted
  | .msg sent => processSupplierMsg externals sent

/-- Handling a block's data one after the other. -/
def processSupplierEventsAndMessages (externals : Externals) :
    List StakeDatum → SupplierProgram SupplierChanges
  | [] => return {}
  | datum :: rest => do
    let changes ← processSupplierDatum externals datum
    let later ← processSupplierEventsAndMessages externals rest
    return changes.append later

/-- The messages and events that supplier rows are built from. -/
def supplierTypes : List String := [
  "/pocket.supplier.MsgUnstakeSupplier",
  "/pocket.migration.MsgClaimMorseSupplier",
  "/pocket.supplier.MsgStakeSupplier",
  "pocket.supplier.EventSupplierUnbondingBegin",
  "pocket.supplier.EventSupplierUnbondingEnd",
  "pocket.supplier.EventSupplierServiceConfigActivated",
  "pocket.tokenomics.EventSupplierSlashed"]

/-- Data of successful transactions by transaction, messages first, and then finalization. -/
def sortEventsAndMsgs (allData : List StakeDatum) : List StakeDatum :=
  ((successfulData allData).foldl EntityData.push EntityData.empty).schedule

/-- The ids a getter's value adds to a list: a text is one, and a list is spread. -/
def pushedIds (ids : Option Json) : Except String (List String) :=
  match ids with
  | some (.string text) => .ok [text]
  | some (.array items) => .ok (items.map templateText)
  | ids => if truthy ids then .error "Spread syntax requires ids to be iterable" else .ok []

/-- The supplier ids of a datum. -/
def datumSupplierIds : StakeDatum → Except String (List String)
  | .event emitted =>
    match supplierGetId emitted.type with
    | some getEntityId => (getEntityId emitted.attributes).bind pushedIds
    | none => .error "getEntityId is not a function"
  | .msg sent => .ok ((supplierPath sent.decodedMsg).toList.map fun entityIdPath =>
      (sent.decodedMsg.get entityIdPath).getD "undefined")

/-- Whether the supplier of a datum is fetched: activations need the configs only. -/
def fetchesSupplier : StakeDatum → Bool
  | .event emitted => emitted.type ≠ .supplierServiceConfigActivated
  | .msg _ => true

/-- Whether the configs of a datum's operator are fetched. -/
def fetchesServices : StakeDatum → Bool
  | .event emitted => emitted.type = .supplierServiceConfigActivated
  | .msg sent => match sent.decodedMsg with
    | .stakeSupplier _ => true
    | .claimMorseSupplier _ => true
    | _ => false

/-- The ids of the suppliers to fetch, and of those whose configs are fetched. -/
def collectSupplierIds : List StakeDatum → Except String (List String × List String)
  | [] => .ok ([], [])
  | datum :: rest => do
    let ids ← datumSupplierIds datum
    let (suppliers, suppliersToFetchServices) ← collectSupplierIds rest
    return ((if fetchesSupplier datum then ids else []) ++ suppliers,
      (if fetchesServices datum then ids else []) ++ suppliersToFetchServices)

/-- The records of a field among some ids that are visible at a height. -/
def getByField {ρ : Type} (height : ℕ) (field : ρ → String) (ids : List String)
    (rows : List (Row ρ)) : List ρ :=
  let records := (rows.filter fun row => row.openAt height && field row.data ∈ ids).map Row.data
  fetchPaginatedRecords (fun offset limit => (records.drop offset).take limit)
    (records.length + 1) 0

/-- A fetched config is entered under its operator. -/
def fetchService (record : Dict String SupplierRecord) (service : SupplierServiceConfigProps) :
    Dict String SupplierRecord :=
  let entry := (record.get service.supplierId).getD SupplierRecord.blank
  record.set service.supplierId { entry with services := entry.services.set service.id service }

/-- The rows of the tables that indexing suppliers writes. -/
structure SupplierTables where
  suppliers : List (Row Supplier)
  services : List (Row SupplierServiceConfigProps)
  stakeMsgs : List (Row MsgStakeSupplierProps)
  claimMsgs : List (Row MsgClaimMorseSupplierProps)
  unstakeMsgs : List (Row MsgUnstakeSupplierProps)
  serviceConfigActivatedEvents : List (Row EventSupplierServiceConfigActivatedProps)
  slashingEvents : List (Row EventSupplierSlashedProps)
  unbondingBeginEvents : List (Row EventSupplierUnbondingProps)
  unbondingEndEvents : List (Row EventSupplierUnbondingProps)
  deriving DecidableEq

/-- The suppliers and configs that a block starts from. -/
def fetchSupplierData (height : ℕ) (tables : SupplierTables)
    (suppliers suppliersToFetchServices : List String) : Dict String SupplierRecord :=
  let fetchedSuppliers := getByField height Supplier.id suppliers tables.suppliers
  let fetchedServices := getByField height SupplierServiceConfigProps.supplierId
    suppliersToFetchServices tables.services
  fetchedServices.foldl fetchService
    (Dict.collect Supplier.id (fun supplier => ⟨some supplier, Dict.empty⟩) fetchedSuppliers)

/-- What a block writes. -/
structure SupplierWrites where
  suppliersToSave : List Supplier
  servicesToSave : List SupplierServiceConfigProps
  suppliersToClose : List String
  changes : SupplierChanges

/-- The ids of the records with a supplier. -/
def suppliersToClose (record : Dict String SupplierRecord) : List String :=
  (record.entries.filter fun entry => entry.2.supplier.isSome).map Prod.fst

/-- All suppliers and configs of the records are saved, also those a block left as they were. -/
def buildSupplierSaveLists (record : Dict String SupplierRecord) :
    List Supplier × List SupplierServiceConfigProps :=
  (record.values.filterMap SupplierRecord.supplier,
    record.values.flatMap fun entry => entry.services.values)

section

variable {ρ : Type}

/-- Deleting the rows of this height, if there is something to write. -/
def removeRecords {δ : Type} (height : ℕ) (docs : List δ) (rows : List (Row ρ)) : List (Row ρ) :=
  if docs.isEmpty then rows else rows.filter fun row => row.blockRange.lower ≠ height

/-- Closing the visible rows with the given ids. -/
def closeRecords (height : ℕ) (id : ρ → String) (ids : List String) (rows : List (Row ρ)) :
    List (Row ρ) :=
  if ids.isEmpty then rows else closeWhere (fun data => id data ∈ ids) height rows

/-- Inserting records that are visible from this height on. -/
def insertRecords (height : ℕ) (docs : List ρ) (rows : List (Row ρ)) : List (Row ρ) :=
  rows ++ docs.map (Row.fresh height)

end

/-- Deleting and closing rows, which the store's transaction covers. -/
def cleanSupplierTables (height : ℕ) (writes : SupplierWrites) (tables : SupplierTables) :
    SupplierTables where
  suppliers := closeRecords height Supplier.id writes.suppliersToClose
    (removeRecords height writes.suppliersToSave tables.suppliers)
  services := closeRecords height SupplierServiceConfigProps.id writes.changes.servicesToClose
    (removeRecords height writes.servicesToSave tables.services)
  stakeMsgs := removeRecords height writes.changes.stakeMsgs tables.stakeMsgs
  claimMsgs := removeRecords height writes.changes.claimMsgs tables.claimMsgs
  unstakeMsgs := removeRecords height writes.changes.unstakeMsgs tables.unstakeMsgs
  serviceConfigActivatedEvents := removeRecords height writes.changes.serviceConfigActivatedEvents
    tables.serviceConfigActivatedEvents
  slashingEvents := removeRecords height writes.changes.slashingEvents tables.slashingEvents
  unbondingBeginEvents := removeRecords height writes.changes.unbondingBeginEvents
    tables.unbondingBeginEvents
  unbondingEndEvents := removeRecords height writes.changes.unbondingEndEvents
    tables.unbondingEndEvents

/-- Inserting the records of a block. -/
def insertSupplierRecords (height : ℕ) (writes : SupplierWrites) (tables : SupplierTables) :
    SupplierTables where
  suppliers := insertRecords height writes.suppliersToSave tables.suppliers
  services := insertRecords height writes.servicesToSave tables.services
  stakeMsgs := insertRecords height writes.changes.stakeMsgs tables.stakeMsgs
  claimMsgs := insertRecords height writes.changes.claimMsgs tables.claimMsgs
  unstakeMsgs := insertRecords height writes.changes.unstakeMsgs tables.unstakeMsgs
  serviceConfigActivatedEvents := insertRecords height writes.changes.serviceConfigActivatedEvents
    tables.serviceConfigActivatedEvents
  slashingEvents := insertRecords height writes.changes.slashingEvents tables.slashingEvents
  unbondingBeginEvents := insertRecords height writes.changes.unbondingBeginEvents
    tables.unbondingBeginEvents
  unbondingEndEvents := insertRecords height writes.changes.unbondingEndEvents
    tables.unbondingEndEvents

/-- Deleting, closing and inserting. -/
def performSupplierDatabaseOperations (height : ℕ) (writes : SupplierWrites)
    (tables : SupplierTables) : SupplierTables :=
  insertSupplierRecords height writes (cleanSupplierTables height writes tables)

/-- What a block's supplier data lead to, from the rows they are read against. -/
def supplierWrites (externals : Externals) (height : ℕ) (tables : SupplierTables)
    (allData : List StakeDatum) : Except String SupplierWrites := do
  let eventsAndMessages := sortEventsAndMsgs (dataOfTypes supplierTypes allData)
  let (suppliers, suppliersToFetchServices) ← collectSupplierIds eventsAndMessages
  let record := fetchSupplierData height tables suppliers suppliersToFetchServices
  let (changes, after) ← (processSupplierEventsAndMessages externals eventsAndMessages).run record
  let (suppliersToSave, servicesToSave) := buildSupplierSaveLists after
  return ⟨suppliersToSave, servicesToSave, suppliersToClose record, changes⟩

/-- Indexing the supplier data of a block. -/
def indexSupplier (externals : Externals) (height : ℕ) (tables : SupplierTables)
    (allData : List StakeDatum) : Except String SupplierTables := do
  let writes ← supplierWrites externals height tables allData
  return performSupplierDatabaseOperations height writes tables

end Pocketdex
