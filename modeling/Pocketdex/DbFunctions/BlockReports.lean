import Pocketdex.Base.Refresh
import Pocketdex.Base.Writes
import Pocketdex.DbFunctions.DomainRewards
import Pocketdex.DbFunctions.Reports
import Pocketdex.Pocket.ApplicationServices
import Pocketdex.Pocket.Validators
import Pocketdex.Primitives.GenesisEntities

/-! The reports of a block: the figures on its own row, and its rows of the summary tables. -/

namespace Pocketdex

/-- A row of the blocks table with the figures that are reported on it. -/
structure Block extends BlockReport where
  timestamp : Int
  timeToBlock : Int
  totalRelays : Int
  totalEstimatedRelays : Option Int
  totalComputedUnits : Int
  totalEstimatedComputedUnits : Option Int
  successfulTxs : ℕ
  failedTxs : ℕ
  totalTxs : ℕ
  stakedSuppliers : ℕ
  stakedSuppliersTokens : Int
  unstakingSuppliers : ℕ
  unstakingSuppliersTokens : Int
  stakedApps : ℕ
  stakedAppsTokens : Int
  unstakingApps : ℕ
  unstakingAppsTokens : Int
  stakedGateways : ℕ
  stakedGatewaysTokens : Int
  stakedValidators : ℕ
  stakedValidatorsTokens : Int
  unstakingValidators : ℕ
  unstakingValidatorsTokens : Int
  deriving DecidableEq, Repr

/-- A block is stored with no figures but zero, where the estimated ones are left out. -/
def handleBlock (id : ℕ) (timestamp : Int) : Block where
  id
  unstakedSuppliers := 0
  unstakedSuppliersTokens := 0
  unstakedApps := 0
  unstakedAppsTokens := 0
  unstakedGateways := 0
  unstakedGatewaysTokens := 0
  timestamp
  timeToBlock := 0
  totalRelays := 0
  totalEstimatedRelays := none
  totalComputedUnits := 0
  totalEstimatedComputedUnits := none
  successfulTxs := 0
  failedTxs := 0
  totalTxs := 0
  stakedSuppliers := 0
  stakedSuppliersTokens := 0
  unstakingSuppliers := 0
  unstakingSuppliersTokens := 0
  stakedApps := 0
  stakedAppsTokens := 0
  unstakingApps := 0
  unstakingAppsTokens := 0
  stakedGateways := 0
  stakedGatewaysTokens := 0
  stakedValidators := 0
  stakedValidatorsTokens := 0
  unstakingValidators := 0
  unstakingValidatorsTokens := 0

/-- The columns of a block that queries join on. -/
def Block.row (block : Block) : BlockRow := ⟨block.id, block.timestamp⟩

/-- The settled relays of a service in a block. -/
structure RelaysByBlockAndService where
  serviceId : String
  blockId : ℕ
  amount : ℕ
  relays : Option Int
  estimatedRelays : Option Int
  computedUnits : Option Int
  estimatedComputedUnits : Option Int
  claimedUpokt : Option Int
  deriving DecidableEq, Repr

/-- The stakes for a service in a block. -/
structure StakedByBlockAndService where
  serviceId : String
  blockId : ℕ
  amount : ℕ
  tokens : Option Int
  deriving DecidableEq, Repr

/-- The tables that the reports of a block read. -/
structure IndexedTables where
  supplierTables : SupplierTables
  applications : List (Row Application)
  applicationServices : List (Row ApplicationServiceProps)
  gateways : List (Row Gateway)
  validators : List (Row Validator)
  transactions : List TransactionProps
  eventClaimSettleds : List Settlement.EventClaimSettledProps

/-- These tables together with the ones that the reports write. -/
structure ReportTables extends IndexedTables where
  blocks : List Block
  relaysByBlockAndServices : List RelaysByBlockAndService
  stakedSuppliersByBlockAndServices : List StakedByBlockAndService
  stakedAppsByBlockAndServices : List StakedByBlockAndService
  domainServiceDailyRewards : List DomainServiceDailyRewards

/-- The tables before any block. -/
def emptyReports : ReportTables where
  supplierTables := ⟨[], [], [], [], [], [], [], [], []⟩
  applications := []
  applicationServices := []
  gateways := []
  validators := []
  transactions := []
  eventClaimSettleds := []
  blocks := []
  relaysByBlockAndServices := []
  stakedSuppliersByBlockAndServices := []
  stakedAppsByBlockAndServices := []
  domainServiceDailyRewards := []

/-- How many versions with a status are visible at a block, and what they stake. -/
def stakeFigures {ρ : Type} (stakeStatus : ρ → StakeStatus) (stakeAmount : ρ → Int)
    (status : StakeStatus) (blockId : ℕ) (rows : List (Row ρ)) : ℕ × Int :=
  let data := (shownAt blockId rows).filter fun stake => stakeStatus stake = status
  (data.length, (Sql.sum (data.map fun stake => some (stakeAmount stake))).getD 0)

/-- The claims that were settled in a block. -/
def claimsOfBlock (blockId : ℕ) (tables : IndexedTables) :
    List Settlement.EventClaimSettledProps :=
  tables.eventClaimSettleds.filter fun e => e.blockId = blockId

namespace Block

/-- `UPDATE blocks SET … WHERE id = block_id`, on one row. -/
def update (blockId : ℕ) (set : Block → Block) (block : Block) : Block :=
  if block.id = blockId then set block else block

/-- The sums over the claims settled in a block, where no claims count as zero. -/
def updateRelaysDataOnBlock (blockId : ℕ) (tables : IndexedTables) : Block → Block :=
  let claims := claimsOfBlock blockId tables
  let total (figure : Settlement.EventClaimSettledProps → Int) :=
    (Sql.sum (claims.map fun e => some (figure e))).getD 0
  update blockId fun block => { block with
    totalRelays := total fun e => e.numRelays
    totalEstimatedRelays := some (total fun e => e.numEstimatedRelays)
    totalComputedUnits := total fun e => e.numClaimedComputedUnits
    totalEstimatedComputedUnits := some (total fun e => e.numEstimatedComputedUnits) }

def updateStakedAppsDataOnBlock (blockId : ℕ) (tables : IndexedTables) : Block → Block :=
  let data := stakeFigures Application.stakeStatus Application.stakeAmount .staked blockId
    tables.applications
  update blockId fun block => { block with stakedApps := data.1, stakedAppsTokens := data.2 }

def updateStakedGatewaysDataOnBlock (blockId : ℕ) (tables : IndexedTables) : Block → Block :=
  let data := stakeFigures Gateway.stakeStatus Gateway.stakeAmount .staked blockId tables.gateways
  update blockId fun block =>
    { block with stakedGateways := data.1, stakedGatewaysTokens := data.2 }

def updateStakedSuppliersDataOnBlock (blockId : ℕ) (tables : IndexedTables) : Block → Block :=
  let data := stakeFigures Supplier.stakeStatus Supplier.stakeAmount .staked blockId
    tables.supplierTables.suppliers
  update blockId fun block =>
    { block with stakedSuppliers := data.1, stakedSuppliersTokens := data.2 }

def updateStakedValidatorsDataOnBlock (blockId : ℕ) (tables : IndexedTables) : Block → Block :=
  let data := stakeFigures Validator.stakeStatus Validator.stakeAmount .staked blockId
    tables.validators
  update blockId fun block =>
    { block with stakedValidators := data.1, stakedValidatorsTokens := data.2 }

/-- The time since the block before, which is zero when that one is not stored. -/
def updateTookOnBlocks (targetBlockId : ℕ) (blocks : List BlockRow) (block : Block) : Block :=
  match blocks.find? fun b => b.id = targetBlockId with
  | none => block
  | some current =>
    -- Timestamps are counted in milliseconds, as the figure is.
    let previous := blocks.find? fun b => b.id + 1 = targetBlockId
    let took := (previous.map fun previous => current.timestamp - previous.timestamp).getD 0
    block.update targetBlockId fun block => { block with timeToBlock := took }

def updateTxsDataOnBlock (blockId : ℕ) (tables : IndexedTables) : Block → Block :=
  let txs := tables.transactions.filter fun tx => tx.blockId = blockId
  update blockId fun block => { block with
    successfulTxs := (txs.map fun tx => if tx.code = 0 then 1 else 0).sum
    failedTxs := (txs.map fun tx => if tx.code ≠ 0 then 1 else 0).sum
    totalTxs := txs.length }

/-- What turned unstaked in a block is reported on the columns of their own. -/
def updateUnstakedDataOnBlock (report : BlockReport → BlockReport) (block : Block) : Block :=
  { block with toBlockReport := report block.toBlockReport }

def updateUnstakingAppsDataOnBlock (blockId : ℕ) (tables : IndexedTables) : Block → Block :=
  let data := stakeFigures Application.stakeStatus Application.stakeAmount .unstaking blockId
    tables.applications
  update blockId fun block => { block with unstakingApps := data.1, unstakingAppsTokens := data.2 }

def updateUnstakingSuppliersDataOnBlock (blockId : ℕ) (tables : IndexedTables) : Block → Block :=
  let data := stakeFigures Supplier.stakeStatus Supplier.stakeAmount .unstaking blockId
    tables.supplierTables.suppliers
  update blockId fun block =>
    { block with unstakingSuppliers := data.1, unstakingSuppliersTokens := data.2 }

def updateUnstakingValidatorsDataOnBlock (blockId : ℕ) (tables : IndexedTables) : Block → Block :=
  let data := stakeFigures Validator.stakeStatus Validator.stakeAmount .unstaking blockId
    tables.validators
  update blockId fun block =>
    { block with unstakingValidators := data.1, unstakingValidatorsTokens := data.2 }

/-- All figures of a block, which are updated one after the other. -/
def updateBlockReports (blockId : ℕ) (tables : IndexedTables) (blocks : List BlockRow)
    (block : Block) : Block :=
  block
    |> updateRelaysDataOnBlock blockId tables
    |> updateStakedAppsDataOnBlock blockId tables
    |> updateStakedGatewaysDataOnBlock blockId tables
    |> updateStakedSuppliersDataOnBlock blockId tables
    |> updateStakedValidatorsDataOnBlock blockId tables
    |> updateTookOnBlocks blockId blocks
    |> updateTxsDataOnBlock blockId tables
    |> updateUnstakedDataOnBlock (updateUnstakedAppsDataOnBlock blockId tables.applications)
    |> updateUnstakedDataOnBlock (updateUnstakedGatewaysDataOnBlock blockId tables.gateways)
    |> updateUnstakedDataOnBlock
      (updateUnstakedSuppliersDataOnBlock blockId tables.supplierTables.suppliers)
    |> updateUnstakingAppsDataOnBlock blockId tables
    |> updateUnstakingSuppliersDataOnBlock blockId tables
    |> updateUnstakingValidatorsDataOnBlock blockId tables

end Block

namespace ReportTables

/-- The figures of a block are updated on its row, from tables that stay as they are. -/
def updateBlockReports (blockId : ℕ) (tables : ReportTables) : ReportTables :=
  { tables with
    blocks := tables.blocks.map (Block.updateBlockReports blockId tables.toIndexedTables
      (tables.blocks.map Block.row)) }

/-- The figures of all blocks of a range. -/
def updateBlockReportsRange (startBlock endBlock : ℕ) (tables : ReportTables) : ReportTables :=
  (List.range' startBlock (endBlock + 1 - startBlock)).foldl
    (fun tables blockId => updateBlockReports blockId tables) tables

end ReportTables

/-- The settled relays of a block by service, without the random key of each row. -/
def relaysOfBlock (tables : IndexedTables) :
    SlotQuery RelaysByBlockAndService.blockId where
  rows blockId := (Sql.groupBy (fun c => c.serviceId) (claimsOfBlock blockId tables)).map
    fun (serviceId, rows) => {
      serviceId
      blockId
      amount := rows.length
      relays := Sql.sum (rows.map fun c => some c.numRelays)
      estimatedRelays := Sql.sum (rows.map fun c => some c.numEstimatedRelays)
      computedUnits := Sql.sum (rows.map fun c => some c.numClaimedComputedUnits)
      estimatedComputedUnits := Sql.sum (rows.map fun c => some c.numEstimatedComputedUnits)
      claimedUpokt := Sql.sum (rows.map fun c => some c.claimedAmount) }
  owned := by
    intro blockId row member
    obtain ⟨group, -, rfl⟩ := List.mem_map.mp member
    rfl

section

variable {ρ ξ : Type} (stakeOf : ξ → ρ → Bool) (serviceId : ξ → String)
  (stakeStatus : ρ → StakeStatus) (stakeAmount : ρ → Int)

/-- The visible stakes of a block with the services that are visible with them. -/
def stakedPairs (blockId : ℕ) (stakes : List (Row ρ)) (services : List (Row ξ)) : List (ρ × ξ) :=
  Sql.innerJoin (fun s ss => stakeOf ss s)
    ((shownAt blockId stakes).filter fun s => stakeStatus s = .staked) (shownAt blockId services)

/-- The stakes of a block by service, without the random key of each row. -/
def stakedOfBlock (stakes : List (Row ρ)) (services : List (Row ξ)) :
    SlotQuery StakedByBlockAndService.blockId where
  rows blockId := (Sql.groupBy (fun pair => serviceId pair.2)
      (stakedPairs stakeOf stakeStatus blockId stakes services)).map fun (serviceId, rows) => {
    serviceId
    blockId
    amount := rows.length
    tokens := Sql.sum (rows.map fun (s, _) => some (stakeAmount s)) }
  owned := by
    intro blockId row member
    obtain ⟨group, -, rfl⟩ := List.mem_map.mp member
    rfl

end

def stakedSuppliersOfBlock (tables : IndexedTables) :
    SlotQuery StakedByBlockAndService.blockId :=
  stakedOfBlock (fun ss s => ss.supplierId = s.id) SupplierServiceConfigProps.serviceId
    Supplier.stakeStatus Supplier.stakeAmount tables.supplierTables.suppliers
    tables.supplierTables.services

def stakedAppsOfBlock (tables : IndexedTables) : SlotQuery StakedByBlockAndService.blockId :=
  stakedOfBlock (fun ss s => ss.applicationId = s.id) ApplicationServiceProps.serviceId
    Application.stakeStatus Application.stakeAmount tables.applications
    tables.applicationServices

namespace ReportTables

/-- The tables as the daily summary reads them. -/
def rewards (tables : ReportTables) : RewardsTables where
  blocks := tables.blocks.map Block.row
  supplierTables := tables.supplierTables
  eventClaimSettleds := tables.eventClaimSettleds
  domainServiceDailyRewards := tables.domainServiceDailyRewards

/-- A statement that is sent for a block once it is indexed. -/
inductive Job where
  | updateBlockReports (blockId : ℕ)
  | upsertSuppliersByBlockAndServices (blockId : ℕ)
  | upsertAppsByBlockAndServices (blockId : ℕ)
  | upsertRelaysByBlockAndServices (blockId : ℕ)
  | refreshDomainServiceDailyRewards (blockId : ℕ)
  deriving DecidableEq, Repr

/-- What a statement leaves of the tables. -/
def Job.run (toDate : Int → Int) (tables : ReportTables) : Job → ReportTables
  | .updateBlockReports blockId => ReportTables.updateBlockReports blockId tables
  | .upsertSuppliersByBlockAndServices blockId => { tables with
    stakedSuppliersByBlockAndServices :=
      (stakedSuppliersOfBlock tables.toIndexedTables).refresh blockId
        tables.stakedSuppliersByBlockAndServices }
  | .upsertAppsByBlockAndServices blockId => { tables with
    stakedAppsByBlockAndServices := (stakedAppsOfBlock tables.toIndexedTables).refresh blockId
      tables.stakedAppsByBlockAndServices }
  | .upsertRelaysByBlockAndServices blockId => { tables with
    relaysByBlockAndServices := (relaysOfBlock tables.toIndexedTables).refresh blockId
      tables.relaysByBlockAndServices }
  | .refreshDomainServiceDailyRewards blockId => { tables with
    domainServiceDailyRewards :=
      (Pocketdex.refreshDomainServiceDailyRewards toDate blockId
        tables.rewards).domainServiceDailyRewards }

/-- The tables after statements one after the other. -/
def runJobs (toDate : Int → Int) (jobs : List Job) (tables : ReportTables) : ReportTables :=
  jobs.foldl (Job.run toDate) tables

/-- The statements a block is reported with, which are sent together. -/
def handleAddBlockReports (height : ℕ) (hasClaimSettled : Bool) : List Job :=
  [.updateBlockReports height, .upsertSuppliersByBlockAndServices height,
    .upsertAppsByBlockAndServices height, .upsertRelaysByBlockAndServices height] ++
      if hasClaimSettled then [.refreshDomainServiceDailyRewards height] else []

end ReportTables

end Pocketdex
