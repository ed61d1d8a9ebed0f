import Pocketdex.DbFunctions.BlockReports
import Pocketdex.Proofs.DomainRewards

/-! The statements that report on blocks end up the same in any order, however often they run. -/

namespace Pocketdex

namespace Block

/-- The time a block took, by the blocks that are stored. -/
def tookOf (rows : List BlockRow) (blockId : ℕ) : Int :=
  -- A block that is not stored has no row to report the time on.
  ((rows.find? fun block => block.id = blockId).bind fun current =>
    (rows.find? fun block => block.id + 1 = blockId).map fun previous =>
      current.timestamp - previous.timestamp).getD 0

/-- A row of a block with all its figures, which only keeps the id and the timestamp. -/
def reported (tables : IndexedTables) (rows : List BlockRow) (blockId : ℕ) (block : Block) :
    Block :=
  let claims := claimsOfBlock blockId tables
  let total (figure : Settlement.EventClaimSettledProps → Int) :=
    (Sql.sum (claims.map fun e => some (figure e))).getD 0
  let txs := tables.transactions.filter fun tx => tx.blockId = blockId
  let apps (status : StakeStatus) := stakeFigures Application.stakeStatus Application.stakeAmount
    status blockId tables.applications
  let suppliers (status : StakeStatus) := stakeFigures Supplier.stakeStatus Supplier.stakeAmount
    status blockId tables.supplierTables.suppliers
  let validators (status : StakeStatus) := stakeFigures Validator.stakeStatus Validator.stakeAmount
    status blockId tables.validators
  let gateways := stakeFigures Gateway.stakeStatus Gateway.stakeAmount .staked blockId tables.gateways
  let unstakedSuppliers := unstakedData Supplier.id Supplier.stakeStatus Supplier.stakeAmount
    blockId tables.supplierTables.suppliers
  let unstakedApps := unstakedData Application.id Application.stakeStatus Application.stakeAmount
    blockId tables.applications
  let unstakedGateways := unstakedData Gateway.id Gateway.stakeStatus Gateway.stakeAmount
    blockId tables.gateways
  -- Every figure of the row is a query on the tables, whatever it was before.
  { id := block.id
    unstakedSuppliers := unstakedSuppliers.1
    unstakedSuppliersTokens := unstakedSuppliers.2
    unstakedApps := unstakedApps.1
    unstakedAppsTokens := unstakedApps.2
    unstakedGateways := unstakedGateways.1
    unstakedGatewaysTokens := unstakedGateways.2
    timestamp := block.timestamp
    timeToBlock := tookOf rows blockId
    totalRelays := total fun e => e.numRelays
    totalEstimatedRelays := some (total fun e => e.numEstimatedRelays)
    totalComputedUnits := total fun e => e.numClaimedComputedUnits
    totalEstimatedComputedUnits := some (total fun e => e.numEstimatedComputedUnits)
    successfulTxs := (txs.map fun tx => if tx.code = 0 then 1 else 0).sum
    failedTxs := (txs.map fun tx => if tx.code ≠ 0 then 1 else 0).sum
    totalTxs := txs.length
    stakedSuppliers := (suppliers .staked).1
    stakedSuppliersTokens := (suppliers .staked).2
    unstakingSuppliers := (suppliers .unstaking).1
    unstakingSuppliersTokens := (suppliers .unstaking).2
    stakedApps := (apps .staked).1
    stakedAppsTokens := (apps .staked).2
    unstakingApps := (apps .unstaking).1
    unstakingAppsTokens := (apps .unstaking).2
    stakedGateways := gateways.1
    stakedGatewaysTokens := gateways.2
    stakedValidators := (validators .staked).1
    stakedValidatorsTokens := (validators .staked).2
    unstakingValidators := (validators .unstaking).1
    unstakingValidatorsTokens := (validators .unstaking).2 }

/-- An update of another block leaves a row alone. -/
theorem update_of_ne {blockId : ℕ} {block : Block} (other : block.id ≠ blockId)
    (set : Block → Block) : block.update blockId set = block := if_neg other

/-- All figures of a block together are what they are reported as, and no others change. -/
theorem updateBlockReports_eq (blockId : ℕ) (tables : IndexedTables) (blocks : List BlockRow)
    {block : Block} (stored : block.id = blockId → block.row ∈ blocks) :
    block.updateBlockReports blockId tables blocks =
      block.update blockId (reported tables blocks blockId) := by
  by_cases here : block.id = blockId
  · subst here
    have took : ∀ other : Block, other.id = block.id →
        updateTookOnBlocks block.id blocks other =
          { other with timeToBlock := tookOf blocks block.id } := by
      intro other same
      unfold updateTookOnBlocks tookOf
      cases found : blocks.find? fun b => decide (b.id = block.id) with
      | none =>
        have absent := List.find?_eq_none.mp found block.row (stored rfl)
        exact absurd (decide_eq_true rfl) absent
      | some current =>
        simp only [Block.update, same, if_true, Option.bind_some]
    -- Each function writes columns of its own, whatever the row held in them.
    unfold updateBlockReports
    rw [took]
    · simp only [updateRelaysDataOnBlock, updateStakedAppsDataOnBlock,
        updateStakedGatewaysDataOnBlock, updateStakedSuppliersDataOnBlock,
        updateStakedValidatorsDataOnBlock, updateTxsDataOnBlock, updateUnstakedDataOnBlock,
        updateUnstakedAppsDataOnBlock, updateUnstakedGatewaysDataOnBlock,
        updateUnstakedSuppliersDataOnBlock, updateUnstakingAppsDataOnBlock,
        updateUnstakingSuppliersDataOnBlock, updateUnstakingValidatorsDataOnBlock, update, if_true]
      rfl
    · simp only [updateRelaysDataOnBlock, updateStakedAppsDataOnBlock,
        updateStakedGatewaysDataOnBlock, updateStakedSuppliersDataOnBlock,
        updateStakedValidatorsDataOnBlock, update, if_true]
  · -- Every function leaves the row of another block alone.
    have took : ∀ other : Block, other.id = block.id →
        updateTookOnBlocks blockId blocks other = other := by
      intro other same
      unfold updateTookOnBlocks
      split
      · rfl
      · exact update_of_ne (by rw [same]; exact here) _
    unfold updateBlockReports
    rw [took]
    · simp only [updateRelaysDataOnBlock, updateStakedAppsDataOnBlock,
        updateStakedGatewaysDataOnBlock, updateStakedSuppliersDataOnBlock,
        updateStakedValidatorsDataOnBlock, updateTxsDataOnBlock, updateUnstakedDataOnBlock,
        updateUnstakedAppsDataOnBlock, updateUnstakedGatewaysDataOnBlock,
        updateUnstakedSuppliersDataOnBlock, updateUnstakingAppsDataOnBlock,
        updateUnstakingSuppliersDataOnBlock, updateUnstakingValidatorsDataOnBlock, update, here,
        if_false]
    · simp only [updateRelaysDataOnBlock, updateStakedAppsDataOnBlock,
        updateStakedGatewaysDataOnBlock, updateStakedSuppliersDataOnBlock,
        updateStakedValidatorsDataOnBlock, update, here, if_false]

end Block

namespace ReportTables

/-- The block a statement reports the figures of. -/
def Job.figures? : Job → Option ℕ
  | .updateBlockReports blockId => some blockId
  | _ => none

/-- The block a statement summarizes the staked suppliers of. -/
def Job.suppliers? : Job → Option ℕ
  | .upsertSuppliersByBlockAndServices blockId => some blockId
  | _ => none

/-- The block a statement summarizes the staked applications of. -/
def Job.apps? : Job → Option ℕ
  | .upsertAppsByBlockAndServices blockId => some blockId
  | _ => none

/-- The block a statement summarizes the relays of. -/
def Job.relays? : Job → Option ℕ
  | .upsertRelaysByBlockAndServices blockId => some blockId
  | _ => none

/-- The day a statement summarizes, when its block is stored. -/
def Job.day? (toDate : Int → Int) (blocks : List BlockRow) : Job → Option Int
  | .refreshDomainServiceDailyRewards blockId =>
    (blocks.find? fun b => b.id = blockId).map fun block => toDate block.timestamp
  | _ => none

/-- What the rewards of a day are queried from. -/
def rewardsOf (tables : IndexedTables) (blocks : List BlockRow) : RewardsTables where
  blocks := blocks
  supplierTables := tables.supplierTables
  eventClaimSettleds := tables.eventClaimSettleds
  domainServiceDailyRewards := []

/-- The summary of a day, by the blocks that are stored. -/
def rewardsOfDay (toDate : Int → Int) (tables : IndexedTables) (blocks : List BlockRow) :
    SlotQuery DomainServiceDailyRewards.day where
  rows day := dailyRewards toDate day
    (dayRange ((blocks.filter fun b => toDate b.timestamp = day).map BlockRow.id))
    (rewardsOf tables blocks)
  owned := fun _ _ => day_of_mem_dailyRewards

/-- What statements leave behind: their figures, and their slots of the summary tables. -/
structure Reports (toDate : Int → Int) (jobs : List Job) (tables after : ReportTables) : Prop where
  indexed : after.toIndexedTables = tables.toIndexedTables
  blocks : after.blocks = tables.blocks.map fun block =>
    if block.id ∈ jobs.filterMap Job.figures? then
      Block.reported tables.toIndexedTables (tables.blocks.map Block.row) block.id block
    else block
  suppliers : after.stakedSuppliersByBlockAndServices =
    (stakedSuppliersOfBlock tables.toIndexedTables).refreshAll (jobs.filterMap Job.suppliers?)
      tables.stakedSuppliersByBlockAndServices
  apps : after.stakedAppsByBlockAndServices =
    (stakedAppsOfBlock tables.toIndexedTables).refreshAll (jobs.filterMap Job.apps?)
      tables.stakedAppsByBlockAndServices
  relays : after.relaysByBlockAndServices =
    (relaysOfBlock tables.toIndexedTables).refreshAll (jobs.filterMap Job.relays?)
      tables.relaysByBlockAndServices
  rewards : after.domainServiceDailyRewards =
    (rewardsOfDay toDate tables.toIndexedTables (tables.blocks.map Block.row)).refreshAll
      (jobs.filterMap (Job.day? toDate (tables.blocks.map Block.row)))
      tables.domainServiceDailyRewards

variable {toDate : Int → Int} {tables after last : ReportTables} {jobs rest : List Job}

/-- Reporting keeps what queries join blocks on. -/
theorem Reports.rows (reports : Reports toDate jobs tables after) :
    after.blocks.map Block.row = tables.blocks.map Block.row := by
  rw [reports.blocks, List.map_map]
  apply List.map_congr_left
  intro block _
  simp only [Function.comp_apply]
  split <;> rfl

/-- Reporting on no block leaves all rows as they are. -/
theorem map_unreported (blocks : List Block) (set : Block → Block) :
    (blocks.map fun block => if block.id ∈ ([] : List ℕ) then set block else block) = blocks := by
  simp only [List.not_mem_nil, if_false, List.map_id']

/-- One statement leaves its own reports behind. -/
theorem Job.run_reports (job : Job) : Reports toDate [job] tables (job.run toDate tables) := by
  cases job with
  | updateBlockReports blockId =>
    refine ⟨rfl, ?_, rfl, rfl, rfl, rfl⟩
    apply List.map_congr_left
    intro block member
    rw [Block.updateBlockReports_eq blockId _ _ fun _ => List.mem_map_of_mem member]
    simp only [Block.update, List.filterMap_cons, Job.figures?, List.filterMap_nil,
      List.mem_singleton]
    split
    · rename_i here
      rw [here]
    · rfl
  | upsertSuppliersByBlockAndServices blockId =>
    exact ⟨rfl, (map_unreported ..).symm, rfl, rfl, rfl, rfl⟩
  | upsertAppsByBlockAndServices blockId =>
    exact ⟨rfl, (map_unreported ..).symm, rfl, rfl, rfl, rfl⟩
  | upsertRelaysByBlockAndServices blockId =>
    exact ⟨rfl, (map_unreported ..).symm, rfl, rfl, rfl, rfl⟩
  | refreshDomainServiceDailyRewards blockId =>
    refine ⟨rfl, (map_unreported ..).symm, rfl, rfl, rfl, ?_⟩
    -- Without its block the statement finds no day to summarize.
    simp only [Job.run, Pocketdex.refreshDomainServiceDailyRewards, List.filterMap_cons, Job.day?,
      rewards]
    cases found : (tables.blocks.map Block.row).find? fun b => decide (b.id = blockId) with
    | none => rfl
    | some block => rfl

/-- Statements after others leave the reports of both. -/
theorem Reports.append (first : Reports toDate jobs tables after)
    (second : Reports toDate rest after last) : Reports toDate (jobs ++ rest) tables last := by
  -- The second statements read the same tables as the first.
  have rows := first.rows
  obtain ⟨indexed, blocks, suppliers, apps, relays, rewards⟩ := second
  rw [rows, first.indexed] at *
  refine ⟨indexed, ?_, ?_, ?_, ?_, ?_⟩
  · rw [blocks, first.blocks, List.map_map, List.filterMap_append]
    apply List.map_congr_left
    intro block _
    simp only [Function.comp_apply, List.mem_append]
    by_cases early : block.id ∈ jobs.filterMap Job.figures?
    · rw [if_pos early, if_pos (Or.inl early)]
      -- Reporting the figures twice writes the same ones.
      split <;> rfl
    · simp only [early, if_false, false_or]
  · rw [suppliers, first.suppliers, List.filterMap_append, SlotQuery.refreshAll_append]
  · rw [apps, first.apps, List.filterMap_append, SlotQuery.refreshAll_append]
  · rw [relays, first.relays, List.filterMap_append, SlotQuery.refreshAll_append]
  · rw [rewards, first.rewards, List.filterMap_append, SlotQuery.refreshAll_append]

/-- Statements one after the other leave the reports of all of them. -/
theorem runJobs_reports : Reports toDate jobs tables (runJobs toDate jobs tables) := by
  induction jobs generalizing tables with
  | nil => exact ⟨rfl, (map_unreported ..).symm, rfl, rfl, rfl, rfl⟩
  | cons job rest ih => exact job.run_reports.append ih

/-- A range of blocks is reported on by one statement for each of them. -/
theorem updateBlockReportsRange_eq (toDate : Int → Int) (startBlock endBlock : ℕ) :
    updateBlockReportsRange startBlock endBlock tables =
      runJobs toDate ((List.range' startBlock (endBlock + 1 - startBlock)).map
        Job.updateBlockReports) tables := by
  rw [runJobs, List.foldl_map]
  rfl

/-- Every stored block of the range gets its figures, and the other rows stay as they are. -/
theorem updateBlockReportsRange_blocks (startBlock endBlock : ℕ) :
    (updateBlockReportsRange startBlock endBlock tables).blocks =
      tables.blocks.map fun block =>
        if startBlock ≤ block.id ∧ block.id ≤ endBlock then
          Block.reported tables.toIndexedTables (tables.blocks.map Block.row) block.id block
        else block := by
  have figures : ((List.range' startBlock (endBlock + 1 - startBlock)).map
      Job.updateBlockReports).filterMap Job.figures? =
        List.range' startBlock (endBlock + 1 - startBlock) := by
    rw [List.filterMap_map]
    exact List.filterMap_some
  rw [updateBlockReportsRange_eq id, runJobs_reports.blocks, figures]
  apply List.map_congr_left
  intro block _
  -- An empty range ends before it starts.
  have inside : block.id ∈ List.range' startBlock (endBlock + 1 - startBlock) ↔
      startBlock ≤ block.id ∧ block.id ≤ endBlock := by
    rw [List.mem_range'_1]
    omega
  simp only [inside]

/-- Tables that differ in the order of the rows of their summaries only. -/
structure SameReports (first second : ReportTables) : Prop where
  indexed : first.toIndexedTables = second.toIndexedTables
  blocks : first.blocks = second.blocks
  suppliers : first.stakedSuppliersByBlockAndServices.Perm
    second.stakedSuppliersByBlockAndServices
  apps : first.stakedAppsByBlockAndServices.Perm second.stakedAppsByBlockAndServices
  relays : first.relaysByBlockAndServices.Perm second.relaysByBlockAndServices
  rewards : first.domainServiceDailyRewards.Perm second.domainServiceDailyRewards

/-- Statements that report on blocks end up the same in any order, however often each of them is
sent: only which statements were sent matters. -/
theorem reports_converge (toDate : Int → Int) (tables : ReportTables) (jobs others : List Job)
    (same : ∀ job, job ∈ jobs ↔ job ∈ others) :
    SameReports (runJobs toDate jobs tables) (runJobs toDate others tables) := by
  have first : Reports toDate jobs tables (runJobs toDate jobs tables) := runJobs_reports
  have second : Reports toDate others tables (runJobs toDate others tables) := runJobs_reports
  -- Statements on the same blocks refresh the same slots.
  have slots : ∀ {σ : Type} (slot : Job → Option σ) (value : σ),
      value ∈ jobs.filterMap slot ↔ value ∈ others.filterMap slot := by
    intro σ slot value
    simp only [List.mem_filterMap, same]
  refine ⟨first.indexed.trans second.indexed.symm, ?_, ?_, ?_, ?_, ?_⟩
  · rw [first.blocks, second.blocks]
    simp only [slots]
  · rw [first.suppliers, second.suppliers]
    exact SlotQuery.refreshAll_perm (slots _)
  · rw [first.apps, second.apps]
    exact SlotQuery.refreshAll_perm (slots _)
  · rw [first.relays, second.relays]
    exact SlotQuery.refreshAll_perm (slots _)
  · rw [first.rewards, second.rewards]
    exact SlotQuery.refreshAll_perm (slots _)

/-- The statements of a block are sent in the other order, and all of them once more. -/
theorem reports_converge_resent :
    SameReports
      (runJobs id (handleAddBlockReports 5 true) { emptyReports with blocks := [handleBlock 5 60] })
      (runJobs id ((handleAddBlockReports 5 true).reverse ++ handleAddBlockReports 5 true)
        { emptyReports with blocks := [handleBlock 5 60] }) :=
  reports_converge _ _ _ _ fun job => by simp

end ReportTables

end Pocketdex
