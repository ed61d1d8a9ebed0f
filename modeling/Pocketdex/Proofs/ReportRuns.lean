import Pocketdex.Pocket.SupplierIndex
import Pocketdex.Proofs.BlockReports

/-! Reports can be made again at any later time: no later block changes what they read. -/

namespace Pocketdex

section

variable {ρ : Type} {height blockId : ℕ} {rows : List (Row ρ)}

/-- Where a version begins is known before any later height, unless it shows no height at all. -/
theorem lowerOrNull_cut {row : Row ρ} (begun : row.blockRange.lower < height) :
    (row.cut height).blockRange.lowerOrNull = row.blockRange.lowerOrNull := by
  -- A cut version ends after it begins, as it did before.
  unfold Row.cut
  split
  · rename_i endless
    have kept : ¬height ≤ row.blockRange.lower := by omega
    cases upper : row.blockRange.upper with
    | none =>
      simp [Row.close, BlockRange.lowerOrNull, upper, kept]
    | some ended =>
      rw [upper] at endless
      simp only [Option.all_some, decide_eq_true_eq] at endless
      have outlasts : ¬ended ≤ row.blockRange.lower := by omega
      simp [Row.close, BlockRange.lowerOrNull, upper, kept, outlasts]
  · rfl

/-- The versions that a condition on their data and beginning selects are cut alike. -/
theorem filter_cut {selects : Row ρ → Bool}
    (cut : ∀ row, row.blockRange.lower < height → selects (row.cut height) = selects row)
    (early : ∀ row, selects row = true → row.blockRange.lower < height) :
    (rowsBefore height rows).filter selects = (rows.filter selects).map (Row.cut height) := by
  unfold rowsBefore
  rw [List.filter_map, List.filter_filter]
  congr 1
  apply List.filter_congr
  intro row _
  -- A version that begins later is not selected in either table.
  by_cases begun : row.blockRange.lower < height
  · simp only [Function.comp_apply, cut row begun, begun, decide_true, Bool.and_true]
  · have unselected : selects row = false := by
      rw [← Bool.not_eq_true]
      exact fun chosen => begun (early row chosen)
    simp only [begun, decide_false, Bool.and_false, unselected]

/-- The greatest of images is the image of the greatest. -/
theorem argmax_map {α : Type} (f : α → ℕ) {g : α → α} (keeps : ∀ item, f (g item) = f item)
    (items : List α) : (items.map g).argmax f = (items.argmax f).map g := by
  induction items with
  | nil => rfl
  | cons item rest ih =>
    rw [List.map_cons, List.argmax_cons, List.argmax_cons, ih]
    cases rest.argmax f with
    | none => rfl
    | some greatest =>
      simp only [Option.map_some, keeps]
      split <;> rfl

variable {id : ρ → String} {stakeStatus : ρ → StakeStatus} {stakeAmount : ρ → Int}

/-- The stake before a block only reads what was written before it. -/
theorem previousStake_rowsBefore (early : blockId < height) (ofId : String) :
    previousStake id stakeAmount blockId ofId (rowsBefore height rows) =
      previousStake id stakeAmount blockId ofId rows := by
  -- A version that began before the block began before any later height.
  have begins : ∀ row : Row ρ, (row.blockRange.lowerOrNull.any fun lower => decide (lower < blockId)) =
      true → row.blockRange.lower < height := by
    intro row known
    unfold BlockRange.lowerOrNull at known
    split at known
    · simp at known
    · simp only [Option.any_some, decide_eq_true_eq] at known
      omega
  unfold previousStake
  rw [filter_cut]
  · simp only
    rw [argmax_map _ fun row => Row.cut_lower row, Option.map_map]
    congr 1
    funext row
    simp only [Function.comp_apply, Row.cut_data]
  · intro row begun
    simp only [Row.cut_data, lowerOrNull_cut begun]
  · intro row chosen
    simp only [decide_eq_true_eq] at chosen
    exact begins row chosen.2

/-- What turned unstaked in a block only reads what was written up to it. -/
theorem unstakedData_rowsBefore (early : blockId < height) :
    unstakedData id stakeStatus stakeAmount blockId (rowsBefore height rows) =
      unstakedData id stakeStatus stakeAmount blockId rows := by
  -- The versions that begin with the block are only cut, in their end.
  have here : unstakedHere stakeStatus blockId (rowsBefore height rows) =
      (unstakedHere stakeStatus blockId rows).map (Row.cut height) := by
    unfold unstakedHere
    refine filter_cut (fun row begun => ?_) fun row chosen => ?_
    · simp only [Row.cut_data, lowerOrNull_cut begun]
    · simp only [decide_eq_true_eq] at chosen
      have begun := chosen.2
      unfold BlockRange.lowerOrNull at begun
      split at begun
      · cases begun
      · have same := Option.some.inj begun
        omega
  unfold unstakedData
  simp only [here, List.length_map, List.map_map, Function.comp_def, Row.cut_data,
    previousStake_rowsBefore early]

end

/-- What is written while a block is indexed, by any of its handlers in any order, and the order in
which its reports take effect. -/
structure IndexedBlock where
  height : ℕ
  row : Block
  suppliers : List (Write Supplier)
  services : List (Write SupplierServiceConfigProps)
  -- The tables of supplier messages and events, which no report reads.
  supplierMessages : SupplierTables
  applications : List (Write Application)
  applicationServices : List (Write ApplicationServiceProps)
  gateways : List (Write Gateway)
  validators : List (Write Validator)
  transactions : List TransactionProps
  claims : List Settlement.EventClaimSettledProps
  hasClaimSettled : Bool
  reports : List ReportTables.Job
  named : row.id = height
  ownTransactions : ∀ tx ∈ transactions, tx.blockId = height
  ownClaims : ∀ e ∈ claims, e.blockId = height
  reported : reports.Perm (ReportTables.handleAddBlockReports height hasClaimSettled)

namespace IndexedBlock

open ReportTables

/-- The tables once a block is stored. -/
def store (block : IndexedBlock) (tables : ReportTables) : ReportTables :=
  { tables with
    supplierTables := { block.supplierMessages with
      suppliers := performWrites Supplier.id block.height block.suppliers
        tables.supplierTables.suppliers
      services := performWrites SupplierServiceConfigProps.id block.height block.services
        tables.supplierTables.services }
    applications := performWrites Application.id block.height block.applications
      tables.applications
    applicationServices := performWrites ApplicationServiceProps.id block.height
      block.applicationServices tables.applicationServices
    gateways := performWrites Gateway.id block.height block.gateways tables.gateways
    validators := performWrites Validator.id block.height block.validators tables.validators
    -- Bulk writes by block replace the rows of the block.
    transactions := (tables.transactions.filter fun tx => tx.blockId ≠ block.height) ++
      block.transactions
    eventClaimSettleds := (tables.eventClaimSettleds.filter fun e => e.blockId ≠ block.height) ++
      block.claims
    blocks := tables.blocks ++ [block.row] }

/-- The tables once a block is stored and reported on. -/
def index (toDate : Int → Int) (tables : ReportTables) (block : IndexedBlock) : ReportTables :=
  runJobs toDate block.reports (block.store tables)

end IndexedBlock

section

variable {ρ : Type}

/-- How the indexing of suppliers writes a table: its rows of the block are deleted when there are
new ones, the newest versions of some ids are closed, and the new ones are inserted. -/
def recordWrites (id : ρ → String) (toSave : List ρ) (toClose : List String) : List (Write ρ) :=
  [.destroy fun _ => !toSave.isEmpty, .close fun data => id data ∈ toClose,
    .insert (toSave.map fun data => (data, none))]

/-- These writes are what the statements on a table do. -/
theorem performWrites_records (height : ℕ) (id : ρ → String) (toSave : List ρ)
    (toClose : List String) (rows : List (Row ρ)) :
    performWrites id height (recordWrites id toSave toClose) rows =
      insertRecords height toSave
        (closeRecords height id toClose (removeRecords height toSave rows)) := by
  -- Statements on nothing are not sent, and would change nothing.
  have removed : rows.filter (fun row => !(!toSave.isEmpty && decide (row.blockRange.lower = height)))
      = removeRecords height toSave rows := by
    unfold removeRecords
    cases toSave.isEmpty <;> simp
  have closed : ∀ kept : List (Row ρ), closeWhere (fun data => id data ∈ toClose) height kept =
      closeRecords height id toClose kept := by
    intro kept
    unfold closeRecords
    split
    · rename_i empty
      rw [List.isEmpty_iff.mp empty]
      simp [closeWhere]
    · rfl
  simp only [performWrites, recordWrites, List.foldl_cons, List.foldl_nil, Write.perform, removed,
    closed, insertRecords, List.map_map]
  rfl

/-- Whatever suppliers a block indexes, its writes to their tables are writes of the block. -/
theorem IndexedBlock.store_indexSupplier {externals : Externals} {block : IndexedBlock}
    {tables : ReportTables} {allData : List StakeDatum} {after : SupplierTables}
    (indexed : indexSupplier externals block.height tables.supplierTables allData = .ok after) :
    ∃ suppliers services, ({ block with suppliers, services, supplierMessages := after }.store
      tables).supplierTables = after := by
  unfold indexSupplier at indexed
  obtain ⟨writes, -, performed⟩ := exceptBind_ok indexed
  cases performed
  refine ⟨recordWrites Supplier.id writes.suppliersToSave writes.suppliersToClose,
    recordWrites SupplierServiceConfigProps.id writes.servicesToSave
      writes.changes.servicesToClose, ?_⟩
  simp only [IndexedBlock.store, performWrites_records]
  rfl

end

/-- The tables after blocks one after the other. -/
def indexBlocks (toDate : Int → Int) (blocks : List IndexedBlock) (tables : ReportTables) :
    ReportTables :=
  blocks.foldl (IndexedBlock.index toDate) tables

/-- Tables that are the same as far as reports on the heights before one read them. -/
structure SameBefore (height : ℕ) (first second : IndexedTables) : Prop where
  suppliers : rowsBefore height first.supplierTables.suppliers =
    rowsBefore height second.supplierTables.suppliers
  services : rowsBefore height first.supplierTables.services =
    rowsBefore height second.supplierTables.services
  applications : rowsBefore height first.applications = rowsBefore height second.applications
  applicationServices : rowsBefore height first.applicationServices =
    rowsBefore height second.applicationServices
  gateways : rowsBefore height first.gateways = rowsBefore height second.gateways
  validators : rowsBefore height first.validators = rowsBefore height second.validators
  transactions : ∀ id < height, first.transactions.filter (fun tx => tx.blockId = id) =
    second.transactions.filter fun tx => tx.blockId = id
  claims : ∀ id < height, claimsOfBlock id first = claimsOfBlock id second

namespace SameBefore

variable {height id : ℕ} {first second : IndexedTables}

/-- Rows of a block replace none of another block. -/
theorem filter_replaced {ρ : Type} {blockId : ρ → ℕ} {rows added : List ρ}
    (own : ∀ row ∈ added, blockId row = height) (other : id ≠ height) :
    ((rows.filter fun row => blockId row ≠ height) ++ added).filter (fun row => blockId row = id) =
      rows.filter fun row => blockId row = id := by
  have none : (added.filter fun row => decide (blockId row = id)) = [] := by
    apply List.filter_eq_nil_iff.mpr
    intro row member
    rw [own row member, decide_eq_true_eq]
    exact fun same => other same.symm
  rw [List.filter_append, none, List.append_nil, List.filter_filter]
  apply List.filter_congr
  intro row _
  by_cases same : blockId row = id
  · simp [same, other]
  · simp [same]

/-- Storing a block changes nothing before it. -/
theorem store (block : IndexedBlock) (tables : ReportTables) :
    SameBefore block.height (block.store tables).toIndexedTables tables.toIndexedTables where
  suppliers := rowsBefore_performWrites (Nat.le_refl _) block.suppliers
  services := rowsBefore_performWrites (Nat.le_refl _) block.services
  applications := rowsBefore_performWrites (Nat.le_refl _) block.applications
  applicationServices := rowsBefore_performWrites (Nat.le_refl _) block.applicationServices
  gateways := rowsBefore_performWrites (Nat.le_refl _) block.gateways
  validators := rowsBefore_performWrites (Nat.le_refl _) block.validators
  transactions := fun _ early => filter_replaced block.ownTransactions (Nat.ne_of_lt early)
  claims := fun _ early => filter_replaced block.ownClaims (Nat.ne_of_lt early)

/-- Stakes are counted alike. -/
theorem stakeFigures_eq {ρ : Type} {stakeStatus : ρ → StakeStatus} {stakeAmount : ρ → Int}
    {rows others : List (Row ρ)} (early : id < height)
    (same : rowsBefore height rows = rowsBefore height others) (status : StakeStatus) :
    stakeFigures stakeStatus stakeAmount status id rows =
      stakeFigures stakeStatus stakeAmount status id others := by
  simp only [stakeFigures, shownAt_congr early same]

/-- What turned unstaked is counted alike. -/
theorem unstakedData_eq {ρ : Type} {ofId : ρ → String} {stakeStatus : ρ → StakeStatus}
    {stakeAmount : ρ → Int} {rows others : List (Row ρ)} (early : id < height)
    (same : rowsBefore height rows = rowsBefore height others) :
    unstakedData ofId stakeStatus stakeAmount id rows =
      unstakedData ofId stakeStatus stakeAmount id others := by
  rw [← unstakedData_rowsBefore early, same, unstakedData_rowsBefore early]

/-- The figures of a block are the same. -/
theorem reported_eq (same : SameBefore height first second) (early : id < height)
    {rows others : List BlockRow} (took : Block.tookOf rows id = Block.tookOf others id)
    (block : Block) : Block.reported first rows id block = Block.reported second others id block := by
  simp only [Block.reported, took, same.claims id early, same.transactions id early,
    stakeFigures_eq early same.suppliers, stakeFigures_eq early same.applications,
    stakeFigures_eq early same.gateways, stakeFigures_eq early same.validators,
    unstakedData_eq early same.suppliers, unstakedData_eq early same.applications,
    unstakedData_eq early same.gateways]

/-- So are its rows of the summaries of stakes. -/
theorem stakedOfBlock_eq {ρ ξ : Type} {stakeOf : ξ → ρ → Bool} {serviceId : ξ → String}
    {stakeStatus : ρ → StakeStatus} {stakeAmount : ρ → Int} {stakes others : List (Row ρ)}
    {services more : List (Row ξ)} (early : id < height)
    (same : rowsBefore height stakes = rowsBefore height others)
    (alike : rowsBefore height services = rowsBefore height more) :
    (stakedOfBlock stakeOf serviceId stakeStatus stakeAmount stakes services).rows id =
      (stakedOfBlock stakeOf serviceId stakeStatus stakeAmount others more).rows id := by
  simp only [stakedOfBlock, stakedPairs, shownAt_congr early same, shownAt_congr early alike]

end SameBefore

open ReportTables

/-- Every stored block has the figures that would be reported on it now, and every summary holds
what would be queried for the block now. -/
structure UpToDate (heights : List ℕ) (tables : ReportTables) : Prop where
  ids : ∀ block ∈ tables.blocks, block.id ∈ heights
  figures : ∀ block ∈ tables.blocks,
    Block.reported tables.toIndexedTables (tables.blocks.map Block.row) block.id block = block
  suppliers : ∀ id ∈ heights, slotRows StakedByBlockAndService.blockId id
    tables.stakedSuppliersByBlockAndServices =
      (stakedSuppliersOfBlock tables.toIndexedTables).rows id
  apps : ∀ id ∈ heights, slotRows StakedByBlockAndService.blockId id
    tables.stakedAppsByBlockAndServices = (stakedAppsOfBlock tables.toIndexedTables).rows id
  relays : ∀ id ∈ heights, slotRows RelaysByBlockAndService.blockId id
    tables.relaysByBlockAndServices = (relaysOfBlock tables.toIndexedTables).rows id

namespace IndexedBlock

variable {toDate : Int → Int} {heights : List ℕ} {tables after : ReportTables}
  {block : IndexedBlock}

/-- A block is reported on by one statement of each kind, which is about the block itself. -/
theorem mem_reports (block : IndexedBlock) (id : ℕ) :
    (id ∈ block.reports.filterMap Job.figures? ↔ id = block.height) ∧
    (id ∈ block.reports.filterMap Job.suppliers? ↔ id = block.height) ∧
    (id ∈ block.reports.filterMap Job.apps? ↔ id = block.height) ∧
    (id ∈ block.reports.filterMap Job.relays? ↔ id = block.height) := by
  -- The order of the statements does not matter, nor whether the day is summarized.
  rw [(block.reported.filterMap _).mem_iff, (block.reported.filterMap _).mem_iff,
    (block.reported.filterMap _).mem_iff, (block.reported.filterMap _).mem_iff]
  cases settled : block.hasClaimSettled <;>
    simp [ReportTables.handleAddBlockReports, Job.figures?, Job.suppliers?, Job.apps?,
      Job.relays?, eq_comm]

/-- The new row is reported on, and the older ones stay as they are. -/
theorem index_blocks (earlier : ∀ stored ∈ tables.blocks, stored.id ≠ block.height) :
    (block.index toDate tables).blocks = tables.blocks ++
      [Block.reported (block.store tables).toIndexedTables
        ((block.store tables).blocks.map Block.row) block.height block.row] := by
  have reports : Reports toDate block.reports (block.store tables) (block.index toDate tables) :=
    runJobs_reports
  rw [reports.blocks]
  show (tables.blocks ++ [block.row]).map _ = _
  rw [List.map_append]
  congr 1
  · refine (List.map_congr_left fun stored member => ?_).trans (List.map_id _)
    rw [if_neg fun chosen => earlier stored member ((block.mem_reports _).1.mp chosen)]
    rfl
  · rw [List.map_singleton, if_pos ((block.mem_reports _).1.mpr block.named), block.named]

/-- The time a block took does not depend on later ones. -/
theorem tookOf_append {rows : List BlockRow} {row : BlockRow} {id : ℕ} (early : id < row.id) :
    Block.tookOf (rows ++ [row]) id = Block.tookOf rows id := by
  -- The new row is neither the block nor the one before it.
  have own : ¬row.id = id := by omega
  have next : ¬row.id + 1 = id := by omega
  unfold Block.tookOf
  rw [List.find?_append, List.find?_append]
  simp [own, next]

/-- Indexing a block keeps all reports up to date, and adds its own. -/
theorem index_upToDate (current : UpToDate heights tables)
    (later : ∀ id ∈ heights, id < block.height) :
    UpToDate (heights ++ [block.height]) (block.index toDate tables) := by
  have reports : Reports toDate block.reports (block.store tables) (block.index toDate tables) :=
    runJobs_reports
  have same := SameBefore.store block tables
  have blocks := @index_blocks toDate tables block
    fun stored member => Nat.ne_of_lt (later _ (current.ids stored member))
  -- Slots of earlier blocks are not refreshed, and their queries read nothing new.
  have slots : ∀ {ρ : Type} {slot : ρ → ℕ} {query before : SlotQuery slot} {values : List ℕ}
      {rows : List ρ}, (∀ id, id ∈ values ↔ id = block.height) →
      (∀ id ∈ heights, query.rows id = before.rows id) →
      (∀ id ∈ heights, slotRows slot id rows = before.rows id) →
      ∀ id ∈ heights ++ [block.height],
        slotRows slot id (query.refreshAll values rows) = query.rows id := by
    intro ρ slot query before values rows own unchanged known id member
    rw [SlotQuery.slotRows_refreshAll]
    rcases List.mem_append.mp member with old | new
    · have different : id ∉ values := fun chosen =>
        Nat.ne_of_lt (later id old) ((own id).mp chosen)
      rw [if_neg different, known id old, unchanged id old]
    · rw [if_pos ((own id).mpr (List.mem_singleton.mp new))]
  refine ⟨?_, ?_, ?_, ?_, ?_⟩
  · -- The ids stored are the heights seen, with the new one.
    intro stored member
    rw [blocks] at member
    rcases List.mem_append.mp member with old | new
    · exact List.mem_append_left _ (current.ids stored old)
    · rw [List.mem_singleton.mp new]
      exact List.mem_append_right _ (List.mem_singleton.mpr block.named)
  · -- Figures of earlier blocks are still what their queries say.
    intro stored member
    rw [reports.indexed, reports.rows]
    rw [blocks] at member
    rcases List.mem_append.mp member with old | new
    · have early := later _ (current.ids stored old)
      have took : Block.tookOf ((block.store tables).blocks.map Block.row) stored.id =
          Block.tookOf (tables.blocks.map Block.row) stored.id := by
        show Block.tookOf ((tables.blocks ++ [block.row]).map Block.row) _ = _
        rw [List.map_append]
        exact tookOf_append (by rw [← block.named] at early; exact early)
      rw [same.reported_eq early took, current.figures stored old]
    · -- Reporting on the new row again writes the same figures.
      rw [List.mem_singleton.mp new]
      show Block.reported _ _ block.row.id _ = _
      rw [block.named]
      rfl
  · rw [reports.indexed, reports.suppliers]
    exact slots (fun id => (block.mem_reports id).2.1)
      (fun id old => SameBefore.stakedOfBlock_eq (later id old) same.suppliers same.services)
      current.suppliers
  · rw [reports.indexed, reports.apps]
    exact slots (fun id => (block.mem_reports id).2.2.1)
      (fun id old => SameBefore.stakedOfBlock_eq (later id old) same.applications
        same.applicationServices) current.apps
  · rw [reports.indexed, reports.relays]
    refine slots (fun id => (block.mem_reports id).2.2.2) (fun id old => ?_) current.relays
    simp only [relaysOfBlock, same.claims id (later id old)]

end IndexedBlock

variable {toDate : Int → Int} {heights : List ℕ} {tables : ReportTables}

/-- Reports that are up to date before some blocks are up to date after them. -/
theorem indexBlocks_upToDate {blocks : List IndexedBlock} (current : UpToDate heights tables)
    (increasing : (heights ++ blocks.map IndexedBlock.height).Pairwise (· < ·)) :
    UpToDate (heights ++ blocks.map IndexedBlock.height) (indexBlocks toDate blocks tables) := by
  induction blocks generalizing heights tables with
  | nil => simpa [indexBlocks] using current
  | cons block rest ih =>
    rw [List.map_cons, List.append_cons] at increasing ⊢
    have first := (List.pairwise_append.mp (List.pairwise_append.mp increasing).1).2.2
    rw [indexBlocks, List.foldl_cons]
    exact ih (IndexedBlock.index_upToDate current fun id old =>
      first id old _ (List.mem_singleton_self _)) increasing

/-- Before any block there is nothing to report. -/
theorem emptyReports_upToDate : UpToDate [] emptyReports := by
  refine ⟨?_, ?_, ?_, ?_, ?_⟩ <;> simp [emptyReports]

/-- A statement that may be sent again: it reports figures, or summarizes an indexed block. -/
def ReportTables.Job.Repeats (heights : List ℕ) : Job → Prop
  | .updateBlockReports _ => True
  | .upsertSuppliersByBlockAndServices blockId => blockId ∈ heights
  | .upsertAppsByBlockAndServices blockId => blockId ∈ heights
  | .upsertRelaysByBlockAndServices blockId => blockId ∈ heights
  | .refreshDomainServiceDailyRewards _ => False

/-- Sending such statements again changes nothing while the reports are up to date. -/
theorem UpToDate.runJobs_same {jobs : List Job} (current : UpToDate heights tables)
    (repeated : ∀ job ∈ jobs, job.Repeats heights) :
    SameReports (runJobs toDate jobs tables) tables := by
  have reports : Reports toDate jobs tables (runJobs toDate jobs tables) := runJobs_reports
  refine ⟨reports.indexed, ?_, ?_, ?_, ?_, ?_⟩
  · -- The figures of a block are what the report writes again.
    rw [reports.blocks]
    refine (List.map_congr_left fun block member => ?_).trans (List.map_id _)
    rw [current.figures block member, ite_self]
    rfl
  · rw [reports.suppliers]
    refine SlotQuery.refreshAll_current fun id chosen => current.suppliers id ?_
    obtain ⟨job, member, named⟩ := List.mem_filterMap.mp chosen
    cases job <;> cases named
    exact repeated _ member
  · rw [reports.apps]
    refine SlotQuery.refreshAll_current fun id chosen => current.apps id ?_
    obtain ⟨job, member, named⟩ := List.mem_filterMap.mp chosen
    cases job <;> cases named
    exact repeated _ member
  · rw [reports.relays]
    refine SlotQuery.refreshAll_current fun id chosen => current.relays id ?_
    obtain ⟨job, member, named⟩ := List.mem_filterMap.mp chosen
    cases job <;> cases named
    exact repeated _ member
  · -- No day is summarized again.
    rw [reports.rewards]
    refine SlotQuery.refreshAll_current fun day chosen => ?_
    obtain ⟨job, member, named⟩ := List.mem_filterMap.mp chosen
    cases job <;> try cases named
    exact (repeated _ member).elim

/-- A run leaves its reports up to date, and making them again leaves them as they are. -/
theorem indexBlocks_current {blocks : List IndexedBlock} {jobs : List Job}
    (increasing : (blocks.map IndexedBlock.height).Pairwise (· < ·))
    (repeated : ∀ job ∈ jobs, job.Repeats (blocks.map IndexedBlock.height)) :
    UpToDate (blocks.map IndexedBlock.height) (indexBlocks toDate blocks emptyReports) ∧
      SameReports (runJobs toDate jobs (indexBlocks toDate blocks emptyReports))
        (indexBlocks toDate blocks emptyReports) := by
  have current : UpToDate (blocks.map IndexedBlock.height)
      (indexBlocks toDate blocks emptyReports) :=
    indexBlocks_upToDate emptyReports_upToDate increasing
  exact ⟨current, current.runJobs_same repeated⟩

/-- What was reported on some blocks is still reported on them. -/
structure KeepsReports (heights : List ℕ) (before after : ReportTables) : Prop where
  figures : ∀ block ∈ before.blocks, block ∈ after.blocks
  suppliers : ∀ id ∈ heights,
    slotRows StakedByBlockAndService.blockId id after.stakedSuppliersByBlockAndServices =
      slotRows StakedByBlockAndService.blockId id before.stakedSuppliersByBlockAndServices
  apps : ∀ id ∈ heights,
    slotRows StakedByBlockAndService.blockId id after.stakedAppsByBlockAndServices =
      slotRows StakedByBlockAndService.blockId id before.stakedAppsByBlockAndServices
  relays : ∀ id ∈ heights,
    slotRows RelaysByBlockAndService.blockId id after.relaysByBlockAndServices =
      slotRows RelaysByBlockAndService.blockId id before.relaysByBlockAndServices

/-- A later block keeps the reports on earlier ones. -/
theorem IndexedBlock.index_keeps {block : IndexedBlock} (current : UpToDate heights tables)
    (later : ∀ id ∈ heights, id < block.height) :
    KeepsReports heights tables (block.index toDate tables) := by
  have reports : Reports toDate block.reports (block.store tables) (block.index toDate tables) :=
    runJobs_reports
  -- Only the slot of the block itself is refreshed.
  have other : ∀ {values : List ℕ}, (∀ id, id ∈ values ↔ id = block.height) →
      ∀ id ∈ heights, id ∉ values := fun own id old chosen =>
    Nat.ne_of_lt (later id old) ((own id).mp chosen)
  refine ⟨fun stored member => ?_, fun id old => ?_, fun id old => ?_, fun id old => ?_⟩
  · rw [block.index_blocks fun stored old => Nat.ne_of_lt (later _ (current.ids stored old))]
    exact List.mem_append_left _ member
  · rw [reports.suppliers, SlotQuery.slotRows_refreshAll,
      if_neg (other (fun id => (block.mem_reports id).2.1) id old)]
    rfl
  · rw [reports.apps, SlotQuery.slotRows_refreshAll,
      if_neg (other (fun id => (block.mem_reports id).2.2.1) id old)]
    rfl
  · rw [reports.relays, SlotQuery.slotRows_refreshAll,
      if_neg (other (fun id => (block.mem_reports id).2.2.2) id old)]
    rfl

/-- Later blocks keep the reports on earlier ones. -/
theorem indexBlocks_keeps {blocks : List IndexedBlock} (current : UpToDate heights tables)
    (increasing : (heights ++ blocks.map IndexedBlock.height).Pairwise (· < ·)) :
    KeepsReports heights tables (indexBlocks toDate blocks tables) := by
  induction blocks generalizing heights tables with
  | nil => exact ⟨fun _ member => member, fun _ _ => rfl, fun _ _ => rfl, fun _ _ => rfl⟩
  | cons block rest ih =>
    rw [List.map_cons, List.append_cons] at increasing
    have first := (List.pairwise_append.mp (List.pairwise_append.mp increasing).1).2.2
    have later : ∀ id ∈ heights, id < block.height := fun id old =>
      first id old _ (List.mem_singleton_self _)
    -- The block keeps the reports on those before it, and the rest keeps its own as well.
    have one : KeepsReports heights tables (block.index toDate tables) :=
      IndexedBlock.index_keeps current later
    have more : KeepsReports (heights ++ [block.height]) (block.index toDate tables)
        (indexBlocks toDate rest (block.index toDate tables)) :=
      ih (IndexedBlock.index_upToDate current later) increasing
    rw [indexBlocks, List.foldl_cons]
    refine ⟨fun stored member => more.figures _ (one.figures _ member), fun id old => ?_,
      fun id old => ?_, fun id old => ?_⟩
    · exact (more.suppliers id (List.mem_append_left _ old)).trans (one.suppliers id old)
    · exact (more.apps id (List.mem_append_left _ old)).trans (one.apps id old)
    · exact (more.relays id (List.mem_append_left _ old)).trans (one.relays id old)

/-- Whatever blocks follow, the reports on the blocks before them stay as they were made, and making
them again at the end, in any order and any number of times, changes nothing. -/
theorem reports_reproducible (toDate : Int → Int) (done later : List IndexedBlock)
    (increasing : ((done ++ later).map IndexedBlock.height).Pairwise (· < ·)) (jobs : List Job)
    (repeated : ∀ job ∈ jobs, job.Repeats ((done ++ later).map IndexedBlock.height)) :
    KeepsReports (done.map IndexedBlock.height) (indexBlocks toDate done emptyReports)
      (indexBlocks toDate (done ++ later) emptyReports) ∧
    SameReports (runJobs toDate jobs (indexBlocks toDate (done ++ later) emptyReports))
      (indexBlocks toDate (done ++ later) emptyReports) := by
  have split : indexBlocks toDate (done ++ later) emptyReports =
      indexBlocks toDate later (indexBlocks toDate done emptyReports) := List.foldl_append ..
  have final : UpToDate ((done ++ later).map IndexedBlock.height)
      (indexBlocks toDate (done ++ later) emptyReports) :=
    indexBlocks_upToDate emptyReports_upToDate increasing
  refine ⟨?_, final.runJobs_same repeated⟩
  rw [split]
  rw [List.map_append] at increasing
  have early := (List.pairwise_append.mp increasing).1
  exact indexBlocks_keeps (indexBlocks_upToDate emptyReports_upToDate early) increasing

/-- A block with one failed transaction and nothing else, which is reported on backwards. -/
def IndexedBlock.failedTransfer (height : ℕ) (timestamp : Int) : IndexedBlock where
  height
  row := handleBlock height timestamp
  suppliers := []
  services := []
  supplierMessages := emptyReports.supplierTables
  applications := []
  applicationServices := []
  gateways := []
  validators := []
  transactions := [{ id := "A1", blockId := height, code := 5 }]
  claims := []
  hasClaimSettled := false
  reports := (ReportTables.handleAddBlockReports height false).reverse
  named := rfl
  ownTransactions := fun _ member => by rw [List.mem_singleton.mp member]
  ownClaims := fun _ member => by cases member
  reported := List.reverse_perm _

/-- Two blocks, where the figures of the first and the relays of the second are made again. -/
theorem reports_reproducible_two :
    KeepsReports [1] (indexBlocks id [.failedTransfer 1 10] emptyReports)
      (indexBlocks id [.failedTransfer 1 10, .failedTransfer 2 25] emptyReports) ∧
    SameReports
      (runJobs id [.updateBlockReports 1, .upsertRelaysByBlockAndServices 2]
        (indexBlocks id [.failedTransfer 1 10, .failedTransfer 2 25] emptyReports))
      (indexBlocks id [.failedTransfer 1 10, .failedTransfer 2 25] emptyReports) :=
  reports_reproducible id [.failedTransfer 1 10] [.failedTransfer 2 25]
    (by simp [IndexedBlock.failedTransfer]) _
    (by simp [Job.Repeats, IndexedBlock.failedTransfer])

/-- A settled claim of a supplier for a hundred relays. -/
def relayedClaim (height : ℕ) : Settlement.EventClaimSettledProps where
  id := "settled"
  supplierId := some "pokt1op"
  applicationId := "pokt1app"
  serviceId := "eth"
  sessionId := "session"
  sessionStartHeight := 1
  sessionEndHeight := 4
  numRelays := 100
  numEstimatedRelays := 110
  numClaimedComputedUnits := 200
  numEstimatedComputedUnits := 220
  claimedDenom := "upokt"
  claimedAmount := 3000
  proofValidationStatus := none
  transactionId := none
  blockId := height
  proofRequirement := .notRequired
  mints := []
  burns := []
  modToModTransfers := []
  settledAmount := 3000
  settledDenom := some "upokt"
  mintRatio := .finite 1
  supplierOwnerId := some "pokt1op"
  mintedAmount := some 3000
  mintedDenom := some "upokt"
  overservicingLossAmount := 0
  overservicingLossDenom := none
  deflationLossAmount := 0
  deflationLossDenom := none

/-- A block in which a supplier stakes for a service, and a claim of it is settled. -/
def IndexedBlock.settledRelays (height : ℕ) (timestamp : Int) : IndexedBlock where
  height
  row := handleBlock height timestamp
  suppliers := [.insert [(⟨"pokt1op", "pokt1op", "pokt1op", 60000, "upokt", .staked, none, none,
    none, none⟩, none)]]
  services := [.insert [(⟨"pokt1op-eth", "eth", "pokt1op", [], [], [], some 1, none⟩, none)]]
  supplierMessages := emptyReports.supplierTables
  applications := []
  applicationServices := []
  gateways := []
  validators := []
  transactions := []
  claims := [relayedClaim height]
  hasClaimSettled := true
  reports := ReportTables.handleAddBlockReports height true
  named := rfl
  ownTransactions := fun _ member => by cases member
  ownClaims := fun _ member => by rw [List.mem_singleton.mp member]; rfl
  reported := List.Perm.refl _

end Pocketdex
