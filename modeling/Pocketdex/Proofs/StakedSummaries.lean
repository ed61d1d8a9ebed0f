import Pocketdex.DbFunctions.StakedSummaries
import Pocketdex.Proofs.RelaySummaries

/-! What is answered from the summary of stakes is what the versions visible at each block come to. -/

namespace Pocketdex

open ReportTables

/-- The staked suppliers of a block with their services, as the versions show them. -/
def stakedAt (tables : IndexedTables) (blockId : ℕ) :
    List (Supplier × SupplierServiceConfigProps) :=
  stakedPairs (fun ss s => ss.supplierId = s.id) Supplier.stakeStatus blockId
    tables.supplierTables.suppliers tables.supplierTables.services

/-- The staked suppliers of all blocks between two dates. -/
def stakesBetween (startDate endDate : Int) (tables : ReportTables) :
    List ((Supplier × SupplierServiceConfigProps) × BlockRow) :=
  (blocksBetween startDate endDate tables).flatMap fun b =>
    (stakedAt tables.toIndexedTables b.id).map fun pair => (pair, b)

/-- What is staked for each key, which a block and a service have. -/
def stakesBy {κ : Type} [DecidableEq κ] (key : BlockRow → String → κ) (startDate endDate : Int)
    (tables : ReportTables) : List (κ × StakedFigures) :=
  (Sql.groupBy (fun row => key row.2 row.1.2.serviceId)
    (stakesBetween startDate endDate tables)).map fun group => (group.1, {
      amount := Sql.sum (group.2.map fun _ => some 1)
      tokens := Sql.sum (group.2.map fun row => some row.1.1.stakeAmount)
      blocks := Sql.countDistinct (group.2.map fun row => row.2.id) })

/-- The functions on the summary of stakes answer as the versions of each block would. -/
structure AnswersFromStakes (tables : ReportTables) : Prop where
  byPoint : ∀ (dateTrunc : Int → Int) (startDate endDate : Int), Option.Rel List.Perm
    (getSuppliersStakedAndBlocksByPointJson dateTrunc startDate endDate tables)
    (Sql.jsonbAgg (stakesBy (fun b service => (dateTrunc b.timestamp, service)) startDate endDate
      tables))
  byTimes : ∀ startDate endDate : Int, Option.Rel List.Perm
    (getAmountOfBlocksAndSuppliersByTimes startDate endDate tables)
    (Sql.jsonbAgg ((stakesBy (fun _ service => service) startDate endDate tables).map fun entry =>
      (entry.1, entry.2.blocks, entry.2.amount)))

/-- The summary row of the stakes for one service in a block. -/
def stakedRow (blockId : ℕ)
    (group : String × List (Supplier × SupplierServiceConfigProps)) : StakedByBlockAndService where
  serviceId := group.1
  blockId := blockId
  amount := group.2.length
  tokens := Sql.sum (group.2.map fun pair => some pair.1.stakeAmount)

/-- The stakes of a block by service. -/
def stakeGroups (tables : IndexedTables) (blockId : ℕ) :
    List (String × List (Supplier × SupplierServiceConfigProps)) :=
  Sql.groupBy (fun pair => pair.2.serviceId) (stakedAt tables blockId)

/-- Every stored block has the summary of its own stakes, and no two blocks have one id. -/
structure StakesSummarized (tables : ReportTables) : Prop where
  distinct : ((tables.blocks.map Block.row).map BlockRow.id).Nodup
  rows : ∀ b ∈ tables.blocks.map Block.row,
    (slotRows StakedByBlockAndService.blockId b.id tables.stakedSuppliersByBlockAndServices).Perm
      ((stakeGroups tables.toIndexedTables b.id).map (stakedRow b.id))

section

variable {startDate endDate : Int} {tables : ReportTables}

/-- The joined summary rows are those of the groups of each block. -/
theorem stakedBetween_perm (summarized : StakesSummarized tables) :
    (stakedBetween startDate endDate tables).Perm
      ((blocksBetween startDate endDate tables).flatMap fun b =>
        (stakeGroups tables.toIndexedTables b.id).map fun group => (stakedRow b.id group, b)) := by
  refine (joined_perm StakedByBlockAndService.blockId _ _).trans ?_
  refine List.Perm.flatMap_left _ fun b member => ?_
  refine ((summarized.rows b (List.mem_filter.mp member).1).map _).trans (List.Perm.of_eq ?_)
  rw [List.map_map]
  rfl

/-- A column of the summary adds up to the stakes it sums, whichever blocks and services are
chosen. -/
theorem sum_stakedBetween (summarized : StakesSummarized tables)
    (chosen : BlockRow → String → Bool) {column : StakedByBlockAndService → Option Int}
    {figure : Supplier × SupplierServiceConfigProps → Option Int}
    (summed : ∀ b, ∀ group ∈ stakeGroups tables.toIndexedTables b,
      column (stakedRow b group) = Sql.sum (group.2.map figure)) :
    Sql.sum (((stakedBetween startDate endDate tables).filter fun row =>
        chosen row.2 row.1.serviceId).map fun row => column row.1) =
      Sql.sum (((stakesBetween startDate endDate tables).filter fun row =>
        chosen row.2 row.1.2.serviceId).map fun row => figure row.1) := by
  rw [Sql.sum_perm (((stakedBetween_perm summarized).filter _).map _)]
  unfold stakesBetween
  exact Sql.sum_rollup (fun pair : Supplier × SupplierServiceConfigProps => pair.2.serviceId)
    (fun b : BlockRow => stakedAt tables.toIndexedTables b.id) (fun b => stakedRow b.id)
    StakedByBlockAndService.serviceId (fun _ _ => rfl) chosen column figure
    fun b group member => summed b.id group member

/-- A service of a block is in the summary just when a supplier is staked for it there. -/
theorem exists_stakedBetween {κ : Type} (summarized : StakesSummarized tables)
    (key : BlockRow → String → κ) (value : κ) :
    (∃ row ∈ stakedBetween startDate endDate tables, key row.2 row.1.serviceId = value) ↔
      ∃ row ∈ stakesBetween startDate endDate tables, key row.2 row.1.2.serviceId = value := by
  unfold stakesBetween
  simp only [(stakedBetween_perm summarized).mem_iff]
  exact Sql.exists_rollup (fun pair : Supplier × SupplierServiceConfigProps => pair.2.serviceId)
    (fun b => stakedAt tables.toIndexedTables b.id) (fun b => stakedRow b.id)
    StakedByBlockAndService.serviceId (fun _ _ => rfl) key value

/-- The summary has one row for each block and service. -/
theorem stakedBetween_nodup (summarized : StakesSummarized tables) :
    ((stakedBetween startDate endDate tables).map fun row =>
      (row.2.id, row.1.serviceId)).Nodup := by
  have distinct : ((blocksBetween startDate endDate tables).map BlockRow.id).Nodup :=
    summarized.distinct.sublist (List.filter_sublist.map _)
  rw [((stakedBetween_perm summarized).map _).nodup_iff, List.map_flatMap, List.nodup_flatMap]
  constructor
  · -- The groups of one block have distinct services.
    intro b _
    have keys : ((stakeGroups tables.toIndexedTables b.id).map Prod.fst).Nodup := by
      unfold stakeGroups Sql.groupBy
      rw [List.map_map]
      simpa [Function.comp_def] using List.nodup_dedup _
    have pairs := keys.map (f := fun service => (b.id, service)) fun one two same =>
      (Prod.mk.inj same).2
    rw [List.map_map] at pairs ⊢
    exact pairs
  · -- The rows of two blocks differ in the block.
    refine (List.pairwise_map.mp distinct).imp fun {one two} differ => ?_
    intro pair first second
    obtain ⟨row, inside, rfl⟩ := List.mem_map.mp first
    obtain ⟨other, found, same⟩ := List.mem_map.mp second
    obtain ⟨group, -, rfl⟩ := List.mem_map.mp inside
    obtain ⟨next, -, rfl⟩ := List.mem_map.mp found
    exact differ (Prod.mk.inj same).1.symm

/-- A key that names the service counts a block once, so its rows count its blocks. -/
theorem length_stakedBetween {κ : Type} [DecidableEq κ] (summarized : StakesSummarized tables)
    {key : BlockRow → String → κ} (value : κ)
    (named : ∀ b other one two, key b one = key other two → one = two) :
    ((stakedBetween startDate endDate tables).filter fun row =>
        key row.2 row.1.serviceId = value).length =
      Sql.countDistinct (((stakedBetween startDate endDate tables).filter fun row =>
        key row.2 row.1.serviceId = value).map fun row => row.2.id) := by
  -- Counting rows counts blocks when no block has two of them.
  have rows := List.Nodup.of_map _ (@stakedBetween_nodup startDate endDate tables summarized)
  rw [Sql.countDistinct_of_nodup, List.length_map]
  refine (rows.filter _).map_on fun one first two second same => ?_
  -- Two chosen rows of one block are for one service, and so they are one row.
  obtain ⟨inside, chosen⟩ := List.mem_filter.mp first
  obtain ⟨found, taken⟩ := List.mem_filter.mp second
  have service := named one.2 two.2 one.1.serviceId two.1.serviceId
    ((of_decide_eq_true chosen).trans (of_decide_eq_true taken).symm)
  exact List.inj_on_of_nodup_map (stakedBetween_nodup summarized) inside found
    (Prod.ext same service)

/-- The summary and the stakes have the same blocks under every key. -/
theorem countDistinct_stakedBetween {κ : Type} [DecidableEq κ]
    (summarized : StakesSummarized tables) (key : BlockRow → String → κ) (value : κ) :
    Sql.countDistinct (((stakedBetween startDate endDate tables).filter fun row =>
        key row.2 row.1.serviceId = value).map fun row => row.2.id) =
      Sql.countDistinct (((stakesBetween startDate endDate tables).filter fun row =>
        key row.2 row.1.2.serviceId = value).map fun row => row.2.id) := by
  refine Sql.countDistinct_congr fun id => ?_
  -- The block is made a part of the key.
  have same := @exists_stakedBetween startDate endDate tables (ℕ × κ) summarized
    (fun b service => (b.id, key b service)) (id, value)
  simp only [List.mem_map, List.mem_filter, decide_eq_true_eq, Prod.mk.injEq] at same ⊢
  constructor
  · rintro ⟨row, ⟨inside, chosen⟩, stored⟩
    obtain ⟨other, found, matching, taken⟩ := same.mp ⟨row, inside, stored, chosen⟩
    exact ⟨other, ⟨found, taken⟩, matching⟩
  · rintro ⟨row, ⟨inside, chosen⟩, stored⟩
    obtain ⟨other, found, matching, taken⟩ := same.mpr ⟨row, inside, stored, chosen⟩
    exact ⟨other, ⟨found, taken⟩, matching⟩

/-- The stakes of a service in a block are as many as its summary row says. -/
theorem amount_stakedRow {b : ℕ} {group : String × List (Supplier × SupplierServiceConfigProps)}
    (member : group ∈ stakeGroups tables.toIndexedTables b) :
    some ((stakedRow b group).amount : Int) = Sql.sum (group.2.map fun _ => some 1) := by
  -- A group has a row, so its sum is there.
  obtain ⟨pair, inside, named⟩ := List.mem_map.mp (Sql.mem_groupBy member).2
  have kept : pair ∈ group.2 := by
    rw [(Sql.mem_groupBy member).1]
    exact List.mem_filter.mpr ⟨inside, decide_eq_true named⟩
  rw [Sql.sum_map_some, if_neg]
  · simp [stakedRow]
  · intro empty
    rw [List.isEmpty_iff.mp empty] at kept
    cases kept

/-- The figures of a key in the summary are those of its stakes. -/
theorem stakedFigures_eq {κ : Type} [DecidableEq κ] (summarized : StakesSummarized tables)
    (key : BlockRow → String → κ) (value : κ) :
    Sql.sum (((stakedBetween startDate endDate tables).filter fun row =>
        key row.2 row.1.serviceId = value).map fun row => some (row.1.amount : Int)) =
      Sql.sum (((stakesBetween startDate endDate tables).filter fun row =>
        key row.2 row.1.2.serviceId = value).map fun _ => some 1) ∧
    Sql.sum (((stakedBetween startDate endDate tables).filter fun row =>
        key row.2 row.1.serviceId = value).map fun row => row.1.tokens) =
      Sql.sum (((stakesBetween startDate endDate tables).filter fun row =>
        key row.2 row.1.2.serviceId = value).map fun row => some row.1.1.stakeAmount) := by
  have total := fun column figure => @sum_stakedBetween startDate endDate tables summarized
    (fun b service => key b service = value) column figure
  constructor
  · exact total (fun row => some (row.amount : Int)) (fun _ => some 1)
      fun b group member => amount_stakedRow member
  · exact total (fun row => row.tokens) (fun pair => some pair.1.stakeAmount)
      fun b group member => rfl

/-- Summaries of the own stakes of every block answer as the stakes do. -/
theorem StakesSummarized.answers (summarized : StakesSummarized tables) :
    AnswersFromStakes tables where
  byPoint := by
    intro dateTrunc startDate endDate
    refine Sql.jsonbAgg_rel ((List.mergeSort_perm _ _).trans ?_)
    -- A point names its service, so its rows count its blocks.
    have named : ∀ (b other : BlockRow) (one two : String),
        (dateTrunc b.timestamp, one) = (dateTrunc other.timestamp, two) → one = two :=
      fun b other one two same => (Prod.mk.inj same).2
    refine Sql.groupBy_map_perm (fun value rows => (value, StakedFigures.mk
        (Sql.sum (rows.map fun row => some (row.1.amount : Int)))
        (Sql.sum (rows.map fun row => row.1.tokens)) rows.length))
      (fun value rows => (value, StakedFigures.mk (Sql.sum (rows.map fun _ => some 1))
        (Sql.sum (rows.map fun row => some row.1.1.stakeAmount))
        (Sql.countDistinct (rows.map fun row => row.2.id))))
      (exists_stakedBetween summarized fun b service => (dateTrunc b.timestamp, service))
      fun value _ => ?_
    -- Suppliers and tokens are summed per point, and blocks are counted.
    have figures := @stakedFigures_eq startDate endDate tables (Int × String) _ summarized
      (fun b service => (dateTrunc b.timestamp, service)) value
    rw [figures.1, figures.2, length_stakedBetween summarized value named,
      countDistinct_stakedBetween summarized fun b service => (dateTrunc b.timestamp, service)]
  byTimes := by
    intro startDate endDate
    unfold getAmountOfBlocksAndSuppliersByTimes stakesBy
    rw [List.map_map]
    refine Sql.jsonbAgg_rel (Sql.groupBy_map_perm (fun value rows => (value,
        Sql.countDistinct (rows.map fun row => row.1.blockId),
        Sql.sum (rows.map fun row => some (row.1.amount : Int))))
      (fun value rows => (value, Sql.countDistinct (rows.map fun row => row.2.id),
        Sql.sum (rows.map fun _ => some 1)))
      (exists_stakedBetween summarized fun _ service => service) fun value _ => ?_)
    -- A row of the summary is joined with the block it is for.
    have joined : ((stakedBetween startDate endDate tables).filter fun row =>
          row.1.serviceId = value).map (fun row => row.1.blockId) =
        ((stakedBetween startDate endDate tables).filter fun row =>
          row.1.serviceId = value).map fun row => row.2.id := by
      refine List.map_congr_left fun row member => ?_
      have pair := (List.mem_filter.mp (List.mem_filter.mp member).1).1
      exact (of_decide_eq_true (Sql.mem_innerJoin.mp pair).2.2).symm
    rw [joined, (stakedFigures_eq summarized (fun _ service => service) value).1,
      countDistinct_stakedBetween summarized fun _ service => service]

end

/-- Reports that are up to date summarize every stored block. -/
theorem UpToDate.stakesSummarized {heights : List ℕ} {tables : ReportTables}
    (current : UpToDate heights tables)
    (distinct : ((tables.blocks.map Block.row).map BlockRow.id).Nodup) :
    StakesSummarized tables where
  distinct := distinct
  rows := by
    intro b member
    obtain ⟨block, stored, rfl⟩ := List.mem_map.mp member
    exact List.Perm.of_eq (current.suppliers block.id (current.ids block stored))

/-- Tables with the same reports are summarized alike. -/
theorem StakesSummarized.congr {first second : ReportTables} (same : SameReports first second)
    (summarized : StakesSummarized second) : StakesSummarized first where
  distinct := by
    rw [same.blocks]
    exact summarized.distinct
  rows := by
    intro b member
    rw [same.blocks] at member
    rw [same.indexed]
    exact (same.suppliers.filter _).trans (summarized.rows b member)

/-- The stored blocks are those of a run, in its order. -/
theorem indexBlocks_ids (toDate : Int → Int) (blocks : List IndexedBlock) (tables : ReportTables) :
    ((indexBlocks toDate blocks tables).blocks.map Block.row).map BlockRow.id =
      (tables.blocks.map Block.row).map BlockRow.id ++ blocks.map IndexedBlock.height := by
  induction blocks generalizing tables with
  | nil => simp [indexBlocks]
  | cons block rest ih =>
    have reports : Reports toDate block.reports (block.store tables) (block.index toDate tables) :=
      runJobs_reports
    have stored : (block.index toDate tables).blocks.map Block.row =
        tables.blocks.map Block.row ++ [block.row.row] := by
      rw [reports.rows]
      show (tables.blocks ++ [block.row]).map Block.row = _
      rw [List.map_append, List.map_singleton]
    have named : block.row.row.id = block.height := block.named
    rw [indexBlocks, List.foldl_cons]
    refine (ih (block.index toDate tables)).trans ?_
    rw [stored, List.map_append, List.map_singleton, named, List.append_assoc, List.map_cons]
    rfl

/-- After any run of blocks, and after reports were made again in any order, the functions on the
summary of staked suppliers answer as the versions that are visible at each block would. -/
theorem stakedSummaries_exact (toDate : Int → Int) (blocks : List IndexedBlock)
    (increasing : (blocks.map IndexedBlock.height).Pairwise (· < ·)) (jobs : List Job)
    (repeated : ∀ job ∈ jobs, job.Repeats (blocks.map IndexedBlock.height)) :
    AnswersFromStakes (runJobs toDate jobs (indexBlocks toDate blocks emptyReports)) := by
  obtain ⟨current, same⟩ := @indexBlocks_current toDate blocks jobs increasing repeated
  have distinct : (((indexBlocks toDate blocks emptyReports).blocks.map Block.row).map
      BlockRow.id).Nodup := by
    rw [indexBlocks_ids]
    exact increasing.imp Nat.ne_of_lt
  exact ((current.stakesSummarized distinct).congr same).answers

/-- A supplier stakes in the first of two blocks, whose suppliers are summarized again. -/
theorem stakedSummaries_exact_two :
    AnswersFromStakes (runJobs id [.upsertSuppliersByBlockAndServices 1]
      (indexBlocks id [.settledRelays 1 10, .failedTransfer 2 25] emptyReports)) :=
  stakedSummaries_exact id [.settledRelays 1 10, .failedTransfer 2 25]
    (by simp [IndexedBlock.settledRelays, IndexedBlock.failedTransfer]) _
    (by simp [Job.Repeats, IndexedBlock.settledRelays, IndexedBlock.failedTransfer])

end Pocketdex
