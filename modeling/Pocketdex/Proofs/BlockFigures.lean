import Pocketdex.Proofs.RelaySummaries

/-! The figures on the rows of blocks come to the same as the summaries of their relays. -/

namespace Pocketdex

open ReportTables

/-- A figure that is reported on blocks, on their relays by service, and by date. -/
structure RelayFigure where
  ofBlock : Block → Option Int
  ofService : RelaysByBlockAndService → Option Int
  ofDate : RelayFigures → Option Int
  ofClaim : Settlement.EventClaimSettledProps → Int

/-- The four figures of relays and compute units. -/
def relayFigures : List RelayFigure := [
  { ofBlock := fun block => some block.totalRelays
    ofService := RelaysByBlockAndService.relays
    ofDate := RelayFigures.relays
    ofClaim := fun e => e.numRelays },
  { ofBlock := Block.totalEstimatedRelays
    ofService := RelaysByBlockAndService.estimatedRelays
    ofDate := RelayFigures.estimatedRelays
    ofClaim := fun e => e.numEstimatedRelays },
  { ofBlock := fun block => some block.totalComputedUnits
    ofService := RelaysByBlockAndService.computedUnits
    ofDate := RelayFigures.computedUnits
    ofClaim := fun e => e.numClaimedComputedUnits },
  { ofBlock := Block.totalEstimatedComputedUnits
    ofService := RelaysByBlockAndService.estimatedComputedUnits
    ofDate := RelayFigures.estimatedComputedUnits
    ofClaim := fun e => e.numEstimatedComputedUnits }]

/-- Blocks, services and dates add up to the same figures, and all transactions are counted. -/
structure FiguresAgree (tables : ReportTables) : Prop where
  services : ∀ figure ∈ relayFigures, ∀ block ∈ tables.blocks, figure.ofBlock block =
    some ((Sql.sum ((slotRows RelaysByBlockAndService.blockId block.id
      tables.relaysByBlockAndServices).map figure.ofService)).getD 0)
  dates : ∀ figure ∈ relayFigures, ∀ (dateTrunc : Int → Int) (startDate endDate : Int),
    (((getRewardsByDate dateTrunc startDate endDate tables).getD []).map fun entry =>
      (figure.ofDate entry.2).getD 0).sum =
        ((tables.blocks.filter fun block => block.row.within startDate endDate).map fun block =>
          (figure.ofBlock block).getD 0).sum
  transactions : ∀ block ∈ tables.blocks, block.successfulTxs + block.failedTxs = block.totalTxs ∧
    block.totalTxs = (tables.transactions.filter fun tx => tx.blockId = block.id).length

section

variable {figure : RelayFigure}

/-- Each of the figures sums the claims of a block, of a service in a block, and of a date. -/
theorem relayFigures_sum (listed : figure ∈ relayFigures) :
    (∀ tables rows id block, figure.ofBlock (Block.reported tables rows id block) =
      some ((Sql.sum ((claimsOfBlock id tables).map fun e => some (figure.ofClaim e))).getD 0)) ∧
    (∀ id group, figure.ofService (relayRow id group) =
      Sql.sum (group.2.map fun e => some (figure.ofClaim e))) ∧
    ∀ rows, figure.ofDate (sumRelays rows) = Sql.sum (rows.map figure.ofService) := by
  simp only [relayFigures, List.mem_cons, List.not_mem_nil, or_false] at listed
  rcases listed with rfl | rfl | rfl | rfl
  · exact ⟨fun _ _ _ _ => rfl, fun _ _ => rfl, fun _ => rfl⟩
  · exact ⟨fun _ _ _ _ => rfl, fun _ _ => rfl, fun _ => rfl⟩
  · exact ⟨fun _ _ _ _ => rfl, fun _ _ => rfl, fun _ => rfl⟩
  · exact ⟨fun _ _ _ _ => rfl, fun _ _ => rfl, fun _ => rfl⟩

/-- Transactions succeed or fail. -/
theorem sum_txs (txs : List TransactionProps) :
    (txs.map fun tx => if tx.code = 0 then 1 else 0).sum +
      (txs.map fun tx => if tx.code ≠ 0 then 1 else 0).sum = txs.length := by
  induction txs with
  | nil => rfl
  | cons tx rest ih =>
    rw [List.map_cons, List.map_cons, List.sum_cons, List.sum_cons, List.length_cons, ← ih]
    by_cases succeeded : tx.code = 0
    · rw [if_pos succeeded, if_neg (not_not_intro succeeded)]
      omega
    · rw [if_neg succeeded, if_pos succeeded]
      omega

variable {tables : ReportTables}

/-- The services of a block have the claims of the block. -/
theorem sum_slotRows (summarized : RelaysSummarized tables) (listed : figure ∈ relayFigures)
    {b : BlockRow} (stored : b ∈ tables.blocks.map Block.row) :
    Sql.sum ((slotRows RelaysByBlockAndService.blockId b.id
      tables.relaysByBlockAndServices).map figure.ofService) =
        Sql.sum ((claimsOfBlock b.id tables.toIndexedTables).map fun e =>
          some (figure.ofClaim e)) := by
  obtain ⟨-, ofService, -⟩ := relayFigures_sum listed
  rw [Sql.sum_perm ((summarized b stored).map _), List.map_map]
  -- All services are chosen, so their groups hold every claim.
  have groups := @Sql.sum_groupBy _ _ _ (fun e : Settlement.EventClaimSettledProps => e.serviceId)
    (claimsOfBlock b.id tables.toIndexedTables) (fun _ => true) fun e => some (figure.ofClaim e)
  simp only [List.filter_true] at groups
  refine Eq.trans ?_ groups
  exact congrArg Sql.sum (List.map_congr_left fun group _ => ofService b.id group)

/-- Summaries of the own claims of every block agree with the figures of the blocks. -/
theorem RelaysSummarized.figuresAgree (summarized : RelaysSummarized tables)
    (reported : ∀ block ∈ tables.blocks, Block.reported tables.toIndexedTables
      (tables.blocks.map Block.row) block.id block = block) : FiguresAgree tables := by
  -- The row of a block holds what would be reported on it now.
  have ofBlock : ∀ figure ∈ relayFigures, ∀ block ∈ tables.blocks, figure.ofBlock block =
      some ((Sql.sum ((slotRows RelaysByBlockAndService.blockId block.id
        tables.relaysByBlockAndServices).map figure.ofService)).getD 0) := by
    intro figure listed block member
    have sums := (relayFigures_sum listed).1 tables.toIndexedTables (tables.blocks.map Block.row)
      block.id block
    rw [reported block member] at sums
    rw [sums]
    exact congrArg (fun total => some (total.getD 0))
      (sum_slotRows summarized listed (List.mem_map_of_mem member)).symm
  refine ⟨ofBlock, ?_, ?_⟩
  · intro figure listed dateTrunc startDate endDate
    obtain ⟨-, -, ofDate⟩ := relayFigures_sum listed
    -- The dates hold all joined rows, and so do the blocks.
    have groups := @Sql.sum_groupBy _ _ _ (fun row : RelaysByBlockAndService × BlockRow =>
      dateTrunc row.2.timestamp) (relaysBetween startDate endDate tables) (fun _ => true)
      fun row => figure.ofService row.1
    simp only [List.filter_true] at groups
    have joined := (joined_perm RelaysByBlockAndService.blockId tables.relaysByBlockAndServices
      (tables.blocks.map Block.row) : (relaysBetween startDate endDate tables).Perm _)
    -- Dates and blocks sum the same joined rows, where no rows count as zero.
    have whole := congrArg (fun total => total.getD 0)
      (groups.trans (Sql.sum_perm (joined.map fun row => figure.ofService row.1)))
    rw [List.map_flatMap, Sql.sum_flatMap] at whole
    simp only [Sql.sum_getD, List.map_map] at whole
    unfold getRewardsByDate
    rw [Sql.jsonbAgg_getD, ((List.mergeSort_perm _ _).map _).sum_eq, List.map_map]
    refine Eq.trans ?_ (whole.trans ?_)
    · refine congrArg List.sum (List.map_congr_left fun group _ => ?_)
      simp only [Function.comp_apply, ofDate, List.map_map, Function.comp_def, Sql.sum_getD]
    · rw [List.filter_map, List.map_map]
      refine congrArg List.sum (List.map_congr_left fun block member => ?_)
      rw [ofBlock figure listed block (List.mem_filter.mp member).1]
      simp only [Function.comp_apply, Option.getD_some, Function.comp_def, Sql.sum_getD, List.map_map]
      rfl
  · intro block member
    -- The transactions are counted anew, with the figures already stored.
    have txs := reported block member
    have successful := congrArg Block.successfulTxs txs
    have failed := congrArg Block.failedTxs txs
    have total := congrArg Block.totalTxs txs
    rw [← successful, ← failed, ← total]
    exact ⟨sum_txs _, rfl⟩

end

/-- After any run of blocks, and after reports were made again in any order, the figures on the rows
of blocks agree with the summaries by service and with those by date. -/
theorem blockFigures_agree (toDate : Int → Int) (blocks : List IndexedBlock)
    (increasing : (blocks.map IndexedBlock.height).Pairwise (· < ·)) (jobs : List Job)
    (repeated : ∀ job ∈ jobs, job.Repeats (blocks.map IndexedBlock.height)) :
    FiguresAgree (runJobs toDate jobs (indexBlocks toDate blocks emptyReports)) := by
  obtain ⟨current, same⟩ := @indexBlocks_current toDate blocks jobs increasing repeated
  refine (current.relaysSummarized.congr same).figuresAgree fun block member => ?_
  rw [same.indexed, same.blocks]
  rw [same.blocks] at member
  exact current.figures block member

/-- A block with a settled claim and one with a failed transaction, where the figures of the first
are reported again. -/
theorem blockFigures_agree_two :
    FiguresAgree (runJobs id [.updateBlockReports 1]
      (indexBlocks id [.settledRelays 1 10, .failedTransfer 2 25] emptyReports)) :=
  blockFigures_agree id [.settledRelays 1 10, .failedTransfer 2 25]
    (by simp [IndexedBlock.settledRelays, IndexedBlock.failedTransfer]) _ (by simp [Job.Repeats])

end Pocketdex
