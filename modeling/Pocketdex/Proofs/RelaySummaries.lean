import Pocketdex.Base.Rollup
import Pocketdex.Base.Sorting
import Pocketdex.DbFunctions.RelaySummaries
import Pocketdex.Proofs.ReportRuns

/-! What is answered from the summary of relays is what the settled claims themselves come to. -/

namespace Pocketdex

open ReportTables

/-- The sums over some settled claims. -/
def sumClaims (claims : List Settlement.EventClaimSettledProps) : RelayFigures where
  relays := Sql.sum (claims.map fun e => some e.numRelays)
  estimatedRelays := Sql.sum (claims.map fun e => some e.numEstimatedRelays)
  computedUnits := Sql.sum (claims.map fun e => some e.numClaimedComputedUnits)
  estimatedComputedUnits := Sql.sum (claims.map fun e => some e.numEstimatedComputedUnits)
  claimedUpokt := Sql.sum (claims.map fun e => some e.claimedAmount)

/-- The claims settled in the blocks between two dates, each with its block. -/
def claimsBetween (startDate endDate : Int) (tables : ReportTables) :
    List (Settlement.EventClaimSettledProps × BlockRow) :=
  (Sql.innerJoin (fun e b => b.id = e.blockId) tables.eventClaimSettleds
    (tables.blocks.map Block.row)).filter fun row => row.2.within startDate endDate

/-- The sums over the claims of each key, which a block and a service have. -/
def claimsBy {κ : Type} [DecidableEq κ] (key : BlockRow → String → κ) (startDate endDate : Int)
    (tables : ReportTables) : List (κ × RelayFigures) :=
  (Sql.groupBy (fun row => key row.2 row.1.serviceId) (claimsBetween startDate endDate tables)).map
    fun group => (group.1, sumClaims (group.2.map Prod.fst))

/-- The functions on the summary of relays answer as the settled claims themselves would. -/
structure AnswersFromClaims (tables : ReportTables) : Prop where
  rewardsByDate : ∀ (dateTrunc : Int → Int) (startDate endDate : Int),
    getRewardsByDate dateTrunc startDate endDate tables =
      Sql.jsonbAgg ((claimsBy (fun b _ => dateTrunc b.timestamp) startDate endDate tables).mergeSort
        fun one two => one.1 ≤ two.1)
  relaysPerPoint : ∀ (dateTrunc : Int → Int) (startDate endDate : Int), Option.Rel List.Perm
    (getRelaysByServicePerPointJson dateTrunc startDate endDate tables)
    (Sql.jsonbAgg (claimsBy (fun b service => (dateTrunc b.timestamp, service)) startDate endDate
      tables))
  performance : ∀ (services : List (Row Service)) (endCurrent startCurrent startPrevious : Int),
    Option.Rel List.Perm
      (servicesPerformanceBetweenTimes services endCurrent startCurrent startPrevious tables)
      (Sql.jsonbAgg (Pocketdex.performance services tables.toIndexedTables
        (claimsBy (fun _ service => service) startCurrent endCurrent tables)
        (claimsBy (fun _ service => service) startPrevious startCurrent tables)))

/-- The summary row of the claims of one service in a block. -/
def relayRow (blockId : ℕ) (group : String × List Settlement.EventClaimSettledProps) :
    RelaysByBlockAndService where
  serviceId := group.1
  blockId := blockId
  amount := group.2.length
  relays := Sql.sum (group.2.map fun c => some c.numRelays)
  estimatedRelays := Sql.sum (group.2.map fun c => some c.numEstimatedRelays)
  computedUnits := Sql.sum (group.2.map fun c => some c.numClaimedComputedUnits)
  estimatedComputedUnits := Sql.sum (group.2.map fun c => some c.numEstimatedComputedUnits)
  claimedUpokt := Sql.sum (group.2.map fun c => some c.claimedAmount)

/-- The claims of a block by service. -/
def claimGroups (tables : IndexedTables) (blockId : ℕ) :
    List (String × List Settlement.EventClaimSettledProps) :=
  Sql.groupBy (fun c => c.serviceId) (claimsOfBlock blockId tables)

/-- The blocks of the tables between two dates. -/
def blocksBetween (startDate endDate : Int) (tables : ReportTables) : List BlockRow :=
  (tables.blocks.map Block.row).filter fun b => b.within startDate endDate

/-- Every stored block has the summary of its own claims. -/
def RelaysSummarized (tables : ReportTables) : Prop :=
  ∀ b ∈ tables.blocks.map Block.row,
    (slotRows RelaysByBlockAndService.blockId b.id tables.relaysByBlockAndServices).Perm
      ((claimGroups tables.toIndexedTables b.id).map (relayRow b.id))

/-- Reports that are up to date summarize every stored block. -/
theorem UpToDate.relaysSummarized {heights : List ℕ} {tables : ReportTables}
    (current : UpToDate heights tables) : RelaysSummarized tables := by
  intro b member
  obtain ⟨block, stored, rfl⟩ := List.mem_map.mp member
  exact List.Perm.of_eq (current.relays block.id (current.ids block stored))

/-- Tables with the same reports are summarized alike. -/
theorem RelaysSummarized.congr {first second : ReportTables} (same : SameReports first second)
    (summarized : RelaysSummarized second) : RelaysSummarized first := by
  intro b member
  rw [same.blocks] at member
  rw [same.indexed]
  exact (same.relays.filter _).trans (summarized b member)

section

variable {startDate endDate : Int} {tables : ReportTables}

/-- Rows joined with the blocks between two dates are the rows of these blocks. -/
theorem joined_perm {ρ : Type} (blockId : ρ → ℕ) (rows : List ρ) (blocks : List BlockRow) :
    ((Sql.innerJoin (fun row b => decide (b.id = blockId row)) rows blocks).filter
      fun row => row.2.within startDate endDate).Perm
      ((blocks.filter fun b => b.within startDate endDate).flatMap fun b =>
        (slotRows blockId b.id rows).map fun row => (row, b)) := by
  rw [Sql.filter_innerJoin_snd fun b : BlockRow => b.within startDate endDate]
  refine (Sql.innerJoin_perm _ _ _).trans (List.Perm.of_eq ?_)
  refine List.flatMap_congr fun b _ => ?_
  unfold slotRows
  congr 1
  apply List.filter_congr
  intro row _
  exact decide_eq_decide.mpr eq_comm

/-- The joined summary rows are those of the groups of each block. -/
theorem relaysBetween_perm (summarized : RelaysSummarized tables) :
    (relaysBetween startDate endDate tables).Perm
      ((blocksBetween startDate endDate tables).flatMap fun b =>
        (claimGroups tables.toIndexedTables b.id).map fun group => (relayRow b.id group, b)) := by
  refine (joined_perm RelaysByBlockAndService.blockId _ _).trans ?_
  refine List.Perm.flatMap_left _ fun b member => ?_
  refine ((summarized b (List.mem_filter.mp member).1).map _).trans (List.Perm.of_eq ?_)
  rw [List.map_map]
  rfl

/-- The joined claims are those of each block. -/
theorem claimsBetween_perm :
    (claimsBetween startDate endDate tables).Perm
      ((blocksBetween startDate endDate tables).flatMap fun b =>
        (claimsOfBlock b.id tables.toIndexedTables).map fun e => (e, b)) :=
  joined_perm Settlement.EventClaimSettledProps.blockId _ _

/-- A column of the summary adds up to the claims it sums, whichever blocks and services are
chosen. -/
theorem sum_relaysBetween (summarized : RelaysSummarized tables) (chosen : BlockRow → String → Bool)
    {column : RelaysByBlockAndService → Option Int}
    {figure : Settlement.EventClaimSettledProps → Int}
    (summed : ∀ id group, column (relayRow id group) =
      Sql.sum (group.2.map fun e => some (figure e))) :
    Sql.sum (((relaysBetween startDate endDate tables).filter fun row =>
        chosen row.2 row.1.serviceId).map fun row => column row.1) =
      Sql.sum (((claimsBetween startDate endDate tables).filter fun row =>
        chosen row.2 row.1.serviceId).map fun row => some (figure row.1)) := by
  rw [Sql.sum_perm (((relaysBetween_perm summarized).filter _).map _),
    Sql.sum_perm ((claimsBetween_perm.filter _).map _)]
  exact Sql.sum_rollup (fun e => e.serviceId) (fun b => claimsOfBlock b.id tables.toIndexedTables)
    (fun b => relayRow b.id) RelaysByBlockAndService.serviceId (fun _ _ => rfl) chosen
    column (fun e => some (figure e)) fun b group _ => summed b.id group

/-- A service of a block is in the summary just when one of its claims is settled there. -/
theorem exists_relaysBetween {κ : Type} (summarized : RelaysSummarized tables)
    (key : BlockRow → String → κ) (value : κ) :
    (∃ row ∈ relaysBetween startDate endDate tables, key row.2 row.1.serviceId = value) ↔
      ∃ row ∈ claimsBetween startDate endDate tables, key row.2 row.1.serviceId = value := by
  simp only [(relaysBetween_perm summarized).mem_iff, claimsBetween_perm.mem_iff]
  exact Sql.exists_rollup (fun e => e.serviceId)
    (fun b => claimsOfBlock b.id tables.toIndexedTables) (fun b => relayRow b.id)
    RelaysByBlockAndService.serviceId (fun _ _ => rfl) key value

/-- Grouping the summary by a key gives the sums over the claims of each key. -/
theorem relaysBy_perm {κ : Type} [DecidableEq κ] (summarized : RelaysSummarized tables)
    (key : BlockRow → String → κ) :
    ((Sql.groupBy (fun row => key row.2 row.1.serviceId)
      (relaysBetween startDate endDate tables)).map fun group =>
        (group.1, sumRelays (group.2.map Prod.fst))).Perm
      (claimsBy key startDate endDate tables) := by
  unfold claimsBy
  refine Sql.groupBy_map_perm (fun value rows => (value, sumRelays (rows.map Prod.fst)))
    (fun value rows => (value, sumClaims (rows.map Prod.fst)))
    (exists_relaysBetween summarized key) fun value _ => ?_
  -- The rows and the claims of one key sum up to the same, column by column.
  have total := fun column figure => @sum_relaysBetween startDate endDate tables summarized
    (fun b service => key b service = value) column figure
  simp only [sumRelays, sumClaims, List.map_map]
  congr 2
  · exact total _ _ fun _ _ => rfl
  · exact total _ _ fun _ _ => rfl
  · exact total _ _ fun _ _ => rfl
  · exact total _ _ fun _ _ => rfl
  · exact total _ _ fun _ _ => rfl

/-- The keys of groups are distinct. -/
theorem claimsBy_nodup {κ : Type} [DecidableEq κ] (key : BlockRow → String → κ) :
    ((claimsBy key startDate endDate tables).map Prod.fst).Nodup := by
  unfold claimsBy Sql.groupBy
  rw [List.map_map, List.map_map]
  simpa [Function.comp_def] using List.nodup_dedup _

/-- The performance of services is computed alike from figures in any order. -/
theorem performance_perm {services : List (Row Service)} {indexed : IndexedTables}
    {current others previous more : List (String × RelayFigures)} (same : current.Perm others)
    (alike : previous.Perm more) :
    (performance services indexed current previous).Perm
      (performance services indexed others more) := by
  unfold performance
  -- Sorting only orders the rows, and every join keeps them up to order.
  refine List.Perm.map _ ((List.mergeSort_perm _ _).trans (List.Perm.trans ?_
    (List.mergeSort_perm _ _).symm))
  refine List.Perm.filter _ (Sql.leftJoin_perm ?_ (List.Perm.refl _))
  refine Sql.leftJoin_perm ?_ (List.Perm.refl _)
  exact Sql.leftJoin_perm (Sql.leftJoin_perm same alike) (List.Perm.refl _)

/-- Summaries of the own claims of every block answer as the claims do. -/
theorem RelaysSummarized.answers (summarized : RelaysSummarized tables) :
    AnswersFromClaims tables where
  rewardsByDate := by
    intro dateTrunc startDate endDate
    have same := @relaysBy_perm startDate endDate tables Int _ summarized
      fun b _ => dateTrunc b.timestamp
    unfold getRewardsByDate
    refine congrArg Sql.jsonbAgg ?_
    -- Dates are distinct, so sorting by them leaves one order only.
    have distinct := @claimsBy_nodup startDate endDate tables Int _
      fun b _ => dateTrunc b.timestamp
    have sorted := @mergeSort_eq_iff Int RelayFigures (fun one two => one ≤ two)
    refine (sorted ?_ ?_ ?_ ((same.map Prod.fst).nodup_iff.mpr distinct) distinct).mpr
      fun entry => same.mem_iff
    · intro one two
      simpa using Int.le_total one two
    · intro one two three less more
      simp only [decide_eq_true_eq] at less more ⊢
      omega
    · intro one two less more
      simp only [decide_eq_true_eq] at less more
      omega
  relaysPerPoint := by
    intro dateTrunc startDate endDate
    -- Services of one date may come in any order.
    exact Sql.jsonbAgg_rel ((List.mergeSort_perm _ _).trans (relaysBy_perm summarized
      fun b service => (dateTrunc b.timestamp, service)))
  performance := by
    intro services endCurrent startCurrent startPrevious
    exact Sql.jsonbAgg_rel (performance_perm (relaysBy_perm summarized fun _ service => service)
      (relaysBy_perm summarized fun _ service => service))

end

/-- After any run of blocks, and after reports were made again in any order, the functions on the
summary of relays answer as the settled claims themselves would. -/
theorem relaySummaries_exact (toDate : Int → Int) (blocks : List IndexedBlock)
    (increasing : (blocks.map IndexedBlock.height).Pairwise (· < ·)) (jobs : List Job)
    (repeated : ∀ job ∈ jobs, job.Repeats (blocks.map IndexedBlock.height)) :
    AnswersFromClaims (runJobs toDate jobs (indexBlocks toDate blocks emptyReports)) := by
  -- Making reports again changes nothing, so the summaries are those of the run.
  obtain ⟨current, same⟩ := @indexBlocks_current toDate blocks jobs increasing repeated
  exact (current.relaysSummarized.congr same).answers

/-- A block with a settled claim and one without, where the relays of the first are summarized
again. -/
theorem relaySummaries_exact_two :
    AnswersFromClaims (runJobs id [.upsertRelaysByBlockAndServices 1]
      (indexBlocks id [.settledRelays 1 10, .failedTransfer 2 25] emptyReports)) :=
  relaySummaries_exact id [.settledRelays 1 10, .failedTransfer 2 25]
    (by simp [IndexedBlock.settledRelays, IndexedBlock.failedTransfer]) _
    (by simp [Job.Repeats, IndexedBlock.settledRelays, IndexedBlock.failedTransfer])

end Pocketdex
