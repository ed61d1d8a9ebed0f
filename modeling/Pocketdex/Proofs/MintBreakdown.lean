import Pocketdex.DbFunctions.Supply
import Pocketdex.Proofs.RewardTransfers
import Pocketdex.Proofs.SettlementAccounts

/-! What the breakdown of minted tokens counts for the settled claims of a chain. -/

namespace Pocketdex.Settlement

/-- A block with its settled claims, the overserviced events that precede them, and the mint ratio
that was stored when they were handled. -/
structure ClaimBlock where
  height : ℕ
  timestamp : Int
  mintRatioParam : Option String
  events : List CosmosEvent
  overservices : List CosmosEvent

/-- The stored row of a block. -/
def ClaimBlock.row (block : ClaimBlock) : BlockRow := ⟨block.height, block.timestamp⟩

/-- The tables settled claims are stored in: a record has no unique column of its own. -/
structure SettlementTables where
  eventClaimSettleds : Table fun _ : Row EventClaimSettledProps => (none : Option Unit)
  transfers : TransferTables

namespace SettlementTables

/-- The tables without rows. -/
def empty : SettlementTables := ⟨Table.empty, TransferTables.empty⟩

/-- The tables a statement leaves behind. -/
def apply (tables : SettlementTables) : SettlementStatement → SettlementTables
  | .eventClaimSettleds statement => { tables with
      eventClaimSettleds := tables.eventClaimSettleds.apply statement }
  | .transfers statement => { tables with transfers := tables.transfers.apply statement }

/-- The tables left behind by statements that take effect in order. -/
def execute (tables : SettlementTables) (statements : List SettlementStatement) :
    SettlementTables :=
  statements.foldl apply tables

end SettlementTables

/-- A history of blocks whose claims were all accepted, and the tables they are stored in after any
interleaving of the statements of each block. -/
inductive History (kindText : CosmosEventKind → String) :
    List ClaimBlock → SettlementTables → Prop where
  | start : History kindText [] SettlementTables.empty
  | block {blocks : List ClaimBlock} {tables : SettlementTables} {block : ClaimBlock}
      {task : Task SettlementStatement} {trace : List SettlementStatement} :
      History kindText blocks tables →
      handleEventClaimSettled kindText block.mintRatioParam block.height block.events
        block.overservices = .ok task →
      Trace task trace → History kindText (blocks ++ [block]) (tables.execute trace)

/-- The events of a history belong to their blocks and have ids of their own. -/
structure Numbered (kindText : CosmosEventKind → String) (blocks : List ClaimBlock) : Prop where
  heights : (blocks.map ClaimBlock.height).Nodup
  ofBlock : ∀ block ∈ blocks, ∀ event ∈ block.events, event.height = block.height
  events : ((blocks.flatMap ClaimBlock.events).map (getEventId kindText)).Nodup

/-- What a claim minted for the reimbursement: the amount, how much of it is recorded in a second
place, and whether the claim has any mint at all. -/
structure ClaimMint where
  reimbursed : Int
  repeated : Int
  listed : Bool
  deriving DecidableEq, Repr

/-- The amounts of the mints for the reimbursement. -/
def reimbursementMints (mints : List MintBurnOp) : Int := (mints.map (amountIfReason [10])).sum

/-- What a claim minted for the reimbursement, by the format of its reward. A settlement result tells
it as transfers to the DAO or as mints, and counts once if it has both. A detailed distribution tells
it as transfers only, which are recorded as a mint as well. A plain distribution does not tell it: it
is half of what was distributed beyond the minted share. -/
def claimMint (attributes : EventAttributes) (eventId : String) (blockId : ℕ)
    (effectiveBurn : String) (mintRatio : Double) : Except String ClaimMint :=
  if truthy attributes.settlementResult then do
    let transfers ← Pocketdex._buildSettlementFromResult
      (attributes.settlementResult.getD .null) eventId blockId
    let mints ← listedOps (attributes.settlementResult.getD .null) "mints" mintBurnOp
    let transferred :=
      amountWithReason .tlmGlobalMintReimbursementRequestEscrowDaoTransfer transfers
    if transferred = 0 then return ⟨reimbursementMints mints, 0, !mints.isEmpty⟩
    else return ⟨transferred, reimbursementMints mints, !mints.isEmpty⟩
  else if truthy attributes.rewardDistributionDetailed then do
    let transfers ← Pocketdex._buildSettlementFromDetailedDistribution
      (attributes.rewardDistributionDetailed.getD .null) eventId blockId
    let transferred :=
      amountWithReason .tlmGlobalMintReimbursementRequestEscrowDaoTransfer transfers
    return ⟨transferred, max transferred 0, true⟩
  else if truthy attributes.rewardDistribution then do
    let transfers ← Pocketdex._buildSettlementFromDistribution
      (attributes.rewardDistribution.getD .null) eventId blockId
    let share ← (mintedAfterRatio effectiveBurn mintRatio).toBigInt
    return ⟨((transfers.map ModToAcctTransferRecord.amount).sum - share).tdiv 2, 0, true⟩
  else .ok ⟨0, 0, false⟩

/-- What an event of a block minted for the reimbursement. -/
def ClaimBlock.claimMint (kindText : CosmosEventKind → String) (block : ClaimBlock)
    (event : CosmosEvent) : Except String ClaimMint := do
  let getEffectiveBurn ← getEffectiveBurn block.overservices
  let attributes ← getAttributes event.attributes
  let effectiveBurn ← effectiveBurnOf attributes getEffectiveBurn
  Settlement.claimMint attributes (getEventId kindText event) (getBlockId event.height) effectiveBurn
    (mintRatioOf attributes (mintRatioFromParam block.mintRatioParam))

/-- What is recorded of a claim agrees with what it minted: the rows and the mints add up to the
amount and its repetition, and there are mints just when the claim has some. -/
structure Recorded (transfers : List ModToAcctTransferRecord) (mints : List MintBurnOp)
    (mint : ClaimMint) : Prop where
  amounts : amountWithReason .tlmGlobalMintReimbursementRequestEscrowDaoTransfer transfers +
    reimbursementMints mints = mint.reimbursed + mint.repeated
  listed : mints ≠ [] ↔ mint.listed = true

/-- A mint recorded only when it is positive adds what is above zero. -/
theorem reimbursementMints_mintIfPositive (amount : Int) (claimed : Option Coin) :
    reimbursementMints (mintIfPositive .tlmGlobalMintReimbursementRequestEscrowDaoTransfer amount
      claimed) = max amount 0 := by
  unfold mintIfPositive
  split
  · -- The reason of the DAO transfer has the number ten.
    show amount + 0 = max amount 0
    omega
  · show (0 : Int) = max amount 0
    omega

/-- The mints of other reasons do not count. -/
theorem reimbursementMints_other {reason : SettlementOpReason} (amount : Int) (claimed : Option Coin)
    (other : SettlementOpReasonSdk reason ≠ 10) :
    reimbursementMints (mintIfPositive reason amount claimed) = 0 := by
  unfold mintIfPositive
  split
  · simp [reimbursementMints, amountIfReason, claimedOp, other]
  · rfl

/-- The mints of two lists add up. -/
theorem reimbursementMints_append (first second : List MintBurnOp) :
    reimbursementMints (first ++ second) =
      reimbursementMints first + reimbursementMints second := by
  unfold reimbursementMints
  rw [List.map_append, List.sum_append]

/-- A plain distribution gives no reason for its transfers. -/
theorem fromDistribution_unspecified {distribution : Json} {eventId : String} {blockId : ℕ}
    {transfers : List ModToAcctTransferRecord}
    (built : Pocketdex._buildSettlementFromDistribution distribution eventId blockId =
      .ok transfers) :
    amountWithReason .tlmGlobalMintReimbursementRequestEscrowDaoTransfer transfers = 0 := by
  have none : transfers.filter (fun transfer => transfer.opReason =
      .tlmGlobalMintReimbursementRequestEscrowDaoTransfer) = [] := by
    rw [List.filter_eq_nil_iff]
    intro transfer member
    obtain ⟨⟨⟨address, coinString⟩, index⟩, _, ran⟩ := mem_of_mapM_ok built member
    obtain ⟨coin, _, ran⟩ := exceptBind_ok ran
    obtain ⟨amount, _, ran⟩ := exceptBind_ok ran
    cases ran
    simp [claimTransfer]
  rw [amountWithReason, none]
  rfl

/-- The parts of a settlement record what the claim minted. -/
theorem resolveSettlementParts_recorded {attributes : EventAttributes} {eventId : String}
    {blockId : ℕ} {effectiveBurn : String} {mintRatio : Double} {settlement : SettlementParts}
    (resolved : _resolveSettlementParts attributes eventId blockId effectiveBurn mintRatio =
      .ok settlement) :
    ∃ mint, claimMint attributes eventId blockId effectiveBurn mintRatio = .ok mint ∧
      Recorded settlement.modToAcctTransfers settlement.mints mint := by
  unfold _resolveSettlementParts at resolved
  unfold claimMint
  split at resolved
  · -- A settlement result lists both.
    rename_i result
    obtain ⟨transfers, read, rest⟩ := exceptBind_ok resolved
    obtain ⟨mints, listed, rest⟩ := exceptBind_ok rest
    obtain ⟨burns, _, rest⟩ := exceptBind_ok rest
    obtain ⟨moved, _, rest⟩ := exceptBind_ok rest
    cases rest
    simp only [if_pos result, read, listed, Except.bind, bind]
    by_cases none : amountWithReason .tlmGlobalMintReimbursementRequestEscrowDaoTransfer transfers = 0
    · refine ⟨_, by rw [if_pos none]; rfl, ?_, by simp⟩
      show _ + _ = reimbursementMints mints + 0
      omega
    · exact ⟨_, by rw [if_neg none]; rfl, rfl, by simp⟩
  · rename_i noResult
    rw [if_neg noResult]
    split at resolved
    · -- A detailed distribution records its transfers as a mint as well, if they are positive.
      rename_i detailed
      obtain ⟨transfers, read, rest⟩ := exceptBind_ok resolved
      obtain ⟨burned, _, rest⟩ := exceptBind_ok rest
      obtain ⟨minted, _, rest⟩ := exceptBind_ok rest
      cases rest
      rw [if_pos detailed, read]
      refine ⟨_, rfl, ?_, by simp⟩
      rw [List.cons_append, ← List.singleton_append, reimbursementMints_append,
        reimbursementMints_append, reimbursementMints_mintIfPositive,
        reimbursementMints_other _ _ (by decide)]
      show amountWithReason _ transfers + (0 + (0 + max (amountWithReason _ transfers) 0)) =
        amountWithReason _ transfers + max (amountWithReason _ transfers) 0
      omega
    · rename_i noDetail
      rw [if_neg noDetail]
      split at resolved
      · -- A plain distribution has no transfers with a reason, and one mint for the reimbursement.
        rename_i plain
        obtain ⟨transfers, read, rest⟩ := exceptBind_ok resolved
        obtain ⟨⟨burns, mints, minted⟩, built, rest⟩ := exceptBind_ok rest
        cases rest
        obtain ⟨share, value, _, listed, _⟩ := buildBurnsAndMints_ok built
        rw [if_pos plain, read, listed]
        refine ⟨_, by simp only [Except.bind, bind, value]; rfl, ?_, by simp⟩
        rw [fromDistribution_unspecified read]
        generalize ((transfers.map ModToAcctTransferRecord.amount).sum - share).tdiv 2 = half
        show (0 : Int) + (0 + (half + (0 + 0))) = half + 0
        omega
      · -- Without any of the three nothing was minted.
        rename_i noDistribution
        cases resolved
        rw [if_neg noDistribution]
        exact ⟨_, rfl, rfl, by simp⟩

/-- The transfers of a settlement are those built for its rows, whatever else it has. -/
theorem resolveSettlementParts_numbered {attributes : EventAttributes} {eventId : String}
    {blockId : ℕ} {effectiveBurn : String} {mintRatio : Double} {settlement : SettlementParts}
    (resolved : _resolveSettlementParts attributes eventId blockId effectiveBurn mintRatio =
      .ok settlement) : ClaimTransfers eventId blockId settlement.modToAcctTransfers := by
  unfold _resolveSettlementParts at resolved
  split at resolved
  · obtain ⟨transfers, read, rest⟩ := exceptBind_ok resolved
    obtain ⟨_, _, rest⟩ := exceptBind_ok rest
    obtain ⟨_, _, rest⟩ := exceptBind_ok rest
    obtain ⟨_, _, rest⟩ := exceptBind_ok rest
    cases rest
    exact fromResult_numbered read
  · split at resolved
    · obtain ⟨transfers, read, rest⟩ := exceptBind_ok resolved
      obtain ⟨_, _, rest⟩ := exceptBind_ok rest
      obtain ⟨_, _, rest⟩ := exceptBind_ok rest
      cases rest
      exact fromDetailed_numbered read
    · split at resolved
      · obtain ⟨transfers, read, rest⟩ := exceptBind_ok resolved
        obtain ⟨⟨_, _, _⟩, _, rest⟩ := exceptBind_ok rest
        cases rest
        exact fromDistribution_numbered read
      · cases resolved
        exact claimTransfers_nil eventId blockId

/-- The record and the rows of an event carry its block and its id, and record what it minted. -/
theorem eventsSettled_ok {kindText : CosmosEventKind → String} {block : ClaimBlock}
    {settled : List (EventClaimSettledProps × List ModToAcctTransferRecord)}
    (handled : eventsSettled kindText block.mintRatioParam block.events block.overservices =
      .ok settled) :
    List.Forall₂ (fun event claim => claim.1.blockId = event.height ∧
      ClaimTransfers (getEventId kindText event) event.height claim.2 ∧
      ∃ mint, block.claimMint kindText event = .ok mint ∧ Recorded claim.2 claim.1.mints mint)
      block.events settled := by
  obtain ⟨burns, entries, handled⟩ := exceptBind_ok handled
  refine (mapM_ok handled).imp fun event claim ran => ?_
  obtain ⟨props, transfers⟩ := claim
  obtain ⟨attributes, read, ran⟩ := exceptBind_ok ran
  obtain ⟨effectiveBurn, burn, ran⟩ := exceptBind_ok ran
  obtain ⟨settlement, resolved, ran⟩ := exceptBind_ok ran
  obtain ⟨record, built, ran⟩ := exceptBind_ok ran
  cases ran
  obtain ⟨mint, told, recorded⟩ := resolveSettlementParts_recorded resolved
  have record := buildClaimSettledProps_ok built
  refine ⟨record.blockId, resolveSettlementParts_numbered resolved, mint, ?_,
    by rw [record.mints]; exact recorded⟩
  unfold ClaimBlock.claimMint
  simp only [entries, read, burn, bind, Except.bind]
  exact told

/-- The part of a statement that concerns the records of the claims. -/
def SettlementStatement.onClaims :
    SettlementStatement → Option (Statement (Row EventClaimSettledProps))
  | eventClaimSettleds statement => some statement
  | transfers _ => none

/-- The part of a statement that concerns the transfers. -/
def SettlementStatement.onTransfers :
    SettlementStatement → Option (Statement ModToAcctTransferRecord)
  | eventClaimSettleds _ => none
  | transfers statement => statement.onTransfers

/-- Statements on the records take effect apart from the others. -/
theorem execute_claims (tables : SettlementTables) (statements : List SettlementStatement) :
    (tables.execute statements).eventClaimSettleds =
      tables.eventClaimSettleds.execute (statements.filterMap SettlementStatement.onClaims) := by
  induction statements generalizing tables with
  | nil => rfl
  | cons statement rest ih =>
    cases statement with
    | eventClaimSettleds statement => exact ih _
    | transfers statement => exact ih _

/-- Statements on the transfers take effect apart from the others. -/
theorem execute_modToAcctTransfers (tables : SettlementTables)
    (statements : List SettlementStatement) :
    (tables.execute statements).transfers.transfers =
      tables.transfers.transfers.execute
        (statements.filterMap SettlementStatement.onTransfers) := by
  induction statements generalizing tables with
  | nil => rfl
  | cons statement rest ih =>
    cases statement with
    | eventClaimSettleds statement => exact ih _
    | transfers statement =>
      cases statement with
      | modToAcctTransfers statement => exact ih _
      | modToAcctTransfersSummarized statement => exact ih _

section Stored

variable {height : ℕ} {settled : List (EventClaimSettledProps × List ModToAcctTransferRecord)}
  {trace : List SettlementStatement}

/-- Seen from the records, the claims of a block are one bulk write. -/
theorem storeSettled_onClaims (run : Trace (storeSettled height settled) trace) :
    Trace (optimizedBulkCreate height (settled.map fun claim => claimSettledDoc claim.1) .blockId)
      (trace.filterMap SettlementStatement.onClaims) := by
  have seen := run.select SettlementStatement.onClaims
  cases seen with
  | par first second merged =>
    -- No statement on the transfers is seen here.
    rw [trace_select_map_none (fun _ => rfl) second] at merged
    rw [merged.eq_of_nil_right]
    have whole := select_map_some (fun _ => rfl : ∀ statement,
      SettlementStatement.onClaims (.eventClaimSettleds statement) = some statement)
      (optimizedBulkCreate height (settled.map fun claim => claimSettledDoc claim.1) .blockId)
    rw [← whole]
    exact first

/-- Seen from the transfers, the claims of a block are one raw bulk write. -/
theorem storeSettled_onTransfers (run : Trace (storeSettled height settled) trace) :
    Trace (bulkInsertModToAcctTransfers (settled.flatMap Prod.snd))
      (trace.filterMap SettlementStatement.onTransfers) := by
  have seen := run.select SettlementStatement.onTransfers
  cases seen with
  | par first second merged =>
    rw [trace_select_map_none (fun _ => rfl) first] at merged
    rw [merged.swap.eq_of_nil_right]
    rw [Task.select_map] at second
    exact insert_onTransfers second

end Stored

/-- The claims of a block as they are stored, which are none unless all are accepted. -/
def ClaimBlock.settled (kindText : CosmosEventKind → String) (block : ClaimBlock) :
    List (EventClaimSettledProps × List ModToAcctTransferRecord) :=
  (eventsSettled kindText block.mintRatioParam block.events block.overservices).toOption.getD []

/-- The rows of the records of a block. -/
def ClaimBlock.claimRows (kindText : CosmosEventKind → String) (block : ClaimBlock) :
    List (Row EventClaimSettledProps) :=
  (block.settled kindText).map fun claim => stamp block.height (claimSettledDoc claim.1)

/-- The transfers of a block. -/
def ClaimBlock.transferRows (kindText : CosmosEventKind → String) (block : ClaimBlock) :
    List ModToAcctTransferRecord :=
  (block.settled kindText).flatMap Prod.snd

/-- Every block of a history was accepted, and the tables hold the rows of all of them. -/
structure Stored (kindText : CosmosEventKind → String) (blocks : List ClaimBlock)
    (tables : SettlementTables) : Prop where
  accepted : ∀ block ∈ blocks,
    eventsSettled kindText block.mintRatioParam block.events block.overservices =
      .ok (block.settled kindText)
  claims : tables.eventClaimSettleds.rows.Perm
    (blocks.flatMap (ClaimBlock.claimRows kindText))
  transfers : tables.transfers.transfers.rows.Perm
    (blocks.flatMap (ClaimBlock.transferRows kindText))

section Rows

variable {kindText : CosmosEventKind → String} {block : ClaimBlock}

/-- The rows of an accepted block carry its height. -/
theorem ClaimBlock.rows_blockId
    (accepted : eventsSettled kindText block.mintRatioParam block.events block.overservices =
      .ok (block.settled kindText))
    (ofBlock : ∀ event ∈ block.events, event.height = block.height) :
    (∀ claim ∈ block.settled kindText, claim.1.blockId = block.height) ∧
      ∀ transfer ∈ block.transferRows kindText, transfer.blockId = block.height := by
  have each := eventsSettled_ok accepted
  constructor
  · intro claim member
    obtain ⟨event, inside, found, _⟩ := forall₂_right each member
    rw [found, ofBlock event inside]
  · intro transfer member
    obtain ⟨claim, listed, place⟩ := List.mem_flatMap.mp member
    obtain ⟨event, inside, _, numbered, _⟩ := forall₂_right each listed
    obtain ⟨index, placed⟩ := List.getElem?_of_mem place
    rw [(numbered index transfer placed).2, ofBlock event inside]

/-- The transfers of accepted blocks whose events have ids of their own have ids of their own. -/
theorem transferRows_ids_nodup {blocks : List ClaimBlock}
    (accepted : ∀ block ∈ blocks,
      eventsSettled kindText block.mintRatioParam block.events block.overservices =
        .ok (block.settled kindText))
    (events : ((blocks.flatMap ClaimBlock.events).map (getEventId kindText)).Nodup) :
    ((blocks.flatMap (ClaimBlock.transferRows kindText)).map ModToAcctTransferRecord.id).Nodup := by
  -- Event by event, the claims of all blocks are their transfers under the ids of the events.
  have paired : ∀ blocks : List ClaimBlock,
      (∀ block ∈ blocks, eventsSettled kindText block.mintRatioParam block.events
        block.overservices = .ok (block.settled kindText)) →
      List.Forall₂ (fun event (claim : EventClaimSettledProps × List ModToAcctTransferRecord) =>
        ClaimTransfers (getEventId kindText event) event.height claim.2)
        (blocks.flatMap ClaimBlock.events) (blocks.flatMap (ClaimBlock.settled kindText)) := by
    intro blocks accepted
    induction blocks with
    | nil => exact List.Forall₂.nil
    | cons block rest ih =>
      rw [List.flatMap_cons, List.flatMap_cons]
      refine List.rel_append ?_ (ih fun other member => accepted other (List.mem_cons_of_mem _ member))
      exact (eventsSettled_ok (accepted block List.mem_cons_self)).imp
        fun event claim found => found.2.1
  have zipped : ∀ {events : List CosmosEvent}
      {claims : List (EventClaimSettledProps × List ModToAcctTransferRecord)},
      List.Forall₂ (fun event claim =>
        ClaimTransfers (getEventId kindText event) event.height claim.2) events claims →
      ∃ named : List (String × List ModToAcctTransferRecord),
        named.map Prod.fst = events.map (getEventId kindText) ∧
        named.map Prod.snd = claims.map Prod.snd ∧
        ∀ claim ∈ named, ∃ blockId, ClaimTransfers claim.1 blockId claim.2 := by
    intro events claims each
    induction each with
    | nil => exact ⟨[], rfl, rfl, by simp⟩
    | @cons event claim _ _ one _ ih =>
      obtain ⟨named, ids, transfers, numbered⟩ := ih
      refine ⟨(getEventId kindText event, claim.2) :: named, by simp [ids], by simp [transfers], ?_⟩
      intro other member
      rcases List.mem_cons.mp member with rfl | inside
      · exact ⟨event.height, one⟩
      · exact numbered other inside
  obtain ⟨named, ids, transfers, numbered⟩ := zipped (paired blocks accepted)
  have distinct := claimTransfers_ids_nodup numbered (by rw [ids]; exact events)
  rw [List.flatMap_def, transfers, ← List.flatMap_def, List.flatMap_assoc] at distinct
  exact distinct

end Rows

/-- The tables of a history hold the rows of its blocks, each once. -/
theorem History.stored {kindText : CosmosEventKind → String} {blocks : List ClaimBlock}
    {tables : SettlementTables} (history : History kindText blocks tables)
    (numbered : Numbered kindText blocks) : Stored kindText blocks tables := by
  -- The induction is on the blocks: each finds no rows of its height, and adds its own.
  induction history with
  | start => exact ⟨by simp, List.Perm.refl _, List.Perm.refl _⟩
  | @block blocks tables block task trace _ handled run ih =>
    obtain ⟨heights, ofBlock, events⟩ := numbered
    rw [List.map_append, List.nodup_append] at heights
    obtain ⟨before, _, apart⟩ := heights
    have earlier : Numbered kindText blocks := by
      refine ⟨before, fun other member => ofBlock other (List.mem_append_left _ member), ?_⟩
      rw [List.flatMap_append, List.map_append] at events
      exact events.of_append_left
    have prior := ih earlier
    -- The block was accepted with the claims that are stored.
    obtain ⟨settled, accepted, rfl⟩ := exceptMap_ok handled
    have same : settled = block.settled kindText := by
      unfold ClaimBlock.settled
      rw [accepted]
      rfl
    subst same
    have all : ∀ other ∈ blocks ++ [block],
        eventsSettled kindText other.mintRatioParam other.events other.overservices =
          .ok (other.settled kindText) := by
      intro other member
      rcases List.mem_append.mp member with inside | last
      · exact prior.accepted other inside
      · rw [List.mem_singleton.mp last]
        exact accepted
    have own := ClaimBlock.rows_blockId accepted (ofBlock block (by simp))
    -- No earlier block has its height.
    have older : ∀ other ∈ blocks, other.height ≠ block.height := fun other member =>
      apart _ (List.mem_map_of_mem member) _ (by simp)
    refine ⟨all, ?_, ?_⟩
    · have ran := storeSettled_onClaims run
      rw [optimizedBulkCreate_eq_writeRows _ _ (by simp)] at ran
      rw [execute_claims, List.flatMap_append, List.flatMap_singleton]
      have fresh : ∀ row ∈ tables.eventClaimSettleds.rows,
          removes block.height .blockId row = false := by
        intro row member
        obtain ⟨other, inside, place⟩ := List.mem_flatMap.mp (prior.claims.mem_iff.mp member)
        obtain ⟨claim, listed, rfl⟩ := List.mem_map.mp place
        have found := (ClaimBlock.rows_blockId (prior.accepted other inside)
          (earlier.ofBlock other inside)).1 claim listed
        simpa [removes, stamp, claimSettledDoc, found] using older other inside
      have written := Table.writeRows_fresh ran fresh (by simp)
      rw [fillBatches_nil_flatten, List.map_map] at written
      exact written.trans (prior.claims.append_right _)
    · have ran : Trace (bulkInsertModToAcctTransfers (block.transferRows kindText))
          (trace.filterMap SettlementStatement.onTransfers) := storeSettled_onTransfers run
      rw [bulkInsertModToAcctTransfers_eq own.2] at ran
      rw [execute_modToAcctTransfers, List.flatMap_append, List.flatMap_singleton]
      have fresh : ∀ row ∈ tables.transfers.transfers.rows, transferOf block.height row = false := by
        intro row member
        obtain ⟨other, inside, place⟩ := List.mem_flatMap.mp (prior.transfers.mem_iff.mp member)
        have found := (ClaimBlock.rows_blockId (prior.accepted other inside)
          (earlier.ofBlock other inside)).2 row place
        simpa [transferOf, found] using older other inside
      -- Ids of transfers count within their events, and events are numbered once.
      have free : ((tables.transfers.transfers.rows ++
          block.transferRows kindText).filterMap fun record => some record.id).Nodup := by
        have distinct := transferRows_ids_nodup all events
        rw [List.flatMap_append, List.flatMap_singleton] at distinct
        rw [List.filterMap_eq_map']
        exact (((prior.transfers.append_right _).map _).nodup_iff).mpr distinct
      have written := Table.writeRows_fresh ran fresh
        (by rw [sliceBatches_batchSize_flatten]; exact free)
      rw [sliceBatches_batchSize_flatten] at written
      exact written.trans (prior.transfers.append_right _)

/-- The claims of a history between two dates, each with its block. -/
def claimsBetween (blocks : List ClaimBlock) (startDate endDate : Int) :
    List (ClaimBlock × CosmosEvent) :=
  (blocks.filter fun block => block.row.within startDate endDate).flatMap fun block =>
    block.events.map fun event => (block, event)

/-- What each claim of a history between two dates minted for the reimbursement. -/
def mintsBetween (kindText : CosmosEventKind → String) (blocks : List ClaimBlock)
    (startDate endDate : Int) : Except String (List ClaimMint) :=
  (claimsBetween blocks startDate endDate).mapM fun claim => claim.1.claimMint kindText claim.2

/-- The breakdown of minted tokens over the tables of a history. -/
def mintBreakdown (blocks : List ClaimBlock) (tables : SettlementTables) (startDate endDate : Int) :
    MintBreakdown :=
  getMintBreakdownBetweenDates (blocks.map ClaimBlock.row) tables.transfers.transfers.rows
    (tables.eventClaimSettleds.rows.map Row.data) startDate endDate

/-- The label of the DAO transfer is its own. -/
theorem label_eq_reimbursement (reason : SettlementOpReason) :
    reason.label = "TLM_GLOBAL_MINT_REIMBURSEMENT_REQUEST_ESCROW_DAO_TRANSFER" ↔
      reason = .tlmGlobalMintReimbursementRequestEscrowDaoTransfer := by
  cases reason <;> decide

/-- The reimbursement sums up the transfers and the mints of the claims that are joined, and is null
when these have no mint at all. -/
theorem reimbursement_eq {blocks : List BlockRow} {startDate endDate : Int}
    {modToAcctTransfers : List ModToAcctTransferRecord}
    {eventClaimSettleds : List EventClaimSettledProps}
    {settled : List (EventClaimSettledProps × List ModToAcctTransferRecord)}
    (transfers : (betweenDates ModToAcctTransferRecord.blockId blocks startDate endDate
      modToAcctTransfers).Perm (settled.flatMap Prod.snd))
    (claims : (betweenDates EventClaimSettledProps.blockId blocks startDate endDate
      eventClaimSettleds).Perm (settled.map Prod.fst)) :
    (getMintBreakdownBetweenDates blocks modToAcctTransfers eventClaimSettleds startDate
      endDate).reimbursement =
      if settled.flatMap (fun claim => claim.1.mints) = [] then none
      else some (amountWithReason .tlmGlobalMintReimbursementRequestEscrowDaoTransfer
        (settled.flatMap Prod.snd) +
          reimbursementMints (settled.flatMap fun claim => claim.1.mints)) := by
  -- The rows with the label of the DAO transfer are those with its reason.
  have labelled : ∀ rows : List ModToAcctTransferRecord,
      rows.filter (fun transfer => decide (transfer.opReason.label =
        "TLM_GLOBAL_MINT_REIMBURSEMENT_REQUEST_ESCROW_DAO_TRANSFER")) =
      rows.filter fun transfer => decide (transfer.opReason =
        .tlmGlobalMintReimbursementRequestEscrowDaoTransfer) := fun rows =>
    List.filter_congr fun transfer _ => decide_eq_decide.mpr (label_eq_reimbursement _)
  have transferred := ((transfers.filter fun transfer => decide (transfer.opReason =
    .tlmGlobalMintReimbursementRequestEscrowDaoTransfer)).map
      ModToAcctTransferRecord.amount).sum_eq
  have elems := claims.flatMap_right EventClaimSettledProps.mints
  rw [List.flatMap_map] at elems
  have minted := (elems.map (amountIfReason [10])).sum_eq
  unfold getMintBreakdownBetweenDates
  simp only [sumColumn_getD, labelled, transferred]
  simp only [sumColumn, minted, List.map_eq_nil_iff]
  have empty : (betweenDates EventClaimSettledProps.blockId blocks startDate endDate
      eventClaimSettleds).flatMap EventClaimSettledProps.mints = [] ↔
      settled.flatMap (fun claim => claim.1.mints) = [] := by
    constructor
    · intro none
      rw [none] at elems
      exact elems.symm.eq_nil
    · intro none
      rw [none] at elems
      exact elems.eq_nil
  by_cases none : settled.flatMap (fun claim => claim.1.mints) = []
  · rw [if_pos (empty.mpr none), if_pos none]
    rfl
  · rw [if_neg fun joined => none (empty.mp joined), if_neg none]
    rfl

/-- The transfers of several claims are counted claim by claim. -/
theorem amountWithReason_flatMap {α : Type} (reason : SettlementOpReason)
    (transfers : α → List ModToAcctTransferRecord) (claims : List α) :
    amountWithReason reason (claims.flatMap transfers) =
      (claims.map fun claim => amountWithReason reason (transfers claim)).sum := by
  induction claims with
  | nil => rfl
  | cons claim rest ih =>
    rw [List.flatMap_cons, List.map_cons, List.sum_cons, ← ih]
    simp [amountWithReason]

/-- The mints of several claims are counted claim by claim. -/
theorem reimbursementMints_flatMap {α : Type} (mints : α → List MintBurnOp) (claims : List α) :
    reimbursementMints (claims.flatMap mints) =
      (claims.map fun claim => reimbursementMints (mints claim)).sum := by
  induction claims with
  | nil => rfl
  | cons claim rest ih =>
    rw [List.flatMap_cons, List.map_cons, List.sum_cons, ← ih, reimbursementMints_append]

/-- What is recorded of several claims adds up to what they minted and its repetitions. -/
theorem recorded_sum {claims : List (EventClaimSettledProps × List ModToAcctTransferRecord)}
    {mints : List ClaimMint}
    (each : List.Forall₂ (fun claim mint => Recorded claim.2 claim.1.mints mint) claims mints) :
    amountWithReason .tlmGlobalMintReimbursementRequestEscrowDaoTransfer (claims.flatMap Prod.snd) +
        reimbursementMints (claims.flatMap fun claim => claim.1.mints) =
      (mints.map ClaimMint.reimbursed).sum + (mints.map ClaimMint.repeated).sum := by
  rw [amountWithReason_flatMap, reimbursementMints_flatMap]
  induction each with
  | nil => rfl
  | cons one _ ih =>
    simp only [List.map_cons, List.sum_cons]
    have amounts := one.amounts
    omega

/-- Some claim has a mint exactly if one is recorded. -/
theorem recorded_listed {claims : List (EventClaimSettledProps × List ModToAcctTransferRecord)}
    {mints : List ClaimMint}
    (each : List.Forall₂ (fun claim mint => Recorded claim.2 claim.1.mints mint) claims mints) :
    (claims.flatMap fun claim => claim.1.mints) ≠ [] ↔ ∃ mint ∈ mints, mint.listed = true := by
  rw [Ne, List.flatMap_eq_nil_iff]
  constructor
  · intro some
    by_contra none
    refine some fun claim member => ?_
    obtain ⟨mint, inside, recorded⟩ := forall₂_left each member
    by_contra listed
    exact none ⟨mint, inside, recorded.listed.mp listed⟩
  · intro ⟨mint, inside, listed⟩ none
    obtain ⟨claim, member, recorded⟩ := forall₂_right each inside
    exact recorded.listed.mpr listed (none claim member)

/-- The claims of accepted blocks are recorded with what they minted. -/
theorem claimMints_recorded {kindText : CosmosEventKind → String} {blocks : List ClaimBlock}
    (accepted : ∀ block ∈ blocks,
      eventsSettled kindText block.mintRatioParam block.events block.overservices =
        .ok (block.settled kindText)) :
    ∃ mints, (blocks.flatMap fun block => block.events.map fun event => (block, event)).mapM
        (fun claim => claim.1.claimMint kindText claim.2) = .ok mints ∧
      List.Forall₂ (fun claim mint => Recorded claim.2 claim.1.mints mint)
        (blocks.flatMap (ClaimBlock.settled kindText)) mints := by
  -- Inside one block every claim gives what it minted.
  have inBlock : ∀ {block : ClaimBlock} {events : List CosmosEvent}
      {claims : List (EventClaimSettledProps × List ModToAcctTransferRecord)},
      List.Forall₂ (fun event claim => claim.1.blockId = event.height ∧
        ClaimTransfers (getEventId kindText event) event.height claim.2 ∧
        ∃ mint, block.claimMint kindText event = .ok mint ∧ Recorded claim.2 claim.1.mints mint)
        events claims →
      ∃ mints, (events.map fun event => (block, event)).mapM
          (fun claim => claim.1.claimMint kindText claim.2) = .ok mints ∧
        List.Forall₂ (fun claim mint => Recorded claim.2 claim.1.mints mint) claims mints := by
    intro block events claims each
    induction each with
    | nil => exact ⟨[], rfl, List.Forall₂.nil⟩
    | cons one _ ih =>
      obtain ⟨_, _, mint, told, recorded⟩ := one
      obtain ⟨mints, ran, others⟩ := ih
      refine ⟨mint :: mints, ?_, List.Forall₂.cons recorded others⟩
      rw [List.map_cons, List.mapM_cons, told, ran]
      rfl
  induction blocks with
  | nil => exact ⟨[], rfl, List.Forall₂.nil⟩
  | cons block rest ih =>
    obtain ⟨first, ran, own⟩ := inBlock (eventsSettled_ok (accepted block List.mem_cons_self))
    obtain ⟨later, following, others⟩ := ih fun other member =>
      accepted other (List.mem_cons_of_mem _ member)
    refine ⟨first ++ later, ?_, List.rel_append own others⟩
    rw [List.flatMap_cons, List.mapM_append, ran, following]
    rfl

/-- The reimbursement of a range counts each mint once exactly if some claim of the range has a mint,
and nothing of what its claims minted is recorded in a second place. -/
theorem mintBreakdown_reimbursement_iff {kindText : CosmosEventKind → String}
    {blocks : List ClaimBlock} {tables : SettlementTables}
    (history : History kindText blocks tables) (numbered : Numbered kindText blocks)
    (startDate endDate : Int) :
    ∃ mints, mintsBetween kindText blocks startDate endDate = .ok mints ∧
      ((mintBreakdown blocks tables startDate endDate).reimbursement =
          some (mints.map ClaimMint.reimbursed).sum ↔
        (∃ mint ∈ mints, mint.listed = true) ∧ (mints.map ClaimMint.repeated).sum = 0) := by
  have stored := history.stored numbered
  have inside : ∀ block ∈ blocks.filter fun block => block.row.within startDate endDate,
      block ∈ blocks := fun block member => List.mem_of_mem_filter member
  obtain ⟨mints, ran, each⟩ := claimMints_recorded fun block member =>
    stored.accepted block (inside block member)
  refine ⟨mints, ran, ?_⟩
  have owned := fun block member =>
    ClaimBlock.rows_blockId (stored.accepted block member) (numbered.ofBlock block member)
  have distinct : (blocks.map fun block => block.row.id).Nodup := numbered.heights
  -- The joined transfers are those of the claims of the range.
  have transfers : (betweenDates ModToAcctTransferRecord.blockId (blocks.map ClaimBlock.row)
      startDate endDate tables.transfers.transfers.rows).Perm
      (((blocks.filter fun block => block.row.within startDate endDate).flatMap
        (ClaimBlock.settled kindText)).flatMap Prod.snd) := by
    refine (betweenDates_perm stored.transfers).trans (List.Perm.of_eq ?_)
    rw [betweenDates_flatMap distinct fun block member => (owned block member).2, List.flatMap_assoc]
    rfl
  -- So are the joined records.
  have claims : (betweenDates EventClaimSettledProps.blockId (blocks.map ClaimBlock.row)
      startDate endDate (tables.eventClaimSettleds.rows.map Row.data)).Perm
      (((blocks.filter fun block => block.row.within startDate endDate).flatMap
        (ClaimBlock.settled kindText)).map Prod.fst) := by
    have rows : (tables.eventClaimSettleds.rows.map Row.data).Perm
        (blocks.flatMap fun block => (block.settled kindText).map Prod.fst) := by
      refine (stored.claims.map Row.data).trans (List.Perm.of_eq ?_)
      rw [List.map_flatMap]
      refine List.flatMap_congr fun block _ => ?_
      unfold ClaimBlock.claimRows
      rw [List.map_map]
      rfl
    refine (betweenDates_perm rows).trans (List.Perm.of_eq ?_)
    rw [betweenDates_flatMap distinct, List.map_flatMap]
    intro block member row listed
    obtain ⟨claim, place, rfl⟩ := List.mem_map.mp listed
    exact (owned block member).1 claim place
  rw [mintBreakdown, reimbursement_eq transfers claims, recorded_sum each]
  have listed := recorded_listed each
  by_cases none : ((blocks.filter fun block => block.row.within startDate endDate).flatMap
      (ClaimBlock.settled kindText)).flatMap (fun claim => claim.1.mints) = []
  · -- Without any mint the figure is null.
    rw [if_pos none]
    constructor
    · intro figure
      cases figure
    · intro ⟨present, _⟩
      exact absurd none (listed.mpr present)
  · rw [if_neg none, Option.some.injEq]
    constructor
    · intro same
      exact ⟨listed.mp none, by omega⟩
    · intro ⟨_, nothing⟩
      omega

/-- A block with one claim of 100upokt, whose reward is told in one attribute. -/
def rewardBlock (reward : Attribute) : ClaimBlock where
  height := 10
  timestamp := 1000
  mintRatioParam := none
  events := [{
    idx := 0
    height := 10
    kind := .endBlock
    type := .claimSettled
    attributes := [⟨"supplier_operator_address", "\"supplier\""⟩,
      ⟨"application_address", "\"app\""⟩, ⟨"claimed_upokt", "\"100upokt\""⟩,
      ⟨"num_estimated_relays", "\"1\""⟩, reward]
    tx := none
    msg := none }]
  overservices := []

/-- A settlement result with a transfer of 10upokt to the DAO, and no mint for it. -/
def resultBlock : ClaimBlock := rewardBlock ⟨"settlement_result",
  "\x7b\"mints\":[\x7b\"op_reason\":1,\"DestinationModule\":\"supplier\"," ++
    "\"coin\":\x7b\"denom\":\"upokt\",\"amount\":\"100\"\x7d\x7d]," ++
    "\"mod_to_acct_transfers\":[\x7b\"op_reason\":10,\"RecipientAddress\":\"dao\"," ++
    "\"coin\":\x7b\"denom\":\"upokt\",\"amount\":\"10\"\x7d\x7d]\x7d"⟩

/-- A detailed distribution with a transfer of 10upokt to the DAO. -/
def detailedBlock : ClaimBlock := rewardBlock ⟨"reward_distribution_detailed",
  "[\x7b\"recipient_address\":\"dao\",\"op_reason\":10,\"amount\":\"10upokt\"\x7d]"⟩

/-- The tables after one block, with the statements in the order of their text. -/
def tablesAfter (block : ClaimBlock) : SettlementTables :=
  SettlementTables.empty.execute (storeSettled block.height (block.settled snakeCaseKind)).actions

/-- An accepted block is a history of its own. -/
theorem history_single {block : ClaimBlock}
    (accepted : (eventsSettled snakeCaseKind block.mintRatioParam block.events
      block.overservices).toOption.isSome = true) :
    History snakeCaseKind [block] (tablesAfter block) := by
  obtain ⟨settled, handled⟩ := Option.isSome_iff_exists.mp accepted
  have same : settled = block.settled snakeCaseKind := by
    unfold ClaimBlock.settled
    rw [handled]
    rfl
  subst same
  refine History.block History.start ?_
    (Trace.actions (storeSettled block.height (block.settled snakeCaseKind)))
  unfold handleEventClaimSettled
  rw [ok_of_toOption handled]
  rfl

/-- A single event of a block has an id of its own. -/
theorem numbered_rewardBlock (reward : Attribute) : Numbered snakeCaseKind [rewardBlock reward] :=
  ⟨by simp, by simp [rewardBlock], by simp [rewardBlock]⟩

/-- A transfer of a settlement result is counted once. -/
theorem mintBreakdown_reimbursement_iff_result :
    History snakeCaseKind [resultBlock] (tablesAfter resultBlock) ∧
    (mintBreakdown [resultBlock] (tablesAfter resultBlock) 0 2000).reimbursement = some 10 := by
  have history : History snakeCaseKind [resultBlock] (tablesAfter resultBlock) :=
    history_single (by decide +kernel)
  obtain ⟨mints, ran, counted⟩ :=
    mintBreakdown_reimbursement_iff history (numbered_rewardBlock _) 0 2000
  have minted : (mintsBetween snakeCaseKind [resultBlock] 0 2000).toOption = some [⟨10, 0, true⟩] := by
    decide +kernel
  rw [ok_of_toOption minted] at ran
  cases ran
  exact ⟨history, counted.mpr ⟨⟨_, List.mem_singleton_self _, rfl⟩, rfl⟩⟩

/-- A transfer of a detailed distribution is counted twice. -/
theorem mintBreakdown_counts_twice :
    History snakeCaseKind [detailedBlock] (tablesAfter detailedBlock) ∧
    Numbered snakeCaseKind [detailedBlock] ∧
    mintsBetween snakeCaseKind [detailedBlock] 0 2000 = .ok [⟨10, 10, true⟩] ∧
    (mintBreakdown [detailedBlock] (tablesAfter detailedBlock) 0 2000).reimbursement = some 20 :=
  ⟨history_single (by decide +kernel), numbered_rewardBlock _,
    ok_of_toOption (by decide +kernel), by decide +kernel⟩

end Pocketdex.Settlement
