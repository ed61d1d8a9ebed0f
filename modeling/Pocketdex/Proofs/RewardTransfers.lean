import Pocketdex.Base.Except
import Pocketdex.Pocket.Relays

/-! Two handlers rewrite the transfer tables of one block at the same time. -/

namespace Pocketdex

/-- The two transfer tables, whose rows have unique ids. -/
structure TransferTables where
  transfers : Table fun record : ModToAcctTransferRecord => some record.id
  summarized : Table fun record : SummarizedTransferRecord => some record.id

namespace TransferTables

/-- The tables without rows. -/
def empty : TransferTables := ⟨Table.empty, Table.empty⟩

/-- The tables a statement leaves behind. -/
def apply (tables : TransferTables) : TransferStatement → TransferTables
  | .modToAcctTransfers statement => { tables with
      transfers := tables.transfers.apply statement }
  | .modToAcctTransfersSummarized statement => { tables with
      summarized := tables.summarized.apply statement }

/-- The tables left behind by statements that take effect in order. -/
def execute (tables : TransferTables) (statements : List TransferStatement) : TransferTables :=
  statements.foldl apply tables

end TransferTables

namespace TransferStatement

/-- The statement on the transfers, if it is one. -/
def onTransfers : TransferStatement → Option (Statement ModToAcctTransferRecord)
  | modToAcctTransfers statement => some statement
  | modToAcctTransfersSummarized _ => none

/-- The statement on the summaries, if it is one. -/
def onSummarized : TransferStatement → Option (Statement SummarizedTransferRecord)
  | modToAcctTransfers _ => none
  | modToAcctTransfersSummarized statement => some statement

end TransferStatement

/-- Whether a transfer belongs to the block at a height. -/
def transferOf (height : ℕ) (record : ModToAcctTransferRecord) : Bool := record.blockId = height

/-- Whether a summary belongs to the block at a height. -/
def summaryOf (height : ℕ) (record : SummarizedTransferRecord) : Bool := record.blockId = height

/-- The tables hold for a block exactly the rows of both handlers, each once. -/
structure HoldsTransfers (tables : TransferTables) (height : ℕ) (batches claims : TransferRows) :
    Prop where
  transfers : tables.transfers.Holds (transferOf height) (batches.transfers ++ claims.transfers)
  summarized : tables.summarized.Holds (summaryOf height)
    (batches.summarized ++ claims.summarized)

/-- When no transfer of a block is lost: one handler writes, its ids are free, nothing is stale. -/
structure KeepsTransfers (tables : TransferTables) (height : ℕ) (batches claims : TransferRows) :
    Prop where
  single : batches.transfers = [] ∨ claims.transfers = []
  transferIds : ((tables.transfers.others (transferOf height) ++
    (batches.transfers ++ claims.transfers)).map ModToAcctTransferRecord.id).Nodup
  summaryIds : ((tables.summarized.others (summaryOf height) ++
    (batches.summarized ++ claims.summarized)).map SummarizedTransferRecord.id).Nodup
  clean : batches.transfers = [] → claims.transfers = [] →
    tables.transfers.selected (transferOf height) = [] ∧
      tables.summarized.selected (summaryOf height) = []

/-- The rows of one block: all carry its id, and there are summaries just when there are rows. -/
structure TransferRows.OfBlock (rows : TransferRows) (height : ℕ) : Prop where
  transfers : ∀ record ∈ rows.transfers, record.blockId = height
  summarized : ∀ record ∈ rows.summarized, record.blockId = height
  together : rows.summarized = [] ↔ rows.transfers = []

/-- Statements on the transfers take effect apart from those on the summaries. -/
theorem execute_transfers (tables : TransferTables) (statements : List TransferStatement) :
    (tables.execute statements).transfers =
      tables.transfers.execute (statements.filterMap TransferStatement.onTransfers) := by
  induction statements generalizing tables with
  | nil => rfl
  | cons statement rest ih =>
    cases statement with
    | modToAcctTransfers statement => exact ih _
    | modToAcctTransfersSummarized statement => exact ih _

/-- Statements on the summaries take effect apart from those on the transfers. -/
theorem execute_summarized (tables : TransferTables) (statements : List TransferStatement) :
    (tables.execute statements).summarized =
      tables.summarized.execute (statements.filterMap TransferStatement.onSummarized) := by
  induction statements generalizing tables with
  | nil => rfl
  | cons statement rest ih =>
    cases statement with
    | modToAcctTransfers statement => exact ih _
    | modToAcctTransfersSummarized statement => exact ih _

/-- Storing the transfers of a block is a writer of that block's rows. -/
theorem bulkInsertModToAcctTransfers_eq {records : List ModToAcctTransferRecord} {height : ℕ}
    (ofBlock : ∀ record ∈ records, record.blockId = height) :
    bulkInsertModToAcctTransfers records = writeRows (transferOf height)
      (sliceBatches BATCH_SIZE records.length records) := by
  cases records with
  | nil => rfl
  | cons first rest =>
    have named : first.blockId = height := ofBlock first List.mem_cons_self
    rw [bulkInsertModToAcctTransfers, rawBulkInsert_eq_writeRows, named]
    rfl

/-- Storing the summaries of a block is a writer of that block's rows. -/
theorem bulkInsertSummarizedTransfers_eq {records : List SummarizedTransferRecord} {height : ℕ}
    (ofBlock : ∀ record ∈ records, record.blockId = height) :
    bulkInsertSummarizedTransfers records = writeRows (summaryOf height)
      (sliceBatches BATCH_SIZE records.length records) := by
  cases records with
  | nil => rfl
  | cons first rest =>
    have named : first.blockId = height := ofBlock first List.mem_cons_self
    rw [bulkInsertSummarizedTransfers, rawBulkInsert_eq_writeRows, named]
    rfl

section Projection

variable {α β : Type}

/-- A program whose steps all concern one part of the state is seen whole from there. -/
theorem select_map_some {rename : α → β} {choose : β → Option α}
    (chosen : ∀ action, choose (rename action) = some action) (task : Task α) :
    (task.map rename).select choose = task := by
  induction task with
  | skip => rfl
  | step action => simp [Task.map, Task.select, chosen]
  | seq first second before after => simp [Task.map, Task.select, before, after]
  | par first second before after => simp [Task.map, Task.select, before, after]

/-- A program none of whose steps concerns a part of the state does nothing there. -/
theorem trace_select_map_none {γ : Type} {rename : α → β} {choose : β → Option γ}
    (other : ∀ action, choose (rename action) = none) {task : Task α} {trace : List γ}
    (run : Trace ((task.map rename).select choose) trace) : trace = [] := by
  have same := run.perm
  rw [Task.actions_select, Task.actions_map, List.filterMap_map] at same
  have none : task.actions.filterMap (choose ∘ rename) = [] :=
    List.filterMap_eq_nil_iff.mpr fun action _ => other action
  rw [none] at same
  exact same.eq_nil

end Projection

/-- Seen from the transfers, one handler stores its transfers. -/
theorem insert_onTransfers {rows : TransferRows} {trace : List (Statement ModToAcctTransferRecord)}
    (run : Trace (rows.insert.select TransferStatement.onTransfers) trace) :
    Trace (bulkInsertModToAcctTransfers rows.transfers) trace := by
  cases run with
  | par first rest merged =>
    cases rest with
    | par second last inner =>
      cases last
      -- The statements on the summaries are not seen here.
      rw [trace_select_map_none (fun _ => rfl) second] at inner
      rw [inner.eq_of_nil_right] at merged
      rw [merged.eq_of_nil_right]
      have whole : ((bulkInsertModToAcctTransfers rows.transfers).map
          TransferStatement.modToAcctTransfers).select TransferStatement.onTransfers =
            bulkInsertModToAcctTransfers rows.transfers :=
        select_map_some (by exact fun _ => rfl) _
      rw [whole] at first
      exact first

/-- Seen from the summaries, one handler stores its summaries. -/
theorem insert_onSummarized {rows : TransferRows}
    {trace : List (Statement SummarizedTransferRecord)}
    (run : Trace (rows.insert.select TransferStatement.onSummarized) trace) :
    Trace (bulkInsertSummarizedTransfers rows.summarized) trace := by
  cases run with
  | par first rest merged =>
    cases rest with
    | par second last inner =>
      cases last
      rw [inner.eq_of_nil_right] at merged
      rw [trace_select_map_none (fun _ => rfl) first] at merged
      rw [merged.swap.eq_of_nil_right]
      have whole : ((bulkInsertSummarizedTransfers rows.summarized).map
          TransferStatement.modToAcctTransfersSummarized).select
            TransferStatement.onSummarized = bulkInsertSummarizedTransfers rows.summarized :=
        select_map_some (by exact fun _ => rfl) _
      rw [whole] at second
      exact second

/-- The slices a handler writes to the transfers. -/
def TransferRows.transferBatches (rows : TransferRows) : List (List ModToAcctTransferRecord) :=
  sliceBatches BATCH_SIZE rows.transfers.length rows.transfers

/-- The slices a handler writes to the summaries. -/
def TransferRows.summaryBatches (rows : TransferRows) : List (List SummarizedTransferRecord) :=
  sliceBatches BATCH_SIZE rows.summarized.length rows.summarized

section Both

variable {tables : TransferTables} {height : ℕ} {batches claims : TransferRows}

/-- Both handlers as writers of the transfers. -/
def transferSchedule (batches claims : TransferRows) :
    Task (List (List ModToAcctTransferRecord)) :=
  Task.par (Task.step batches.transferBatches) (Task.step claims.transferBatches)

/-- Both handlers as writers of the summaries. -/
def summarySchedule (batches claims : TransferRows) :
    Task (List (List SummarizedTransferRecord)) :=
  Task.par (Task.step batches.summaryBatches) (Task.step claims.summaryBatches)

/-- The transfers of both handlers are those of their slices. -/
theorem transferSchedule_flatten (batches claims : TransferRows) :
    (transferSchedule batches claims).actions.flatten.flatten =
      batches.transfers ++ claims.transfers := by
  simp [transferSchedule, Task.actions, TransferRows.transferBatches]

/-- The summaries of both handlers are those of their slices. -/
theorem summarySchedule_flatten (batches claims : TransferRows) :
    (summarySchedule batches claims).actions.flatten.flatten =
      batches.summarized ++ claims.summarized := by
  simp [summarySchedule, Task.actions, TransferRows.summaryBatches]

/-- Seen from the transfers, both handlers together are two writers. -/
theorem both_onTransfers (first : batches.OfBlock height) (second : claims.OfBlock height)
    {trace : List TransferStatement} (run : Trace (Task.par batches.insert claims.insert) trace) :
    Trace ((transferSchedule batches claims).bind (writeRows (transferOf height)))
      (trace.filterMap TransferStatement.onTransfers) := by
  have seen := run.select TransferStatement.onTransfers
  cases seen with
  | par one two merged =>
    have one := insert_onTransfers one
    have two := insert_onTransfers two
    rw [bulkInsertModToAcctTransfers_eq first.transfers] at one
    rw [bulkInsertModToAcctTransfers_eq second.transfers] at two
    exact Trace.par one two merged

/-- Seen from the summaries, both handlers together are two writers. -/
theorem both_onSummarized (first : batches.OfBlock height) (second : claims.OfBlock height)
    {trace : List TransferStatement} (run : Trace (Task.par batches.insert claims.insert) trace) :
    Trace ((summarySchedule batches claims).bind (writeRows (summaryOf height)))
      (trace.filterMap TransferStatement.onSummarized) := by
  have seen := run.select TransferStatement.onSummarized
  cases seen with
  | par one two merged =>
    have one := insert_onSummarized one
    have two := insert_onSummarized two
    rw [bulkInsertSummarizedTransfers_eq first.summarized] at one
    rw [bulkInsertSummarizedTransfers_eq second.summarized] at two
    exact Trace.par one two merged

/-- In the order of the text the transfers are written by one handler after the other. -/
theorem textOrder_onTransfers (first : batches.OfBlock height) (second : claims.OfBlock height) :
    (Task.par batches.insert claims.insert).actions.filterMap TransferStatement.onTransfers =
      Table.textOrder (transferOf height) (transferSchedule batches claims).actions := by
  have own (rows : TransferRows) (ofBlock : rows.OfBlock height) :
      rows.insert.actions.filterMap TransferStatement.onTransfers =
        (writeRows (transferOf height) rows.transferBatches).actions := by
    have kept (statements : List (Statement ModToAcctTransferRecord)) :
        (statements.map TransferStatement.modToAcctTransfers).filterMap
          TransferStatement.onTransfers = statements := by
      rw [List.filterMap_map]
      exact List.filterMap_some
    have unseen (statements : List (Statement SummarizedTransferRecord)) :
        (statements.map TransferStatement.modToAcctTransfersSummarized).filterMap
          TransferStatement.onTransfers = [] := by
      rw [List.filterMap_map]
      exact List.filterMap_eq_nil_iff.mpr fun _ _ => rfl
    simp only [TransferRows.insert, Task.all, Task.actions, Task.actions_map,
      List.filterMap_append, kept, unseen, List.append_nil]
    rw [bulkInsertModToAcctTransfers_eq ofBlock.transfers]
    rfl
  simp [Task.actions, Table.textOrder, transferSchedule, own batches first, own claims second]

/-- In the order of the text the summaries are written by one handler after the other. -/
theorem textOrder_onSummarized (first : batches.OfBlock height)
    (second : claims.OfBlock height) :
    (Task.par batches.insert claims.insert).actions.filterMap TransferStatement.onSummarized =
      Table.textOrder (summaryOf height) (summarySchedule batches claims).actions := by
  have own (rows : TransferRows) (ofBlock : rows.OfBlock height) :
      rows.insert.actions.filterMap TransferStatement.onSummarized =
        (writeRows (summaryOf height) rows.summaryBatches).actions := by
    have kept (statements : List (Statement SummarizedTransferRecord)) :
        (statements.map TransferStatement.modToAcctTransfersSummarized).filterMap
          TransferStatement.onSummarized = statements := by
      rw [List.filterMap_map]
      exact List.filterMap_some
    have unseen (statements : List (Statement ModToAcctTransferRecord)) :
        (statements.map TransferStatement.modToAcctTransfers).filterMap
          TransferStatement.onSummarized = [] := by
      rw [List.filterMap_map]
      exact List.filterMap_eq_nil_iff.mpr fun _ _ => rfl
    simp only [TransferRows.insert, Task.all, Task.actions, Task.actions_map,
      List.filterMap_append, kept, unseen, List.append_nil, List.nil_append]
    rw [bulkInsertSummarizedTransfers_eq ofBlock.summarized]
    rfl
  simp [Task.actions, Table.textOrder, summarySchedule, own batches first, own claims second]

/-- What is written in the two tables is kept just when each of them keeps it. -/
theorem keepsTransfers_iff (first : batches.OfBlock height) (second : claims.OfBlock height) :
    KeepsTransfers tables height batches claims ↔
      Table.Lossless tables.transfers (transferOf height)
        (transferSchedule batches claims).actions ∧
      Table.Lossless tables.summarized (summaryOf height)
        (summarySchedule batches claims).actions := by
  -- A side without transfers writes nothing, and the other is the only writer then.
  have transfersSole : Table.SoleWriter (transferSchedule batches claims).actions ↔
      batches.transfers = [] ∨ claims.transfers = [] := by
    simp [-List.flatten_eq_nil_iff, Table.SoleWriter, transferSchedule, Task.actions,
      TransferRows.transferBatches]
  have summariesSole : Table.SoleWriter (summarySchedule batches claims).actions ↔
      batches.transfers = [] ∨ claims.transfers = [] := by
    rw [← first.together, ← second.together]
    simp [-List.flatten_eq_nil_iff, Table.SoleWriter, summarySchedule, Task.actions,
      TransferRows.summaryBatches]
  constructor
  · intro keeps
    refine ⟨⟨transfersSole.mpr keeps.single, ?_, ?_⟩, ⟨summariesSole.mpr keeps.single, ?_, ?_⟩⟩
    · rw [transferSchedule_flatten, List.filterMap_eq_map']
      exact keeps.transferIds
    · rw [transferSchedule_flatten, List.append_eq_nil_iff]
      exact fun none => (keeps.clean none.1 none.2).1
    · rw [summarySchedule_flatten, List.filterMap_eq_map']
      exact keeps.summaryIds
    · rw [summarySchedule_flatten, List.append_eq_nil_iff, first.together, second.together]
      exact fun none => (keeps.clean none.1 none.2).2
  · rintro ⟨transfers, summaries⟩
    have transferIds := transfers.free
    have summaryIds := summaries.free
    have transfersClean := transfers.clean
    have summariesClean := summaries.clean
    rw [transferSchedule_flatten, List.filterMap_eq_map'] at transferIds
    rw [summarySchedule_flatten, List.filterMap_eq_map'] at summaryIds
    rw [transferSchedule_flatten, List.append_eq_nil_iff] at transfersClean
    rw [summarySchedule_flatten, List.append_eq_nil_iff, first.together, second.together]
      at summariesClean
    exact ⟨transfersSole.mp transfers.sole, transferIds, summaryIds, fun one two =>
      ⟨transfersClean ⟨one, two⟩, summariesClean ⟨one, two⟩⟩⟩

/-- Every interleaving of both handlers keeps all rows of a block just under the conditions. -/
theorem insertBoth_holds_iff (first : batches.OfBlock height) (second : claims.OfBlock height) :
    (∀ trace, Trace (Task.par batches.insert claims.insert) trace →
      HoldsTransfers (tables.execute trace) height batches claims) ↔
      KeepsTransfers tables height batches claims := by
  -- Every row that is written belongs to the block.
  have transfersOwned : ∀ row ∈ (transferSchedule batches claims).actions.flatten.flatten,
      transferOf height row = true := by
    rw [transferSchedule_flatten]
    intro row member
    rcases List.mem_append.mp member with inside | inside
    · exact decide_eq_true (first.transfers row inside)
    · exact decide_eq_true (second.transfers row inside)
  have summariesOwned : ∀ row ∈ (summarySchedule batches claims).actions.flatten.flatten,
      summaryOf height row = true := by
    rw [summarySchedule_flatten]
    intro row member
    rcases List.mem_append.mp member with inside | inside
    · exact decide_eq_true (first.summarized row inside)
    · exact decide_eq_true (second.summarized row inside)
  rw [keepsTransfers_iff first second]
  constructor
  · -- The order of the text alone already shows every loss.
    intro always
    have kept := always _ (Trace.actions _)
    have transfers := kept.transfers
    have summarized := kept.summarized
    rw [execute_transfers, textOrder_onTransfers first second, ← transferSchedule_flatten]
      at transfers
    rw [execute_summarized, textOrder_onSummarized first second, ← summarySchedule_flatten]
      at summarized
    exact ⟨Table.Lossless.of_textOrder transfersOwned transfers,
      Table.Lossless.of_textOrder summariesOwned summarized⟩
  · -- Without losses on either table every interleaving holds the rows.
    rintro ⟨transfers, summarized⟩ trace run
    constructor
    · rw [execute_transfers, ← transferSchedule_flatten]
      exact transfers.holds transfersOwned (both_onTransfers first second run)
    · rw [execute_summarized, ← summarySchedule_flatten]
      exact summarized.holds summariesOwned (both_onSummarized first second run)

end Both

/-- The transfers of a claim, numbered in their order. -/
def ClaimTransfers (eventId : String) (blockId : ℕ) (transfers : List ModToAcctTransferRecord) :
    Prop :=
  ∀ (index : ℕ) (record : ModToAcctTransferRecord), transfers[index]? = some record →
    record.id = s!"{eventId}-{index}" ∧ record.blockId = blockId

/-- A claim without transfers has none to number. -/
theorem claimTransfers_nil (eventId : String) (blockId : ℕ) :
    ClaimTransfers eventId blockId [] := by
  intro index record placed
  simp at placed

/-- Transfers built one by one from a numbered list are numbered by it. -/
theorem claimTransfers_of_mapM {α : Type} {eventId : String} {blockId : ℕ} {items : List α}
    {build : α × ℕ → Except String ModToAcctTransferRecord}
    {transfers : List ModToAcctTransferRecord}
    (built : items.zipIdx.mapM build = .ok transfers)
    (each : ∀ item index record, build (item, index) = .ok record →
      record.id = s!"{eventId}-{index}" ∧ record.blockId = blockId) :
    ClaimTransfers eventId blockId transfers := by
  intro index record placed
  obtain ⟨item, ran⟩ := mapM_zipIdx_ok built placed
  exact each item index record ran

/-- The transfers of a settlement result are numbered. -/
theorem fromResult_numbered {settlementResult : Json} {eventId : String} {blockId : ℕ}
    {transfers : List ModToAcctTransferRecord}
    (built : _buildSettlementFromResult settlementResult eventId blockId = .ok transfers) :
    ClaimTransfers eventId blockId transfers := by
  unfold _buildSettlementFromResult at built
  split at built
  · cases built
    exact claimTransfers_nil _ _
  · cases built
    exact claimTransfers_nil _ _
  · obtain ⟨items, _, built⟩ := exceptBind_ok built
    refine claimTransfers_of_mapM built fun item index record ran => ?_
    -- Whatever the item holds, the record it gives is built by the same constructor.
    obtain ⟨_, _, ran⟩ := exceptBind_ok ran
    obtain ⟨_, _, ran⟩ := exceptBind_ok ran
    obtain ⟨_, _, ran⟩ := exceptBind_ok ran
    obtain ⟨_, _, ran⟩ := exceptBind_ok ran
    obtain ⟨_, _, ran⟩ := exceptBind_ok ran
    obtain ⟨_, _, ran⟩ := exceptBind_ok ran
    obtain ⟨_, _, ran⟩ := exceptBind_ok ran
    obtain ⟨_, _, ran⟩ := exceptBind_ok ran
    cases ran
    exact ⟨rfl, rfl⟩

/-- The transfers of a detailed distribution are numbered. -/
theorem fromDetailed_numbered {distribution : Json} {eventId : String} {blockId : ℕ}
    {transfers : List ModToAcctTransferRecord}
    (built : _buildSettlementFromDetailedDistribution distribution eventId blockId =
      .ok transfers) : ClaimTransfers eventId blockId transfers := by
  obtain ⟨items, _, built⟩ := exceptBind_ok built
  refine claimTransfers_of_mapM built fun item index record ran => ?_
  obtain ⟨_, _, ran⟩ := exceptBind_ok ran
  obtain ⟨_, _, ran⟩ := exceptBind_ok ran
  obtain ⟨_, _, ran⟩ := exceptBind_ok ran
  obtain ⟨_, _, ran⟩ := exceptBind_ok ran
  obtain ⟨_, _, ran⟩ := exceptBind_ok ran
  cases ran
  exact ⟨rfl, rfl⟩

/-- The transfers of a distribution are numbered. -/
theorem fromDistribution_numbered {distribution : Json} {eventId : String} {blockId : ℕ}
    {transfers : List ModToAcctTransferRecord}
    (built : _buildSettlementFromDistribution distribution eventId blockId = .ok transfers) :
    ClaimTransfers eventId blockId transfers := by
  refine claimTransfers_of_mapM built fun item index record ran => ?_
  obtain ⟨_, _, ran⟩ := exceptBind_ok ran
  obtain ⟨_, _, ran⟩ := exceptBind_ok ran
  cases ran
  exact ⟨rfl, rfl⟩

/-- A settled claim numbers its transfers, whichever attribute they come from. -/
theorem settled_numbered {kindText : CosmosEventKind → String} {event : CosmosEvent}
    {settled : EventSettled} (handled : _handleEventClaimSettled kindText event = .ok settled) :
    settled.id = getEventId kindText event ∧
      ClaimTransfers settled.id event.height settled.modToAcctTransfers := by
  obtain ⟨attributes, _, handled⟩ := exceptBind_ok handled
  obtain ⟨_, _, handled⟩ := exceptBind_ok handled
  obtain ⟨transfers, resolved, handled⟩ := exceptBind_ok handled
  cases handled
  refine ⟨rfl, ?_⟩
  unfold _resolveSettlementParts at resolved
  split at resolved
  · exact fromResult_numbered resolved
  · split at resolved
    · exact fromDetailed_numbered resolved
    · split at resolved
      · exact fromDistribution_numbered resolved
      · cases resolved
        exact claimTransfers_nil _ _

/-- Settled claims keep the ids of their events. -/
theorem settled_ids {kindText : CosmosEventKind → String} {events : List CosmosEvent}
    {settled : List EventSettled}
    (handled : events.mapM (_handleEventClaimSettled kindText) = .ok settled) :
    settled.map EventSettled.id = events.map (getEventId kindText) := by
  have each := mapM_ok handled
  clear handled
  induction each with
  | nil => rfl
  | cons one _ ih => rw [List.map_cons, List.map_cons, (settled_numbered one).1, ih]

/-- A summary belongs to the block it was summed up for. -/
theorem summarizeTransfer_blockId {blockId : ℕ} {services : Dict String String}
    {grouped : Dict String SummarizedTransferRecord} {r : ModToAcctTransferRecord}
    (before : ∀ summary ∈ grouped.values, summary.blockId = blockId) :
    ∀ summary ∈ (summarizeTransfer blockId services grouped r).values,
      summary.blockId = blockId := by
  intro summary member
  obtain ⟨key, found⟩ := Dict.mem_values.mp member
  unfold summarizeTransfer at found
  dsimp only at found
  split at found
  · rename_i existing located
    rw [Dict.get_set] at found
    split at found
    · -- The summary that was there keeps its block.
      cases found
      exact before existing (Dict.mem_values.mpr ⟨_, located⟩)
    · exact before summary (Dict.mem_values.mpr ⟨key, found⟩)
  · rw [Dict.get_set] at found
    split at found
    · cases found
      rfl
    · exact before summary (Dict.mem_values.mpr ⟨key, found⟩)

/-- Summing up more transfers keeps every summary there is. -/
theorem summarizeTransfer_keys {blockId : ℕ} {services : Dict String String}
    {grouped : Dict String SummarizedTransferRecord} {r : ModToAcctTransferRecord} :
    (summarizeTransfer blockId services grouped r).keys ≠ [] := by
  unfold summarizeTransfer
  dsimp only
  split
  · exact List.ne_nil_of_mem (Dict.mem_keys_set.mpr (Or.inl rfl))
  · exact List.ne_nil_of_mem (Dict.mem_keys_set.mpr (Or.inl rfl))

/-- The summaries of a block's transfers belong to the block, and there are some if there are any. -/
theorem summarizeTransfers_ofBlock {records : List ModToAcctTransferRecord} {height : ℕ}
    (ofBlock : ∀ record ∈ records, record.blockId = height) (services : Dict String String) :
    TransferRows.OfBlock ⟨records, summarizeTransfers records services⟩ height := by
  cases records with
  | nil => exact ⟨ofBlock, by simp [summarizeTransfers], by simp [summarizeTransfers]⟩
  | cons first rest =>
    have named : first.blockId = height := ofBlock first List.mem_cons_self
    -- Both facts are kept by every transfer that is added.
    have summed : ∀ (records : List ModToAcctTransferRecord)
        (grouped : Dict String SummarizedTransferRecord),
        (∀ summary ∈ grouped.values, summary.blockId = height) → grouped.keys ≠ [] →
        let final := records.foldl (summarizeTransfer height services) grouped
        (∀ summary ∈ final.values, summary.blockId = height) ∧ final.keys ≠ [] := by
      intro records
      induction records with
      | nil => exact fun grouped before some => ⟨before, some⟩
      | cons r later ih =>
        exact fun grouped before _ =>
          ih _ (summarizeTransfer_blockId before) summarizeTransfer_keys
    obtain ⟨blocks, some⟩ := summed rest
      (summarizeTransfer height services Dict.empty first)
      (summarizeTransfer_blockId (by simp [Dict.values, Dict.empty])) summarizeTransfer_keys
    refine ⟨ofBlock, ?_, ?_⟩
    · simp only [summarizeTransfers, List.foldl_cons, named]
      exact blocks
    · simp only [summarizeTransfers, List.foldl_cons, named, reduceCtorEq, iff_false]
      intro none
      apply some
      simp only [Dict.values, List.map_eq_nil_iff] at none
      simp [Dict.keys, none]

/-- The rows of a block's settled claims are rows of that block. -/
theorem claimSettledRows_ofBlock {kindText : CosmosEventKind → String}
    {events : List CosmosEvent} {height : ℕ} {rows : TransferRows}
    (ofBlock : ∀ event ∈ events, event.height = height)
    (built : claimSettledRows kindText events = .ok rows) : rows.OfBlock height := by
  obtain ⟨settled, handled, built⟩ := exceptBind_ok built
  cases built
  refine summarizeTransfers_ofBlock (fun record member => ?_) _
  obtain ⟨claim, inside, listed⟩ := List.mem_flatMap.mp member
  obtain ⟨event, located, ran⟩ := mem_of_mapM_ok handled inside
  obtain ⟨index, placed⟩ := List.getElem?_of_mem listed
  have numbered := (settled_numbered ran).2 index record placed
  rw [numbered.2, ofBlock event located]

/-- The rows of a block's settlement batches are rows of that block. -/
theorem settlementBatchRows_ofBlock {kindText : CosmosEventKind → String}
    {events : List CosmosEvent} {height : ℕ} {rows : TransferRows}
    (ofBlock : ∀ event ∈ events, event.height = height)
    (built : settlementBatchRows kindText events = .ok rows) : rows.OfBlock height := by
  obtain ⟨transfers, handled, built⟩ := exceptBind_ok built
  cases built
  refine summarizeTransfers_ofBlock (fun record member => ?_) _
  obtain ⟨transfer, inside, same⟩ := List.mem_filterMap.mp member
  obtain ⟨event, located, ran⟩ := mem_of_mapM_ok handled inside
  rw [← ofBlock event located]
  obtain ⟨_, _, ran⟩ := exceptBind_ok ran
  obtain ⟨_, _, ran⟩ := exceptBind_ok ran
  obtain ⟨_, _, ran⟩ := exceptBind_ok ran
  obtain ⟨_, _, ran⟩ := exceptBind_ok ran
  split at ran
  · cases ran
    simp at same
  · obtain ⟨_, _, ran⟩ := exceptBind_ok ran
    obtain ⟨_, _, ran⟩ := exceptBind_ok ran
    cases ran
    cases same
    rfl

/-- Claims with distinct ids give their transfers distinct ids. -/
theorem claimTransfers_ids_nodup {claims : List (String × List ModToAcctTransferRecord)}
    (numbered : ∀ claim ∈ claims, ∃ blockId, ClaimTransfers claim.1 blockId claim.2)
    (distinct : (claims.map Prod.fst).Nodup) :
    ((claims.flatMap Prod.snd).map ModToAcctTransferRecord.id).Nodup := by
  rw [List.map_flatMap, List.nodup_flatMap]
  constructor
  · -- Inside one claim the numbers differ.
    intro claim inside
    obtain ⟨_, places⟩ := numbered claim inside
    rw [List.nodup_iff_getElem?_ne_getElem?]
    intro one two before within same
    rw [List.length_map] at within
    have bound : one < claim.2.length := Nat.lt_trans before within
    rw [List.getElem?_map, List.getElem?_map, List.getElem?_eq_getElem bound,
      List.getElem?_eq_getElem within, Option.map_some, Option.map_some, Option.some.injEq,
      (places one _ (List.getElem?_eq_getElem bound)).1,
      (places two _ (List.getElem?_eq_getElem within)).1] at same
    have equal := (numbered_inj same).2
    omega
  · -- Across claims the ids differ.
    rw [List.Nodup, List.pairwise_map] at distinct
    refine distinct.imp_of_mem fun {first second} inside beside different => ?_
    obtain ⟨_, placesFirst⟩ := numbered first inside
    obtain ⟨_, placesSecond⟩ := numbered second beside
    rw [Function.onFun_apply, List.disjoint_left]
    intro id memberFirst memberSecond
    obtain ⟨one, listedOne, rfl⟩ := List.mem_map.mp memberFirst
    obtain ⟨two, listedTwo, same⟩ := List.mem_map.mp memberSecond
    obtain ⟨indexOne, placedOne⟩ := List.getElem?_of_mem listedOne
    obtain ⟨indexTwo, placedTwo⟩ := List.getElem?_of_mem listedTwo
    rw [(placesFirst _ _ placedOne).1, (placesSecond _ _ placedTwo).1] at same
    exact different (numbered_inj same).1.symm

/-- Distinct events give their transfers distinct ids. -/
theorem claimSettledRows_ids_nodup {kindText : CosmosEventKind → String}
    {events : List CosmosEvent} {rows : TransferRows}
    (distinct : (events.map (getEventId kindText)).Nodup)
    (built : claimSettledRows kindText events = .ok rows) :
    (rows.transfers.map ModToAcctTransferRecord.id).Nodup := by
  obtain ⟨settled, handled, built⟩ := exceptBind_ok built
  cases built
  -- The claims carry the ids of their events.
  have claims := @claimTransfers_ids_nodup
    (settled.map fun claim => (claim.id, claim.modToAcctTransfers))
    (by
      intro claim member
      obtain ⟨one, inside, rfl⟩ := List.mem_map.mp member
      obtain ⟨event, _, ran⟩ := mem_of_mapM_ok handled inside
      exact ⟨event.height, (settled_numbered ran).2⟩)
    (by rw [List.map_map]; rwa [← settled_ids handled] at distinct)
  rwa [List.flatMap_map] at claims

/-- A node that spells the kinds of events in snake case. -/
def snakeCaseKind : CosmosEventKind → String
  | .beginBlock => "begin_block"
  | .endBlock => "end_block"
  | .message => "message"
  | .transaction => "transaction"
  | .finalizeBlock => "finalize_block"

/-- A claim settled at height 100 that rewards a supplier. -/
def settledClaim : CosmosEvent :=
  { idx := 0
    height := 100
    kind := .finalizeBlock
    type := .claimSettled
    attributes := [
      ⟨"service_id", "\"svc\""⟩,
      ⟨"supplier_operator_address", "\"pokt1s\""⟩,
      ⟨"reward_distribution_detailed",
        "[\x7b\"recipient_address\":\"pokt1s\",\"op_reason\":4,\"amount\":\"70upokt\"\x7d]"⟩]
    tx := none
    msg := none }

/-- A settlement batch at height 100 that rewards a validator. -/
def validatorBatch : CosmosEvent :=
  { idx := 1
    height := 100
    kind := .finalizeBlock
    type := .settlementBatch
    attributes := [
      ⟨"op_type", "\"mod_to_acct\""⟩,
      ⟨"op_reason", "\"TLM_RELAY_BURN_EQUALS_MINT_VALIDATOR_REWARD_DISTRIBUTION\""⟩,
      ⟨"recipient", "\"pokt1v\""⟩,
      ⟨"total_amount", "\"30upokt\""⟩]
    tx := none
    msg := none }

/-- The rows of the settled claim. -/
def settledClaimRows : TransferRows :=
  ⟨[⟨"100-finalize_block-0-0", "100-finalize_block-0", 100,
      .tlmRelayBurnEqualsMintSupplierShareholderRd, "pokt1s", 70, "upokt"⟩],
    [⟨"100-pokt1s-TLM_RELAY_BURN_EQUALS_MINT_SUPPLIER_SHAREHOLDER_RD-upokt-svc", 100, "pokt1s",
      .tlmRelayBurnEqualsMintSupplierShareholderRd, "upokt", "svc", 70, 1⟩]⟩

/-- The rows of the settlement batch. -/
def validatorBatchRows : TransferRows :=
  ⟨[⟨"100-finalize_block-1", "", 100, .tlmRelayBurnEqualsMintValidatorRd, "pokt1v", 30,
      "upokt"⟩],
    [⟨"100-pokt1v-TLM_RELAY_BURN_EQUALS_MINT_VALIDATOR_RD-upokt-", 100, "pokt1v",
      .tlmRelayBurnEqualsMintValidatorRd, "upokt", "", 30, 1⟩]⟩

end Pocketdex
