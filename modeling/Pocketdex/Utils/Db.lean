import Pocketdex.Base.Table
import Pocketdex.Base.Versions
import Mathlib.Data.Nat.Notation

/-! Bulk writes: the rows of the current block are deleted, and the new ones inserted in batches. -/

namespace Pocketdex

/-- The rows one INSERT carries: the setting is a text, so it never replaces the default. -/
def BATCH_SIZE : ℕ := 5000

/-- The records one page of a query carries: the setting is a text here as well. -/
def PAGE_LIMIT : ℕ := 1000

/-- Pages are fetched until one of them is not full. -/
def fetchPaginatedRecords {α : Type} (fetchFn : ℕ → ℕ → List α) : ℕ → ℕ → List α
  | 0, _ => []
  | fuel + 1, offset =>
    let batch := fetchFn offset PAGE_LIMIT
    if batch.length = PAGE_LIMIT then
      batch ++ fetchPaginatedRecords fetchFn fuel (offset + batch.length)
    else batch

/-- The same with pages of any size, as long as the rounds last. -/
def fetchPaginatedRecordsBy {α : Type} (pageLimit : ℕ) (fetchFn : ℕ → ℕ → List α) :
    ℕ → ℕ → Option (List α)
  | 0, _ => none
  | rounds + 1, offset =>
    let batch := fetchFn offset pageLimit
    if batch.length = pageLimit then
      (fetchPaginatedRecordsBy pageLimit fetchFn rounds (offset + batch.length)).map (batch ++ ·)
    else some batch

/-- A record handed to a bulk write, with the block it belongs to if its table names one. -/
structure Doc (ρ : Type) where
  data : ρ
  blockId : Option ℕ
  blockRange : Option BlockRange := none
  deriving DecidableEq, Repr

/-- How a bulk write finds the rows an earlier attempt of the block may have left. -/
inductive RemoveBy where
  | blockId
  | blockRange
  | omit
  deriving DecidableEq, Repr

variable {ρ : Type}

/-- A record without a range of its own is open from the current height on. -/
def stamp (height : ℕ) (doc : Doc ρ) : Row ρ :=
  ⟨doc.data, doc.blockId, doc.blockRange.getD ⟨height, none⟩⟩

/-- Records fill up one batch after the other. -/
def fillBatches {α : Type} (size : ℕ) : List α → List α → List (List α)
  | _, [] => []
  | currentBatch, doc :: rest =>
    let currentBatch := currentBatch ++ [doc]
    if currentBatch.length = size ∨ rest.isEmpty then
      currentBatch :: fillBatches size [] rest
    else fillBatches size currentBatch rest

/-- Whether the delete of a bulk write selects a row. -/
def removes (height : ℕ) (removeBy : RemoveBy) (row : Row ρ) : Bool :=
  match removeBy with
  | .blockId => row.blockId = some height
  | .blockRange => row.blockRange.lower = height
  | .omit => false

/-- Deleting the block's rows, and then inserting all batches side by side. -/
def optimizedBulkCreate (height : ℕ) (docs : List (Doc ρ)) (removeBy : RemoveBy) :
    Task (Statement (Row ρ)) :=
  if docs.isEmpty then Task.skip
  else
    let batches := fillBatches BATCH_SIZE [] (docs.map (stamp height))
    let remove := match removeBy with
      | .omit => Task.skip
      | _ => Task.step (.destroy (removes height removeBy))
    Task.seq remove (Task.all ((batches.map Statement.insert).map Task.step))

/-- Rows are cut into slices of one size. -/
def sliceBatches {α : Type} (size : ℕ) : ℕ → List α → List (List α)
  | 0, _ => []
  | fuel + 1, rows =>
    if rows.isEmpty then [] else rows.take size :: sliceBatches size fuel (rows.drop size)

/-- The same for tables outside the store, whose rows carry the block and a unique id. -/
def rawBulkInsert (blockIdOf : ρ → ℕ) (blockId : ℕ) (rows : List ρ) : Task (Statement ρ) :=
  if rows.isEmpty then Task.skip
  else
    let batches := sliceBatches BATCH_SIZE rows.length rows
    Task.seq (Task.step (.destroy fun row => blockIdOf row = blockId))
      (Task.all ((batches.map Statement.insert).map Task.step))

/-- The records of one fixed ordering from an offset on, up to a limit. -/
def slice {α : Type} (records : List α) (offset limit : ℕ) : List α := (records.drop offset).take limit

/-- From an offset on, every full page takes one round, and so does the page after them. -/
theorem fetchPaginatedRecordsBy_slice {α : Type} {pageLimit : ℕ} (positive : 0 < pageLimit)
    (records : List α) (rounds offset : ℕ) :
    fetchPaginatedRecordsBy pageLimit (slice records) rounds offset =
      if (records.length - offset) / pageLimit < rounds then some (records.drop offset)
      else none := by
  induction rounds generalizing offset with
  | zero => simp [fetchPaginatedRecordsBy]
  | succ rounds ih =>
    have size : (slice records offset pageLimit).length =
        min pageLimit (records.length - offset) := by simp [slice]
    rw [fetchPaginatedRecordsBy]
    by_cases full : pageLimit ≤ records.length - offset
    · -- A full page leaves the rounds of the records after it.
      have filled : (slice records offset pageLimit).length = pageLimit := by omega
      have fewer : (records.length - offset) / pageLimit =
          (records.length - (offset + pageLimit)) / pageLimit + 1 := by
        rw [Nat.div_eq_sub_div positive full, Nat.sub_sub]
      rw [if_pos filled, filled, ih, fewer]
      simp only [Nat.add_lt_add_iff_right]
      split
      · rw [Option.map_some, slice, ← List.drop_drop, List.take_append_drop]
      · rfl
    · -- A page that is not full is the last one, whether or not it holds a record.
      have short : (slice records offset pageLimit).length ≠ pageLimit := by omega
      have last : (records.length - offset) / pageLimit = 0 := Nat.div_eq_of_lt (by omega)
      have whole : slice records offset pageLimit = records.drop offset := by
        apply List.take_of_length_le
        rw [List.length_drop]
        omega
      rw [if_neg short, last, if_pos (Nat.succ_pos _), whole]

/-- What the rounds return is what the pages of the indexer hold. -/
theorem fetchPaginatedRecords_of_rounds {α : Type} {fetchFn : ℕ → ℕ → List α}
    {rounds offset : ℕ} {records : List α}
    (returned : fetchPaginatedRecordsBy PAGE_LIMIT fetchFn rounds offset = some records) :
    fetchPaginatedRecords fetchFn rounds offset = records := by
  induction rounds generalizing offset records with
  | zero => cases returned
  | succ rounds ih =>
    rw [fetchPaginatedRecordsBy] at returned
    rw [fetchPaginatedRecords]
    split at returned
    · -- Behind a full page both go on from the same offset.
      rename_i full
      obtain ⟨rest, following, rfl⟩ := Option.map_eq_some_iff.mp returned
      rw [if_pos full, ih following]
    · rename_i short
      rw [if_neg short]
      exact Option.some.inj returned

/-- The pages of a query hold all its records. -/
theorem fetchPaginatedRecords_all {α : Type} (records : List α) (fuel offset : ℕ)
    (enough : records.length < offset + fuel) :
    fetchPaginatedRecords (fun offset limit => (records.drop offset).take limit) fuel offset =
      records.drop offset := by
  rcases Nat.eq_zero_or_pos fuel with rfl | some
  · rw [fetchPaginatedRecords, List.drop_of_length_le (by omega)]
  -- There are no more full pages than records.
  have rounds : (records.length - offset) / PAGE_LIMIT < fuel :=
    Nat.lt_of_le_of_lt (Nat.div_le_self _ _) (by omega)
  apply fetchPaginatedRecords_of_rounds
  have fetched := fetchPaginatedRecordsBy_slice (by decide : 0 < PAGE_LIMIT) records fuel offset
  rwa [if_pos rounds] at fetched

/-- Filling batches keeps every record in its place. -/
theorem fillBatches_flatten {α : Type} (size : ℕ) {docs : List α} (some : docs ≠ [])
    (currentBatch : List α) :
    (fillBatches size currentBatch docs).flatten = currentBatch ++ docs := by
  -- The last record always closes the batch it is put into.
  induction docs generalizing currentBatch with
  | nil => exact absurd rfl some
  | cons doc rest ih =>
    unfold fillBatches
    by_cases last : rest = []
    · subst last
      simp [fillBatches]
    · simp only [List.isEmpty_iff, last, or_false]
      split
      · simp [ih last []]
      · simp [ih last (currentBatch ++ [doc])]

/-- The batches of a bulk write hold exactly its records. -/
@[simp] theorem fillBatches_nil_flatten {α : Type} (size : ℕ) (docs : List α) :
    (fillBatches size [] docs).flatten = docs := by
  cases docs with
  | nil => rfl
  | cons doc rest => exact fillBatches_flatten size (List.cons_ne_nil _ _) []

/-- Slicing keeps every row in its place. -/
theorem sliceBatches_flatten {α : Type} {size : ℕ} (positive : 0 < size) (fuel : ℕ)
    (rows : List α) (enough : rows.length ≤ fuel) :
    (sliceBatches size fuel rows).flatten = rows := by
  induction fuel generalizing rows with
  | zero => simpa [sliceBatches] using (List.length_eq_zero_iff.mp (by omega)).symm
  | succ fuel ih =>
    unfold sliceBatches
    split
    · rename_i none
      simp [List.isEmpty_iff.mp none]
    · rename_i some
      have nonempty : 0 < rows.length := List.length_pos_iff.mpr (by simpa using some)
      have shorter : (rows.drop size).length ≤ fuel := by
        rw [List.length_drop]
        omega
      rw [List.flatten_cons, ih _ shorter, List.take_append_drop]

/-- A bulk write that cleans up is a writer of the block's rows. -/
theorem optimizedBulkCreate_eq_writeRows (height : ℕ) (docs : List (Doc ρ)) {removeBy : RemoveBy}
    (cleans : removeBy ≠ .omit) :
    optimizedBulkCreate height docs removeBy =
      writeRows (removes height removeBy) (fillBatches BATCH_SIZE [] (docs.map (stamp height))) := by
  unfold optimizedBulkCreate writeRows
  rw [fillBatches_nil_flatten]
  by_cases none : docs = []
  · simp [none]
  · rcases removeBy with _ | _ | _
    · simp [none, rewriteRows]
    · simp [none, rewriteRows]
    · exact absurd rfl cleans

/-- The slices of a raw bulk write hold exactly its rows. -/
@[simp] theorem sliceBatches_batchSize_flatten {α : Type} (rows : List α) :
    (sliceBatches BATCH_SIZE rows.length rows).flatten = rows :=
  sliceBatches_flatten (by decide) _ rows (Nat.le_refl _)

/-- A raw bulk write is a writer of the block's rows. -/
theorem rawBulkInsert_eq_writeRows (blockIdOf : ρ → ℕ) (blockId : ℕ) (rows : List ρ) :
    rawBulkInsert blockIdOf blockId rows =
      writeRows (fun row => blockIdOf row = blockId)
        (sliceBatches BATCH_SIZE rows.length rows) := by
  unfold rawBulkInsert writeRows
  rw [sliceBatches_batchSize_flatten]
  rfl

/-- A bulk write that does not clean up adds its records to the rows, in some order. -/
theorem optimizedBulkCreate_omit {key : Row ρ → Option Unit} {height : ℕ} {docs : List (Doc ρ)}
    {trace : List (Statement (Row ρ))} (unnamed : ∀ row, key row = none)
    (run : Trace (optimizedBulkCreate height docs .omit) trace) (table : Table key) :
    (table.execute trace).rows.Perm (table.rows ++ docs.map (stamp height)) := by
  unfold optimizedBulkCreate at run
  split at run
  · rename_i none
    have none : docs = [] := List.isEmpty_iff.mp none
    cases run
    simp [none, Table.execute]
  · cases run with
    | @seq _ _ _ later first second =>
      cases first
      -- The inserts are the batches in some order, and every row is admitted.
      have reordered : Relation.Comp (· = List.map Statement.insert ·) List.Perm later
          (fillBatches BATCH_SIZE [] (docs.map (stamp height))) := by
        rw [List.eq_map_comp_perm]
        exact Trace.all_steps second
      obtain ⟨order, listed, same⟩ := reordered
      have free : ((table.rows ++ order.flatten).filterMap key).Nodup := by
        have none := List.filterMap_eq_nil_iff.mpr fun (row : Row ρ)
          (_ : row ∈ table.rows ++ order.flatten) => unnamed row
        rw [none]
        exact List.nodup_nil
      rw [List.nil_append, listed, Table.execute_inserts, Table.insert_rows free]
      have flat := same.flatten
      rw [fillBatches_nil_flatten] at flat
      exact (List.Perm.refl _).append flat

end Pocketdex
