import Pocketdex.Bank.BalanceChange

/-! Pages and batches hold every record once, in the order the records have. -/

namespace Pocketdex

variable {α : Type}

/-- Batches hold the records in their order, and none of them is empty or too large. -/
structure Batching (size : ℕ) (records : List α) (batches : List (List α)) : Prop where
  flatten : batches.flatten = records
  filled : ∀ batch ∈ batches, batch ≠ []
  bounded : ∀ batch ∈ batches, batch.length ≤ size

/-- Filling batches from one that has room makes none that is empty or too large. -/
theorem fillBatches_sizes {size : ℕ} (docs : List α) {currentBatch : List α}
    (room : currentBatch.length < size) :
    ∀ batch ∈ fillBatches size currentBatch docs, batch ≠ [] ∧ batch.length ≤ size := by
  induction docs generalizing currentBatch with
  | nil => simp [fillBatches]
  | cons doc rest ih =>
    have positive : 0 < size := by omega
    have grown : (currentBatch ++ [doc]).length = currentBatch.length + 1 := by simp
    rw [fillBatches]
    split
    · -- The batch is closed with the record it just got.
      intro batch member
      rcases List.mem_cons.mp member with rfl | later
      · refine ⟨by simp, ?_⟩
        omega
      · exact ih (by simpa using positive) batch later
    · -- A batch that is not closed has room for one more record.
      rename_i kept
      have apart : (currentBatch ++ [doc]).length ≠ size := fun full => kept (Or.inl full)
      exact ih (by omega)

/-- The batches a bulk write fills hold its records. -/
theorem fillBatches_batching {size : ℕ} (positive : 0 < size) (docs : List α) :
    Batching size docs (fillBatches size [] docs) where
  flatten := fillBatches_nil_flatten size docs
  filled batch member := (fillBatches_sizes docs (by simpa using positive) batch member).1
  bounded batch member := (fillBatches_sizes docs (by simpa using positive) batch member).2

/-- No slice is empty or too large. -/
theorem sliceBatches_sizes {size : ℕ} (positive : 0 < size) (fuel : ℕ) (rows : List α) :
    ∀ batch ∈ sliceBatches size fuel rows, batch ≠ [] ∧ batch.length ≤ size := by
  induction fuel generalizing rows with
  | zero => simp [sliceBatches]
  | succ fuel ih =>
    rw [sliceBatches]
    split
    · simp
    · -- There are rows left, and the slice takes at least one of them.
      rename_i left
      intro batch member
      rcases List.mem_cons.mp member with rfl | later
      · have nonempty : rows ≠ [] := fun none => left (by simp [none])
        refine ⟨fun none => ?_, List.length_take_le _ _⟩
        rcases List.take_eq_nil_iff.mp none with zero | empty
        · omega
        · exact nonempty empty
      · exact ih (rows.drop size) batch later

/-- The slices of a list hold its rows. -/
theorem sliceBatches_batching {size : ℕ} (positive : 0 < size) (rows : List α) :
    Batching size rows (sliceBatches size rows.length rows) where
  flatten := sliceBatches_flatten positive _ rows (Nat.le_refl _)
  filled batch member := (sliceBatches_sizes positive _ rows batch member).1
  bounded batch member := (sliceBatches_sizes positive _ rows batch member).2

/-- Pagination ends with all records in their order, and bulk writes and chunks cut a list into
batches that hold it. -/
theorem pagesAndBatches_lossless {ρ : Type} (records : List α) (docs : List (Doc ρ))
    (height pageLimit size : ℕ) (paged : 0 < pageLimit) (sized : 0 < size) :
    (∀ rounds, fetchPaginatedRecordsBy pageLimit (slice records) rounds 0 =
      if records.length / pageLimit < rounds then some records else none) ∧
    Batching size (docs.map (stamp height)) (fillBatches size [] (docs.map (stamp height))) ∧
    Batching size records (sliceBatches size records.length records) ∧
    Batching size records (chunkArray records size) := by
  refine ⟨fun rounds => ?_, fillBatches_batching sized _, sliceBatches_batching sized records,
    sliceBatches_batching sized records⟩
  have paging := fetchPaginatedRecordsBy_slice paged records rounds 0
  rwa [Nat.sub_zero, List.drop_zero] at paging

/-- Four records on pages of two take three rounds, and the last page is empty. -/
theorem pagesAndBatches_lossless_full :
    0 < 2 ∧ fetchPaginatedRecordsBy 2 (slice [7, 8, 9, 10]) 3 0 = some [7, 8, 9, 10] := by
  have paging := (pagesAndBatches_lossless [7, 8, 9, 10] ([] : List (Doc ℕ)) 5 2 3 (by decide)
    (by decide)).1 3
  exact ⟨by decide, paging⟩

end Pocketdex
