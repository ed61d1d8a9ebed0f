import Pocketdex.Pocket.Settlement

/-! The functions of the database that report on the supply. -/

namespace Pocketdex

/-- A stored block. -/
structure BlockRow where
  id : ℕ
  timestamp : Int
  deriving DecidableEq, Repr

/-- Rows joined with their blocks, as far as these lie between two dates. -/
def betweenDates {ρ : Type} (blockId : ρ → ℕ) (blocks : List BlockRow) (startDate endDate : Int)
    (rows : List ρ) : List ρ :=
  rows.flatMap fun row =>
    (blocks.filter fun block =>
      blockId row = block.id ∧ startDate ≤ block.timestamp ∧ block.timestamp ≤ endDate).map
      fun _ => row

/-- The sum of a column, which is null when there are no rows. -/
def sumColumn (values : List Int) : Option Int := if values = [] then none else some values.sum

/-- The breakdown of minted tokens, where each figure may be null. -/
structure MintBreakdown where
  reimbursement : Option Int
  inflation : Option Int
  mintBurn : Option Int
  deriving DecidableEq, Repr

/-- The amount of an operation with one of some reasons, and zero for any other. -/
def amountIfReason (reasons : List Int) (elem : Settlement.MintBurnOp) : Int :=
  if elem.opReason ∈ reasons then elem.amount else 0

/-- The breakdown of minted tokens between two dates. -/
def getMintBreakdownBetweenDates (blocks : List BlockRow)
    (modToAcctTransfers : List ModToAcctTransferRecord)
    (eventClaimSettleds : List Settlement.EventClaimSettledProps) (startDate endDate : Int) :
    MintBreakdown :=
  let transfers := betweenDates ModToAcctTransferRecord.blockId blocks startDate endDate
    modToAcctTransfers
  let reimbursementAmount := (sumColumn ((transfers.filter fun transfer =>
    transfer.opReason.label = "TLM_GLOBAL_MINT_REIMBURSEMENT_REQUEST_ESCROW_DAO_TRANSFER").map
      ModToAcctTransferRecord.amount)).getD 0
  let elems := (betweenDates Settlement.EventClaimSettledProps.blockId blocks startDate endDate
    eventClaimSettleds).flatMap Settlement.EventClaimSettledProps.mints
  -- The sums over the mints are null when there are none in the whole range.
  let minted (reasons : List Int) := sumColumn (elems.map (amountIfReason reasons))
  { reimbursement := (minted [10]).map (reimbursementAmount + ·)
    inflation := minted [3, 5]
    mintBurn := minted [1, 19] }

/-- The sum of a column that starts at zero. -/
theorem sumColumn_getD (values : List Int) : (sumColumn values).getD 0 = values.sum := by
  unfold sumColumn
  split
  · rename_i empty
    rw [empty]
    rfl
  · rfl

/-- Joining does not depend on the order of the rows. -/
theorem betweenDates_perm {ρ : Type} {blockId : ρ → ℕ} {blocks : List BlockRow}
    {startDate endDate : Int} {rows others : List ρ} (same : rows.Perm others) :
    (betweenDates blockId blocks startDate endDate rows).Perm
      (betweenDates blockId blocks startDate endDate others) :=
  same.flatMap_right _

/-- Whether a block lies between two dates. -/
def BlockRow.within (startDate endDate : Int) (block : BlockRow) : Bool :=
  startDate ≤ block.timestamp ∧ block.timestamp ≤ endDate

/-- Rows that were stored block by block are joined block by block. -/
theorem betweenDates_flatMap {ρ α : Type} {blockId : ρ → ℕ} {blockOf : α → BlockRow}
    {history : List α} {rowsOf : α → List ρ} {startDate endDate : Int}
    (distinct : (history.map fun item => (blockOf item).id).Nodup)
    (owned : ∀ item ∈ history, ∀ row ∈ rowsOf item, blockId row = (blockOf item).id) :
    betweenDates blockId (history.map blockOf) startDate endDate (history.flatMap rowsOf) =
      (history.filter fun item => (blockOf item).within startDate endDate).flatMap rowsOf := by
  have nodup : ((history.map blockOf).map BlockRow.id).Nodup := by
    rw [List.map_map]
    exact distinct
  -- Only the block of a row is joined with it.
  have only : ∀ item ∈ history, ∀ row ∈ rowsOf item,
      ((history.map blockOf).filter fun block => decide (blockId row = block.id ∧
        startDate ≤ block.timestamp ∧ block.timestamp ≤ endDate)) =
        [blockOf item].filter (BlockRow.within startDate endDate) := by
    intro item member row inside
    have present : blockOf item ∈ history.map blockOf := List.mem_map_of_mem member
    have single : (history.map blockOf).filter (fun block => decide (block = blockOf item)) =
        [blockOf item] := by
      rw [List.filter_eq, List.count_eq_one_of_mem nodup.of_map present]
      rfl
    rw [← single, List.filter_filter]
    refine List.filter_congr fun block listed => ?_
    have same : blockId row = block.id ↔ block = blockOf item := by
      rw [owned item member row inside]
      exact ⟨fun named => List.inj_on_of_nodup_map nodup listed present named.symm,
        fun named => congrArg BlockRow.id named.symm⟩
    simp only [BlockRow.within, same, Bool.decide_and, Bool.and_comm]
  -- So the rows of a block are all joined, or none of them is.
  have each : ∀ item ∈ history,
      betweenDates blockId (history.map blockOf) startDate endDate (rowsOf item) =
        if (blockOf item).within startDate endDate then rowsOf item else [] := by
    intro item member
    unfold betweenDates
    rw [List.flatMap_congr fun row inside => congrArg _ (only item member row inside)]
    cases inside : (blockOf item).within startDate endDate
    · simp [inside]
    · simp [inside]
  unfold betweenDates at each ⊢
  rw [List.flatMap_assoc, List.flatMap_congr each]
  clear distinct owned nodup only each
  induction history with
  | nil => rfl
  | cons item rest ih =>
    rw [List.flatMap_cons, ih, List.filter_cons]
    split
    · rw [List.flatMap_cons]
    · rfl

end Pocketdex
