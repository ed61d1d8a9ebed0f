import Pocketdex.Pocket.Applications

/-! Repeated bulk writes of one block: each later one deletes what the earlier ones wrote. -/

namespace Pocketdex

variable {ρ : Type}

/-- A table of the store: every row version has a primary key of its own. -/
abbrev StoreTable (ρ : Type) := Table fun _ : Row ρ => (none : Option Unit)

/-- A record of the block at a height, as the delete of its bulk write recognises it. -/
def Doc.OfBlock (height : ℕ) (removeBy : RemoveBy) (doc : Doc ρ) : Prop :=
  removes height removeBy (stamp height doc) = true

/-- The bulk writes of one table in one block, each with its records. -/
def bulkWrites (height : ℕ) (removeBy : RemoveBy) (calls : Task (List (Doc ρ))) :
    Task (Statement (Row ρ)) :=
  calls.bind fun docs => optimizedBulkCreate height docs removeBy

/-- The batches of one bulk write. -/
def bulkBatches (height : ℕ) (docs : List (Doc ρ)) : List (List (Row ρ)) :=
  fillBatches BATCH_SIZE [] (docs.map (stamp height))

/-- The bulk writes of one block are writers of the rows of that block. -/
theorem bulkWrites_eq (height : ℕ) {removeBy : RemoveBy} (cleans : removeBy ≠ .omit)
    (calls : Task (List (Doc ρ))) :
    bulkWrites height removeBy calls =
      (calls.map (bulkBatches height)).bind (writeRows (removes height removeBy)) := by
  rw [Task.map_bind]
  unfold bulkWrites
  congr 1
  funext docs
  exact optimizedBulkCreate_eq_writeRows height docs cleans

/-- The batches of all calls hold all their records. -/
theorem bulkBatches_flatten (height : ℕ) (calls : Task (List (Doc ρ))) :
    (calls.map (bulkBatches height)).actions.flatten.flatten =
      calls.actions.flatten.map (stamp height) := by
  rw [Task.actions_map]
  induction calls.actions with
  | nil => rfl
  | cons docs rest ih => simp [bulkBatches, ih]

/-- The bulk writes of a block add up, in every order, just when one call has all the records. -/
theorem bulkWrites_accumulate_iff (height : ℕ) {removeBy : RemoveBy} (cleans : removeBy ≠ .omit)
    (calls : Task (List (Doc ρ))) (table : StoreTable ρ)
    (ofBlock : ∀ docs ∈ calls.actions, ∀ doc ∈ docs, doc.OfBlock height removeBy) :
    (∀ trace, Trace (bulkWrites height removeBy calls) trace →
      (table.execute trace).Holds (removes height removeBy)
        (calls.actions.flatten.map (stamp height))) ↔
      calls.actions.Pairwise (fun one other => one = [] ∨ other = []) ∧
        (calls.actions.flatten = [] → table.selected (removes height removeBy) = []) := by
  have owned : ∀ row ∈ (calls.map (bulkBatches height)).actions.flatten.flatten,
      removes height removeBy row = true := by
    rw [bulkBatches_flatten]
    intro row member
    obtain ⟨doc, inside, rfl⟩ := List.mem_map.mp member
    obtain ⟨docs, chosen, listed⟩ := List.mem_flatten.mp inside
    exact ofBlock docs chosen doc listed
  rw [bulkWrites_eq height cleans, ← bulkBatches_flatten, Table.lossless_iff owned]
  -- What is left of the conditions speaks about the records of the calls.
  have sole : Table.SoleWriter (calls.map (bulkBatches height)).actions ↔
      calls.actions.Pairwise (fun one other => one = [] ∨ other = []) := by
    rw [Table.SoleWriter, Task.actions_map, List.pairwise_map]
    simp [bulkBatches]
  constructor
  · intro lossless
    refine ⟨sole.mp lossless.sole, fun none => lossless.clean ?_⟩
    rw [bulkBatches_flatten, none]
    rfl
  · rintro ⟨single, clean⟩
    refine ⟨sole.mpr single, ?_, ?_⟩
    · -- Row versions have no value that two of them could share.
      have unnamed := List.filterMap_eq_nil_iff.mpr fun (row : Row ρ)
        (_ : row ∈ table.others (removes height removeBy) ++
          (calls.map (bulkBatches height)).actions.flatten.flatten) =>
        (rfl : (fun _ => (none : Option Unit)) row = none)
      rw [unnamed]
      exact List.nodup_nil
    · rw [bulkBatches_flatten]
      exact fun none => clean (List.map_eq_nil_iff.mp none)

/-- A stake message handled on its own hands one record to the bulk write of its messages. -/
theorem collectStakes_single {δ μ : Type} {handleOne : δ → ApplicationProgram (μ × Application ×
    List MsgServiceProps × List ApplicationServiceProps)} {message : δ}
    {table after : Dict String Application} {docs : StakeDocs μ}
    (ran : (collectStakes handleOne [message]).run table = .ok (docs, after)) :
    docs.msgs.length = 1 := by
  -- Whatever the handler reads and writes, its one result becomes one record.
  have counted : ∀ (program : ApplicationProgram (μ × Application × List MsgServiceProps ×
      List ApplicationServiceProps)) (table : Dict String Application),
      ((program.bind fun row => (saveApplications [row.2.1]).bind fun _ => .done
        (⟨[row.1], row.2.2.1, row.2.2.2⟩ : StakeDocs μ)).run table) = .ok (docs, after) →
        docs.msgs.length = 1 := by
    intro program
    induction program with
    | done row =>
      intro table ran
      simp only [saveApplications, Program.run, Program.bind_eq,
        Program.write_bind, Program.bind, Program.pure_eq, Except.ok.injEq, Prod.mk.injEq] at ran
      rw [← ran.1]
      rfl
    | fail error => intro table ran; simp [Program.run] at ran
    | get key next ih => intro table ran; exact ih _ table ran
    | save key row next ih => intro table ran; exact ih _ ran
  apply counted (handleOne message) table
  simpa [collectStakes] using ran

/-- Stake messages handled one by one keep their records just when there is at most one of them. -/
theorem stakeMessages_accumulate_iff (height : ℕ) {removeBy : RemoveBy}
    (cleans : removeBy ≠ .omit) (calls : Task (List (Doc ρ))) (table : StoreTable ρ)
    (ofBlock : ∀ docs ∈ calls.actions, ∀ doc ∈ docs, doc.OfBlock height removeBy)
    (single : ∀ docs ∈ calls.actions, docs.length = 1) :
    (∀ trace, Trace (bulkWrites height removeBy calls) trace →
      (table.execute trace).Holds (removes height removeBy)
        (calls.actions.flatten.map (stamp height))) ↔
      calls.actions.length ≤ 1 ∧
        (calls.actions = [] → table.selected (removes height removeBy) = []) := by
  rw [bulkWrites_accumulate_iff height cleans calls table ofBlock]
  -- Every call has a record, so two calls are two writers.
  have busy : ∀ docs ∈ calls.actions, docs ≠ [] := by
    rintro docs member rfl
    simpa using single [] member
  match calls.actions, busy with
  | [], _ => simp
  | [docs], busy =>
    have some : docs ≠ [] := busy docs List.mem_cons_self
    simp [some]
  | first :: second :: rest, busy =>
    have someFirst : first ≠ [] := busy first (by simp)
    have someSecond : second ≠ [] := busy second (by simp)
    simp [someFirst, someSecond]

/-- A stake of the block at height 100, in a transaction of its own. -/
def stakeAtHundred (idx : ℕ) (hash address : String) : CosmosMessage × MsgStakeApplication :=
  let decoded : MsgStakeApplication := ⟨address, some ⟨"1000", "upokt"⟩, [⟨"svc"⟩]⟩
  (⟨0, 100, ⟨idx, hash, 0, []⟩, .stakeApplication decoded⟩, decoded)

/-- The records the handler of one stake message hands to its bulk write. -/
def stakeRecords (message : CosmosMessage × MsgStakeApplication) :
    List (Doc MsgStakeApplicationProps) :=
  match (handleAppMsgStake [message]).run Dict.empty with
  | .ok (docs, _) => docs.msgDocs MsgStakeApplicationProps.blockId
  | .error _ => []

/-- Two stakes in one block leave the record of the later one only. -/
theorem bulkWrites_lose_stake :
    let calls := [stakeRecords (stakeAtHundred 0 "A1" "pokt1a"),
      stakeRecords (stakeAtHundred 1 "B2" "pokt1b")]
    calls.map List.length = [1, 1] ∧
    ∃ trace, Trace (bulkWrites 100 .blockId (Task.chain (calls.map Task.step))) trace ∧
      ¬ ((Table.empty : StoreTable MsgStakeApplicationProps).execute trace).Holds
        (removes 100 .blockId) (calls.flatten.map (stamp 100)) := by
  refine ⟨by decide +kernel, _, Trace.actions _, ?_⟩
  intro holds
  -- One row is left of two.
  exact absurd holds.length_eq (by decide +kernel)

/-- A single stake of a block keeps its record. -/
theorem bulkWrites_accumulate_stake :
    ¬ ∃ trace, Trace (bulkWrites 100 .blockId
        (Task.step (stakeRecords (stakeAtHundred 0 "A1" "pokt1a")))) trace ∧
      ¬ ((Table.empty : StoreTable MsgStakeApplicationProps).execute trace).Holds
        (removes 100 .blockId)
        ([stakeRecords (stakeAtHundred 0 "A1" "pokt1a")].flatten.map (stamp 100)) := by
  intro ⟨trace, run, lost⟩
  have ofBlock : ∀ docs ∈ (Task.step (stakeRecords (stakeAtHundred 0 "A1" "pokt1a"))).actions,
      ∀ doc ∈ docs, Doc.OfBlock 100 .blockId doc := by
    simp only [Task.actions, List.mem_singleton, forall_eq, Doc.OfBlock]
    decide +kernel
  -- The only call of the block is the only one with records.
  exact lost ((bulkWrites_accumulate_iff 100 (by decide) (Task.step _) Table.empty ofBlock).mpr
    ⟨List.pairwise_singleton _ _, fun _ => rfl⟩ trace run)

end Pocketdex
