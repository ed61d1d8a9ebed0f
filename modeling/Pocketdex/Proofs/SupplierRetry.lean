import Pocketdex.Utils.Db
import Pocketdex.Proofs.SupplierSlashes
import Mathlib.Data.List.Perm.Subperm

/-! Retrying the supplier data of a block: a failed attempt leaves the batches it had committed. -/

namespace Pocketdex

/-- The tables that indexing suppliers inserts into. -/
inductive SupplierTable where
  | suppliers
  | services
  | stakeMsgs
  | claimMsgs
  | unstakeMsgs
  | serviceConfigActivatedEvents
  | slashingEvents
  | unbondingBeginEvents
  | unbondingEndEvents
  deriving DecidableEq, Repr

/-- Some batches of a bulk insert, each committed in a transaction of its own and in any order. -/
def CommittedBatches {δ : Type} (mayCommit : Prop) (docs committed : List δ) : Prop :=
  (∃ done : List (List δ), done.Subperm (fillBatches BATCH_SIZE [] docs) ∧ committed = done.flatten) ∧
    (committed ≠ [] → mayCommit)

/-- The part of a block's records that was committed, in some of the tables only. -/
structure CommittedPart (mayCommit : SupplierTable → Prop) (writes committed : SupplierWrites) :
    Prop where
  suppliers : CommittedBatches (mayCommit .suppliers) writes.suppliersToSave
    committed.suppliersToSave
  services : CommittedBatches (mayCommit .services) writes.servicesToSave committed.servicesToSave
  stakeMsgs : CommittedBatches (mayCommit .stakeMsgs) writes.changes.stakeMsgs
    committed.changes.stakeMsgs
  claimMsgs : CommittedBatches (mayCommit .claimMsgs) writes.changes.claimMsgs
    committed.changes.claimMsgs
  unstakeMsgs : CommittedBatches (mayCommit .unstakeMsgs) writes.changes.unstakeMsgs
    committed.changes.unstakeMsgs
  serviceConfigActivatedEvents : CommittedBatches (mayCommit .serviceConfigActivatedEvents)
    writes.changes.serviceConfigActivatedEvents committed.changes.serviceConfigActivatedEvents
  slashingEvents : CommittedBatches (mayCommit .slashingEvents) writes.changes.slashingEvents
    committed.changes.slashingEvents
  unbondingBeginEvents : CommittedBatches (mayCommit .unbondingBeginEvents)
    writes.changes.unbondingBeginEvents committed.changes.unbondingBeginEvents
  unbondingEndEvents : CommittedBatches (mayCommit .unbondingEndEvents)
    writes.changes.unbondingEndEvents committed.changes.unbondingEndEvents

/-- The rows a failed attempt leaves: deletes and closings are rolled back with the store's
transaction, and the committed batches stay. -/
inductive FailedAttempt (externals : Externals) (height : ℕ) (mayCommit : SupplierTable → Prop)
    (tables : SupplierTables) (allData : List StakeDatum) : SupplierTables → Prop
  /-- The attempt failed before its first insert. -/
  | unwritten : FailedAttempt externals height mayCommit tables allData tables
  /-- The attempt failed after some of its inserts. -/
  | inserted {writes committed : SupplierWrites} :
      supplierWrites externals height tables allData = .ok writes →
      CommittedPart mayCommit writes committed →
      FailedAttempt externals height mayCommit tables allData
        (insertSupplierRecords height committed tables)

/-- The same rows in every table, in any order. -/
structure SameVersions (first second : SupplierTables) : Prop where
  suppliers : first.suppliers.Perm second.suppliers
  services : first.services.Perm second.services
  stakeMsgs : first.stakeMsgs.Perm second.stakeMsgs
  claimMsgs : first.claimMsgs.Perm second.claimMsgs
  unstakeMsgs : first.unstakeMsgs.Perm second.unstakeMsgs
  serviceConfigActivatedEvents :
    first.serviceConfigActivatedEvents.Perm second.serviceConfigActivatedEvents
  slashingEvents : first.slashingEvents.Perm second.slashingEvents
  unbondingBeginEvents : first.unbondingBeginEvents.Perm second.unbondingBeginEvents
  unbondingEndEvents : first.unbondingEndEvents.Perm second.unbondingEndEvents

/-- Tables have the rows they have. -/
theorem SameVersions.refl (tables : SupplierTables) : SameVersions tables tables := by
  constructor <;> exact List.Perm.refl _

/-- Indexing a block from the rows a failed attempt left ends as one uninterrupted run does. -/
def RetriesAlike (externals : Externals) (height : ℕ) (tables left : SupplierTables)
    (allData : List StakeDatum) : Prop :=
  ∀ uninterrupted, indexSupplier externals height tables allData = .ok uninterrupted →
    ∃ retried, indexSupplier externals height left allData = .ok retried ∧
      SameVersions retried uninterrupted

/-- The rows of a retry are those of the uninterrupted run. -/
theorem RetriesAlike.sameRows {externals : Externals} {height : ℕ}
    {tables left uninterrupted retried : SupplierTables} {allData : List StakeDatum}
    (alike : RetriesAlike externals height tables left allData)
    (first : indexSupplier externals height tables allData = .ok uninterrupted)
    (second : indexSupplier externals height left allData = .ok retried) :
    SameVersions retried uninterrupted := by
  obtain ⟨other, again, same⟩ := alike uninterrupted first
  rw [second] at again
  cases again
  exact same

/-- A block is retried safely after every attempt that committed batches of some tables only. -/
def RetriesSafely (mayCommit : SupplierTable → Prop) : Prop :=
  ∀ externals height tables allData left,
    FailedAttempt externals height mayCommit tables allData left →
      RetriesAlike externals height tables left allData

namespace CommittedBatches

variable {δ : Type} {mayCommit : Prop} {docs committed : List δ}

/-- A table that may not commit has no committed record. -/
theorem eq_nil (part : CommittedBatches mayCommit docs committed) (never : ¬mayCommit) :
    committed = [] := by
  by_contra some
  exact never (part.2 some)

/-- Without records there is no batch to commit. -/
theorem of_nil (part : CommittedBatches mayCommit ([] : List δ) committed) : committed = [] := by
  obtain ⟨⟨done, among, rfl⟩, -⟩ := part
  have none : done = [] := List.subperm_nil.mp among
  rw [none, List.flatten_nil]

/-- Nothing was committed. -/
theorem nothing (docs : List δ) : CommittedBatches mayCommit docs [] :=
  ⟨⟨[], List.nil_subperm, rfl⟩, fun some => absurd rfl some⟩

/-- All batches were committed. -/
theorem all (may : mayCommit) (docs : List δ) : CommittedBatches mayCommit docs docs :=
  ⟨⟨_, List.Subperm.refl _, (fillBatches_nil_flatten BATCH_SIZE docs).symm⟩, fun _ => may⟩

/-- The rows of committed batches are deleted again before their table is written. -/
theorem removed (part : CommittedBatches mayCommit docs committed) (height : ℕ)
    (rows : List (Row δ)) :
    removeRecords height docs (insertRecords height committed rows) =
      removeRecords height docs rows := by
  cases docs with
  | nil =>
    rw [part.of_nil]
    simp [insertRecords]
  | cons doc rest =>
    -- Every committed row begins at the height whose rows are deleted.
    have begun : ∀ row ∈ committed.map (Row.fresh height), row.blockRange.lower = height := by
      intro row member
      obtain ⟨data, -, rfl⟩ := List.mem_map.mp member
      exact Row.fresh_lower height data
    have gone : (committed.map (Row.fresh height)).filter
        (fun row => decide (row.blockRange.lower ≠ height)) = [] :=
      List.filter_eq_nil_iff.mpr fun row member => by simp [begun row member]
    simp only [removeRecords, List.isEmpty_cons, Bool.false_eq_true, if_false, insertRecords,
      List.filter_append, gone, List.append_nil]

end CommittedBatches

section Retried

variable {externals : Externals} {height : ℕ} {mayCommit : SupplierTable → Prop}
  {tables left : SupplierTables} {allData : List StakeDatum} {writes committed : SupplierWrites}

/-- What a block writes depends on the rows of suppliers and configs alone. -/
theorem supplierWrites_congr {first second : SupplierTables}
    (suppliers : first.suppliers = second.suppliers) (services : first.services = second.services) :
    supplierWrites externals height first allData =
      supplierWrites externals height second allData := by
  simp only [supplierWrites, fetchSupplierData, suppliers, services]

/-- Deleting and closing rows removes all that a failed attempt had committed. -/
theorem CommittedPart.cleaned (part : CommittedPart mayCommit writes committed)
    (tables : SupplierTables) :
    cleanSupplierTables height writes (insertSupplierRecords height committed tables) =
      cleanSupplierTables height writes tables := by
  simp only [cleanSupplierTables, insertSupplierRecords, part.suppliers.removed,
    part.services.removed, part.stakeMsgs.removed, part.claimMsgs.removed,
    part.unstakeMsgs.removed, part.serviceConfigActivatedEvents.removed,
    part.slashingEvents.removed, part.unbondingBeginEvents.removed,
    part.unbondingEndEvents.removed]

/-- An attempt that committed neither suppliers nor configs leaves what the retry reads alone. -/
theorem FailedAttempt.indexSupplier_eq (suppliers : ¬mayCommit .suppliers)
    (services : ¬mayCommit .services)
    (failed : FailedAttempt externals height mayCommit tables allData left) :
    indexSupplier externals height left allData =
      indexSupplier externals height tables allData := by
  cases failed with
  | unwritten => rfl
  | @inserted writes committed written part =>
    -- Without committed suppliers and configs the retry writes what the first attempt wrote.
    have again : supplierWrites externals height (insertSupplierRecords height committed tables)
        allData = .ok writes := by
      rw [← written]
      apply supplierWrites_congr
      · simp [insertSupplierRecords, insertRecords, part.suppliers.eq_nil suppliers]
      · simp [insertSupplierRecords, insertRecords, part.services.eq_nil services]
    simp only [indexSupplier, again, written, bind, Except.bind, performSupplierDatabaseOperations,
      part.cleaned]

end Retried

/-- A Morse claim of an operator at height 120. -/
def claimMessage (operator : String) : CosmosMessage where
  idx := 0
  height := 120
  tx := ⟨0, "M", 0, [⟨.morseSupplierClaimed, [⟨"claimed_balance", "10upokt"⟩,
    ⟨"claimed_supplier_stake", "50upokt"⟩]⟩]⟩
  decodedMsg := .claimMorseSupplier ⟨operator, operator, operator, [], [], "", false, []⟩

/-- Of a block's records the suppliers only. -/
def SupplierWrites.onlySuppliers (writes : SupplierWrites) : SupplierWrites :=
  ⟨writes.suppliersToSave, [], [], {}⟩

/-- Of a block's records the configs only. -/
def SupplierWrites.onlyServices (writes : SupplierWrites) : SupplierWrites :=
  ⟨[], writes.servicesToSave, [], {}⟩

/-- Committing the suppliers commits one of the tables. -/
theorem onlySuppliers_committed (writes : SupplierWrites) :
    CommittedPart (fun table => table = .suppliers) writes writes.onlySuppliers := by
  constructor
  case suppliers => exact .all rfl _
  all_goals exact .nothing _

/-- Committing the configs commits one of the tables. -/
theorem onlyServices_committed (writes : SupplierWrites) :
    CommittedPart (fun table => table = .services) writes writes.onlyServices := by
  constructor
  case services => exact .all rfl _
  all_goals exact .nothing _

/-- An observation of the rows a block ends with, in one run and after a failed attempt. -/
def observeRetry {α : Type} (observe : SupplierTables → α)
    (part : SupplierWrites → SupplierWrites) (tables : SupplierTables)
    (allData : List StakeDatum) : Except String (α × α) := do
  let writes ← supplierWrites plainExternals 120 tables allData
  let uninterrupted ← indexSupplier plainExternals 120 tables allData
  let retried ← indexSupplier plainExternals 120 (insertSupplierRecords 120 (part writes) tables)
    allData
  return (observe uninterrupted, observe retried)

/-- What is observed comes from a failed attempt and the two runs. -/
theorem observeRetry_ok {α : Type} {observe : SupplierTables → α} {mayCommit : SupplierTable → Prop}
    {part : SupplierWrites → SupplierWrites} {tables : SupplierTables}
    {allData : List StakeDatum} {alone again : α}
    (commits : ∀ writes, CommittedPart mayCommit writes (part writes))
    (observed : observeRetry observe part tables allData = .ok (alone, again)) :
    ∃ left uninterrupted retried,
      FailedAttempt plainExternals 120 mayCommit tables allData left ∧
      indexSupplier plainExternals 120 tables allData = .ok uninterrupted ∧
      indexSupplier plainExternals 120 left allData = .ok retried ∧
      observe uninterrupted = alone ∧ observe retried = again := by
  obtain ⟨writes, written, observed⟩ := exceptBind_ok observed
  obtain ⟨uninterrupted, first, observed⟩ := exceptBind_ok observed
  obtain ⟨retried, second, observed⟩ := exceptBind_ok observed
  cases observed
  exact ⟨_, uninterrupted, retried, .inserted written (commits writes), first, second, rfl, rfl⟩

/-- Tables with the same rows have the same visible stakes. -/
theorem SameVersions.openStakes {first second : SupplierTables} (same : SameVersions first second)
    (height : ℕ) (operator : String) : (openStakes height operator first.suppliers).Perm
      (openStakes height operator second.suppliers) :=
  (same.suppliers.filter _).map _

/-- Tables with the same rows have as many visible configs. -/
theorem SameVersions.openConfigs {first second : SupplierTables} (same : SameVersions first second)
    (height : ℕ) (operator : String) : (openConfigs height operator first.services).length =
      (openConfigs height operator second.services).length :=
  (same.services.filter _).length_eq

/-- After the supplier of a Morse claim was committed, the retry adds the claimed stake again. -/
theorem claim_added_again : ∃ left uninterrupted retried,
    FailedAttempt plainExternals 120 (fun table => table = .suppliers) oneConfigTables
      [.msg (claimMessage "pokt1new")] left ∧
    indexSupplier plainExternals 120 oneConfigTables [.msg (claimMessage "pokt1new")] =
      .ok uninterrupted ∧
    indexSupplier plainExternals 120 left [.msg (claimMessage "pokt1new")] = .ok retried ∧
    openStakes 120 "pokt1new" uninterrupted.suppliers = [50] ∧
    openStakes 120 "pokt1new" retried.suppliers = [100] :=
  @observeRetry_ok _ (fun tables => openStakes 120 "pokt1new" tables.suppliers) _ _ _ _ _ _
    onlySuppliers_committed (ok_of_toOption (by decide +kernel))

/-- After an activated config was committed, the retry does not close the version before it. -/
theorem activation_left_open : ∃ left uninterrupted retried,
    FailedAttempt plainExternals 120 (fun table => table = .services) oneConfigTables
      [.event (activationEvent "pokt1op" "svc1")] left ∧
    indexSupplier plainExternals 120 oneConfigTables [.event (activationEvent "pokt1op" "svc1")] =
      .ok uninterrupted ∧
    indexSupplier plainExternals 120 left [.event (activationEvent "pokt1op" "svc1")] =
      .ok retried ∧
    (openConfigs 120 "pokt1op" uninterrupted.services).length = 1 ∧
    (openConfigs 120 "pokt1op" retried.services).length = 2 :=
  @observeRetry_ok _ (fun tables => (openConfigs 120 "pokt1op" tables.services).length) _ _ _ _ _ _
    onlyServices_committed (ok_of_toOption (by decide +kernel))

/-- An attempt that commits in fewer tables is one that commits in more. -/
theorem FailedAttempt.mono {externals : Externals} {height : ℕ} {fewer more : SupplierTable → Prop}
    {tables left : SupplierTables} {allData : List StakeDatum} (le : ∀ table, fewer table → more table)
    (failed : FailedAttempt externals height fewer tables allData left) :
    FailedAttempt externals height more tables allData left := by
  cases failed with
  | unwritten => exact .unwritten
  | inserted written part =>
    refine .inserted written ?_
    constructor
    case suppliers => exact part.suppliers.imp_right fun may some => le _ (may some)
    case services => exact part.services.imp_right fun may some => le _ (may some)
    case stakeMsgs => exact part.stakeMsgs.imp_right fun may some => le _ (may some)
    case claimMsgs => exact part.claimMsgs.imp_right fun may some => le _ (may some)
    case unstakeMsgs => exact part.unstakeMsgs.imp_right fun may some => le _ (may some)
    case serviceConfigActivatedEvents =>
      exact part.serviceConfigActivatedEvents.imp_right fun may some => le _ (may some)
    case slashingEvents => exact part.slashingEvents.imp_right fun may some => le _ (may some)
    case unbondingBeginEvents =>
      exact part.unbondingBeginEvents.imp_right fun may some => le _ (may some)
    case unbondingEndEvents =>
      exact part.unbondingEndEvents.imp_right fun may some => le _ (may some)

/-- Every block is retried safely after an attempt just when the attempt committed no batch of
suppliers and none of configs, which are the rows a retry reads before it deletes them. -/
theorem supplier_retry_iff (mayCommit : SupplierTable → Prop) :
    RetriesSafely mayCommit ↔ ¬mayCommit .suppliers ∧ ¬mayCommit .services := by
  constructor
  · intro safe
    constructor
    · intro may
      obtain ⟨left, uninterrupted, retried, failed, first, second, alone, again⟩ :=
        claim_added_again
      have every := failed.mono fun table (same : table = .suppliers) => same.symm ▸ may
      -- One run stores a stake of 50, and the retry one of 100.
      have stakes := ((safe _ _ _ _ _ every).sameRows first second).openStakes 120 "pokt1new"
      rw [alone, again, List.perm_singleton] at stakes
      exact absurd stakes (by decide)
    · intro may
      obtain ⟨left, uninterrupted, retried, failed, first, second, alone, again⟩ :=
        activation_left_open
      have every := failed.mono fun table (same : table = .services) => same.symm ▸ may
      -- One run leaves one version of the config open, and the retry two.
      have configs := ((safe _ _ _ _ _ every).sameRows first second).openConfigs 120 "pokt1op"
      rw [alone, again] at configs
      omega
  · rintro ⟨suppliers, services⟩ externals height tables allData left failed uninterrupted ran
    exact ⟨uninterrupted, (failed.indexSupplier_eq suppliers services).trans ran, SameVersions.refl _⟩

/-- After its supplier was committed, a Morse claim is not retried as in one uninterrupted run. -/
theorem claim_retry_differs : ∃ left,
    FailedAttempt plainExternals 120 (fun table => table = .suppliers) oneConfigTables
      [.msg (claimMessage "pokt1new")] left ∧
    ¬RetriesAlike plainExternals 120 oneConfigTables left [.msg (claimMessage "pokt1new")] := by
  obtain ⟨left, uninterrupted, retried, failed, first, second, alone, again⟩ := claim_added_again
  refine ⟨left, failed, fun alike => ?_⟩
  have stakes := (alike.sameRows first second).openStakes 120 "pokt1new"
  rw [alone, again, List.perm_singleton] at stakes
  exact absurd stakes (by decide)

end Pocketdex
