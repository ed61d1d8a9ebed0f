import Mathlib.Algebra.BigOperators.Group.Finset.Basic
import Mathlib.Algebra.BigOperators.Ring.Finset
import Pocketdex.DbFunctions.Reports

/-! When the reports on what turned unstaked in a block count the transitions to that status. -/

namespace Pocketdex

/-- A range begins at a height just when that is its lower end and it covers it. -/
theorem BlockRange.lowerOrNull_eq_some {range : BlockRange} {height : ℕ} :
    range.lowerOrNull = some height ↔ range.lower = height ∧ range.contains height = true := by
  unfold BlockRange.lowerOrNull BlockRange.contains
  cases range.upper with
  | none =>
    constructor
    · intro same
      simp only [Option.any_none, Bool.false_eq_true, if_false, Option.some.injEq] at same
      simp [same]
    · rintro ⟨same, -⟩
      simp [same]
  | some upper =>
    simp only [Option.any_some, decide_eq_true_eq, Option.all_some, Bool.and_eq_true]
    split
    · -- A range that ends where it begins covers nothing.
      simp only [reduceCtorEq, false_iff]
      omega
    · rw [Option.some.injEq]
      omega

/-- A range covers the heights between its lower end and one it covers. -/
theorem BlockRange.contains_of_le {range : BlockRange} {height earlier : ℕ}
    (covers : range.contains height = true) (begun : range.lower ≤ earlier)
    (before : earlier ≤ height) : range.contains earlier = true := by
  simp only [BlockRange.contains, Bool.and_eq_true, decide_eq_true_eq] at covers ⊢
  refine ⟨begun, ?_⟩
  cases upper : range.upper with
  | none => rfl
  | some bound =>
    rw [upper, Option.all_some, decide_eq_true_eq] at covers
    simp only [Option.all_some, decide_eq_true_eq]
    omega

/-- A range that covers a height has a lower end, which is not after it. -/
theorem BlockRange.lowerOrNull_of_contains {range : BlockRange} {height : ℕ}
    (covers : range.contains height = true) :
    range.lower ≤ height ∧ range.lowerOrNull = some range.lower := by
  have begun : range.lower ≤ height := by
    simp only [BlockRange.contains, Bool.and_eq_true, decide_eq_true_eq] at covers
    exact covers.1
  exact ⟨begun, BlockRange.lowerOrNull_eq_some.mpr
    ⟨rfl, BlockRange.contains_of_le covers (Nat.le_refl _) begun⟩⟩

/-- Whether a version is visible at the height before a block. -/
def Row.justBefore {ρ : Type} (blockId : ℕ) (row : Row ρ) : Bool :=
  0 < blockId && row.openAt (blockId - 1)

section

variable {ρ : Type} (id : ρ → String) (stakeStatus : ρ → StakeStatus) (stakeAmount : ρ → Int)

/-- Versions of which no two of one id are visible together, each written in one of some blocks. -/
structure VersionHistory (blocks : List ℕ) (rows : List (Row ρ)) : Prop where
  disjoint : rows.Pairwise fun earlier later => id earlier.data = id later.data →
    ∀ height, ¬(earlier.openAt height = true ∧ later.openAt height = true)
  written : ∀ row ∈ rows, row.blockRange.lower ∈ blocks

/-- No version of an id that is visible just before a block is unstaked. -/
def NotUnstakedBefore (blockId : ℕ) (rows : List (Row ρ)) (ofId : String) : Prop :=
  ∀ row ∈ rows, id row.data = ofId → row.justBefore blockId = true →
    stakeStatus row.data ≠ .unstaked

instance (blockId : ℕ) (rows : List (Row ρ)) (ofId : String) :
    Decidable (NotUnstakedBefore id stakeStatus blockId rows ofId) :=
  inferInstanceAs (Decidable (∀ row ∈ rows, _ → _ → _))

/-- The ids that turn unstaked in a block: an unstaked version begins in it, and none is visible just
before. -/
def turnedUnstaked (blockId : ℕ) (rows : List (Row ρ)) : Finset String :=
  ((unstakedHere stakeStatus blockId rows).map fun row => id row.data).toFinset.filter
    (NotUnstakedBefore id stakeStatus blockId rows)

/-- The stake of an id just before a block, which is zero when no version is visible then. -/
def stakeJustBefore (blockId : ℕ) (rows : List (Row ρ)) (ofId : String) : Int :=
  ((rows.filter fun row => id row.data = ofId ∧ row.justBefore blockId = true).map
    fun row => stakeAmount row.data).sum

/-- What a block has to report: how many ids turn unstaked in it, and their stakes just before. -/
def transitionData (blockId : ℕ) (rows : List (Row ρ)) : ℕ × Int :=
  ((turnedUnstaked id stakeStatus blockId rows).card,
    ∑ ofId ∈ turnedUnstaked id stakeStatus blockId rows,
      stakeJustBefore id stakeAmount blockId rows ofId)

/-- The staking cycles that ended: the unstaked versions that no unstaked one comes just before. -/
def stakingCycles (rows : List (Row ρ)) : List (Row ρ) :=
  rows.filter fun row => stakeStatus row.data = .unstaked ∧
    row.blockRange.lowerOrNull = some row.blockRange.lower ∧
    NotUnstakedBefore id stakeStatus row.blockRange.lower rows (id row.data)

/-- The stake of an older version, which is read where none is visible just before a block. -/
def staleStake (blockId : ℕ) (rows : List (Row ρ)) (ofId : String) : Int :=
  if rows.any fun row => id row.data = ofId ∧ row.justBefore blockId = true then 0
  else (previousStake id stakeAmount blockId ofId rows).getD 0

/-- In a block no unstaked version follows another one of its id, and what is read of versions that
are not visible just before it comes to nothing. -/
structure CleanTransitions (blockId : ℕ) (rows : List (Row ρ)) : Prop where
  first : ∀ row ∈ unstakedHere stakeStatus blockId rows,
    NotUnstakedBefore id stakeStatus blockId rows (id row.data)
  noGap : ((unstakedHere stakeStatus blockId rows).map fun row =>
    staleStake id stakeAmount blockId rows (id row.data)).sum = 0

end

section

variable {ρ : Type} {id : ρ → String} {stakeStatus : ρ → StakeStatus} {stakeAmount : ρ → Int}
  {blocks : List ℕ} {rows : List (Row ρ)}

/-- Versions of one id that are visible together are one. -/
theorem VersionHistory.unique (history : VersionHistory id blocks rows) {first second : Row ρ}
    (inside : first ∈ rows) (other : second ∈ rows) (same : id first.data = id second.data)
    {height : ℕ} (visible : first.openAt height = true) (shown : second.openAt height = true) :
    first = second := by
  by_contra different
  have symmetric : Std.Symm fun earlier later : Row ρ => id earlier.data = id later.data →
      ∀ height, ¬(earlier.openAt height = true ∧ later.openAt height = true) :=
    ⟨fun _ _ apart equal height both => apart equal.symm height both.symm⟩
  exact history.disjoint.forall inside other different same height ⟨visible, shown⟩

/-- A selection of versions that are visible at one height has every id once. -/
theorem VersionHistory.nodup_ids (history : VersionHistory id blocks rows) (height : ℕ)
    {selects : Row ρ → Bool}
    (visible : ∀ row ∈ rows, selects row = true → row.openAt height = true) :
    ((rows.filter selects).map fun row => id row.data).Nodup := by
  rw [List.Nodup, List.pairwise_map]
  refine (history.disjoint.filter selects).imp_of_mem ?_
  intro first second inside other apart same
  obtain ⟨left, chosen⟩ := List.mem_filter.mp inside
  obtain ⟨right, picked⟩ := List.mem_filter.mp other
  exact apart same height ⟨visible first left chosen, visible second right picked⟩

/-- Of the versions of an id one at most is visible just before a block. -/
theorem VersionHistory.justBefore_eq (history : VersionHistory id blocks rows) {blockId : ℕ}
    {row : Row ρ} (inside : row ∈ rows) (before : row.justBefore blockId = true) :
    (rows.filter fun other => decide (id other.data = id row.data ∧
      other.justBefore blockId = true)) = [row] := by
  have nodup : (rows.filter fun other => decide (id other.data = id row.data ∧
      other.justBefore blockId = true)).Nodup := by
    refine List.Nodup.of_map (fun other : Row ρ => id other.data)
      (history.nodup_ids (blockId - 1) fun other _ chosen => ?_)
    exact (Bool.and_eq_true_iff.mp (of_decide_eq_true chosen).2).2
  have listed : row ∈ rows.filter fun other => decide (id other.data = id row.data ∧
      other.justBefore blockId = true) := List.mem_filter.mpr ⟨inside, by simp [before]⟩
  by_contra different
  rcases (nodup.ne_singleton_iff row).mp different with none | ⟨other, member, apart⟩
  · rw [none] at listed
    cases listed
  · obtain ⟨found, chosen⟩ := List.mem_filter.mp member
    obtain ⟨named, shown⟩ := of_decide_eq_true chosen
    exact apart (history.unique found inside named (Bool.and_eq_true_iff.mp shown).2
      (Bool.and_eq_true_iff.mp before).2)

/-- The last version written before a block is the one that is visible just before it, if any is. -/
theorem VersionHistory.previousStake_eq (history : VersionHistory id blocks rows) {blockId : ℕ}
    {row : Row ρ} (inside : row ∈ rows) (before : row.justBefore blockId = true) :
    previousStake id stakeAmount blockId (id row.data) rows = some (stakeAmount row.data) := by
  obtain ⟨positive, shown⟩ := Bool.and_eq_true_iff.mp before
  rw [decide_eq_true_eq] at positive
  obtain ⟨begun, start⟩ := BlockRange.lowerOrNull_of_contains shown
  have listed : row ∈ rows.filter fun other => decide (id other.data = id row.data ∧
      other.blockRange.lowerOrNull.any (· < blockId) = true) := by
    refine List.mem_filter.mpr ⟨inside, decide_eq_true ⟨rfl, ?_⟩⟩
    rw [start, Option.any_some, decide_eq_true_eq]
    omega
  unfold previousStake
  simp only
  cases last : (rows.filter fun other => decide (id other.data = id row.data ∧
      other.blockRange.lowerOrNull.any (· < blockId) = true)).argmax
        fun other => other.blockRange.lower with
  | none =>
    rw [List.argmax_eq_none] at last
    rw [last] at listed
    cases listed
  | some other =>
    -- The last one begins when the visible one is visible, so it is that one.
    have later := List.le_of_mem_argmax listed (Option.mem_def.mpr last)
    obtain ⟨found, chosen⟩ := List.mem_filter.mp (List.argmax_mem (Option.mem_def.mpr last))
    obtain ⟨named, early⟩ := of_decide_eq_true chosen
    obtain ⟨start, lower, earlier⟩ := (Option.any_eq_true _ _).mp early
    obtain ⟨same, covers⟩ := BlockRange.lowerOrNull_eq_some.mp lower
    rw [decide_eq_true_eq] at earlier
    have both : row.openAt start = true :=
      BlockRange.contains_of_le shown (by omega) (by omega)
    rw [Option.map_some, history.unique found inside named covers both]

/-- What is read as the previous stake is the stake just before, or a stale one. -/
theorem VersionHistory.previousStake_getD (history : VersionHistory id blocks rows) (blockId : ℕ)
    (ofId : String) : (previousStake id stakeAmount blockId ofId rows).getD 0 =
      stakeJustBefore id stakeAmount blockId rows ofId +
        staleStake id stakeAmount blockId rows ofId := by
  unfold staleStake
  by_cases visible : ∃ row ∈ rows, id row.data = ofId ∧ row.justBefore blockId = true
  · have found : (rows.any fun row => id row.data = ofId ∧ row.justBefore blockId = true) = true :=
      List.any_eq_true.mpr (by simpa using visible)
    obtain ⟨row, inside, rfl, before⟩ := visible
    rw [if_pos found, add_zero, history.previousStake_eq inside before, stakeJustBefore,
      history.justBefore_eq inside before]
    simp
  · have none : (rows.filter fun row => decide (id row.data = ofId ∧
        row.justBefore blockId = true)) = [] :=
      List.filter_eq_nil_iff.mpr fun row inside chosen =>
        visible ⟨row, inside, of_decide_eq_true chosen⟩
    have missing : ¬(rows.any fun row => id row.data = ofId ∧ row.justBefore blockId = true) =
        true := fun found => visible (by simpa using List.any_eq_true.mp found)
    rw [if_neg missing, stakeJustBefore, none, List.map_nil, List.sum_nil, zero_add]

/-- In a block the unstaked versions that begin have different ids. -/
theorem VersionHistory.nodup_unstakedHere (history : VersionHistory id blocks rows)
    (stakeStatus : ρ → StakeStatus) (blockId : ℕ) :
    ((unstakedHere stakeStatus blockId rows).map fun row => id row.data).Nodup :=
  history.nodup_ids _ fun _ _ chosen =>
    (BlockRange.lowerOrNull_eq_some.mp (of_decide_eq_true chosen).2).2

/-- A block reports its transitions just when they are clean. -/
theorem VersionHistory.unstakedData_iff (history : VersionHistory id blocks rows) (blockId : ℕ) :
    unstakedData id stakeStatus stakeAmount blockId rows =
        transitionData id stakeStatus stakeAmount blockId rows ↔
      CleanTransitions id stakeStatus stakeAmount blockId rows := by
  have nodup := history.nodup_unstakedHere stakeStatus blockId
  have size : (((unstakedHere stakeStatus blockId rows).map fun row => id row.data).toFinset).card =
      (unstakedHere stakeStatus blockId rows).length := by
    rw [List.toFinset_card_of_nodup nodup, List.length_map]
  -- What is summed is the stakes just before and the stale ones.
  have sums : ((unstakedHere stakeStatus blockId rows).map fun row =>
      (previousStake id stakeAmount blockId (id row.data) rows).getD 0).sum =
      ((unstakedHere stakeStatus blockId rows).map fun row =>
        stakeJustBefore id stakeAmount blockId rows (id row.data)).sum +
      ((unstakedHere stakeStatus blockId rows).map fun row =>
        staleStake id stakeAmount blockId rows (id row.data)).sum := by
    rw [← List.sum_map_add]
    exact congrArg List.sum (List.map_congr_left fun row _ => history.previousStake_getD _ _)
  have every : (∀ row ∈ unstakedHere stakeStatus blockId rows,
      NotUnstakedBefore id stakeStatus blockId rows (id row.data)) →
      turnedUnstaked id stakeStatus blockId rows =
        ((unstakedHere stakeStatus blockId rows).map fun row => id row.data).toFinset := by
    intro first
    refine Finset.filter_true_of_mem fun ofId member => ?_
    obtain ⟨row, listed, rfl⟩ := List.mem_map.mp (List.mem_toFinset.mp member)
    exact first row listed
  unfold unstakedData transitionData
  simp only [Prod.mk.injEq]
  constructor
  · rintro ⟨count, tokens⟩
    -- As many ids turned unstaked as versions began, so none of them was unstaked before.
    have first : ∀ row ∈ unstakedHere stakeStatus blockId rows,
        NotUnstakedBefore id stakeStatus blockId rows (id row.data) := by
      intro row listed
      rw [← size] at count
      exact Finset.card_filter_eq_iff.mp count.symm _
        (List.mem_toFinset.mpr (List.mem_map_of_mem listed))
    refine ⟨first, ?_⟩
    rw [sums, every first, List.sum_toFinset _ nodup, List.map_map] at tokens
    simpa [Function.comp_def] using tokens
  · rintro ⟨first, noGap⟩
    rw [every first, size, sums, noGap, List.sum_toFinset _ nodup, List.map_map, add_zero]
    exact ⟨rfl, rfl⟩

/-- The ids that turn unstaked in a block end a staking cycle each. -/
theorem VersionHistory.card_turnedUnstaked (history : VersionHistory id blocks rows)
    (blockId : ℕ) : (turnedUnstaked id stakeStatus blockId rows).card =
      ((stakingCycles id stakeStatus rows).filter fun row =>
        row.blockRange.lower = blockId).length := by
  have nodup : (((stakingCycles id stakeStatus rows).filter fun row =>
      decide (row.blockRange.lower = blockId)).map fun row => id row.data).Nodup := by
    unfold stakingCycles
    rw [List.filter_filter]
    refine history.nodup_ids blockId fun row _ chosen => ?_
    obtain ⟨begun, ended⟩ := Bool.and_eq_true_iff.mp chosen
    have start := (of_decide_eq_true ended).2.1
    rw [of_decide_eq_true begun] at start
    exact (BlockRange.lowerOrNull_eq_some.mp start).2
  rw [← List.length_map (fun row : Row ρ => id row.data), ← List.toFinset_card_of_nodup nodup]
  congr 1
  ext ofId
  unfold turnedUnstaked stakingCycles unstakedHere
  simp only [Finset.mem_filter, List.mem_toFinset, List.mem_map, List.mem_filter,
    decide_eq_true_eq]
  constructor
  · rintro ⟨⟨row, ⟨inside, unstaked, start⟩, rfl⟩, first⟩
    obtain ⟨rfl, -⟩ := BlockRange.lowerOrNull_eq_some.mp start
    exact ⟨row, ⟨⟨inside, unstaked, start, first⟩, rfl⟩, rfl⟩
  · rintro ⟨row, ⟨⟨inside, unstaked, start, first⟩, rfl⟩, rfl⟩
    exact ⟨⟨row, ⟨inside, unstaked, start⟩, rfl⟩, first⟩

/-- Rows are counted once when they are counted by where they begin. -/
theorem sum_length_filter {α : Type} {start : α → ℕ} {items : List α}
    (distinct : blocks.Nodup) (listed : ∀ item ∈ items, start item ∈ blocks) :
    (blocks.map fun block => (items.filter fun item => start item = block).length).sum =
      items.length := by
  induction items with
  | nil => simp
  | cons item rest ih =>
    have later := ih fun other member => listed other (List.mem_cons_of_mem _ member)
    -- The first item is counted in the block it begins in, and in no other one.
    have once : (blocks.map fun block => if start item = block then 1 else 0).sum = 1 := by
      rw [← List.sum_toFinset _ distinct, Finset.sum_ite_eq]
      exact if_pos (List.mem_toFinset.mpr (listed item List.mem_cons_self))
    have each : ∀ block, ((item :: rest).filter fun other => decide (start other = block)).length =
        (if start item = block then 1 else 0) +
          (rest.filter fun other => decide (start other = block)).length := by
      intro block
      rw [List.filter_cons]
      by_cases here : start item = block
      · simp [here, Nat.add_comm]
      · simp [here]
    simp only [each]
    rw [List.sum_map_add, once, later, List.length_cons, Nat.add_comm]

end

/-- The reports of some blocks tell their transitions, and each staking cycle once in all. -/
def ReportsTransitions {ρ : Type} (id : ρ → String) (stakeStatus : ρ → StakeStatus)
    (stakeAmount : ρ → Int) (report : BlockReport → ℕ × Int) (blocks : List BlockReport)
    (rows : List (Row ρ)) : Prop :=
  (∀ block ∈ blocks, report block = transitionData id stakeStatus stakeAmount block.id rows) ∧
    (blocks.map fun block => (report block).1).sum = (stakingCycles id stakeStatus rows).length

/-- Reports tell the transitions just when these are clean in every block. -/
theorem VersionHistory.reportsTransitions_iff {ρ : Type} {id : ρ → String}
    {stakeStatus : ρ → StakeStatus} {stakeAmount : ρ → Int} {report : BlockReport → ℕ × Int}
    {blocks : List BlockReport} {rows : List (Row ρ)}
    (history : VersionHistory id (blocks.map BlockReport.id) rows)
    (distinct : (blocks.map BlockReport.id).Nodup)
    (reported : ∀ block, report block =
      unstakedData id stakeStatus stakeAmount block.id rows) :
    ReportsTransitions id stakeStatus stakeAmount report blocks rows ↔
      ∀ block ∈ blocks, CleanTransitions id stakeStatus stakeAmount block.id rows := by
  constructor
  · rintro ⟨each, -⟩ block member
    exact (history.unstakedData_iff block.id).mp ((reported block).symm.trans (each block member))
  · intro clean
    have each : ∀ block ∈ blocks,
        report block = transitionData id stakeStatus stakeAmount block.id rows :=
      fun block member => (reported block).trans
        ((history.unstakedData_iff block.id).mpr (clean block member))
    refine ⟨each, ?_⟩
    -- The ids of a block are its staking cycles, and every cycle ends in one of the blocks.
    have counts : blocks.map (fun block => (report block).1) =
        (blocks.map BlockReport.id).map fun block => ((stakingCycles id stakeStatus rows).filter
          fun row => decide (row.blockRange.lower = block)).length := by
      rw [List.map_map]
      refine List.map_congr_left fun block member => ?_
      rw [each block member]
      exact history.card_turnedUnstaked block.id
    rw [counts]
    exact sum_length_filter distinct fun row member =>
      history.written row (List.mem_filter.mp member).1

/-- What the report of a block says of suppliers. -/
def reportedSuppliers (suppliers : List (Row Supplier)) (block : BlockReport) : ℕ × Int :=
  let reported := updateUnstakedSuppliersDataOnBlock block.id suppliers block
  (reported.unstakedSuppliers, reported.unstakedSuppliersTokens)

/-- What the report of a block says of applications. -/
def reportedApps (applications : List (Row Application)) (block : BlockReport) : ℕ × Int :=
  let reported := updateUnstakedAppsDataOnBlock block.id applications block
  (reported.unstakedApps, reported.unstakedAppsTokens)

/-- What the report of a block says of gateways. -/
def reportedGateways (gateways : List (Row Gateway)) (block : BlockReport) : ℕ × Int :=
  let reported := updateUnstakedGatewaysDataOnBlock block.id gateways block
  (reported.unstakedGateways, reported.unstakedGatewaysTokens)

/-- The three reports tell the transitions of every block, and each staking cycle once in all, just
when in every block the transitions of the three are clean. -/
theorem unstakedReports_iff {blocks : List BlockReport} {suppliers : List (Row Supplier)}
    {applications : List (Row Application)} {gateways : List (Row Gateway)}
    (distinct : (blocks.map BlockReport.id).Nodup)
    (ofSuppliers : VersionHistory Supplier.id (blocks.map BlockReport.id) suppliers)
    (ofApplications : VersionHistory Application.id (blocks.map BlockReport.id) applications)
    (ofGateways : VersionHistory Gateway.id (blocks.map BlockReport.id) gateways) :
    (ReportsTransitions Supplier.id Supplier.stakeStatus Supplier.stakeAmount
        (reportedSuppliers suppliers) blocks suppliers ∧
      ReportsTransitions Application.id Application.stakeStatus Application.stakeAmount
        (reportedApps applications) blocks applications ∧
      ReportsTransitions Gateway.id Gateway.stakeStatus Gateway.stakeAmount
        (reportedGateways gateways) blocks gateways) ↔
      ∀ block ∈ blocks,
        CleanTransitions Supplier.id Supplier.stakeStatus Supplier.stakeAmount block.id suppliers ∧
        CleanTransitions Application.id Application.stakeStatus Application.stakeAmount block.id
          applications ∧
        CleanTransitions Gateway.id Gateway.stakeStatus Gateway.stakeAmount block.id gateways := by
  rw [ofSuppliers.reportsTransitions_iff distinct fun block => by
      simp [reportedSuppliers, updateUnstakedSuppliersDataOnBlock],
    ofApplications.reportsTransitions_iff distinct fun block => by
      simp [reportedApps, updateUnstakedAppsDataOnBlock],
    ofGateways.reportsTransitions_iff distinct fun block => by
      simp [reportedGateways, updateUnstakedGatewaysDataOnBlock]]
  simp only [← forall_and]

/-- A block that has reported nothing yet. -/
def plainBlock (blockId : ℕ) : BlockReport := ⟨blockId, 0, 0, 0, 0, 0, 0⟩

/-- A version of one supplier over some heights. -/
def supplierVersion (stakeAmount : Int) (stakeStatus : StakeStatus) (lower : ℕ)
    (upper : Option ℕ) : Row Supplier where
  data := {
    id := "pokt1op", operatorId := "pokt1op", ownerId := "pokt1op", stakeDenom := "upokt"
    stakeAmount, stakeStatus }
  blockId := none
  blockRange := ⟨lower, upper⟩

/-- A supplier that stakes once and leaves is reported where it leaves. -/
theorem unstakedReports_once : ReportsTransitions Supplier.id Supplier.stakeStatus
    Supplier.stakeAmount
    (reportedSuppliers [supplierVersion 100 .staked 5 (some 90),
      supplierVersion 0 .unstaked 90 none])
    [plainBlock 5, plainBlock 90]
    [supplierVersion 100 .staked 5 (some 90), supplierVersion 0 .unstaked 90 none] := by
  have disjoint : ∀ height, ¬((supplierVersion 100 .staked 5 (some 90)).openAt height = true ∧
      (supplierVersion 0 .unstaked 90 none).openAt height = true) := by
    intro height
    simp only [supplierVersion, Row.openAt, BlockRange.contains, Option.all_some, Option.all_none,
      Bool.and_eq_true, decide_eq_true_eq]
    rintro ⟨⟨-, before⟩, after, -⟩
    have begun := of_decide_eq_true after
    omega
  refine ((unstakedReports_iff (by decide)
    ⟨List.pairwise_pair.mpr fun _ => disjoint, by decide⟩
    ⟨List.Pairwise.nil, fun row none => absurd none List.not_mem_nil⟩
    ⟨List.Pairwise.nil, fun row none => absurd none List.not_mem_nil⟩).mpr ?_).1
  refine List.forall_mem_cons.mpr ⟨⟨⟨by decide +kernel, by decide +kernel⟩, ⟨?_, rfl⟩, ⟨?_, rfl⟩⟩,
    List.forall_mem_singleton.mpr ⟨⟨by decide +kernel, by decide +kernel⟩, ⟨?_, rfl⟩, ⟨?_, rfl⟩⟩⟩
  all_goals exact fun row none => absurd none List.not_mem_nil

/-- A supplier whose unstaked version is written again is reported twice. -/
theorem unstakedReports_rewritten :
    (reportedSuppliers [supplierVersion 100 .staked 5 (some 90),
      supplierVersion 0 .unstaked 90 (some 95), supplierVersion 0 .unstaked 95 none]
      (plainBlock 95)) = (1, 0) ∧
    transitionData Supplier.id Supplier.stakeStatus Supplier.stakeAmount 95
      [supplierVersion 100 .staked 5 (some 90), supplierVersion 0 .unstaked 90 (some 95),
        supplierVersion 0 .unstaked 95 none] = (0, 0) := by
  constructor <;> decide +kernel

end Pocketdex
