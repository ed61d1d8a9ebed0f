import Mathlib.Data.List.DropRight
import Pocketdex.DbFunctions.DomainRewards
import Pocketdex.Proofs.SupplierServices

/-! When the daily summary that the last settlement of a day left is the one of the whole day. -/

namespace Pocketdex

/-- A supplier that has a staked version and a config for a domain and service, each of which
overlaps a range. -/
structure StakedWithin (blockRange : BlockRange) (tables : RewardsTables) (key : String × String)
    (supplier : String) : Prop where
  staked : ∃ row ∈ tables.supplierTables.suppliers, row.blockRange.overlaps blockRange = true ∧
    row.data.id = supplier ∧ row.data.stakeStatus = .staked
  config : ∃ row ∈ tables.supplierTables.services, row.blockRange.overlaps blockRange = true ∧
    row.data.supplierId = supplier ∧ row.data.serviceId = key.2 ∧ key.1 ∈ row.data.domains

/-- A supplier that is staked at a height while it has a config for a domain and service. -/
structure StakedAt (height : ℕ) (tables : RewardsTables) (key : String × String)
    (supplier : String) : Prop where
  staked : ∃ row ∈ tables.supplierTables.suppliers, row.openAt height = true ∧
    row.data.id = supplier ∧ row.data.stakeStatus = .staked
  config : ∃ row ∈ tables.supplierTables.services, row.openAt height = true ∧
    row.data.supplierId = supplier ∧ row.data.serviceId = key.2 ∧ key.1 ∈ row.data.domains

/-- The suppliers that were staked for a domain and service at one of some heights. -/
def suppliersStaked (heights : List ℕ) (tables : RewardsTables) (key : String × String) :
    List String :=
  (tables.supplierTables.services.filter fun ssc =>
    ssc.data.serviceId = key.2 && key.1 ∈ ssc.data.domains && heights.any fun height =>
      ssc.openAt height && tables.supplierTables.suppliers.any fun s =>
        s.openAt height && s.data.id = ssc.data.supplierId && s.data.stakeStatus = .staked).map
    fun ssc => ssc.data.supplierId

/-- The heights of the blocks of a day. -/
def dayHeights (blocks : List RewardsBlock) : List ℕ := blocks.map RewardsBlock.height

/-- The heights up to the last block that settles claims. -/
def settledHeights (blocks : List RewardsBlock) : List ℕ :=
  dayHeights (blocks.rdropWhile fun block => !block.hasClaimSettled)

/-- The tables hold what was written up to a height. -/
structure WrittenUpTo (height : ℕ) (tables : RewardsTables) : Prop where
  blocks : ∀ block ∈ tables.blocks, block.id ≤ height
  claims : ∀ e ∈ tables.eventClaimSettleds, e.blockId ≤ height
  suppliers : Begun height tables.supplierTables.suppliers
  services : Begun height tables.supplierTables.services

/-- A day with its blocks, which are indexed one after the other. -/
structure RewardsDay (externals : Externals) (kindText : CosmosEventKind → String)
    (toDate : Int → Int) where
  day : Int
  height : ℕ
  before : RewardsTables
  blocks : List RewardsBlock
  after : RewardsTables
  written : WrittenUpTo height before
  notBefore : ∀ block ∈ before.blocks, toDate block.timestamp ≠ day
  unsummarized : ∀ row ∈ before.domainServiceDailyRewards, row.day ≠ day
  ofDay : ∀ block ∈ blocks, toDate block.timestamp = day
  increasing : (height :: dayHeights blocks).Pairwise (· < ·)
  ran : blocks.foldlM (indexRewardsBlock externals kindText toDate) before = .ok after

section

variable {externals : Externals} {kindText : CosmosEventKind → String} {toDate : Int → Int}

/-- The summary of the day is what a refresh would make of its final history, and it counts the
suppliers that were staked for the domain and service at any block of the day. -/
structure FinalAggregate (run : RewardsDay externals kindText toDate) : Prop where
  recomputed : ∀ block ∈ run.blocks,
    refreshDomainServiceDailyRewards toDate block.height run.after = run.after
  counted : ∀ row ∈ run.after.domainServiceDailyRewards, row.day = run.day →
    row.suppliersCount = Sql.countDistinct
      (suppliersStaked (dayHeights run.blocks) run.after (row.domain, row.serviceId))

/-- A domain and service that a settled claim of the day is rewarded for. -/
def Rewarded (run : RewardsDay externals kindText toDate) (key : String × String) : Prop :=
  ∃ e ∈ run.after.eventClaimSettleds, e.blockId ∈ dayHeights run.blocks ∧ e.serviceId = key.2 ∧
    ∃ ssc ∈ run.after.supplierTables.services, e.supplierId = some ssc.data.supplierId ∧
      ssc.data.serviceId = e.serviceId ∧ ssc.openAt e.blockId = true ∧ key.1 ∈ ssc.data.domains

/-- Each supplier with a staked version and a config for a rewarded domain and service in the day had
both by the last settlement, and was staked for it at one of the blocks. -/
def StakedBySettlement (run : RewardsDay externals kindText toDate) : Prop :=
  ∀ key, Rewarded run key → ∀ supplier,
    StakedWithin (dayRange (dayHeights run.blocks)) run.after key supplier →
      StakedWithin (dayRange (settledHeights run.blocks)) run.after key supplier ∧
        ∃ height ∈ dayHeights run.blocks, StakedAt height run.after key supplier

end

/-- The heights of a day's range lie between two of its blocks. -/
theorem contains_dayRange {ids : List ℕ} {height : ℕ} :
    (dayRange ids).contains height = true ↔
      (∃ first ∈ ids, first ≤ height) ∧ ∃ last ∈ ids, height ≤ last := by
  cases ids with
  | nil => simp [dayRange, BlockRange.contains]
  | cons id rest =>
    obtain ⟨first, least⟩ := Option.isSome_iff_exists.mp
      (List.isSome_min?_of_mem (List.mem_cons_self (a := id) (l := rest)))
    obtain ⟨last, greatest⟩ := Option.isSome_iff_exists.mp
      (List.isSome_max?_of_mem (List.mem_cons_self (a := id) (l := rest)))
    simp only [dayRange, least, greatest, BlockRange.contains, Option.getD_some, Option.map_some,
      Option.all_some, Bool.and_eq_true, decide_eq_true_eq, Nat.lt_succ_iff]
    obtain ⟨firstInside, below⟩ := List.min?_eq_some_iff.mp least
    obtain ⟨lastInside, above⟩ := List.max?_eq_some_iff.mp greatest
    constructor
    · rintro ⟨later, earlier⟩
      exact ⟨⟨first, firstInside, later⟩, last, lastInside, earlier⟩
    · rintro ⟨⟨one, oneInside, later⟩, other, otherInside, earlier⟩
      exact ⟨Nat.le_trans (below one oneInside) later, Nat.le_trans earlier (above other otherInside)⟩

/-- A version overlaps a day just when it is visible at a height between two of its blocks. -/
theorem overlaps_dayRange {ids : List ℕ} {range : BlockRange} :
    range.overlaps (dayRange ids) = true ↔ ∃ height, range.contains height = true ∧
      (∃ first ∈ ids, first ≤ height) ∧ ∃ last ∈ ids, height ≤ last := by
  simp only [BlockRange.overlaps_iff, contains_dayRange]

/-- Within a part of the day versions overlap the day. -/
theorem StakedWithin.mono {part ids : List ℕ} {tables : RewardsTables} {key : String × String}
    {supplier : String} (inside : ∀ id ∈ part, id ∈ ids)
    (within : StakedWithin (dayRange part) tables key supplier) :
    StakedWithin (dayRange ids) tables key supplier := by
  have wider : ∀ {range : BlockRange}, range.overlaps (dayRange part) = true →
      range.overlaps (dayRange ids) = true := by
    intro range overlaps
    obtain ⟨height, covered, ⟨first, one, later⟩, last, other, earlier⟩ :=
      overlaps_dayRange.mp overlaps
    exact overlaps_dayRange.mpr ⟨height, covered, ⟨first, inside first one, later⟩, last,
      inside last other, earlier⟩
  obtain ⟨⟨row, member, overlaps, named⟩, config, listed, shown, service⟩ := within
  exact ⟨⟨row, member, wider overlaps, named⟩, config, listed, wider shown, service⟩

/-- What is visible at a block of the day overlaps it. -/
theorem StakedAt.within {height : ℕ} {ids : List ℕ} {tables : RewardsTables} {key : String × String}
    {supplier : String} (staked : StakedAt height tables key supplier) (inside : height ∈ ids) :
    StakedWithin (dayRange ids) tables key supplier := by
  obtain ⟨⟨row, member, visible, named⟩, config, listed, shown, service⟩ := staked
  have covers : ∀ {range : BlockRange}, range.contains height = true →
      range.overlaps (dayRange ids) = true := fun covered =>
    overlaps_dayRange.mpr ⟨height, covered, ⟨height, inside, Nat.le_refl _⟩, height, inside,
      Nat.le_refl _⟩
  exact ⟨⟨row, member, covers visible, named⟩, config, listed, covers shown, service⟩

/-- The suppliers that were staked for a domain and service at one of some heights. -/
theorem mem_suppliersStaked {heights : List ℕ} {tables : RewardsTables} {key : String × String}
    {supplier : String} : supplier ∈ suppliersStaked heights tables key ↔
      ∃ height ∈ heights, StakedAt height tables key supplier := by
  simp only [suppliersStaked, List.mem_map, List.mem_filter, Bool.and_eq_true, decide_eq_true_eq,
    List.any_eq_true]
  constructor
  · rintro ⟨ssc, ⟨inside, ⟨service, domain⟩, height, listed, shown, s, member, ⟨visible, named⟩,
      staked⟩, rfl⟩
    exact ⟨height, listed, ⟨s, member, visible, named, staked⟩, ssc, inside, shown, rfl, service,
      domain⟩
  · rintro ⟨height, listed, ⟨s, member, visible, named, staked⟩, ssc, inside, shown, rfl, service,
      domain⟩
    exact ⟨ssc, ⟨inside, ⟨service, domain⟩, height, listed, shown, s, member, ⟨visible, named⟩,
      staked⟩, rfl⟩

/-- The suppliers a summary counts for a domain and service. -/
def countedSuppliers (blockRange : BlockRange) (tables : RewardsTables) (key : String × String) :
    List String :=
  ((stakedRows blockRange tables).filter fun row => row.1 = key).map Prod.snd

/-- They have a staked version and a config in the range. -/
theorem mem_countedSuppliers {blockRange : BlockRange} {tables : RewardsTables}
    {key : String × String} {supplier : String} :
    supplier ∈ countedSuppliers blockRange tables key ↔
      StakedWithin blockRange tables key supplier := by
  obtain ⟨domain, serviceId⟩ := key
  simp only [countedSuppliers, stakedRows, List.mem_map, List.mem_filter, List.mem_flatMap,
    decide_eq_true_eq]
  constructor
  · rintro ⟨_, ⟨⟨⟨ssc, s⟩, ⟨joined, overlaps⟩, _, listed, rfl⟩, same⟩, rfl⟩
    obtain ⟨inside, member, matching⟩ := Sql.mem_innerJoin.mp joined
    obtain ⟨named, shown, staked⟩ := of_decide_eq_true matching
    obtain ⟨rfl, rfl⟩ := Prod.mk.inj same
    exact ⟨⟨s, member, shown, named, staked⟩, ssc, inside, overlaps, rfl, rfl, listed⟩
  · rintro ⟨⟨s, member, shown, named, staked⟩, ssc, inside, overlaps, rfl, rfl, listed⟩
    exact ⟨_, ⟨⟨(ssc, s), ⟨Sql.mem_innerJoin.mpr ⟨inside, member,
      decide_eq_true ⟨named, shown, staked⟩⟩, overlaps⟩, domain, listed, rfl⟩, rfl⟩, rfl⟩

/-- The row of a domain and service, with its claims and its number of suppliers. -/
def summaryRow (day : Int) (suppliersCount : String × String → ℕ)
    (group : (String × String) × List ((String × String) × Settlement.EventClaimSettledProps)) :
    DomainServiceDailyRewards where
  domain := group.1.1
  serviceId := group.1.2
  day := day
  relays := Sql.sum (group.2.map fun (_, e) => some e.numRelays)
  estimatedRelays := Sql.sum (group.2.map fun (_, e) => some e.numEstimatedRelays)
  computedUnits := Sql.sum (group.2.map fun (_, e) => some e.numClaimedComputedUnits)
  estimatedComputedUnits := Sql.sum (group.2.map fun (_, e) => some e.numEstimatedComputedUnits)
  grossRewards := Sql.sum (group.2.map fun (_, e) => some e.claimedAmount)
  suppliersCount := suppliersCount group.1

/-- A summary has a row for each domain and service with claims, and counts the suppliers of it. -/
theorem dailyRewards_eq (toDate : Int → Int) (day : Int) (blockRange : BlockRange)
    (tables : RewardsTables) :
    dailyRewards toDate day blockRange tables =
      (Sql.groupBy Prod.fst (claimRows toDate day tables)).map (summaryRow day fun key =>
        Sql.countDistinct (countedSuppliers blockRange tables key)) := by
  have joined : Sql.leftJoin (fun c s => decide (s.1 = c.1))
      (Sql.groupBy Prod.fst (claimRows toDate day tables))
      ((Sql.groupBy Prod.fst (stakedRows blockRange tables)).map fun group =>
        (group.1, Sql.countDistinct (group.2.map Prod.snd))) =
      (Sql.groupBy Prod.fst (claimRows toDate day tables)).map fun group => (group,
        if ((stakedRows blockRange tables).filter fun row => row.1 = group.1).isEmpty then none
        else some (group.1, Sql.countDistinct (countedSuppliers blockRange tables group.1))) :=
    Sql.leftJoin_groupBy (fun _ rows => Sql.countDistinct (rows.map Prod.snd)) Prod.fst _
  unfold dailyRewards
  refine (congrArg (List.map _) joined).trans ?_
  rw [List.map_map]
  refine List.map_congr_left fun group _ => ?_
  -- Where no supplier is staked, none is counted.
  unfold summaryRow
  simp only [Function.comp_apply, DomainServiceDailyRewards.mk.injEq, true_and]
  split
  · rename_i empty
    rw [countedSuppliers, List.isEmpty_iff.mp empty]
    rfl
  · rfl

section

variable {externals : Externals} {kindText : CosmosEventKind → String} {toDate : Int → Int}
  {tables next : RewardsTables} {height : ℕ} {block : RewardsBlock}

/-- Rows that are inserted after older ones were deleted and closed extend those. -/
theorem Extends.indexed {ρ : Type} {rows : List (Row ρ)} (written : Begun height rows) {later : ℕ}
    (increasing : height < later) (id : ρ → String) (ids : List String) (docs : List ρ) :
    Extends height rows (insertRecords later docs (closeRecords later id ids
        (removeRecords later docs rows))) ∧
      Begun later (insertRecords later docs (closeRecords later id ids
        (removeRecords later docs rows))) := by
  have older : ∀ row ∈ rows, row.blockRange.lower < later := fun row member =>
    Nat.lt_of_le_of_lt (written.begun row member) increasing
  rw [removeRecords_older older]
  unfold closeRecords
  split
  · exact ⟨Extends.insert increasing docs, (written.mono (Nat.le_of_lt increasing)).insert docs⟩
  · exact ⟨(Extends.close written increasing _).trans (Extends.insert increasing docs),
      (written.close (Nat.le_of_lt increasing) _).insert docs⟩

/-- Storing a block leaves what is visible before it, and adds its own claims. -/
structure StoredBlock (height : ℕ) (block : RewardsBlock) (tables next : RewardsTables) : Prop where
  written : WrittenUpTo block.height next
  blocks : next.blocks = tables.blocks ++ [⟨block.height, block.timestamp⟩]
  summary : next.domainServiceDailyRewards = tables.domainServiceDailyRewards
  suppliers : Extends height tables.supplierTables.suppliers next.supplierTables.suppliers
  services : Extends height tables.supplierTables.services next.supplierTables.services
  claims : block.hasClaimSettled = false → next.eventClaimSettleds = tables.eventClaimSettleds

/-- The claims of a block belong to it. -/
theorem eventsSettled_blockId {settled : List (Settlement.EventClaimSettledProps ×
      List ModToAcctTransferRecord)} {events overservices : List CosmosEvent}
    {mintRatioParam : Option String} (heights : ∀ event ∈ events, event.height = height)
    (handled : Settlement.eventsSettled kindText mintRatioParam events overservices = .ok settled) :
    ∀ claim ∈ settled, claim.1.blockId = height := by
  obtain ⟨burns, -, handled⟩ := exceptBind_ok handled
  intro claim member
  obtain ⟨event, inside, ran⟩ := mem_of_mapM_ok handled member
  obtain ⟨attributes, -, ran⟩ := exceptBind_ok ran
  obtain ⟨effectiveBurn, -, ran⟩ := exceptBind_ok ran
  obtain ⟨settlement, -, ran⟩ := exceptBind_ok ran
  obtain ⟨record, built, ran⟩ := exceptBind_ok ran
  cases ran
  exact (Settlement.buildClaimSettledProps_ok built).blockId.trans (heights event inside)

/-- A block without settled claims has no events of them to handle. -/
theorem eventsOf_claimSettled (none : block.hasClaimSettled = false) :
    block.eventsOf .claimSettled = [] := by
  refine List.filter_eq_nil_iff.mpr fun event member settles => ?_
  have inside := (List.mem_filter.mp member).1
  have found : block.hasClaimSettled = true := List.any_eq_true.mpr ⟨event, inside, settles⟩
  rw [none] at found
  cases found

/-- Storing a block. -/
theorem storeRewardsBlock_ok (written : WrittenUpTo height tables) (later : height < block.height)
    (ran : storeRewardsBlock externals kindText block tables = .ok next) :
    StoredBlock height block tables next := by
  obtain ⟨supplierTables, indexed, ran⟩ := exceptBind_ok ran
  obtain ⟨settled, handled, ran⟩ := exceptBind_ok ran
  cases ran
  obtain ⟨writes, -, indexed⟩ := exceptBind_ok indexed
  cases indexed
  -- Every claim that is stored has the height of the block.
  have own : ∀ claim ∈ settled, claim.1.blockId = block.height :=
    eventsSettled_blockId (fun event member => block.heights event
      (List.mem_filter.mp (List.mem_filter.mp member).1).1) handled
  obtain ⟨suppliers, supplierRows⟩ := Extends.indexed written.suppliers later Supplier.id
    writes.suppliersToClose writes.suppliersToSave
  obtain ⟨services, serviceRows⟩ := Extends.indexed written.services later
    SupplierServiceConfigProps.id writes.changes.servicesToClose writes.servicesToSave
  refine ⟨⟨?_, ?_, supplierRows, serviceRows⟩, rfl, rfl, suppliers, services, fun none => ?_⟩
  · intro other member
    rcases List.mem_append.mp member with old | new
    · exact Nat.le_of_lt (Nat.lt_of_le_of_lt (written.blocks other old) later)
    · rw [List.mem_singleton.mp new]
  · intro e member
    rcases List.mem_append.mp member with old | new
    · exact Nat.le_of_lt (Nat.lt_of_le_of_lt (written.claims e old) later)
    · obtain ⟨claim, inside, rfl⟩ := List.mem_map.mp new
      exact Nat.le_of_eq (own claim inside)
  · rw [eventsOf_claimSettled none] at handled
    obtain ⟨burns, -, handled⟩ := exceptBind_ok handled
    cases handled
    exact List.append_nil _

/-- A later block does not join the claims that were stored before it. -/
theorem innerJoin_later {claims : List Settlement.EventClaimSettledProps} {blocks : List BlockRow}
    {added : BlockRow} (earlier : ∀ e ∈ claims, e.blockId < added.id) :
    Sql.innerJoin (fun e b => decide (b.id = e.blockId)) claims (blocks ++ [added]) =
      Sql.innerJoin (fun e b => decide (b.id = e.blockId)) claims blocks := by
  refine List.flatMap_congr fun e member => ?_
  have other : added.id ≠ e.blockId := Nat.ne_of_gt (earlier e member)
  have none : ([added].filter fun b => decide (b.id = e.blockId)) = [] := by simp [other]
  show List.map _ ((blocks ++ [added]).filter fun b => decide (b.id = e.blockId)) = _
  rw [List.filter_append, none, List.append_nil]

/-- Whether a claim was settled under a config. -/
def settledUnder (claim : Settlement.EventClaimSettledProps × BlockRow)
    (ssc : Row SupplierServiceConfigProps) : Bool :=
  claim.1.supplierId = some ssc.data.supplierId ∧ ssc.data.serviceId = claim.1.serviceId ∧
    ssc.blockRange.contains claim.1.blockId = true

/-- The claims of a day with the configs they were settled under, as these are visible then. -/
theorem claimRows_eq (toDate : Int → Int) (day : Int) (tables : RewardsTables) :
    claimRows toDate day tables =
      ((Sql.innerJoin (fun e b => decide (b.id = e.blockId)) tables.eventClaimSettleds
        tables.blocks).filter fun claim => toDate claim.2.timestamp = day).flatMap fun claim =>
          (tables.supplierTables.services.filter fun ssc =>
            decide (claim.1.supplierId = some ssc.data.supplierId ∧
              ssc.data.serviceId = claim.1.serviceId) && ssc.openAt claim.1.blockId).flatMap
                fun ssc => ssc.data.domains.map fun domain => ((domain, claim.1.serviceId), claim.1) := by
  have dated : (Sql.innerJoin settledUnder (Sql.innerJoin (fun e b => decide (b.id = e.blockId))
        tables.eventClaimSettleds tables.blocks) tables.supplierTables.services).filter
          (fun joined => decide (toDate joined.1.2.timestamp = day)) =
      Sql.innerJoin settledUnder ((Sql.innerJoin (fun e b => decide (b.id = e.blockId))
        tables.eventClaimSettleds tables.blocks).filter
          fun claim => decide (toDate claim.2.timestamp = day)) tables.supplierTables.services :=
    Sql.filter_innerJoin_fst fun claim : Settlement.EventClaimSettledProps × BlockRow =>
      decide (toDate claim.2.timestamp = day)
  unfold claimRows
  refine (congrArg (List.flatMap _) dated).trans ?_
  rw [Sql.innerJoin.eq_1 settledUnder, List.flatMap_assoc]
  refine List.flatMap_congr fun claim _ => ?_
  rw [List.flatMap_map]
  congr 1
  refine List.filter_congr fun ssc _ => ?_
  simp only [settledUnder, Row.openAt, Bool.decide_and, Bool.decide_eq_true, Bool.and_assoc]

/-- A block that adds no claims leaves those of the day as they were. -/
theorem claimRows_stored (written : WrittenUpTo height tables) (later : height < block.height)
    (stored : StoredBlock height block tables next) (none : block.hasClaimSettled = false)
    (day : Int) : claimRows toDate day next = claimRows toDate day tables := by
  rw [claimRows_eq, claimRows_eq, stored.claims none, stored.blocks, innerJoin_later fun e member =>
    Nat.lt_of_le_of_lt (written.claims e member) later]
  refine List.flatMap_congr fun claim member => ?_
  -- Configs are read at the block of the claim, which was there before.
  have inside := (Sql.mem_innerJoin.mp (List.mem_filter.mp member).1).1
  exact stored.services.flatMap_visible (written.claims claim.1 inside)
    (fun data => decide (claim.1.supplierId = some data.supplierId ∧
      data.serviceId = claim.1.serviceId))
    fun data => data.domains.map fun domain => ((domain, claim.1.serviceId), claim.1)

/-- A record has a version that overlaps a day just when it is visible at some height of it. -/
theorem exists_overlaps {ρ : Type} {rows : List (Row ρ)} {ids : List ℕ} {chosen : ρ → Prop} :
    (∃ row ∈ rows, row.blockRange.overlaps (dayRange ids) = true ∧ chosen row.data) ↔
      ∃ shown, ((∃ first ∈ ids, first ≤ shown) ∧ ∃ last ∈ ids, shown ≤ last) ∧
        ∃ row ∈ rows, row.openAt shown = true ∧ chosen row.data := by
  simp only [overlaps_dayRange]
  constructor
  · rintro ⟨row, member, ⟨shown, covered, between⟩, holds⟩
    exact ⟨shown, between, row, member, covered, holds⟩
  · rintro ⟨shown, between, row, member, covered, holds⟩
    exact ⟨row, member, ⟨shown, covered, between⟩, holds⟩

/-- A later state of a table has the same versions in the days before. -/
theorem Extends.overlaps_iff {ρ : Type} {rows after : List (Row ρ)}
    (extended : Extends height rows after) {ids : List ℕ} (early : ∀ id ∈ ids, id ≤ height)
    (chosen : ρ → Prop) :
    (∃ row ∈ after, row.blockRange.overlaps (dayRange ids) = true ∧ chosen row.data) ↔
      ∃ row ∈ rows, row.blockRange.overlaps (dayRange ids) = true ∧ chosen row.data := by
  rw [exists_overlaps, exists_overlaps]
  refine exists_congr fun shown => and_congr_right fun ⟨_, last, inside, before⟩ => ?_
  exact extended.exists_iff (Nat.le_trans before (early last inside)) chosen

/-- A later block changes nothing about who was staked in earlier heights. -/
theorem stakedWithin_stored (stored : StoredBlock height block tables next) {ids : List ℕ}
    (early : ∀ id ∈ ids, id ≤ height) {key : String × String} {supplier : String} :
    StakedWithin (dayRange ids) next key supplier ↔
      StakedWithin (dayRange ids) tables key supplier := by
  have suppliers := stored.suppliers.overlaps_iff early
    fun data : Supplier => data.id = supplier ∧ data.stakeStatus = .staked
  have services := stored.services.overlaps_iff early fun data : SupplierServiceConfigProps =>
    data.supplierId = supplier ∧ data.serviceId = key.2 ∧ key.1 ∈ data.domains
  exact ⟨fun within => ⟨suppliers.mp within.staked, services.mp within.config⟩,
    fun within => ⟨suppliers.mpr within.staked, services.mpr within.config⟩⟩

/-- A block that adds no claims leaves the summary of earlier heights as it was. -/
theorem dailyRewards_stored (written : WrittenUpTo height tables) (later : height < block.height)
    (stored : StoredBlock height block tables next) (none : block.hasClaimSettled = false)
    (day : Int) {ids : List ℕ} (early : ∀ id ∈ ids, id ≤ height) :
    dailyRewards toDate day (dayRange ids) next = dailyRewards toDate day (dayRange ids) tables := by
  rw [dailyRewards_eq, dailyRewards_eq, claimRows_stored written later stored none]
  have counts : (fun key => Sql.countDistinct (countedSuppliers (dayRange ids) next key)) =
      fun key => Sql.countDistinct (countedSuppliers (dayRange ids) tables key) := by
    funext key
    refine Sql.countDistinct_congr fun supplier => ?_
    rw [mem_countedSuppliers, mem_countedSuppliers, stakedWithin_stored stored early]
  rw [counts]

/-- Refreshing for a block of a day replaces the summary of that day. -/
theorem refresh_of_day {day : Int} {id : ℕ} (known : ∃ stored ∈ tables.blocks, stored.id = id)
    (ofDay : ∀ stored ∈ tables.blocks, stored.id = id → toDate stored.timestamp = day) :
    refreshDomainServiceDailyRewards toDate id tables = { tables with
      domainServiceDailyRewards :=
        (tables.domainServiceDailyRewards.filter fun row => row.day ≠ day) ++
          dailyRewards toDate day (dayRange ((tables.blocks.filter
            fun b => toDate b.timestamp = day).map BlockRow.id)) tables } := by
  unfold refreshDomainServiceDailyRewards
  obtain ⟨found, member, same⟩ := known
  cases located : tables.blocks.find? fun b => b.id = id with
  | none => simpa [same] using List.find?_eq_none.mp located found member
  | some first =>
    have first' := ofDay first (List.mem_of_find?_eq_some located)
      (by simpa using List.find?_some located)
    simp only [first']

/-- All rows of a summary are of its day. -/
theorem day_of_mem_dailyRewards {day : Int} {blockRange : BlockRange}
    {row : DomainServiceDailyRewards} (member : row ∈ dailyRewards toDate day blockRange tables) :
    row.day = day := by
  rw [dailyRewards_eq] at member
  obtain ⟨group, -, rfl⟩ := List.mem_map.mp member
  rfl

/-- A block that settles claims is the last one that does. -/
theorem settledHeights_settled (done : List RewardsBlock) (settles : block.hasClaimSettled = true) :
    settledHeights (done ++ [block]) = dayHeights (done ++ [block]) := by
  rw [settledHeights, List.rdropWhile_concat_neg _ _ _ (by simp [settles])]

/-- Another block leaves the last one that does. -/
theorem settledHeights_unsettled (done : List RewardsBlock)
    (none : block.hasClaimSettled = false) :
    settledHeights (done ++ [block]) = settledHeights done := by
  rw [settledHeights, List.rdropWhile_concat_pos _ _ _ (by simp [none]), settledHeights]

/-- Blocks up to the last settlement are blocks of the day. -/
theorem dayHeights_of_settled {blocks : List RewardsBlock} {id : ℕ}
    (member : id ∈ settledHeights blocks) : id ∈ dayHeights blocks := by
  obtain ⟨block, inside, rfl⟩ := List.mem_map.mp member
  exact List.mem_map_of_mem ((List.rdropWhile_prefix _ blocks).subset inside)

/-- After some blocks of a day the summary is the one the last settlement left, read off the tables
as they are now. -/
structure Summarized (toDate : Int → Int) (day : Int) (height : ℕ) (before : RewardsTables)
    (done : List RewardsBlock) (tables : RewardsTables) : Prop where
  written : ∃ last ∈ height :: dayHeights done, (∀ id ∈ dayHeights done, id ≤ last) ∧
    WrittenUpTo last tables
  blocks : tables.blocks =
    before.blocks ++ done.map fun block => ⟨block.height, block.timestamp⟩
  summary : tables.domainServiceDailyRewards = before.domainServiceDailyRewards ++
    dailyRewards toDate day (dayRange (settledHeights done)) tables

variable {day : Int} {before : RewardsTables} {done : List RewardsBlock}

/-- The blocks of the day are those that were stored since it began. -/
theorem dayBlocks_eq (notBefore : ∀ stored ∈ before.blocks, toDate stored.timestamp ≠ day)
    (ofDay : ∀ block ∈ done, toDate block.timestamp = day)
    (blocks : tables.blocks = before.blocks ++
      done.map fun block => ⟨block.height, block.timestamp⟩) :
    (tables.blocks.filter fun b => toDate b.timestamp = day).map BlockRow.id = dayHeights done := by
  have older : (before.blocks.filter fun b => toDate b.timestamp = day) = [] :=
    List.filter_eq_nil_iff.mpr fun stored member => by simpa using notBefore stored member
  have own : ((done.map fun block => (⟨block.height, block.timestamp⟩ : BlockRow)).filter
      fun b => toDate b.timestamp = day) =
        done.map fun block => ⟨block.height, block.timestamp⟩ :=
    List.filter_eq_self.mpr fun stored member => by
      obtain ⟨block, inside, rfl⟩ := List.mem_map.mp member
      simpa using ofDay block inside
  rw [blocks, List.filter_append, older, own, List.nil_append, List.map_map]
  rfl

/-- Before a day no claims are of it. -/
theorem dailyRewards_before (notBefore : ∀ stored ∈ before.blocks, toDate stored.timestamp ≠ day)
    (blockRange : BlockRange) : dailyRewards toDate day blockRange before = [] := by
  have none : claimRows toDate day before = [] := by
    rw [claimRows_eq]
    refine List.flatMap_eq_nil_iff.mpr fun claim member => ?_
    obtain ⟨joined, dated⟩ := List.mem_filter.mp member
    exact absurd (of_decide_eq_true dated) (notBefore claim.2 (Sql.mem_innerJoin.mp joined).2.1)
  rw [dailyRewards_eq, none]
  rfl

/-- The rows of other days stay when the day is summarized again. -/
theorem filter_summary {rows : List DomainServiceDailyRewards} {blockRange : BlockRange}
    (unsummarized : ∀ row ∈ rows, row.day ≠ day) :
    ((rows ++ dailyRewards toDate day blockRange tables).filter fun row => row.day ≠ day) = rows := by
  have others : (rows.filter fun row => row.day ≠ day) = rows :=
    List.filter_eq_self.mpr fun row member => by simpa using unsummarized row member
  have own : ((dailyRewards toDate day blockRange tables).filter fun row => row.day ≠ day) = [] :=
    List.filter_eq_nil_iff.mpr fun row member => by simp [day_of_mem_dailyRewards member]
  rw [List.filter_append, others, own, List.append_nil]

/-- One more block of the day. -/
theorem Summarized.step (summarized : Summarized toDate day height before done tables)
    (notBefore : ∀ stored ∈ before.blocks, toDate stored.timestamp ≠ day)
    (unsummarized : ∀ row ∈ before.domainServiceDailyRewards, row.day ≠ day)
    (ofDay : ∀ other ∈ done ++ [block], toDate other.timestamp = day)
    (later : ∀ id ∈ height :: dayHeights done, id < block.height)
    (earlier : ∀ stored ∈ before.blocks, stored.id ≤ height)
    (ran : indexRewardsBlock externals kindText toDate tables block = .ok next) :
    Summarized toDate day height before (done ++ [block]) next := by
  obtain ⟨last, listed, bounded, written⟩ := summarized.written
  obtain ⟨stored, storing, rfl⟩ := exceptMap_ok ran
  have kept := storeRewardsBlock_ok written (later last listed) storing
  have blocks : stored.blocks = before.blocks ++
      (done ++ [block]).map fun block => ⟨block.height, block.timestamp⟩ := by
    rw [kept.blocks, summarized.blocks, List.map_append, List.append_assoc]
    rfl
  have heights : dayHeights (done ++ [block]) = dayHeights done ++ [block.height] :=
    List.map_append
  have upTo : ∃ last ∈ height :: dayHeights (done ++ [block]),
      (∀ id ∈ dayHeights (done ++ [block]), id ≤ last) ∧ WrittenUpTo last stored := by
    rw [heights]
    refine ⟨block.height, by simp, fun id member => ?_, kept.written⟩
    rcases List.mem_append.mp member with old | new
    · exact Nat.le_of_lt (later id (List.mem_cons_of_mem _ old))
    · rw [List.mem_singleton.mp new]
  unfold handleAddBlockReports
  cases settles : block.hasClaimSettled with
  | false =>
    refine ⟨upTo, blocks, ?_⟩
    rw [if_neg Bool.false_ne_true, settledHeights_unsettled done settles, kept.summary,
      summarized.summary, dailyRewards_stored written (later last listed) kept settles day
        fun id member => bounded id (dayHeights_of_settled member)]
  | true =>
    -- The refreshed block is the only one of its height.
    have known : ∃ other ∈ stored.blocks, other.id = block.height :=
      ⟨⟨block.height, block.timestamp⟩, by simp [kept.blocks], rfl⟩
    have own : ∀ other ∈ stored.blocks, other.id = block.height → toDate other.timestamp = day := by
      intro other member same
      rw [blocks] at member
      rcases List.mem_append.mp member with old | new
      · have before := earlier other old
        have after := later height List.mem_cons_self
        omega
      · obtain ⟨found, inside, rfl⟩ := List.mem_map.mp new
        exact ofDay found inside
    rw [if_pos rfl, refresh_of_day known own, dayBlocks_eq notBefore ofDay blocks]
    refine ⟨?_, blocks, ?_⟩
    · obtain ⟨last, inside, all, held⟩ := upTo
      exact ⟨last, inside, all, held.blocks, held.claims, held.suppliers, held.services⟩
    · show List.filter _ stored.domainServiceDailyRewards ++ _ = _
      rw [kept.summary, summarized.summary, filter_summary unsummarized,
        settledHeights_settled done settles]
      rfl

/-- After a day its summary is the one the last settlement left, read off the final history. -/
theorem RewardsDay.summarized (run : RewardsDay externals kindText toDate) :
    Summarized toDate run.day run.height run.before run.blocks run.after := by
  obtain ⟨day, height, before, blocks, after, written, notBefore, unsummarized, ofDay, increasing,
    ran⟩ := run
  -- The induction is on the blocks of the day, the last one first.
  induction blocks using List.reverseRecOn generalizing after with
  | nil =>
    cases ran
    exact ⟨⟨height, List.mem_cons_self, by simp [dayHeights], written⟩, by simp,
      by rw [dailyRewards_before notBefore, List.append_nil]⟩
  | append_singleton done block ih =>
    rw [List.foldlM_append] at ran
    obtain ⟨tables, earlier, ran⟩ := exceptBind_ok ran
    obtain ⟨next, stepped, ran⟩ := exceptBind_ok ran
    cases ran
    have heights : height :: dayHeights (done ++ [block]) =
        (height :: dayHeights done) ++ [block.height] := by
      simp [dayHeights]
    rw [heights, List.pairwise_append] at increasing
    have summarized := ih tables (fun other member => ofDay other (List.mem_append_left _ member))
      increasing.1 earlier
    exact summarized.step notBefore unsummarized ofDay
      (fun id member => increasing.2.2 id member block.height (List.mem_singleton_self _))
      written.blocks stepped

/-- The claims of the day are those of its blocks, under the domains of their configs. -/
theorem RewardsDay.mem_claimRows (run : RewardsDay externals kindText toDate)
    {key : String × String} :
    (∃ row ∈ claimRows toDate run.day run.after, row.1 = key) ↔ Rewarded run key := by
  have summarized := run.summarized
  -- A stored block is of the day just when its height is one of the day's.
  have dated : ∀ stored ∈ run.after.blocks, toDate stored.timestamp = run.day →
      stored.id ∈ dayHeights run.blocks := by
    intro stored member same
    rw [← dayBlocks_eq run.notBefore run.ofDay summarized.blocks]
    exact List.mem_map_of_mem (List.mem_filter.mpr ⟨member, decide_eq_true same⟩)
  rw [claimRows_eq]
  simp only [List.mem_flatMap, List.mem_filter, List.mem_map, Bool.and_eq_true, decide_eq_true_eq]
  constructor
  · rintro ⟨_, ⟨⟨e, b⟩, ⟨joined, same⟩, ssc, ⟨inside, ⟨owned, served⟩, shown⟩, domain, listed, rfl⟩,
      rfl⟩
    obtain ⟨claimed, stored, matching⟩ := Sql.mem_innerJoin.mp joined
    have height : b.id = e.blockId := of_decide_eq_true matching
    exact ⟨e, claimed, height ▸ dated b stored same, rfl, ssc, inside, owned, served, shown, listed⟩
  · rintro ⟨e, claimed, height, served, ssc, inside, owned, config, shown, listed⟩
    obtain ⟨block, ofBlock, same⟩ := List.mem_map.mp height
    have stored : (⟨block.height, block.timestamp⟩ : BlockRow) ∈ run.after.blocks := by
      rw [summarized.blocks]
      exact List.mem_append_right _ (List.mem_map_of_mem ofBlock)
    exact ⟨((key.1, e.serviceId), e), ⟨(e, ⟨block.height, block.timestamp⟩),
      ⟨Sql.mem_innerJoin.mpr ⟨claimed, stored, decide_eq_true same⟩, run.ofDay block ofBlock⟩, ssc,
      ⟨inside, ⟨owned, config⟩, shown⟩, key.1, listed, rfl⟩, Prod.ext rfl served⟩

/-- Summaries of the same claims are the same just when they count as many suppliers. -/
theorem dailyRewards_eq_iff {first second : BlockRange} :
    dailyRewards toDate day first tables = dailyRewards toDate day second tables ↔
      ∀ key, (∃ row ∈ claimRows toDate day tables, row.1 = key) →
        Sql.countDistinct (countedSuppliers first tables key) =
          Sql.countDistinct (countedSuppliers second tables key) := by
  rw [dailyRewards_eq, dailyRewards_eq, List.map_inj_left]
  constructor
  · intro same key found
    obtain ⟨group, member, rfl⟩ := List.mem_map.mp (Sql.mem_keys_groupBy.mpr found)
    exact congrArg DomainServiceDailyRewards.suppliersCount (same group member)
  · intro same group member
    have found := Sql.mem_keys_groupBy.mp (List.mem_map_of_mem member)
    simp only [summaryRow, same group.1 found]

/-- Refreshing at the end of the day changes nothing just when the last settlement counted as many
suppliers as there are in the whole day. -/
theorem RewardsDay.recomputed_iff (run : RewardsDay externals kindText toDate)
    {block : RewardsBlock} (member : block ∈ run.blocks) :
    refreshDomainServiceDailyRewards toDate block.height run.after = run.after ↔
      ∀ key, Rewarded run key →
        Sql.countDistinct (countedSuppliers (dayRange (dayHeights run.blocks)) run.after key) =
          Sql.countDistinct
            (countedSuppliers (dayRange (settledHeights run.blocks)) run.after key) := by
  have summarized := run.summarized
  have known : ∃ other ∈ run.after.blocks, other.id = block.height := by
    rw [summarized.blocks]
    exact ⟨_, List.mem_append_right _ (List.mem_map_of_mem member), rfl⟩
  -- No block before the run has this height, so its day is that of the run.
  have own : ∀ other ∈ run.after.blocks, other.id = block.height →
      toDate other.timestamp = run.day := by
    intro other stored same
    rw [summarized.blocks] at stored
    rcases List.mem_append.mp stored with old | new
    · have before := run.written.blocks other old
      have after := List.rel_of_pairwise_cons run.increasing (List.mem_map_of_mem member)
      omega
    · obtain ⟨found, inside, rfl⟩ := List.mem_map.mp new
      exact run.ofDay found inside
  -- Refreshing replaces the rows of the day by those over all of its blocks.
  have rows : refreshDomainServiceDailyRewards toDate block.height run.after = run.after ↔
      dailyRewards toDate run.day (dayRange (dayHeights run.blocks)) run.after =
        dailyRewards toDate run.day (dayRange (settledHeights run.blocks)) run.after := by
    rw [refresh_of_day known own, dayBlocks_eq run.notBefore run.ofDay summarized.blocks,
      summarized.summary, filter_summary run.unsummarized]
    constructor
    · intro same
      have equal := congrArg RewardsTables.domainServiceDailyRewards same
      rw [summarized.summary] at equal
      exact List.append_cancel_left equal
    · intro same
      rw [same, ← summarized.summary]
  rw [rows, dailyRewards_eq_iff]
  exact forall_congr' fun key => by rw [run.mem_claimRows]

/-- Rewards are for claims of a block of the day. -/
theorem Rewarded.exists_block {run : RewardsDay externals kindText toDate} {key : String × String}
    (rewarded : Rewarded run key) : ∃ block, block ∈ run.blocks := by
  obtain ⟨e, -, height, -⟩ := rewarded
  obtain ⟨block, member, -⟩ := List.mem_map.mp height
  exact ⟨block, member⟩

/-- The rows of the day count the suppliers up to the last settlement, for the rewarded domains. -/
theorem RewardsDay.counted_iff (run : RewardsDay externals kindText toDate)
    (expected : String × String → ℕ) :
    (∀ row ∈ run.after.domainServiceDailyRewards, row.day = run.day →
      row.suppliersCount = expected (row.domain, row.serviceId)) ↔
      ∀ key, Rewarded run key → Sql.countDistinct
        (countedSuppliers (dayRange (settledHeights run.blocks)) run.after key) = expected key := by
  simp only [run.summarized.summary, dailyRewards_eq, ← run.mem_claimRows]
  constructor
  · intro counted key found
    obtain ⟨group, member, rfl⟩ := List.mem_map.mp (Sql.mem_keys_groupBy.mpr found)
    exact counted _ (List.mem_append_right _ (List.mem_map_of_mem member)) rfl
  · intro counted row member same
    rcases List.mem_append.mp member with old | new
    · exact absurd same (run.unsummarized row old)
    · obtain ⟨group, inside, rfl⟩ := List.mem_map.mp new
      exact counted group.1 (Sql.mem_keys_groupBy.mp (List.mem_map_of_mem inside))

/-- The summary of a day is the one of its final history, with the suppliers staked at any of its
blocks, just when each supplier with a staked version and a config for a rewarded domain and service
had both by the last settlement of the day and was staked for it at one of the blocks. -/
theorem finalAggregate_iff (run : RewardsDay externals kindText toDate) :
    FinalAggregate run ↔ StakedBySettlement run := by
  have summarized := run.summarized
  have part : ∀ key, ∀ supplier ∈ countedSuppliers (dayRange (settledHeights run.blocks)) run.after
      key, supplier ∈ countedSuppliers (dayRange (dayHeights run.blocks)) run.after key :=
    fun key supplier member => mem_countedSuppliers.mpr
      ((mem_countedSuppliers.mp member).mono fun id inside => dayHeights_of_settled inside)
  have staked : ∀ key, ∀ supplier ∈ suppliersStaked (dayHeights run.blocks) run.after key,
      supplier ∈ countedSuppliers (dayRange (dayHeights run.blocks)) run.after key := by
    intro key supplier member
    obtain ⟨height, inside, shown⟩ := mem_suppliersStaked.mp member
    exact mem_countedSuppliers.mpr (shown.within inside)
  constructor
  · intro final key rewarded supplier within
    obtain ⟨block, member⟩ := rewarded.exists_block
    have recomputed := (run.recomputed_iff member).mp (final.recomputed block member) key rewarded
    have counted := (run.counted_iff fun key => Sql.countDistinct
      (suppliersStaked (dayHeights run.blocks) run.after key)).mp final.counted key rewarded
    have listed := mem_countedSuppliers.mpr within
    -- A part that counts as many suppliers has all of them.
    have settled := (Sql.countDistinct_eq_iff (part key)).mp recomputed.symm supplier listed
    have visible := (Sql.countDistinct_eq_iff (staked key)).mp (counted.symm.trans recomputed.symm)
      supplier listed
    exact ⟨mem_countedSuppliers.mp settled, mem_suppliersStaked.mp visible⟩
  · intro settled
    have recomputed : ∀ key, Rewarded run key →
        Sql.countDistinct (countedSuppliers (dayRange (settledHeights run.blocks)) run.after key) =
          Sql.countDistinct (countedSuppliers (dayRange (dayHeights run.blocks)) run.after key) :=
      fun key rewarded => (Sql.countDistinct_eq_iff (part key)).mpr fun supplier listed =>
        mem_countedSuppliers.mpr
          (settled key rewarded supplier (mem_countedSuppliers.mp listed)).1
    have visible : ∀ key, Rewarded run key →
        Sql.countDistinct (suppliersStaked (dayHeights run.blocks) run.after key) =
          Sql.countDistinct (countedSuppliers (dayRange (dayHeights run.blocks)) run.after key) :=
      fun key rewarded => (Sql.countDistinct_eq_iff (staked key)).mpr fun supplier listed =>
        mem_suppliersStaked.mpr
          (settled key rewarded supplier (mem_countedSuppliers.mp listed)).2
    exact ⟨fun block member => (run.recomputed_iff member).mpr fun key rewarded =>
        (recomputed key rewarded).symm,
      (run.counted_iff _).mpr fun key rewarded =>
        (recomputed key rewarded).trans (visible key rewarded).symm⟩

end

/-- The settled claim of a supplier for a service at height 110. -/
def settledForService (operator serviceId : String) : CosmosEvent where
  idx := 0
  height := 110
  kind := .endBlock
  type := .claimSettled
  attributes := [⟨"supplier_operator_address", s!"\"{operator}\""⟩,
    ⟨"application_address", "\"app\""⟩, ⟨"service_id", s!"\"{serviceId}\""⟩,
    ⟨"claimed_upokt", "\"100upokt\""⟩, ⟨"num_relays", "\"1\""⟩,
    ⟨"num_claimed_compute_units", "\"1\""⟩, ⟨"num_estimated_compute_units", "\"1\""⟩,
    ⟨"num_estimated_relays", "\"1\""⟩, ⟨"reward_distribution_detailed", "[]"⟩,
    ⟨"settled_upokt", "\"100upokt\""⟩, ⟨"minted_upokt", "\"100upokt\""⟩,
    ⟨"overservicing_loss_upokt", "\"0upokt\""⟩, ⟨"deflation_loss_upokt", "\"0upokt\""⟩]
  tx := none
  msg := none

/-- A block that settles a claim of a supplier. -/
def settlingBlock : RewardsBlock where
  height := 110
  timestamp := 0
  messages := []
  events := [settledForService "pokt1op" "svc1"]
  mintRatioParam := some "1"
  heights := by decide

/-- A later block in which another supplier stakes for the service. -/
def stakingBlock : RewardsBlock where
  height := 120
  timestamp := 0
  messages := [stakeMessage "pokt1other" [plainService "pokt1other" "svc1"]]
  events := []
  mintRatioParam := some "1"
  heights := by decide

/-- Tables with a staked supplier that serves a service from one domain. -/
def servingTables : RewardsTables where
  blocks := []
  supplierTables := { oneConfigTables with
    suppliers := [⟨plainSupplier "pokt1op" .staked, none, ⟨5, none⟩⟩]
    services := [⟨{ plainConfig "pokt1op" "svc1" none with domains := ["node.test"] }, none,
      ⟨5, none⟩⟩] }
  eventClaimSettleds := []
  domainServiceDailyRewards := []

/-- A supplier that stakes after the last settlement of a day is not counted. -/
theorem finalAggregate_staked_later :
    ∃ run : RewardsDay plainExternals (fun _ => "end") fun _ => 0, ¬FinalAggregate run := by
  have counts : ([settlingBlock, stakingBlock].foldlM (indexRewardsBlock plainExternals
      (fun _ => "end") fun _ => 0) servingTables).toOption.map (fun after =>
        (after.domainServiceDailyRewards.map fun row => row.suppliersCount,
          (refreshDomainServiceDailyRewards (fun _ => 0) 120 after).domainServiceDailyRewards.map
            fun row => row.suppliersCount)) = some ([1], [2]) := by
    decide +kernel
  obtain ⟨after, ran, counted⟩ := Option.map_eq_some_iff.mp counts
  refine ⟨{
    day := 0
    height := 100
    before := servingTables
    blocks := [settlingBlock, stakingBlock]
    after
    written := ⟨by decide, by decide, ⟨by decide, by decide⟩, ⟨by decide, by decide⟩⟩
    notBefore := by simp [servingTables]
    unsummarized := by simp [servingTables]
    ofDay := by simp [settlingBlock, stakingBlock]
    increasing := by decide
    ran := ok_of_toOption ran }, fun final => ?_⟩
  have same := final.recomputed stakingBlock (by simp)
  have kept := congrArg (fun tables => tables.domainServiceDailyRewards.map
    DomainServiceDailyRewards.suppliersCount) same
  obtain ⟨left, refreshed⟩ := Prod.mk.inj counted
  exact absurd (refreshed.symm.trans (kept.trans left)) (by decide)

end Pocketdex
