import Pocketdex.Base.Except
import Pocketdex.DbFunctions.UnmigratedSupply

/-! When the functions that report the supply agree on what is not migrated yet. -/

namespace Pocketdex

attribute [local instance] timestampOrder

/-- A block has a supply of the token. -/
def SupplyOf (tables : UnmigratedTables) (blockId : ℕ) (amount : Int) : Prop :=
  ∃ bs ∈ tables.blockSupplies, bs.blockId = blockId ∧
    ∃ sp ∈ tables.supplies, sp.id = bs.supplyId ∧ sp.denom = "upokt" ∧ sp.amount = amount

/-- A block is the last one of its period between two dates. -/
def LastOfPeriod (dateTrunc : Int → Int) (tables : UnmigratedTables) (startDate endDate : Int)
    (blockId : ℕ) : Prop :=
  ∃ latest ∈ latestBlocksPerDay dateTrunc tables startDate endDate, latest.blockId = blockId

/-- A block is the last one between two dates. -/
def LastOfRange (tables : UnmigratedTables) (startDate endDate : Int) (blockId : ℕ) : Prop :=
  ∃ row ∈ (suppliedBlocks tables startDate endDate).argmax fun row => row.1.timestamp,
    row.1.id = blockId

/-- Whether an account was claimed after a block. -/
def MorseClaimableAccountProps.claimedAfter (blockId : ℕ) (account : MorseClaimableAccountProps) :
    Bool :=
  account.claimedAtId.any (blockId < ·)

/-- The accounts that are not claimed, or were claimed after a block. -/
def unmigratedAccounts (tables : UnmigratedTables) (blockId : ℕ) :
    List MorseClaimableAccountProps :=
  tables.morseClaimableAccounts.filter fun account =>
    account.claimed = false ∨ account.claimedAfter blockId = true

/-- The three amounts that are not migrated at a block. -/
def unmigratedAmounts (tables : UnmigratedTables) (blockId : ℕ) : AccountSums :=
  let sum (amount : MorseClaimableAccountProps → Int) : Option Int :=
    some ((unmigratedAccounts tables blockId).map amount).sum
  { unstakedBalanceAmount := sum MorseClaimableAccountProps.unstakedBalanceAmount
    supplierStakeAmount := sum MorseClaimableAccountProps.supplierStakeAmount
    applicationStakeAmount := sum MorseClaimableAccountProps.applicationStakeAmount }

/-- All three functions report, for a block, the amounts that are not migrated and their total with
the supply. -/
structure SuppliesAgree (tables : UnmigratedTables) (blockId : ℕ) (supply : Int)
    (byDay : Option (List SupplyRow)) (composition : Option (List SupplyCompositionRow))
    (between : Except String SupplySnapshot) : Prop where
  byDay : ((byDay.getD []).filter fun row => row.blockId = blockId).map
    (fun row => (row.amounts, row.totalSupply)) =
      [(unmigratedAmounts tables blockId, (unmigratedAmounts tables blockId).totalSupply supply)]
  composition : ((composition.getD []).filter fun row => row.row.blockId = blockId).map
    (fun row => (row.row.amounts, row.row.totalSupply)) =
      [(unmigratedAmounts tables blockId, (unmigratedAmounts tables blockId).totalSupply supply)]
  between : between.map (fun snapshot =>
      (snapshot.latestBlock, snapshot.amounts, snapshot.totalSupply)) =
    .ok (some blockId, unmigratedAmounts tables blockId,
      (unmigratedAmounts tables blockId).totalSupply supply)

/-- Some account is not claimed, the supply has 64 bits, and unclaimed accounts with a later claim
come to nothing. -/
structure MigrationPlain (tables : UnmigratedTables) (blockId : ℕ) (supply : Int) : Prop where
  unclaimed : ∃ account ∈ tables.morseClaimableAccounts, account.claimed = false
  fits : -2 ^ 63 ≤ supply ∧ supply < 2 ^ 63
  once : ∀ amount ∈ [MorseClaimableAccountProps.unstakedBalanceAmount,
      MorseClaimableAccountProps.supplierStakeAmount,
      MorseClaimableAccountProps.applicationStakeAmount],
    ((tables.morseClaimableAccounts.filter fun account =>
      account.claimed = false ∧ account.claimedAfter blockId = true).map amount).sum = 0

section

variable {tables : UnmigratedTables} {startDate endDate : Int}

/-- A supply of the token is joined with its block. -/
theorem mem_upoktSupplies {bs : BlockSupply} {sp : Supply} (stored : bs ∈ tables.blockSupplies)
    (found : sp ∈ tables.supplies) (linked : sp.id = bs.supplyId) (denom : sp.denom = "upokt") :
    (bs, sp) ∈ (Sql.innerJoin (fun (bs : BlockSupply) (sp : Supply) => sp.id = bs.supplyId)
      tables.blockSupplies tables.supplies).filter fun (_, sp) => sp.denom = "upokt" :=
  List.mem_filter.mpr
    ⟨Sql.mem_innerJoin.mpr ⟨stored, found, decide_eq_true linked⟩, decide_eq_true denom⟩

/-- A block has one supply of the token. -/
theorem SupplyOf.unique {blockId : ℕ} {first second : Int} (one : SupplyOf tables blockId first)
    (other : SupplyOf tables blockId second) : first = second := by
  obtain ⟨bs, stored, named, sp, found, linked, denom, rfl⟩ := one
  obtain ⟨bs', stored', named', sp', found', linked', denom', rfl⟩ := other
  -- The joined rows have different blocks, so the two rows of one block are the same.
  have same : (bs, sp) = (bs', sp') := List.inj_on_of_nodup_map tables.upoktOnce
    (mem_upoktSupplies stored found linked denom)
    (mem_upoktSupplies stored' found' linked' denom')
    (named.trans named'.symm)
  rw [(Prod.mk.inj same).2]

/-- The blocks that are considered have a supply. -/
theorem mem_suppliedBlocks {row : BlockRow × Int}
    (member : row ∈ suppliedBlocks tables startDate endDate) :
    row.1 ∈ tables.blocks ∧ SupplyOf tables row.1.id row.2 := by
  obtain ⟨⟨⟨block, bs⟩, sp⟩, inside, rfl⟩ := List.mem_map.mp member
  obtain ⟨joined, kept⟩ := List.mem_filter.mp inside
  obtain ⟨pair, found, linked⟩ := Sql.mem_innerJoin.mp joined
  obtain ⟨present, stored, named⟩ := Sql.mem_innerJoin.mp pair
  exact ⟨present, bs, stored, of_decide_eq_true named, sp, found, of_decide_eq_true linked,
    (of_decide_eq_true kept).1, rfl⟩

/-- The last block of a period is one of its blocks. -/
theorem mem_latestBlocksPerDay {dateTrunc : Int → Int} {latest : LatestBlock}
    (member : latest ∈ latestBlocksPerDay dateTrunc tables startDate endDate) :
    ∃ block ∈ tables.blocks, block.id = latest.blockId ∧
      dateTrunc block.timestamp = latest.dayTs ∧
        SupplyOf tables latest.blockId latest.shannonSupply := by
  obtain ⟨⟨dayTs, rows⟩, group, chosen⟩ := List.mem_filterMap.mp member
  obtain ⟨row, greatest, rfl⟩ := Option.map_eq_some_iff.mp chosen
  have inside : row ∈ rows := List.argmax_mem greatest
  have ofDay : rows = _ := (Sql.mem_groupBy group).1
  rw [ofDay] at inside
  obtain ⟨found, day⟩ := List.mem_filter.mp inside
  obtain ⟨present, supplied⟩ := mem_suppliedBlocks found
  exact ⟨row.1, present, rfl, of_decide_eq_true day, supplied⟩

/-- The periods are different. -/
theorem latestBlocksPerDay_days {dateTrunc : Int → Int} :
    ((latestBlocksPerDay dateTrunc tables startDate endDate).map LatestBlock.dayTs).Nodup := by
  have groups : (Sql.groupBy (fun row : BlockRow × Int => dateTrunc row.1.timestamp)
      (suppliedBlocks tables startDate endDate)).Pairwise fun first second =>
        first.1 ≠ second.1 := by
    unfold Sql.groupBy
    rw [List.pairwise_map]
    exact List.nodup_dedup _
  refine List.pairwise_map.mpr ?_
  refine groups.filterMap _ fun first second different latest chosen latest' chosen' => ?_
  obtain ⟨row, -, rfl⟩ := Option.map_eq_some_iff.mp chosen
  obtain ⟨row', -, rfl⟩ := Option.map_eq_some_iff.mp chosen'
  exact different

/-- The last blocks of the periods are different. -/
theorem latestBlocksPerDay_unique {dateTrunc : Int → Int} {first second : LatestBlock}
    (one : first ∈ latestBlocksPerDay dateTrunc tables startDate endDate)
    (other : second ∈ latestBlocksPerDay dateTrunc tables startDate endDate)
    (same : first.blockId = second.blockId) : first = second := by
  obtain ⟨block, present, named, day, -⟩ := mem_latestBlocksPerDay one
  obtain ⟨block', present', named', day', -⟩ := mem_latestBlocksPerDay other
  have blocks : block = block' := List.inj_on_of_nodup_map tables.blockIds present present'
    (named.trans (same.trans named'.symm))
  have days : first.dayTs = second.dayTs := by rw [← day, ← day', blocks]
  exact List.inj_on_of_nodup_map latestBlocksPerDay_days one other days

/-- The rows for a block, where it is the last one of a period, are one. -/
theorem latestBlocksPerDay_filter {dateTrunc : Int → Int} {blockId : ℕ} {supply : Int}
    (last : LastOfPeriod dateTrunc tables startDate endDate blockId)
    (supplied : SupplyOf tables blockId supply) :
    ∃ dayTs, (latestBlocksPerDay dateTrunc tables startDate endDate).filter
      (fun latest => latest.blockId = blockId) = [⟨dayTs, blockId, supply⟩] := by
  obtain ⟨latest, member, rfl⟩ := last
  obtain ⟨-, -, -, -, recorded⟩ := mem_latestBlocksPerDay member
  have nodup : (latestBlocksPerDay dateTrunc tables startDate endDate).Nodup :=
    latestBlocksPerDay_days.of_map
  have only : (latestBlocksPerDay dateTrunc tables startDate endDate).filter
      (fun other => decide (other.blockId = latest.blockId)) =
      (latestBlocksPerDay dateTrunc tables startDate endDate).filter
        fun other => decide (other = latest) :=
    List.filter_congr fun other inside => decide_eq_decide.mpr
      ⟨latestBlocksPerDay_unique inside member, fun same => same ▸ rfl⟩
  refine ⟨latest.dayTs, ?_⟩
  rw [only, List.filter_eq, List.count_eq_one_of_mem nodup member, supplied.unique recorded]
  rfl

end

section

variable {tables : UnmigratedTables} {latest : List LatestBlock}

/-- The sums over the accounts that were claimed after the last block of a period. -/
def recentOf (tables : UnmigratedTables) (l : LatestBlock) : Option (Int × AccountSums) :=
  let recent := tables.morseClaimableAccounts.filter
    (MorseClaimableAccountProps.claimedAfter l.blockId)
  if recent.isEmpty then none else some (l.dayTs, AccountSums.of recent)

/-- Every period is joined with the accounts that were claimed after its last block. -/
theorem leftJoin_recently (days : (latest.map LatestBlock.dayTs).Nodup) :
    Sql.leftJoin (fun l r => decide (r.1 = l.dayTs)) latest
      (recentlyClaimedAccounts tables latest) = latest.map fun l => (l, recentOf tables l) := by
  refine (Sql.leftJoin_groupBy (fun _ rows => AccountSums.of (rows.map Prod.fst))
    LatestBlock.dayTs latest).trans (List.map_congr_left fun l member => ?_)
  -- Of the joined rows, those of one period are the accounts claimed after its block.
  have single : latest.filter (fun other => decide (other.dayTs = l.dayTs)) = [l] := by
    have only : latest.filter (fun other => decide (other.dayTs = l.dayTs)) =
        latest.filter fun other => decide (other = l) :=
      List.filter_congr fun other inside => decide_eq_decide.mpr
        ⟨List.inj_on_of_nodup_map days inside member, fun same => same ▸ rfl⟩
    rw [only, List.filter_eq, List.count_eq_one_of_mem days.of_map member]
    rfl
  have rows : ((Sql.innerJoin (fun (m : MorseClaimableAccountProps) (l : LatestBlock) =>
      m.claimedAtId.any (l.blockId < ·)) tables.morseClaimableAccounts latest).filter
        fun row => decide (row.2.dayTs = l.dayTs)).map Prod.fst =
      tables.morseClaimableAccounts.filter (MorseClaimableAccountProps.claimedAfter l.blockId) := by
    rw [Sql.filter_innerJoin_snd (fun other : LatestBlock => decide (other.dayTs = l.dayTs)),
      single, Sql.map_innerJoin_singleton]
    rfl
  unfold recentOf
  simp only
  rw [← rows, List.isEmpty_map]

/-- The amount of the accounts that were claimed after the last block of a period. -/
theorem recentOf_amount (l : LatestBlock) {amount : AccountSums → Option Int}
    {of : MorseClaimableAccountProps → Int}
    (summed : ∀ accounts, amount (AccountSums.of accounts) =
      Sql.sum (accounts.map fun account => some (of account))) :
    coalesce ((recentOf tables l).bind fun r => amount r.2) =
      ((tables.morseClaimableAccounts.filter
        (MorseClaimableAccountProps.claimedAfter l.blockId)).map of).sum :=
  Sql.sum_group (summed _)

/-- What is not claimed and what was claimed later is what is not migrated, with unclaimed accounts
that have a later claim counted again. -/
theorem sum_unclaimed_add_recent (accounts : List MorseClaimableAccountProps) (blockId : ℕ)
    (amount : MorseClaimableAccountProps → Int) :
    ((accounts.filter fun account => account.claimed = false).map amount).sum +
      ((accounts.filter (MorseClaimableAccountProps.claimedAfter blockId)).map amount).sum =
      ((accounts.filter fun account =>
        account.claimed = false ∨ account.claimedAfter blockId = true).map amount).sum +
      ((accounts.filter fun account =>
        account.claimed = false ∧ account.claimedAfter blockId = true).map amount).sum := by
  rw [Sql.sum_filter_add]
  simp only [Bool.decide_or, Bool.decide_and, Bool.decide_eq_true]

/-- The amount of the accounts that were claimed after a block. -/
def recentSum (tables : UnmigratedTables) (blockId : ℕ)
    (amount : MorseClaimableAccountProps → Int) : Int :=
  ((tables.morseClaimableAccounts.filter
    (MorseClaimableAccountProps.claimedAfter blockId)).map amount).sum

/-- The amounts of a day, each of which is null when no account is unclaimed. -/
def dayAmounts (tables : UnmigratedTables) (blockId : ℕ) : AccountSums :=
  let added (amount : AccountSums → Option Int) (of : MorseClaimableAccountProps → Int) :=
    Sql.add (amount (unclaimedAccounts tables)) (some (recentSum tables blockId of))
  { unstakedBalanceAmount := added AccountSums.unstakedBalanceAmount
      MorseClaimableAccountProps.unstakedBalanceAmount
    supplierStakeAmount := added AccountSums.supplierStakeAmount
      MorseClaimableAccountProps.supplierStakeAmount
    applicationStakeAmount := added AccountSums.applicationStakeAmount
      MorseClaimableAccountProps.applicationStakeAmount }

/-- The amounts where null counts for nothing. -/
def plainAmounts (tables : UnmigratedTables) (blockId : ℕ) : AccountSums :=
  let added (amount : AccountSums → Option Int) (of : MorseClaimableAccountProps → Int) :=
    some (coalesce (amount (unclaimedAccounts tables)) + recentSum tables blockId of)
  { unstakedBalanceAmount := added AccountSums.unstakedBalanceAmount
      MorseClaimableAccountProps.unstakedBalanceAmount
    supplierStakeAmount := added AccountSums.supplierStakeAmount
      MorseClaimableAccountProps.supplierStakeAmount
    applicationStakeAmount := added AccountSums.applicationStakeAmount
      MorseClaimableAccountProps.applicationStakeAmount }

/-- The row of a period, with some amounts. -/
def rowWith (amounts : AccountSums) (l : LatestBlock) : SupplyRow :=
  ⟨l.dayTs, l.blockId, l.shannonSupply, amounts, amounts.totalSupply l.shannonSupply⟩

variable {startDate endDate : Int}

/-- The rows of the days, by day. -/
theorem getTotalSupplyByDay_getD (dateTrunc : String → Int → Int) :
    (getTotalSupplyByDay dateTrunc tables startDate endDate).getD [] =
      ((latestBlocksPerDay (dateTrunc "day") tables startDate endDate).map fun l =>
        rowWith (dayAmounts tables l.blockId) l).mergeSort
          fun row other => row.dayTs ≤ other.dayTs := by
  have days := @latestBlocksPerDay_days tables startDate endDate (dateTrunc "day")
  unfold getTotalSupplyByDay
  simp only [Sql.jsonbAgg_getD]
  rw [leftJoin_recently days, Sql.groupBy_map_self days.of_map, List.map_map]
  refine congrArg (List.mergeSort · _) (List.map_congr_left fun l _ => ?_)
  simp only [Function.comp_apply, List.map_cons, List.map_nil, Sql.sum_singleton, rowWith,
    dayAmounts, recentSum]
  rw [recentOf_amount l fun _ => rfl, recentOf_amount l fun _ => rfl,
    recentOf_amount l fun _ => rfl]

/-- The rows of the periods, by period. -/
theorem getSupplyComposition_getD (dateTrunc : String → Int → Int) (truncInterval : String) :
    ((getSupplyCompositionBetweenDates dateTrunc tables startDate endDate truncInterval).getD
      []).map SupplyCompositionRow.row =
      ((latestBlocksPerDay (dateTrunc truncInterval) tables startDate endDate).map fun l =>
        rowWith (plainAmounts tables l.blockId) l).mergeSort
          fun row other => row.dayTs ≤ other.dayTs := by
  have days := @latestBlocksPerDay_days tables startDate endDate (dateTrunc truncInterval)
  unfold getSupplyCompositionBetweenDates
  simp only [Sql.jsonbAgg_getD]
  rw [leftJoin_recently days]
  -- Rows are sorted by their period, which forgetting the composition keeps.
  refine (List.map_mergeSort (s := fun row other : SupplyRow => decide (row.dayTs ≤ other.dayTs))
    fun _ _ _ _ => rfl).trans ?_
  rw [List.map_map, List.map_map, List.map_map]
  refine congrArg (List.mergeSort · _) (List.map_congr_left fun l _ => ?_)
  simp only [Function.comp_apply, coalescedAmounts, Option.bind_map, Function.comp_def, rowWith,
    plainAmounts, recentSum]
  rw [recentOf_amount l fun _ => rfl, recentOf_amount l fun _ => rfl,
    recentOf_amount l fun _ => rfl]

/-- The last block is the one the function takes. -/
theorem argmax_of_greatest {block : BlockRow} {amount : Int}
    (greatest : (block, amount) ∈
      (suppliedBlocks tables startDate endDate).argmax fun row => row.1.timestamp) :
    ((suppliedBlocks tables startDate endDate).argmax fun (b, _) => b.timestamp) =
      some (block, amount) := greatest

/-- The snapshot of a block, where its supply has 64 bits. -/
theorem getTotalSupplyBetweenDates_eq {blockId : ℕ} {supply : Int}
    (last : LastOfRange tables startDate endDate blockId)
    (supplied : SupplyOf tables blockId supply) :
    (getTotalSupplyBetweenDates tables startDate endDate).map (fun snapshot =>
      (snapshot.latestBlock, snapshot.amounts, snapshot.totalSupply)) =
      (toBigint supply).map fun supply => (some blockId, plainAmounts tables blockId,
        (plainAmounts tables blockId).totalSupply supply) := by
  obtain ⟨⟨block, amount⟩, greatest, rfl⟩ := last
  have same : amount = supply :=
    (mem_suppliedBlocks (List.argmax_mem greatest)).2.unique supplied
  subst same
  unfold getTotalSupplyBetweenDates
  simp only [argmax_of_greatest greatest, Option.map_some, Option.any_some]
  have mapped : ∀ value, Option.mapM (fun row : BlockRow × Int => toBigint row.2)
      (some (block, value)) = (toBigint value).map some := fun value => rfl
  rw [mapped]
  cases toBigint amount with
  | error message => rfl
  | ok value =>
    have amounts : coalescedAmounts (unclaimedAccounts tables) (some (AccountSums.of
        (tables.morseClaimableAccounts.filter
          (MorseClaimableAccountProps.claimedAfter block.id)))) = plainAmounts tables block.id := by
      simp only [coalescedAmounts, plainAmounts, recentSum, Option.bind_some, coalesce,
        AccountSums.of, Sql.sum_getD, List.map_map, Function.comp_def, Option.getD_some]
    exact congrArg (fun sums : AccountSums => Except.ok
      (some block.id, sums, sums.totalSupply value)) amounts

/-- The rows for a block, where it is the last one of a period. -/
theorem rows_filter {dateTrunc : Int → Int} {blockId : ℕ} {supply : Int}
    (last : LastOfPeriod dateTrunc tables startDate endDate blockId)
    (supplied : SupplyOf tables blockId supply) (amounts : ℕ → AccountSums) :
    ((((latestBlocksPerDay dateTrunc tables startDate endDate).map fun l =>
      rowWith (amounts l.blockId) l).mergeSort fun row other => row.dayTs ≤ other.dayTs).filter
        fun row => row.blockId = blockId).map (fun row => (row.amounts, row.totalSupply)) =
      [(amounts blockId, (amounts blockId).totalSupply supply)] := by
  obtain ⟨dayTs, only⟩ := latestBlocksPerDay_filter last supplied
  have one : (((latestBlocksPerDay dateTrunc tables startDate endDate).map fun l =>
      rowWith (amounts l.blockId) l).filter fun row => row.blockId = blockId) =
      [rowWith (amounts blockId) ⟨dayTs, blockId, supply⟩] := by
    rw [List.filter_map]
    exact congrArg (List.map _) only
  -- Sorting changes the order only, which one row does not have.
  have sorted := (List.mergeSort_perm ((latestBlocksPerDay dateTrunc tables startDate endDate).map
    fun l => rowWith (amounts l.blockId) l) fun row other => row.dayTs ≤ other.dayTs).filter
      fun row => row.blockId = blockId
  rw [one] at sorted
  rw [List.perm_singleton.mp sorted]
  rfl

/-- Amounts where null counts for nothing are those that are not migrated just when no unclaimed
account with a later claim counts. -/
theorem plainAmounts_eq_iff {blockId : ℕ} :
    plainAmounts tables blockId = unmigratedAmounts tables blockId ↔
      ∀ amount ∈ [MorseClaimableAccountProps.unstakedBalanceAmount,
        MorseClaimableAccountProps.supplierStakeAmount,
        MorseClaimableAccountProps.applicationStakeAmount],
        ((tables.morseClaimableAccounts.filter fun account =>
          account.claimed = false ∧ account.claimedAfter blockId = true).map amount).sum = 0 := by
  have unclaimed : ∀ {amount : AccountSums → Option Int} {of},
      (∀ accounts, amount (AccountSums.of accounts) =
        Sql.sum (accounts.map fun account => some (of account))) →
      coalesce (amount (unclaimedAccounts tables)) =
        ((tables.morseClaimableAccounts.filter fun account => account.claimed = false).map
          of).sum := by
    intro amount of summed
    rw [coalesce, unclaimedAccounts, summed, Sql.sum_getD, List.map_map]
    rfl
  simp only [plainAmounts, unmigratedAmounts, AccountSums.mk.injEq, Option.some.injEq,
    unmigratedAccounts, recentSum]
  rw [unclaimed fun _ => rfl, unclaimed fun _ => rfl, unclaimed fun _ => rfl,
    sum_unclaimed_add_recent, sum_unclaimed_add_recent, sum_unclaimed_add_recent]
  simp only [add_eq_left, List.mem_cons, List.not_mem_nil, or_false, forall_eq_or_imp, forall_eq]

/-- The amounts of a day are null without unclaimed accounts, and as the others otherwise. -/
theorem dayAmounts_eq {blockId : ℕ} :
    dayAmounts tables blockId =
      if (tables.morseClaimableAccounts.filter fun account => account.claimed = false).isEmpty then
        ⟨none, none, none⟩ else plainAmounts tables blockId := by
  unfold dayAmounts plainAmounts unclaimedAccounts AccountSums.of
  simp only [Sql.sum_map_some]
  split <;> rfl

/-- The amounts of a day are those that are not migrated just when some account is unclaimed and
none of these with a later claim counts. -/
theorem dayAmounts_eq_iff {blockId : ℕ} :
    dayAmounts tables blockId = unmigratedAmounts tables blockId ↔
      (∃ account ∈ tables.morseClaimableAccounts, account.claimed = false) ∧
        plainAmounts tables blockId = unmigratedAmounts tables blockId := by
  rw [dayAmounts_eq]
  split
  · rename_i empty
    rw [List.isEmpty_iff, List.filter_eq_nil_iff] at empty
    refine iff_of_false (fun same => ?_) fun both => ?_
    · cases congrArg AccountSums.unstakedBalanceAmount same
    · obtain ⟨⟨account, member, unclaimed⟩, -⟩ := both
      exact empty account member (decide_eq_true unclaimed)
  · rename_i nonempty
    refine (and_iff_right ?_).symm
    obtain ⟨account, member⟩ := List.exists_mem_of_ne_nil _ (mt List.isEmpty_iff.mpr nonempty)
    obtain ⟨inside, unclaimed⟩ := List.mem_filter.mp member
    exact ⟨account, inside, of_decide_eq_true unclaimed⟩

end

/-- Where a block is the last one of a period in each call, the three functions agree on what is not
migrated just when some account is unclaimed, none of these with a later claim counts, and the supply
has 64 bits. -/
theorem unmigratedSupply_iff (dateTrunc : String → Int → Int) {tables : UnmigratedTables}
    {blockId : ℕ} {supply : Int} (supplied : SupplyOf tables blockId supply)
    {startDay endDay startPeriod endPeriod startRange endRange : Int} {truncInterval : String}
    (lastOfDay : LastOfPeriod (dateTrunc "day") tables startDay endDay blockId)
    (lastOfPeriod : LastOfPeriod (dateTrunc truncInterval) tables startPeriod endPeriod blockId)
    (lastOfRange : LastOfRange tables startRange endRange blockId) :
    SuppliesAgree tables blockId supply
        (getTotalSupplyByDay dateTrunc tables startDay endDay)
        (getSupplyCompositionBetweenDates dateTrunc tables startPeriod endPeriod truncInterval)
        (getTotalSupplyBetweenDates tables startRange endRange) ↔
      MigrationPlain tables blockId supply := by
  have days := rows_filter lastOfDay supplied (dayAmounts tables)
  have periods := rows_filter lastOfPeriod supplied (plainAmounts tables)
  have range := getTotalSupplyBetweenDates_eq lastOfRange supplied
  rw [← getTotalSupplyByDay_getD] at days
  rw [← getSupplyComposition_getD, List.filter_map, List.map_map] at periods
  constructor
  · -- The report by day has a sum only where some account is unclaimed.
    intro agree
    have day := days.symm.trans agree.byDay
    have plain := dayAmounts_eq_iff.mp (Prod.mk.inj (List.cons.inj day).1).1
    refine ⟨plain.1, ?_, plainAmounts_eq_iff.mp plain.2⟩
    have fits := range.symm.trans agree.between
    -- The sum is reported at all just when it fits a bigint.
    unfold toBigint at fits
    split at fits
    · assumption
    · cases fits
  · intro plain
    have amounts : plainAmounts tables blockId = unmigratedAmounts tables blockId :=
      plainAmounts_eq_iff.mpr plain.once
    have day : dayAmounts tables blockId = unmigratedAmounts tables blockId :=
      dayAmounts_eq_iff.mpr ⟨plain.unclaimed, amounts⟩
    refine ⟨?_, ?_, ?_⟩
    · rw [days, day]
    · rw [amounts] at periods
      exact periods
    · rw [range, toBigint, if_pos plain.fits, amounts]
      rfl

/-- A single block has an id of its own. -/
theorem migrationBlock_ids : ([⟨10, 1000⟩].map BlockRow.id).Nodup := by decide

/-- One block with a supply, and one account that may be claimed. -/
def migrationTables (claimed : Bool) (claimedAtId : Option ℕ) : UnmigratedTables where
  blocks := [⟨10, 1000⟩]
  blockSupplies := [⟨"upokt@10", 10, "upokt@10"⟩]
  supplies := [⟨"upokt@10", "upokt", 5000⟩]
  morseClaimableAccounts := [{
    id := "a1b2"
    msgImportMorseClaimableAccountsId := "import"
    applicationStakeAmount := 30
    applicationStakeDenom := "upokt"
    supplierStakeAmount := 20
    supplierStakeDenom := "upokt"
    claimed, claimedAtId
    unstakedBalanceAmount := 100
    unstakedBalanceDenom := "upokt" }]
  params := []
  balances := []
  moduleAccounts := []
  heights := by decide
  blockIds := migrationBlock_ids
  upoktOnce := by decide +kernel

/-- With an account that is not claimed, the three functions agree. -/
theorem unmigratedSupply_unclaimed : SuppliesAgree (migrationTables false none) 10 5000
    (getTotalSupplyByDay (fun _ time => time / 100) (migrationTables false none) 0 2000)
    (getSupplyCompositionBetweenDates (fun _ time => time / 100) (migrationTables false none) 0 2000
      "week")
    (getTotalSupplyBetweenDates (migrationTables false none) 0 2000) := by
  have supplied : SupplyOf (migrationTables false none) 10 5000 :=
    ⟨_, List.mem_singleton_self _, rfl, _, List.mem_singleton_self _, rfl, rfl, rfl⟩
  refine (unmigratedSupply_iff (fun _ time => time / 100) supplied
    ⟨⟨10, 10, 5000⟩, ?_, rfl⟩ ⟨⟨10, 10, 5000⟩, ?_, rfl⟩
    ⟨(⟨10, 1000⟩, 5000), ?_, rfl⟩).mpr ⟨?_, ?_, ?_⟩ <;> decide +kernel

/-- Once all accounts are claimed, the amounts of a day are null, and those of a range are zero. -/
theorem unmigratedSupply_all_claimed :
    ((getTotalSupplyByDay (fun _ time => time / 100) (migrationTables true (some 3)) 0
      2000).getD []).map SupplyRow.amounts = [⟨none, none, none⟩] ∧
    (getTotalSupplyBetweenDates (migrationTables true (some 3)) 0 2000).map
      SupplySnapshot.amounts = .ok ⟨some 0, some 0, some 0⟩ ∧
    ¬SuppliesAgree (migrationTables true (some 3)) 10 5000
      (getTotalSupplyByDay (fun _ time => time / 100) (migrationTables true (some 3)) 0 2000)
      (getSupplyCompositionBetweenDates (fun _ time => time / 100)
        (migrationTables true (some 3)) 0 2000 "week")
      (getTotalSupplyBetweenDates (migrationTables true (some 3)) 0 2000) := by
  refine ⟨by decide +kernel, ok_of_toOption (by decide +kernel), fun agree => ?_⟩
  exact absurd agree.byDay (by decide +kernel)

end Pocketdex
