import Pocketdex.Base.Writes
import Pocketdex.Proofs.BlockBalances

/-! Balances at every past height, over runs of blocks that may have been attempted before. -/

namespace Pocketdex

/-- What the balances of a block are built from: the module accounts that the chain returns, and
the coin events of other accounts. -/
structure BalanceBlock where
  height : ℕ
  moduleAccounts : List ExtendedAccount
  events : List CosmosEvent

/-- The rows that the bulk insert of an update writes. -/
def insertedBalances (entries : List (String × Int)) (blockId : ℕ)
    (rows : List (Row BalanceProps)) : List (Row BalanceProps) :=
  entries.map fun entry => Row.fresh blockId (balanceToSave blockId
    (currentBalances blockId (cleanBalances blockId rows) (entries.map Prod.fst)) entry.1 entry.2)

namespace BalanceBlock

variable (decimal : String → Int)

/-- The changes that the events of a block are read as. -/
def postings (block : BalanceBlock) : List Posting :=
  (block.events.mapM (readPosting decimal)).toOption.getD []

/-- The balances of modules are saved, and then those of other accounts are updated. -/
def index (block : BalanceBlock) (rows : List (Row BalanceProps)) :
    Except String (List (Row BalanceProps)) := do
  let saved ← handleModuleAccounts block.height block.moduleAccounts rows
  indexBalances decimal block.events block.height saved

/-- The addresses of a block hold no dash. -/
structure Addressed (block : BalanceBlock) : Prop where
  modules : ∀ account ∈ block.moduleAccounts, '-' ∉ account.address.toList
  events : ∀ event ∈ block.events, ∀ attr ∈ event.attributes, isAccountAttribute attr = true →
    '-' ∉ attr.value.toList

end BalanceBlock

/-- A failed attempt of a block is rolled back, but for rows its bulk insert has committed. -/
inductive FailedBalances (decimal : String → Int) (block : BalanceBlock)
    (rows : List (Row BalanceProps)) : List (Row BalanceProps) → Prop
  | early : FailedBalances decimal block rows rows
  | inserting {saved kept : List (Row BalanceProps)}
      (ran : handleModuleAccounts block.height block.moduleAccounts rows = .ok saved)
      (committed : kept.Sublist
        (insertedBalances (readEntries (block.postings decimal)) block.height saved)) :
      FailedBalances decimal block rows (rows ++ kept)

/-- Blocks are indexed one after the other, each after any number of failed attempts. -/
inductive BalanceRun (decimal : String → Int) :
    List BalanceBlock → List (Row BalanceProps) → List (Row BalanceProps) → Prop
  | done (rows : List (Row BalanceProps)) : BalanceRun decimal [] rows rows
  | failed {block : BalanceBlock} {rest : List BalanceBlock}
      {rows left after : List (Row BalanceProps)} (attempt : FailedBalances decimal block rows left)
      (again : BalanceRun decimal (block :: rest) left after) :
      BalanceRun decimal (block :: rest) rows after
  | indexed {block : BalanceBlock} {rest : List BalanceBlock}
      {rows middle after : List (Row BalanceProps)} (ran : block.index decimal rows = .ok middle)
      (later : BalanceRun decimal rest middle after) : BalanceRun decimal (block :: rest) rows after

section Settled

variable {height next : ℕ} {rows after : List (Row BalanceProps)} {id : String}

/-- Once all that happened lies behind, the versions without an end are visible. -/
theorem openVersions_settled (begun : ∀ row ∈ rows, row.blockRange.lower ≤ height)
    (ended : ∀ row ∈ rows, ∀ upper, row.blockRange.upper = some upper → upper ≤ height) :
    openVersions BalanceProps.id height id rows =
      (versionsOf BalanceProps.id id rows).filter fun row => row.blockRange.upper.isNone := by
  unfold openVersions
  apply List.filter_congr
  intro row member
  have stored := (List.mem_filter.mp member).1
  have started := begun row stored
  unfold Row.openAt BlockRange.contains
  cases upper : row.blockRange.upper with
  | none => simp [started]
  | some value =>
    have past := ended row stored value upper
    -- A version that has ended is no longer visible, however early it began.
    have passed : ¬height < value := by omega
    simp [passed]

/-- What is visible before a block stays visible as long as no block is indexed. -/
theorem PriorBalances.openVersions_eq (prior : PriorBalances height rows) {first second : ℕ}
    (one : height ≤ first + 1) (two : height ≤ second + 1) :
    openVersions BalanceProps.id first id rows = openVersions BalanceProps.id second id rows := by
  -- Both heights are behind all that happened.
  have settled : ∀ past, height ≤ past + 1 → openVersions BalanceProps.id past id rows =
      (versionsOf BalanceProps.id id rows).filter fun row => row.blockRange.upper.isNone := by
    intro past bound
    refine openVersions_settled (fun row member => ?_) fun row member upper ends => ?_
    · have begun := prior.begun row member
      omega
    · have ended := prior.ended row member upper ends
      omega
  rw [settled first one, settled second two]

/-- A table from before a height is one from before a later height. -/
theorem PriorBalances.mono (prior : PriorBalances height rows) (later : height ≤ next) :
    PriorBalances next rows where
  oneOpen := by
    intro id
    rw [prior.openVersions_eq (by omega) (Nat.le_succ height)]
    exact prior.oneOpen id
  begun := fun row member => Nat.lt_of_lt_of_le (prior.begun row member) later
  updated := fun row member => Nat.lt_of_lt_of_le (prior.updated row member) later
  ended := fun row member upper ends => Nat.lt_of_lt_of_le (prior.ended row member upper ends) later
  labelled := prior.labelled
  dashless := prior.dashless

/-- A row as a block leaves it: an older one, an older one that is closed, or one of its own. -/
def LeftBy (height : ℕ) (rows : List (Row BalanceProps)) (row : Row BalanceProps) : Prop :=
  row ∈ rows ∨ (∃ old ∈ rows, row = old.close height) ∨ ∃ balance : BalanceProps,
    row = Row.fresh height balance ∧ balance.lastUpdatedBlockId = height ∧
      balance.id = getBalanceId balance.accountId balance.denom ∧ '-' ∉ balance.accountId.toList

/-- Such rows make up a table from before the next block, if no balance is visible twice. -/
theorem PriorBalances.left (prior : PriorBalances (height + 1) rows)
    (left : ∀ row ∈ after, LeftBy height rows row)
    (oneOpen : ∀ id, (openVersions BalanceProps.id height id after).length ≤ 1) :
    PriorBalances (height + 1) after := by
  have begun : ∀ row ∈ after, row.blockRange.lower < height + 1 := by
    intro row member
    rcases left row member with stored | ⟨old, stored, rfl⟩ | ⟨balance, rfl, -⟩
    · exact prior.begun row stored
    · exact prior.begun old stored
    · exact Nat.lt_succ_self height
  have ended : ∀ row ∈ after, ∀ upper, row.blockRange.upper = some upper →
      upper < height + 1 := by
    intro row member upper ends
    rcases left row member with stored | ⟨old, stored, rfl⟩ | ⟨balance, rfl, -⟩
    · exact prior.ended row stored upper ends
    · cases ends
      exact Nat.lt_succ_self height
    · cases ends
  refine ⟨?_, begun, ?_, ended, ?_, ?_⟩
  · intro id
    -- At the height of the block and after it, the versions without an end are visible.
    have visible := oneOpen id
    rw [openVersions_settled (fun row member => Nat.le_of_lt_succ (begun row member))
      fun row member upper ends => Nat.le_of_lt_succ (ended row member upper ends)] at visible
    rw [openVersions_settled (fun row member => Nat.le_of_lt (begun row member))
      fun row member upper ends => Nat.le_of_lt (ended row member upper ends)]
    exact visible
  · intro row member
    rcases left row member with stored | ⟨old, stored, rfl⟩ | ⟨balance, rfl, current, -⟩
    · exact prior.updated row stored
    · exact prior.updated old stored
    · rw [Row.fresh_data, current]
      exact Nat.lt_succ_self height
  · intro row member
    rcases left row member with stored | ⟨old, stored, rfl⟩ | ⟨balance, rfl, -, named, -⟩
    · exact prior.labelled row stored
    · exact prior.labelled old stored
    · exact named
  · intro row member
    rcases left row member with stored | ⟨old, stored, rfl⟩ | ⟨balance, rfl, -, -, dashless⟩
    · exact prior.dashless row stored
    · exact prior.dashless old stored
    · exact dashless

/-- What is stored under an id is the one record with the id among those shown. -/
theorem storeGet_eq_shownAt (past : ℕ) :
    storeGet BalanceProps.id past id rows = (shownAt past rows).find? fun data => data.id = id := by
  unfold storeGet openVersions versionsOf shownAt
  rw [List.find?_map, ← List.head?_filter, List.filter_filter, List.filter_filter]
  congr 2
  apply List.filter_congr
  intro row _
  exact Bool.and_comm _ _

/-- Tables that agree before a height have the same balances at every earlier one. -/
theorem amountAt_congr {past : ℕ} (early : past < height)
    (same : rowsBefore height after = rowsBefore height rows) :
    amountAt past after id = amountAt past rows id := by
  rw [amountAt, amountAt, storeGet_eq_shownAt, storeGet_eq_shownAt, shownAt_congr early same]

/-- Saving a balance of the block makes it the visible one, and is not seen before the block. -/
theorem PriorBalances.save (prior : PriorBalances (height + 1) rows) {balance : BalanceProps}
    (current : balance.lastUpdatedBlockId = height)
    (named : balance.id = getBalanceId balance.accountId balance.denom)
    (dashless : '-' ∉ balance.accountId.toList) :
    PriorBalances (height + 1) (storeSave BalanceProps.id height balance rows) := by
  refine prior.left (fun row member => ?_) fun id => ?_
  · rcases List.mem_append.mp member with inside | last
    · obtain ⟨old, kept, rfl⟩ := List.mem_map.mp inside
      have stored := (List.mem_filter.mp kept).1
      split
      · exact Or.inr (Or.inl ⟨old, stored, rfl⟩)
      · exact Or.inl stored
    · exact Or.inr (Or.inr ⟨balance, List.mem_singleton.mp last, current, named, dashless⟩)
  · by_cases own : balance.id = id
    · rw [← own, openVersions_storeSave_self]
      exact Nat.le_refl 1
    · rw [openVersions_storeSave_ne own, prior.openVersions_eq (Nat.le_refl _) (Nat.le_succ _)]
      exact prior.oneOpen id

/-- What a part of a block does to balances: it is not seen before the block, and leaves a table for
the next one. -/
structure KeepsPast (height : ℕ) (rows after : List (Row BalanceProps)) : Prop where
  prior : PriorBalances (height + 1) after
  before : rowsBefore height after = rowsBefore height rows

/-- Saving the balance of a module keeps the past and the other balances. -/
theorem saveModuleBalance_keeps (prior : PriorBalances (height + 1) rows) {held : String × Coin}
    (dashless : '-' ∉ held.1.toList) (ran : saveModuleBalance height rows held = .ok after) :
    KeepsPast height rows after ∧ ∀ id, getBalanceId held.1 held.2.denom ≠ id →
      openVersions BalanceProps.id height id after = openVersions BalanceProps.id height id rows := by
  obtain ⟨address, coin⟩ := held
  -- However the balance is made up, saving it is all that is done to the table.
  have saved : ∀ balance : BalanceProps, balance.id = getBalanceId address coin.denom →
      balance.lastUpdatedBlockId = height →
      balance.id = getBalanceId balance.accountId balance.denom →
      '-' ∉ balance.accountId.toList → storeSave BalanceProps.id height balance rows = after →
      KeepsPast height rows after ∧ ∀ id, getBalanceId address coin.denom ≠ id →
        openVersions BalanceProps.id height id after =
          openVersions BalanceProps.id height id rows := by
    rintro balance own current named dashless rfl
    refine ⟨⟨prior.save current named dashless, ?_⟩, fun id other => ?_⟩
    · exact (Write.save balance).rowsBefore_perform (Nat.le_refl height)
    · exact openVersions_storeSave_ne (own ▸ other)
  unfold saveModuleBalance coinBalance at ran
  dsimp only at ran
  split at ran
  · obtain ⟨balance, created, ran⟩ := exceptBind_ok ran
    obtain ⟨amount, -, created⟩ := exceptBind_ok created
    cases created
    exact saved _ rfl rfl rfl dashless (Except.ok.inj ran)
  · rename_i prevBalance found
    split at ran
    · obtain ⟨amount, -, ran⟩ := exceptBind_ok ran
      -- The stored balance keeps its account and denomination.
      obtain ⟨row, first, rfl⟩ := Option.map_eq_some_iff.mp found
      obtain ⟨stored, own, -⟩ := mem_openVersions.mp (List.mem_of_mem_head? first)
      exact saved { row.data with amount := amount, lastUpdatedBlockId := height } own rfl
        (prior.labelled row stored) (prior.dashless row stored) (Except.ok.inj ran)
    · cases ran
      exact ⟨⟨prior, rfl⟩, fun _ _ => rfl⟩

/-- So does saving the balances of all modules. -/
theorem handleModuleAccounts_keeps (prior : PriorBalances (height + 1) rows)
    {moduleAccounts : List ExtendedAccount}
    (dashless : ∀ account ∈ moduleAccounts, '-' ∉ account.address.toList)
    (ran : handleModuleAccounts height moduleAccounts rows = .ok after) :
    KeepsPast height rows after ∧
      ∀ id, (∀ account ∈ moduleAccounts, ∀ denom, getBalanceId account.address denom ≠ id) →
        openVersions BalanceProps.id height id after =
          openVersions BalanceProps.id height id rows := by
  -- Every coin is held under the address of a module account.
  have addresses : ∀ held ∈ moduleCoins moduleAccounts,
      ∃ account ∈ moduleAccounts, held.1 = account.address := by
    intro held member
    obtain ⟨account, inside, listed⟩ := List.mem_flatMap.mp member
    obtain ⟨coin, -, rfl⟩ := List.mem_map.mp listed
    exact ⟨account, inside, rfl⟩
  unfold handleModuleAccounts at ran
  -- The induction is on the coins, which are saved one after the other.
  generalize moduleCoins moduleAccounts = coins at ran addresses
  induction coins generalizing rows with
  | nil =>
    cases ran
    exact ⟨⟨prior, rfl⟩, fun _ _ => rfl⟩
  | cons held rest ih =>
    rw [List.foldlM_cons] at ran
    obtain ⟨next, first, ran⟩ := exceptBind_ok ran
    obtain ⟨account, inside, same⟩ := addresses held List.mem_cons_self
    obtain ⟨kept, others⟩ := saveModuleBalance_keeps prior (same ▸ dashless account inside) first
    obtain ⟨later, more⟩ := ih kept.prior ran fun other member =>
      addresses other (List.mem_cons_of_mem _ member)
    refine ⟨⟨later.prior, later.before.trans kept.before⟩, fun id apart => ?_⟩
    exact (more id apart).trans (others id (same ▸ apart account inside _))

/-- An update closes what is visible of the changed balances, and inserts them anew. -/
theorem updateBalances_eq (prior : PriorBalances height rows) {entries : List (String × Int)}
    (changed : entries ≠ []) :
    updateBalances entries height rows = closeWhere (fun balance => balance.id ∈
      (currentBalances height rows (entries.map Prod.fst)).keys) height rows ++
        insertedBalances entries height rows := by
  -- With changes there are records to insert, and the bulk insert is sent.
  have some : (entries.map Prod.fst).isEmpty = false := by
    rw [List.isEmpty_eq_false_iff]
    exact fun nothing => changed (List.map_eq_nil_iff.mp nothing)
  have inserted : (entries.map fun entry => balanceToSave height
      (currentBalances height rows (entries.map Prod.fst)) entry.1 entry.2).map (fun balance =>
        stamp height ⟨balance, none, Option.some ⟨height, none⟩⟩) =
      insertedBalances entries height rows := by
    rw [insertedBalances, cleanBalances_prior prior, List.map_map]
    rfl
  unfold updateBalances
  dsimp only
  rw [cleanBalances_prior prior, some, ← inserted]
  simp only [Bool.false_eq_true, if_false]
  congr 1
  split
  · -- Without current balances nothing is closed.
    rename_i none
    rw [← currentBalances, List.isEmpty_iff] at none
    rw [none]
    simp [closeWhere]
  · rfl

/-- The rows of an update belong to the block, and to balances that it changes. -/
theorem mem_insertedBalances {read : List Posting}
    (dashless : ∀ posting ∈ read, '-' ∉ posting.account.toList ∧ '-' ∉ posting.denom.toList)
    {row : Row BalanceProps}
    (member : row ∈ insertedBalances (readEntries read) height rows) :
    ∃ balance : BalanceProps, row = Row.fresh height balance ∧
      balance.lastUpdatedBlockId = height ∧
        balance.id = getBalanceId balance.accountId balance.denom ∧
          '-' ∉ balance.accountId.toList := by
  obtain ⟨entry, listed, rfl⟩ := List.mem_map.mp member
  obtain ⟨posting, inside, same⟩ := mem_readEntries_ids.mp (List.mem_map_of_mem listed)
  -- The id of an entry is split into the account and denomination of its postings.
  obtain ⟨account, denom⟩ := dashless posting inside
  have split := splitBalanceId_mapId account denom
  rw [same] at split
  refine ⟨_, rfl, rfl, ?_, ?_⟩
  · simp only [balanceToSave, split]
    exact same.symm
  · simp only [balanceToSave, split]
    exact account

/-- An update of the changes that were read moves every balance by the sum of its changes. -/
theorem updateBalances_keeps (prior : PriorBalances height rows) {read : List Posting}
    (dashless : ∀ posting ∈ read, '-' ∉ posting.account.toList ∧ '-' ∉ posting.denom.toList) :
    KeepsPast height rows (updateBalances (readEntries read) height rows) ∧
      ∀ account denom, '-' ∉ account.toList →
        amountAt height (updateBalances (readEntries read) height rows)
          (getBalanceId account denom) =
            amountAt height rows (getBalanceId account denom) + netOf read account denom := by
  refine ⟨?_, fun account denom plain => ?_⟩
  · by_cases changed : readEntries read = []
    · rw [changed]
      exact ⟨prior.mono (Nat.le_succ height), rfl⟩
    · refine ⟨(prior.mono (Nat.le_succ height)).left (fun row member => ?_) fun id => ?_, ?_⟩
      · rw [updateBalances_eq prior changed] at member
        rcases List.mem_append.mp member with inside | new
        · -- A stored version is kept as it is, or closed at this height.
          obtain ⟨old, stored, rfl⟩ := List.mem_map.mp inside
          split
          · exact Or.inr (Or.inl ⟨old, stored, rfl⟩)
          · exact Or.inl stored
        · exact Or.inr (Or.inr (mem_insertedBalances dashless new))
      · by_cases named : ∃ posting ∈ read, posting.mapId = id
        · obtain ⟨posting, inside, rfl⟩ := named
          rw [update_read prior dashless inside]
          exact Nat.le_refl 1
        · push Not at named
          rw [openVersions, update_unread prior named]
          exact prior.oneOpen id
      · -- Only versions of this height are added, so those before it are what they were.
        rw [updateBalances_eq prior changed, rowsBefore_append fun row member => ?_,
          rowsBefore_closeWhere (Nat.le_refl height)]
        obtain ⟨balance, rfl, -⟩ := mem_insertedBalances dashless member
        exact Nat.le_refl height
  · by_cases named : ∃ posting ∈ read, posting.mapId = getBalanceId account denom
    · obtain ⟨posting, inside, same⟩ := named
      obtain ⟨rfl, rfl⟩ := getBalanceId_inj (dashless posting inside).1 plain same
      exact amountAt_of_openVersions (update_read prior dashless inside)
    · -- What was not read keeps its version, and nothing is added to it.
      push Not at named
      have other := @netOf_unread read ⟨account, denom, 0⟩ named
      rw [amountAt, storeGet, openVersions, update_unread prior named]
      simp only at other
      rw [other, add_zero]
      rfl

end Settled

section Step

variable {decimal : String → Int} {block : BalanceBlock} {base kept after : List (Row BalanceProps)}

/-- Rows that failed attempts of a block have left: they belong to the block, which has changes. -/
structure Leftover (decimal : String → Int) (block : BalanceBlock)
    (kept : List (Row BalanceProps)) : Prop where
  own : ∀ row ∈ kept, row.data.lastUpdatedBlockId = block.height ∧
    row.blockRange = ⟨block.height, none⟩
  changed : readEntries (block.postings decimal) = [] → kept = []

/-- Before the first attempt nothing is left over. -/
theorem leftover_nil : Leftover decimal block [] :=
  ⟨fun _ member => (List.not_mem_nil member).elim, fun _ => rfl⟩

/-- The changes that are read name accounts and denominations without dashes. -/
theorem BalanceBlock.Addressed.postings (addressed : block.Addressed) :
    ∀ posting ∈ block.postings decimal,
      '-' ∉ posting.account.toList ∧ '-' ∉ posting.denom.toList := by
  intro posting member
  unfold BalanceBlock.postings at member
  cases ran : block.events.mapM (readPosting decimal) with
  | error message =>
    rw [ran] at member
    cases member
  | ok read =>
    rw [ran] at member
    obtain ⟨event, inside, one⟩ := mem_of_mapM_ok ran member
    obtain ⟨attr, listed, named, same, _, _, coins, parsed, coin, some, denom⟩ :=
      readPosting_ok one
    exact ⟨same ▸ addressed.events event inside attr listed named,
      denom ▸ parseCoins_dashless parsed some⟩

/-- What a failed attempt leaves is left over, beside what was left over before. -/
theorem FailedBalances.leftover {left : List (Row BalanceProps)}
    (attempt : FailedBalances decimal block (base ++ kept) left)
    (leftover : Leftover decimal block kept) :
    ∃ more, left = base ++ more ∧ Leftover decimal block more := by
  cases attempt with
  | early => exact ⟨kept, rfl, leftover⟩
  | inserting ran committed =>
    -- The rows of this attempt stand beside those of the attempts before.
    rename_i saved added
    refine ⟨kept ++ added, List.append_assoc .., fun row member => ?_, fun nothing => ?_⟩
    · rcases List.mem_append.mp member with old | new
      · exact leftover.own row old
      · obtain ⟨entry, -, rfl⟩ := List.mem_map.mp (committed.subset new)
        exact ⟨rfl, rfl⟩
    · rw [leftover.changed nothing, List.nil_append]
      rw [nothing] at committed
      exact List.sublist_nil.mp committed

/-- Left over rows do not hinder the block, and the next clean-up deletes them. -/
theorem Leftover.clean (prior : PriorBalances block.height base)
    (leftover : Leftover decimal block kept) :
    Cleanable block.height (base ++ kept) ∧
      cleanBalances block.height (base ++ kept) = cleanBalances block.height base := by
  refine ⟨⟨fun row member begins => ?_, fun row member visible => ?_⟩, ?_⟩
  · rcases List.mem_append.mp member with old | new
    · exact prior.cleanable.begun row old begins
    · exact (leftover.own row new).1
  · rcases List.mem_append.mp member with old | new
    · exact prior.cleanable.endless row old visible
    · rw [(leftover.own row new).2]
  · have gone : kept.filter (fun row => decide (row.data.lastUpdatedBlockId ≠ block.height)) = [] :=
      List.filter_eq_nil_iff.mpr fun row member => by simp [(leftover.own row member).1]
    rw [cleanBalances, List.filter_append, gone, List.append_nil, cleanBalances]

/-- Indexing a block moves the balances that are no module's by their changes, whatever its failed
attempts have left. -/
theorem BalanceBlock.index_keeps (prior : PriorBalances block.height base)
    (addressed : block.Addressed) (leftover : Leftover decimal block kept)
    (ran : block.index decimal (base ++ kept) = .ok after) :
    KeepsPast block.height base after ∧ ∀ account denom, '-' ∉ account.toList →
      (∀ other ∈ block.moduleAccounts, other.address ≠ account) →
      amountAt block.height after (getBalanceId account denom) =
        amountAt block.height base (getBalanceId account denom) +
          netOf (block.postings decimal) account denom := by
  obtain ⟨saved, modules, updated⟩ := exceptBind_ok ran
  obtain ⟨changes, counted, updated⟩ := exceptBind_ok updated
  obtain ⟨read, readings, counted⟩ := exceptBind_ok counted
  cases counted
  -- The changes that were read are the ones of the block.
  have same : block.postings decimal = read := by
    rw [BalanceBlock.postings, readings]
    rfl
  have result : updateBalances (readEntries read) block.height saved = after :=
    Except.ok.inj updated
  have dashless := same ▸ @BalanceBlock.Addressed.postings decimal block addressed
  by_cases changed : readEntries read = []
  · -- Without changes no attempt has left rows, and only the modules' balances are saved.
    rw [leftover.changed (same ▸ changed), List.append_nil] at modules
    rw [changed] at result
    have rows : saved = after := result
    subst rows
    obtain ⟨keeps, moved⟩ := handleModuleAccounts_keeps (prior.mono (Nat.le_succ _))
      addressed.modules modules
    refine ⟨keeps, fun account denom plain outside => ?_⟩
    have none : ∀ posting ∈ read, posting.mapId ≠ getBalanceId account denom := by
      intro posting member named
      have listed := mem_readEntries_ids.mpr ⟨posting, member, named⟩
      rw [changed] at listed
      cases listed
    have zero := @netOf_unread read ⟨account, denom, 0⟩ none
    simp only at zero
    have others := moved (getBalanceId account denom) fun other inside named otherNamed =>
      outside other inside (getBalanceId_inj (addressed.modules other inside) plain otherNamed).1
    rw [same, zero, add_zero, amountAt, storeGet, others]
    rfl
  · -- The update starts from the cleaned table, which is the one before all attempts.
    obtain ⟨cleanable, cleaned⟩ := leftover.clean prior
    have start := (handleModuleAccounts_clean cleanable modules).2.trans cleaned
    rw [updateBalances_congr changed start] at result
    rw [← result, same]
    obtain ⟨keeps, amounts⟩ := updateBalances_keeps prior dashless
    exact ⟨keeps, fun account denom plain _ => amounts account denom plain⟩

end Step

/-- What a run of blocks makes of a balance: the heights before it are untouched, and at every later
one there is one version at most, with the amount that all changes up to there come to. The next
blocks start from what it leaves. -/
structure FollowsRun (decimal : String → Int) (start : ℕ) (blocks : List BalanceBlock)
    (base after : List (Row BalanceProps)) (account denom : String) : Prop where
  past : ∀ height < start, shownAt height after = shownAt height base
  single : ∀ height, start ≤ height →
    (openVersions BalanceProps.id height (getBalanceId account denom) after).length ≤ 1
  amounts : ∀ height, start ≤ height → amountAt height after (getBalanceId account denom) =
    amountAt start base (getBalanceId account denom) +
      ((blocks.filter fun block => block.height ≤ height).map fun block =>
        netOf (block.postings decimal) account denom).sum
  settled : ∃ next, PriorBalances next after

section Run

variable {decimal : String → Int} {start height : ℕ} {block : BalanceBlock}
  {blocks rest : List BalanceBlock} {rows base kept middle after : List (Row BalanceProps)}
  {account denom id : String}

/-- How many versions of a balance are visible is seen from the records that are shown. -/
theorem length_openVersions (rows : List (Row BalanceProps)) :
    (openVersions BalanceProps.id height id rows).length =
      ((shownAt height rows).filter fun data => data.id = id).length := by
  unfold openVersions versionsOf shownAt
  rw [List.filter_map, List.length_map, List.filter_filter, List.filter_filter]
  congr 1
  apply List.filter_congr
  intro row _
  exact Bool.and_comm _ _

/-- A run that goes on after a block follows the changes of the block as well. -/
theorem FollowsRun.cons (prior : PriorBalances start base) (later : start ≤ block.height)
    (keeps : KeepsPast block.height base middle)
    (moved : amountAt block.height middle (getBalanceId account denom) =
      amountAt block.height base (getBalanceId account denom) +
        netOf (block.postings decimal) account denom)
    (follows : FollowsRun decimal (block.height + 1) rest middle after account denom)
    (beyond : ∀ other ∈ rest, block.height < other.height) :
    FollowsRun decimal start (block :: rest) base after account denom := by
  -- Neither the block nor those after it are seen before the block.
  have early : ∀ height < block.height, shownAt height after = shownAt height base :=
    fun height before => (follows.past height (Nat.lt_succ_of_lt before)).trans
      (shownAt_congr before keeps.before)
  have here := follows.past block.height (Nat.lt_succ_self _)
  -- The table before the run shows one amount from its start on.
  have visible : ∀ height, start ≤ height → amountAt height base (getBalanceId account denom) =
      amountAt start base (getBalanceId account denom) := by
    intro height bound
    rw [amountAt, storeGet, prior.openVersions_eq (Nat.le_succ_of_le bound) (Nat.le_succ start)]
    rfl
  refine ⟨fun height before => early height (Nat.lt_of_lt_of_le before later),
    fun height bound => ?_, fun height bound => ?_, follows.settled⟩
  · rcases Nat.lt_trichotomy height block.height with before | rfl | behind
    · rw [length_openVersions, early height before, ← length_openVersions,
        prior.openVersions_eq (Nat.le_succ_of_le bound) (Nat.le_succ start)]
      exact prior.oneOpen _
    · rw [length_openVersions, here, ← length_openVersions,
        keeps.prior.openVersions_eq (Nat.le_refl _) (Nat.le_succ _)]
      exact keeps.prior.oneOpen _
    · exact follows.single height behind
  · rcases Nat.lt_trichotomy height block.height with before | rfl | behind
    · -- No block of the run has been reached.
      have none : (block :: rest).filter (fun other => decide (other.height ≤ height)) = [] := by
        refine List.filter_eq_nil_iff.mpr fun other member => ?_
        rw [decide_eq_true_eq]
        rcases List.mem_cons.mp member with rfl | inside
        · omega
        · have far := beyond other inside
          omega
      rw [none, amountAt, storeGet_eq_shownAt, early height before, ← storeGet_eq_shownAt,
        ← amountAt, visible height bound]
      simp
    · have none : rest.filter (fun other => decide (other.height ≤ block.height)) = [] := by
        refine List.filter_eq_nil_iff.mpr fun other member => ?_
        have far := beyond other member
        rw [decide_eq_true_eq]
        omega
      rw [List.filter_cons_of_pos (by simp), none, amountAt, storeGet_eq_shownAt, here,
        ← storeGet_eq_shownAt, ← amountAt, moved, visible _ later]
      simp
    · -- The later blocks start from what the block has left.
      have settled : amountAt (block.height + 1) middle (getBalanceId account denom) =
          amountAt block.height middle (getBalanceId account denom) := by
        rw [amountAt, storeGet, keeps.prior.openVersions_eq (Nat.le_succ _) (Nat.le_refl _)]
        rfl
      have reached : block.height ≤ height := Nat.le_of_lt behind
      rw [follows.amounts height behind, settled, moved, visible _ later,
        List.filter_cons_of_pos (by simpa using reached), List.map_cons, List.sum_cons, add_assoc]

/-- Runs follow the changes of their blocks, whatever failed attempts have left before. -/
theorem BalanceRun.follows (run : BalanceRun decimal blocks rows after)
    (split : rows = base ++ kept) (prior : PriorBalances start base)
    (later : ∀ block ∈ blocks, start ≤ block.height)
    (increasing : (blocks.map BalanceBlock.height).Pairwise (· < ·))
    (leftover : ∀ block ∈ blocks.head?, Leftover decimal block kept)
    (finished : blocks = [] → kept = []) (addressed : ∀ block ∈ blocks, block.Addressed)
    (plain : '-' ∉ account.toList) (outside : ∀ block ∈ blocks,
      ∀ other ∈ block.moduleAccounts, other.address ≠ account) :
    FollowsRun decimal start blocks base after account denom := by
  induction run generalizing start base kept with
  | done rows =>
    rw [finished rfl, List.append_nil] at split
    subst split
    refine ⟨fun _ _ => rfl, fun height bound => ?_, fun height bound => ?_, start, prior⟩
    · rw [prior.openVersions_eq (Nat.le_succ_of_le bound) (Nat.le_succ start)]
      exact prior.oneOpen _
    · rw [amountAt, storeGet, prior.openVersions_eq (Nat.le_succ_of_le bound) (Nat.le_succ start)]
      exact (add_zero _).symm
  | failed attempt again ih =>
    -- A failed attempt leaves rows of the block only, which the next attempt deletes.
    subst split
    obtain ⟨more, rfl, left⟩ := attempt.leftover (leftover _ rfl)
    exact ih rfl prior later increasing (fun block first => Option.some.inj first ▸ left)
      (fun nothing => by cases nothing) addressed outside
  | indexed ran more ih =>
    rename_i block rest rows middle after
    subst split
    rw [List.map_cons, List.pairwise_cons] at increasing
    have bound := later block List.mem_cons_self
    obtain ⟨keeps, amounts⟩ := BalanceBlock.index_keeps (prior.mono bound)
      (addressed block List.mem_cons_self) (leftover _ rfl) ran
    have beyond : ∀ other ∈ rest, block.height < other.height := fun other member =>
      increasing.1 _ (List.mem_map_of_mem member)
    -- The next block starts from a table without left over rows.
    refine FollowsRun.cons prior bound keeps
      (amounts account denom plain (outside block List.mem_cons_self)) ?_ beyond
    exact ih (List.append_nil _).symm keeps.prior beyond increasing.2
      (fun _ _ => leftover_nil) (fun _ => rfl)
      (fun other member => addressed other (List.mem_cons_of_mem _ member))
      (fun other member => outside other (List.mem_cons_of_mem _ member))

end Run

/-- A block in which an account receives five coins. -/
def receiptBlock : BalanceBlock := ⟨7, [], [receives "pokt1a" [(5, "upokt")]]⟩

/-- Its balances are updated by these coins. -/
theorem receiptBlock_index (rows : List (Row BalanceProps)) :
    receiptBlock.index (fun _ => 0) rows =
      .ok (updateBalances (readEntries (receiptBlock.postings fun _ => 0)) 7 rows) := by
  have plain : List.Forall₂ PlainCoins receiptBlock.events [⟨"pokt1a", false, [(5, "upokt")]⟩] :=
    List.Forall₂.cons ⟨⟨5, "upokt", rfl, by decide⟩, [], [], rfl, by simp⟩ List.Forall₂.nil
  have readings := @mapM_readPosting_plain (fun _ => 0) _ _ plain
  have postings : receiptBlock.postings (fun _ => 0) =
      ledgerPostings [⟨"pokt1a", false, [(5, "upokt")]⟩] := by
    rw [BalanceBlock.postings, readings]
    rfl
  rw [postings]
  show indexBalances (fun _ => 0) receiptBlock.events 7 rows = _
  simp [indexBalances, getBalanceChanges, readings, bind, Except.bind, pure, Except.pure,
    readEntries]

end Pocketdex
