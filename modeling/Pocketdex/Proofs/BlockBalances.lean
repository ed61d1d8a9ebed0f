import Pocketdex.Primitives.Genesis
import Pocketdex.Proofs.BalanceLedger

/-! What a block stores before its coin events are applied, and what of it survives them. -/

namespace Pocketdex

/-- A balance has one visible version, and that version has the given amount. -/
def HoldsAmount (height : ℕ) (rows : List (Row BalanceProps)) (id : String) (amount : Int) : Prop :=
  ∃ row, openVersions BalanceProps.id height id rows = [row] ∧ row.data.amount = amount

/-- A balance is missing, or it has one visible version whose amount is zero. -/
def HoldsNothing (height : ℕ) (rows : List (Row BalanceProps)) (id : String) : Prop :=
  openVersions BalanceProps.id height id rows = [] ∨ HoldsAmount height rows id 0

/-- The stored balances of module accounts are those of the chain, and zero where it returns none. -/
structure MatchesChain (height : ℕ) (moduleAccounts : List ExtendedAccount)
    (rows : List (Row BalanceProps)) : Prop where
  returned : ∀ account ∈ moduleAccounts, ∀ coin ∈ account.balances, ∀ amount,
    bigInt coin.amount = .ok amount →
      HoldsAmount height rows (getBalanceId account.address coin.denom) amount
  vanished : ∀ account ∈ moduleAccounts, ∀ denom, (∀ coin ∈ account.balances, coin.denom ≠ denom) →
    HoldsNothing height rows (getBalanceId account.address denom)

/-- An event names a balance if it holds the account, and coins of the denomination. -/
def NamesBalance (decimal : String → Int) (event : CosmosEvent) (id : String) : Prop :=
  ∃ attr ∈ event.attributes, isAccountAttribute attr = true ∧
    ∃ listed ∈ event.attributes, ∃ coins, parseCoins decimal listed.value = .ok coins ∧
      ∃ coin ∈ coins, id = getBalanceId attr.value coin.denom

/-- Every balance of the genesis file that no event names is stored with the amount of the file. -/
def KeepsGenesis (decimal : String → Int) (height : ℕ) (genesis : Genesis)
    (events : List CosmosEvent) (rows : List (Row BalanceProps)) : Prop :=
  ∀ held ∈ genesis.coins, (∀ event ∈ events,
      ¬ NamesBalance decimal event (getBalanceId held.1 held.2.denom)) →
    ∀ amount, bigInt held.2.amount = .ok amount →
      HoldsAmount height rows (getBalanceId held.1 held.2.denom) amount

/-- The balances a block stores before its events are applied survive them. -/
structure BalancesSurvive (decimal : String → Int) (height : ℕ) (genesis : Genesis)
    (moduleAccounts : List ExtendedAccount) (events : List CosmosEvent)
    (rows : List (Row BalanceProps)) : Prop where
  chain : MatchesChain height moduleAccounts rows
  genesis : height = genesis.height → KeepsGenesis decimal height genesis events rows

/-- What the chain's answer and the genesis file promise about their coins. -/
structure ChainCoins (genesis : Genesis) (moduleAccounts : List ExtendedAccount) : Prop where
  amounts : ∀ held ∈ moduleCoins moduleAccounts, ∃ amount : ℕ, held.2.amount = toString amount
  addresses : (moduleAccounts.map ExtendedAccount.address).Nodup
  distinct : ((moduleCoins moduleAccounts).map fun held => getBalanceId held.1 held.2.denom).Nodup
  genesisDistinct : (genesis.coins.map fun held => getBalanceId held.1 held.2.denom).Nodup
  dashless : ∀ account ∈ moduleAccounts, '-' ∉ account.address.toList
  genesisDashless : ∀ held ∈ genesis.coins, '-' ∉ held.1.toList

/-- The coin events that reach the balances belong to accounts other than the module accounts. -/
structure OutsideModules (moduleAccounts : List ExtendedAccount) (events : List CosmosEvent) :
    Prop where
  apart : ∀ event ∈ events, ∀ attr ∈ event.attributes, isAccountAttribute attr = true →
    ∀ account ∈ moduleAccounts, attr.value ≠ account.address
  dashless : ∀ event ∈ events, ∀ attr ∈ event.attributes, isAccountAttribute attr = true →
    '-' ∉ attr.value.toList

/-- Without coin events: denominations that vanished, and genesis coins of module accounts. -/
structure QuietAgrees (height : ℕ) (genesis : Genesis) (moduleAccounts : List ExtendedAccount)
    (rows : List (Row BalanceProps)) : Prop where
  vanished : ∀ account ∈ moduleAccounts, ∀ denom, (∀ coin ∈ account.balances, coin.denom ≠ denom) →
    (height = genesis.height → ∀ held ∈ genesis.coins, held.1 = account.address →
      held.2.denom ≠ denom) →
    HoldsNothing height rows (getBalanceId account.address denom)
  returned : height = genesis.height → ∀ held ∈ genesis.coins, ∀ account ∈ moduleAccounts,
    held.1 = account.address → ∀ coin ∈ account.balances, coin.denom = held.2.denom →
      bigInt coin.amount = bigInt held.2.amount
  zero : height = genesis.height → ∀ held ∈ genesis.coins, ∀ account ∈ moduleAccounts,
    held.1 = account.address → (∀ coin ∈ account.balances, coin.denom ≠ held.2.denom) →
      bigInt held.2.amount = .ok 0

section Cleaning

variable {height : ℕ} {rows other : List (Row BalanceProps)}

/-- What a table written by earlier blocks and by this one fulfils, so that it can be cleaned. -/
structure Cleanable (height : ℕ) (rows : List (Row BalanceProps)) : Prop where
  begun : ∀ row ∈ rows, row.blockRange.lower = height → row.data.lastUpdatedBlockId = height
  endless : ∀ row ∈ rows, row.openAt height = true → row.blockRange.upper = none

/-- The table that earlier blocks leave can be cleaned. -/
theorem PriorBalances.cleanable (prior : PriorBalances height rows) : Cleanable height rows := by
  constructor
  · intro row member begins
    have earlier := prior.begun row member
    omega
  · intro row member visible
    cases ended : row.blockRange.upper with
    | none => rfl
    | some upper =>
      -- A version that ended earlier is no longer visible.
      have earlier := prior.ended row member upper ended
      simp only [Row.openAt, BlockRange.contains, ended, Option.all_some, Bool.and_eq_true,
        decide_eq_true_eq] at visible
      omega

/-- Saving a balance of this block keeps the table cleanable. -/
theorem Cleanable.save (cleanable : Cleanable height rows) {balance : BalanceProps}
    (current : balance.lastUpdatedBlockId = height) :
    Cleanable height (storeSave BalanceProps.id height balance rows) := by
  -- A row of the new table is an old one, an old one that was closed, or the saved one.
  have shape : ∀ row ∈ storeSave BalanceProps.id height balance rows,
      row ∈ rows ∨ (∃ old ∈ rows, row = old.close height) ∨ row = Row.fresh height balance := by
    intro row member
    rcases List.mem_append.mp member with inside | last
    · obtain ⟨old, kept, rfl⟩ := List.mem_map.mp inside
      have stored := (List.mem_filter.mp kept).1
      split
      · exact Or.inr (Or.inl ⟨old, stored, rfl⟩)
      · exact Or.inl stored
    · exact Or.inr (Or.inr (List.mem_singleton.mp last))
  constructor
  · intro row member begins
    rcases shape row member with stored | ⟨old, stored, rfl⟩ | rfl
    · exact cleanable.begun row stored begins
    · exact cleanable.begun old stored begins
    · exact current
  · intro row member visible
    rcases shape row member with stored | ⟨old, stored, rfl⟩ | rfl
    · exact cleanable.endless row stored visible
    · rw [Row.close_openAt] at visible
      exact absurd visible (by decide)
    · rfl

/-- The clean-up takes back what saving a balance of this block did. -/
theorem cleanBalances_storeSave (cleanable : Cleanable height rows) {balance : BalanceProps}
    (current : balance.lastUpdatedBlockId = height) :
    cleanBalances height (storeSave BalanceProps.id height balance rows) =
      cleanBalances height rows := by
  have saved : [Row.fresh height balance].filter
      (fun row => decide (row.data.lastUpdatedBlockId ≠ height)) = [] := by
    simp [current]
  rw [cleanBalances, storeSave, List.filter_append, saved, List.append_nil]
  clear saved
  unfold closeWhere cleanBalances
  induction rows with
  | nil => rfl
  | cons row rest ih =>
    have later := ih ⟨fun other member => cleanable.begun other (List.mem_cons_of_mem _ member),
      fun other member => cleanable.endless other (List.mem_cons_of_mem _ member)⟩
    have begun := cleanable.begun row List.mem_cons_self
    have endless := cleanable.endless row List.mem_cons_self
    by_cases mine : row.data.lastUpdatedBlockId = height
    · -- A row of this block is deleted, whether or not saving removed or closed it before.
      rw [List.filter_cons]
      split
      · rw [List.map_cons, List.filter_cons_of_neg, later, List.filter_cons_of_neg]
        · simp [mine]
        · split <;> simp [mine]
      · rw [later, List.filter_cons_of_neg (by simp [mine])]
    · -- A row of an earlier block began before this one, so saving does not remove it.
      have older : row.blockRange.lower ≠ height := fun begins => mine (begun begins)
      rw [List.filter_cons_of_pos (by simp [older]), List.map_cons, List.filter_cons_of_pos,
        List.map_cons, later, List.filter_cons_of_pos (by simp [mine]), List.map_cons]
      · congr 1
        split
        · -- A version that saving closed had no end, so reopening gives it back.
          rename_i closes
          have open_ := (Bool.and_eq_true _ _ ▸ closes).2
          have ends := endless open_
          rw [if_pos (by rfl), Row.reopen_close ends, if_neg (by simp [ends])]
        · rfl
      · split <;> simp [mine]

/-- A module's balance is saved by a write of this block, or left as it is. -/
theorem saveModuleBalance_clean {held : String × Coin} (cleanable : Cleanable height rows)
    (ran : saveModuleBalance height rows held = .ok other) :
    Cleanable height other ∧ cleanBalances height other = cleanBalances height rows := by
  obtain ⟨address, coin⟩ := held
  unfold saveModuleBalance at ran
  dsimp only at ran
  split at ran
  · obtain ⟨balance, created, ran⟩ := exceptBind_ok ran
    obtain ⟨amount, _, created⟩ := exceptBind_ok created
    cases created
    cases ran
    exact ⟨cleanable.save rfl, cleanBalances_storeSave cleanable rfl⟩
  · split at ran
    · obtain ⟨amount, _, ran⟩ := exceptBind_ok ran
      cases ran
      exact ⟨cleanable.save rfl, cleanBalances_storeSave cleanable rfl⟩
    · cases ran
      exact ⟨cleanable, rfl⟩

/-- The clean-up takes back all module balances of this block. -/
theorem handleModuleAccounts_clean {moduleAccounts : List ExtendedAccount}
    (cleanable : Cleanable height rows)
    (ran : handleModuleAccounts height moduleAccounts rows = .ok other) :
    Cleanable height other ∧ cleanBalances height other = cleanBalances height rows := by
  unfold handleModuleAccounts at ran
  generalize moduleCoins moduleAccounts = coins at ran
  induction coins generalizing rows with
  | nil =>
    cases ran
    exact ⟨cleanable, rfl⟩
  | cons held rest ih =>
    rw [List.foldlM_cons] at ran
    obtain ⟨next, first, ran⟩ := exceptBind_ok ran
    obtain ⟨kept, same⟩ := saveModuleBalance_clean cleanable first
    obtain ⟨later, equal⟩ := ih kept ran
    exact ⟨later, equal.trans same⟩

/-- The clean-up takes back all groups of balances saved by this block. -/
theorem saveBalances_clean {groups : List (List BalanceProps)} (cleanable : Cleanable height rows)
    (current : ∀ records ∈ groups, ∀ balance ∈ records, balance.lastUpdatedBlockId = height) :
    Cleanable height (saveBalances height groups rows) ∧
      cleanBalances height (saveBalances height groups rows) = cleanBalances height rows := by
  -- One group is a sequence of saves.
  have group : ∀ (records : List BalanceProps) (rows : List (Row BalanceProps)),
      Cleanable height rows → (∀ balance ∈ records, balance.lastUpdatedBlockId = height) →
      Cleanable height (storeBulkCreate BalanceProps.id height records rows) ∧
        cleanBalances height (storeBulkCreate BalanceProps.id height records rows) =
          cleanBalances height rows := by
    intro records
    induction records with
    | nil => exact fun rows cleanable _ => ⟨cleanable, rfl⟩
    | cons balance rest ih =>
      intro rows cleanable current
      have first := current balance List.mem_cons_self
      obtain ⟨later, equal⟩ := ih _ (cleanable.save first)
        fun other member => current other (List.mem_cons_of_mem _ member)
      exact ⟨later, equal.trans (cleanBalances_storeSave cleanable first)⟩
  induction groups generalizing rows with
  | nil => exact ⟨cleanable, rfl⟩
  | cons records rest ih =>
    obtain ⟨kept, same⟩ := group records rows cleanable (current records List.mem_cons_self)
    obtain ⟨later, equal⟩ := ih kept
      fun others member => current others (List.mem_cons_of_mem _ member)
    exact ⟨later, equal.trans same⟩

/-- An update with changes sees nothing but the cleaned table. -/
theorem updateBalances_congr {entries : List (String × Int)} (changed : entries ≠ [])
    (same : cleanBalances height rows = cleanBalances height other) :
    updateBalances entries height rows = updateBalances entries height other := by
  have some : (entries.map Prod.fst).isEmpty = false := by
    rw [List.isEmpty_eq_false_iff]
    exact fun nothing => changed (List.map_eq_nil_iff.mp nothing)
  simp only [updateBalances, some, Bool.false_eq_true, if_false, same]

end Cleaning

section Quiet

variable {height : ℕ} {rows after : List (Row BalanceProps)} {id : String}

/-- A balance that is visible with an amount is visible with that amount only. -/
theorem HoldsAmount.unique {first second : Int} (one : HoldsAmount height rows id first)
    (two : HoldsAmount height rows id second) : first = second := by
  obtain ⟨row, visible, rfl⟩ := one
  obtain ⟨other, same, rfl⟩ := two
  rw [visible, List.singleton_inj] at same
  rw [same]

/-- A balance that holds nothing and holds an amount holds zero. -/
theorem HoldsNothing.zero {amount : Int} (nothing : HoldsNothing height rows id)
    (holds : HoldsAmount height rows id amount) : amount = 0 := by
  rcases nothing with missing | zero
  · obtain ⟨row, visible, _⟩ := holds
    rw [missing] at visible
    simp at visible
  · exact holds.unique zero

/-- A saved balance is held with its amount. -/
theorem holdsAmount_storeSave (balance : BalanceProps) (rows : List (Row BalanceProps)) :
    HoldsAmount height (storeSave BalanceProps.id height balance rows) balance.id balance.amount :=
  ⟨_, openVersions_storeSave_self height balance rows, rfl⟩

/-- What a balance holds depends on its visible versions only. -/
theorem holdsAmount_congr {amount : Int} (same : openVersions BalanceProps.id height id after =
    openVersions BalanceProps.id height id rows) :
    HoldsAmount height after id amount ↔ HoldsAmount height rows id amount := by
  rw [HoldsAmount, HoldsAmount, same]

/-- Whether a balance holds nothing depends on its visible versions only. -/
theorem holdsNothing_congr (same : openVersions BalanceProps.id height id after =
    openVersions BalanceProps.id height id rows) :
    HoldsNothing height after id ↔ HoldsNothing height rows id := by
  rw [HoldsNothing, HoldsNothing, same, holdsAmount_congr same]

/-- A stored record found under an id has that id. -/
theorem storeGet_id {balance : BalanceProps}
    (found : storeGet BalanceProps.id height id rows = some balance) : balance.id = id := by
  obtain ⟨row, first, rfl⟩ := Option.map_eq_some_iff.mp found
  exact (mem_openVersions.mp (List.mem_of_mem_head? first)).2.1

/-- An amount whose text is that of a number is that number. -/
theorem eq_of_toString_eq {stored : Int} {amount : ℕ} (same : toString stored = toString amount) :
    stored = amount := by
  cases stored with
  | ofNat number =>
    have spelled : toString number = toString amount := same
    rw [toString_inj (congrArg String.toList spelled)]
    rfl
  | negSucc number =>
    -- A negative number is spelled with a dash.
    have spelled : "-" ++ toString (number + 1) = toString amount := same
    have dash : '-' ∈ (toString amount).toList := by
      rw [← spelled, String.toList_append]
      exact List.mem_append_left _ (by decide)
    exact absurd dash (dash_not_mem_toString amount)

/-- After a module's coin is handled its balance holds the amount, and others are as before. -/
theorem saveModuleBalance_spec {held : String × Coin} {amount : ℕ}
    (spelled : held.2.amount = toString amount)
    (oneOpen : ∀ id, (openVersions BalanceProps.id height id rows).length ≤ 1)
    (ran : saveModuleBalance height rows held = .ok after) :
    HoldsAmount height after (getBalanceId held.1 held.2.denom) amount ∧
      ∀ id, getBalanceId held.1 held.2.denom ≠ id →
        openVersions BalanceProps.id height id after =
          openVersions BalanceProps.id height id rows := by
  obtain ⟨address, coin⟩ := held
  simp only at spelled
  have value : bigInt coin.amount = .ok (amount : Int) := by rw [spelled, bigInt_toString]
  unfold saveModuleBalance coinBalance at ran
  dsimp only at ran
  split at ran
  · -- A missing balance is created.
    rw [value] at ran
    cases ran
    exact ⟨holdsAmount_storeSave _ _, fun id other => openVersions_storeSave_ne other⟩
  · rename_i prevBalance found
    have named := storeGet_id found
    split at ran
    · -- A balance with another amount is saved with the new one.
      rw [value] at ran
      cases ran
      refine ⟨?_, fun id other => openVersions_storeSave_ne (by simpa [named] using other)⟩
      have holds := @holdsAmount_storeSave height
        { prevBalance with amount := (amount : Int), lastUpdatedBlockId := height } rows
      simpa only [named] using holds
    · rename_i same
      cases ran
      rw [ne_eq, not_not, spelled] at same
      refine ⟨?_, fun _ _ => rfl⟩
      -- The balance is visible once, and its amount is the one the chain returns.
      obtain ⟨row, first, rfl⟩ := Option.map_eq_some_iff.mp found
      have visible := eq_singleton_of_mem (oneOpen (getBalanceId address coin.denom))
        (List.mem_of_head? first)
      exact ⟨row, visible, eq_of_toString_eq same⟩

/-- After all modules' coins are handled each balance holds its amount, and others are as before. -/
theorem saveModuleBalances_spec {coins : List (String × Coin)}
    (amounts : ∀ held ∈ coins, ∃ amount : ℕ, held.2.amount = toString amount)
    (distinct : (coins.map fun held => getBalanceId held.1 held.2.denom).Nodup)
    (oneOpen : ∀ id, (openVersions BalanceProps.id height id rows).length ≤ 1)
    (ran : coins.foldlM (saveModuleBalance height) rows = .ok after) :
    (∀ held ∈ coins, ∀ amount, bigInt held.2.amount = .ok amount →
      HoldsAmount height after (getBalanceId held.1 held.2.denom) amount) ∧
      ∀ id, (∀ held ∈ coins, getBalanceId held.1 held.2.denom ≠ id) →
        openVersions BalanceProps.id height id after =
          openVersions BalanceProps.id height id rows := by
  induction coins generalizing rows with
  | nil =>
    cases ran
    exact ⟨fun held member => absurd member List.not_mem_nil, fun _ _ => rfl⟩
  | cons held rest ih =>
    rw [List.map_cons, List.nodup_cons] at distinct
    rw [List.foldlM_cons] at ran
    obtain ⟨next, first, ran⟩ := exceptBind_ok ran
    obtain ⟨amount, spelled⟩ := amounts held List.mem_cons_self
    obtain ⟨holds, others⟩ := saveModuleBalance_spec spelled oneOpen first
    -- The saved balance is visible once, and the others are visible as often as before.
    have nextOpen : ∀ id, (openVersions BalanceProps.id height id next).length ≤ 1 := by
      intro id
      by_cases same : getBalanceId held.1 held.2.denom = id
      · obtain ⟨row, visible, _⟩ := holds
        rw [← same, visible]
        exact Nat.le_refl _
      · rw [others id same]
        exact oneOpen id
    obtain ⟨later, kept⟩ := ih (fun other member => amounts other (List.mem_cons_of_mem _ member))
      distinct.2 nextOpen ran
    refine ⟨?_, ?_⟩
    · intro other member value parsed
      rcases List.mem_cons.mp member with rfl | inside
      · -- No later coin belongs to the same balance.
        have untouched := kept _ fun later inside same =>
          distinct.1 (List.mem_map.mpr ⟨later, inside, same⟩)
        rw [spelled, bigInt_toString] at parsed
        cases parsed
        exact (holdsAmount_congr untouched).mpr holds
      · exact later other inside value parsed
    · -- What no coin names is left as it was by every save.
      intro id absent
      rw [kept id fun other member => absent other (List.mem_cons_of_mem _ member)]
      exact others id (absent held List.mem_cons_self)

/-- Saving groups of records is saving all their records in order. -/
theorem saveBalances_eq (groups : List (List BalanceProps)) (rows : List (Row BalanceProps)) :
    saveBalances height groups rows = storeBulkCreate BalanceProps.id height groups.flatten rows := by
  rw [saveBalances, storeBulkCreate, List.foldl_flatten]
  rfl

/-- Where all saved records of a balance agree on its amount, it holds that amount afterwards. -/
theorem holdsAmount_storeBulkCreate {records : List BalanceProps} {amount : Int}
    (agree : ∀ balance ∈ records, balance.id = id → balance.amount = amount)
    (held : HoldsAmount height rows id amount ∨ ∃ balance ∈ records, balance.id = id) :
    HoldsAmount height (storeBulkCreate BalanceProps.id height records rows) id amount := by
  induction records generalizing rows with
  | nil => simpa [storeBulkCreate] using held
  | cons balance rest ih =>
    have later := fun other member => agree other (List.mem_cons_of_mem _ member)
    rw [storeBulkCreate, List.foldl_cons]
    refine ih later ?_
    by_cases same : balance.id = id
    · left
      have saved := @holdsAmount_storeSave height balance rows
      rwa [same, agree balance List.mem_cons_self same] at saved
    · rcases held with before | ⟨other, member, named⟩
      · exact Or.inl ((holdsAmount_congr (openVersions_storeSave_ne same)).mpr before)
      · rcases List.mem_cons.mp member with rfl | inside
        · exact absurd named same
        · exact Or.inr ⟨other, inside, named⟩

/-- A coin's balance carries its account, its denomination and the amount its text stands for. -/
theorem coinBalance_ok {address : String} {coin : Coin} {balance : BalanceProps} :
    coinBalance height address coin = .ok balance ↔ ∃ amount, bigInt coin.amount = .ok amount ∧
      balance = ⟨getBalanceId address coin.denom, address, coin.denom, amount, height⟩ := by
  unfold coinBalance
  constructor
  · intro ran
    obtain ⟨amount, parsed, ran⟩ := exceptBind_ok ran
    cases ran
    exact ⟨amount, parsed, rfl⟩
  · rintro ⟨amount, parsed, rfl⟩
    rw [parsed]
    rfl

/-- At the genesis block the module coins and the coins of the file are saved, else nothing is. -/
theorem handleGenesis_records {genesis : Genesis} {moduleAccounts : List ExtendedAccount}
    {task : Task (List BalanceProps)} {groups : List (List BalanceProps)}
    (built : handleGenesis genesis height moduleAccounts = .ok task) (run : Trace task groups)
    {balance : BalanceProps} :
    balance ∈ groups.flatten ↔ height = genesis.height ∧
      ∃ held, (held ∈ moduleCoins moduleAccounts ∨ held ∈ genesis.coins) ∧
        coinBalance height held.1 held.2 = .ok balance := by
  unfold handleGenesis at built
  split at built
  · rename_i other
    cases built
    cases run
    simp [other]
  · rename_i same
    rw [ne_eq, not_not] at same
    obtain ⟨moduleBalances, modules, built⟩ := exceptBind_ok built
    obtain ⟨genesisBalances, file, built⟩ := exceptBind_ok built
    cases built
    -- Both groups are saved, in one order or the other.
    have listed : balance ∈ groups.flatten ↔
        balance ∈ moduleBalances ∨ balance ∈ genesisBalances := by
      rw [(run.perm.flatten).mem_iff]
      simp [Task.actions]
    rw [listed]
    constructor
    · rintro (inside | inside)
      · obtain ⟨held, member, ran⟩ := mem_of_mapM_ok modules inside
        exact ⟨same, held, Or.inl member, ran⟩
      · obtain ⟨held, member, ran⟩ := mem_of_mapM_ok file inside
        exact ⟨same, held, Or.inr member, ran⟩
    · rintro ⟨_, held, member | member, ran⟩
      · obtain ⟨other, inside, found⟩ := exists_of_mapM_ok modules member
        have equal := ran.symm.trans found
        cases equal
        exact Or.inl inside
      · obtain ⟨other, inside, found⟩ := exists_of_mapM_ok file member
        have equal := ran.symm.trans found
        cases equal
        exact Or.inr inside

end Quiet

/-- A module coin is one of the coins of a module account. -/
theorem mem_moduleCoins {moduleAccounts : List ExtendedAccount} {held : String × Coin} :
    held ∈ moduleCoins moduleAccounts ↔
      ∃ account ∈ moduleAccounts, held.2 ∈ account.balances ∧ held.1 = account.address := by
  rw [moduleCoins, List.mem_flatMap]
  constructor
  · rintro ⟨account, member, listed⟩
    obtain ⟨coin, inside, rfl⟩ := List.mem_map.mp listed
    exact ⟨account, member, inside, rfl⟩
  · rintro ⟨account, member, inside, same⟩
    exact ⟨account, member, List.mem_map.mpr ⟨held.2, inside, by rw [← same]⟩⟩

section Block

variable {decimal : String → Int} {height : ℕ} {genesis : Genesis}
variable {moduleAccounts : List ExtendedAccount} {events : List CosmosEvent}
variable {rows saved after : List (Row BalanceProps)}
variable {task : Task (List BalanceProps)} {groups : List (List BalanceProps)}

/-- The coins a block saves without regard to events. -/
def SavesCoin (height : ℕ) (genesis : Genesis) (moduleAccounts : List ExtendedAccount)
    (held : String × Coin) : Prop :=
  held ∈ moduleCoins moduleAccounts ∨ (height = genesis.height ∧ held ∈ genesis.coins)

/-- A module coin with the id of an account's balance is a coin of that account. -/
theorem ChainCoins.located (coins : ChainCoins genesis moduleAccounts) {account : ExtendedAccount}
    (member : account ∈ moduleAccounts) {held : String × Coin}
    (listed : held ∈ moduleCoins moduleAccounts) {denom : String}
    (same : getBalanceId held.1 held.2.denom = getBalanceId account.address denom) :
    held.2 ∈ account.balances ∧ held.2.denom = denom := by
  obtain ⟨other, inside, coin, named⟩ := mem_moduleCoins.mp listed
  have names := getBalanceId_inj (named ▸ coins.dashless other inside)
    (coins.dashless account member) same
  -- Accounts with one address are one account.
  have equal : other = account :=
    List.inj_on_of_nodup_map coins.addresses inside member (named.symm.trans names.1)
  exact ⟨equal ▸ coin, names.2⟩

/-- Where the saved coins of a balance agree on its amount, it holds that amount afterwards. -/
theorem holdsAmount_saved (prior : PriorBalances height rows)
    (coins : ChainCoins genesis moduleAccounts)
    (built : handleGenesis genesis height moduleAccounts = .ok task) (run : Trace task groups)
    (modules : handleModuleAccounts height moduleAccounts rows = .ok saved)
    {held : String × Coin} (listed : SavesCoin height genesis moduleAccounts held) {amount : Int}
    (agree : ∀ other, SavesCoin height genesis moduleAccounts other →
      getBalanceId other.1 other.2.denom = getBalanceId held.1 held.2.denom →
        bigInt other.2.amount = .ok amount) :
    HoldsAmount height (saveBalances height groups saved) (getBalanceId held.1 held.2.denom)
      amount := by
  rw [saveBalances_eq]
  apply holdsAmount_storeBulkCreate
  · intro balance member named
    obtain ⟨atGenesis, other, source, created⟩ := (handleGenesis_records built run).mp member
    obtain ⟨value, parsed, rfl⟩ := coinBalance_ok.mp created
    have equal := agree other (source.imp id fun inside => ⟨atGenesis, inside⟩) named
    rw [parsed] at equal
    cases equal
    rfl
  · have parsed := agree held listed rfl
    rcases listed with inside | ⟨atGenesis, inside⟩
    · -- A module coin was saved before the genesis block's groups.
      exact Or.inl ((saveModuleBalances_spec coins.amounts coins.distinct prior.oneOpen modules).1
        held inside amount parsed)
    · exact Or.inr ⟨_, (handleGenesis_records built run).mpr
        ⟨atGenesis, held, Or.inr inside, coinBalance_ok.mpr ⟨amount, parsed, rfl⟩⟩, rfl⟩

/-- Saving leaves the balances without a saved coin alone. -/
theorem openVersions_saved (prior : PriorBalances height rows)
    (coins : ChainCoins genesis moduleAccounts)
    (built : handleGenesis genesis height moduleAccounts = .ok task) (run : Trace task groups)
    (modules : handleModuleAccounts height moduleAccounts rows = .ok saved) {id : String}
    (absent : ∀ held, SavesCoin height genesis moduleAccounts held →
      getBalanceId held.1 held.2.denom ≠ id) :
    openVersions BalanceProps.id height id (saveBalances height groups saved) =
      openVersions BalanceProps.id height id rows := by
  have records : ∀ balance ∈ groups.flatten, balance.id ≠ id := by
    intro balance member
    obtain ⟨atGenesis, held, source, created⟩ := (handleGenesis_records built run).mp member
    obtain ⟨_, _, rfl⟩ := coinBalance_ok.mp created
    exact absent held (source.imp (fun inside => inside) fun inside => ⟨atGenesis, inside⟩)
  rw [saveBalances_eq, openVersions_storeBulkCreate_other records]
  exact (saveModuleBalances_spec coins.amounts coins.distinct prior.oneOpen modules).2 id
    fun held member => absent held (Or.inl member)

/-- Every coin of the genesis file has an amount, since the genesis block was saved. -/
theorem handleGenesis_parsed (built : handleGenesis genesis height moduleAccounts = .ok task)
    (atGenesis : height = genesis.height) {held : String × Coin} (member : held ∈ genesis.coins) :
    ∃ amount, bigInt held.2.amount = .ok amount := by
  unfold handleGenesis at built
  rw [if_neg (by simp [atGenesis])] at built
  obtain ⟨_, _, built⟩ := exceptBind_ok built
  obtain ⟨_, file, _⟩ := exceptBind_ok built
  obtain ⟨balance, _, created⟩ := exists_of_mapM_ok file member
  obtain ⟨amount, parsed, _⟩ := coinBalance_ok.mp created
  exact ⟨amount, parsed⟩

/-- Without events the saved balances stand just when file and chain agree, and nothing vanished. -/
theorem survive_quiet_iff (prior : PriorBalances height rows)
    (coins : ChainCoins genesis moduleAccounts)
    (built : handleGenesis genesis height moduleAccounts = .ok task) (run : Trace task groups)
    (modules : handleModuleAccounts height moduleAccounts rows = .ok saved) :
    BalancesSurvive decimal height genesis moduleAccounts [] (saveBalances height groups saved) ↔
      QuietAgrees height genesis moduleAccounts rows := by
  have unnamed : ∀ id, ∀ event ∈ ([] : List CosmosEvent), ¬ NamesBalance decimal event id :=
    fun _ event member => absurd member List.not_mem_nil
  constructor
  · intro survive
    refine ⟨?_, ?_, ?_⟩
    · intro account member denom missing unlisted
      -- No coin of this balance was saved, so it holds what it held before.
      have absent : ∀ held, SavesCoin height genesis moduleAccounts held →
          getBalanceId held.1 held.2.denom ≠ getBalanceId account.address denom := by
        rintro held (inside | ⟨atGenesis, inside⟩) same
        · have found := coins.located member inside same
          exact missing held.2 found.1 found.2
        · have names := getBalanceId_inj (coins.genesisDashless held inside)
            (coins.dashless account member) same
          exact unlisted atGenesis held inside names.1 names.2
      exact (holdsNothing_congr (openVersions_saved prior coins built run modules absent)).mp
        (survive.chain.vanished account member denom missing)
    · -- A coin that both have holds one amount, so that the two are the same.
      intro atGenesis held inside account member address coin some denom
      obtain ⟨amount, spelled⟩ := coins.amounts (account.address, coin)
        (mem_moduleCoins.mpr ⟨account, member, some, rfl⟩)
      have onChain : bigInt coin.amount = .ok (amount : Int) := by
        rw [show coin.amount = _ from spelled, bigInt_toString]
      obtain ⟨value, inFile⟩ := handleGenesis_parsed built atGenesis inside
      have one := survive.chain.returned account member coin some amount onChain
      have two := survive.genesis atGenesis held inside (unnamed _) value inFile
      rw [← address, denom] at one
      rw [onChain, inFile, one.unique two]
    · intro atGenesis held inside account member address missing
      obtain ⟨value, inFile⟩ := handleGenesis_parsed built atGenesis inside
      have nothing := survive.chain.vanished account member held.2.denom missing
      have holds := survive.genesis atGenesis held inside (unnamed _) value inFile
      rw [← address] at nothing
      rw [inFile, nothing.zero holds]
  · intro quiet
    -- A genesis coin holds its amount, since the chain has the same or nothing.
    have file : height = genesis.height → ∀ held ∈ genesis.coins, ∀ amount,
        bigInt held.2.amount = .ok amount → HoldsAmount height (saveBalances height groups saved)
          (getBalanceId held.1 held.2.denom) amount := by
      intro atGenesis held inside amount parsed
      refine holdsAmount_saved prior coins built run modules (Or.inr ⟨atGenesis, inside⟩) ?_
      rintro other (listed | ⟨_, listed⟩) same
      · obtain ⟨account, member, coin, named⟩ := mem_moduleCoins.mp listed
        have names := getBalanceId_inj (named ▸ coins.dashless account member)
          (coins.genesisDashless held inside) same
        rw [quiet.returned atGenesis held inside account member (names.1 ▸ named) other.2 coin
          names.2, parsed]
      · rw [List.inj_on_of_nodup_map coins.genesisDistinct listed inside same, parsed]
    refine ⟨⟨?_, ?_⟩, fun atGenesis held inside _ => file atGenesis held inside⟩
    · -- A returned coin holds its amount, whichever is saved last, since the file has the same.
      intro account member coin some amount parsed
      have listed := mem_moduleCoins.mpr
        ⟨account, member, (show (account.address, coin).2 ∈ account.balances from some), rfl⟩
      refine holdsAmount_saved prior coins built run modules (Or.inl listed) ?_
      rintro other (inside | ⟨atGenesis, inside⟩) same
      · rw [List.inj_on_of_nodup_map coins.distinct inside listed same, parsed]
      · have names := getBalanceId_inj (coins.genesisDashless other inside)
          (coins.dashless account member) same
        rw [← quiet.returned atGenesis other inside account member names.1 coin some names.2.symm,
          parsed]
    · intro account member denom missing
      by_cases listed : height = genesis.height ∧ ∃ held ∈ genesis.coins,
          held.1 = account.address ∧ held.2.denom = denom
      · -- The file has the denomination, with no coins of it.
        obtain ⟨atGenesis, held, inside, address, rfl⟩ := listed
        have zero := quiet.zero atGenesis held inside account member address missing
        exact Or.inr (address ▸ file atGenesis held inside 0 zero)
      · have unlisted : height = genesis.height → ∀ held ∈ genesis.coins,
            held.1 = account.address → held.2.denom ≠ denom :=
          fun atGenesis held inside address same =>
            listed ⟨atGenesis, held, inside, address, same⟩
        have absent : ∀ held, SavesCoin height genesis moduleAccounts held →
            getBalanceId held.1 held.2.denom ≠ getBalanceId account.address denom := by
          rintro held (inside | ⟨atGenesis, inside⟩) same
          · have found := coins.located member inside same
            exact missing held.2 found.1 found.2
          · have names := getBalanceId_inj (coins.genesisDashless held inside)
              (coins.dashless account member) same
            exact unlisted atGenesis held inside names.1 names.2
        exact (holdsNothing_congr (openVersions_saved prior coins built run modules absent)).mpr
          (quiet.vanished account member denom missing unlisted)

/-- A balance that was read is one that an event names. -/
theorem readPosting_names {event : CosmosEvent} {posting : Posting}
    (ran : readPosting decimal event = .ok posting) : NamesBalance decimal event posting.mapId := by
  obtain ⟨attr, member, named, account, listed, inside, coins, parsed, coin, some, denom⟩ :=
    readPosting_ok ran
  exact ⟨attr, member, named, listed, inside, coins, parsed, coin, some,
    by rw [Posting.mapId, ← account, ← denom]⟩

/-- What an update does not touch holds what it held, so the survival is that of the table before. -/
theorem survive_update_iff (prior : PriorBalances height rows)
    (coins : ChainCoins genesis moduleAccounts) (outside : OutsideModules moduleAccounts events)
    {read : List Posting} (ran : events.mapM (readPosting decimal) = .ok read) :
    BalancesSurvive decimal height genesis moduleAccounts events
        (updateBalances (readEntries read) height rows) ↔
      BalancesSurvive decimal height genesis moduleAccounts events rows := by
  have untouched : ∀ id, (∀ posting ∈ read, posting.mapId ≠ id) →
      openVersions BalanceProps.id height id (updateBalances (readEntries read) height rows) =
        openVersions BalanceProps.id height id rows := by
    intro id unread
    rw [openVersions, update_unread prior unread, openVersions]
  -- The events' accounts are not module accounts.
  have modules : ∀ account ∈ moduleAccounts, ∀ denom,
      openVersions BalanceProps.id height (getBalanceId account.address denom)
          (updateBalances (readEntries read) height rows) =
        openVersions BalanceProps.id height (getBalanceId account.address denom) rows := by
    intro account member denom
    apply untouched
    intro posting inside same
    obtain ⟨event, listed, one⟩ := mem_of_mapM_ok ran inside
    obtain ⟨attr, held, named, value, _⟩ := readPosting_ok one
    have names := getBalanceId_inj (value ▸ outside.dashless event listed attr held named)
      (coins.dashless account member) same
    exact outside.apart event listed attr held named account member (value.trans names.1)
  -- Balances of the file are untouched where no event names them.
  have file : ∀ id, (∀ event ∈ events, ¬ NamesBalance decimal event id) →
      openVersions BalanceProps.id height id (updateBalances (readEntries read) height rows) =
        openVersions BalanceProps.id height id rows := by
    intro id unnamed
    apply untouched
    intro posting inside same
    obtain ⟨event, listed, one⟩ := mem_of_mapM_ok ran inside
    exact unnamed event listed (same ▸ readPosting_names one)
  constructor
  · intro survive
    refine ⟨⟨?_, ?_⟩, ?_⟩
    · intro account member coin some amount parsed
      exact (holdsAmount_congr (modules account member _)).mp
        (survive.chain.returned account member coin some amount parsed)
    · intro account member denom missing
      exact (holdsNothing_congr (modules account member _)).mp
        (survive.chain.vanished account member denom missing)
    · intro atGenesis held inside unnamed amount parsed
      exact (holdsAmount_congr (file _ unnamed)).mp
        (survive.genesis atGenesis held inside unnamed amount parsed)
  · intro survive
    refine ⟨⟨?_, ?_⟩, ?_⟩
    · intro account member coin some amount parsed
      exact (holdsAmount_congr (modules account member _)).mpr
        (survive.chain.returned account member coin some amount parsed)
    · intro account member denom missing
      exact (holdsNothing_congr (modules account member _)).mpr
        (survive.chain.vanished account member denom missing)
    · intro atGenesis held inside unnamed amount parsed
      exact (holdsAmount_congr (file _ unnamed)).mpr
        (survive.genesis atGenesis held inside unnamed amount parsed)

/-- An update with changes starts from the table before the block, whatever the block saved. -/
theorem updateBalances_saved (prior : PriorBalances height rows)
    (built : handleGenesis genesis height moduleAccounts = .ok task) (run : Trace task groups)
    (modules : handleModuleAccounts height moduleAccounts rows = .ok saved)
    {entries : List (String × Int)} (changed : entries ≠ []) :
    updateBalances entries height (saveBalances height groups saved) =
      updateBalances entries height rows := by
  obtain ⟨cleanable, cleaned⟩ := handleModuleAccounts_clean prior.cleanable modules
  have current : ∀ records ∈ groups, ∀ balance ∈ records,
      balance.lastUpdatedBlockId = height := by
    intro records member balance inside
    obtain ⟨_, held, _, created⟩ := (handleGenesis_records built run).mp
      (List.mem_flatten.mpr ⟨records, member, inside⟩)
    obtain ⟨_, _, rfl⟩ := coinBalance_ok.mp created
    rfl
  exact updateBalances_congr changed
    ((saveBalances_clean cleanable current).2.trans cleaned)

end Block

/-- What a block saves survives its events just when there are none, or the table held it before. -/
theorem blockBalances_survive_iff (decimal : String → Int) {height : ℕ} {genesis : Genesis}
    {moduleAccounts : List ExtendedAccount} (coins : ChainCoins genesis moduleAccounts)
    {events : List CosmosEvent} (outside : OutsideModules moduleAccounts events)
    {rows : List (Row BalanceProps)} (prior : PriorBalances height rows)
    {task : Task (List BalanceProps)} {groups : List (List BalanceProps)}
    (built : handleGenesis genesis height moduleAccounts = .ok task) (run : Trace task groups)
    {after : List (Row BalanceProps)}
    (ran : blockBalances decimal height moduleAccounts groups events rows = .ok after) :
    BalancesSurvive decimal height genesis moduleAccounts events after ↔
      (events = [] ∧ QuietAgrees height genesis moduleAccounts rows) ∨
        (events ≠ [] ∧ BalancesSurvive decimal height genesis moduleAccounts events rows) := by
  obtain ⟨saved, modules, indexed⟩ := exceptBind_ok ran
  obtain ⟨changes, summed, updated⟩ := exceptBind_ok indexed
  obtain ⟨read, each, total⟩ := exceptBind_ok summed
  cases updated
  cases total
  cases events with
  | nil =>
    -- Without events nothing is updated.
    simp only [List.mapM_nil, pure, Except.pure, Except.ok.injEq] at each
    subst each
    have same : updateBalances (List.foldl addPosting Dict.empty []).entries height
        (saveBalances height groups saved) = saveBalances height groups saved := rfl
    rw [same, survive_quiet_iff prior coins built run modules]
    simp
  | cons event rest =>
    have changed : readEntries read ≠ [] := by
      obtain ⟨posting, inside, _⟩ := exists_of_mapM_ok each List.mem_cons_self
      have listed := mem_readEntries_ids.mpr ⟨posting, inside, rfl⟩
      exact fun nothing => by simp [nothing] at listed
    have same : updateBalances (List.foldl addPosting Dict.empty read).entries height
        (saveBalances height groups saved) = updateBalances (readEntries read) height rows :=
      updateBalances_saved prior built run modules changed
    rw [same, survive_update_iff prior coins outside each]
    simp

/-- A genesis file without balances, for a chain that starts at its first block. -/
def emptyGenesis : Genesis := ⟨0, []⟩

/-- A module account that holds seven coins of one denomination. -/
def sevenCoins : List ExtendedAccount := [⟨"pokt1m", [⟨"7", "upokt"⟩]⟩]

/-- The chain's answer for that module account is consistent. -/
theorem sevenCoins_chain : ChainCoins emptyGenesis sevenCoins :=
  { amounts := by
      intro held member
      have only : held = ("pokt1m", ⟨"7", "upokt"⟩) := List.mem_singleton.mp member
      exact ⟨7, by rw [only]; rfl⟩
    addresses := by decide
    distinct := by decide
    genesisDistinct := by decide
    dashless := by decide
    genesisDashless := by decide }

/-- One coin event of another account undoes the module balance that the block saved. -/
theorem blockBalances_loses_module :
    ChainCoins emptyGenesis sevenCoins ∧
    OutsideModules sevenCoins [receives "pokt1a" [(5, "upokt")]] ∧ PriorBalances 7 [] ∧
    ∃ task groups after, handleGenesis emptyGenesis 7 sevenCoins = .ok task ∧ Trace task groups ∧
      blockBalances (fun _ => 0) 7 sevenCoins groups [receives "pokt1a" [(5, "upokt")]] [] =
        .ok after ∧
      ¬ BalancesSurvive (fun _ => 0) 7 emptyGenesis sevenCoins [receives "pokt1a" [(5, "upokt")]]
        after := by
  refine ⟨sevenCoins_chain, ⟨by decide, by decide⟩, priorBalances_nil 7, Task.skip, [],
    [Row.fresh 7 ⟨"pokt1a-upokt", "pokt1a", "upokt", 5, 7⟩], rfl, Trace.skip,
    ok_of_toOption (by decide +kernel), ?_⟩
  intro survive
  -- The chain returns seven coins, but the module account has no row.
  obtain ⟨row, visible, _⟩ := survive.chain.returned ⟨"pokt1m", [⟨"7", "upokt"⟩]⟩ (by decide)
    ⟨"7", "upokt"⟩ (by decide) 7 (ok_of_toOption (by decide +kernel))
  have hidden : openVersions BalanceProps.id 7 (getBalanceId "pokt1m" "upokt")
      [Row.fresh 7 ⟨"pokt1a-upokt", "pokt1a", "upokt", 5, 7⟩] = [] := by decide +kernel
  rw [hidden] at visible
  simp at visible

/-- In a block without coin events the module balance is stored. -/
theorem blockBalances_survive_quiet :
    BalancesSurvive (fun _ => 0) 7 emptyGenesis sevenCoins []
      [Row.fresh 7 ⟨"pokt1m-upokt", "pokt1m", "upokt", 7, 7⟩] :=
  (@blockBalances_survive_iff (fun _ => 0) 7 emptyGenesis sevenCoins sevenCoins_chain []
    ⟨by decide, by decide⟩ [] (priorBalances_nil 7) Task.skip [] rfl Trace.skip _
    (ok_of_toOption (by decide +kernel))).mpr
      (Or.inl ⟨rfl, fun _ _ _ _ _ => Or.inl rfl, fun same => absurd same (by decide),
        fun same => absurd same (by decide)⟩)

end Pocketdex
