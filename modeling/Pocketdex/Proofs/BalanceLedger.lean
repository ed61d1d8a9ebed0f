import Mathlib.Algebra.BigOperators.Group.List.Basic
import Mathlib.Algebra.Ring.Int.Defs
import Mathlib.Data.List.TakeWhile
import Pocketdex.Base.Except
import Pocketdex.Bank.BalanceChange
import Pocketdex.Proofs.CoinTexts

/-! The stored balances against the ledger of coins that a block's events carry. -/

namespace Pocketdex

/-- The sum of the postings of one account in one denomination. -/
def netOf (postings : List Posting) (account denom : String) : Int :=
  ((postings.filter fun posting => posting.account = account ∧ posting.denom = denom).map
    Posting.amount).sum

/-- The amount of a balance at a height, where one that is not stored counts as zero. -/
def amountAt (height : ℕ) (rows : List (Row BalanceProps)) (id : String) : Int :=
  ((storeGet BalanceProps.id height id rows).map BalanceProps.amount).getD 0

/-- The balance table as the blocks before a height left it. -/
structure PriorBalances (height : ℕ) (rows : List (Row BalanceProps)) : Prop where
  oneOpen : ∀ id, (openVersions BalanceProps.id height id rows).length ≤ 1
  begun : ∀ row ∈ rows, row.blockRange.lower < height
  updated : ∀ row ∈ rows, row.data.lastUpdatedBlockId < height
  ended : ∀ row ∈ rows, ∀ upper, row.blockRange.upper = some upper → upper < height
  labelled : ∀ row ∈ rows, row.data.id = getBalanceId row.data.accountId row.data.denom
  dashless : ∀ row ∈ rows, '-' ∉ row.data.accountId.toList

/-- What a block's events did to one account: it received or spent some coins. -/
structure CoinEvent where
  account : String
  spent : Bool
  coins : List (ℕ × String)
  deriving DecidableEq, Repr

/-- Coins as the chain writes them: amounts with their denominations, between commas. -/
def coinsText (coins : List (ℕ × String)) : String :=
  ",".intercalate (coins.map fun (amount, denom) => s!"{amount}{denom}")

/-- The changes a coin event stands for. -/
def CoinEvent.postings (entry : CoinEvent) : List Posting :=
  entry.coins.map fun (amount, denom) =>
    ⟨entry.account, denom, if entry.spent then -(amount : Int) else amount⟩

/-- An emitted event carries what happened, with its attributes in any order. -/
structure CarriesCoins (event : CosmosEvent) (entry : CoinEvent) : Prop where
  type : event.type = if entry.spent then .coinSpent else .coinReceived
  account : ∃ attr ∈ event.attributes, isAccountAttribute attr = true
  accountOnly : ∀ attr ∈ event.attributes, isAccountAttribute attr = true →
    attr = ⟨if entry.spent then "spender" else "receiver", entry.account⟩
  amount : ⟨"amount", coinsText entry.coins⟩ ∈ event.attributes
  dashless : '-' ∉ entry.account.toList

/-- The changes of a whole block. -/
def ledgerPostings (ledger : List CoinEvent) : List Posting := ledger.flatMap CoinEvent.postings

/-- The balances follow the ledger: named ones are moved by their sums, and others are untouched. -/
structure FollowsLedger (height : ℕ) (before : List (Row BalanceProps)) (carried : List Posting)
    (after : List (Row BalanceProps)) : Prop where
  named : ∀ posting ∈ carried, ∃ row,
    openVersions BalanceProps.id height posting.mapId after = [row] ∧
      row.data.accountId = posting.account ∧ row.data.denom = posting.denom ∧
      row.data.amount = amountAt height before posting.mapId +
        netOf carried posting.account posting.denom
  unnamed : ∀ id, (∀ posting ∈ carried, posting.mapId ≠ id) →
    versionsOf BalanceProps.id id after = versionsOf BalanceProps.id id before

/-- The changes that were read stand for those that were carried. -/
structure ReadsLedger (height : ℕ) (before : List (Row BalanceProps)) (read carried : List Posting) :
    Prop where
  named : ∀ posting ∈ read, ∃ other ∈ carried, other.mapId = posting.mapId
  seen : ∀ posting ∈ carried, (∃ other ∈ read, other.mapId = posting.mapId) ∨
    openVersions BalanceProps.id height posting.mapId before ≠ []
  totals : ∀ posting ∈ carried,
    netOf read posting.account posting.denom = netOf carried posting.account posting.denom

/-- Postings of accounts without dashes share a balance just when they name the same one. -/
theorem mapId_eq_iff {posting other : Posting} (dashless : '-' ∉ posting.account.toList)
    (otherDashless : '-' ∉ other.account.toList) :
    posting.mapId = other.mapId ↔ posting.account = other.account ∧ posting.denom = other.denom := by
  constructor
  · exact fun same => getBalanceId_inj dashless otherDashless same
  · rintro ⟨account, denom⟩
    rw [Posting.mapId, Posting.mapId, account, denom]

/-- The sum over a balance is the sum over its account and denomination. -/
theorem netOf_mapId {postings : List Posting} (dashless : ∀ posting ∈ postings,
    '-' ∉ posting.account.toList) {posting : Posting} (named : '-' ∉ posting.account.toList) :
    ((postings.filter fun other => other.mapId = posting.mapId).map Posting.amount).sum =
      netOf postings posting.account posting.denom := by
  unfold netOf
  congr 2
  apply List.filter_congr
  intro other member
  exact decide_eq_decide.mpr (mapId_eq_iff (dashless other member) named)

section Changes

variable {postings : List Posting} {addressDenomMap : Dict String Int} {id : String}

/-- The changes of a balance add up. -/
theorem get_addPostings :
    ((postings.foldl addPosting addressDenomMap).get id).getD 0 =
      (addressDenomMap.get id).getD 0 +
        ((postings.filter fun posting => posting.mapId = id).map Posting.amount).sum := by
  induction postings generalizing addressDenomMap with
  | nil => simp
  | cons posting rest ih =>
    rw [List.foldl_cons, ih, addPosting, Dict.get_set, List.filter_cons]
    by_cases same : posting.mapId = id
    · -- The posting counts towards the sum.
      subst same
      simp
      omega
    · have different : id ≠ posting.mapId := fun equal => same equal.symm
      simp [same, different]

/-- The changed balances are those of the postings. -/
theorem mem_keys_addPostings :
    id ∈ (postings.foldl addPosting addressDenomMap).keys ↔
      id ∈ addressDenomMap.keys ∨ ∃ posting ∈ postings, posting.mapId = id := by
  induction postings generalizing addressDenomMap with
  | nil => simp
  | cons posting rest ih =>
    rw [List.foldl_cons, ih, addPosting, Dict.mem_keys_set]
    simp only [List.mem_cons, exists_eq_or_imp]
    constructor
    · rintro ((same | before) | later)
      · exact Or.inr (Or.inl same.symm)
      · exact Or.inl before
      · exact Or.inr (Or.inr later)
    · rintro (before | same | later)
      · exact Or.inl (Or.inr before)
      · exact Or.inl (Or.inl same.symm)
      · exact Or.inr later

end Changes

section Update

variable {height : ℕ} {rows : List (Row BalanceProps)}

/-- Rows of earlier blocks are left alone by the clean-up. -/
theorem cleanBalances_prior (prior : PriorBalances height rows) :
    cleanBalances height rows = rows := by
  have kept : (rows.filter fun row => row.data.lastUpdatedBlockId ≠ height) = rows :=
    List.filter_eq_self.mpr fun row member => by
      have earlier := prior.updated row member
      simp only [ne_eq, decide_not, Bool.not_eq_eq_eq_not, Bool.not_true, decide_eq_false_iff_not]
      omega
  rw [cleanBalances, kept]
  refine (List.map_congr_left fun row member => ?_).trans (List.map_id _)
  rw [if_neg]
  · rfl
  · intro ended
    exact Nat.lt_irrefl _ (prior.ended row member height ended)

/-- The fetched balances are the visible ones with the given ids. -/
theorem mem_fetchBalances {ids : List String} {balance : BalanceProps} :
    balance ∈ fetchBalances height rows ids ↔
      ∃ row ∈ rows, row.openAt height = true ∧ row.data.id ∈ ids ∧ row.data = balance := by
  -- The pages hold all records of a chunk, and the chunks hold all ids.
  have paged : fetchBalances height rows ids =
      (chunkArray ids 1000).flatMap (getBalancesByIds height rows) := by
    unfold fetchBalances
    congr 1
    funext batch
    exact fetchPaginatedRecords_all _ _ 0 (by omega)
  have chunks : (chunkArray ids 1000).flatten = ids :=
    sliceBatches_flatten (by decide) _ _ (Nat.le_refl _)
  rw [paged, List.mem_flatMap]
  constructor
  · rintro ⟨batch, chosen, member⟩
    obtain ⟨row, inside, same⟩ := List.mem_map.mp member
    simp only [List.mem_filter, Bool.and_eq_true, decide_eq_true_eq] at inside
    refine ⟨row, inside.1, inside.2.1, ?_, same⟩
    rw [← chunks]
    exact List.mem_flatten.mpr ⟨batch, chosen, inside.2.2⟩
  · rintro ⟨row, inside, visible, named, same⟩
    rw [← chunks] at named
    obtain ⟨batch, chosen, listed⟩ := List.mem_flatten.mp named
    refine ⟨batch, chosen, List.mem_map.mpr ⟨row, ?_, same⟩⟩
    simp [inside, visible, listed]

/-- The current amounts the new balances start from. -/
def currentBalances (height : ℕ) (rows : List (Row BalanceProps)) (ids : List String) :
    Dict String Int :=
  Dict.collect BalanceProps.id BalanceProps.amount (fetchBalances height rows ids)

/-- The ids with a current amount are the asked ones that are visible. -/
theorem mem_keys_currentBalances {ids : List String} {id : String} :
    id ∈ (currentBalances height rows ids).keys ↔
      id ∈ ids ∧ openVersions BalanceProps.id height id rows ≠ [] := by
  rw [currentBalances, Dict.mem_keys_collect]
  constructor
  · rintro ⟨balance, member, rfl⟩
    obtain ⟨row, inside, visible, named, rfl⟩ := mem_fetchBalances.mp member
    exact ⟨named, List.ne_nil_of_mem (mem_openVersions.mpr ⟨inside, rfl, visible⟩)⟩
  · rintro ⟨named, some⟩
    obtain ⟨row, member⟩ := List.exists_mem_of_ne_nil _ some
    obtain ⟨inside, same, visible⟩ := mem_openVersions.mp member
    exact ⟨row.data, mem_fetchBalances.mpr ⟨row, inside, visible, same ▸ named, rfl⟩, same⟩

/-- The current amount of an asked id is that of its one visible version. -/
theorem get_currentBalances (oneOpen : ∀ id, (openVersions BalanceProps.id height id rows).length ≤ 1)
    {ids : List String} {id : String} (asked : id ∈ ids) :
    ((currentBalances height rows ids).get id).getD 0 = amountAt height rows id := by
  rw [currentBalances, Dict.get_collect, amountAt, storeGet]
  cases located : (fetchBalances height rows ids).reverse.find? (fun balance =>
      balance.id = id) with
  | none =>
    -- Nothing was fetched, so nothing is visible.
    have absent : openVersions BalanceProps.id height id rows = [] := by
      by_contra some
      have key := mem_keys_currentBalances.mpr ⟨asked, some⟩
      obtain ⟨balance, member, named⟩ := Dict.mem_keys_collect.mp key
      have missing := List.find?_eq_none.mp located balance (List.mem_reverse.mpr member)
      simp [named] at missing
    simp [absent]
  | some balance =>
    have named := List.find?_some located
    have member := List.mem_reverse.mp (List.mem_of_find?_eq_some located)
    simp only [decide_eq_true_eq] at named
    obtain ⟨row, inside, visible, _, rfl⟩ := mem_fetchBalances.mp member
    have visibleHere := mem_openVersions.mpr ⟨inside, named, visible⟩
    rw [eq_singleton_of_mem (oneOpen id) visibleHere]
    rfl

/-- Updating leaves the versions of balances without a change alone. -/
theorem versionsOf_updateBalances_other (prior : PriorBalances height rows)
    {entries : List (String × Int)} {id : String} (absent : id ∉ entries.map Prod.fst) :
    versionsOf BalanceProps.id id (updateBalances entries height rows) =
      versionsOf BalanceProps.id id rows := by
  unfold updateBalances
  dsimp only
  rw [cleanBalances_prior prior]
  split
  · rfl
  · rw [versionsOf_append]
    -- Neither the closed versions nor the new ones have this id.
    have appended : versionsOf BalanceProps.id id ((entries.map fun entry => balanceToSave height
        (currentBalances height rows (entries.map Prod.fst)) entry.1 entry.2).map fun balance =>
          stamp height ⟨balance, none, some ⟨height, none⟩⟩) = [] := by
      rw [versionsOf, List.filter_eq_nil_iff]
      intro row member
      obtain ⟨balance, saved, rfl⟩ := List.mem_map.mp member
      obtain ⟨entry, inside, rfl⟩ := List.mem_map.mp saved
      simp only [decide_eq_true_eq]
      exact fun same => absent (List.mem_map.mpr ⟨entry, inside, same⟩)
    have unselected : ∀ balance : BalanceProps, balance.id = id →
        decide (balance.id ∈ (currentBalances height rows (entries.map Prod.fst)).keys) =
          false := by
      intro balance named
      rw [decide_eq_false_iff_not, named, mem_keys_currentBalances]
      exact fun current => absent current.1
    have new := appended
    unfold currentBalances at new
    rw [new, List.append_nil]
    split
    · rfl
    · exact versionsOf_closeWhere unselected

/-- Updating leaves a changed balance with one visible version, which has the new amount. -/
theorem openVersions_updateBalances (prior : PriorBalances height rows)
    {entries : List (String × Int)} (distinct : (entries.map Prod.fst).Nodup) {id : String}
    {change : Int} (member : (id, change) ∈ entries) :
    openVersions BalanceProps.id height id (updateBalances entries height rows) =
      [Row.fresh height (balanceToSave height
        (currentBalances height rows (entries.map Prod.fst)) id change)] := by
  have asked : id ∈ entries.map Prod.fst := List.mem_map.mpr ⟨_, member, rfl⟩
  have some : (entries.map Prod.fst).isEmpty = false := by
    rw [List.isEmpty_eq_false_iff]
    exact List.ne_nil_of_mem asked
  unfold updateBalances
  dsimp only
  rw [cleanBalances_prior prior, some]
  simp only [Bool.false_eq_true, if_false]
  rw [openVersions_append, ← currentBalances]
  -- What was visible before has been closed.
  have closed : openVersions BalanceProps.id height id
      (if (currentBalances height rows (entries.map Prod.fst)).keys.isEmpty = true then rows
        else closeWhere (fun balance => decide (balance.id ∈
          (currentBalances height rows (entries.map Prod.fst)).keys)) height rows) = [] := by
    by_cases current : id ∈ (currentBalances height rows (entries.map Prod.fst)).keys
    · rw [if_neg (by
        rw [List.isEmpty_iff]
        exact List.ne_nil_of_mem current)]
      exact openVersions_closeWhere_self fun balance named => by simp [named, current]
    · have hidden : openVersions BalanceProps.id height id rows = [] := by
        by_contra visible
        exact current (mem_keys_currentBalances.mpr ⟨asked, visible⟩)
      split
      · exact hidden
      · rw [openVersions_closeWhere fun balance named => by simp [named, current]]
        exact hidden
  rw [closed, List.nil_append]
  -- Among the new versions only one has this id.
  clear closed some asked
  generalize currentBalances height rows (entries.map Prod.fst) = current
  induction entries with
  | nil => simp at member
  | cons entry rest ih =>
    rw [List.map_cons, List.nodup_cons] at distinct
    rw [List.map_cons, List.map_cons, ← List.singleton_append, openVersions_append]
    rcases List.mem_cons.mp member with same | inside
    · subst same
      have later : openVersions BalanceProps.id height id
          ((rest.map fun entry => balanceToSave height current entry.1 entry.2).map
            fun balance => stamp height ⟨balance, none, some ⟨height, none⟩⟩) = [] := by
        apply List.eq_nil_iff_forall_not_mem.mpr
        intro row visible
        obtain ⟨listed, named, _⟩ := mem_openVersions.mp visible
        obtain ⟨balance, saved, rfl⟩ := List.mem_map.mp listed
        obtain ⟨other, here, rfl⟩ := List.mem_map.mp saved
        exact distinct.1 (List.mem_map.mpr ⟨other, here, named⟩)
      rw [later, List.append_nil]
      simp [openVersions, versionsOf, stamp, Row.fresh, Row.openAt, BlockRange.contains,
        balanceToSave]
    · have different : entry.1 ≠ id := fun same =>
        distinct.1 (List.mem_map.mpr ⟨(id, change), inside, same.symm⟩)
      have hidden : openVersions BalanceProps.id height id
          [stamp height ⟨balanceToSave height current entry.1 entry.2, none,
            some ⟨height, none⟩⟩] = [] := by
        simp [openVersions, versionsOf, stamp, balanceToSave, different]
      rw [hidden, List.nil_append]
      exact ih distinct.2 inside

end Update

/-- A denomination that can be parsed holds no dash. -/
theorem isDenom_dashless {text : List Char} (denom : isDenom text = true) : '-' ∉ text := by
  cases text with
  | nil => simp
  | cons first rest =>
    simp only [isDenom, Bool.and_eq_true, List.all_eq_true] at denom
    intro member
    rcases List.mem_cons.mp member with same | inside
    · rw [← same] at denom
      exact absurd denom.1.1.1 (by decide)
    · exact absurd (denom.1.1.2 '-' inside) (by decide)

/-- A parsed coin has a denomination without dashes. -/
theorem parseCoin_dashless {decimal : String → Int} {part : List Char} {coin : Coin}
    (parsed : parseCoin decimal part = some coin) : '-' ∉ coin.denom.toList := by
  unfold parseCoin at parsed
  dsimp only at parsed
  split at parsed
  · rename_i valid
    have dashless := isDenom_dashless valid
    -- Whatever the number looks like, the denomination is the rest of the text.
    split at parsed
    · simp at parsed
    · split at parsed
      · simp only [Option.some.injEq] at parsed
        rw [← parsed, String.toList_ofList]
        exact dashless
      · simp at parsed
    · simp only [Option.some.injEq] at parsed
      rw [← parsed, String.toList_ofList]
      exact dashless
    · simp only [Option.some.injEq] at parsed
      rw [← parsed, String.toList_ofList]
      exact dashless
  · simp at parsed

/-- The coins of a parsed list have denominations without dashes. -/
theorem parseCoins_dashless {decimal : String → Int} {input : String} {coins : List Coin}
    (parsed : parseCoins decimal input = .ok coins) {coin : Coin} (member : coin ∈ coins) :
    '-' ∉ coin.denom.toList := by
  obtain ⟨part, _, one⟩ := mem_of_mapM_ok parsed member
  split at one
  · cases one
    rename_i read
    exact parseCoin_dashless read
  · simp at one

/-- A posting that was read names the account and a denomination that the attributes hold. -/
theorem readPosting_ok {decimal : String → Int} {event : CosmosEvent} {posting : Posting}
    (ran : readPosting decimal event = .ok posting) :
    ∃ attr ∈ event.attributes, isAccountAttribute attr = true ∧ attr.value = posting.account ∧
      ∃ listed ∈ event.attributes, ∃ coins, parseCoins decimal listed.value = .ok coins ∧
        ∃ coin ∈ coins, coin.denom = posting.denom := by
  unfold readPosting at ran
  split at ran
  · simp at ran
  · rename_i attr following located
    -- What is left begins with the first attribute that is not skipped, which names the account.
    have left : ∀ other ∈ attr :: following, other ∈ event.attributes := by
      rw [← located]
      exact fun other inside => (List.dropWhile_sublist _).subset inside
    have named : isAccountAttribute attr = true := by
      have found := List.head?_dropWhile_not (fun attr => !isAccountAttribute attr)
        event.attributes
      rw [located] at found
      simpa using found
    split at ran
    · simp at ran
    · split at ran
      · simp at ran
      · rename_i next rest
        obtain ⟨coins, parsed, ran⟩ := exceptBind_ok ran
        split at ran
        · simp at ran
        · rename_i coin others
          obtain ⟨amount, _, ran⟩ := exceptBind_ok ran
          cases ran
          exact ⟨attr, left attr List.mem_cons_self, named, rfl, next, left next (by simp), _, parsed,
            coin, List.mem_cons_self, rfl⟩

/-- Carried postings name accounts without dashes. -/
theorem carried_dashless {events : List CosmosEvent} {ledger : List CoinEvent}
    (carries : List.Forall₂ CarriesCoins events ledger) :
    ∀ posting ∈ ledgerPostings ledger, '-' ∉ posting.account.toList := by
  intro posting member
  obtain ⟨entry, inside, listed⟩ := List.mem_flatMap.mp member
  obtain ⟨coin, _, rfl⟩ := List.mem_map.mp listed
  clear member listed
  induction carries with
  | nil => simp at inside
  | cons one _ ih =>
    rcases List.mem_cons.mp inside with rfl | later
    · exact one.dashless
    · exact ih later

/-- Read postings name accounts of the ledger, which have no dashes. -/
theorem read_dashless {decimal : String → Int} {events : List CosmosEvent}
    {ledger : List CoinEvent} (carries : List.Forall₂ CarriesCoins events ledger)
    {read : List Posting} (ran : events.mapM (readPosting decimal) = .ok read) :
    ∀ posting ∈ read, '-' ∉ posting.account.toList ∧ '-' ∉ posting.denom.toList := by
  intro posting member
  obtain ⟨event, inside, one⟩ := mem_of_mapM_ok ran member
  obtain ⟨attr, listed, named, same, _, _, coins, parsed, coin, some, denom⟩ := readPosting_ok one
  refine ⟨?_, denom ▸ parseCoins_dashless parsed some⟩
  -- An event has one account attribute, so this is the account of its ledger entry.
  clear ran member one
  induction carries with
  | nil => simp at inside
  | cons first _ ih =>
    rcases List.mem_cons.mp inside with rfl | later
    · rw [← same, first.accountOnly attr listed named]
      exact first.dashless
    · exact ih later

section Ledger

variable {decimal : String → Int} {height : ℕ} {rows : List (Row BalanceProps)}
variable {read : List Posting}

/-- The changes of the postings that were read. -/
def readEntries (read : List Posting) : List (String × Int) :=
  (read.foldl addPosting Dict.empty).entries

/-- The changed balances are those that were read. -/
theorem mem_readEntries_ids {id : String} :
    id ∈ (readEntries read).map Prod.fst ↔ ∃ posting ∈ read, posting.mapId = id := by
  have keys := @mem_keys_addPostings read Dict.empty id
  simp only [Dict.keys_empty, List.not_mem_nil, false_or] at keys
  exact keys

/-- A balance that was read is changed by the sum of what was read. -/
theorem mem_readEntries (dashless : ∀ posting ∈ read, '-' ∉ posting.account.toList)
    {posting : Posting} (member : posting ∈ read) :
    (posting.mapId, netOf read posting.account posting.denom) ∈ readEntries read := by
  obtain ⟨⟨id, change⟩, listed, same⟩ := List.mem_map.mp
    (mem_readEntries_ids.mpr ⟨posting, member, rfl⟩)
  simp only at same
  subst same
  have found := Dict.get_eq_some.mpr listed
  have total := @get_addPostings read Dict.empty posting.mapId
  rw [found] at total
  simp only [Option.getD_some, Dict.get_empty, Option.getD_none, zero_add] at total
  rw [netOf_mapId dashless (dashless posting member)] at total
  rw [← total]
  exact listed

/-- The account and denomination of a balance are found again in its id. -/
theorem splitBalanceId_mapId {posting : Posting} (account : '-' ∉ posting.account.toList)
    (denom : '-' ∉ posting.denom.toList) :
    splitBalanceId posting.mapId = (posting.account, posting.denom) := by
  have whole : posting.denom.toList.takeWhile (· ≠ '-') = posting.denom.toList :=
    List.takeWhile_eq_self_iff.mpr fun char member =>
      decide_eq_true fun same => denom (same ▸ member)
  simp only [splitBalanceId, Posting.mapId]
  rw [getBalanceId_toList, takeWhile_joined account, dropWhile_joined account, List.drop_one,
    List.tail_cons, whole, String.ofList_toList, String.ofList_toList]

/-- After the update a balance that was read has one visible version, moved by what was read. -/
theorem update_read (prior : PriorBalances height rows)
    (dashless : ∀ posting ∈ read, '-' ∉ posting.account.toList ∧ '-' ∉ posting.denom.toList)
    {posting : Posting} (member : posting ∈ read) :
    openVersions BalanceProps.id height posting.mapId
        (updateBalances (readEntries read) height rows) =
      [Row.fresh height ⟨posting.mapId, posting.account, posting.denom,
        amountAt height rows posting.mapId + netOf read posting.account posting.denom, height⟩] := by
  have listed := mem_readEntries (fun other inside => (dashless other inside).1) member
  have distinct : ((readEntries read).map Prod.fst).Nodup :=
    (read.foldl addPosting Dict.empty).nodup
  rw [openVersions_updateBalances prior distinct listed]
  have asked : posting.mapId ∈ (readEntries read).map Prod.fst :=
    mem_readEntries_ids.mpr ⟨posting, member, rfl⟩
  rw [balanceToSave, splitBalanceId_mapId (dashless posting member).1 (dashless posting member).2,
    get_currentBalances prior.oneOpen asked]

/-- After the update a balance that was not read has the versions it had. -/
theorem update_unread (prior : PriorBalances height rows) {id : String}
    (unread : ∀ posting ∈ read, posting.mapId ≠ id) :
    versionsOf BalanceProps.id id (updateBalances (readEntries read) height rows) =
      versionsOf BalanceProps.id id rows := by
  apply versionsOf_updateBalances_other prior
  intro member
  obtain ⟨posting, inside, same⟩ := mem_readEntries_ids.mp member
  exact unread posting inside same

/-- A balance that was not read has no sum of what was read. -/
theorem netOf_unread {posting : Posting} (unread : ∀ other ∈ read, other.mapId ≠ posting.mapId) :
    netOf read posting.account posting.denom = 0 := by
  have none : (read.filter fun other =>
      other.account = posting.account ∧ other.denom = posting.denom) = [] := by
    rw [List.filter_eq_nil_iff]
    intro other member
    simp only [decide_eq_true_eq, not_and]
    intro account denom
    exact unread other member (by rw [Posting.mapId, Posting.mapId, account, denom])
  rw [netOf, none]
  rfl

/-- The one visible version of a balance has its amount. -/
theorem amountAt_of_openVersions {id : String} {row : Row BalanceProps}
    (single : openVersions BalanceProps.id height id rows = [row]) :
    amountAt height rows id = row.data.amount := by
  simp [amountAt, storeGet, single]

/-- The update follows the ledger just when the changes read stand for those carried. -/
theorem updateBalances_followsLedger_iff (prior : PriorBalances height rows)
    (dashless : ∀ posting ∈ read, '-' ∉ posting.account.toList ∧ '-' ∉ posting.denom.toList)
    {carried : List Posting} (accounts : ∀ posting ∈ carried, '-' ∉ posting.account.toList) :
    FollowsLedger height rows carried (updateBalances (readEntries read) height rows) ↔
      ReadsLedger height rows read carried := by
  constructor
  · intro follows
    refine ⟨?_, ?_, ?_⟩
    · -- A balance the ledger does not name has no version that begins at this height.
      intro posting member
      by_contra unnamed
      push Not at unnamed
      have same := follows.unnamed posting.mapId unnamed
      have written := update_read prior dashless member
      rw [openVersions, same, ← openVersions] at written
      have stored := (mem_openVersions.mp (written ▸ List.mem_singleton_self _)).1
      exact Nat.lt_irrefl _ (prior.begun _ stored)
    · intro posting member
      -- What the ledger names was written here, or had a version that stays visible.
      by_contra hidden
      push Not at hidden
      obtain ⟨row, visible, _⟩ := follows.named posting member
      have same := update_unread prior hidden.1
      rw [openVersions, same, ← openVersions, hidden.2] at visible
      simp at visible
    · -- The amount written is the sum that was read, so the two sums agree.
      intro posting member
      obtain ⟨row, visible, _, _, amount⟩ := follows.named posting member
      by_cases seen : ∃ other ∈ read, other.mapId = posting.mapId
      · obtain ⟨other, inside, same⟩ := seen
        have names := (mapId_eq_iff (dashless other inside).1 (accounts posting member)).mp same
        have written := update_read prior dashless inside
        rw [same, names.1, names.2, visible, List.singleton_inj] at written
        rw [written] at amount
        simp only [Row.fresh] at amount
        omega
      · push Not at seen
        have same := update_unread prior seen
        rw [openVersions, same, ← openVersions] at visible
        rw [amountAt_of_openVersions visible] at amount
        rw [netOf_unread seen]
        omega
  · intro reads
    refine ⟨?_, ?_⟩
    · intro posting member
      have total := reads.totals posting member
      by_cases seen : ∃ other ∈ read, other.mapId = posting.mapId
      · obtain ⟨other, inside, same⟩ := seen
        have names := (mapId_eq_iff (dashless other inside).1 (accounts posting member)).mp same
        have written := update_read prior dashless inside
        rw [same, names.1, names.2, total] at written
        exact ⟨_, written, rfl, rfl, rfl⟩
      · -- A balance that was not read keeps its version, and its sum is zero.
        push Not at seen
        have same := update_unread prior seen
        have some := (reads.seen posting member).resolve_left (by push Not; exact seen)
        obtain ⟨row, inside⟩ := List.exists_mem_of_ne_nil _ some
        have visible := eq_singleton_of_mem (prior.oneOpen posting.mapId) inside
        obtain ⟨stored, named, _⟩ := mem_openVersions.mp inside
        rw [prior.labelled row stored] at named
        have names := getBalanceId_inj (prior.dashless row stored) (accounts posting member) named
        refine ⟨row, ?_, names.1, names.2, ?_⟩
        · rw [openVersions, same, ← openVersions, visible]
        · rw [amountAt_of_openVersions visible, ← total, netOf_unread seen, add_zero]
    · -- What the ledger does not name was not read either, and is left alone.
      intro id unnamed
      apply update_unread prior
      intro posting member same
      obtain ⟨other, inside, equal⟩ := reads.named posting member
      exact unnamed other inside (equal.trans same)

end Ledger

/-- The text of one coin is parsed into that coin. -/
theorem parseCoins_single {decimal : String → Int} {amount : ℕ} {denom : String}
    (valid : isDenom denom.toList = true) :
    parseCoins decimal (coinsText [(amount, denom)]) = .ok [⟨toString amount, denom⟩] := by
  have joined : coinsText [(amount, denom)] = toString amount ++ denom := rfl
  rw [joined]
  exact parseCoins_decimal (isDecimal_toString amount) valid

/-- An event as the bank module emits it: one coin, right after the account. -/
structure PlainCoins (event : CosmosEvent) (entry : CoinEvent) : Prop where
  single : ∃ amount denom, entry.coins = [(amount, denom)] ∧ isDenom denom.toList = true
  adjacent : ∃ before after, event.attributes = before ++
    ⟨if entry.spent then "spender" else "receiver", entry.account⟩ ::
      ⟨"amount", coinsText entry.coins⟩ :: after ∧
    ∀ attr ∈ before, isAccountAttribute attr = false

/-- A plain event is read for the one coin it carries. -/
theorem readPosting_plain {decimal : String → Int} {event : CosmosEvent} {entry : CoinEvent}
    (plain : PlainCoins event entry) :
    ∃ posting, readPosting decimal event = .ok posting ∧ entry.postings = [posting] := by
  obtain ⟨amount, denom, coins, valid⟩ := plain.single
  obtain ⟨before, after, attributes, unnamed⟩ := plain.adjacent
  refine ⟨⟨entry.account, denom, if entry.spent then -(amount : Int) else amount⟩, ?_, ?_⟩
  · have account : isAccountAttribute
        ⟨if entry.spent then "spender" else "receiver", entry.account⟩ = true := by
      cases entry.spent <;> rfl
    -- The search stops at the account, and the amount stands right behind it.
    have located : event.attributes.dropWhile (fun attr => !isAccountAttribute attr) =
        ⟨if entry.spent then "spender" else "receiver", entry.account⟩ ::
          ⟨"amount", coinsText entry.coins⟩ :: after := by
      rw [attributes, List.dropWhile_append_of_pos fun attr member => by simp [unnamed attr member],
        List.dropWhile_cons_of_neg (by simp [account])]
    have present : (event.attributes.all fun attr => decide (attr.key ≠ "amount")) = false := by
      rw [attributes]
      simp
    unfold readPosting
    rw [located]
    simp only [present, Bool.false_eq_true, if_false, coins, parseCoins_single valid, bind,
      Except.bind, pure, Except.pure, bigInt_toString]
    cases entry.spent <;> simp
  · simp [CoinEvent.postings, coins]

/-- Plain events are read for everything they carry. -/
theorem mapM_readPosting_plain {decimal : String → Int} {events : List CosmosEvent}
    {ledger : List CoinEvent} (plain : List.Forall₂ PlainCoins events ledger) :
    events.mapM (readPosting decimal) = .ok (ledgerPostings ledger) := by
  induction plain with
  | nil => rfl
  | cons first _ ih =>
    obtain ⟨posting, ran, single⟩ := @readPosting_plain decimal _ _ first
    rw [List.mapM_cons, ran, ih]
    simp [ledgerPostings, single, bind, Except.bind, pure, Except.pure]

/-- The balances follow the ledger of every block whose events are plain. -/
theorem indexBalances_plain (decimal : String → Int) (height : ℕ) {events : List CosmosEvent}
    {ledger : List CoinEvent} (carries : List.Forall₂ CarriesCoins events ledger)
    (plain : List.Forall₂ PlainCoins events ledger) {rows : List (Row BalanceProps)}
    (prior : PriorBalances height rows) :
    ∃ after, indexBalances decimal events height rows = .ok after ∧
      FollowsLedger height rows (ledgerPostings ledger) after := by
  have ran := @mapM_readPosting_plain decimal _ _ plain
  have reads : ReadsLedger height rows (ledgerPostings ledger) (ledgerPostings ledger) :=
    ⟨fun posting member => ⟨posting, member, rfl⟩,
      fun posting member => Or.inl ⟨posting, member, rfl⟩, fun _ _ => rfl⟩
  refine ⟨updateBalances (readEntries (ledgerPostings ledger)) height rows, ?_,
    (updateBalances_followsLedger_iff prior (read_dashless carries ran)
      (carried_dashless carries)).mpr reads⟩
  simp [indexBalances, getBalanceChanges, ran, bind, Except.bind, pure, Except.pure, readEntries]

/-- An account that receives some coins. -/
def receives (account : String) (coins : List (ℕ × String)) : CosmosEvent :=
  { idx := 0
    height := 7
    kind := .finalizeBlock
    type := .coinReceived
    attributes := [⟨"receiver", account⟩, ⟨"amount", coinsText coins⟩]
    tx := none
    msg := none }

/-- Such an event carries the receipt it was made from. -/
theorem receives_carries {account : String} (dashless : '-' ∉ account.toList)
    (coins : List (ℕ × String)) :
    CarriesCoins (receives account coins) ⟨account, false, coins⟩ :=
  { type := rfl
    account := ⟨⟨"receiver", account⟩, by simp [receives], rfl⟩
    accountOnly := by simp [receives, isAccountAttribute]
    amount := by simp [receives]
    dashless := dashless }

/-- The table before the first block has no rows. -/
theorem priorBalances_nil (height : ℕ) : PriorBalances height [] := by
  constructor <;> simp [openVersions, versionsOf]

end Pocketdex
