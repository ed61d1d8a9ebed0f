import Pocketdex.Base.Except
import Pocketdex.Base.Run
import Pocketdex.Bank.Supply
import Pocketdex.Utils.Number

/-! What the pointers of each block say about the total supply, over runs of consecutive blocks. -/

namespace Pocketdex

/-- Every stored amount has an id of its own denomination. -/
def SupplyNamed (supplies : Store Supply.id) : Prop :=
  ∀ supply, supplies.get supply.id = some supply →
    ∃ height, supply.id = getSupplyId supply.denom height

/-- An amount found under an id of a denomination is one of that denomination. -/
theorem SupplyNamed.denom {supplies : Store Supply.id} (named : SupplyNamed supplies)
    {denom : String} {height : ℕ} {supply : Supply}
    (found : supplies.get (getSupplyId denom height) = some supply) : supply.denom = denom := by
  have own := Store.id_of_get found
  obtain ⟨origin, spelled⟩ := named supply (by rw [own, found])
  exact (getSupplyId_inj (spelled.symm.trans own)).1

/-- Storing an amount under an id of its denomination keeps the ids that way. -/
theorem SupplyNamed.save {supplies : Store Supply.id} (named : SupplyNamed supplies)
    {record : Supply} {height : ℕ} (spelled : record.id = getSupplyId record.denom height) :
    SupplyNamed (supplies.save record) := by
  intro supply found
  rw [Store.get_save] at found
  split at found
  · cases found
    exact ⟨height, spelled⟩
  · exact named supply found

/-- The record of an amount has the id of its denomination and height. -/
theorem getSupplyRecord_ok {supply : Coin} {height : ℕ} {record : Supply}
    (read : getSupplyRecord supply height = .ok record) :
    record.id = getSupplyId supply.denom height ∧ record.denom = supply.denom ∧
      bigInt supply.amount = .ok record.amount := by
  obtain ⟨amount, value, rest⟩ := exceptBind_ok read
  cases rest
  exact ⟨rfl, rfl, value⟩

/-- A pointer leads to an id of its denomination, and to one of this height if nothing is there. -/
def PointsTo (supplies : Store Supply.id) (height : ℕ) (denom : String)
    (blockSupply : BlockSupply) : Prop :=
  ∃ origin, blockSupply.supplyId = getSupplyId denom origin ∧
    (supplies.get blockSupply.supplyId = none → origin = height)

/-- A block's pointer for a denomination leads to an amount. -/
def Recorded (tables : Store BlockSupply.id × Store Supply.id) (height : ℕ) (denom : String)
    (amount : Except String Int) : Prop :=
  ∃ blockSupply, tables.1.get (getSupplyId denom height) = some blockSupply ∧
    ∃ origin, blockSupply.supplyId = getSupplyId denom origin ∧
      ∃ supply, tables.2.get blockSupply.supplyId = some supply ∧ amount = .ok supply.amount

/-- The rows of a denomination are the same in two states. -/
def SameRows (before after : Store BlockSupply.id × Store Supply.id) (denom : String) : Prop :=
  ∀ height, after.1.get (getSupplyId denom height) = before.1.get (getSupplyId denom height) ∧
    after.2.get (getSupplyId denom height) = before.2.get (getSupplyId denom height)

/-- What is recorded of a denomination stays recorded while its rows are the same. -/
theorem Recorded.of_same {before after : Store BlockSupply.id × Store Supply.id} {height : ℕ}
    {denom : String} {amount : Except String Int} (recorded : Recorded before height denom amount)
    (same : SameRows before after denom) : Recorded after height denom amount := by
  obtain ⟨blockSupply, pointed, origin, spelled, supply, found, value⟩ := recorded
  refine ⟨blockSupply, by rw [(same height).1, pointed], origin, spelled, supply, ?_, value⟩
  rw [spelled] at found ⊢
  rw [(same origin).2, found]

/-- Recording an amount points the block to it, and touches no row of another denomination. -/
theorem recordSupply_ok {height : ℕ} {before after : Store BlockSupply.id × Store Supply.id}
    {supply : Coin} (ran : recordSupply height before supply = .ok after)
    {latest : BlockSupply} (found : before.1.get (getSupplyId supply.denom height) = some latest)
    (points : PointsTo before.2 height supply.denom latest) (named : SupplyNamed before.2) :
    Recorded after height supply.denom (bigInt supply.amount) ∧ SupplyNamed after.2 ∧
      ∀ denom, denom ≠ supply.denom → SameRows before after denom := by
  obtain ⟨map, supplies⟩ := before
  obtain ⟨origin, spelled, fresh⟩ := points
  have latestId := Store.id_of_get found
  -- Ids of another denomination are not those that are written.
  have apart : ∀ {denom height other}, denom ≠ supply.denom →
      getSupplyId denom height ≠ getSupplyId supply.denom other :=
    fun different same => different (getSupplyId_inj same).1
  simp only [recordSupply] at ran found
  simp only [found] at ran
  obtain ⟨⟨current, stored⟩, read, ran⟩ := exceptBind_ok ran
  -- The amount that is pointed to is there, or it is stored first.
  have located : stored.get latest.supplyId = some current ∧ SupplyNamed stored ∧
      (∀ denom height, denom ≠ supply.denom →
        stored.get (getSupplyId denom height) = supplies.get (getSupplyId denom height)) := by
    unfold latestSupply at read
    split at read
    · rename_i present
      cases read
      exact ⟨present, named, fun _ _ _ => rfl⟩
    · rename_i absent
      obtain ⟨record, made, rest⟩ := exceptBind_ok read
      cases rest
      obtain ⟨recordId, recordDenom, _⟩ := getSupplyRecord_ok made
      refine ⟨?_, named.save (recordDenom ▸ recordId), fun denom other different => ?_⟩
      · rw [Store.get_save, spelled, fresh absent, recordId, if_pos rfl]
      · rw [Store.get_save, recordId, if_neg (apart different)]
  obtain ⟨pointed, storedNamed, storedOthers⟩ := located
  split at ran
  · -- The amount changed, so the new one is stored and pointed to.
    obtain ⟨record, made, rest⟩ := exceptBind_ok ran
    cases rest
    obtain ⟨recordId, recordDenom, value⟩ := getSupplyRecord_ok made
    refine ⟨⟨{ latest with supplyId := record.id }, ?_, height, recordId, record, ?_, value⟩,
      storedNamed.save (recordDenom ▸ recordId), fun denom different other => ⟨?_, ?_⟩⟩
    · rw [Store.get_save, if_pos latestId.symm]
    · rw [Store.get_save, if_pos rfl]
    · rw [Store.get_save, show ({ latest with supplyId := record.id } : BlockSupply).id = latest.id
        from rfl, latestId, if_neg (apart different)]
    · rw [Store.get_save, recordId, if_neg (apart different), storedOthers _ _ different]
  · -- The amount is the one that is pointed to.
    rename_i unchanged
    cases ran
    have spelling : toString current.amount = supply.amount := not_not.mp unchanged
    refine ⟨⟨latest, found, origin, spelled, current, pointed, ?_⟩, storedNamed,
      fun denom different other => ⟨rfl, storedOthers _ _ different⟩⟩
    rw [← spelling, bigInt_int]

/-- Recording the amounts of distinct denominations points the block to each of them, and touches
no row of another denomination. -/
theorem recordSupplies_ok {height : ℕ} {coins : List Coin}
    {before after : Store BlockSupply.id × Store Supply.id}
    (distinct : (coins.map Coin.denom).Nodup)
    (ran : coins.foldlM (recordSupply height) before = .ok after)
    (points : ∀ coin ∈ coins, ∃ latest,
      before.1.get (getSupplyId coin.denom height) = some latest ∧
        PointsTo before.2 height coin.denom latest)
    (named : SupplyNamed before.2) :
    (∀ coin ∈ coins, Recorded after height coin.denom (bigInt coin.amount)) ∧
      SupplyNamed after.2 ∧
        ∀ denom, denom ∉ coins.map Coin.denom → SameRows before after denom := by
  -- The rows of the later denominations are still as they were before the first one.
  induction coins generalizing before with
  | nil =>
    cases ran
    exact ⟨by simp, named, fun _ _ _ => ⟨rfl, rfl⟩⟩
  | cons coin rest ih =>
    rw [List.foldlM_cons] at ran
    obtain ⟨middle, first, ran⟩ := exceptBind_ok ran
    rw [List.map_cons, List.nodup_cons] at distinct
    obtain ⟨latest, found, leads⟩ := points coin List.mem_cons_self
    obtain ⟨recorded, middleNamed, others⟩ := recordSupply_ok first found leads named
    have later : ∀ other ∈ rest, ∃ latest,
        middle.1.get (getSupplyId other.denom height) = some latest ∧
          PointsTo middle.2 height other.denom latest := by
      intro other member
      have different : other.denom ≠ coin.denom := fun same =>
        distinct.1 (same ▸ List.mem_map.mpr ⟨other, member, rfl⟩)
      have same := others other.denom different
      obtain ⟨pointer, found, origin, spelled, fresh⟩ := points other (List.mem_cons_of_mem _ member)
      refine ⟨pointer, by rw [(same height).1, found], origin, spelled, ?_⟩
      rwa [spelled, (same origin).2, ← spelled]
    obtain ⟨all, afterNamed, framed⟩ := ih distinct.2 ran later middleNamed
    refine ⟨List.forall_mem_cons.mpr ⟨recorded.of_same (framed coin.denom distinct.1), all⟩,
      afterNamed, ?_⟩
    intro denom absent
    rw [List.map_cons, List.mem_cons, not_or] at absent
    intro origin
    have one := others denom absent.1 origin
    have two := framed denom absent.2 origin
    exact ⟨two.1.trans one.1, two.2.trans one.2⟩

/-- The chain's answer for a block: the supply of each denomination it returns, once. -/
structure TotalSupply where
  coins : List Coin
  distinct : (coins.map Coin.denom).Nodup

/-- The chain's total supply of a denomination, which is zero when it is not returned. -/
def TotalSupply.amountOf (answer : TotalSupply) (denom : String) : Except String Int :=
  match answer.coins.find? fun coin => coin.denom = denom with
  | some coin => bigInt coin.amount
  | none => .ok 0

/-- The stored supply, and the height of the block that is indexed next. -/
structure SupplyIndex where
  tables : SupplyTables
  height : ℕ

/-- Indexing the supply of the next block. -/
def indexSupply (index : SupplyIndex) (answer : TotalSupply) : Except String SupplyIndex := do
  let tables ← handleSupply index.height answer.coins index.tables
  return ⟨tables, index.height + 1⟩

/-- The amount a known denomination has before the answer of a block is looked at. -/
def SupplyIndex.previous (index : SupplyIndex) (denom : String) : Option Supply :=
  index.tables.supplies.get (previousSupplyId index.tables.blockSupplies index.height denom)

/-- Every known denomination leads to an amount of its own, and no other one has a pointer. -/
structure SupplyTracked (index : SupplyIndex) : Prop where
  positive : 1 ≤ index.height
  named : SupplyNamed index.tables.supplies
  known : ∀ denom height, index.tables.blockSupplies.get (getSupplyId denom height) ≠ none →
    index.tables.denoms.get denom ≠ none
  pointed : ∀ denom, index.tables.denoms.get denom ≠ none →
    ∃ supply, index.previous denom = some supply ∧ supply.denom = denom

/-- Every known denomination has a row of the last block that leads to the chain's total supply. -/
def SupplyRecorded (answer : TotalSupply) (height : ℕ) (index : SupplyIndex) : Prop :=
  ∀ denom, index.tables.denoms.get denom ≠ none →
    ∃ blockSupply, index.tables.blockSupplies.get (getSupplyId denom height) = some blockSupply ∧
      ∃ supply, index.tables.supplies.get blockSupply.supplyId = some supply ∧
        supply.denom = denom ∧ answer.amountOf denom = .ok supply.amount

/-- A known denomination is left out of an answer only when its amount was zero before. -/
def OmittedAreZero (index : SupplyIndex) (answer : TotalSupply) : Prop :=
  ∀ denom, index.tables.denoms.get denom ≠ none → denom ∉ answer.coins.map Coin.denom →
    ∃ supply, index.previous denom = some supply ∧ supply.amount = 0

/-- The stored denominations are all fetched. -/
theorem fetchAllSupplyDenom_eq (denoms : Store SupplyDenom.id) :
    fetchAllSupplyDenom denoms = denoms.records := by
  rw [fetchAllSupplyDenom, fetchPaginatedRecords_all _ _ _ (by omega), List.drop_zero]

/-- A returned denomination has the amount it is returned with. -/
theorem TotalSupply.amountOf_mem (answer : TotalSupply) {coin : Coin} (member : coin ∈ answer.coins) :
    answer.amountOf coin.denom = bigInt coin.amount := by
  unfold amountOf
  cases found : answer.coins.find? fun other => other.denom = coin.denom with
  | none => simpa using List.find?_eq_none.mp found coin member
  | some other =>
    have named := List.find?_some found
    simp only [decide_eq_true_eq] at named
    rw [List.inj_on_of_nodup_map answer.distinct (List.mem_of_find?_eq_some found) member named]

/-- A denomination that is not returned has no supply. -/
theorem TotalSupply.amountOf_absent (answer : TotalSupply) {denom : String}
    (absent : denom ∉ answer.coins.map Coin.denom) : answer.amountOf denom = .ok 0 := by
  have missing : answer.coins.find? (fun coin => coin.denom = denom) = none := by
    rw [List.find?_eq_none]
    intro coin member same
    exact absent (List.mem_map.mpr ⟨coin, member, by simpa using same⟩)
  rw [amountOf, missing]

/-- The denominations that are stored first are those that are returned and not stored. -/
theorem supplyDenomsToSave_ids {denoms : Store SupplyDenom.id} {coins : List Coin} {denom : String} :
    denom ∈ (supplyDenomsToSave denoms.records coins).map SupplyDenom.id ↔
      denom ∈ coins.map Coin.denom ∧ denoms.get denom = none := by
  have unknown : denom ∉ denoms.records.map SupplyDenom.id ↔ denoms.get denom = none := by
    rw [Store.mem_ids, not_not]
  rw [← unknown, supplyDenomsToSave, List.map_map, List.mem_map, List.mem_map]
  constructor
  · rintro ⟨coin, member, rfl⟩
    obtain ⟨inside, absent⟩ := List.mem_filter.mp member
    exact ⟨⟨coin, inside, rfl⟩, by simpa using absent⟩
  · rintro ⟨⟨coin, inside, rfl⟩, absent⟩
    exact ⟨coin, List.mem_filter.mpr ⟨inside, by simpa using absent⟩, rfl⟩

/-- The pointer of a tracked denomination leads to an id of its own. -/
theorem SupplyTracked.pointsTo {index : SupplyIndex} (tracked : SupplyTracked index)
    (denom : String) : PointsTo index.tables.supplies index.height denom
      (blockSupplyProps index.tables.blockSupplies index.height denom) := by
  by_cases present : index.tables.denoms.get denom = none
  · -- An unknown denomination has no pointer yet.
    have absent : index.tables.blockSupplies.get
        (getSupplyId denom (supplyIdHeight index.height)) = none := by
      by_contra pointer
      exact tracked.known denom _ pointer present
    refine ⟨index.height, ?_, fun _ => rfl⟩
    simp only [blockSupplyProps, previousSupplyId, absent]
  · obtain ⟨supply, found, own⟩ := tracked.pointed denom present
    have named := Store.id_of_get found
    obtain ⟨origin, spelled⟩ := tracked.named supply (by rw [named]; exact found)
    refine ⟨origin, ?_, fun absent => ?_⟩
    · rw [← own, ← spelled, named, own]
      rfl
    · rw [SupplyIndex.previous] at found
      simp only [blockSupplyProps] at absent
      rw [found] at absent
      simp at absent

/-- The pointers a block starts from. -/
def startingPointers (index : SupplyIndex) (denoms : List SupplyDenom) : Store BlockSupply.id :=
  Store.empty.bulkCreate
    (denoms.map fun denom => blockSupplyProps index.tables.blockSupplies index.height denom.id)

/-- Each denomination has its starting pointer, and no other one does. -/
theorem startingPointers_get (index : SupplyIndex) (denoms : List SupplyDenom) (denom : String) :
    (denom ∈ denoms.map SupplyDenom.id →
      (startingPointers index denoms).get (getSupplyId denom index.height) =
        some (blockSupplyProps index.tables.blockSupplies index.height denom)) ∧
    ∀ height, (startingPointers index denoms).get (getSupplyId denom height) ≠ none →
      denom ∈ denoms.map SupplyDenom.id := by
  constructor
  · intro member
    obtain ⟨item, inside, rfl⟩ := List.mem_map.mp member
    have unique : ∀ other ∈ denoms, getSupplyId other.id index.height =
        getSupplyId item.id index.height →
          blockSupplyProps index.tables.blockSupplies index.height other.id =
            blockSupplyProps index.tables.blockSupplies index.height item.id := by
      intro other _ same
      rw [(getSupplyId_inj same).1]
    exact Store.get_bulkCreate_map inside unique _
  · intro height present
    rcases Store.get_bulkCreate_ne_none.mp present with ⟨record, member, same⟩ | absent
    · obtain ⟨item, inside, rfl⟩ := List.mem_map.mp member
      rw [← (getSupplyId_inj same).1]
      exact List.mem_map.mpr ⟨item, inside, rfl⟩
    · simp at absent

/-- What a block leaves: a denomination is known if it was or is returned, the returned ones are
recorded with their amounts, and the others keep the pointers and amounts they had. -/
theorem indexSupply_ok {index next : SupplyIndex} {answer : TotalSupply}
    (tracked : SupplyTracked index) (ran : indexSupply index answer = .ok next) :
    next.height = index.height + 1 ∧ SupplyNamed next.tables.supplies ∧
      (∀ denom, next.tables.denoms.get denom ≠ none ↔
        denom ∈ answer.coins.map Coin.denom ∨ index.tables.denoms.get denom ≠ none) ∧
      (∀ denom height, next.tables.blockSupplies.get (getSupplyId denom height) ≠ none →
        next.tables.denoms.get denom ≠ none) ∧
      (∀ coin ∈ answer.coins, Recorded (next.tables.blockSupplies, next.tables.supplies)
        index.height coin.denom (bigInt coin.amount)) ∧
      ∀ denom, index.tables.denoms.get denom ≠ none → denom ∉ answer.coins.map Coin.denom →
        ∃ supply, index.previous denom = some supply ∧ Recorded
          (next.tables.blockSupplies, next.tables.supplies) index.height denom (.ok supply.amount) := by
  obtain ⟨tables, handled, rest⟩ := exceptBind_ok ran
  cases rest
  unfold handleSupply at handled
  simp only [fetchAllSupplyDenom_eq] at handled
  split at handled
  · simp at handled
  obtain ⟨after, folded, rest⟩ := exceptBind_ok handled
  cases rest
  let known := index.tables.denoms.records ++
    supplyDenomsToSave index.tables.denoms.records answer.coins
  -- The known denominations of this block are the stored ones and the returned ones.
  have listed : ∀ denom, denom ∈ known.map SupplyDenom.id ↔
      denom ∈ answer.coins.map Coin.denom ∨ index.tables.denoms.get denom ≠ none := by
    intro denom
    rw [List.map_append, List.mem_append, Store.mem_ids, or_comm, supplyDenomsToSave_ids]
    by_cases stored : index.tables.denoms.get denom = none <;> simp [stored]
  have stored : ∀ denom, (index.tables.denoms.bulkCreate (supplyDenomsToSave
      index.tables.denoms.records answer.coins)).get denom ≠ none ↔
        denom ∈ answer.coins.map Coin.denom ∨ index.tables.denoms.get denom ≠ none := by
    intro denom
    have saved := @supplyDenomsToSave_ids index.tables.denoms answer.coins denom
    rw [List.mem_map] at saved
    rw [Store.get_bulkCreate_ne_none, saved]
    by_cases stored : index.tables.denoms.get denom = none <;> simp [stored]
  have pointers := startingPointers_get index known
  -- Every returned denomination is known, so a pointer of it is prepared.
  have points : ∀ coin ∈ answer.coins, ∃ latest,
      (startingPointers index known).get (getSupplyId coin.denom index.height) = some latest ∧
        PointsTo index.tables.supplies index.height coin.denom latest := by
    intro coin member
    refine ⟨_, (pointers coin.denom).1 ((listed coin.denom).mpr
      (Or.inl (List.mem_map.mpr ⟨coin, member, rfl⟩))), ?_⟩
    exact tracked.pointsTo coin.denom
  obtain ⟨recorded, named, framed⟩ :=
    recordSupplies_ok answer.distinct folded points tracked.named
  -- The rows of the block are read before those of earlier blocks.
  have kept : ∀ {denom amount}, Recorded after index.height denom amount →
      Recorded (index.tables.blockSupplies.bulkCreate after.1.records, after.2) index.height denom
        amount := by
    rintro denom amount ⟨blockSupply, pointed, rest⟩
    exact ⟨blockSupply, by rw [Store.get_bulkCreate_records, pointed, Option.some_or], rest⟩
  refine ⟨rfl, named, stored, ?_, fun coin member => kept (recorded coin member), ?_⟩
  · intro denom height present
    rw [stored]
    rw [Store.get_bulkCreate_records] at present
    cases fresh : after.1.get (getSupplyId denom height) with
    | none =>
      rw [fresh, Option.none_or] at present
      exact Or.inr (tracked.known denom height present)
    | some blockSupply =>
      by_cases returned : denom ∈ answer.coins.map Coin.denom
      · exact Or.inl returned
      · have same := (framed denom returned height).1
        rw [fresh] at same
        exact (listed denom).mp ((pointers denom).2 height (by
          rw [show (startingPointers index known).get (getSupplyId denom height) = some blockSupply
            from same.symm]
          simp))
  · -- An omitted denomination keeps the pointer it started with.
    intro denom present omitted
    obtain ⟨supply, found, own⟩ := tracked.pointed denom present
    refine ⟨supply, found, kept (Recorded.of_same ?_ (framed denom omitted))⟩
    obtain ⟨origin, spelled, _⟩ := tracked.pointsTo denom
    exact ⟨_, (pointers denom).1 ((listed denom).mpr (Or.inr present)), origin, spelled, supply,
      found, rfl⟩

/-- What is recorded of a block is where the next block starts from. -/
theorem Recorded.previous {next : SupplyIndex} {height : ℕ} {denom : String}
    {amount : Except String Int} (positive : 1 ≤ height) (following : next.height = height + 1)
    (recorded : Recorded (next.tables.blockSupplies, next.tables.supplies) height denom amount) :
    ∃ supply, next.previous denom = some supply ∧ amount = .ok supply.amount := by
  obtain ⟨blockSupply, pointed, origin, _, supply, found, value⟩ := recorded
  have before : supplyIdHeight next.height = height := by
    rw [supplyIdHeight, following, if_neg (by omega)]
    omega
  refine ⟨supply, ?_, value⟩
  rw [SupplyIndex.previous, previousSupplyId, before, pointed]
  exact found

/-- A block keeps the supply tracked, and its rows give the chain's total supply exactly when the
denominations that are left out of its answer were zero before. -/
theorem indexSupply_recorded {index next : SupplyIndex} {answer : TotalSupply}
    (tracked : SupplyTracked index) (ran : indexSupply index answer = .ok next) :
    SupplyTracked next ∧
      (SupplyRecorded answer index.height next ↔ OmittedAreZero index answer) := by
  obtain ⟨following, named, denoms, known, returned, omitted⟩ := indexSupply_ok tracked ran
  -- A known denomination is recorded with its answer, or with the amount it had.
  have cases : ∀ denom, next.tables.denoms.get denom ≠ none →
      ∃ amount, Recorded (next.tables.blockSupplies, next.tables.supplies) index.height denom
        amount := by
    intro denom present
    by_cases inside : denom ∈ answer.coins.map Coin.denom
    · obtain ⟨coin, member, rfl⟩ := List.mem_map.mp inside
      exact ⟨_, returned coin member⟩
    · obtain ⟨supply, _, recorded⟩ := omitted denom
        (((denoms denom).mp present).resolve_left inside) inside
      exact ⟨_, recorded⟩
  refine ⟨⟨by omega, named, known, ?_⟩, ?_, ?_⟩
  · -- What a pointer of this block leads to is the previous supply of the next.
    intro denom present
    obtain ⟨amount, blockSupply, pointed, origin, spelled, supply, found, value⟩ := cases denom present
    obtain ⟨other, previous, _⟩ := Recorded.previous tracked.positive following
      ⟨blockSupply, pointed, origin, spelled, supply, found, value⟩
    obtain ⟨latest, located⟩ : ∃ height, other.id = getSupplyId denom height := by
      have before : supplyIdHeight next.height = index.height := by
        have positive := tracked.positive
        rw [supplyIdHeight, following, if_neg (by omega)]
        omega
      rw [SupplyIndex.previous, previousSupplyId, before, pointed] at previous
      exact ⟨origin, (Store.id_of_get previous).trans spelled⟩
    refine ⟨other, previous, ?_⟩
    have own := Store.id_of_get previous
    rw [SupplyIndex.previous, ← own, located] at previous
    exact named.denom previous
  · intro holds denom present absent
    obtain ⟨supply, previous, blockSupply, pointed, origin, spelled, stored, found, value⟩ :=
      omitted denom present absent
    obtain ⟨other, pointer, amount, located, _, chain⟩ :=
      holds denom ((denoms denom).mpr (Or.inr present))
    -- The row of the block leads to the amount the denomination had.
    rw [pointed] at pointer
    cases pointer
    rw [found] at located
    cases located
    rw [answer.amountOf_absent absent] at chain
    have kept := Except.ok.inj value
    have zero := Except.ok.inj chain
    exact ⟨supply, previous, kept.trans zero.symm⟩
  · -- Omitted or not, each is recorded with what the answer says of it.
    intro zero denom present
    have recorded : Recorded (next.tables.blockSupplies, next.tables.supplies) index.height denom
        (answer.amountOf denom) := by
      by_cases inside : denom ∈ answer.coins.map Coin.denom
      · obtain ⟨coin, member, rfl⟩ := List.mem_map.mp inside
        rw [answer.amountOf_mem member]
        exact returned coin member
      · have before := ((denoms denom).mp present).resolve_left inside
        obtain ⟨supply, previous, amount⟩ := zero denom before inside
        obtain ⟨other, same, kept⟩ := omitted denom before inside
        rw [previous] at same
        cases same
        rw [answer.amountOf_absent inside, ← amount]
        exact kept
    obtain ⟨blockSupply, pointed, origin, spelled, supply, found, value⟩ := recorded
    refine ⟨blockSupply, pointed, supply, found, ?_, value⟩
    have located : next.tables.supplies.get (getSupplyId denom origin) = some supply := by
      rw [← spelled]
      exact found
    exact named.denom located

/-- Along any run of consecutive blocks every block's rows give the chain's total supply exactly
when no answer leaves out a denomination whose last amount is not zero. -/
theorem supplyHistory_iff {index : SupplyIndex} {answers : List TotalSupply}
    (tracked : SupplyTracked index) :
    EveryStep indexSupply (fun before answer next => SupplyRecorded answer before.height next) index
        answers ↔
      EveryStep indexSupply (fun before answer _ => OmittedAreZero before answer) index answers := by
  refine EveryStep.iff_of_invariant SupplyTracked tracked ?_
  intro before answer next good ran
  obtain ⟨kept, iff⟩ := indexSupply_recorded good ran
  exact ⟨iff, fun _ => kept⟩

/-- Nothing is stored when indexing starts at a height. -/
def emptySupplyIndex (height : ℕ) : SupplyIndex := ⟨⟨Store.empty, Store.empty, Store.empty⟩, height⟩

theorem tracked_emptySupplyIndex {height : ℕ} (positive : 1 ≤ height) :
    SupplyTracked (emptySupplyIndex height) := by
  refine ⟨positive, ?_, ?_, ?_⟩
  · intro supply found
    simp [emptySupplyIndex] at found
  · intro denom height present
    simp [emptySupplyIndex] at present
  · intro denom present
    simp [emptySupplyIndex] at present

/-- An answer with one denomination. -/
def oneCoinSupply (denom amount : String) : TotalSupply := ⟨[⟨amount, denom⟩], by simp⟩

/-- A denomination whose amount changes is recorded at both heights. -/
theorem supplyHistory_iff_burned :
    EveryStep indexSupply (fun before answer next => SupplyRecorded answer before.height next)
      (emptySupplyIndex 7) [oneCoinSupply "upokt" "100", oneCoinSupply "upokt" "90"] := by
  refine (supplyHistory_iff (tracked_emptySupplyIndex (by decide))).mpr ?_
  intro next first
  refine ⟨by intro denom present; simp [emptySupplyIndex] at present, ?_⟩
  intro last second
  refine ⟨?_, trivial⟩
  intro denom present absent
  obtain ⟨_, _, denoms, _⟩ := indexSupply_ok (tracked_emptySupplyIndex (by decide)) first
  have known := (denoms denom).mp present
  simp only [emptySupplyIndex, Store.get_empty, ne_eq, not_true_eq_false, or_false] at known
  exact absurd known absent

/-- A denomination that vanishes keeps its last amount. -/
theorem supplyHistory_stale :
    ¬EveryStep indexSupply (fun before answer next => SupplyRecorded answer before.height next)
      (emptySupplyIndex 7) [⟨[⟨"100", "upokt"⟩, ⟨"5", "ibc/A"⟩], by decide⟩,
        oneCoinSupply "upokt" "100"] := by
  intro every
  obtain ⟨next, first, last, second, rows⟩ : ∃ next, indexSupply (emptySupplyIndex 7)
      ⟨[⟨"100", "upokt"⟩, ⟨"5", "ibc/A"⟩], by decide⟩ = .ok next ∧
        ∃ last, indexSupply next (oneCoinSupply "upokt" "100") = .ok last ∧
          next.height = 8 ∧ last.tables.denoms.get "ibc/A" = some ⟨"ibc/A"⟩ ∧
            last.tables.blockSupplies.get (getSupplyId "ibc/A" 8) =
              some ⟨"ibc/A@8", 8, "ibc/A@7"⟩ ∧
            last.tables.supplies.get "ibc/A@7" = some ⟨"ibc/A@7", "ibc/A", 5⟩ := by
    refine ⟨_, rfl, _, rfl, ?_⟩
    decide +kernel
  obtain ⟨height, known, pointer, amount⟩ := rows
  obtain ⟨_, further⟩ := every next first
  obtain ⟨recorded, _⟩ := further last second
  obtain ⟨blockSupply, pointed, supply, found, _, value⟩ := recorded "ibc/A" (by rw [known]; simp)
  rw [height, pointer] at pointed
  cases pointed
  rw [amount] at found
  cases found
  simp [TotalSupply.amountOf, oneCoinSupply] at value

end Pocketdex
