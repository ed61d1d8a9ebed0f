import Mathlib.Data.List.Perm.Basic
import Pocketdex.DbFunctions.Delegators

/-! When the data of a delegator do not depend on the other addresses that are asked for. -/

namespace Pocketdex

/-- Whether a supplier is staked, and shares revenue of one of its services with an address. -/
def SharesWith (tables : DelegatorTables) (supplierId address : String) : Prop :=
  (∃ ssc ∈ tables.supplierServiceConfigs, ssc.data.supplierId = supplierId ∧
    ssc.blockRange.upperInf = true ∧ ∃ elem ∈ ssc.data.revShare, elem.address = address) ∧
  ∃ s ∈ tables.suppliers, s.data.id = supplierId ∧ s.data.stakeStatus = .staked ∧
    s.blockRange.upperInf = true

instance (tables : DelegatorTables) (supplierId address : String) :
    Decidable (SharesWith tables supplierId address) := inferInstanceAs (Decidable (_ ∧ _))

/-- The staked suppliers that share revenue with an address. -/
def sharingSuppliers (tables : DelegatorTables) (address : String) : List String :=
  (tables.supplierServiceConfigs.map fun ssc => ssc.data.supplierId).dedup.filter
    fun supplierId => SharesWith tables supplierId address

/-- How many other addresses that are asked for a supplier shares revenue with. -/
def otherAddresses (tables : DelegatorTables) (addresses : List String) (address supplierId : String) :
    ℕ :=
  (addresses.dedup.filter fun other => other ≠ address ∧ SharesWith tables supplierId other).length

/-- The claims, settlements and slashes of a range of blocks. -/
structure RangeRows where
  claims : List Settlement.MsgCreateClaimProps
  settled : List Settlement.EventClaimSettledProps
  slashes : List EventSupplierSlashedProps

/-- The rows of blocks between two dates. -/
def rowsBetweenDates (tables : DelegatorTables) (startTs endTs : Int) : RangeRows :=
  let inside (blockId : ℕ) : Bool :=
    tables.blocks.any fun block => block.id = blockId && block.within startTs endTs
  { claims := tables.msgCreateClaims.filter fun mcc => inside mcc.blockId
    settled := tables.eventClaimSettleds.filter fun ecs => inside ecs.blockId
    slashes := tables.eventSupplierSlasheds.filter fun ess => inside ess.blockId }

/-- The rows of blocks between two heights. -/
def rowsBetweenHeights (tables : DelegatorTables) (startHeight endHeight : ℕ) : RangeRows :=
  let inside (blockId : ℕ) : Bool := startHeight ≤ blockId ∧ blockId ≤ endHeight
  { claims := tables.msgCreateClaims.filter fun mcc => inside mcc.blockId
    settled := tables.eventClaimSettleds.filter fun ecs => inside ecs.blockId
    slashes := tables.eventSupplierSlasheds.filter fun ess => inside ess.blockId }

/-- Of the rows of a range those of some suppliers. -/
def RangeRows.ofSuppliers (range : RangeRows) (suppliers : List String) : RangeRows where
  claims := range.claims.filter fun mcc => mcc.supplierId ∈ suppliers
  settled := range.settled.filter fun ecs => ecs.supplierId ∈ suppliers.map some
  slashes := range.slashes.filter fun ess => ess.supplierId ∈ suppliers

/-- The stake a slash took. -/
def EventSupplierSlashedProps.slashed (ess : EventSupplierSlashedProps) : Int :=
  ess.previousStakeAmount - ess.afterStakeAmount

/-- The row of an address: what the staked suppliers that share revenue with it did, each claim,
settlement and slash counted once. -/
def expectedData (tables : DelegatorTables) (range : RangeRows) (address : String) :
    List DelegatorData :=
  let suppliers := sharingSuppliers tables address
  let rows := range.ofSuppliers suppliers
  if suppliers.isEmpty then []
  else [{
    address
    proofRelays := (rows.settled.map Settlement.EventClaimSettledProps.numRelays).sum
    proofComputedUnits :=
      (rows.settled.map Settlement.EventClaimSettledProps.numClaimedComputedUnits).sum
    proofUpokt := (rows.settled.map Settlement.EventClaimSettledProps.claimedAmount).sum
    proofAmount := rows.settled.length
    claimRelays := (rows.claims.map Settlement.MsgCreateClaimProps.numRelays).sum
    claimComputedUnits :=
      (rows.claims.map Settlement.MsgCreateClaimProps.numClaimedComputedUnits).sum
    claimUpokt := (rows.claims.map Settlement.MsgCreateClaimProps.claimedAmount).sum
    claimAmount := rows.claims.length
    slashed := (rows.slashes.map EventSupplierSlashedProps.slashed).sum }]

/-- The rows of an address in what is returned. -/
def rowsOf (result : Option (List DelegatorData)) (address : String) : List DelegatorData :=
  (result.getD []).filter fun row => row.address = address

/-- What is counted again comes to nothing: the figures of the suppliers of an address, each as often
as there are other addresses that are asked for and that the supplier shares revenue with. -/
structure NothingRepeated (tables : DelegatorTables) (range : RangeRows) (addresses : List String)
    (address : String) : Prop where
  claims : ∀ figure ∈ [Settlement.MsgCreateClaimProps.numRelays,
      Settlement.MsgCreateClaimProps.numClaimedComputedUnits,
      Settlement.MsgCreateClaimProps.claimedAmount],
    ((range.ofSuppliers (sharingSuppliers tables address)).claims.map fun mcc =>
      (otherAddresses tables addresses address mcc.supplierId : Int) * figure mcc).sum = 0
  settled : ∀ figure ∈ [Settlement.EventClaimSettledProps.numRelays,
      Settlement.EventClaimSettledProps.numClaimedComputedUnits,
      Settlement.EventClaimSettledProps.claimedAmount],
    ((range.ofSuppliers (sharingSuppliers tables address)).settled.map fun ecs =>
      (otherAddresses tables addresses address (ecs.supplierId.getD "") : Int) * figure ecs).sum = 0
  slashes : ((range.ofSuppliers (sharingSuppliers tables address)).slashes.map fun ess =>
    (otherAddresses tables addresses address ess.supplierId : Int) * ess.slashed).sum = 0

section

variable {tables : DelegatorTables} {addresses : List String} {address : String}

/-- A supplier is matched with the addresses asked for that it shares revenue with. -/
theorem mem_matchedSuppliers {supplierId other : String} :
    (supplierId, other) ∈ matchedSuppliers tables addresses ↔
      other ∈ addresses ∧ SharesWith tables supplierId other := by
  unfold matchedSuppliers SharesWith
  simp only [List.mem_dedup, List.mem_flatMap, Sql.mem_innerJoin, List.mem_map, List.mem_filter,
    decide_eq_true_eq, Prod.exists, Prod.mk.injEq]
  constructor
  · rintro ⟨ssc, s, ⟨inside, found, same⟩, elem, ⟨shared, asked, current, staked, open_⟩, rfl, rfl⟩
    exact ⟨asked, ⟨ssc, inside, rfl, current, elem, shared, rfl⟩, s, found, same, staked, open_⟩
  · rintro ⟨asked, ⟨ssc, inside, rfl, current, elem, shared, rfl⟩, s, found, same, staked, open_⟩
    exact ⟨ssc, s, ⟨inside, found, same⟩, elem, ⟨shared, asked, current, staked, open_⟩, rfl, rfl⟩

/-- The suppliers of an address are those that share revenue with it. -/
theorem mem_sharingSuppliers {supplierId : String} :
    supplierId ∈ sharingSuppliers tables address ↔ SharesWith tables supplierId address := by
  simp only [sharingSuppliers, List.mem_filter, List.mem_dedup, List.mem_map, decide_eq_true_eq]
  refine ⟨fun both => both.2, fun shares => ⟨?_, shares⟩⟩
  obtain ⟨⟨ssc, inside, same, -⟩, -⟩ := shares
  exact ⟨ssc, inside, same⟩

/-- The suppliers of an address are listed once. -/
theorem nodup_sharingSuppliers : (sharingSuppliers tables address).Nodup :=
  (List.nodup_dedup _).filter _

/-- An address that is asked for is matched with its suppliers. -/
theorem matched_perm_sharing (asked : address ∈ addresses) :
    (((matchedSuppliers tables addresses).filter fun ms => ms.2 = address).map Prod.fst).Perm
      (sharingSuppliers tables address) := by
  have nodup : (matchedSuppliers tables addresses).Nodup := List.nodup_dedup _
  refine (List.perm_ext_iff_of_nodup ?_ nodup_sharingSuppliers).mpr fun supplierId => ?_
  · rw [List.Nodup, List.pairwise_map]
    refine (nodup.filter _).imp_of_mem fun {first second} inside other different same => ?_
    have left := of_decide_eq_true (List.mem_filter.mp inside).2
    have right := of_decide_eq_true (List.mem_filter.mp other).2
    exact different (Prod.ext same (left.trans right.symm))
  · rw [mem_sharingSuppliers, List.mem_map]
    constructor
    · rintro ⟨⟨found, other⟩, member, rfl⟩
      obtain ⟨inside, rfl⟩ := by simpa using List.mem_filter.mp member
      exact (mem_matchedSuppliers.mp inside).2
    · intro shares
      exact ⟨(supplierId, address), List.mem_filter.mpr
        ⟨mem_matchedSuppliers.mpr ⟨asked, shares⟩, by simp⟩, rfl⟩

/-- A supplier of an address is matched with it and with the other addresses it shares with. -/
theorem matched_count (asked : address ∈ addresses) {supplierId : String}
    (shares : SharesWith tables supplierId address) :
    (matchedSuppliers tables addresses).countP (fun ms => ms.1 = supplierId) =
      1 + otherAddresses tables addresses address supplierId := by
  have nodup : (matchedSuppliers tables addresses).Nodup := List.nodup_dedup _
  have same : (((matchedSuppliers tables addresses).filter fun ms => ms.1 = supplierId).map
      Prod.snd).Perm (address :: addresses.dedup.filter
        fun other => other ≠ address ∧ SharesWith tables supplierId other) := by
    refine (List.perm_ext_iff_of_nodup ?_ ?_).mpr fun other => ?_
    · rw [List.Nodup, List.pairwise_map]
      refine (nodup.filter _).imp_of_mem fun {first second} inside others different same => ?_
      have left := of_decide_eq_true (List.mem_filter.mp inside).2
      have right := of_decide_eq_true (List.mem_filter.mp others).2
      exact different (Prod.ext (left.trans right.symm) same)
    · exact List.nodup_cons.mpr ⟨by simp, (List.nodup_dedup _).filter _⟩
    · simp only [List.mem_map, List.mem_filter, decide_eq_true_eq, Prod.exists, List.mem_cons,
        List.mem_dedup]
      constructor
      · rintro ⟨found, last, ⟨inside, rfl⟩, rfl⟩
        obtain ⟨listed, shared⟩ := mem_matchedSuppliers.mp inside
        by_cases same : last = address
        · exact Or.inl same
        · exact Or.inr ⟨listed, same, shared⟩
      · rintro (rfl | ⟨listed, -, shared⟩)
        · exact ⟨supplierId, other, ⟨mem_matchedSuppliers.mpr ⟨asked, shares⟩, rfl⟩, rfl⟩
        · exact ⟨supplierId, other, ⟨mem_matchedSuppliers.mpr ⟨listed, shared⟩, rfl⟩, rfl⟩
  rw [List.countP_eq_length_filter, ← List.length_map Prod.snd, same.length_eq, List.length_cons,
    Nat.add_comm]
  rfl

end

section

variable {ρ κ : Type} [DecidableEq κ] {key : ρ → κ} {names : String → κ} {rows : List ρ}
  {matched : List (String × String)} {supplierId : String}

/-- The records of a matched supplier, each joined with every match of the supplier. -/
def joinedOf (key : ρ → κ) (names : String → κ) (rows : List ρ) (matched : List (String × String))
    (supplierId : String) : List (ρ × (String × String)) :=
  (Sql.innerJoin (fun row ms => names ms.1 = key row) rows matched).filter
    fun pair => key pair.1 = names supplierId

/-- Joining keeps the records of a supplier, as often as the supplier is matched. -/
theorem sum_joinedOf (injective : Function.Injective names) (f : ρ → Int) :
    ((joinedOf key names rows matched supplierId).map fun pair => f pair.1).sum =
      (matched.countP (fun ms => ms.1 = supplierId) : Int) *
        ((rows.filter fun row => key row = names supplierId).map f).sum := by
  unfold joinedOf
  rw [Sql.filter_innerJoin_fst (fun row => decide (key row = names supplierId)),
    Sql.sum_innerJoin_fst, ← List.sum_map_mul_left]
  refine congrArg List.sum (List.map_congr_left fun row member => ?_)
  have named := of_decide_eq_true (List.mem_filter.mp member).2
  simp only [named, injective.eq_iff]

/-- What is summed over the records of a supplier, which is null without any. -/
theorem figure_joinedOf {γ : Type} (injective : Function.Injective names) {value : γ}
    {figure : γ → Option Int} {f : ρ → Int}
    (summed : figure value =
      Sql.sum ((joinedOf key names rows matched supplierId).map fun pair => some (f pair.1))) :
    ((if (joinedOf key names rows matched supplierId).isEmpty then none
      else some (names supplierId, value)).bind fun group => figure group.2).getD 0 =
      (matched.countP (fun ms => ms.1 = supplierId) : Int) *
        ((rows.filter fun row => key row = names supplierId).map f).sum := by
  rw [← sum_joinedOf injective]
  exact Sql.sum_group summed

/-- The distinct ids of the records of a matched supplier are counted once. -/
theorem count_joinedOf {ι : Type} [DecidableEq ι] {id : ρ → ι} (distinct : (rows.map id).Nodup)
    (listed : 0 < matched.countP fun ms => ms.1 = supplierId) :
    Sql.countDistinct ((joinedOf key names rows matched supplierId).map fun pair => id pair.1) =
      (rows.filter fun row => key row = names supplierId).length := by
  have nodup : ((rows.filter fun row => decide (key row = names supplierId)).map id).Nodup :=
    distinct.sublist (List.filter_sublist.map id)
  rw [Sql.countDistinct, ← List.length_map id]
  refine List.Perm.length_eq ((List.perm_ext_iff_of_nodup (List.nodup_dedup _) nodup).mpr
    fun value => ?_)
  simp only [joinedOf, List.mem_dedup, List.mem_map, List.mem_filter, Sql.mem_innerJoin,
    decide_eq_true_eq]
  constructor
  · rintro ⟨pair, ⟨⟨inside, -, -⟩, named⟩, rfl⟩
    exact ⟨pair.1, ⟨inside, named⟩, rfl⟩
  · rintro ⟨row, ⟨inside, named⟩, rfl⟩
    -- The supplier is matched, so its records are joined.
    obtain ⟨ms, found, same⟩ := List.countP_pos_iff.mp listed
    rw [decide_eq_true_eq] at same
    exact ⟨(row, ms), ⟨⟨inside, found, by rw [named, same]⟩, named⟩, rfl⟩

/-- A group has as many records as its joined records have distinct ids. -/
theorem count_group {ι γ : Type} [DecidableEq ι] {id : ρ → ι} {value : γ} {count : γ → ℕ}
    (counted : count value = Sql.countDistinct
      ((joinedOf key names rows matched supplierId).map fun pair => id pair.1))
    (distinct : (rows.map id).Nodup) (listed : 0 < matched.countP fun ms => ms.1 = supplierId) :
    ((if (joinedOf key names rows matched supplierId).isEmpty then none
      else some (names supplierId, value)).map fun group => (count group.2 : Int)).getD 0 =
      (rows.filter fun row => key row = names supplierId).length := by
  rw [← count_joinedOf distinct listed]
  split
  · rename_i empty
    rw [List.isEmpty_iff.mp empty]
    rfl
  · simp only [Option.map_some, Option.getD_some, counted]

/-- The records of an address, where each is weighted by its supplier. -/
theorem sum_suppliers (injective : Function.Injective names) {suppliers : List String}
    (distinct : suppliers.Nodup) {supplierOf : ρ → String}
    (named : ∀ row ∈ rows, key row ∈ suppliers.map names → names (supplierOf row) = key row)
    (weight : String → Int) (f : ρ → Int) :
    (suppliers.map fun supplierId =>
      weight supplierId * ((rows.filter fun row => key row = names supplierId).map f).sum).sum =
      ((rows.filter fun row => key row ∈ suppliers.map names).map fun row =>
        weight (supplierOf row) * f row).sum := by
  rw [← Sql.sum_map_filter_key (distinct.map injective), List.map_map]
  refine congrArg List.sum (List.map_congr_left fun supplierId member => ?_)
  rw [← List.sum_map_mul_left]
  refine congrArg List.sum (List.map_congr_left fun row inside => ?_)
  obtain ⟨found, same⟩ := List.mem_filter.mp inside
  rw [decide_eq_true_eq] at same
  have listed : key row ∈ suppliers.map names :=
    same.symm ▸ List.mem_map_of_mem member
  have supplier : supplierOf row = supplierId :=
    injective ((named row found listed).trans same)
  rw [supplier]

end

section

variable {tables : DelegatorTables} {range : RangeRows} {addresses : List String}
  {address : String}

/-- What is summed over the matched suppliers of an address is summed over all its suppliers. -/
theorem sum_matched (asked : address ∈ addresses) (f : String → Int) :
    (((matchedSuppliers tables addresses).filter fun ms => ms.2 = address).map
      fun ms => f ms.1).sum = ((sharingSuppliers tables address).map f).sum := by
  rw [← ((matched_perm_sharing asked).map f).sum_eq, List.map_map]
  rfl

/-- A figure of an address is what its suppliers' records come to, and what is counted again. -/
theorem figure_address {ρ κ : Type} [DecidableEq κ] {key : ρ → κ} {names : String → κ}
    {rows : List ρ} (injective : Function.Injective names) {supplierOf : ρ → String}
    (named : ∀ row ∈ rows, key row ∈ (sharingSuppliers tables address).map names →
      names (supplierOf row) = key row)
    (asked : address ∈ addresses) (f : ρ → Int) :
    (((matchedSuppliers tables addresses).filter fun ms => ms.2 = address).map fun ms =>
      ((matchedSuppliers tables addresses).countP (fun other => other.1 = ms.1) : Int) *
        ((rows.filter fun row => key row = names ms.1).map f).sum).sum =
      ((rows.filter fun row => key row ∈ (sharingSuppliers tables address).map names).map f).sum +
      ((rows.filter fun row => key row ∈ (sharingSuppliers tables address).map names).map fun row =>
        (otherAddresses tables addresses address (supplierOf row) : Int) * f row).sum := by
  rw [sum_matched asked fun supplierId =>
    ((matchedSuppliers tables addresses).countP (fun other => other.1 = supplierId) : Int) *
      ((rows.filter fun row => key row = names supplierId).map f).sum]
  -- A supplier is matched once with the address, and once with each of the others.
  have counts : (sharingSuppliers tables address).map (fun supplierId =>
      ((matchedSuppliers tables addresses).countP (fun other => other.1 = supplierId) : Int) *
        ((rows.filter fun row => key row = names supplierId).map f).sum) =
      (sharingSuppliers tables address).map fun supplierId =>
        (1 + (otherAddresses tables addresses address supplierId : Int)) *
          ((rows.filter fun row => key row = names supplierId).map f).sum := by
    refine List.map_congr_left fun supplierId member => ?_
    rw [matched_count asked (mem_sharingSuppliers.mp member)]
    push_cast
    rfl
  rw [counts, sum_suppliers injective nodup_sharingSuppliers named
    fun supplierId => 1 + (otherAddresses tables addresses address supplierId : Int),
    ← List.sum_map_add]
  refine congrArg List.sum (List.map_congr_left fun row _ => ?_)
  ring

end

section

variable (matched : List (String × String)) (range : RangeRows)

/-- The created claims of one supplier. -/
def claimGroup (supplierId : String) : Option (String × ClaimSums) :=
  let joined := joinedOf Settlement.MsgCreateClaimProps.supplierId id range.claims matched supplierId
  if joined.isEmpty then none else some (supplierId, ClaimSums.ofClaims joined)

/-- The settled claims of one supplier. -/
def proofGroup (supplierId : String) : Option (Option String × ClaimSums) :=
  let joined :=
    joinedOf Settlement.EventClaimSettledProps.supplierId some range.settled matched supplierId
  if joined.isEmpty then none else some (some supplierId, ClaimSums.ofSettled joined)

/-- The slashed stake of one supplier. -/
def slashGroup (supplierId : String) : Option (String × Option Int) :=
  let joined := joinedOf EventSupplierSlashedProps.supplierId id range.slashes matched supplierId
  if joined.isEmpty then none else some (supplierId, slashedSum joined)

/-- What the suppliers matched with an address did. -/
def addressData (address : String) (suppliers : List String) : DelegatorData where
  address := address
  proofRelays := (suppliers.map fun supplierId =>
    ((proofGroup matched range supplierId).bind fun p => p.2.relays).getD 0).sum
  proofComputedUnits := (suppliers.map fun supplierId =>
    ((proofGroup matched range supplierId).bind fun p => p.2.computedUnits).getD 0).sum
  proofUpokt := (suppliers.map fun supplierId =>
    ((proofGroup matched range supplierId).bind fun p => p.2.upokt).getD 0).sum
  proofAmount := (suppliers.map fun supplierId =>
    ((proofGroup matched range supplierId).map fun p => (p.2.count : Int)).getD 0).sum
  claimRelays := (suppliers.map fun supplierId =>
    ((claimGroup matched range supplierId).bind fun c => c.2.relays).getD 0).sum
  claimComputedUnits := (suppliers.map fun supplierId =>
    ((claimGroup matched range supplierId).bind fun c => c.2.computedUnits).getD 0).sum
  claimUpokt := (suppliers.map fun supplierId =>
    ((claimGroup matched range supplierId).bind fun c => c.2.upokt).getD 0).sum
  claimAmount := (suppliers.map fun supplierId =>
    ((claimGroup matched range supplierId).map fun c => (c.2.count : Int)).getD 0).sum
  slashed := (suppliers.map fun supplierId =>
    ((slashGroup matched range supplierId).bind fun s => s.2).getD 0).sum

/-- An address has the row of the suppliers that are matched with it, if there are any. -/
theorem rowsOf_delegatorRows (address : String) :
    rowsOf (delegatorRows matched range.claims range.settled range.slashes) address =
      if (matched.filter fun ms => ms.2 = address).isEmpty then []
      else [addressData matched range address
        ((matched.filter fun ms => ms.2 = address).map Prod.fst)] := by
  -- Every match is paired with the groups of its supplier.
  have claims : Sql.leftJoin (fun ms c => decide (c.1 = ms.1)) matched
      (claimAgg matched range.claims) =
      matched.map fun ms => (ms, claimGroup matched range ms.1) :=
    Sql.leftJoin_groupBy (fun _ => ClaimSums.ofClaims) Prod.fst matched
  have settled : Sql.leftJoin (fun (row : (String × String) × Option (String × ClaimSums)) p =>
        decide (p.1 = some row.1.1))
      (matched.map fun ms => (ms, claimGroup matched range ms.1)) (proofAgg matched range.settled) =
      (matched.map fun ms => (ms, claimGroup matched range ms.1)).map fun row =>
        (row, proofGroup matched range row.1.1) :=
    Sql.leftJoin_groupBy (fun _ => ClaimSums.ofSettled)
      (fun row : (String × String) × Option (String × ClaimSums) => some row.1.1) _
  have slashes : Sql.leftJoin (fun (row : ((String × String) × Option (String × ClaimSums)) ×
        Option (Option String × ClaimSums)) s => decide (s.1 = row.1.1.1))
      ((matched.map fun ms => (ms, claimGroup matched range ms.1)).map fun row =>
        (row, proofGroup matched range row.1.1)) (slashedAgg matched range.slashes) =
      ((matched.map fun ms => (ms, claimGroup matched range ms.1)).map fun row =>
        (row, proofGroup matched range row.1.1)).map fun row =>
          (row, slashGroup matched range row.1.1.1) :=
    Sql.leftJoin_groupBy (fun _ => slashedSum) (fun row : ((String × String) ×
      Option (String × ClaimSums)) × Option (Option String × ClaimSums) => row.1.1.1) _
  unfold rowsOf delegatorRows
  simp only [claims, settled, slashes, Sql.jsonbAgg_getD]
  rw [List.filter_map]
  have grouped := @Sql.filter_groupBy _ _ _ (fun row : ((((String × String) ×
      Option (String × ClaimSums)) × Option (Option String × ClaimSums)) ×
      Option (String × Option Int)) => row.1.1.1.2)
    (((matched.map fun ms => (ms, claimGroup matched range ms.1)).map fun row =>
      (row, proofGroup matched range row.1.1)).map fun row =>
        (row, slashGroup matched range row.1.1.1)) address
  have chosen : (((matched.map fun ms => (ms, claimGroup matched range ms.1)).map fun row =>
      (row, proofGroup matched range row.1.1)).map fun row =>
        (row, slashGroup matched range row.1.1.1)).filter
          (fun row => decide (row.1.1.1.2 = address)) =
      (matched.filter fun ms => ms.2 = address).map fun ms =>
        (((ms, claimGroup matched range ms.1), proofGroup matched range ms.1),
          slashGroup matched range ms.1) := by
    rw [List.map_map, List.map_map, List.filter_map]
    rfl
  rw [chosen] at grouped
  refine (congrArg (List.map _) grouped).trans ?_
  rw [List.isEmpty_map]
  split
  · rfl
  · simp only [List.map_cons, List.map_nil, addressData, Sql.sum_getD, List.map_map,
      Function.comp_def]

end

section

variable {tables : DelegatorTables} {range : RangeRows} {addresses : List String}
  {address : String}

/-- A figure that is summed over the suppliers of an address, each as often as it is matched. -/
theorem figure_suppliers {ρ κ : Type} [DecidableEq κ] {key : ρ → κ} {names : String → κ}
    {rows : List ρ} (injective : Function.Injective names) {supplierOf : ρ → String}
    (named : ∀ row ∈ rows, key row ∈ (sharingSuppliers tables address).map names →
      names (supplierOf row) = key row)
    (asked : address ∈ addresses) (f : ρ → Int) {figure : String → Int}
    (each : ∀ supplierId, figure supplierId =
      ((matchedSuppliers tables addresses).countP (fun ms => ms.1 = supplierId) : Int) *
        ((rows.filter fun row => key row = names supplierId).map f).sum) :
    ((((matchedSuppliers tables addresses).filter fun ms => ms.2 = address).map Prod.fst).map
      figure).sum =
      ((rows.filter fun row => key row ∈ (sharingSuppliers tables address).map names).map f).sum +
      ((rows.filter fun row => key row ∈ (sharingSuppliers tables address).map names).map fun row =>
        (otherAddresses tables addresses address (supplierOf row) : Int) * f row).sum := by
  rw [← figure_address injective named asked f, List.map_map]
  exact congrArg List.sum (List.map_congr_left fun ms _ => each ms.1)

/-- The records of an address are counted once. -/
theorem count_suppliers {ρ κ : Type} [DecidableEq κ] {key : ρ → κ} {names : String → κ}
    {rows : List ρ} (injective : Function.Injective names) (asked : address ∈ addresses)
    {count : String → Int}
    (each : ∀ supplierId, 0 < (matchedSuppliers tables addresses).countP
      (fun ms => ms.1 = supplierId) →
        count supplierId = (rows.filter fun row => key row = names supplierId).length) :
    ((((matchedSuppliers tables addresses).filter fun ms => ms.2 = address).map Prod.fst).map
      count).sum =
      (rows.filter fun row => key row ∈ (sharingSuppliers tables address).map names).length := by
  have counts : (((matchedSuppliers tables addresses).filter fun ms => ms.2 = address).map
      Prod.fst).map count = (((matchedSuppliers tables addresses).filter fun ms =>
        ms.2 = address).map Prod.fst).map fun supplierId =>
          ((rows.filter fun row => key row = names supplierId).map fun _ => (1 : Int)).sum := by
    refine List.map_congr_left fun supplierId member => ?_
    obtain ⟨ms, inside, rfl⟩ := List.mem_map.mp member
    have listed : 0 < (matchedSuppliers tables addresses).countP (fun other => other.1 = ms.1) :=
      List.countP_pos_iff.mpr ⟨ms, (List.mem_filter.mp inside).1, by simp⟩
    rw [each ms.1 listed]
    simp
  have total : (((sharingSuppliers tables address).map names).map fun value =>
      ((rows.filter fun row => key row = value).map fun _ => (1 : Int)).sum).sum = _ :=
    Sql.sum_map_filter_key (nodup_sharingSuppliers.map injective) _ rows
  rw [List.map_map] at total
  rw [counts, ((matched_perm_sharing asked).map _).sum_eq]
  exact total.trans (by simp)

/-- A figure of the created claims of an address. -/
theorem claims_figure (asked : address ∈ addresses) {figure : ClaimSums → Option Int}
    {f : Settlement.MsgCreateClaimProps → Int}
    (summed : ∀ joined, figure (ClaimSums.ofClaims joined) =
      Sql.sum (joined.map fun pair => some (f pair.1))) :
    ((((matchedSuppliers tables addresses).filter fun ms => ms.2 = address).map Prod.fst).map
      fun supplierId => ((claimGroup (matchedSuppliers tables addresses) range supplierId).bind
        fun c => figure c.2).getD 0).sum =
      ((range.ofSuppliers (sharingSuppliers tables address)).claims.map f).sum +
      ((range.ofSuppliers (sharingSuppliers tables address)).claims.map fun mcc =>
        (otherAddresses tables addresses address mcc.supplierId : Int) * f mcc).sum := by
  have chosen : (range.ofSuppliers (sharingSuppliers tables address)).claims =
      range.claims.filter fun mcc => mcc.supplierId ∈ (sharingSuppliers tables address).map id := by
    rw [List.map_id]
    rfl
  rw [chosen]
  exact figure_suppliers Function.injective_id (fun _ _ _ => rfl) asked f
    fun supplierId => figure_joinedOf Function.injective_id (summed _)

/-- A figure of the settled claims of an address. -/
theorem settled_figure (asked : address ∈ addresses) {figure : ClaimSums → Option Int}
    {f : Settlement.EventClaimSettledProps → Int}
    (summed : ∀ joined, figure (ClaimSums.ofSettled joined) =
      Sql.sum (joined.map fun pair => some (f pair.1))) :
    ((((matchedSuppliers tables addresses).filter fun ms => ms.2 = address).map Prod.fst).map
      fun supplierId => ((proofGroup (matchedSuppliers tables addresses) range supplierId).bind
        fun p => figure p.2).getD 0).sum =
      ((range.ofSuppliers (sharingSuppliers tables address)).settled.map f).sum +
      ((range.ofSuppliers (sharingSuppliers tables address)).settled.map fun ecs =>
        (otherAddresses tables addresses address (ecs.supplierId.getD "") : Int) * f ecs).sum := by
  have chosen : (range.ofSuppliers (sharingSuppliers tables address)).settled =
      range.settled.filter fun ecs =>
        ecs.supplierId ∈ (sharingSuppliers tables address).map some := rfl
  have each : ∀ supplierId, ((proofGroup (matchedSuppliers tables addresses) range
      supplierId).bind fun p => figure p.2).getD 0 =
        ((matchedSuppliers tables addresses).countP (fun ms => ms.1 = supplierId) : Int) *
          ((range.settled.filter fun ecs => ecs.supplierId = some supplierId).map f).sum :=
    fun supplierId => figure_joinedOf (Option.some_injective _) (summed _)
  have named : ∀ ecs ∈ range.settled, ecs.supplierId ∈ (sharingSuppliers tables address).map some →
      some (ecs.supplierId.getD "") = ecs.supplierId := by
    intro ecs _ listed
    obtain ⟨supplierId, -, same⟩ := List.mem_map.mp listed
    rw [← same]
    rfl
  rw [chosen]
  convert figure_suppliers (Option.some_injective _) named asked f each

/-- How many created claims an address has. -/
theorem claims_count (asked : address ∈ addresses)
    (distinct : (range.claims.map Settlement.MsgCreateClaimProps.id).Nodup) :
    ((((matchedSuppliers tables addresses).filter fun ms => ms.2 = address).map Prod.fst).map
      fun supplierId => ((claimGroup (matchedSuppliers tables addresses) range supplierId).map
        fun c => (c.2.count : Int)).getD 0).sum =
      (range.ofSuppliers (sharingSuppliers tables address)).claims.length := by
  have chosen : (range.ofSuppliers (sharingSuppliers tables address)).claims =
      range.claims.filter fun mcc => mcc.supplierId ∈ (sharingSuppliers tables address).map id := by
    rw [List.map_id]
    rfl
  rw [chosen]
  exact count_suppliers Function.injective_id asked fun supplierId listed =>
    count_group rfl distinct listed

/-- How many settled claims an address has. -/
theorem settled_count (asked : address ∈ addresses)
    (distinct : (range.settled.map Settlement.EventClaimSettledProps.id).Nodup) :
    ((((matchedSuppliers tables addresses).filter fun ms => ms.2 = address).map Prod.fst).map
      fun supplierId => ((proofGroup (matchedSuppliers tables addresses) range supplierId).map
        fun p => (p.2.count : Int)).getD 0).sum =
      (range.ofSuppliers (sharingSuppliers tables address)).settled.length := by
  have chosen : (range.ofSuppliers (sharingSuppliers tables address)).settled =
      range.settled.filter fun ecs =>
        ecs.supplierId ∈ (sharingSuppliers tables address).map some := rfl
  have each : ∀ supplierId, 0 < (matchedSuppliers tables addresses).countP
      (fun ms => ms.1 = supplierId) →
        ((proofGroup (matchedSuppliers tables addresses) range supplierId).map
          fun p => (p.2.count : Int)).getD 0 =
            (range.settled.filter fun ecs => ecs.supplierId = some supplierId).length :=
    fun supplierId listed =>
      @count_group _ _ _ _ _ _ _ _ _ _ _ _ _ ClaimSums.count rfl distinct listed
  rw [chosen]
  convert count_suppliers (Option.some_injective _) asked each

/-- The slashed stake of an address. -/
theorem slashes_figure (asked : address ∈ addresses) :
    ((((matchedSuppliers tables addresses).filter fun ms => ms.2 = address).map Prod.fst).map
      fun supplierId => ((slashGroup (matchedSuppliers tables addresses) range supplierId).bind
        fun s => s.2).getD 0).sum =
      ((range.ofSuppliers (sharingSuppliers tables address)).slashes.map
        EventSupplierSlashedProps.slashed).sum +
      ((range.ofSuppliers (sharingSuppliers tables address)).slashes.map fun ess =>
        (otherAddresses tables addresses address ess.supplierId : Int) * ess.slashed).sum := by
  have chosen : (range.ofSuppliers (sharingSuppliers tables address)).slashes =
      range.slashes.filter fun ess => ess.supplierId ∈ (sharingSuppliers tables address).map id := by
    rw [List.map_id]
    rfl
  rw [chosen]
  refine figure_suppliers Function.injective_id (fun _ _ _ => rfl) asked
    EventSupplierSlashedProps.slashed fun supplierId => ?_
  have one : slashedSum (joinedOf EventSupplierSlashedProps.supplierId id range.slashes
      (matchedSuppliers tables addresses) supplierId) = Sql.sum ((joinedOf
        EventSupplierSlashedProps.supplierId id range.slashes (matchedSuppliers tables addresses)
          supplierId).map fun pair => some pair.1.slashed) := rfl
  exact @figure_joinedOf _ _ _ _ _ _ _ _ _ Function.injective_id _ (fun s => s) _ one

/-- The row of an address is as expected just when nothing is counted again. -/
theorem rowsOf_eq_expected_iff (asked : address ∈ addresses)
    (created : (range.claims.map Settlement.MsgCreateClaimProps.id).Nodup)
    (settled : (range.settled.map Settlement.EventClaimSettledProps.id).Nodup) :
    rowsOf (delegatorRows (matchedSuppliers tables addresses) range.claims range.settled
        range.slashes) address = expectedData tables range address ↔
      NothingRepeated tables range addresses address := by
  have perm := @matched_perm_sharing tables _ _ asked
  rw [rowsOf_delegatorRows]
  unfold expectedData
  simp only
  by_cases none : sharingSuppliers tables address = []
  · -- Without suppliers there is no row, and nothing that could be counted.
    have unmatched : ((matchedSuppliers tables addresses).filter fun ms => ms.2 = address) = [] := by
      rw [none] at perm
      exact List.map_eq_nil_iff.mp perm.eq_nil
    refine iff_of_true (by simp [none, unmatched]) ⟨?_, ?_, ?_⟩ <;>
      simp [RangeRows.ofSuppliers, none]
  · -- With suppliers there is one row on each side, and they are compared figure by figure.
    have some : ((matchedSuppliers tables addresses).filter fun ms => ms.2 = address) ≠ [] :=
      fun unmatched => none (by rw [unmatched] at perm; exact perm.symm.eq_nil)
    rw [if_neg (by simpa using some), if_neg (by simpa using none), List.cons.injEq]
    simp only [addressData, DelegatorData.mk.injEq, and_true, true_and]
    rw [settled_count asked settled, claims_count asked created,
      settled_figure asked fun _ => rfl, settled_figure asked fun _ => rfl,
      settled_figure asked fun _ => rfl, claims_figure asked fun _ => rfl,
      claims_figure asked fun _ => rfl, claims_figure asked fun _ => rfl, slashes_figure asked]
    simp only [add_eq_left, true_and]
    constructor
    · rintro ⟨relays, units, upokt, relayed, claimed, amount, slashed⟩
      exact ⟨by simp [relayed, claimed, amount], by simp [relays, units, upokt], slashed⟩
    · rintro ⟨claims, settlements, slashes⟩
      simp only [List.mem_cons, List.not_mem_nil, or_false, forall_eq_or_imp, forall_eq] at claims
      simp only [List.mem_cons, List.not_mem_nil, or_false, forall_eq_or_imp, forall_eq]
        at settlements
      exact ⟨settlements.1, settlements.2.1, settlements.2.2, claims.1, claims.2.1, claims.2.2,
        slashes⟩

end

/-- Joined with blocks that are stored once, a row between two dates is kept once. -/
theorem betweenDates_eq_filter {ρ : Type} {blockId : ρ → ℕ} {blocks : List BlockRow}
    (distinct : (blocks.map BlockRow.id).Nodup) (startDate endDate : Int) (rows : List ρ) :
    betweenDates blockId blocks startDate endDate rows = rows.filter fun row =>
      blocks.any fun block => block.id = blockId row && block.within startDate endDate := by
  induction rows with
  | nil => rfl
  | cons row rest ih =>
    unfold betweenDates at ih ⊢
    rw [List.flatMap_cons, ih, List.filter_cons]
    -- At most one block has the height of the row.
    have single : ((blocks.filter fun block => decide (blockId row = block.id ∧
        startDate ≤ block.timestamp ∧ block.timestamp ≤ endDate)).map fun _ => row) =
        if (blocks.any fun block => block.id = blockId row && block.within startDate endDate) = true
        then [row] else [] := by
      clear ih
      induction blocks with
      | nil => rfl
      | cons block others ih =>
        obtain ⟨apart, distinct⟩ := List.nodup_cons.mp distinct
        rw [List.filter_cons, List.any_cons]
        by_cases here : block.id = blockId row
        · have absent : (others.filter fun other => decide (blockId row = other.id ∧
              startDate ≤ other.timestamp ∧ other.timestamp ≤ endDate)) = [] := by
            refine List.filter_eq_nil_iff.mpr fun other member same => ?_
            have same := (of_decide_eq_true same).1
            exact apart (here.trans same ▸ List.mem_map_of_mem member)
          have unseen : (others.any fun other =>
              other.id = blockId row && other.within startDate endDate) = false := by
            refine List.any_eq_false.mpr fun other member found => ?_
            simp only [Bool.and_eq_true, decide_eq_true_eq] at found
            exact apart (here.trans found.1.symm ▸ List.mem_map_of_mem member)
          rw [absent, unseen]
          by_cases inside : startDate ≤ block.timestamp ∧ block.timestamp ≤ endDate
          · simp [here, inside, BlockRow.within]
          · simp [here, inside, BlockRow.within]
        · have other : ¬(blockId row = block.id) := fun same => here same.symm
          rw [if_neg (by simp [other]), ih distinct]
          simp [here]
    rw [single]
    split <;> rfl

section

variable (tables : DelegatorTables)

/-- What is returned between two dates is computed from the rows of their blocks. -/
theorem getDataByDelegatorAddressesAndTimes_eq (addresses : List String) (startTs endTs : Int) :
    getDataByDelegatorAddressesAndTimes tables addresses startTs endTs =
      delegatorRows (matchedSuppliers tables addresses)
        (rowsBetweenDates tables startTs endTs).claims
        (rowsBetweenDates tables startTs endTs).settled
        (rowsBetweenDates tables startTs endTs).slashes := by
  unfold getDataByDelegatorAddressesAndTimes
  simp only [betweenDates_eq_filter tables.blockIds]
  rfl

/-- What is returned between two heights is computed from the rows of their blocks. -/
theorem getDataByDelegatorAddressesAndBlocks_eq (addresses : List String)
    (startHeight endHeight : ℕ) :
    getDataByDelegatorAddressesAndBlocks tables addresses startHeight endHeight =
      delegatorRows (matchedSuppliers tables addresses)
        (rowsBetweenHeights tables startHeight endHeight).claims
        (rowsBetweenHeights tables startHeight endHeight).settled
        (rowsBetweenHeights tables startHeight endHeight).slashes := rfl

/-- Whether the row of an address is the same for two lists of addresses, and as expected. -/
def RowsIndependent (tables : DelegatorTables) (range : RangeRows)
    (result : List String → Option (List DelegatorData)) (addresses others : List String)
    (address : String) : Prop :=
  rowsOf (result addresses) address = rowsOf (result others) address ∧
    rowsOf (result addresses) address = expectedData tables range address

variable {tables} {range : RangeRows} {addresses others : List String} {address : String}

/-- The row of an address is the same for two lists just when nothing is counted again for either. -/
theorem rowsIndependent_iff {result : List String → Option (List DelegatorData)}
    (computed : ∀ addresses, result addresses = delegatorRows (matchedSuppliers tables addresses)
      range.claims range.settled range.slashes)
    (created : (range.claims.map Settlement.MsgCreateClaimProps.id).Nodup)
    (settled : (range.settled.map Settlement.EventClaimSettledProps.id).Nodup)
    (asked : address ∈ addresses) (alsoAsked : address ∈ others) :
    RowsIndependent tables range result addresses others address ↔
      NothingRepeated tables range addresses address ∧
        NothingRepeated tables range others address := by
  have first := @rowsOf_eq_expected_iff tables _ _ _ asked created settled
  have second := @rowsOf_eq_expected_iff tables _ _ _ alsoAsked created settled
  rw [← computed] at first second
  rw [← first, ← second]
  unfold RowsIndependent
  constructor
  · rintro ⟨same, expected⟩
    exact ⟨expected, same.symm.trans expected⟩
  · rintro ⟨expected, other⟩
    exact ⟨expected.trans other.symm, expected⟩

end

/-- Between any two dates and any two heights, the row of an address is the same for two lists and
counts everything once just when nothing of its suppliers is counted again for either list. -/
theorem delegatorData_iff (tables : DelegatorTables) {addresses others : List String}
    {address : String} (asked : address ∈ addresses) (alsoAsked : address ∈ others)
    (startTs endTs : Int) (startHeight endHeight : ℕ) :
    (RowsIndependent tables (rowsBetweenDates tables startTs endTs)
        (fun list => getDataByDelegatorAddressesAndTimes tables list startTs endTs)
        addresses others address ↔
      NothingRepeated tables (rowsBetweenDates tables startTs endTs) addresses address ∧
        NothingRepeated tables (rowsBetweenDates tables startTs endTs) others address) ∧
    (RowsIndependent tables (rowsBetweenHeights tables startHeight endHeight)
        (fun list => getDataByDelegatorAddressesAndBlocks tables list startHeight endHeight)
        addresses others address ↔
      NothingRepeated tables (rowsBetweenHeights tables startHeight endHeight) addresses address ∧
        NothingRepeated tables (rowsBetweenHeights tables startHeight endHeight) others
          address) :=
  ⟨rowsIndependent_iff
      (fun list => getDataByDelegatorAddressesAndTimes_eq tables list startTs endTs)
      (tables.createdIds.sublist (List.filter_sublist.map _))
      (tables.settledIds.sublist (List.filter_sublist.map _)) asked alsoAsked,
    rowsIndependent_iff
      (fun list => getDataByDelegatorAddressesAndBlocks_eq tables list startHeight endHeight)
      (tables.createdIds.sublist (List.filter_sublist.map _))
      (tables.settledIds.sublist (List.filter_sublist.map _)) asked alsoAsked⟩

/-- A config of one supplier that shares revenue with some addresses. -/
def sharingConfig (addresses : List String) : Row SupplierServiceConfigProps where
  data := {
    id := "pokt1op-eth", serviceId := "eth", supplierId := "pokt1op", endpoints := []
    revShare := addresses.map fun address => ⟨address, "50"⟩
    domains := [] }
  blockId := none
  blockRange := ⟨5, none⟩

/-- The supplier of such a config. -/
def sharingSupplier : Row Supplier where
  data := {
    id := "pokt1op", operatorId := "pokt1op", ownerId := "pokt1op", stakeDenom := "upokt"
    stakeAmount := 60000, stakeStatus := .staked }
  blockId := none
  blockRange := ⟨5, none⟩

/-- A created claim of the supplier. -/
def sharingClaim : Settlement.MsgCreateClaimProps where
  id := "claim"
  transactionId := "tx"
  blockId := 10
  supplierId := "pokt1op"
  applicationId := "pokt1app"
  serviceId := "eth"
  sessionId := "session"
  numRelays := 100
  numEstimatedRelays := 100
  numClaimedComputedUnits := 200
  numEstimatedComputedUnits := 200
  claimedDenom := "upokt"
  claimedAmount := 3000
  sessionStartHeight := 1
  sessionEndHeight := 8
  rootHash := none

/-- A single block has an id of its own. -/
theorem singleBlock_ids : ([⟨10, 1000⟩].map BlockRow.id).Nodup := by decide

/-- A supplier that shares revenue with some addresses, and one claim of it. -/
def sharingTables (addresses : List String) : DelegatorTables where
  supplierServiceConfigs := [sharingConfig addresses]
  suppliers := [sharingSupplier]
  blocks := [⟨10, 1000⟩]
  modToAcctTransfers := []
  eventClaimSettleds := []
  msgCreateClaims := [sharingClaim]
  eventSupplierSlasheds := []
  blockIds := singleBlock_ids
  settledIds := List.nodup_nil
  createdIds := by decide

/-- Where the supplier shares with one address only, asking for another one changes nothing. -/
theorem delegatorData_alone : RowsIndependent (sharingTables ["pokt1x"])
    (rowsBetweenDates (sharingTables ["pokt1x"]) 0 2000)
    (fun list => getDataByDelegatorAddressesAndTimes (sharingTables ["pokt1x"]) list 0 2000)
    ["pokt1x"] ["pokt1x", "pokt1y"] "pokt1x" := by
  refine ((delegatorData_iff (sharingTables ["pokt1x"]) (by decide) (by decide)
    0 2000 0 20).1).mpr ⟨⟨?_, ?_, ?_⟩, ⟨?_, ?_, ?_⟩⟩ <;> decide +kernel

/-- Where the supplier also shares with the other address, its relays are counted twice. -/
theorem delegatorData_shared :
    (rowsOf (getDataByDelegatorAddressesAndTimes (sharingTables ["pokt1x", "pokt1y"])
      ["pokt1x"] 0 2000) "pokt1x").map DelegatorData.claimRelays = [100] ∧
    (rowsOf (getDataByDelegatorAddressesAndTimes (sharingTables ["pokt1x", "pokt1y"])
      ["pokt1x", "pokt1y"] 0 2000) "pokt1x").map DelegatorData.claimRelays = [200] ∧
    ¬RowsIndependent (sharingTables ["pokt1x", "pokt1y"])
      (rowsBetweenDates (sharingTables ["pokt1x", "pokt1y"]) 0 2000)
      (fun list => getDataByDelegatorAddressesAndTimes (sharingTables ["pokt1x", "pokt1y"])
        list 0 2000) ["pokt1x"] ["pokt1x", "pokt1y"] "pokt1x" := by
  refine ⟨by decide +kernel, by decide +kernel, fun independent => ?_⟩
  exact absurd independent.1 (by decide +kernel)

end Pocketdex
