import Pocketdex.Proofs.SupplierServices

/-! The ledger of slashes: what is recorded of the stake before and after each penalty, beside the
stake the chain keeps. -/

namespace Pocketdex

/-- The stake of the chain after penalties: each removes what it can. -/
def chainStake (stake : Int) (penalties : List Int) : Int :=
  penalties.foldl (fun stake penalty => stake - min stake penalty) stake

/-- Data in which an operator is only slashed. The chain emits the stake it is left with, or leaves
it out. -/
inductive ChainSlashes (externals : Externals) (operator : String) :
    Int → List StakeDatum → List Int → Prop where
  | nil {stake : Int} : ChainSlashes externals operator stake [] []
  | other {stake : Int} {datum : StakeDatum} {rest : List StakeDatum} {penalties : List Int} :
      ¬Concerns externals operator datum →
      ChainSlashes externals operator stake rest penalties →
      ChainSlashes externals operator stake (datum :: rest) penalties
  | slash {stake penalty : Int} {event : CosmosEvent} {rest : List StakeDatum}
      {penalties : List Int} {values : SlashedValues} {coin : Option Coin} {told : Option Int} :
      event.type = .supplierSlashed →
      SlashRead externals event values coin penalty told →
      values.operatorAddress = operator →
      told = none ∨ told = some (stake - min stake penalty) →
      ChainSlashes externals operator (stake - min stake penalty) rest penalties →
      ChainSlashes externals operator stake (.event event :: rest) (penalty :: penalties)

/-- The recorded slashes tell the stake of the chain before and after each penalty. -/
def Ledger : Int → List Int → List EventSupplierSlashedProps → Prop
  | _, [], records => records = []
  | _, _ :: _, [] => False
  | stake, penalty :: penalties, record :: records =>
    record.previousStakeAmount = stake ∧
    record.afterStakeAmount = stake - min stake penalty ∧
    0 ≤ record.afterStakeAmount ∧
    record.previousStakeAmount - record.afterStakeAmount = min stake penalty ∧
    Ledger (stake - min stake penalty) penalties records

/-- The slashes of an operator that a block recorded. -/
def recordedSlashes (height : ℕ) (operator : String)
    (rows : List (Row EventSupplierSlashedProps)) : List EventSupplierSlashedProps :=
  (rows.filter fun row => row.blockRange.lower = height && row.data.supplierId = operator).map
    Row.data

/-- The stakes of the visible rows of a supplier. -/
def openStakes (height : ℕ) (operator : String) (rows : List (Row Supplier)) : List Int :=
  (openSuppliers height operator rows).map fun row => row.data.stakeAmount

/-- Rows of earlier blocks, with configs under their ids. -/
structure EarlierRows (height : ℕ) (tables : SupplierTables) : Prop where
  configs : EarlierConfigs height tables.services
  suppliers : ∀ row ∈ tables.suppliers, row.blockRange.lower < height
  slashes : ∀ row ∈ tables.slashingEvents, row.blockRange.lower < height

/-- No penalty of a list takes more than the stake before it, when no first part does in sum. -/
theorem prefix_sums_cons {stake penalty : Int} {penalties : List Int} (nonneg : 0 ≤ stake) :
    (∀ part, part <+: penalty :: penalties → part.sum ≤ stake) ↔
      penalty ≤ stake ∧ ∀ part, part <+: penalties → part.sum ≤ stake - penalty := by
  constructor
  · intro covered
    refine ⟨?_, fun part first => ?_⟩
    · have one := covered [penalty] ⟨penalties, rfl⟩
      simpa using one
    · have more := covered (penalty :: part) (List.cons_prefix_cons.mpr ⟨rfl, first⟩)
      rw [List.sum_cons] at more
      omega
  · rintro ⟨-, covered⟩ part first
    cases part with
    | nil => simpa using nonneg
    | cons head part =>
      obtain ⟨rfl, shorter⟩ := List.cons_prefix_cons.mp first
      have rest := covered part shorter
      rw [List.sum_cons]
      omega

section Runs

variable {externals : Externals} {datum : StakeDatum} {data : List StakeDatum}
  {records after : SupplierRecords} {changes : SupplierChanges} {operator : String}

/-- A step records slashes of the operator its datum is about. -/
theorem SupplierStep.slashes_own (step : SupplierStep externals records datum changes after)
    (apart : ¬Concerns externals operator datum) :
    (changes.slashingEvents.filter fun record => record.supplierId = operator) = [] := by
  cases step with
  | @slash event values entry supplier coin penalty told kind read _ _ =>
    have other : values.operatorAddress ≠ operator := by
      intro same
      refine apart ?_
      simp only [Concerns, kind]
      exact ⟨values, read.read, same⟩
    exact List.filter_eq_nil_iff.mpr fun record member => by
      rw [List.mem_singleton.mp member]
      exact fun same => other (of_decide_eq_true same)
  | _ => rfl

/-- The one step of a slash whose attributes are read. -/
theorem SupplierStep.slashed {event : CosmosEvent} {values : SlashedValues} {coin : Option Coin}
    {penalty : Int} {told : Option Int}
    (step : SupplierStep externals records (.event event) changes after)
    (kind : event.type = .supplierSlashed)
    (read : SlashRead externals event values coin penalty told) :
    ∃ supplier, knownSupplier (records values.operatorAddress) = some supplier ∧
      knownSupplier (after values.operatorAddress) =
        some (supplier.withStake (slashedStake supplier.stakeAmount penalty told).2) ∧
      changes.slashingEvents = [slashingProps (getEventId externals.kindText event) event.height
        values penalty ((coin.map Coin.denom).getD "")
        (slashedStake supplier.stakeAmount penalty told)] := by
  cases step with
  | @slash _ others entry supplier otherCoin otherPenalty otherTold _ again found has =>
    -- What is read of the attributes is unique.
    obtain rfl : values = others := Except.ok.inj (read.read.symm.trans again.read)
    obtain rfl : coin = otherCoin := Except.ok.inj (read.required.symm.trans again.required)
    obtain rfl : penalty = otherPenalty := Except.ok.inj (read.amount.symm.trans again.amount)
    obtain rfl : told = otherTold := Except.ok.inj (read.told.symm.trans again.told)
    refine ⟨supplier, by rw [found]; exact has, ?_, rfl⟩
    rw [Function.update_self]
    rfl
  | unbondingBegin other _ _ _ => simp [kind] at other
  | unbondingEnd other _ _ _ => simp [kind] at other
  | activate other _ _ => simp [kind] at other
  | activateUnknown other _ _ => simp [kind] at other
  | ignoreEvent none => simp [kind, supplierGetId] at none

/-- A run over slashes of a tracked stake keeps the ledger of the chain just when no penalty takes
more than the stake before it. -/
theorem SupplierRun.ledger_iff (run : SupplierRun externals records data changes after)
    {stake : Int} {penalties : List Int} (nonneg : 0 ≤ stake)
    (chain : ChainSlashes externals operator stake data penalties)
    (tracked : ∀ supplier, knownSupplier (records operator) = some supplier →
      supplier.stakeAmount = stake) :
    (Ledger stake penalties
        (changes.slashingEvents.filter fun record => record.supplierId = operator) ∧
      ∀ supplier, knownSupplier (after operator) = some supplier →
        supplier.stakeAmount = chainStake stake penalties) ↔
      ∀ part, part <+: penalties → part.sum ≤ stake := by
  -- By induction on the run, for whatever stake the chain has reached.
  induction run generalizing stake penalties with
  | nil =>
    cases chain
    refine iff_of_true ⟨rfl, tracked⟩ fun part first => ?_
    rw [List.prefix_nil.mp first]
    exact nonneg
  | @cons records middle after datum rest changes later step _ ih =>
    have appended : ((changes.append later).slashingEvents.filter fun record =>
        record.supplierId = operator) =
          (changes.slashingEvents.filter fun record => record.supplierId = operator) ++
            later.slashingEvents.filter fun record => record.supplierId = operator :=
      List.filter_append ..
    cases chain with
    -- A datum of another operator touches neither the stake nor its slashes.
    | other apart chain =>
      rw [appended, step.slashes_own apart, List.nil_append]
      exact ih nonneg chain fun supplier known => tracked supplier (step.frame apart ▸ known)
    | @slash _ penalty event _ penalties values coin told kind read same emitted chain =>
      subst same
      obtain ⟨supplier, known, next, recorded⟩ := step.slashed kind read
      have own := tracked supplier known
      rw [appended, recorded, List.filter_cons_of_pos (by simp [slashingProps]), List.filter_nil,
        List.singleton_append, prefix_sums_cons nonneg]
      by_cases covered : penalty ≤ stake
      · -- Both ways of telling the stake agree with the chain.
        have told : slashedStake supplier.stakeAmount penalty told = (stake, stake - penalty) := by
          rcases emitted with rfl | rfl
          · rw [own]
            rfl
          · simp [slashedStake, min_eq_right covered]
        rw [min_eq_right covered] at chain
        have rest := ih (by omega) chain fun other found => by
          rw [next, Option.some.injEq] at found
          rw [← found, told]
          rfl
        rw [← rest, told, chainStake, List.foldl_cons, min_eq_right covered]
        simp only [Ledger, slashingProps, min_eq_right covered]
        constructor
        · rintro ⟨⟨-, -, -, -, ledger⟩, final⟩
          exact ⟨covered, ledger, final⟩
        · rintro ⟨-, ledger, final⟩
          exact ⟨⟨trivial, trivial, by omega, by omega, ledger⟩, final⟩
      · -- A penalty above the stake is told as if it was taken in full.
        refine iff_of_false (fun holds => ?_) fun holds => covered holds.1
        obtain ⟨previous, left, -⟩ := holds.1
        simp only [slashingProps] at previous left
        rcases emitted with rfl | rfl
        · simp only [slashedStake] at left
          omega
        · simp only [slashedStake] at previous
          omega

/-- An operator whose supplier is not known is not slashed. -/
theorem SupplierRun.unslashed (run : SupplierRun externals records data changes after)
    {stake : Int} {penalties : List Int}
    (chain : ChainSlashes externals operator stake data penalties)
    (unknown : knownSupplier (records operator) = none) :
    penalties = [] ∧ knownSupplier (after operator) = none := by
  induction run generalizing stake penalties with
  | nil =>
    cases chain
    exact ⟨rfl, unknown⟩
  | cons step _ ih =>
    cases chain with
    | other apart chain => exact ih chain (by rw [step.frame apart]; exact unknown)
    | slash kind read same _ _ =>
      subst same
      obtain ⟨supplier, known, -⟩ := step.slashed kind read
      rw [unknown] at known
      cases known

end Runs

section Blocks

variable {externals : Externals} {height : ℕ} {tables after : SupplierTables}
  {allData : List StakeDatum} {operator : String} {stake : Int} {penalties : List Int}

/-- A block records the slashes its data led to. -/
theorem recordedSlashes_perform {writes : SupplierWrites}
    (older : ∀ row ∈ tables.slashingEvents, row.blockRange.lower < height) (operator : String) :
    recordedSlashes height operator
        (performSupplierDatabaseOperations height writes tables).slashingEvents =
      writes.changes.slashingEvents.filter fun record => record.supplierId = operator := by
  show recordedSlashes height operator (insertRecords height _ (removeRecords height _ _)) = _
  rw [removeRecords_older older, recordedSlashes, insertRecords, List.filter_append,
    List.filter_eq_nil_iff.mpr fun row member => ?_, List.nil_append, List.filter_map, List.map_map]
  · simp only [Function.comp_def, Row.fresh_lower, Row.fresh_data, decide_true, Bool.true_and,
      List.map_id']
    rfl
  · have less := older row member
    simp [Nat.ne_of_lt less]

/-- After the slashes of a block the ledger is the one of the chain, and so is the stake of the
supplier, just when no penalty takes more than the stake before it. -/
theorem slashes_ledger_iff (earlier : EarlierRows height tables)
    (consistent : ∀ datum ∈ blockData allData, NamesOneOperator datum) (nonneg : 0 ≤ stake)
    (tracked : openStakes height operator tables.suppliers = [stake])
    (chain : ChainSlashes externals operator stake (blockData allData) penalties)
    (ran : indexSupplier externals height tables allData = .ok after) :
    (Ledger stake penalties (recordedSlashes height operator after.slashingEvents) ∧
      openStakes height operator after.suppliers = [chainStake stake penalties]) ↔
        ∀ part, part <+: penalties → part.sum ≤ stake := by
  obtain ⟨suppliers, operators, changes, record, collected, run, rfl⟩ :=
    indexSupplier_ok earlier.configs.named consistent ran
  have kept : WellKept (fetchSupplierData height tables suppliers operators).get :=
    fetchSupplierData_wellKept earlier.configs.named
  -- The supplier a block starts from is the one of the visible row.
  have own : ∀ supplier, knownSupplier ((fetchSupplierData height tables suppliers operators).get
      operator) = some supplier → supplier.stakeAmount = stake := by
    intro supplier known
    obtain ⟨same, member⟩ := knownSupplier_fetched known
    obtain ⟨row, inside, visible, rfl⟩ := (mem_getByField.mp member).2
    have listed : row.data.stakeAmount ∈ openStakes height operator tables.suppliers :=
      List.mem_map.mpr ⟨row, List.mem_filter.mpr ⟨inside, by simp [visible, same]⟩, rfl⟩
    rw [tracked] at listed
    exact List.mem_singleton.mp listed
  have ledger := run.ledger_iff nonneg chain own
  rw [recordedSlashes_perform earlier.slashes, ← ledger]
  refine and_congr_right' ?_
  rw [openStakes, openSuppliers_indexed (run.wellKept kept) earlier.suppliers, List.map_append]
  by_cases known : knownSupplier ((fetchSupplierData height tables suppliers operators).get
      operator) = none
  · -- A supplier that is not known was not slashed.
    obtain ⟨rfl, unknown⟩ := run.unslashed chain known
    rw [if_pos known, unknown]
    simpa [openStakes, chainStake] using tracked
  · obtain ⟨supplier, final⟩ := Option.ne_none_iff_exists'.mp (run.still_known known)
    simp [if_neg known, final]

end Blocks

/-- A slash in the older format, which does not tell the stake that is left. -/
def slashEvent (operator penalty : String) : CosmosEvent where
  idx := 2
  height := 120
  kind := .finalizeBlock
  type := .supplierSlashed
  attributes := [⟨"supplier_operator_addr", operator⟩, ⟨"slashing_amount", penalty⟩]
  tx := none
  msg := none

/-- What the handler reads of a sample slash. -/
theorem slashEvent_read {text : String} {penalty : Int}
    (fields : (_getValuesEventSupplierSlashed plainExternals
      (slashEvent "pokt1op" text).attributes).toOption.map (fun values =>
        (values.operatorAddress, (requirePenalty values).toOption,
          ((requirePenalty values).bind coinAmount).toOption, (stakeAfterSlash values).toOption)) =
      some ("pokt1op", some (some ⟨toString penalty, "upokt"⟩), some penalty, some none)) :
    ∃ values coin, SlashRead plainExternals (slashEvent "pokt1op" text) values coin penalty none ∧
      values.operatorAddress = "pokt1op" := by
  obtain ⟨values, read, same⟩ := Option.map_eq_some_iff.mp fields
  simp only [Prod.mk.injEq] at same
  obtain ⟨named, required, amount, told⟩ := same
  have coin := ok_of_toOption required
  rw [coin] at amount
  exact ⟨values, _, ⟨ok_of_toOption read, by rw [named]; decide, coin, ok_of_toOption amount,
    ok_of_toOption told⟩, named⟩

/-- A penalty below the stake is recorded as the chain takes it. -/
theorem slashes_ledger_below :
    ∃ after, indexSupplier plainExternals 120 oneConfigTables
        [.event (slashEvent "pokt1op" "30upokt")] = .ok after ∧
      Ledger 100 [30] (recordedSlashes 120 "pokt1op" after.slashingEvents) ∧
      openStakes 120 "pokt1op" after.suppliers = [chainStake 100 [30]] := by
  have data : blockData [.event (slashEvent "pokt1op" "30upokt")] =
      [.event (slashEvent "pokt1op" "30upokt")] := by decide +kernel
  have succeeds : (indexSupplier plainExternals 120 oneConfigTables
      [.event (slashEvent "pokt1op" "30upokt")]).toOption.isSome = true := by decide +kernel
  obtain ⟨after, ran⟩ := Option.isSome_iff_exists.mp succeeds
  obtain ⟨values, coin, read, named⟩ := @slashEvent_read "30upokt" 30 (by decide +kernel)
  have consistent : ∀ datum ∈ blockData [.event (slashEvent "pokt1op" "30upokt")],
      NamesOneOperator datum := by
    rw [data]
    intro datum member event same kind
    rw [List.mem_singleton.mp member] at same
    cases same
    cases kind
  have earlier : EarlierRows 120 oneConfigTables :=
    ⟨⟨by unfold NamedRows; decide, by decide⟩, by decide, by decide⟩
  have chain : ChainSlashes plainExternals "pokt1op" 100
      (blockData [.event (slashEvent "pokt1op" "30upokt")]) [30] := by
    rw [data]
    exact .slash rfl read named (Or.inl rfl) .nil
  refine ⟨after, ok_of_toOption ran, (slashes_ledger_iff earlier consistent (by decide) (by decide)
    chain (ok_of_toOption ran)).mpr fun part first => ?_⟩
  rcases List.prefix_cons_iff.mp first with rfl | ⟨rest, rfl, last⟩
  · decide
  · rw [List.prefix_nil.mp last]
    decide

/-- A penalty above the stake is recorded as if it left a negative stake. -/
theorem slash_below_zero :
    ∃ after, indexSupplier plainExternals 120 oneConfigTables
        [.event (slashEvent "pokt1op" "150upokt")] = .ok after ∧
      ¬Ledger 100 [150] (recordedSlashes 120 "pokt1op" after.slashingEvents) ∧
      openStakes 120 "pokt1op" after.suppliers = [-50] := by
  have recorded : ((indexSupplier plainExternals 120 oneConfigTables
      [.event (slashEvent "pokt1op" "150upokt")]).toOption.map fun after =>
        ((recordedSlashes 120 "pokt1op" after.slashingEvents).map
          EventSupplierSlashedProps.afterStakeAmount, openStakes 120 "pokt1op" after.suppliers)) =
            some ([-50], [-50]) := by decide +kernel
  obtain ⟨after, ran, same⟩ := Option.map_eq_some_iff.mp recorded
  obtain ⟨lefts, stakes⟩ := Prod.mk.inj same
  refine ⟨after, ok_of_toOption ran, fun ledger => ?_, stakes⟩
  generalize recordedSlashes 120 "pokt1op" after.slashingEvents = records at lefts ledger
  obtain ⟨record, rfl, left⟩ := List.map_eq_singleton_iff.mp lefts
  have nonneg := ledger.2.2.1
  omega

end Pocketdex
