import Pocketdex.Proofs.SupplierVersions

/-! The life of a supplier: what its record says after each datum, beside what the chain does. -/

namespace Pocketdex

/-- Where an operator stands on the chain. -/
inductive SupplierPhase where
  | absent
  | staked
  | unbonding
  | ended
  deriving DecidableEq, Repr

/-- Whether a message unstakes an operator. -/
def unstakes (operator : String) : StakeDatum → Bool
  | .msg sent => match sent.decodedMsg with
    | .unstakeSupplier decoded => decoded.operatorAddress = operator
    | _ => false
  | .event _ => false

/-- Whether a datum begins the unbonding of an operator. -/
def beginsUnbonding (operator : String) : StakeDatum → Bool
  | .event emitted => emitted.type = .supplierUnbondingBegin ∧
      (readOperator emitted.attributes).toOption = some (some operator)
  | .msg _ => false

/-- Where an operator stands after a datum. -/
def phaseAfter (operator : String) (phase : SupplierPhase) (datum : StakeDatum) : SupplierPhase :=
  if (stakedBy operator datum).isSome then .staked
  else if unstakes operator datum || beginsUnbonding operator datum then .unbonding
  else if endsUnbonding operator datum then .ended
  else phase

/-- What a consistent chain emits about an operator in a phase. -/
structure ChainEmits (externals : Externals) (operator : String) (phase : SupplierPhase)
    (datum : StakeDatum) : Prop where
  unstake : unstakes operator datum = true → phase = .staked
  begins : beginsUnbonding operator datum = true → phase = .staked ∨ phase = .unbonding
  ends : endsUnbonding operator datum = true → phase = .unbonding
  slash : ∀ event, datum = .event event → event.type = .supplierSlashed →
    Concerns externals operator datum → phase = .staked ∨ phase = .unbonding

/-- A condition holds of all data, each in the phase its operator is in. -/
def AlongPhases (operator : String) (holds : SupplierPhase → StakeDatum → Prop) :
    SupplierPhase → List StakeDatum → Prop
  | _, [] => True
  | phase, datum :: rest =>
    holds phase datum ∧ AlongPhases operator holds (phaseAfter operator phase datum) rest

/-- Data that a consistent chain emits one after the other, from a phase of an operator on. -/
abbrev ConsistentChain (externals : Externals) (operator : String) :
    SupplierPhase → List StakeDatum → Prop :=
  AlongPhases operator (ChainEmits externals operator)

/-- Data in which every unbonding of an operator is begun by a message, before the event tells it. -/
abbrev BegunByMessage (operator : String) : SupplierPhase → List StakeDatum → Prop :=
  AlongPhases operator fun phase datum => beginsUnbonding operator datum = true → phase = .unbonding

/-- A condition on data in two parts is one on both, each from its phase on. -/
theorem alongPhases_append {operator : String} {holds : SupplierPhase → StakeDatum → Prop}
    {phase : SupplierPhase} {first second : List StakeDatum} :
    AlongPhases operator holds phase (first ++ second) ↔ AlongPhases operator holds phase first ∧
      AlongPhases operator holds (first.foldl (phaseAfter operator) phase) second := by
  induction first generalizing phase with
  | nil => exact (iff_of_eq (true_and _)).symm
  | cons datum rest ih =>
    rw [List.cons_append, AlongPhases, AlongPhases, ih, and_assoc]
    rfl

/-- A supplier without any of the fields that are set while it unstakes. -/
structure NotUnstaking (supplier : Supplier) : Prop where
  endHeight : supplier.unstakingEndHeight = none
  endBlock : supplier.unstakingEndBlockId = none
  beginBlock : supplier.unstakingBeginBlockId = none
  reason : supplier.unstakingReason = none

/-- The record of a supplier says where its operator stands. -/
def TracksPhase : SupplierPhase → Option Supplier → Prop
  | .absent, found => found = none
  | .staked, found => ∃ supplier, found = some supplier ∧ supplier.stakeStatus = .staked ∧
      NotUnstaking supplier
  | .unbonding, found => ∃ supplier, found = some supplier ∧ supplier.stakeStatus = .unstaking
  | .ended, found => ∃ supplier, found = some supplier ∧ supplier.stakeStatus = .unstaked ∧
      supplier.stakeAmount = 0

section Steps

variable {externals : Externals} {datum : StakeDatum} {data : List StakeDatum}
  {records after : SupplierRecords} {changes : SupplierChanges} {operator : String}
  {phase : SupplierPhase} {stored : Option Supplier}

/-- The supplier as a block knows it, or else as it is stored. -/
def supplierOf (operator : String) (stored : Option Supplier) (records : SupplierRecords) :
    Option Supplier := (knownSupplier (records operator)).or stored

/-- The phase of an operator changes with data about it. -/
theorem phaseAfter_frame (apart : ¬Concerns externals operator datum) :
    phaseAfter operator phase datum = phase := by
  have unstaked : stakedBy operator datum = none := by
    by_contra staked
    obtain ⟨raw, told⟩ := Option.ne_none_iff_exists'.mp staked
    exact apart (loads_of_stakedBy told).2
  have quiet : unstakes operator datum = false ∧ beginsUnbonding operator datum = false ∧
      endsUnbonding operator datum = false := by
    refine ⟨?_, ?_, ?_⟩ <;> refine Bool.eq_false_iff.mpr fun told => apart ?_
    · cases datum with
      | event => cases told
      | msg sent =>
        cases kind : sent.decodedMsg <;> simp only [unstakes, kind, Bool.false_eq_true,
          decide_eq_true_eq] at told
        simp [Concerns, kind, supplierPath, DecodedMsg.get, told]
    · cases datum with
      | msg => cases told
      | event emitted =>
        simp only [beginsUnbonding, decide_eq_true_eq] at told
        simp only [Concerns, told.1, ok_of_toOption told.2]
    · cases datum with
      | msg => cases told
      | event emitted =>
        simp only [endsUnbonding, decide_eq_true_eq] at told
        simp only [Concerns, told.1, ok_of_toOption told.2]
  simp [phaseAfter, unstaked, quiet]

/-- A datum that a consistent chain emits keeps track of the operator, unless it begins an
unbonding that no message has begun. -/
theorem SupplierStep.tracks (step : SupplierStep externals records datum changes after)
    (emits : ChainEmits externals operator phase datum)
    (begun : beginsUnbonding operator datum = true → phase = .unbonding)
    (tracks : TracksPhase phase (supplierOf operator stored records)) :
    TracksPhase (phaseAfter operator phase datum) (supplierOf operator stored after) := by
  by_cases about : Concerns externals operator datum
  · -- A supplier that a block knows is the one that is tracked.
    have known : ∀ {entry : SupplierRecord} {supplier : Supplier},
        records operator = some entry → entry.supplier = some supplier →
          supplierOf operator stored records = some supplier := by
      intro entry supplier found has
      rw [supplierOf, found]
      exact congrArg (·.or stored) has
    have entered : ∀ {supplier : Supplier} {services : Dict String SupplierServiceConfigProps},
        supplierOf operator stored (Function.update records operator
          (some ⟨some supplier, services⟩)) = some supplier := by
      intro supplier services
      rw [supplierOf, Function.update_self]
      rfl
    cases step with
    -- Staking and claiming set the status, and clear what an unbonding left.
    | stake kind _ =>
      simp only [Concerns, kind, supplierPath, DecodedMsg.get, Option.bind_some,
        Option.some.injEq] at about
      subst about
      rw [stakedEntry, entered]
      simp only [phaseAfter, stakedBy, kind, if_true, Option.isSome_some]
      exact ⟨_, rfl, rfl, rfl, rfl, rfl, rfl⟩
    | claim kind _ =>
      simp only [Concerns, kind, supplierPath, DecodedMsg.get, Option.bind_some,
        Option.some.injEq] at about
      subst about
      rw [stakedEntry, entered]
      simp only [phaseAfter, stakedBy, kind, if_true, Option.isSome_some]
      exact ⟨_, rfl, rfl, rfl, rfl, rfl, rfl⟩
    | unstake kind found has =>
      simp only [Concerns, kind, supplierPath, DecodedMsg.get, Option.bind_some,
        Option.some.injEq] at about
      subst about
      rw [entered]
      simp only [phaseAfter, stakedBy, unstakes, kind, Option.isSome_none, Bool.false_eq_true,
        if_false, decide_true, Bool.true_or, if_true]
      exact ⟨_, rfl, rfl⟩
    | @unbondingBegin event unbonding entry supplier reason recorded kind told found has =>
      simp only [Concerns, kind, (readSupplierUnbonding_ok told.read).1, Except.ok.injEq,
        Option.some.injEq] at about
      subst about
      have begins : beginsUnbonding unbonding.operatorAddress (.event event) = true := by
        simp [beginsUnbonding, kind, (readSupplierUnbonding_ok told.read).1, Except.toOption]
      -- The event notes the height and the reason only, so the status must be there already.
      rw [begun begins] at tracks
      obtain ⟨other, same, unstaking⟩ := tracks
      rw [known found has, Option.some.injEq] at same
      rw [entered]
      simp only [phaseAfter, stakedBy, begins, Option.isSome_none, Bool.false_eq_true, if_false,
        Bool.or_true, if_true]
      exact ⟨_, rfl, same ▸ unstaking⟩
    | @unbondingEnd event unbonding entry supplier reason recorded kind told found has =>
      simp only [Concerns, kind, (readSupplierUnbonding_ok told.read).1, Except.ok.injEq,
        Option.some.injEq] at about
      subst about
      rw [entered]
      simp only [phaseAfter, stakedBy, unstakes, beginsUnbonding, endsUnbonding, kind,
        (readSupplierUnbonding_ok told.read).1, Except.toOption]
      exact ⟨_, rfl, rfl, rfl⟩
    | @slash event values entry supplier coin penalty told kind read found has =>
      have phases := emits.slash event rfl kind about
      have same : values.operatorAddress = operator := by
        simp only [Concerns, kind] at about
        obtain ⟨other, again, own⟩ := about
        rw [Except.ok.inj (read.read.symm.trans again)]
        exact own
      subst same
      have steady : phaseAfter values.operatorAddress phase (.event event) = phase := by
        simp [phaseAfter, stakedBy, unstakes, beginsUnbonding, endsUnbonding, kind]
      rw [steady, entered]
      -- A slash changes the stake only.
      rcases phases with rfl | rfl
      · obtain ⟨other, equal, status, clean⟩ := tracks
        rw [known found has, Option.some.injEq] at equal
        subst equal
        exact ⟨_, rfl, status, clean.1, clean.2, clean.3, clean.4⟩
      · obtain ⟨other, equal, status⟩ := tracks
        rw [known found has, Option.some.injEq] at equal
        exact ⟨_, rfl, equal ▸ status⟩
    -- An activation changes the services only.
    | @activate event height other entry kind read found =>
      simp only [Concerns, kind, read.read, Except.ok.injEq, Option.some.injEq] at about
      subst about
      have steady : phaseAfter other phase (.event event) = phase := by
        simp [phaseAfter, stakedBy, unstakes, beginsUnbonding, endsUnbonding, kind]
      rw [steady, supplierOf, Function.update_self]
      rw [supplierOf, found] at tracks
      exact tracks
    -- What is left changes neither the supplier nor the phase.
    | activateUnknown kind _ _ =>
      simpa [phaseAfter, stakedBy, unstakes, beginsUnbonding, endsUnbonding, kind] using tracks
    | @ignoreMsg msg none =>
      cases kind : msg.decodedMsg <;>
        simp_all [phaseAfter, stakedBy, unstakes, beginsUnbonding, endsUnbonding, supplierPath]
    | @ignoreEvent event none =>
      cases kind : event.type <;>
        simp_all [phaseAfter, stakedBy, unstakes, beginsUnbonding, endsUnbonding, supplierGetId]
  · rw [phaseAfter_frame about, supplierOf, step.frame about]
    exact tracks

/-- An unbonding that begins while the operator is staked is not seen in the status. -/
theorem SupplierStep.untracked (step : SupplierStep externals records datum changes after)
    (begins : beginsUnbonding operator datum = true)
    (tracks : TracksPhase .staked (supplierOf operator stored records)) :
    ¬TracksPhase (phaseAfter operator .staked datum) (supplierOf operator stored after) := by
  have phases : phaseAfter operator .staked datum = .unbonding := by
    cases datum with
    | msg => cases begins
    | event => simp [phaseAfter, stakedBy, begins]
  rw [phases]
  cases step with
  | @unbondingBegin event unbonding entry supplier reason recorded kind told found has =>
    simp only [beginsUnbonding, (readSupplierUnbonding_ok told.read).1, Except.toOption,
      Option.some.injEq, decide_eq_true_eq] at begins
    obtain ⟨-, rfl⟩ := begins
    obtain ⟨other, same, status, -⟩ := tracks
    have equal : supplier = other := by
      rw [supplierOf, found] at same
      exact Option.some.inj (((congrArg (·.or stored) has).symm.trans same))
    subst equal
    rintro ⟨after, same, unstaking⟩
    rw [supplierOf, Function.update_self] at same
    obtain rfl : supplier.noteUnbonding unbonding.unbondingHeight reason = after :=
      Option.some.inj same
    -- The status is still the one there was.
    have still : supplier.stakeStatus = .unstaking := unstaking
    rw [status] at still
    cases still
  | unbondingEnd kind _ _ _ => simp [beginsUnbonding, kind] at begins
  | slash kind _ _ _ => simp [beginsUnbonding, kind] at begins
  | activate kind _ _ => simp [beginsUnbonding, kind] at begins
  | activateUnknown kind _ _ => simp [beginsUnbonding, kind] at begins
  | @ignoreEvent event none =>
    simp only [beginsUnbonding, decide_eq_true_eq] at begins
    simp [begins.1, supplierGetId] at none
  | stake => cases begins
  | claim => cases begins
  | unstake => cases begins
  | ignoreMsg => cases begins

/-- Over a run of a consistent chain the record tells where the operator stands, when every
unbonding is begun by a message. -/
theorem SupplierRun.tracks (run : SupplierRun externals records data changes after)
    (chain : ConsistentChain externals operator phase data)
    (begun : BegunByMessage operator phase data)
    (tracks : TracksPhase phase (supplierOf operator stored records)) :
    TracksPhase (data.foldl (phaseAfter operator) phase) (supplierOf operator stored after) := by
  induction run generalizing phase with
  | nil => exact tracks
  | cons step _ ih =>
    obtain ⟨emits, chain⟩ := chain
    obtain ⟨now, begun⟩ := begun
    exact ih chain begun (step.tracks emits now tracks)

/-- In a run whose record tells where the operator stands after each datum, every unbonding is
begun by a message. -/
theorem SupplierRun.begunByMessage (stored : Option Supplier)
    (run : SupplierRun externals records data changes after)
    (chain : ConsistentChain externals operator phase data)
    (every : ∀ first rest earlier middle, data = first ++ rest →
      SupplierRun externals records first earlier middle →
        TracksPhase (first.foldl (phaseAfter operator) phase) (supplierOf operator stored middle)) :
    BegunByMessage operator phase data := by
  induction run generalizing phase with
  | nil => trivial
  | @cons records middle after datum rest changes later step run ih =>
    obtain ⟨emits, chain⟩ := chain
    refine ⟨fun begins => ?_, ih chain fun first last earlier next split run =>
      every (datum :: first) last _ next (by rw [split]; rfl) (.cons step run)⟩
    -- The chain begins an unbonding in two phases, of which one is not told.
    rcases emits.begins begins with rfl | rfl
    · exact absurd (every [datum] rest _ middle rfl (.cons step .nil))
        (step.untracked begins (every [] (datum :: rest) _ records rfl .nil))
    · rfl

end Steps

section Blocks

variable {externals : Externals} {height next : ℕ} {tables after : SupplierTables}
  {allData : List StakeDatum} {operator : String} {phase : SupplierPhase}

/-- The supplier as it is stored at a height. -/
def storedSupplier (height : ℕ) (operator : String) (tables : SupplierTables) : Option Supplier :=
  (openSuppliers height operator tables.suppliers).head?.map Row.data

/-- The visible rows of a supplier are the visible versions of its id. -/
theorem openSuppliers_eq (height : ℕ) (operator : String) (rows : List (Row Supplier)) :
    openSuppliers height operator rows = openVersions Supplier.id height operator rows := by
  rw [openSuppliers, openVersions, versionsOf, List.filter_filter]

/-- A later height sees the same supplier. -/
theorem storedSupplier_later (chained : VersionChain Supplier.id height tables.suppliers)
    (later : height ≤ next) :
    storedSupplier next operator tables = storedSupplier height operator tables := by
  unfold storedSupplier openSuppliers
  congr 2
  refine List.filter_congr fun row member => ?_
  have same : row.openAt next = row.openAt height := by
    rw [Bool.eq_iff_iff, chained.openAt_iff later member, chained.openAt_iff le_rfl member]
  rw [same]

/-- A block starts from the stored supplier, whether or not it fetches it. -/
theorem supplierOf_fetched (chained : VersionChain Supplier.id next tables.suppliers)
    {suppliers operators : List String} :
    supplierOf operator (storedSupplier next operator tables)
      (fetchSupplierData next tables suppliers operators).get =
        storedSupplier next operator tables := by
  unfold supplierOf
  cases known : knownSupplier ((fetchSupplierData next tables suppliers operators).get operator) with
  | none => rfl
  | some supplier =>
    obtain ⟨same, got⟩ := knownSupplier_fetched known
    obtain ⟨row, inside, visible, rfl⟩ := (mem_getByField.mp got).2
    have listed : row ∈ openSuppliers next operator tables.suppliers :=
      List.mem_filter.mpr ⟨inside, by simp [visible, same]⟩
    rw [storedSupplier]
    cases first : openSuppliers next operator tables.suppliers with
    | nil => rw [first] at listed; cases listed
    | cons head rest =>
      -- There is one visible row only.
      have shown : head ∈ openSuppliers next operator tables.suppliers := by
        rw [first]
        exact List.mem_cons_self
      rw [openSuppliers_eq] at shown
      obtain ⟨member, named, visibleHead⟩ := mem_openVersions.mp shown
      have equal := chained.versioned.unique inside member visible visibleHead (same.trans named.symm)
      rw [equal]
      rfl

/-- After a block the supplier is stored as the block left it. -/
theorem storedSupplier_indexed {suppliers operators : List String}
    {record : Dict String SupplierRecord} {changes : SupplierChanges}
    (chained : VersionChain Supplier.id height tables.suppliers) (later : height < next)
    (collected : collectSupplierIds (blockData allData) = .ok (suppliers, operators))
    (kept : WellKept record.get)
    (run : SupplierRun externals (fetchSupplierData next tables suppliers operators).get
      (blockData allData) changes record.get) :
    storedSupplier next operator (performSupplierDatabaseOperations next
        ⟨(buildSupplierSaveLists record).1, (buildSupplierSaveLists record).2,
          suppliersToClose (fetchSupplierData next tables suppliers operators), changes⟩ tables) =
      supplierOf operator (storedSupplier next operator tables) record.get := by
  have older : ∀ row ∈ tables.suppliers, row.blockRange.lower < next := fun row member =>
    Nat.lt_of_le_of_lt (chained.begun row member) later
  rw [storedSupplier, openSuppliers_indexed kept older, supplierOf]
  cases known : knownSupplier (record.get operator) with
  | none =>
    -- What is not known at the end was not known at the beginning.
    have unknown : knownSupplier ((fetchSupplierData next tables suppliers operators).get operator) =
        none := not_not.mp fun before => run.still_known before known
    rw [if_pos unknown]
    simp [storedSupplier]
  | some supplier =>
    have closed : (if knownSupplier ((fetchSupplierData next tables suppliers operators).get
        operator) = none then openSuppliers next operator tables.suppliers else []) = [] := by
      split
      · rename_i unknown
        rw [openSuppliers_eq]
        exact openVersions_of_new collected run unknown (by rw [known]; simp)
      · rfl
    rw [closed]
    rfl

/-- After each datum of a block the supplier tells where its operator stands. -/
def FollowsChain (externals : Externals) (operator : String) (phase : SupplierPhase) (height : ℕ)
    (tables : SupplierTables) (allData : List StakeDatum) : Prop :=
  ∀ first rest suppliers operators changes record, blockData allData = first ++ rest →
    collectSupplierIds (blockData allData) = .ok (suppliers, operators) →
      (processSupplierEventsAndMessages externals first).run
          (fetchSupplierData height tables suppliers operators) = .ok (changes, record) →
        TracksPhase (first.foldl (phaseAfter operator) phase)
          (supplierOf operator (storedSupplier height operator tables) record.get)

/-- Indexing a block, beside the phase of an operator on the chain. -/
def phaseStep (externals : Externals) (operator : String) (state : SupplierPhase × SupplierTables)
    (block : ℕ × List StakeDatum) : Except String (SupplierPhase × SupplierTables) :=
  (indexBlock externals state.2 block).map fun after =>
    ((blockData block.2).foldl (phaseAfter operator) state.1, after)

/-- A block follows the chain just when every unbonding in it is begun by a message. -/
theorem followsChain_iff (chained : VersionChain Supplier.id height tables.suppliers)
    (named : NamedRows tables.services) (later : height < next)
    (consistent : ∀ datum ∈ blockData allData, NamesOneOperator datum)
    (tracks : TracksPhase phase (storedSupplier height operator tables))
    (chain : ConsistentChain externals operator phase (blockData allData))
    (ran : indexSupplier externals next tables allData = .ok after) :
    (FollowsChain externals operator phase next tables allData ∧
      TracksPhase ((blockData allData).foldl (phaseAfter operator) phase)
        (storedSupplier next operator after)) ↔
      BegunByMessage operator phase (blockData allData) := by
  obtain ⟨suppliers, operators, changes, record, collected, run, rfl⟩ :=
    indexSupplier_ok named consistent ran
  have start : WellKept (fetchSupplierData next tables suppliers operators).get :=
    fetchSupplierData_wellKept named
  rw [storedSupplier_indexed chained later collected (run.wellKept start) run]
  have before : TracksPhase phase (supplierOf operator (storedSupplier next operator tables)
      (fetchSupplierData next tables suppliers operators).get) := by
    rw [supplierOf_fetched (chained.mono later.le), storedSupplier_later chained later.le]
    exact tracks
  constructor
  · rintro ⟨follows, -⟩
    refine run.begunByMessage (storedSupplier next operator tables) chain fun first rest earlier middle split part => ?_
    -- A part of the data that makes a run is handled that way.
    obtain ⟨reached, handled, rfl⟩ := run_of_supplierRun start
      (fun datum member => consistent datum (by rw [split]; exact List.mem_append_left _ member)) part
    exact follows first rest suppliers operators earlier reached split collected handled
  · intro begun
    refine ⟨fun first rest others more earlier reached split again handled => ?_,
      run.tracks chain begun before⟩
    obtain ⟨rfl, rfl⟩ := Prod.mk.inj (Except.ok.inj (collected.symm.trans again))
    have part := supplierRun_of_run start (fun datum member => consistent datum (by
      rw [split]; exact List.mem_append_left _ member)) handled
    rw [split, ConsistentChain, alongPhases_append] at chain
    rw [split, BegunByMessage, alongPhases_append] at begun
    exact part.tracks chain.1 begun.1 before

/-- A state whose stored supplier tells the phase of its operator, with later blocks of a consistent
chain. -/
structure ConsistentRun (externals : Externals) (operator : String) (height : ℕ)
    (state : SupplierPhase × SupplierTables) (blocks : List (ℕ × List StakeDatum)) : Prop where
  chained : VersionChain Supplier.id height state.2.suppliers
  named : NamedRows state.2.services
  tracks : TracksPhase state.1 (storedSupplier height operator state.2)
  increasing : (height :: blocks.map Prod.fst).Pairwise (· < ·)
  consistent : ∀ block ∈ blocks, ∀ datum ∈ blockData block.2, NamesOneOperator datum
  chain : ConsistentChain externals operator state.1 (blocks.flatMap fun block => blockData block.2)

/-- Over every run of blocks of a consistent chain the record of a supplier tells after each datum
where its operator stands, just when every unbonding is begun by a message. -/
theorem supplier_lifecycle_iff {state : SupplierPhase × SupplierTables}
    {blocks : List (ℕ × List StakeDatum)}
    (start : ConsistentRun externals operator height state blocks) :
    EveryStep (phaseStep externals operator) (fun before block after =>
        FollowsChain externals operator before.1 block.1 before.2 block.2 ∧
          TracksPhase after.1 (storedSupplier block.1 operator after.2)) state blocks ↔
      EveryStep (phaseStep externals operator) (fun before block _ =>
        BegunByMessage operator before.1 (blockData block.2)) state blocks := by
  refine EveryStep.iff_of_remaining (fun state blocks =>
    ∃ height, ConsistentRun externals operator height state blocks) ⟨height, start⟩ ?_
  intro state block rest next ⟨height, run⟩ ran
  obtain ⟨after, indexed, rfl⟩ := exceptMap_ok ran
  have increasing := run.increasing
  rw [List.map_cons, List.pairwise_cons] at increasing
  have chain := run.chain
  rw [List.flatMap_cons, ConsistentChain, alongPhases_append] at chain
  have later : height < block.1 := increasing.1 block.1 List.mem_cons_self
  have own := run.consistent block List.mem_cons_self
  obtain ⟨rows, ids⟩ := suppliers_indexed run.chained run.named later own indexed
  -- A block that follows the chain leaves a state that the blocks after it may start from.
  refine ⟨followsChain_iff run.chained run.named later own run.tracks chain.1 indexed,
    fun both => ⟨block.1, rows, ids, both.2, increasing.2, fun other member =>
      run.consistent other (List.mem_cons_of_mem _ member), chain.2⟩⟩

end Blocks

/-- Tables with a staked supplier. -/
def stakedTables : SupplierTables :=
  { oneConfigTables with suppliers := [⟨plainSupplier "pokt1op" .staked, none, ⟨5, none⟩⟩] }

/-- A message that unstakes a supplier at height 120. -/
def unstakeMessage (operator : String) : CosmosMessage where
  idx := 0
  height := 120
  tx := ⟨0, "U", 0, []⟩
  decodedMsg := .unstakeSupplier ⟨operator, operator⟩

/-- The beginning of an unbonding at height 120. -/
def unbondingBegun (operator reason : String) : CosmosEvent where
  idx := 0
  height := 120
  kind := .finalizeBlock
  type := .supplierUnbondingBegin
  attributes := [⟨"operator_address", operator⟩, ⟨"unbonding_end_height", "130"⟩,
    ⟨"session_end_height", "119"⟩, ⟨"reason", reason⟩]
  tx := none
  msg := none

/-- A staked supplier without unstaking fields is where a run may start. -/
theorem stakedTables_run {blocks : List (ℕ × List StakeDatum)}
    (increasing : ((100 : ℕ) :: blocks.map Prod.fst).Pairwise (· < ·))
    (inactive : ∀ block ∈ blocks, ∀ datum ∈ blockData block.2, ∀ event, datum = .event event →
      event.type ≠ .supplierServiceConfigActivated)
    (chain : ConsistentChain plainExternals "pokt1op" .staked
      (blocks.flatMap fun block => blockData block.2)) :
    ConsistentRun plainExternals "pokt1op" 100 (.staked, stakedTables) blocks where
  chained := ⟨by decide, by simp [stakedTables], fun id =>
    (List.pairwise_singleton _ _).filter _⟩
  named := by unfold NamedRows; decide
  tracks := ⟨plainSupplier "pokt1op" .staked, rfl, rfl, rfl, rfl, rfl, rfl⟩
  increasing := increasing
  consistent := fun block member datum inside event same kind =>
    absurd kind (inactive block member datum inside event same)
  chain := chain

/-- An unbonding that a message begins is followed to its end. -/
theorem supplier_lifecycle_unstaked :
    EveryStep (phaseStep plainExternals "pokt1op") (fun before block after =>
        FollowsChain plainExternals "pokt1op" before.1 block.1 before.2 block.2 ∧
          TracksPhase after.1 (storedSupplier block.1 "pokt1op" after.2)) (.staked, stakedTables)
      [(120, [.msg (unstakeMessage "pokt1op"),
        .event (unbondingBegun "pokt1op" "SUPPLIER_UNBONDING_REASON_VOLUNTARY")]),
        (130, [.event (unbondingEnded "pokt1op")])] := by
  have first : blockData [.msg (unstakeMessage "pokt1op"),
      .event (unbondingBegun "pokt1op" "SUPPLIER_UNBONDING_REASON_VOLUNTARY")] =
        [.msg (unstakeMessage "pokt1op"),
          .event (unbondingBegun "pokt1op" "SUPPLIER_UNBONDING_REASON_VOLUNTARY")] := by
    decide +kernel
  have second : blockData [.event (unbondingEnded "pokt1op")] =
      [.event (unbondingEnded "pokt1op")] := by decide +kernel
  have run : ConsistentRun plainExternals "pokt1op" 100 (.staked, stakedTables)
      [(120, [.msg (unstakeMessage "pokt1op"),
        .event (unbondingBegun "pokt1op" "SUPPLIER_UNBONDING_REASON_VOLUNTARY")]),
        (130, [.event (unbondingEnded "pokt1op")])] := by
    refine stakedTables_run (by decide) ?_ ?_
    · refine List.forall_mem_cons.mpr ⟨?_, List.forall_mem_cons.mpr ⟨?_, by simp⟩⟩
      · simp only [first]
        simp [unbondingBegun]
      · simp only [second]
        simp [unbondingEnded]
    · simp only [List.flatMap_cons, List.flatMap_nil, first, second]
      exact ⟨⟨by decide, by decide, by decide, by simp⟩,
        ⟨by decide, by decide, by decide, by simp [unbondingBegun]⟩,
        ⟨by decide, by decide, by decide, by simp [unbondingEnded]⟩, trivial⟩
  refine (supplier_lifecycle_iff run).mpr fun middle ran => ⟨?_, fun after _ => ⟨?_, trivial⟩⟩
  · simp only [first]
    exact ⟨by decide, by decide, trivial⟩
  · simp only [second]
    exact ⟨fun begins => absurd begins (by decide), trivial⟩

/-- An unbonding that the chain begins by itself leaves the supplier staked. -/
theorem unbonding_below_minimum :
    ConsistentRun plainExternals "pokt1op" 100 (.staked, stakedTables)
      [(120, [.event (unbondingBegun "pokt1op" "SUPPLIER_UNBONDING_REASON_BELOW_MIN_STAKE")])] ∧
    ¬EveryStep (phaseStep plainExternals "pokt1op") (fun before block after =>
        FollowsChain plainExternals "pokt1op" before.1 block.1 before.2 block.2 ∧
          TracksPhase after.1 (storedSupplier block.1 "pokt1op" after.2)) (.staked, stakedTables)
      [(120, [.event (unbondingBegun "pokt1op" "SUPPLIER_UNBONDING_REASON_BELOW_MIN_STAKE")])] := by
  have data : blockData
      [.event (unbondingBegun "pokt1op" "SUPPLIER_UNBONDING_REASON_BELOW_MIN_STAKE")] =
        [.event (unbondingBegun "pokt1op" "SUPPLIER_UNBONDING_REASON_BELOW_MIN_STAKE")] := by
    decide +kernel
  constructor
  · refine stakedTables_run (by decide) ?_ ?_
    · refine List.forall_mem_cons.mpr ⟨?_, by simp⟩
      simp only [data]
      simp [unbondingBegun]
    · simp only [List.flatMap_cons, List.flatMap_nil, data]
      exact ⟨⟨by decide, by decide, by decide, by simp [unbondingBegun]⟩, trivial⟩
  · have left : ((phaseStep plainExternals "pokt1op" (.staked, stakedTables) (120,
        [.event (unbondingBegun "pokt1op" "SUPPLIER_UNBONDING_REASON_BELOW_MIN_STAKE")])).toOption.map
          fun next => (next.1, (storedSupplier 120 "pokt1op" next.2).map Supplier.stakeStatus)) =
            some (.unbonding, some .staked) := by decide +kernel
    obtain ⟨⟨phase, after⟩, ran, same⟩ := Option.map_eq_some_iff.mp left
    obtain ⟨rfl, status⟩ := Prod.mk.inj same
    intro every
    obtain ⟨supplier, found, unstaking⟩ := (every _ (ok_of_toOption ran)).1.2
    rw [found, Option.map_some, unstaking] at status
    cases status

end Pocketdex
