import Mathlib.Data.List.Flatten
import Mathlib.Logic.Relation
import Pocketdex.Proofs.StakeGroups

/-! Stake data that share an entity are handled in chain rank order, and all others may overlap. -/

namespace Pocketdex

/-- Two data are related when a chain of data with common ids leads from one to the other. -/
def Related (getEntityIdArg : RecordGetId) (data : List StakeDatum) : StakeDatum → StakeDatum → Prop :=
  Relation.ReflTransGen fun first second => first ∈ data ∧ second ∈ data ∧
    ∃ id ∈ entityIds getEntityIdArg first, id ∈ entityIds getEntityIdArg second

/-- Transaction index, rank and index order the data of transactions, and finalization comes last. -/
def StakeDatum.precedes (first second : StakeDatum) : Prop :=
  (first.isFinalized = false ∧ second.isFinalized = true) ∨
  (first.isFinalized = false ∧ second.isFinalized = false ∧
    (first.txIdx < second.txIdx ∨ (first.txIdx = second.txIdx ∧
      (first.rank < second.rank ∨ (first.rank = second.rank ∧ first.idx < second.idx))))) ∨
  (first.isFinalized = true ∧ second.isFinalized = true ∧ first.idx < second.idx)

/-- A handler whose steps carry the datum they belong to. -/
def tagged {α : Type} (handle : StakeDatum → Task α) (datum : StakeDatum) : Task (StakeDatum × α) :=
  (handle datum).map fun action => (datum, action)

/-- What it means for groups to schedule data without conflicts. -/
structure ConflictFree (getEntityIdArg : RecordGetId) (data : List StakeDatum)
    (groups : List (List StakeDatum)) : Prop where
  /-- Every datum has an id. -/
  named : ∀ datum ∈ data, entityIds getEntityIdArg datum ≠ []
  /-- Each datum is handed to its handler exactly once. -/
  complete : groups.flatten.Perm data
  /-- A group holds all data related to any of its members, and no others. -/
  together : ∀ group ∈ groups, ∀ datum ∈ group, ∀ other,
    other ∈ group ↔ other ∈ data ∧ Related getEntityIdArg data datum other
  /-- Groups that run side by side share no id. -/
  apart : groups.Pairwise fun group beside => ∀ datum ∈ group, ∀ other ∈ beside,
    ∀ id ∈ entityIds getEntityIdArg datum, id ∉ entityIds getEntityIdArg other
  /-- Inside a group no datum comes after one it precedes. -/
  inOrder : ∀ group ∈ groups, group.Pairwise fun earlier later => ¬ later.precedes earlier

/-- Splitting data by their labels loses none and repeats none. -/
theorem flatten_labelled_perm {label : StakeDatum → String} {keys : List String}
    (distinct : keys.Nodup) {data : List StakeDatum} (covered : ∀ datum ∈ data, label datum ∈ keys) :
    ((keys.map fun key => data.filter fun datum => label datum = key).flatten).Perm data := by
  induction keys generalizing data with
  | nil =>
    have none : data = [] := List.eq_nil_iff_forall_not_mem.mpr fun datum member => by
      simpa using covered datum member
    simp [none]
  | cons key rest ih =>
    rw [List.nodup_cons] at distinct
    -- The data under the remaining keys are those not labelled with the first one.
    have others : ∀ other ∈ rest, (data.filter fun datum => label datum = other) =
        (data.filter fun datum => !decide (label datum = key)).filter
          fun datum => label datum = other := by
      intro other member
      rw [List.filter_filter]
      refine List.filter_congr fun datum _ => ?_
      by_cases same : label datum = other
      · have different : other ≠ key := fun equal => distinct.1 (equal ▸ member)
        simp [same, different]
      · simp [same]
    rw [List.map_cons, List.flatten_cons, List.map_congr_left others]
    refine (List.Perm.append_left _ (ih distinct.2 ?_)).trans
      (List.filter_append_perm (fun datum => decide (label datum = key)) data)
    intro datum member
    simp only [List.mem_filter, Bool.not_eq_true', decide_eq_false_iff_not] at member
    exact (List.mem_cons.mp (covered datum member.1)).resolve_left member.2

/-- The sorted components of connected groups are the classes of the shared-group relation. -/
theorem groupConnectedComponents_isPartition (arrays : List (List String)) :
    (sharedGroupGraph arrays).IsPartition (groupConnectedComponents arrays) :=
  UndirectedGraph.components_isPartition.map fun part => List.perm_insertionSort (· ≤ ·) part

/-- A datum has at most its primary id, or all of its ids were recorded together. -/
theorem entityIds_cases (getEntityIdArg : RecordGetId) (datum : StakeDatum) :
    updatedTogether getEntityIdArg datum = [entityIds getEntityIdArg datum] ∨
      ∀ id ∈ entityIds getEntityIdArg datum, id = primaryId getEntityIdArg datum := by
  unfold primaryId entityIds updatedTogether
  cases getEntityId getEntityIdArg datum with
  | error message => simp
  | ok entityId => cases entityId <;> cases datum <;> simp

/-- Ids recorded together are the ids of a datum. -/
theorem mem_updatedTogether {getEntityIdArg : RecordGetId} {datum : StakeDatum}
    {group : List String} (recorded : group ∈ updatedTogether getEntityIdArg datum) :
    group = entityIds getEntityIdArg datum := by
  unfold updatedTogether at recorded
  unfold entityIds
  cases got : getEntityId getEntityIdArg datum with
  | error message => simp [got] at recorded
  | ok entityId =>
    cases entityId with
    | missing => simp [got] at recorded
    | one id => simp [got] at recorded
    | many ids => simpa [got] using recorded

/-- The primary id of a datum with ids is one of them. -/
theorem primaryId_mem {getEntityIdArg : RecordGetId} {datum : StakeDatum}
    (named : entityIds getEntityIdArg datum ≠ []) :
    primaryId getEntityIdArg datum ∈ entityIds getEntityIdArg datum := by
  unfold primaryId
  cases ids : entityIds getEntityIdArg datum with
  | nil => exact absurd ids named
  | cons id rest => simp

section

variable {getEntityIdArg : RecordGetId} {data : List StakeDatum}
  (addresses : ∀ datum ∈ data, ∀ id ∈ entityIds getEntityIdArg datum, IsAddress id)
  (named : ∀ datum ∈ data, entityIds getEntityIdArg datum ≠ [])

include addresses in
/-- The components of the recorded ids are separate groups of addresses. -/
theorem components_separate :
    SeparateGroups (groupConnectedComponents (data.flatMap (updatedTogether getEntityIdArg))) := by
  have partition := groupConnectedComponents_isPartition
    (data.flatMap (updatedTogether getEntityIdArg))
  refine ⟨partition.distinct, partition.inhabited, ?_⟩
  intro component located id inside
  have node := (partition.covers id).mp (List.mem_flatten.mpr ⟨component, located, inside⟩)
  obtain ⟨group, recorded, held⟩ := mem_keys_adjacencyList.mp node
  obtain ⟨datum, member, origin⟩ := List.mem_flatMap.mp recorded
  exact addresses datum member id (mem_updatedTogether origin ▸ held)

include addresses named in
/-- All ids of a datum end up under the key of its primary id. -/
theorem mergedKey_primaryId {datum : StakeDatum} (member : datum ∈ data) {id : String}
    (inside : id ∈ entityIds getEntityIdArg datum) :
    mergedKey (groupConnectedComponents (data.flatMap (updatedTogether getEntityIdArg))) id =
      mergedKey (groupConnectedComponents (data.flatMap (updatedTogether getEntityIdArg)))
        (primaryId getEntityIdArg datum) := by
  rcases entityIds_cases getEntityIdArg datum with together | single
  · -- Ids recorded together are linked, so one component holds them.
    have partition := groupConnectedComponents_isPartition
      (data.flatMap (updatedTogether getEntityIdArg))
    have recorded : entityIds getEntityIdArg datum ∈
        data.flatMap (updatedTogether getEntityIdArg) :=
      List.mem_flatMap.mpr ⟨datum, member, by simp [together]⟩
    have first := primaryId_mem (named datum member)
    have node := (partition.covers id).mpr (mem_keys_adjacencyList.mpr ⟨_, recorded, inside⟩)
    obtain ⟨component, located, held⟩ := List.mem_flatten.mp node
    have linked : primaryId getEntityIdArg datum ∈ component := by
      refine (partition.classes component located id held _).mpr ?_
      by_cases same : id = primaryId getEntityIdArg datum
      · rw [← same]; exact Relation.ReflTransGen.refl
      · exact Relation.ReflTransGen.single (mem_adjacencyList.mpr ⟨_, recorded, inside, first, same⟩)
    have separate := components_separate addresses
    rw [mergedKey_inside separate located held, mergedKey_inside separate located linked]
  · rw [single id inside]

/-- Connected ids belong to related data. -/
theorem related_of_connected {source target : String}
    (connected : (sharedGroupGraph (data.flatMap (updatedTogether getEntityIdArg))).Connected
      source target) {first second : StakeDatum} (one : first ∈ data) (two : second ∈ data)
    (left : source ∈ entityIds getEntityIdArg first)
    (right : target ∈ entityIds getEntityIdArg second) :
    Related getEntityIdArg data first second := by
  -- Each link comes from a datum that holds both of its ids.
  induction connected generalizing second with
  | refl => exact Relation.ReflTransGen.single ⟨one, two, source, left, right⟩
  | @tail middle target _ link ih =>
    obtain ⟨group, recorded, held, reached, _⟩ := mem_adjacencyList.mp link
    obtain ⟨between, member, origin⟩ := List.mem_flatMap.mp recorded
    rw [mem_updatedTogether origin] at held reached
    exact Relation.ReflTransGen.tail (ih member held) ⟨member, two, target, reached, right⟩

include addresses named in
/-- Data end up under one key exactly when they are related. -/
theorem mergedKey_eq_iff {first second : StakeDatum} (one : first ∈ data) (two : second ∈ data) :
    mergedKey (groupConnectedComponents (data.flatMap (updatedTogether getEntityIdArg)))
        (primaryId getEntityIdArg first) =
      mergedKey (groupConnectedComponents (data.flatMap (updatedTogether getEntityIdArg)))
        (primaryId getEntityIdArg second) ↔
      Related getEntityIdArg data first second := by
  have partition := groupConnectedComponents_isPartition
    (data.flatMap (updatedTogether getEntityIdArg))
  have separate := components_separate addresses
  have left := primaryId_mem (named first one)
  have right := primaryId_mem (named second two)
  -- A datum outside every component shares its key with no datum inside one.
  have mixed : ∀ {inner outer : StakeDatum}, inner ∈ data → outer ∈ data →
      ∀ component ∈ groupConnectedComponents (data.flatMap (updatedTogether getEntityIdArg)),
      primaryId getEntityIdArg inner ∈ component →
      mergedKey (groupConnectedComponents (data.flatMap (updatedTogether getEntityIdArg)))
          (primaryId getEntityIdArg inner) =
        mergedKey (groupConnectedComponents (data.flatMap (updatedTogether getEntityIdArg)))
          (primaryId getEntityIdArg outer) →
      primaryId getEntityIdArg outer ∈ component := by
    intro inner outer member other component located held same
    rw [mergedKey_inside separate located held] at same
    by_cases known : ∃ beside ∈ groupConnectedComponents
        (data.flatMap (updatedTogether getEntityIdArg)), primaryId getEntityIdArg outer ∈ beside
    · obtain ⟨beside, listed, holds⟩ := known
      rw [mergedKey_inside separate listed holds] at same
      have equal : component = beside := joinIds_injective (by
        intro id inside
        rcases List.mem_append.mp inside with here | there
        · exact separate.addresses component located id here
        · exact separate.addresses beside listed id there)
        (separate.inhabited component located) (separate.inhabited beside listed) same
      exact equal ▸ holds
    · -- A joined id that is an address has this one entity only.
      rw [mergedKey_outside fun beside listed holds => known ⟨beside, listed, holds⟩] at same
      have single := joinIds_address (separate.addresses component located)
        (separate.inhabited component located)
        (addresses outer other _ (primaryId_mem (named outer other))) same.symm
      simp [single]
  constructor
  · intro same
    by_cases known : ∃ component ∈ groupConnectedComponents
        (data.flatMap (updatedTogether getEntityIdArg)), primaryId getEntityIdArg first ∈ component
    · obtain ⟨component, located, held⟩ := known
      have also := mixed one two component located held same
      exact related_of_connected
        ((partition.classes component located _ held _).mp also) one two left right
    · -- Outside all components a datum is filed under its own id, which the two share.
      have outside : ∀ component ∈ groupConnectedComponents
          (data.flatMap (updatedTogether getEntityIdArg)),
          primaryId getEntityIdArg second ∉ component := fun component located held =>
        known ⟨component, located, mixed two one component located held same.symm⟩
      rw [mergedKey_outside fun component located held => known ⟨component, located, held⟩,
        mergedKey_outside outside] at same
      exact Relation.ReflTransGen.single ⟨one, two, _, left, same ▸ right⟩
  · intro related
    -- A shared id links two data, and both are filed where that id is.
    induction related with
    | refl => rfl
    | @tail middle last _ link ih =>
      obtain ⟨member, _, id, held, also⟩ := link
      have moved := ih member (primaryId_mem (named middle member))
      rw [moved, ← mergedKey_primaryId addresses named member held]
      exact mergedKey_primaryId addresses named two also

end

/-- The data that are scheduled are among those given. -/
theorem mem_of_successful {allData : List StakeDatum} {datum : StakeDatum}
    (scheduled : datum ∈ successfulData allData) : datum ∈ allData := by
  simp only [successfulData, filterEventsByTxStatus, filterMsgByTxStatus,
    List.partition_eq_filter_filter, List.mem_append, List.mem_map, List.mem_filter,
    List.mem_filterMap] at scheduled
  rcases scheduled with ⟨event, ⟨⟨other, member, same⟩, _⟩, rfl⟩ |
    ⟨msg, ⟨⟨other, member, same⟩, _⟩, rfl⟩
  · cases other with
    | event found =>
      simp only [Option.some.injEq] at same
      exact same ▸ member
    | msg found => simp at same
  · cases other with
    | event found => simp at same
    | msg found =>
      simp only [Option.some.injEq] at same
      exact same ▸ member

/-- The schedule of an entry holds its contents. -/
theorem schedule_perm (found : EntityData) : found.schedule.Perm found.contents :=
  (List.perm_insertionSort _ _).append ((List.perm_insertionSort _ _).map _)

instance : IsTrans StakeDatum StakeDatum.ordered where
  trans first second third one two := by
    unfold StakeDatum.ordered at one two ⊢
    rcases one with before | ⟨same, one⟩
    · rcases two with after | ⟨equal, _⟩
      · exact Or.inl (before.trans after)
      · exact Or.inl (equal ▸ before)
    · rcases two with after | ⟨equal, two⟩
      · exact Or.inl (same ▸ after)
      · refine Or.inr ⟨same.trans equal, ?_⟩
        omega

instance : Std.Total StakeDatum.ordered where
  total first second := by
    unfold StakeDatum.ordered
    rcases lt_trichotomy first.txIdx second.txIdx with before | same | after
    · exact Or.inl (Or.inl before)
    · rcases lt_trichotomy first.rank second.rank with lower | equal | higher
      · exact Or.inl (Or.inr ⟨same, Or.inl lower⟩)
      · rcases Nat.le_total first.idx second.idx with before | after
        · exact Or.inl (Or.inr ⟨same, Or.inr ⟨equal, before⟩⟩)
        · exact Or.inr (Or.inr ⟨same.symm, Or.inr ⟨equal.symm, after⟩⟩)
      · exact Or.inr (Or.inr ⟨same.symm, Or.inl higher⟩)
    · exact Or.inr (Or.inl after)

instance : IsTrans CosmosEvent fun first second => first.idx ≤ second.idx where
  trans _ _ _ one two := Nat.le_trans one two

instance : Std.Total fun first second : CosmosEvent => first.idx ≤ second.idx where
  total _ _ := Nat.le_total _ _

/-- In a schedule no datum comes after one it precedes. -/
theorem schedule_inOrder {found : EntityData} (sorted : found.Sorted) :
    found.schedule.Pairwise fun earlier later => ¬ later.precedes earlier := by
  refine List.pairwise_append.mpr ⟨?_, ?_, ?_⟩
  · -- Messages and events of transactions are ordered by transaction first.
    have ordered := List.pairwise_insertionSort StakeDatum.ordered found.nonFinalizedData
    refine ordered.imp_of_mem fun {earlier later} one two order => ?_
    have first := sorted.rest earlier ((List.mem_insertionSort _).mp one)
    have second := sorted.rest later ((List.mem_insertionSort _).mp two)
    unfold StakeDatum.precedes StakeDatum.ordered at *
    simp only [first, second, Bool.false_eq_true, and_false, false_and, true_and,
      or_false, false_or]
    rcases order with before | ⟨same, order⟩
    · rintro (after | ⟨equal, _⟩)
      · exact lt_asymm before after
      · exact absurd equal before.ne'
    · rintro (after | ⟨_, after⟩)
      · exact absurd same after.ne'
      · omega
  · -- Finalized events are ordered by their index.
    rw [List.pairwise_map]
    have ordered := List.pairwise_insertionSort
      (fun first second : CosmosEvent => first.idx ≤ second.idx) found.finalizedEvents
    refine ordered.imp_of_mem fun {earlier later} one two order => ?_
    have first := sorted.finalized earlier ((List.mem_insertionSort _).mp one)
    have second := sorted.finalized later ((List.mem_insertionSort _).mp two)
    simp only [StakeDatum.precedes, StakeDatum.isFinalized, first, second, StakeDatum.idx,
      Bool.true_eq_false, false_and, and_false, true_and, false_or]
    exact Nat.not_lt.mpr order
  · -- No finalized event comes before a datum of a transaction.
    intro earlier one later two
    have first := sorted.rest earlier ((List.mem_insertionSort _).mp one)
    obtain ⟨event, member, rfl⟩ := List.mem_map.mp two
    have second : (StakeDatum.event event).isFinalized = true :=
      sorted.finalized event ((List.mem_insertionSort _).mp member)
    simp [StakeDatum.precedes, first, second]

/-- The groups of scheduled data are free of conflicts. -/
theorem indexStakeEntityGroups_conflictFree {getEntityIdArg : RecordGetId}
    {allData : List StakeDatum} {groups : List (List StakeDatum)}
    (addresses : ∀ datum ∈ successfulData allData, ∀ id ∈ entityIds getEntityIdArg datum,
      IsAddress id)
    (built : indexStakeEntityGroups allData getEntityIdArg = .ok groups) :
    ConflictFree getEntityIdArg (successfulData allData) groups := by
  unfold indexStakeEntityGroups at built
  simp only [Bind.bind, Except.bind] at built
  cases ran : (successfulData allData).foldlM (fileDatum getEntityIdArg) ⟨[], Dict.empty⟩ with
  | error message => simp [ran] at built
  | ok filed =>
    obtain ⟨named, recorded, grouped⟩ := fileData_ok addresses ran
    simp only [ran, Pure.pure, Except.pure, Except.ok.injEq] at built
    rw [recorded] at built
    have single : ∀ datum ∈ successfulData allData, IsAddress (primaryId getEntityIdArg datum) :=
      fun datum member => addresses datum member _ (primaryId_mem (named datum member))
    -- After merging, two data share an entry just when the relation connects them.
    have merged := mergeGroups_groupedBy grouped single (components_separate addresses)
    have iff := fun {first second : StakeDatum} (one : first ∈ successfulData allData)
      (two : second ∈ successfulData allData) => mergedKey_eq_iff addresses named one two
    generalize (groupConnectedComponents ((successfulData allData).flatMap
      (updatedTogether getEntityIdArg))).foldl mergeGroup filed.dataByEntityId = entries
      at built merged
    subst built
    -- An entry's schedule holds exactly the data labelled with its key.
    have members : ∀ entry ∈ entries.entries, ∀ datum, datum ∈ entry.2.schedule ↔
        datum ∈ successfulData allData ∧ mergedKey (groupConnectedComponents
          ((successfulData allData).flatMap (updatedTogether getEntityIdArg)))
            (primaryId getEntityIdArg datum) = entry.1 := by
      intro entry located datum
      have held := merged.held entry.1 entry.2 (Dict.get_eq_some.mpr located)
      rw [((schedule_perm entry.2).trans held).mem_iff, List.mem_filter, decide_eq_true_eq]
    refine ⟨named, ?_, ?_, ?_, ?_⟩
    · -- Every datum is in the schedule of exactly one entry.
      have listed : (entries.values.map EntityData.schedule).flatten =
          entries.entries.flatMap fun entry => entry.2.schedule := by
        rw [Dict.values, List.map_map, List.flatMap_def]
        rfl
      have keyed : (entries.entries.flatMap fun entry => (successfulData allData).filter fun datum =>
          mergedKey (groupConnectedComponents ((successfulData allData).flatMap
            (updatedTogether getEntityIdArg))) (primaryId getEntityIdArg datum) = entry.1) =
          (entries.keys.map fun key => (successfulData allData).filter fun datum =>
            mergedKey (groupConnectedComponents ((successfulData allData).flatMap
              (updatedTogether getEntityIdArg))) (primaryId getEntityIdArg datum) = key).flatten := by
        rw [Dict.keys, List.map_map, List.flatMap_def]
        rfl
      rw [listed]
      refine (List.Perm.flatMap_left _ fun entry located => (schedule_perm entry.2).trans
        (merged.held entry.1 entry.2 (Dict.get_eq_some.mpr located))).trans ?_
      rw [keyed]
      refine flatten_labelled_perm entries.nodup fun datum member => ?_
      by_contra missing
      exact merged.absent _ (Dict.get_eq_none.mpr missing) datum member rfl
    · -- A group holds what is related to any of its data.
      intro group located datum inside other
      obtain ⟨found, value, rfl⟩ := List.mem_map.mp located
      obtain ⟨entry, listed, rfl⟩ := List.mem_map.mp value
      obtain ⟨member, label⟩ := (members entry listed datum).mp inside
      rw [members entry listed other, ← label]
      constructor
      · rintro ⟨also, same⟩
        exact ⟨also, (iff member also).mp same.symm⟩
      · rintro ⟨also, related⟩
        exact ⟨also, ((iff member also).mpr related).symm⟩
    · -- A shared id would relate two groups, and they would have one key.
      rw [Dict.values, List.map_map, List.pairwise_map]
      have distinct := entries.nodup
      rw [List.Nodup, List.pairwise_map] at distinct
      refine distinct.imp_of_mem fun {one two} first second different => ?_
      intro datum inside other beside id held also
      obtain ⟨member, label⟩ := (members one first datum).mp inside
      obtain ⟨present, key⟩ := (members two second other).mp beside
      refine different ?_
      rw [← label, ← key]
      exact (iff member present).mpr
        (Relation.ReflTransGen.single ⟨member, present, id, held, also⟩)
    · -- Each schedule is sorted.
      intro group located
      obtain ⟨found, value, rfl⟩ := List.mem_map.mp located
      obtain ⟨key, stored⟩ := Dict.mem_values.mp value
      exact schedule_inOrder (merged.sorted key found stored)

/-- Data whose getters find addresses are scheduled. -/
theorem indexStakeEntityGroups_succeeds {getEntityIdArg : RecordGetId} {allData : List StakeDatum}
    (named : ∀ datum ∈ successfulData allData, entityIds getEntityIdArg datum ≠ [])
    (addresses : ∀ datum ∈ successfulData allData, ∀ id ∈ entityIds getEntityIdArg datum,
      IsAddress id) :
    ∃ groups, indexStakeEntityGroups allData getEntityIdArg = .ok groups := by
  have loop : ∀ (pending : List StakeDatum) (filed : Filed),
      (∀ datum ∈ pending, entityIds getEntityIdArg datum ≠ []) →
      (∀ datum ∈ pending, ∀ id ∈ entityIds getEntityIdArg datum, IsAddress id) →
      ∃ after, pending.foldlM (fileDatum getEntityIdArg) filed = .ok after := by
    intro pending
    induction pending with
    | nil => exact fun filed _ _ => ⟨filed, rfl⟩
    | cons datum rest ih =>
      intro filed found plain
      obtain ⟨after, stepped⟩ := @fileDatum_succeeds _ filed _
        (found datum List.mem_cons_self) (plain datum List.mem_cons_self)
      simp only [List.foldlM_cons, stepped, Bind.bind, Except.bind]
      exact ih after (fun other member => found other (List.mem_cons_of_mem _ member))
        fun other member => plain other (List.mem_cons_of_mem _ member)
  obtain ⟨filed, ran⟩ := loop (successfulData allData) ⟨[], Dict.empty⟩ named addresses
  simp only [indexStakeEntityGroups, ran, Bind.bind, Except.bind]
  exact ⟨_, rfl⟩

/-- The steps of a tagged handler carry its datum. -/
theorem tagged_actions {α : Type} (handle : StakeDatum → Task α) (datum : StakeDatum) :
    ∀ step ∈ (tagged handle datum).actions, step.1 = datum := by
  intro step member
  rw [tagged, Task.actions_map] at member
  obtain ⟨action, _, rfl⟩ := List.mem_map.mp member
  rfl

/-- The steps of a group's handlers belong to its data. -/
theorem group_actions {α : Type} (handle : StakeDatum → Task α) (group : List StakeDatum) :
    ∀ step ∈ (Task.chain (group.map (tagged handle))).actions, step.1 ∈ group := by
  intro step member
  rw [Task.actions_chain, List.mem_flatten] at member
  obtain ⟨_, chosen, owned⟩ := member
  obtain ⟨_, listed, rfl⟩ := List.mem_map.mp chosen
  obtain ⟨datum, inside, rfl⟩ := List.mem_map.mp listed
  exact tagged_actions handle datum step owned ▸ inside

/-- A datum does not precede itself. -/
theorem not_precedes_self (datum : StakeDatum) : ¬ datum.precedes datum := by
  unfold StakeDatum.precedes
  cases datum.isFinalized <;> simp

section

variable {α : Type} {getEntityIdArg : RecordGetId} {data : List StakeDatum}
  {groups : List (List StakeDatum)} (free : ConflictFree getEntityIdArg data groups)
  (handle : StakeDatum → Task α) {trace : List (StakeDatum × α)}
  (run : Trace (Task.all (groups.map fun group => Task.chain (group.map (tagged handle)))) trace)

include free run

/-- Seen from one group, a run awaits each handler of the group before the next. -/
theorem group_sequential {group : List StakeDatum} (located : group ∈ groups) :
    Trace (Task.chain (group.map (tagged handle))) (trace.filter fun step => step.1 ∈ group) := by
  obtain ⟨before, after, rfl⟩ := List.append_of_mem located
  rw [List.map_append, List.map_cons] at run
  refine run.all_filter ?_ ?_
  · intro step owned
    exact decide_eq_true (group_actions handle group step owned)
  · intro beside member step owned
    rw [← List.map_append] at member
    obtain ⟨other, listed, rfl⟩ := List.mem_map.mp member
    have inside := group_actions handle other step owned
    refine decide_eq_false fun again => ?_
    -- A datum of two groups would have ids, and share them with itself.
    have known : step.1 ∈ data := free.complete.mem_iff.mp
      (List.mem_flatten.mpr ⟨group, located, again⟩)
    obtain ⟨id, held⟩ := List.exists_mem_of_ne_nil _ (free.named step.1 known)
    have apart := free.apart
    rw [List.pairwise_append, List.pairwise_cons] at apart
    rcases List.mem_append.mp listed with earlier | later
    · exact apart.2.2 other earlier group List.mem_cons_self step.1 inside step.1 again id held held
    · exact apart.2.1.1 other later step.1 again step.1 inside id held held

/-- In a run no step of a datum comes after a step of a related datum it precedes. -/
theorem run_inOrder : trace.Pairwise fun earlier later =>
    Related getEntityIdArg data earlier.1 later.1 → ¬ later.1.precedes earlier.1 := by
  have covered : ∀ step ∈ trace, ∃ group ∈ groups, step.1 ∈ group := by
    intro step member
    have listed := run.perm.mem_iff.mp member
    rw [Task.actions_all, List.mem_flatten] at listed
    obtain ⟨_, chosen, owned⟩ := listed
    obtain ⟨_, task, rfl⟩ := List.mem_map.mp chosen
    obtain ⟨group, located, rfl⟩ := List.mem_map.mp task
    exact ⟨group, located, group_actions handle group step owned⟩
  -- Related data belong to one group, whose handlers follow its order.
  have grouped : ∀ group ∈ groups, trace.Pairwise fun earlier later =>
      earlier.1 ∈ group → later.1 ∈ group → ¬ later.1.precedes earlier.1 := by
    intro group located
    have ordered : (trace.filter fun step => step.1 ∈ group).Pairwise fun earlier later =>
        ¬ later.1.precedes earlier.1 := by
      refine (group_sequential free handle run located).chain_pairwise ?_ ?_
      · intro task member first one second two
        obtain ⟨datum, _, rfl⟩ := List.mem_map.mp member
        rw [tagged_actions handle datum first one, tagged_actions handle datum second two]
        exact not_precedes_self datum
      · rw [List.pairwise_map]
        refine (free.inOrder group located).imp fun {earlier later} order first one second two => ?_
        rw [tagged_actions handle earlier first one, tagged_actions handle later second two]
        exact order
    rw [List.pairwise_filter] at ordered
    exact ordered.imp fun order one two => order (decide_eq_true one) (decide_eq_true two)
  refine List.pairwise_iff_forall_sublist.mpr fun {earlier later} sublist related => ?_
  have first := sublist.subset List.mem_cons_self
  obtain ⟨group, located, inside⟩ := covered earlier first
  have known : later.1 ∈ data := by
    obtain ⟨other, listed, held⟩ := covered later (sublist.subset (by simp))
    exact free.complete.mem_iff.mp (List.mem_flatten.mpr ⟨other, listed, held⟩)
  have also := (free.together group located earlier.1 inside later.1).mpr ⟨known, related⟩
  exact (List.pairwise_iff_forall_sublist.mp (grouped group located) sublist) inside also

end

/-- A stake, an unstake, and the transfer that ends between their applications. -/
def transferBlock : List StakeDatum :=
  [.event ⟨0, 7, .finalizeBlock, .applicationTransferEnd,
      [⟨"source_address", "\"pokt1a\""⟩, ⟨"destination_address", "\"pokt1b\""⟩], none, none⟩,
    .msg ⟨0, 7, ⟨0, "T", 0, []⟩, .stakeApplication ⟨"pokt1b", none, []⟩⟩,
    .msg ⟨0, 7, ⟨1, "U", 0, []⟩, .unstakeApplication ⟨"pokt1a"⟩⟩]

end Pocketdex
