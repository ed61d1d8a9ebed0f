import Mathlib.Data.List.Induction
import Mathlib.Data.List.Pairwise
import Mathlib.Data.String.Basic
import Pocketdex.IndexerManager

/-! Stake data are filed by entity id, and the entries of connected ids are merged without loss. -/

namespace Pocketdex

/-- Account addresses are not empty, and hold neither a double quote nor the joining dash. -/
def IsAddress (id : String) : Prop := id ≠ "" ∧ '-' ∉ id.toList ∧ '"' ∉ id.toList

instance : DecidablePred IsAddress := fun _ => by unfold IsAddress; infer_instance

/-- The ids that a datum's getter returns. -/
def entityIds (getEntityIdArg : RecordGetId) (datum : StakeDatum) : List String :=
  match getEntityId getEntityIdArg datum with
  | .ok (.one id) => match datum with
    | .event _ => [replaceQuotes id]
    | .msg _ => [id]
  | .ok (.many ids) => ids
  | _ => []

/-- The id a datum is filed under. -/
def primaryId (getEntityIdArg : RecordGetId) (datum : StakeDatum) : String :=
  (entityIds getEntityIdArg datum).headD ""

/-- The ids an event updates together, when its getter lists them. -/
def updatedTogether (getEntityIdArg : RecordGetId) (datum : StakeDatum) : List (List String) :=
  match getEntityId getEntityIdArg datum with
  | .ok (.many ids) => [ids]
  | _ => []

/-- The data an entry holds, in the order they arrived. -/
def EntityData.contents (data : EntityData) : List StakeDatum :=
  data.nonFinalizedData ++ data.finalizedEvents.map .event

/-- An entry keeps the events of finalization apart from the rest. -/
structure EntityData.Sorted (data : EntityData) : Prop where
  finalized : ∀ event ∈ data.finalizedEvents, isEventOfFinalizedBlockKind event = true
  rest : ∀ datum ∈ data.nonFinalizedData, datum.isFinalized = false

/-- Every entry holds exactly the data whose label is its key. -/
structure GroupedBy (label : StakeDatum → String) (data : List StakeDatum)
    (entries : Dict String EntityData) : Prop where
  held : ∀ key found, entries.get key = some found →
    found.contents.Perm (data.filter fun datum => label datum = key)
  absent : ∀ key, entries.get key = none → ∀ datum ∈ data, label datum ≠ key
  sorted : ∀ key found, entries.get key = some found → found.Sorted

/-- Pushing a datum adds it to the contents. -/
theorem push_contents (data : EntityData) (datum : StakeDatum) :
    (data.push datum).contents.Perm (data.contents ++ [datum]) := by
  -- Events of finalization are kept last, so only the others move.
  have moved : ∀ (last : StakeDatum) (kept final : List StakeDatum),
      ((kept ++ [last]) ++ final).Perm ((kept ++ final) ++ [last]) := by
    intro last kept final
    rw [List.append_assoc, List.append_assoc]
    exact List.Perm.append_left kept List.perm_append_comm
  cases datum with
  | event event =>
    simp only [EntityData.push]
    split
    · simp [EntityData.contents]
    · exact moved (.event event) _ _
  | msg msg => exact moved (.msg msg) _ _

/-- Pushing keeps the events of finalization apart. -/
theorem push_sorted {data : EntityData} (sorted : data.Sorted) (datum : StakeDatum) :
    (data.push datum).Sorted := by
  cases datum with
  | event event =>
    simp only [EntityData.push]
    split
    · rename_i final
      refine ⟨?_, sorted.rest⟩
      intro other member
      rcases List.mem_append.mp member with earlier | last
      · exact sorted.finalized other earlier
      · exact List.mem_singleton.mp last ▸ final
    · rename_i open_
      refine ⟨sorted.finalized, ?_⟩
      intro other member
      rcases List.mem_append.mp member with earlier | last
      · exact sorted.rest other earlier
      · rw [List.mem_singleton.mp last]
        simpa [StakeDatum.isFinalized] using open_
  | msg msg =>
    refine ⟨sorted.finalized, ?_⟩
    intro other member
    rcases List.mem_append.mp member with earlier | last
    · exact sorted.rest other earlier
    · rw [List.mem_singleton.mp last]
      rfl

/-- Appending entries appends their contents. -/
theorem append_contents (first second : EntityData) :
    (first.append second).contents.Perm (first.contents ++ second.contents) := by
  simp only [EntityData.append, EntityData.contents, List.map_append, List.append_assoc]
  refine List.Perm.append_left _ ?_
  rw [← List.append_assoc, ← List.append_assoc]
  exact List.Perm.append_right _ List.perm_append_comm

/-- Appending keeps the events of finalization apart. -/
theorem append_sorted {first second : EntityData} (one : first.Sorted) (two : second.Sorted) :
    (first.append second).Sorted :=
  ⟨fun event member => (List.mem_append.mp member).elim (one.finalized event) (two.finalized event),
    fun datum member => (List.mem_append.mp member).elim (one.rest datum) (two.rest datum)⟩

/-- A text without quotes is left as it is. -/
theorem replaceQuotes_eq {text : String} (plain : '"' ∉ text.toList) :
    replaceQuotes text = text := by
  have kept : text.toList.filter (· ≠ '"') = text.toList :=
    List.filter_eq_self.mpr fun char member =>
      decide_eq_true fun same => plain (same ▸ member)
  simp only [replaceQuotes, kept, String.ofList_toList]

/-- A datum that is filed has an id, is stored under its first one, and records listed ids. -/
theorem fileDatum_ok {getEntityIdArg : RecordGetId} {filed after : Filed} {datum : StakeDatum}
    (addresses : ∀ id ∈ entityIds getEntityIdArg datum, IsAddress id)
    (ran : fileDatum getEntityIdArg filed datum = .ok after) :
    entityIds getEntityIdArg datum ≠ [] ∧
      after = (⟨filed.entitiesUpdatedAtSameDatum ++ updatedTogether getEntityIdArg datum,
        filed.dataByEntityId⟩ : Filed).push (primaryId getEntityIdArg datum) datum := by
  -- The cases are the shapes a getter's answer can have.
  unfold fileDatum at ran
  cases got : getEntityId getEntityIdArg datum with
  | error message => simp [got, Bind.bind, Except.bind] at ran
  | ok entityId =>
    simp only [got, Bind.bind, Except.bind] at ran
    cases datum with
    | msg msg =>
      cases entityId with
      | one id =>
        simp only [Pure.pure, Except.pure, Except.ok.injEq] at ran
        subst ran
        simp [primaryId, entityIds, updatedTogether, got]
      | missing => simp at ran
      | many ids => simp at ran
    | event event =>
      cases entityId with
      | missing => simp at ran
      | one id =>
        simp only [Pure.pure, Except.pure] at ran
        split at ran
        · simp at ran
        · simp only [Except.ok.injEq] at ran
          subst ran
          simp [primaryId, entityIds, updatedTogether, got]
      | many ids =>
        cases ids with
        | nil => simp at ran
        | cons id rest =>
          simp only [Pure.pure, Except.pure, Except.ok.injEq] at ran
          subst ran
          have plain : replaceQuotes id = id :=
            replaceQuotes_eq (addresses id (by simp [entityIds, got])).2.2
          simp [primaryId, entityIds, updatedTogether, got, plain]

/-- A datum whose getter finds addresses is filed. -/
theorem fileDatum_succeeds {getEntityIdArg : RecordGetId} {filed : Filed} {datum : StakeDatum}
    (named : entityIds getEntityIdArg datum ≠ [])
    (addresses : ∀ id ∈ entityIds getEntityIdArg datum, IsAddress id) :
    ∃ after, fileDatum getEntityIdArg filed datum = .ok after := by
  unfold fileDatum
  cases got : getEntityId getEntityIdArg datum with
  | error message => simp [entityIds, got] at named
  | ok entityId =>
    simp only [Bind.bind, Except.bind]
    cases datum with
    | msg msg =>
      cases entityId with
      | one id => exact ⟨_, rfl⟩
      | missing => simp [entityIds, got] at named
      | many ids =>
        -- The getter of a message reads one field.
        simp only [getEntityId] at got
        split at got <;> simp at got
    | event event =>
      cases entityId with
      | missing => simp [entityIds, got] at named
      | one id =>
        have nonempty : id ≠ "" := by
          rintro rfl
          exact (addresses "" (by simp [entityIds, got, replaceQuotes])).1 rfl
        simp only [nonempty, if_false]
        exact ⟨_, rfl⟩
      | many ids =>
        cases ids with
        | nil => simp [entityIds, got] at named
        | cons id rest => exact ⟨_, rfl⟩

/-- Filing one more datum under its label keeps the entries grouped. -/
theorem GroupedBy.push {label : StakeDatum → String} {data : List StakeDatum}
    {entries : Dict String EntityData} (grouped : GroupedBy label data entries)
    (datum : StakeDatum) :
    GroupedBy label (data ++ [datum]) (entries.set (label datum)
      (((entries.get (label datum)).getD EntityData.empty).push datum)) := by
  refine ⟨?_, ?_, ?_⟩
  · intro key found located
    rw [Dict.get_set] at located
    split at located
    · rename_i same
      subst same
      cases located
      -- The entry's earlier contents are the data filed under the label before.
      have before : ((entries.get (label datum)).getD EntityData.empty).contents.Perm
          (data.filter fun other => label other = label datum) := by
        cases earlier : entries.get (label datum) with
        | some known => exact grouped.held _ _ earlier
        | none =>
          have none_labelled : data.filter (fun other => label other = label datum) = [] :=
            List.filter_eq_nil_iff.mpr fun other member => by
              simpa using grouped.absent _ earlier other member
          rw [none_labelled]
          exact List.Perm.refl _
      refine (push_contents _ _).trans ?_
      rw [List.filter_append]
      simpa using before.append_right [datum]
    · rename_i different
      have unlabelled : ¬ label datum = key := fun same => different same.symm
      simpa [List.filter_append, unlabelled] using grouped.held key found located
  · intro key missing other member
    rw [Dict.get_set] at missing
    split at missing
    · simp at missing
    · rename_i different
      rcases List.mem_append.mp member with earlier | last
      · exact grouped.absent key missing other earlier
      · rw [List.mem_singleton.mp last]
        exact fun same => different same.symm
  · intro key found located
    rw [Dict.get_set] at located
    split at located
    · cases located
      refine push_sorted ?_ datum
      cases earlier : entries.get (label datum) with
      | some known => exact grouped.sorted _ _ earlier
      | none => exact ⟨by simp [EntityData.empty], by simp [EntityData.empty]⟩
    · exact grouped.sorted key found located

/-- Filing a list of data groups them by their primary id and records the listed ids. -/
theorem fileData_ok {getEntityIdArg : RecordGetId} {data : List StakeDatum} {filed : Filed}
    (addresses : ∀ datum ∈ data, ∀ id ∈ entityIds getEntityIdArg datum, IsAddress id)
    (ran : data.foldlM (fileDatum getEntityIdArg) ⟨[], Dict.empty⟩ = .ok filed) :
    (∀ datum ∈ data, entityIds getEntityIdArg datum ≠ []) ∧
      filed.entitiesUpdatedAtSameDatum = data.flatMap (updatedTogether getEntityIdArg) ∧
      GroupedBy (primaryId getEntityIdArg) data filed.dataByEntityId := by
  -- The loop is followed from the left, so the data filed so far stay in front.
  have loop : ∀ (pending earlier : List StakeDatum) (before : Filed),
      (∀ datum ∈ pending, ∀ id ∈ entityIds getEntityIdArg datum, IsAddress id) →
      before.entitiesUpdatedAtSameDatum = earlier.flatMap (updatedTogether getEntityIdArg) →
      GroupedBy (primaryId getEntityIdArg) earlier before.dataByEntityId →
      pending.foldlM (fileDatum getEntityIdArg) before = .ok filed →
      (∀ datum ∈ pending, entityIds getEntityIdArg datum ≠ []) ∧
        filed.entitiesUpdatedAtSameDatum =
          (earlier ++ pending).flatMap (updatedTogether getEntityIdArg) ∧
        GroupedBy (primaryId getEntityIdArg) (earlier ++ pending) filed.dataByEntityId := by
    intro pending
    induction pending with
    | nil =>
      intro earlier before _ recorded grouped ran
      simp only [List.foldlM_nil, Pure.pure, Except.pure, Except.ok.injEq] at ran
      subst ran
      simpa using ⟨recorded, grouped⟩
    | cons datum rest ih =>
      intro earlier before plain recorded grouped ran
      simp only [List.foldlM_cons, Bind.bind, Except.bind] at ran
      cases stepped : fileDatum getEntityIdArg before datum with
      | error message => simp [stepped] at ran
      | ok after =>
        simp only [stepped] at ran
        obtain ⟨named, rfl⟩ := fileDatum_ok (plain datum List.mem_cons_self) stepped
        have further := ih (earlier ++ [datum]) _
          (fun other member => plain other (List.mem_cons_of_mem _ member))
          (by simp [Filed.push, recorded]) (grouped.push datum) ran
        simp only [List.append_assoc, List.singleton_append] at further
        exact ⟨List.forall_mem_cons.mpr ⟨named, further.1⟩, further.2⟩
  simpa using loop data [] ⟨[], Dict.empty⟩ addresses rfl
    ⟨by simp, by simp, by simp⟩ ran

/-- Gathering takes the entries of the given ids and leaves the others. -/
theorem gather_spec {label : StakeDatum → String} {data : List StakeDatum}
    {entries : Dict String EntityData} (grouped : GroupedBy label data entries)
    {entities : List String} (distinct : entities.Nodup) :
    (gather entries entities).1.contents.Perm (data.filter fun datum => label datum ∈ entities) ∧
      (gather entries entities).1.Sorted ∧
      ∀ key, (gather entries entities).2.get key =
        if key ∈ entities then none else entries.get key := by
  -- The entries taken so far are those of the ids already passed.
  have loop : ∀ (pending passed : List String) (gathered : EntityData)
      (remaining : Dict String EntityData), (passed ++ pending).Nodup →
      gathered.contents.Perm (data.filter fun datum => label datum ∈ passed) → gathered.Sorted →
      (∀ key, remaining.get key = if key ∈ passed then none else entries.get key) →
      let result := pending.foldl gatherEntity (gathered, remaining)
      result.1.contents.Perm (data.filter fun datum => label datum ∈ passed ++ pending) ∧
        result.1.Sorted ∧ ∀ key, result.2.get key =
          if key ∈ passed ++ pending then none else entries.get key := by
    intro pending
    induction pending with
    | nil =>
      intro passed gathered remaining _ contents sorted gone
      simpa using ⟨contents, sorted, gone⟩
    | cons entity rest ih =>
      intro passed gathered remaining distinct contents sorted gone
      have fresh : entity ∉ passed := by
        intro again
        exact (List.nodup_append.mp distinct).2.2 entity again entity List.mem_cons_self rfl
      have assoc : passed ++ entity :: rest = (passed ++ [entity]) ++ rest := by simp
      -- The data labelled by the new id follow those taken before it.
      have split : (data.filter fun datum => label datum ∈ passed ++ [entity]).Perm
          ((data.filter fun datum => label datum ∈ passed) ++
            data.filter fun datum => label datum = entity) := by
        have parts := (List.filter_append_perm (fun datum => decide (label datum ∈ passed))
          (data.filter fun datum => label datum ∈ passed ++ [entity])).symm
        rw [List.filter_filter, List.filter_filter] at parts
        have early : ∀ datum ∈ data, (decide (label datum ∈ passed) &&
            decide (label datum ∈ passed ++ [entity])) = decide (label datum ∈ passed) := by
          intro datum _
          by_cases inside : label datum ∈ passed <;> simp [inside]
        have late : ∀ datum ∈ data, (!decide (label datum ∈ passed) &&
            decide (label datum ∈ passed ++ [entity])) = decide (label datum = entity) := by
          intro datum _
          by_cases same : label datum = entity
          · simp [same, fresh]
          · by_cases inside : label datum ∈ passed <;> simp [inside, same]
        rwa [List.filter_congr early, List.filter_congr late] at parts
      simp only [List.foldl_cons]
      rw [assoc] at distinct ⊢
      have current : remaining.get entity = entries.get entity := by simp [gone, fresh]
      cases located : entries.get entity with
      -- An id without an entry labels nothing, and adds nothing.
      | none =>
        simp only [gatherEntity, current, located]
        refine ih _ _ _ distinct ?_ sorted ?_
        · have unlabelled : (data.filter fun datum => label datum = entity) = [] :=
            List.filter_eq_nil_iff.mpr fun datum member => by
              simpa using grouped.absent entity located datum member
          rw [unlabelled, List.append_nil] at split
          exact contents.trans split.symm
        · intro key
          rw [gone]
          by_cases same : key = entity
          · subst same; simp [located]
          · simp [same]
      -- An entry adds its data, and is erased.
      | some found =>
        simp only [gatherEntity, current, located]
        refine ih _ _ _ distinct ?_ (append_sorted sorted (grouped.sorted _ _ located)) ?_
        · exact ((append_contents _ _).trans (contents.append (grouped.held _ _ located))).trans
            split.symm
        · intro key
          rw [Dict.get_erase, gone]
          by_cases same : key = entity
          · subst same; simp
          · simp [same]
  have done := loop entities [] EntityData.empty entries (by simpa using distinct)
    (by simp [EntityData.contents, EntityData.empty])
    ⟨by simp [EntityData.empty], by simp [EntityData.empty]⟩ (by simp)
  simpa [gather] using done

/-- Merging connected entries relabels their data with the joined id. -/
theorem mergeGroup_groupedBy {label : StakeDatum → String} {data : List StakeDatum}
    {entries : Dict String EntityData} (grouped : GroupedBy label data entries)
    {entities : List String} (distinct : entities.Nodup)
    (free : ∀ datum ∈ data, label datum = joinIds entities → label datum ∈ entities) :
    GroupedBy (fun datum => if label datum ∈ entities then joinIds entities else label datum) data
      (mergeGroup entries entities) := by
  obtain ⟨contents, sorted, gone⟩ := gather_spec grouped distinct
  -- The merged entry takes the joined id, and the entries it was made of are gone.
  have lookup : ∀ key, (mergeGroup entries entities).get key =
      if key = joinIds entities then some (gather entries entities).1
      else if key ∈ entities then none else entries.get key := by
    intro key
    rw [mergeGroup, Dict.get_set, gone]
  refine ⟨?_, ?_, ?_⟩
  · -- The joined entry holds the data of every entity of the group, and no others.
    intro key found located
    rw [lookup] at located
    split at located
    · rename_i joined
      cases located
      have same : ∀ datum ∈ data, decide (label datum ∈ entities) =
          decide ((if label datum ∈ entities then joinIds entities else label datum) = key) := by
        intro datum member
        by_cases inside : label datum ∈ entities
        · simp [inside, joined]
        · have apart : label datum ≠ key := fun same =>
            inside (free datum member (same.trans joined))
          simp [inside, apart]
      rw [← List.filter_congr same]
      exact contents
    · rename_i different
      split at located
      · simp at located
      · -- Entries outside the group hold what they held.
        rename_i outside
        have same : ∀ datum ∈ data, decide (label datum = key) =
            decide ((if label datum ∈ entities then joinIds entities else label datum) = key) := by
          intro datum _
          by_cases inside : label datum ∈ entities
          · have apart : label datum ≠ key := fun same => outside (same ▸ inside)
            have unjoined : ¬ joinIds entities = key := fun same => different same.symm
            simp [inside, apart, unjoined]
          · simp [inside]
        rw [← List.filter_congr same]
        exact grouped.held key found located
  · -- A key without an entry labels no datum, before or after.
    intro key missing datum member
    rw [lookup] at missing
    split at missing
    · simp at missing
    · rename_i different
      split
      · exact fun same => different same.symm
      · rename_i outside
        split at missing
        · rename_i inside
          exact fun same => outside (same ▸ inside)
        · exact grouped.absent key missing datum member
  · intro key found located
    rw [lookup] at located
    split at located
    · cases located
      exact sorted
    · split at located
      · simp at located
      · exact grouped.sorted key found located

/-- Joined ids of different groups of addresses differ. -/
theorem joinIds_injective {first second : List String}
    (plain : ∀ id ∈ first ++ second, IsAddress id) (nonempty : first ≠ []) (other : second ≠ [])
    (same : joinIds first = joinIds second) : first = second := by
  -- Splitting the joined text at its separators recovers the ids.
  have lists : first.map String.toList = second.map String.toList := by
    have joined := String.ofList_injective same
    have split := congrArg (List.splitOn '-') joined
    rwa [List.splitOn_intercalate '-' (by
        intro text member
        obtain ⟨id, inside, rfl⟩ := List.mem_map.mp member
        exact (plain id (List.mem_append_left _ inside)).2.1) (by simpa using nonempty),
      List.splitOn_intercalate '-' (by
        intro text member
        obtain ⟨id, inside, rfl⟩ := List.mem_map.mp member
        exact (plain id (List.mem_append_right _ inside)).2.1) (by simpa using other)] at split
  exact List.map_injective_iff.mpr (fun _ _ => String.toList_inj.mp) lists

/-- A joined id that is itself an address joins that address alone. -/
theorem joinIds_address {entities : List String} {id : String}
    (plain : ∀ member ∈ entities, IsAddress member) (nonempty : entities ≠ [])
    (address : IsAddress id) (same : id = joinIds entities) : entities = [id] := by
  refine (@joinIds_injective [id] entities ?_ (by simp) nonempty ?_).symm
  · intro member inside
    rcases List.mem_append.mp inside with here | there
    · exact List.mem_singleton.mp here ▸ address
    · exact plain member there
  · rw [← same]
    simp [joinIds]

/-- Groups of addresses without members in common. -/
structure SeparateGroups (components : List (List String)) : Prop where
  distinct : components.flatten.Nodup
  inhabited : ∀ component ∈ components, component ≠ []
  addresses : ∀ component ∈ components, ∀ id ∈ component, IsAddress id

/-- The key under which an id's data end up once the given groups are merged. -/
def mergedKey (components : List (List String)) (id : String) : String :=
  match components.find? (id ∈ ·) with
  | some component => joinIds component
  | none => id

/-- An id belongs to at most one of the separate groups. -/
theorem SeparateGroups.unique {components : List (List String)}
    (separate : SeparateGroups components) {first second : List String}
    (one : first ∈ components) (two : second ∈ components) {id : String}
    (inside : id ∈ first) (also : id ∈ second) : first = second := by
  by_contra different
  have disjoint := (List.nodup_flatten.mp separate.distinct).2
  have symmetric : Std.Symm fun left right : List String => List.Disjoint left right :=
    ⟨fun _ _ apart _ member held => apart held member⟩
  exact disjoint.forall one two different inside also

/-- The groups that precede one of the separate groups are separate as well. -/
theorem SeparateGroups.append_left {before after : List (List String)}
    (separate : SeparateGroups (before ++ after)) : SeparateGroups before := by
  refine ⟨?_, fun component located => separate.inhabited component (List.mem_append_left _ located),
    fun component located => separate.addresses component (List.mem_append_left _ located)⟩
  have distinct := separate.distinct
  rw [List.flatten_append] at distinct
  exact (List.nodup_append.mp distinct).1

/-- Ids of a merged group end up under its joined id. -/
theorem mergedKey_inside {components : List (List String)} (separate : SeparateGroups components)
    {component : List String} (located : component ∈ components) {id : String}
    (inside : id ∈ component) : mergedKey components id = joinIds component := by
  -- No other group holds the id, so the search finds this one.
  unfold mergedKey
  cases found : components.find? (id ∈ ·) with
  | none => simpa [inside] using List.find?_eq_none.mp found component located
  | some other =>
    have holds : id ∈ other := by simpa using List.find?_some found
    have listed := List.mem_of_find?_eq_some found
    simp [separate.unique listed located holds inside]

/-- Ids of no merged group keep their own key. -/
theorem mergedKey_outside {components : List (List String)} {id : String}
    (outside : ∀ component ∈ components, id ∉ component) : mergedKey components id = id := by
  unfold mergedKey
  have none : components.find? (id ∈ ·) = none :=
    List.find?_eq_none.mpr fun component located => by simpa using outside component located
  rw [none]

/-- Merging one more group moves exactly its ids to the joined id. -/
theorem mergedKey_snoc {before : List (List String)} {component : List String}
    (separate : SeparateGroups (before ++ [component])) {id : String} :
    mergedKey (before ++ [component]) id =
      if mergedKey before id ∈ component then joinIds component else mergedKey before id := by
  have last : component ∈ before ++ [component] := by simp
  by_cases merged : ∃ earlier ∈ before, id ∈ earlier
  · obtain ⟨earlier, located, inside⟩ := merged
    have listed : earlier ∈ before ++ [component] := List.mem_append_left _ located
    rw [mergedKey_inside separate.append_left located inside, mergedKey_inside separate listed inside]
    -- A joined id inside the new group would be an address both groups hold.
    have outside : joinIds earlier ∉ component := by
      intro again
      have single := joinIds_address (separate.addresses earlier listed)
        (separate.inhabited earlier listed) (separate.addresses component last _ again) rfl
      have held : joinIds earlier ∈ earlier := by
        have : joinIds earlier ∈ [joinIds earlier] := List.mem_singleton_self _
        rwa [← single] at this
      have same := separate.unique listed last held again
      have apart := (List.nodup_append.mp (by
        have distinct := separate.distinct
        rwa [List.flatten_append] at distinct)).2.2
      exact apart (joinIds earlier) (List.mem_flatten.mpr ⟨earlier, located, held⟩)
        (joinIds earlier) (by simpa using again) rfl
    rw [if_neg outside]
  · have fresh : ∀ earlier ∈ before, id ∉ earlier :=
      fun earlier located inside => merged ⟨earlier, located, inside⟩
    rw [mergedKey_outside fresh]
    split
    · rename_i inside
      exact mergedKey_inside separate last inside
    · rename_i outside
      refine mergedKey_outside fun other located => ?_
      rcases List.mem_append.mp located with earlier | here
      · exact fresh other earlier
      · exact List.mem_singleton.mp here ▸ outside

/-- Merging separate groups leaves every datum under the merged key of its id. -/
theorem mergeGroups_groupedBy {primary : StakeDatum → String} {data : List StakeDatum}
    {entries : Dict String EntityData} (grouped : GroupedBy primary data entries)
    (addresses : ∀ datum ∈ data, IsAddress (primary datum)) {components : List (List String)}
    (separate : SeparateGroups components) :
    GroupedBy (fun datum => mergedKey components (primary datum)) data
      (components.foldl mergeGroup entries) := by
  -- The labels of the data follow the groups merged so far.
  induction components using List.reverseRecOn with
  | nil => simpa [mergedKey] using grouped
  | append_singleton before component ih =>
    have earlier := ih separate.append_left
    rw [List.foldl_append, List.foldl_cons, List.foldl_nil]
    have last : component ∈ before ++ [component] := by simp
    have distinct : component.Nodup :=
      (List.nodup_flatten.mp separate.distinct).1 component last
    have merged := mergeGroup_groupedBy earlier distinct ?_
    · have relabel : ∀ datum ∈ data,
          (if mergedKey before (primary datum) ∈ component then joinIds component
            else mergedKey before (primary datum)) =
          mergedKey (before ++ [component]) (primary datum) :=
        fun datum _ => (mergedKey_snoc separate).symm
      refine ⟨?_, ?_, merged.sorted⟩
      · intro key found located
        refine (merged.held key found located).trans (List.Perm.of_eq ?_)
        exact List.filter_congr fun datum member => by rw [relabel datum member]
      · intro key missing datum member
        rw [← relabel datum member]
        exact merged.absent key missing datum member
    · intro datum member same
      have address := addresses datum member
      by_cases inside : mergedKey before (primary datum) ∈ component
      · exact inside
      -- Otherwise the datum's key equals a joined id that belongs to no other group.
      · exfalso
        by_cases known : ∃ other ∈ before, primary datum ∈ other
        · obtain ⟨other, located, held⟩ := known
          have listed : other ∈ before ++ [component] := List.mem_append_left _ located
          rw [mergedKey_inside separate.append_left located held] at same
          have equal : other = component := joinIds_injective (by
            intro id member
            rcases List.mem_append.mp member with left | right
            · exact separate.addresses other listed id left
            · exact separate.addresses component last id right)
            (separate.inhabited other listed) (separate.inhabited component last) same
          have apart := (List.nodup_append.mp (by
            have distinct := separate.distinct
            rwa [List.flatten_append] at distinct)).2.2
          exact apart (primary datum) (List.mem_flatten.mpr ⟨other, located, held⟩)
            (primary datum) (by simpa using equal ▸ held) rfl
        · have fresh : ∀ other ∈ before, primary datum ∉ other :=
            fun other located held => known ⟨other, located, held⟩
          rw [mergedKey_outside fresh] at same inside
          have single := joinIds_address (separate.addresses component last)
            (separate.inhabited component last) address same
          exact inside (by simp [single])

end Pocketdex
