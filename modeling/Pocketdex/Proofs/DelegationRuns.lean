import Pocketdex.Proofs.Delegations

/-! Exactly which blocks can leave delegations to a released gateway, page by page of each fetch. -/

namespace Pocketdex

open DelegationState

deriving instance DecidableEq for Task

/-- A datum takes the delegation of an application to a gateway away. -/
inductive Erases (gatewayId id : String) : StakeDatum → Prop where
  | undelegate {sent : CosmosMessage} {msg : MsgUndelegateFromGateway} :
      sent.decodedMsg = .undelegateFromGateway msg → msg.appAddress = id →
      msg.gatewayAddress = gatewayId → Erases gatewayId id (.msg sent)
  | transfer {event : CosmosEvent} {destination : String} :
      event.type = .applicationTransferEnd → readTransferEnd event = .ok (id, destination) →
      Erases gatewayId id (.event event)

/-- A datum writes the delegation of an application to a gateway. -/
inductive Writes (gatewayId id : String) (carried : Carried) : StakeDatum → Prop where
  | delegate {sent : CosmosMessage} {msg : MsgDelegateToGateway} :
      sent.decodedMsg = .delegateToGateway msg → msg.appAddress = id →
      msg.gatewayAddress = gatewayId → Writes gatewayId id carried (.msg sent)
  | transfer {event : CosmosEvent} {source : String} :
      event.type = .applicationTransferEnd → readTransferEnd event = .ok (source, id) →
      source ∈ carried.held → Writes gatewayId id carried (.event event)

/-- A datum adds an application, takes one away, does both, or leaves what is carried. -/
theorem carry_cases (gatewayId : String) (carried : Carried) (datum : StakeDatum) :
    (∃ id, Writes gatewayId id carried datum ∧ (∀ other, ¬ Erases gatewayId other datum) ∧
      carry gatewayId carried datum = ⟨insert id carried.held, insert id carried.written⟩) ∨
    (∃ id, (∀ other, Erases gatewayId other datum → other = id) ∧
      carry gatewayId carried datum = ⟨carried.held.erase id, carried.written.erase id⟩) ∨
    (∃ source id, Writes gatewayId id carried datum ∧
      (∀ other, Erases gatewayId other datum → other = source) ∧
      carry gatewayId carried datum =
        ⟨insert id (carried.held.erase source), insert id (carried.written.erase source)⟩) ∨
    ((∀ other, Erases gatewayId other datum → other ∉ carried.held) ∧
      carry gatewayId carried datum = carried) := by
  cases datum with
  | msg sent =>
    cases kind : sent.decodedMsg with
    -- Only a message to this gateway adds, and a message of delegating never takes away.
    | delegateToGateway msg =>
      have keeps : ∀ other, ¬ Erases gatewayId other (.msg sent) := by
        intro other erases
        cases erases with
        | undelegate found _ _ =>
          rw [kind] at found
          cases found
      by_cases same : msg.gatewayAddress = gatewayId
      · exact Or.inl ⟨msg.appAddress, Writes.delegate kind rfl same, keeps,
          by simp only [carry, kind, if_pos same]⟩
      · exact Or.inr (Or.inr (Or.inr ⟨fun other erases => absurd erases (keeps other),
          by simp only [carry, kind, if_neg same]⟩))
    | undelegateFromGateway msg =>
      have named : ∀ other, Erases gatewayId other (.msg sent) →
          other = msg.appAddress ∧ msg.gatewayAddress = gatewayId := by
        intro other erases
        cases erases with
        | undelegate found app gateway =>
          rw [kind] at found
          cases found
          exact ⟨app.symm, gateway⟩
      by_cases same : msg.gatewayAddress = gatewayId
      · -- Undelegating from this gateway takes the application out of both sets.
        exact Or.inr (Or.inl ⟨msg.appAddress, fun other erases => (named other erases).1,
          by simp only [carry, kind, if_pos same]⟩)
      · exact Or.inr (Or.inr (Or.inr ⟨fun other erases => absurd (named other erases).2 same,
          by simp only [carry, kind, if_neg same]⟩))
    | _ =>
      refine Or.inr (Or.inr (Or.inr ⟨?_, by simp only [carry, kind]⟩))
      intro other erases
      cases erases with
      | undelegate found _ _ =>
        rw [kind] at found
        cases found
  | event emitted =>
    by_cases kind : emitted.type = .applicationTransferEnd
    · cases read : readTransferEnd emitted with
      -- A transfer that cannot be read is skipped, and moves nothing.
      | error message =>
        refine Or.inr (Or.inr (Or.inr ⟨?_, by simp only [carry, kind, read]⟩))
        intro other erases
        cases erases with
        | transfer _ found =>
          rw [read] at found
          cases found
      | ok parties =>
        obtain ⟨source, destination⟩ := parties
        have named : ∀ other, Erases gatewayId other (.event emitted) → other = source := by
          intro other erases
          cases erases with
          | transfer _ found =>
            rw [read] at found
            cases found
            rfl
        -- The destination follows the source only where the gateway held the source.
        by_cases held : source ∈ carried.held
        · exact Or.inr (Or.inr (Or.inl ⟨source, destination, Writes.transfer kind read held, named,
            by simp only [carry, kind, read, if_pos held]⟩))
        · exact Or.inr (Or.inr (Or.inr ⟨fun other erases => named other erases ▸ held,
            by simp only [carry, kind, read, if_neg held]⟩))
    · refine Or.inr (Or.inr (Or.inr ⟨?_, ?_⟩))
      · intro other erases
        cases erases with
        | transfer found _ => exact absurd found kind
      · unfold carry
        split <;> simp_all

/-- What is written stays among what is held. -/
theorem carry_subset {gatewayId : String} {carried : Carried} (datum : StakeDatum)
    (part : carried.written ⊆ carried.held) :
    (carry gatewayId carried datum).written ⊆ (carry gatewayId carried datum).held := by
  rcases carry_cases gatewayId carried datum with ⟨id, _, _, same⟩ | ⟨id, _, same⟩ |
    ⟨source, id, _, _, same⟩ | ⟨_, same⟩ <;> rw [same]
  · exact Finset.insert_subset_insert _ part
  · exact Finset.erase_subset_erase _ part
  · exact Finset.insert_subset_insert _ (Finset.erase_subset_erase _ part)
  · exact part

/-- What is held after a datum was written by it, or was held before and not erased. -/
theorem held_cases {gatewayId id : String} {carried : Carried} {datum : StakeDatum}
    (held : id ∈ (carry gatewayId carried datum).held) :
    Writes gatewayId id carried datum ∨ id ∈ carried.held ∧ ¬ Erases gatewayId id datum := by
  rcases carry_cases gatewayId carried datum with ⟨other, writes, keeps, same⟩ |
    ⟨other, erases, same⟩ | ⟨source, other, writes, erases, same⟩ | ⟨erases, same⟩ <;>
    rw [same] at held
  · rcases Finset.mem_insert.mp held with rfl | before
    · exact Or.inl writes
    · exact Or.inr ⟨before, keeps id⟩
  · have kept := Finset.mem_erase.mp held
    exact Or.inr ⟨kept.2, fun again => kept.1 (erases id again)⟩
  · rcases Finset.mem_insert.mp held with rfl | before
    · exact Or.inl writes
    · have kept := Finset.mem_erase.mp before
      exact Or.inr ⟨kept.2, fun again => kept.1 (erases id again)⟩
  · exact Or.inr ⟨held, fun again => erases id again held⟩

/-- What counts as written after a datum was written by it, or counted before and is not erased. -/
theorem written_cases {gatewayId id : String} {carried : Carried} {datum : StakeDatum}
    (part : carried.written ⊆ carried.held)
    (written : id ∈ (carry gatewayId carried datum).written) :
    Writes gatewayId id carried datum ∨ id ∈ carried.written ∧ ¬ Erases gatewayId id datum := by
  rcases carry_cases gatewayId carried datum with ⟨other, writes, keeps, same⟩ |
    ⟨other, erases, same⟩ | ⟨source, other, writes, erases, same⟩ | ⟨erases, same⟩ <;>
    rw [same] at written
  · rcases Finset.mem_insert.mp written with rfl | before
    · exact Or.inl writes
    · exact Or.inr ⟨before, keeps id⟩
  · have kept := Finset.mem_erase.mp written
    exact Or.inr ⟨kept.2, fun again => kept.1 (erases id again)⟩
  · rcases Finset.mem_insert.mp written with rfl | before
    · exact Or.inl writes
    · have kept := Finset.mem_erase.mp before
      exact Or.inr ⟨kept.2, fun again => kept.1 (erases id again)⟩
  · exact Or.inr ⟨written, fun again => erases id again (part written)⟩

/-- A delegation that a group ends with has a last datum that wrote it. -/
theorem last_write {gatewayId id : String} {start : Carried} (none : start.written = ∅)
    {group : List StakeDatum} (written : id ∈ (group.foldl (carry gatewayId) start).written) :
    ∃ before datum after, group = before ++ datum :: after ∧
      Writes gatewayId id (before.foldl (carry gatewayId) start) datum ∧
        ∀ later ∈ after, ¬ Erases gatewayId id later := by
  have part : ∀ data : List StakeDatum, (data.foldl (carry gatewayId) start).written ⊆
      (data.foldl (carry gatewayId) start).held := by
    intro data
    induction data using List.reverseRecOn with
    | nil => simp [none]
    | append_singleton data last ih =>
      rw [List.foldl_append]
      exact carry_subset last ih
  -- The group is walked from its end.
  induction group using List.reverseRecOn with
  | nil => simp [none] at written
  | append_singleton group last ih =>
    rw [List.foldl_append, List.foldl_cons, List.foldl_nil] at written
    rcases written_cases (part group) written with writes | ⟨already, keeps⟩
    · exact ⟨group, last, [], rfl, writes, by simp⟩
    · obtain ⟨before, datum, after, rfl, writes, later⟩ := ih already
      refine ⟨before, datum, after ++ [last], by simp, writes, fun other member => ?_⟩
      rcases List.mem_append.mp member with inside | final
      · exact later other inside
      · exact List.mem_singleton.mp final ▸ keeps

/-- Calls of other events leave what an event's handler has fetched. -/
theorem applyAll_fetched {event : CosmosEvent} {calls : List DelegationCall}
    (others : ∀ call ∈ calls, call.subject ≠ .inr event) (state : DelegationState) :
    (applyAll calls state).fetched event = state.fetched event := by
  induction calls generalizing state with
  | nil => rfl
  | cons call rest ih =>
    have later := ih (fun other member => others other (List.mem_cons_of_mem _ member))
      (state.apply call)
    show (applyAll rest (state.apply call)).fetched event = _
    rw [later]
    cases call with
    | fetchAll reader query =>
      have different : event ≠ reader := fun same =>
        others _ List.mem_cons_self (by rw [same]; rfl)
      exact Function.update_of_ne different _ _
    | _ => rfl

/-- The state after calls and further calls. -/
theorem applyAll_append (first second : List DelegationCall) (state : DelegationState) :
    applyAll (first ++ second) state = applyAll second (applyAll first state) :=
  List.foldl_append ..

section

variable {gatewayId : String} {ids : List String} (addresses : ∀ id ∈ ids, IsAddress id)

include addresses in
/-- A datum that writes a delegation can have all calls of others before its own last ones. -/
theorem write_reaches {datum : StakeDatum} {task : Task DelegationCall}
    (delegates : Delegates datum task) {id : String} {carried : Carried}
    (writes : Writes gatewayId id carried datum)
    (named : ∀ id ∈ entityIds applicationIds datum, id ∈ ids)
    (parties : ∀ event, datum = .event event → NamesParties event) {state : DelegationState}
    (held : ∀ id ∈ ids, id ∈ carried.held → ⟨id, gatewayId⟩ ∈ state.rows.records) :
    ∃ first last, task.mirrored = first ++ last ∧ ∀ others : List DelegationCall,
      (∀ call ∈ others, ∀ event, datum = .event event → call.subject ≠ .inr event) →
      ⟨id, gatewayId⟩ ∈ (applyAll (first ++ others ++ last) state).rows.records := by
  cases writes with
  | @delegate sent msg kind app gateway =>
    cases delegates with
    | delegate same =>
      rw [kind] at same
      cases same
      refine ⟨[], _, rfl, fun others _ => ?_⟩
      rw [List.nil_append, applyAll_append]
      exact Store.mem_records_save.mpr (Or.inl (by rw [app, gateway]))
    | undelegate same =>
      rw [kind] at same
      cases same
    | other skipped => simp [handleDelegations, kind] at skipped
  | @transfer event source kind read member =>
    have both := parties event rfl source id read
    cases delegates with
    | transfer _ same =>
      rw [read] at same
      cases same
      -- The copy is made after all calls of others, from what was fetched before them.
      refine ⟨[.fetchAll event (.byApplicationId source)],
        [.bulkRemove event, .bulkCreate event id], rfl, fun others apart => ?_⟩
      rw [applyAll_append, applyAll_append]
      have fetched : ⟨source, gatewayId⟩ ∈ (applyAll others (applyAll
          [.fetchAll event (.byApplicationId source)] state)).fetched event := by
        rw [applyAll_fetched fun call inside => apart call inside event rfl]
        show _ ∈ Function.update state.fetched event (state.matching _) event
        rw [Function.update_self, mem_matching]
        exact ⟨held source (named source both.1) member, by simp [DelegationQuery.selects]⟩
      generalize applyAll others (applyAll [.fetchAll event (.byApplicationId source)] state) =
        reached at fetched
      show _ ∈ ((reached.apply (.bulkRemove event)).rows.bulkCreate
        ((reached.fetched event).map fun row => (⟨id, row.gatewayId⟩ : ApplicationGateway))).records
      rw [Store.mem_records]
      refine @Store.get_bulkCreate_map ApplicationGateway String ApplicationGateway.id _ _
        (reached.fetched event) (fun row => ⟨id, row.gatewayId⟩) ⟨source, gatewayId⟩ fetched ?_ _
      intro other _ same
      exact ApplicationGateway.id_inj (addresses id (named id both.2))
        (addresses id (named id both.2)) same
    | release released _ => simp [kind] at released
    | other skipped =>
      simp [handleDelegations, kind, read, Except.map, transferDelegations] at skipped

include addresses in
/-- A delegation stays through a datum that does not erase it. -/
theorem delegation_kept {datum : StakeDatum} {task : Task DelegationCall}
    (delegates : Delegates datum task) (application : datum.typeName ∈ applicationTypes) {id : String}
    (inside : id ∈ ids) (keeps : ¬ Erases gatewayId id datum)
    (plain : ∀ id ∈ entityIds applicationIds datum, IsAddress id)
    (parties : ∀ event, datum = .event event → NamesParties event) {state : DelegationState}
    (stored : ⟨id, gatewayId⟩ ∈ state.rows.records) :
    ⟨id, gatewayId⟩ ∈ (applyAll task.mirrored state).rows.records := by
  have address := addresses id inside
  cases delegates with
  -- Saving replaces the delegation under its id, which is then the same delegation.
  | @delegate sent msg kind =>
    have plainly : IsAddress msg.appAddress :=
      plain msg.appAddress (by simp [entityIds_delegate kind])
    refine Store.mem_records_save.mpr ?_
    by_cases same : (⟨id, gatewayId⟩ : ApplicationGateway).id =
        (⟨msg.appAddress, msg.gatewayAddress⟩ : ApplicationGateway).id
    · exact Or.inl (ApplicationGateway.id_inj address plainly same)
    · exact Or.inr ⟨stored, same⟩
  -- What is removed has the id of another delegation, as the datum does not erase this one.
  | @undelegate sent msg kind =>
    have plainly : IsAddress msg.appAddress :=
      plain msg.appAddress (by simp [entityIds_undelegate kind])
    refine Store.mem_records_remove.mpr ⟨stored, fun same => keeps ?_⟩
    have equal := ApplicationGateway.id_inj address plainly same
    simp only [ApplicationGateway.mk.injEq] at equal
    exact Erases.undelegate kind equal.1.symm equal.2.symm
  | @transfer event source destination kind read =>
    have both := parties event rfl source destination read
    show _ ∈ ((state.apply (.fetchAll event (.byApplicationId source))).apply
      (.bulkRemove event) |>.apply (.bulkCreate event destination)).rows.records
    have found : (state.apply (.fetchAll event (.byApplicationId source))).fetched event =
        state.matching (.byApplicationId source) := Function.update_self _ _ _
    generalize reached : state.apply (.fetchAll event (.byApplicationId source)) = next at found
    have before : ⟨id, gatewayId⟩ ∈ next.rows.records := by
      rw [← reached]
      exact stored
    refine Store.mem_records_bulkCreate_of_mem
      (Store.mem_records_bulkRemove.mpr ⟨before, fun again => keeps ?_⟩) ?_
    · -- What is removed are delegations of the source.
      obtain ⟨row, fetched, same⟩ := List.mem_map.mp again
      rw [found, mem_matching] at fetched
      have named : row.applicationId = source := by
        simpa [DelegationQuery.selects] using fetched.2
      have equal := ApplicationGateway.id_inj (named ▸ plain source both.1) address same
      rw [equal] at named
      exact Erases.transfer kind (named ▸ read)
    · -- What is created under the same id is the same delegation.
      intro other created same
      obtain ⟨row, _, rfl⟩ := List.mem_map.mp created
      exact ApplicationGateway.id_inj (plain destination both.2) address same
  | release _ read => exact absurd application (released_typeName read)
  | other _ => exact stored

end

/-- The steps of programs awaited in order, each mirrored on its own. -/
theorem mirrored_chain {α : Type} (tasks : List (Task α)) :
    (Task.chain tasks).mirrored = (tasks.map Task.mirrored).flatten := by
  induction tasks with
  | nil => rfl
  | cons task rest ih => simp [Task.chain, Task.mirrored, ih]

section

variable {data : List StakeDatum} {groups gatewayGroups : List (List StakeDatum)}
  {chains gatewayChains : List (Task DelegationCall)}
  (scheduled : Scheduled data groups gatewayGroups chains gatewayChains)
  {gatewayId id : String}

include scheduled

/-- The ids of a group are addresses. -/
theorem Scheduled.groupAddresses {group : List StakeDatum} (located : group ∈ groups) :
    ∀ id ∈ group.flatMap (entityIds applicationIds), IsAddress id := by
  intro id inside
  obtain ⟨datum, member, named⟩ := List.mem_flatMap.mp inside
  exact scheduled.addresses datum (scheduled.application located member).1 id named

/-- A delegation stays through data that do not erase it. -/
theorem Scheduled.kept (address : IsAddress id) {part group : List StakeDatum}
    (located : group ∈ groups) (among : ∀ datum ∈ part, datum ∈ group)
    {tasks : List (Task DelegationCall)}
    (handled : List.Forall₂ (fun datum task => handleDelegations datum = .ok task) part tasks)
    (keeps : ∀ datum ∈ part, ¬ Erases gatewayId id datum) {state : DelegationState}
    (stored : ⟨id, gatewayId⟩ ∈ state.rows.records) :
    ⟨id, gatewayId⟩ ∈ (applyAll (tasks.map Task.mirrored).flatten state).rows.records := by
  induction handled generalizing state with
  | nil => exact stored
  | @cons datum task rest later first others ih =>
    rw [List.map_cons, List.flatten_cons, applyAll_append]
    have belongs := scheduled.application located (among datum List.mem_cons_self)
    refine ih (fun other member => among other (List.mem_cons_of_mem _ member))
      (fun other member => keeps other (List.mem_cons_of_mem _ member)) ?_
    have plain : ∀ other ∈ [id], IsAddress other := by simpa using address
    exact delegation_kept plain (delegates_of_handle first) belongs.2 (by simp) (keeps datum List.mem_cons_self) (scheduled.addresses datum belongs.1)
      (fun event same => scheduled.parties event (same ▸ belongs.1)) stored

/-- A delegation stays through groups that know nothing of its application. -/
theorem Scheduled.keptBeside (address : IsAddress id) {others : List (List StakeDatum)}
    (among : ∀ group ∈ others, group ∈ groups)
    (apart : ∀ group ∈ others, ∀ datum ∈ group, id ∉ entityIds applicationIds datum)
    {tasks : List (Task DelegationCall)} (chained : Chained others tasks) {state : DelegationState}
    (stored : ⟨id, gatewayId⟩ ∈ state.rows.records) :
    ⟨id, gatewayId⟩ ∈ (applyAll (Task.all tasks).mirrored state).rows.records := by
  induction chained generalizing state with
  | nil => exact stored
  | @cons group chain rest later first _ ih =>
    obtain ⟨own, handled, rfl⟩ := first
    have located := among group List.mem_cons_self
    show _ ∈ (applyAll ((Task.all later).mirrored ++ (Task.chain own).mirrored) state).rows.records
    rw [applyAll_append, mirrored_chain]
    refine scheduled.kept address located (fun datum member => member) (mapM_ok handled) ?_
      (ih (fun other member => among other (List.mem_cons_of_mem _ member))
        (fun other member => apart other (List.mem_cons_of_mem _ member)) stored)
    intro datum member erases
    refine apart group List.mem_cons_self datum member ?_
    cases erases with
    | undelegate kind app _ => simp [entityIds_undelegate kind, app]
    | @transfer event destination _ read =>
      exact (scheduled.parties event (scheduled.application located member).1 _ _ read).1

/-- Data of a group leave stored what is held, when copies are made after removals. -/
theorem Scheduled.held {group : List StakeDatum} (located : group ∈ groups)
    {part : List StakeDatum} (among : ∀ datum ∈ part, datum ∈ group)
    {tasks : List (Task DelegationCall)}
    (handled : List.Forall₂ (fun datum task => handleDelegations datum = .ok task) part tasks)
    {carried : Carried} {state : DelegationState}
    (held : ∀ id ∈ group.flatMap (entityIds applicationIds), id ∈ carried.held →
      ⟨id, gatewayId⟩ ∈ state.rows.records) :
    ∀ id ∈ group.flatMap (entityIds applicationIds),
      id ∈ (part.foldl (carry gatewayId) carried).held →
        ⟨id, gatewayId⟩ ∈ (applyAll (tasks.map Task.mirrored).flatten state).rows.records := by
  induction handled generalizing carried state with
  | nil => exact held
  | @cons datum task rest later first others ih =>
    rw [List.map_cons, List.flatten_cons, applyAll_append, List.foldl_cons]
    have member := among datum List.mem_cons_self
    have belongs := scheduled.application located member
    have parties : ∀ event, datum = .event event → NamesParties event :=
      fun event same => scheduled.parties event (same ▸ belongs.1)
    refine ih (fun other inside => among other (List.mem_cons_of_mem _ inside)) ?_
    intro id inside carries
    rcases held_cases carries with writes | ⟨before, keeps⟩
    · obtain ⟨front, back, split, reaches⟩ := write_reaches (scheduled.groupAddresses located)
        (delegates_of_handle first) writes
        (fun id named => List.mem_flatMap.mpr ⟨datum, member, named⟩) parties held
      have reached := reaches [] (by simp)
      rw [List.append_nil, ← split] at reached
      exact reached
    · exact delegation_kept (scheduled.groupAddresses located) (delegates_of_handle first)
        belongs.2 inside keeps (scheduled.addresses datum belongs.1) parties (held id inside before)

/-- A delegation that a group ends with can be stored after everything else is done. -/
theorem Scheduled.reached {rows : Store ApplicationGateway.id} {group : List StakeDatum}
    (located : group ∈ groups)
    (written : id ∈ (group.foldl (carry gatewayId) ⟨delegators rows gatewayId, ∅⟩).written) :
    ∃ trace, Trace (Task.par (Task.all chains) (Task.all gatewayChains)) trace ∧
      ⟨id, gatewayId⟩ ∈ (applyAll trace (start rows)).rows.records := by
  obtain ⟨before, datum, after, split, writes, later⟩ := last_write rfl written
  obtain ⟨earlier, behind, rfl⟩ := List.append_of_mem located
  obtain ⟨front, chain, back, rfl, ⟨tasks, handled, rfl⟩, first, last⟩ :=
    forall₂_middle scheduled.chained
  have others : Chained (earlier ++ behind) (front ++ back) := List.rel_append first last
  have each := mapM_ok handled
  rw [split] at each
  obtain ⟨done, task, pending, rfl, same, prior, following⟩ := forall₂_middle each
  have member : datum ∈ group := by
    rw [split]
    simp
  have among : ∀ other, other ∈ before ∨ other ∈ after → other ∈ group := by
    intro other inside
    rw [split]
    simp only [List.mem_append, List.mem_cons]
    exact inside.imp_right Or.inr
  have belongs := scheduled.application located member
  have parties : ∀ event, datum = .event event → NamesParties event :=
    fun event same => scheduled.parties event (same ▸ belongs.1)
  have named : ∀ id ∈ entityIds applicationIds datum,
      id ∈ group.flatMap (entityIds applicationIds) :=
    fun id inside => List.mem_flatMap.mpr ⟨datum, member, inside⟩
  -- The datum that writes is about the application it writes for.
  have own : id ∈ entityIds applicationIds datum := by
    cases writes with
    | delegate kind app _ => simp [entityIds_delegate kind, app]
    | @transfer event source _ read _ => exact (parties event rfl _ _ read).2
  have address := scheduled.addresses datum belongs.1 id own
  -- The group's earlier data come first and leave stored what is held.
  have begins : ∀ id ∈ group.flatMap (entityIds applicationIds),
      id ∈ (⟨delegators rows gatewayId, ∅⟩ : Carried).held →
        ⟨id, gatewayId⟩ ∈ (start rows).rows.records := by
    intro id _ counted
    simp only [delegators, List.mem_toFinset, List.mem_map, List.mem_filter,
      decide_eq_true_eq] at counted
    obtain ⟨row, ⟨stored, gateway⟩, app⟩ := counted
    cases row
    simp only at gateway app
    rw [← gateway, ← app]
    exact stored
  have carried := scheduled.held located (fun other inside => among other (Or.inl inside)) prior begins
  -- All of the gateway side comes before the last calls of the datum that writes.
  obtain ⟨opening, closing, mirrored, reaches⟩ := write_reaches (scheduled.groupAddresses located)
    (delegates_of_handle same) writes named parties carried
  have gateways : ∀ call ∈ (Task.all gatewayChains).mirrored, ∀ event, datum = .event event →
      call.subject ≠ .inr event := by
    rintro call made event rfl subject
    have listed := (Trace.mirrored (Task.all gatewayChains)).perm.mem_iff.mp made
    obtain ⟨other, twin, gateway, alike, also⟩ := scheduled.gatewayCall listed
    obtain ⟨reader, unlisted, equal⟩ := gateway_subject alike gateway also
    rw [subject, Sum.inr.injEq] at equal
    exact unlisted (equal ▸ belongs.2)
  have stored := reaches _ gateways
  refine ⟨((done.map Task.mirrored).flatten ++ opening) ++ (Task.all gatewayChains).mirrored ++
    ((closing ++ (pending.map Task.mirrored).flatten) ++ (Task.all (front ++ back)).mirrored),
    ?_, ?_⟩
  · refine Trace.par (Trace.all_first (Trace.mirrored _)) (Trace.mirrored _) ?_
    -- The calls of the gateway side fall between the two parts of the group.
    have order : (Task.chain (done ++ task :: pending)).mirrored ++
        (Task.all (front ++ back)).mirrored =
        ((done.map Task.mirrored).flatten ++ opening) ++
          ((closing ++ (pending.map Task.mirrored).flatten) ++
            (Task.all (front ++ back)).mirrored) := by
      rw [mirrored_chain, List.map_append, List.map_cons, List.flatten_append, List.flatten_cons,
        mirrored]
      simp only [List.append_assoc]
    rw [order]
    exact Shuffle.middle _ _ _
  · -- What follows leaves the delegation alone.
    have stays := scheduled.kept address located
      (fun other inside => among other (Or.inr inside)) following later stored
    have foreign : ∀ other ∈ earlier ++ behind, other ∈ earlier ++ group :: behind :=
      fun other placed => List.mem_append.mpr
        ((List.mem_append.mp placed).imp_right (List.mem_cons_of_mem group))
    have unnamed : ∀ other ∈ earlier ++ behind, ∀ twin ∈ other,
        id ∉ entityIds applicationIds twin := fun other placed twin inside again =>
      scheduled.conflictFree.beside other placed twin inside id again (named id own)
    have final := scheduled.keptBeside address foreign unnamed others stays
    simpa only [← applyAll_append, List.append_assoc] using final

end

/-- The call an operation shows: a fetch shows with its first page. -/
def DelegationOperation.shown : DelegationOperation → Option DelegationCall
  | .call made => some made
  | .page reader query 0 => some (.fetchAll reader query)
  | .page _ _ (_ + 1) => none

/-- A call is one operation, and a fetch is its pages. -/
theorem mem_operations {rounds : ℕ} {call : DelegationCall} {operation : DelegationOperation}
    (performed : operation ∈ (call.operations rounds).actions) :
    (operation = .call call ∧ ∀ reader query, call ≠ .fetchAll reader query) ∨
      ∃ reader query index, call = .fetchAll reader query ∧
        operation = .page reader query index := by
  cases call with
  | fetchAll reader query =>
    simp only [DelegationCall.operations, Task.actions_chain, List.map_map, List.mem_flatten,
      List.mem_map, List.mem_range] at performed
    obtain ⟨_, ⟨index, _, rfl⟩, inside⟩ := performed
    exact Or.inr ⟨reader, query, index, rfl, by simpa [Task.actions] using inside⟩
  | _ => exact Or.inl ⟨List.mem_singleton.mp performed, by simp⟩

/-- Every run of a call's operations shows the call. -/
theorem shown_operations {rounds : ℕ} (call : DelegationCall) (own : List DelegationOperation)
    (run : Trace (call.operations rounds) own) :
    own.filterMap DelegationOperation.shown = [call] := by
  cases call with
  | fetchAll reader query =>
    -- Of the pages only the first one shows.
    have pages : (List.range (rounds + 1)).map (fun index =>
        Task.step (DelegationOperation.page reader query index)) =
        ((List.range (rounds + 1)).map (DelegationOperation.page reader query)).map Task.step := by
      rw [List.map_map]
      rfl
    rw [DelegationCall.operations, pages] at run
    rw [run.chain_steps, List.range_succ_eq_map, List.map_cons, List.filterMap_cons]
    simp [DelegationOperation.shown, List.filterMap_map, Function.comp_def]
  | _ => cases run; rfl

/-- The first page of a fetch comes before the others. -/
theorem guarded_pages {rounds index : ℕ} {reader : CosmosEvent} {query : DelegationQuery}
    (call : DelegationCall) (own : List DelegationOperation)
    (run : Trace (call.operations rounds) own) :
    Guards (.page reader query 0) (.page reader query (index + 1)) own := by
  cases call with
  | fetchAll other column =>
    have pages : (List.range (rounds + 1)).map (fun index =>
        Task.step (DelegationOperation.page other column index)) =
        ((List.range (rounds + 1)).map (DelegationOperation.page other column)).map Task.step := by
      rw [List.map_map]
      rfl
    rw [DelegationCall.operations, pages] at run
    rw [run.chain_steps]
    by_cases same : other = reader ∧ column = query
    · rw [same.1, same.2, List.range_succ_eq_map, List.map_cons]
      exact Guards.of_head (by simp)
    · refine Guards.of_not_mem fun member => same ?_
      obtain ⟨_, _, equal⟩ := List.mem_map.mp member
      simp only [DelegationOperation.page.injEq] at equal
      exact ⟨equal.1, equal.2.1⟩
  | _ => cases run; exact Guards.of_not_mem (by simp)

/-- The state after operations and further operations. -/
theorem performAll_append (first second : List DelegationOperation) (state : DelegationState) :
    performAll (first ++ second) state = performAll second (performAll first state) :=
  List.foldl_append ..

/-- The pages of an unchanged table hold what a query selects, as far as they reach. -/
theorem performAll_pages (reader : CosmosEvent) (query : DelegationQuery) (state : DelegationState)
    (rounds : ℕ) :
    performAll ((List.range (rounds + 1)).map (DelegationOperation.page reader query)) state =
      { state with
        fetched := Function.update state.fetched reader
          ((state.matching query).take ((rounds + 1) * PAGE_LIMIT))
        loaded := Function.update state.loaded reader
          ((state.matching query).length < (rounds + 1) * PAGE_LIMIT) } := by
  induction rounds with
  | zero =>
    -- The first page is taken from the start.
    show fetchPage reader query { state with fetched := Function.update state.fetched reader [] } = _
    unfold fetchPage
    have size : (decide (((state.matching query).take PAGE_LIMIT).length ≠ PAGE_LIMIT)) =
        decide ((state.matching query).length < PAGE_LIMIT) := by
      rw [decide_eq_decide, List.length_take]
      omega
    simp only [Function.update_self, List.length_nil, List.drop_zero, List.nil_append,
      Function.update_idem, Nat.zero_add, Nat.one_mul]
    show DelegationState.mk _ _ (Function.update state.loaded reader
      (decide (((state.matching query).take PAGE_LIMIT).length ≠ PAGE_LIMIT))) = _
    rw [size]
    rfl
  | succ rounds ih =>
    rw [List.range_succ, List.map_append, performAll_append, ih]
    generalize limit : (rounds + 1) * PAGE_LIMIT = reach
    have further : (rounds + 1 + 1) * PAGE_LIMIT = reach + PAGE_LIMIT := by
      rw [← limit, Nat.add_mul, Nat.one_mul]
    rw [further]
    show (if Function.update state.loaded reader _ reader = true then _ else fetchPage _ _ _) = _
    rw [Function.update_self]
    by_cases last : (state.matching query).length < reach
    · -- The last page has been fetched.
      rw [if_pos (decide_eq_true last), List.take_of_length_le (by omega),
        List.take_of_length_le (by omega), decide_eq_true last, decide_eq_true (by omega)]
    · rw [if_neg (by simpa using last)]
      unfold fetchPage
      have results : ((state.matching query).take reach).length = reach := by
        rw [List.length_take]
        omega
      have size : (decide ((((state.matching query).drop reach).take PAGE_LIMIT).length ≠
          PAGE_LIMIT)) = decide ((state.matching query).length < reach + PAGE_LIMIT) := by
        rw [decide_eq_decide, List.length_take, List.length_drop]
        omega
      have joined : (state.matching query).take reach ++
          ((state.matching query).drop reach).take PAGE_LIMIT =
          (state.matching query).take (reach + PAGE_LIMIT) := by
        rw [List.take_add]
      simp only [Function.update_self, Function.update_idem]
      show DelegationState.mk _ (Function.update state.fetched reader
        ((state.matching query).take reach ++ ((state.matching query).drop
          ((state.matching query).take reach).length).take PAGE_LIMIT))
        (Function.update state.loaded reader (decide ((((state.matching query).drop
          ((state.matching query).take reach).length).take PAGE_LIMIT).length ≠ PAGE_LIMIT))) = _
      rw [results, joined, size]

/-- With enough rounds, calls whose pages are not interrupted take effect as a whole. -/
theorem enough_rounds (calls : List DelegationCall) (state : DelegationState) :
    ∃ least, ∀ rounds, least ≤ rounds →
      performAll (calls.flatMap fun call => (call.operations rounds).actions) state =
        applyAll calls state := by
  induction calls generalizing state with
  | nil => exact ⟨0, fun _ _ => rfl⟩
  | cons call rest ih =>
    obtain ⟨least, enough⟩ := ih (state.apply call)
    have first : ∃ own, ∀ rounds, own ≤ rounds →
        performAll (call.operations rounds).actions state = state.apply call := by
      cases call with
      | fetchAll reader query =>
        refine ⟨(state.matching query).length, fun rounds reached => ?_⟩
        have listed : (DelegationCall.operations rounds (.fetchAll reader query)).actions =
            (List.range (rounds + 1)).map (DelegationOperation.page reader query) := by
          rw [DelegationCall.operations, Task.actions_chain, List.map_map]
          exact List.flatMap_pure_eq_map _ _
        -- With as many rounds as there are rows, the last page is not full.
        have within : (state.matching query).length < (rounds + 1) * PAGE_LIMIT := by
          unfold PAGE_LIMIT
          omega
        rw [listed, performAll_pages, List.take_of_length_le (by omega), decide_eq_true within]
        rfl
      | _ => exact ⟨0, fun _ _ => rfl⟩
    obtain ⟨own, whole⟩ := first
    refine ⟨max own least, fun rounds reached => ?_⟩
    rw [List.flatMap_cons, performAll_append, whole rounds (by omega)]
    exact enough rounds (by omega)

/-- What was fetched once counts as loaded from then on. -/
theorem loaded_applyAll {calls : List DelegationCall} {reader : CosmosEvent}
    (fetched : ∃ query, .fetchAll reader query ∈ calls) (state : DelegationState) :
    (applyAll calls state).loaded reader = true := by
  induction calls using List.reverseRecOn with
  | nil => simp at fetched
  | append_singleton calls last ih =>
    rw [applyAll_append]
    show ((applyAll calls state).apply last).loaded reader = true
    obtain ⟨query, member⟩ := fetched
    rcases List.mem_append.mp member with before | final
    · have already := ih ⟨query, before⟩
      cases last with
      | fetchAll other column =>
        show Function.update (applyAll calls state).loaded other true reader = true
        by_cases same : reader = other
        · rw [same, Function.update_self]
        · rw [Function.update_of_ne same]
          exact already
      | _ => exact already
    · rw [← List.mem_singleton.mp final]
      exact Function.update_self _ _ _

section

variable {rows : Store ApplicationGateway.id} {calls : List DelegationCall}

/-- A call that copies delegations names where they go. -/
theorem mem_destinations {reader : CosmosEvent} {applicationId : String}
    (creates : .bulkCreate reader applicationId ∈ calls) : applicationId ∈ calls.filterMap fun
      | .bulkCreate _ applicationId => some applicationId
      | _ => none :=
  List.mem_filterMap.mpr ⟨_, creates, rfl⟩

/-- Every possible delegation has the gateway of a saved one. -/
theorem possible_saved {row : ApplicationGateway} (possible : row ∈ possibleDelegations rows calls) :
    ∃ saved ∈ rows.records ++ calls.filterMap fun
      | .save row => some row
      | _ => none, saved.gatewayId = row.gatewayId := by
  unfold possibleDelegations at possible
  rcases List.mem_append.mp possible with saved | copied
  · exact ⟨row, saved, rfl⟩
  · obtain ⟨_, _, inside⟩ := List.mem_flatMap.mp copied
    obtain ⟨saved, member, rfl⟩ := List.mem_map.mp inside
    exact ⟨saved, member, rfl⟩

/-- Copies of possible delegations are possible. -/
theorem possible_copy {reader : CosmosEvent} {applicationId : String}
    (creates : .bulkCreate reader applicationId ∈ calls) {row : ApplicationGateway}
    (possible : row ∈ possibleDelegations rows calls) :
    ⟨applicationId, row.gatewayId⟩ ∈ possibleDelegations rows calls := by
  obtain ⟨saved, member, same⟩ := possible_saved possible
  unfold possibleDelegations
  exact List.mem_append_right _ (List.mem_flatMap.mpr
    ⟨applicationId, mem_destinations creates, List.mem_map.mpr ⟨saved, member, by rw [same]⟩⟩)

/-- While a block is handled its delegations are possible ones, and no fetch is left unfinished. -/
structure Fitting (rows : Store ApplicationGateway.id) (calls : List DelegationCall)
    (done : List DelegationOperation) (state : DelegationState) : Prop where
  stored : ∀ row ∈ state.rows.records, row ∈ possibleDelegations rows calls
  copied : ∀ reader, ∀ row ∈ state.fetched reader, row ∈ possibleDelegations rows calls
  finished : ∀ reader query, .page reader query 0 ∈ done → state.loaded reader = true

/-- When every fetch fits, one more operation does what it shows. -/
theorem Fitting.step (fits : FetchesFit rows calls) {rounds : ℕ}
    {done : List DelegationOperation} {state : DelegationState}
    (fitting : Fitting rows calls done state) {call : DelegationCall} (known : call ∈ calls)
    {operation : DelegationOperation}
    (part : operation ∈ (call.operations rounds).actions)
    (guarded : ∀ reader query index, operation = .page reader query (index + 1) →
      .page reader query 0 ∈ done) :
    Fitting rows calls (done ++ [operation]) (state.perform operation) ∧
      state.perform operation = applyAll operation.shown.toList state := by
  rcases mem_operations part with ⟨rfl, single⟩ | ⟨reader, query, index, rfl, rfl⟩
  · refine ⟨?_, rfl⟩
    have earlier : ∀ reader query, .page reader query 0 ∈ done ++ [.call call] →
        state.loaded reader = true := by
      intro reader query listed
      rcases List.mem_append.mp listed with before | last
      · exact fitting.finished reader query before
      · simp at last
    cases call with
    -- Saving adds a possible row: one that a call of the run saves.
    | save row =>
      refine ⟨fun other stored => ?_, fitting.copied, earlier⟩
      rcases Store.mem_records_save.mp stored with rfl | ⟨before, _⟩
      · exact List.mem_append_left _ (List.mem_append_right _
          (List.mem_filterMap.mpr ⟨_, known, rfl⟩))
      · exact fitting.stored other before
    | remove row =>
      exact ⟨fun other stored => fitting.stored other (Store.mem_records_remove.mp stored).1,
        fitting.copied, earlier⟩
    | fetchAll reader query => exact absurd rfl (single reader query)
    -- A copy is possible where what was fetched was.
    | bulkCreate reader applicationId =>
      refine ⟨fun other stored => ?_, fitting.copied, earlier⟩
      rcases Store.mem_records_bulkCreate stored with created | before
      · obtain ⟨row, fetched, rfl⟩ := List.mem_map.mp created
        exact possible_copy known (fitting.copied reader row fetched)
      · exact fitting.stored other before
    | bulkRemove reader =>
      exact ⟨fun other stored => fitting.stored other (Store.mem_records_bulkRemove.mp stored).1,
        fitting.copied, earlier⟩
  · cases index with
    | zero =>
      -- The first page is not full, so it is the whole fetch.
      have short : (state.matching query).length < PAGE_LIMIT := by
        refine Nat.lt_of_le_of_lt ?_ (fits reader query known)
        have distinct : (state.matching query).Nodup :=
          (List.perm_insertionSort _ _).nodup_iff.mpr
            ((List.Nodup.of_map _ state.rows.records_nodup).filter _)
        refine (List.subperm_of_subset distinct fun row member => ?_).length_le
        rw [mem_matching] at member
        rw [List.mem_dedup, List.mem_filter]
        exact ⟨fitting.stored row member.1, member.2⟩
      have whole : state.perform (.page reader query 0) =
          state.apply (.fetchAll reader query) := by
        have pages := performAll_pages reader query state 0
        rw [Nat.zero_add, Nat.one_mul, List.take_of_length_le (by omega),
          decide_eq_true short] at pages
        exact pages
      refine ⟨?_, whole⟩
      rw [whole]
      refine ⟨fitting.stored, fun other row fetched => ?_, fun other column listed => ?_⟩
      · by_cases same : other = reader
        · subst same
          have found : (state.apply (.fetchAll other query)).fetched other =
              state.matching query := Function.update_self _ _ _
          rw [found, mem_matching] at fetched
          exact fitting.stored row fetched.1
        · have found : (state.apply (.fetchAll reader query)).fetched other =
              state.fetched other := Function.update_of_ne same _ _
          rw [found] at fetched
          exact fitting.copied other row fetched
      · show Function.update state.loaded reader true other = true
        by_cases same : other = reader
        · rw [same, Function.update_self]
        · rw [Function.update_of_ne same]
          rcases List.mem_append.mp listed with before | last
          · exact fitting.finished other column before
          · simp only [List.mem_singleton, DelegationOperation.page.injEq] at last
            exact absurd last.1 same
    -- Once the first page has loaded everything, the later ones do nothing.
    | succ index =>
      have loaded := fitting.finished reader query (guarded reader query index rfl)
      have same : state.perform (.page reader query (index + 1)) = state := by
        show (if state.loaded reader = true then state else _) = state
        rw [if_pos loaded]
      rw [same]
      refine ⟨⟨fitting.stored, fitting.copied, fun other column listed => ?_⟩, rfl⟩
      rcases List.mem_append.mp listed with before | last
      · exact fitting.finished other column before
      · simp at last

/-- When every fetch fits, the operations of a run do what they show. -/
theorem performAll_shown {task : Task DelegationCall} (fits : FetchesFit rows task.actions)
    {rounds : ℕ} {operations : List DelegationOperation}
    (run : Trace (task.bind (DelegationCall.operations rounds)) operations) :
    performAll operations (start rows) =
      applyAll (operations.filterMap DelegationOperation.shown) (start rows) := by
  have guarded : ∀ reader query index, Guards (.page reader query 0)
      (.page reader query (index + 1)) operations :=
    fun reader query index => Guards.bind guarded_pages run
  have listed : ∀ operation ∈ operations, ∃ call ∈ task.actions,
      operation ∈ (call.operations rounds).actions := by
    intro operation member
    have inside := run.perm.mem_iff.mp member
    rwa [Task.actions_bind, List.mem_flatMap] at inside
  -- The operations are followed one by one.
  suffices prefixes : ∀ done rest, operations = done ++ rest →
      Fitting rows task.actions done (performAll done (start rows)) ∧
        performAll done (start rows) =
          applyAll (done.filterMap DelegationOperation.shown) (start rows) from
    (prefixes operations [] (by simp)).2
  intro done
  induction done using List.reverseRecOn with
  | nil =>
    intro rest _
    exact ⟨⟨fun row stored => List.mem_append_left _ (List.mem_append_left _ stored), by
      simp [performAll, start], by simp⟩, rfl⟩
  | append_singleton done operation ih =>
    intro rest split
    obtain ⟨fitting, same⟩ := ih (operation :: rest) (by rw [split]; simp)
    obtain ⟨call, known, part⟩ := listed operation (by rw [split]; simp)
    obtain ⟨next, shows⟩ := fitting.step fits known part fun reader query index page =>
      guarded reader query index done rest (by rw [split, page]; simp)
    rw [performAll_append]
    show Fitting rows task.actions (done ++ [operation])
        ((performAll done (start rows)).perform operation) ∧
      (performAll done (start rows)).perform operation = _
    refine ⟨next, ?_⟩
    rw [shows, same, List.filterMap_append, applyAll_append]
    cases shown : operation.shown <;> simp [shown]

end

/-- The programs of a block whose stake data are indexed. -/
theorem scheduled_of_built {data : List StakeDatum} {groups : List (List StakeDatum)}
    {task : Task DelegationCall}
    (applications : ∀ datum ∈ successfulData (dataOfTypes applicationTypes data),
      ∀ id ∈ entityIds applicationIds datum, IsAddress id)
    (gateways : ∀ datum ∈ successfulData (dataOfTypes gatewayTypes data),
      ∀ id ∈ entityIds gatewayIds datum, IsAddress id)
    (parties : ∀ event, .event event ∈ successfulData (dataOfTypes applicationTypes data) →
      NamesParties event)
    (grouped : indexStakeEntityGroups (dataOfTypes applicationTypes data) applicationIds =
      .ok groups) (built : indexStakeDelegations data = .ok task) :
    ∃ gatewayGroups chains gatewayChains,
      Scheduled data groups gatewayGroups chains gatewayChains ∧
        task = Task.par (Task.all chains) (Task.all gatewayChains) := by
  unfold indexStakeDelegations at built
  obtain ⟨applicationGroups, found, built⟩ := exceptBind_ok built
  rw [grouped, Except.ok.injEq] at found
  subst found
  obtain ⟨gatewayGroups, others, built⟩ := exceptBind_ok built
  obtain ⟨indexApplications, first, built⟩ := exceptBind_ok built
  obtain ⟨indexGateway, second, built⟩ := exceptBind_ok built
  simp only [pure, Except.pure, Except.ok.injEq] at built
  obtain ⟨chains, chained, rfl⟩ := chained_of_ok first
  obtain ⟨gatewayChains, gatewayChained, rfl⟩ := chained_of_ok second
  exact ⟨gatewayGroups, chains, gatewayChains, ⟨applications, parties,
    indexStakeEntityGroups_conflictFree applications grouped,
    (indexStakeEntityGroups_conflictFree gateways others).complete, chained, gatewayChained⟩,
    built.symm⟩

/-- A gateway that is released at height five. -/
def gatewayReleased : CosmosEvent where
  idx := 1
  height := 5
  kind := .endBlock
  type := .gatewayUnbondingEnd
  attributes := [
    ⟨"gateway", "\x7b\"address\":\"gate1\"\x7d"⟩,
    ⟨"session_end_height", "\"4\""⟩,
    ⟨"unbonding_end_height", "\"5\""⟩]
  tx := none
  msg := none

/-- An application that is transferred at the same height. -/
def applicationTransferred : CosmosEvent where
  idx := 0
  height := 5
  kind := .endBlock
  type := .applicationTransferEnd
  attributes := [⟨"source_address", "\"app1\""⟩, ⟨"destination_address", "\"app2\""⟩]
  tx := none
  msg := none

/-- The one stored delegation of the application to the gateway. -/
def firstDelegation : Store ApplicationGateway.id := Store.empty.save ⟨"app1", "gate1"⟩

/-- An application that ends its delegation in the block that releases the gateway. -/
def undelegated : CosmosMessage where
  idx := 0
  height := 5
  tx := ⟨0, "tx1", 0, []⟩
  decodedMsg := .undelegateFromGateway ⟨"app1", "gate1"⟩

end Pocketdex
