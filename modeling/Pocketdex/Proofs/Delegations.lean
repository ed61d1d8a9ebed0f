import Mathlib.Data.Finset.Basic
import Pocketdex.Base.Rely
import Pocketdex.Pocket.Delegations
import Pocketdex.Proofs.StakeSchedule

/-! Delegations that are left to a released gateway, whichever way the block's handlers overlap. -/

namespace Pocketdex

open DelegationState

/-- The applications that may be delegated to a gateway, and those of them its block wrote. -/
structure Carried where
  held : Finset String
  written : Finset String
  deriving DecidableEq

/-- What one application datum does to the delegations to a gateway. -/
def carry (gatewayId : String) (carried : Carried) : StakeDatum → Carried
  | .msg sent => match sent.decodedMsg with
    | .delegateToGateway msg =>
      if msg.gatewayAddress = gatewayId then
        ⟨insert msg.appAddress carried.held, insert msg.appAddress carried.written⟩
      else carried
    | .undelegateFromGateway msg =>
      if msg.gatewayAddress = gatewayId then
        ⟨carried.held.erase msg.appAddress, carried.written.erase msg.appAddress⟩
      else carried
    | _ => carried
  | .event emitted => match emitted.type with
    | .applicationTransferEnd => match readTransferEnd emitted with
      | .ok (source, destination) =>
        if source ∈ carried.held then
          ⟨insert destination (carried.held.erase source),
            insert destination (carried.written.erase source)⟩
        else carried
      | .error _ => carried
    | _ => carried

/-- The applications delegated to a gateway. -/
def delegators (rows : Store ApplicationGateway.id) (gatewayId : String) : Finset String :=
  ((rows.records.filter fun row => row.gatewayId = gatewayId).map
    ApplicationGateway.applicationId).toFinset

/-- A block releases a gateway when one of its successful events does. -/
def ReleasesGateway (data : List StakeDatum) (gatewayId : String) : Prop :=
  ∃ event, .event event ∈ successfulData (dataOfTypes gatewayTypes data) ∧
    readReleasedGateway event = .ok gatewayId

/-- No group of application data ends with a delegation it wrote itself to a released gateway. -/
def WritesNothing (data : List StakeDatum) (groups : List (List StakeDatum))
    (rows : Store ApplicationGateway.id) : Prop :=
  ∀ gatewayId, ReleasesGateway data gatewayId → ∀ group ∈ groups,
    (group.foldl (carry gatewayId) ⟨delegators rows gatewayId, ∅⟩).written = ∅

/-- Every delegation that may be stored while the calls take effect. -/
def possibleDelegations (rows : Store ApplicationGateway.id) (calls : List DelegationCall) :
    List ApplicationGateway :=
  let saved := rows.records ++ calls.filterMap fun
    | .save row => some row
    | _ => none
  let destinations := calls.filterMap fun
    | .bulkCreate _ applicationId => some applicationId
    | _ => none
  saved ++ destinations.flatMap fun applicationId =>
    saved.map fun row => ⟨applicationId, row.gatewayId⟩

/-- No fetch can need a second page. -/
def FetchesFit (rows : Store ApplicationGateway.id) (calls : List DelegationCall) : Prop :=
  ∀ reader query, .fetchAll reader query ∈ calls →
    ((possibleDelegations rows calls).filter query.selects).dedup.length < PAGE_LIMIT

/-- Whatever the order of the operations, no delegation to a released gateway is left. -/
def NoReleasedDelegation (data : List StakeDatum) (task : Task DelegationCall)
    (rows : Store ApplicationGateway.id) : Prop :=
  ∀ rounds operations, Trace (task.bind (DelegationCall.operations rounds)) operations →
    (∀ reader query, .fetchAll reader query ∈ task.actions →
      (performAll operations (start rows)).loaded reader = true) →
    ∀ row ∈ (performAll operations (start rows)).rows.records,
      ¬ ReleasesGateway data row.gatewayId

/-- A transfer that ends names both applications in the attributes its group is read from. -/
def NamesParties (event : CosmosEvent) : Prop :=
  ∀ source destination, readTransferEnd event = .ok (source, destination) →
    source ∈ entityIds applicationIds (.event event) ∧
      destination ∈ entityIds applicationIds (.event event)

/-- The calls a datum's handler makes, by kind of datum. -/
inductive Delegates : StakeDatum → Task DelegationCall → Prop where
  | delegate {sent : CosmosMessage} {msg : MsgDelegateToGateway} :
      sent.decodedMsg = .delegateToGateway msg →
      Delegates (.msg sent) (Task.step (.save ⟨msg.appAddress, msg.gatewayAddress⟩))
  | undelegate {sent : CosmosMessage} {msg : MsgUndelegateFromGateway} :
      sent.decodedMsg = .undelegateFromGateway msg →
      Delegates (.msg sent) (Task.step (.remove ⟨msg.appAddress, msg.gatewayAddress⟩))
  | transfer {event : CosmosEvent} {source destination : String} :
      event.type = .applicationTransferEnd →
      readTransferEnd event = .ok (source, destination) →
      Delegates (.event event) (transferDelegations event source destination)
  | release {event : CosmosEvent} {gatewayId : String} :
      event.type = .gatewayUnbondingEnd ∨ event.type = .gatewayUnstaked →
      readReleasedGateway event = .ok gatewayId →
      Delegates (.event event) (getUndelegatesForUnstakedGateway event gatewayId)
  | other {datum : StakeDatum} :
      handleDelegations datum = .ok Task.skip → Delegates datum Task.skip

/-- Every handler that succeeds makes the calls of its kind. -/
theorem delegates_of_handle {datum : StakeDatum} {task : Task DelegationCall}
    (handled : handleDelegations datum = .ok task) : Delegates datum task := by
  cases datum with
  | msg sent =>
    unfold handleDelegations at handled
    cases kind : sent.decodedMsg with
    | delegateToGateway msg =>
      simp only [kind, Except.ok.injEq] at handled
      exact handled ▸ Delegates.delegate kind
    | undelegateFromGateway msg =>
      simp only [kind, Except.ok.injEq] at handled
      exact handled ▸ Delegates.undelegate kind
    | _ =>
      simp only [kind, Except.ok.injEq] at handled
      subst handled
      exact Delegates.other (by simp only [handleDelegations, kind])
  | event emitted =>
    unfold handleDelegations at handled
    cases kind : emitted.type with
    | applicationTransferEnd =>
      simp only [kind] at handled
      cases read : readTransferEnd emitted with
      -- An event that cannot be read fails the handler.
      | error message => simp [read, Except.map] at handled
      | ok parties =>
        simp only [read, Except.map, Except.ok.injEq] at handled
        exact handled ▸ Delegates.transfer kind read
    | gatewayUnbondingEnd =>
      simp only [kind] at handled
      cases read : readReleasedGateway emitted with
      | error message => simp [read, Except.map] at handled
      | ok gatewayId =>
        simp only [read, Except.map, Except.ok.injEq] at handled
        exact handled ▸ Delegates.release (Or.inl kind) read
    | gatewayUnstaked =>
      simp only [kind] at handled
      cases read : readReleasedGateway emitted with
      | error message => simp [read, Except.map] at handled
      | ok gatewayId =>
        simp only [read, Except.map, Except.ok.injEq] at handled
        exact handled ▸ Delegates.release (Or.inr kind) read
    | _ =>
      simp only [kind, Except.ok.injEq] at handled
      subst handled
      exact Delegates.other (by simp only [handleDelegations, kind])

/-- A datum without calls on delegations carries nothing on. -/
theorem carry_of_skip {datum : StakeDatum} (skipped : handleDelegations datum = .ok Task.skip)
    (gatewayId : String) (carried : Carried) : carry gatewayId carried datum = carried := by
  cases datum with
  | msg sent =>
    cases kind : sent.decodedMsg <;> simp [handleDelegations, kind] at skipped <;>
      simp [carry, kind]
  | event emitted =>
    cases kind : emitted.type with
    | applicationTransferEnd =>
      cases read : readTransferEnd emitted <;>
        simp [handleDelegations, kind, read, Except.map, transferDelegations] at skipped
    | _ => simp [carry, kind]

/-- A datum without calls on delegations releases no gateway. -/
theorem unread_of_skip {event : CosmosEvent}
    (skipped : handleDelegations (.event event) = .ok Task.skip) (gatewayId : String) :
    readReleasedGateway event ≠ .ok gatewayId := by
  intro read
  cases kind : event.type <;>
    simp [handleDelegations, kind, read, Except.map, getUndelegatesForUnstakedGateway] at skipped <;>
      simp [readReleasedGateway, kind] at read

/-- The application of a delegation message. -/
theorem entityIds_delegate {sent : CosmosMessage} {msg : MsgDelegateToGateway}
    (kind : sent.decodedMsg = .delegateToGateway msg) :
    entityIds applicationIds (.msg sent) = [msg.appAddress] := by
  simp [entityIds, getEntityId, applicationIds, kind, DecodedMsg.typeUrl, DecodedMsg.get]

/-- The application of a message that ends a delegation. -/
theorem entityIds_undelegate {sent : CosmosMessage} {msg : MsgUndelegateFromGateway}
    (kind : sent.decodedMsg = .undelegateFromGateway msg) :
    entityIds applicationIds (.msg sent) = [msg.appAddress] := by
  simp [entityIds, getEntityId, applicationIds, kind, DecodedMsg.typeUrl, DecodedMsg.get]

/-- The rows a query fetches. -/
theorem mem_matching {query : DelegationQuery} {state : DelegationState} {row : ApplicationGateway} :
    row ∈ state.matching query ↔ row ∈ state.rows.records ∧ query.selects row = true := by
  rw [matching, List.mem_insertionSort, List.mem_filter]

/-- Delegations of addresses are told apart by their ids. -/
theorem ApplicationGateway.id_inj {row other : ApplicationGateway}
    (address : IsAddress row.applicationId) (otherAddress : IsAddress other.applicationId)
    (same : row.id = other.id) : row = other := by
  have parts := getBalanceId_inj address.2.1 otherAddress.2.1 same
  cases row
  cases other
  simpa using parts

/-- The state together with the calls that led to it. -/
abbrev RecordedCalls := DelegationState × List DelegationCall

/-- A call takes effect and is remembered. -/
def record (call : DelegationCall) (state : RecordedCalls) : RecordedCalls :=
  (state.1.apply call, state.2 ++ [call])

/-- A delegation that the handler of a releasing event will still remove. -/
def Doomed (release : CosmosEvent) (row : ApplicationGateway) (state : RecordedCalls) : Prop :=
  .bulkRemove release ∉ state.2 ∧
    (.fetchAll release (.byGatewayId row.gatewayId) ∈ state.2 → row ∈ state.1.fetched release)

/-- A group's delegations to a gateway are carried ones, and doomed where they were not written. -/
def Bounded (release : CosmosEvent) (gatewayId : String) (ids : List String) (carried : Carried)
    (state : RecordedCalls) : Prop :=
  ∀ id ∈ ids, ⟨id, gatewayId⟩ ∈ state.1.rows.records →
    id ∈ carried.held ∧ (id ∈ carried.written ∨ Doomed release ⟨id, gatewayId⟩ state)

/-- The calls that other handlers may make beside those of a group. -/
def Foreign (release : CosmosEvent) (gatewayId : String) (ids : List String)
    (readers : CosmosEvent → Prop) (state : RecordedCalls) : DelegationCall → Prop
  | .save row => row.applicationId ∉ ids
  | .remove _ => True
  | .fetchAll reader query => ¬ readers reader ∧ (reader = release → query = .byGatewayId gatewayId)
  | .bulkCreate _ applicationId => applicationId ∉ ids
  | .bulkRemove reader =>
    reader = release → .fetchAll release (.byGatewayId gatewayId) ∈ state.2

section

variable {release : CosmosEvent} {gatewayId : String} {ids : List String}
  {readers : CosmosEvent → Prop}

/-- Foreign calls give a group's applications no delegations. -/
theorem foreign_rows {state : RecordedCalls} {call : DelegationCall}
    (foreign : Foreign release gatewayId ids readers state call) {row : ApplicationGateway}
    (inside : row.applicationId ∈ ids) (stored : row ∈ (record call state).1.rows.records) :
    row ∈ state.1.rows.records := by
  cases call with
  | save other =>
    rcases Store.mem_records_save.mp stored with rfl | ⟨before, _⟩
    · exact absurd inside foreign
    · exact before
  | remove other => exact (Store.mem_records_remove.mp stored).1
  | fetchAll reader query => exact stored
  | bulkCreate reader applicationId =>
    rcases Store.mem_records_bulkCreate stored with created | before
    · obtain ⟨_, _, rfl⟩ := List.mem_map.mp created
      exact absurd inside foreign
    · exact before
  | bulkRemove reader => exact (Store.mem_records_bulkRemove.mp stored).1

/-- Foreign calls leave what a group's own handlers have fetched. -/
theorem foreign_fetched {state : RecordedCalls} {call : DelegationCall}
    (foreign : Foreign release gatewayId ids readers state call) {reader : CosmosEvent}
    (own : readers reader) : (record call state).1.fetched reader = state.1.fetched reader := by
  cases call with
  | fetchAll other query =>
    have different : reader ≠ other := fun same => foreign.1 (same ▸ own)
    exact Function.update_of_ne different _ _
  | _ => rfl

/-- A call of another event leaves a doomed delegation doomed. -/
theorem Doomed.step {row : ApplicationGateway} {state : RecordedCalls} {call : DelegationCall}
    (doomed : Doomed release row state) (fetch : ∀ query, call ≠ .fetchAll release query)
    (remove : call ≠ .bulkRemove release) : Doomed release row (record call state) := by
  refine ⟨fun done => ?_, fun done => ?_⟩
  · rcases List.mem_append.mp done with before | last
    · exact doomed.1 before
    · exact remove (List.mem_singleton.mp last).symm
  · rcases List.mem_append.mp done with before | last
    · have known := doomed.2 before
      cases call with
      | fetchAll reader query =>
        have different : release ≠ reader := fun same => fetch query (same ▸ rfl)
        show row ∈ Function.update state.1.fetched reader _ release
        rwa [Function.update_of_ne different]
      | _ => exact known
    · exact absurd (List.mem_singleton.mp last).symm (fetch _)

/-- No foreign call breaks the bound on a group's delegations. -/
theorem bounded_stable (carried : Carried) :
    Stable record (Foreign release gatewayId ids readers)
      (Bounded release gatewayId ids carried) := by
  intro state call foreign bounded id inside stored
  have before := foreign_rows foreign inside stored
  obtain ⟨held, reason⟩ := bounded id inside before
  refine ⟨held, reason.imp_right fun doomed => ?_⟩
  by_cases remove : call = .bulkRemove release
  · -- What was fetched for the release is removed here, so this delegation is not stored.
    subst remove
    have fetched := doomed.2 (foreign rfl)
    exact absurd (List.mem_map.mpr ⟨_, fetched, rfl⟩) (Store.mem_records_bulkRemove.mp stored).2
  · by_cases fetch : ∃ query, call = .fetchAll release query
    · -- The fetch for the release finds everything that is stored.
      obtain ⟨query, rfl⟩ := fetch
      have named := foreign.2 rfl
      subst named
      refine ⟨fun done => ?_, fun _ => ?_⟩
      · rcases List.mem_append.mp done with earlier | last
        · exact doomed.1 earlier
        · simp at last
      · show _ ∈ Function.update state.1.fetched release _ release
        rw [Function.update_self, mem_matching]
        exact ⟨before, by simp [DelegationQuery.selects]⟩
    · exact doomed.step (fun query same => fetch ⟨query, same⟩) remove

/-- While a transfer is handled its fetch holds the source's delegations, and only those. -/
structure Transferring (release : CosmosEvent) (gatewayId : String) (ids : List String)
    (source : Finset String) (event : CosmosEvent) (sourceAddress : String) (carried : Carried)
    (state : RecordedCalls) : Prop where
  bounded : Bounded release gatewayId ids carried state
  own : ∀ row ∈ state.1.fetched event, row.applicationId = sourceAddress ∧
    (row.gatewayId = gatewayId → sourceAddress ∈ source)
  covered : ⟨sourceAddress, gatewayId⟩ ∈ state.1.rows.records →
    ⟨sourceAddress, gatewayId⟩ ∈ state.1.fetched event

/-- After its delegations are removed the source has none until the end of the transfer. -/
structure Removed (release : CosmosEvent) (gatewayId : String) (ids : List String)
    (source : Finset String) (event : CosmosEvent) (sourceAddress : String) (carried : Carried)
    (state : RecordedCalls) : Prop where
  bounded : Bounded release gatewayId ids carried state
  own : ∀ row ∈ state.1.fetched event, row.applicationId = sourceAddress ∧
    (row.gatewayId = gatewayId → sourceAddress ∈ source)
  gone : ⟨sourceAddress, gatewayId⟩ ∉ state.1.rows.records

variable {event : CosmosEvent} {sourceAddress : String} {source : Finset String}

/-- No foreign call disturbs a transfer that has fetched. -/
theorem transferring_stable (inside : sourceAddress ∈ ids) (reads : readers event)
    (carried : Carried) : Stable record (Foreign release gatewayId ids readers)
      (Transferring release gatewayId ids source event sourceAddress carried) := by
  intro state call foreign transferring
  refine ⟨bounded_stable carried _ _ foreign transferring.bounded, ?_, ?_⟩
  · rw [foreign_fetched foreign reads]
    exact transferring.own
  · intro stored
    rw [foreign_fetched foreign reads]
    exact transferring.covered (foreign_rows foreign inside stored)

/-- No foreign call disturbs a transfer that has removed. -/
theorem removed_stable (inside : sourceAddress ∈ ids) (reads : readers event)
    (carried : Carried) : Stable record (Foreign release gatewayId ids readers)
      (Removed release gatewayId ids source event sourceAddress carried) := by
  intro state call foreign removed
  refine ⟨bounded_stable carried _ _ foreign removed.bounded, ?_, ?_⟩
  · rw [foreign_fetched foreign reads]
    exact removed.own
  · exact fun stored => removed.gone (foreign_rows foreign inside stored)

/-- A bound that holds for fewer applications holds for more. -/
theorem Bounded.mono {carried larger : Carried} {state : RecordedCalls}
    (bounded : Bounded release gatewayId ids carried state) (held : carried.held ⊆ larger.held)
    (written : carried.written ⊆ larger.written) :
    Bounded release gatewayId ids larger state := by
  intro id inside stored
  obtain ⟨before, reason⟩ := bounded id inside stored
  exact ⟨held before, reason.imp_left fun member => written member⟩

/-- A call that belongs to another event and adds no delegation to the gateway keeps a bound. -/
theorem Bounded.step {carried : Carried} {state : RecordedCalls} {call : DelegationCall}
    (bounded : Bounded release gatewayId ids carried state)
    (fetch : ∀ query, call ≠ .fetchAll release query) (remove : call ≠ .bulkRemove release)
    (rows : ∀ id, ⟨id, gatewayId⟩ ∈ (record call state).1.rows.records →
      ⟨id, gatewayId⟩ ∈ state.1.rows.records ∨ id ∈ carried.held ∧ id ∈ carried.written) :
    Bounded release gatewayId ids carried (record call state) := by
  intro id inside stored
  rcases rows id stored with before | ⟨held, written⟩
  · obtain ⟨held, reason⟩ := bounded id inside before
    exact ⟨held, reason.imp_right fun doomed => doomed.step fetch remove⟩
  · exact ⟨held, Or.inl written⟩

/-- A bound excludes an application without delegations to the gateway. -/
theorem Bounded.erase {carried : Carried} {state : RecordedCalls} {id : String}
    (bounded : Bounded release gatewayId ids carried state)
    (gone : ⟨id, gatewayId⟩ ∉ state.1.rows.records) :
    Bounded release gatewayId ids ⟨carried.held.erase id, carried.written.erase id⟩ state := by
  intro other inside stored
  have different : other ≠ id := fun same => gone (same ▸ stored)
  obtain ⟨held, reason⟩ := bounded other inside stored
  exact ⟨Finset.mem_erase.mpr ⟨different, held⟩,
    reason.imp_left fun member => Finset.mem_erase.mpr ⟨different, member⟩⟩

/-- The applications after a destination received what the source may hold. -/
def Carried.receive (carried : Carried) (source : Finset String) (sourceAddress destination : String) :
    Carried :=
  if sourceAddress ∈ source then
    ⟨insert destination carried.held, insert destination carried.written⟩
  else carried

/-- Receiving adds to what is carried. -/
theorem Carried.receive_larger (carried : Carried) (source : Finset String)
    (sourceAddress destination : String) :
    carried.held ⊆ (carried.receive source sourceAddress destination).held ∧
      carried.written ⊆ (carried.receive source sourceAddress destination).written := by
  unfold Carried.receive
  split
  · exact ⟨Finset.subset_insert _ _, Finset.subset_insert _ _⟩
  · exact ⟨Finset.Subset.refl _, Finset.Subset.refl _⟩

/-- Copies of fetched delegations stay within what the destination receives. -/
theorem Bounded.receive {carried : Carried} {state : RecordedCalls} {destination : String}
    (bounded : Bounded release gatewayId ids carried state)
    (own : ∀ row ∈ state.1.fetched event, row.applicationId = sourceAddress ∧
      (row.gatewayId = gatewayId → sourceAddress ∈ source)) :
    Bounded release gatewayId ids (carried.receive source sourceAddress destination)
      (record (.bulkCreate event destination) state) := by
  have larger := carried.receive_larger source sourceAddress destination
  refine (bounded.mono larger.1 larger.2).step (by simp) (by simp) fun id stored => ?_
  rcases Store.mem_records_bulkCreate stored with created | before
  · obtain ⟨row, fetched, same⟩ := List.mem_map.mp created
    simp only [ApplicationGateway.mk.injEq] at same
    have received := (own row fetched).2 same.2
    rw [Carried.receive, if_pos received, ← same.1]
    exact Or.inr ⟨Finset.mem_insert_self _ _, Finset.mem_insert_self _ _⟩
  · exact Or.inl before

/-- Once what it fetched is removed, the source of a transfer has no delegation to the gateway. -/
theorem Transferring.removed {carried : Carried} {state : RecordedCalls}
    (transferring : Transferring release gatewayId ids source event sourceAddress carried state) :
    ⟨sourceAddress, gatewayId⟩ ∉ (record (.bulkRemove event) state).1.rows.records := by
  intro stored
  have before := Store.mem_records_bulkRemove.mp stored
  exact before.2 (List.mem_map.mpr ⟨_, transferring.covered before.1, rfl⟩)

/-- An application that is erased after another is added is erased before it as well. -/
theorem erase_insert_subset_insert_erase (names : Finset String) (added erased : String) :
    (insert added names).erase erased ⊆ insert added (names.erase erased) := by
  intro name member
  rw [Finset.mem_erase, Finset.mem_insert] at member
  rw [Finset.mem_insert, Finset.mem_erase]
  exact member.2.imp_right fun held => ⟨member.1, held⟩

/-- A transfer carries the source's delegations over to the destination. -/
theorem transfer_outline {destination : String} {own : List DelegationCall} {carried : Carried}
    (inside : sourceAddress ∈ ids) (reads : readers event) (other : event ≠ release)
    (run : Trace (transferDelegations event sourceAddress destination) own) :
    Outline record (Foreign release gatewayId ids readers)
      (Bounded release gatewayId ids carried) own
      (Bounded release gatewayId ids (if sourceAddress ∈ carried.held then
        ⟨insert destination (carried.held.erase sourceAddress),
          insert destination (carried.written.erase sourceAddress)⟩
      else carried)) := by
  -- The fetch finds what the source has, which no other handler can add to.
  have fetches : ∀ state, Bounded release gatewayId ids carried state →
      Transferring release gatewayId ids carried.held event sourceAddress carried
        (record (.fetchAll event (.byApplicationId sourceAddress)) state) := by
    intro state bounded
    have found : (record (.fetchAll event (.byApplicationId sourceAddress)) state).1.fetched event =
        state.1.matching (.byApplicationId sourceAddress) := Function.update_self _ _ _
    refine ⟨bounded.step (fun query same => ?_) (by simp) fun id stored => Or.inl stored, ?_, ?_⟩
    · simp only [DelegationCall.fetchAll.injEq] at same
      exact other same.1
    · intro row member
      rw [found, mem_matching] at member
      have named : row.applicationId = sourceAddress := by
        simpa [DelegationQuery.selects] using member.2
      refine ⟨named, fun same => ?_⟩
      have stored : (⟨sourceAddress, gatewayId⟩ : ApplicationGateway) ∈ state.1.rows.records := by
        rw [← named, ← same]
        exact member.1
      exact (bounded sourceAddress inside stored).1
    · intro stored
      rw [found, mem_matching]
      exact ⟨stored, by simp [DelegationQuery.selects]⟩
  -- Its own removal is not the one the gateway is released by.
  have removes : (.bulkRemove event : DelegationCall) ≠ .bulkRemove release := by
    simpa using other
  cases run with
  | seq first second =>
    cases first
    refine Outline.step (bounded_stable carried) fetches ?_
    cases second with
    | par one two merged =>
      cases one
      cases two
      -- Both calls after the fetch run at once, so either of them may come first.
      cases merged with
      | left rest =>
        rw [rest.swap.eq_of_nil_right]
        -- The copies come first, and the source's delegations are removed afterwards.
        have copies : ∀ state, Transferring release gatewayId ids carried.held event sourceAddress
            carried state → Transferring release gatewayId ids carried.held event sourceAddress
              (carried.receive carried.held sourceAddress destination)
              (record (.bulkCreate event destination) state) := by
          intro state transferring
          refine ⟨transferring.bounded.receive transferring.own, transferring.own, ?_⟩
          intro stored
          show _ ∈ state.1.fetched event
          rcases Store.mem_records_bulkCreate stored with created | before
          · -- A copy for the source itself is what was fetched.
            obtain ⟨row, fetched, same⟩ := List.mem_map.mp created
            have named := (transferring.own row fetched).1
            cases row
            simp only [ApplicationGateway.mk.injEq] at same named
            rw [← named, ← same.2]
            exact fetched
          · exact transferring.covered before
        refine Outline.step (transferring_stable inside reads carried) copies
          (Outline.single (transferring_stable inside reads _) (bounded_stable _) ?_)
        intro state transferring
        have bounded := (transferring.bounded.step (by simp) removes fun id stored =>
          Or.inl (Store.mem_records_bulkRemove.mp stored).1).erase (transferring.removed)
        unfold Carried.receive at bounded
        split
        · rename_i held
          rw [if_pos held] at bounded
          exact bounded.mono (erase_insert_subset_insert_erase _ _ _)
            (erase_insert_subset_insert_erase _ _ _)
        · rename_i absent
          rw [if_neg absent] at bounded
          exact bounded.mono (Finset.erase_subset _ _) (Finset.erase_subset _ _)
      | right rest =>
        rw [rest.eq_of_nil_right]
        -- The source's delegations are removed first, and the copies come afterwards.
        have removal : ∀ state, Transferring release gatewayId ids carried.held event sourceAddress
            carried state → Removed release gatewayId ids carried.held event sourceAddress
              ⟨carried.held.erase sourceAddress, carried.written.erase sourceAddress⟩
              (record (.bulkRemove event) state) := by
          intro state transferring
          exact ⟨(transferring.bounded.step (by simp) removes fun id stored =>
            Or.inl (Store.mem_records_bulkRemove.mp stored).1).erase transferring.removed,
            transferring.own, transferring.removed⟩
        refine Outline.step (transferring_stable inside reads carried) removal
          (Outline.single (removed_stable inside reads _) (bounded_stable _) ?_)
        intro state removed
        have bounded : Bounded release gatewayId ids _
            (record (.bulkCreate event destination) state) :=
          removed.bounded.receive removed.own
        unfold Carried.receive at bounded
        split
        · rename_i held
          rwa [if_pos held] at bounded
        · rename_i absent
          rw [if_neg absent] at bounded
          exact bounded.mono (Finset.erase_subset _ _) (Finset.erase_subset _ _)

/-- Events that release a gateway are not handled with application data. -/
theorem released_typeName {event : CosmosEvent} {gatewayId : String}
    (read : readReleasedGateway event = .ok gatewayId) :
    (StakeDatum.event event).typeName ∉ applicationTypes := by
  cases kind : event.type <;> simp [readReleasedGateway, kind] at read <;>
    simp [StakeDatum.typeName, EventType.name, kind, applicationTypes]

/-- The handler of an application datum carries the delegations of its group on. -/
theorem handler_outline {datum : StakeDatum} {task : Task DelegationCall}
    {own : List DelegationCall} {carried : Carried} (delegates : Delegates datum task)
    (run : Trace task own) (releases : readReleasedGateway release = .ok gatewayId)
    (application : datum.typeName ∈ applicationTypes)
    (named : ∀ id ∈ entityIds applicationIds datum, id ∈ ids)
    (parties : ∀ event, datum = .event event → NamesParties event)
    (reads : ∀ event, datum = .event event → readers event) :
    Outline record (Foreign release gatewayId ids readers)
      (Bounded release gatewayId ids carried) own
      (Bounded release gatewayId ids (carry gatewayId carried datum)) := by
  cases delegates with
  | @delegate sent msg kind =>
    cases run
    refine Outline.single (bounded_stable _) (bounded_stable _) fun state bounded => ?_
    simp only [carry, kind]
    split
    · -- The delegation is one to this gateway.
      rename_i same
      refine (bounded.mono (Finset.subset_insert _ _) (Finset.subset_insert _ _)).step (by simp)
        (by simp) fun id stored => ?_
      rcases Store.mem_records_save.mp stored with saved | ⟨before, _⟩
      · simp only [ApplicationGateway.mk.injEq] at saved
        rw [saved.1]
        exact Or.inr ⟨Finset.mem_insert_self _ _, Finset.mem_insert_self _ _⟩
      · exact Or.inl before
    · rename_i different
      refine bounded.step (by simp) (by simp) fun id stored => ?_
      rcases Store.mem_records_save.mp stored with saved | ⟨before, _⟩
      · simp only [ApplicationGateway.mk.injEq] at saved
        exact absurd saved.2.symm different
      · exact Or.inl before
  -- What is removed leaves the bounds only for this gateway; for others they are kept.
  | @undelegate sent msg kind =>
    cases run
    refine Outline.single (bounded_stable _) (bounded_stable _) fun state bounded => ?_
    have kept : Bounded release gatewayId ids carried
        (record (.remove ⟨msg.appAddress, msg.gatewayAddress⟩) state) :=
      bounded.step (by simp) (by simp) fun id stored => Or.inl (Store.mem_records_remove.mp stored).1
    simp only [carry, kind]
    split
    · rename_i same
      refine kept.erase fun stored => (Store.mem_records_remove.mp stored).2 ?_
      rw [same]
    · exact kept
  -- A transfer takes three calls, which have their own outline.
  | @transfer event source destination kind read =>
    have member := parties event rfl source destination read
    simp only [carry, kind, read]
    refine transfer_outline (named source member.1) (reads event rfl) ?_ run
    rintro rfl
    exact released_typeName releases application
  -- Releases are data of the group of gateways.
  | @release event other kind read => exact absurd application (released_typeName read)
  | other skipped =>
    cases run
    rw [carry_of_skip skipped]
    exact Outline.done (bounded_stable _)

/-- The handlers of a group carry its delegations through all of its data. -/
theorem group_outline (releases : readReleasedGateway release = .ok gatewayId)
    {group : List StakeDatum} {tasks : List (Task DelegationCall)}
    (handled : group.mapM handleDelegations = .ok tasks)
    (application : ∀ datum ∈ group, datum.typeName ∈ applicationTypes)
    (named : ∀ datum ∈ group, ∀ id ∈ entityIds applicationIds datum, id ∈ ids)
    (parties : ∀ event, .event event ∈ group → NamesParties event)
    (reads : ∀ event, .event event ∈ group → readers event) {own : List DelegationCall}
    (run : Trace (Task.chain tasks) own) (carried : Carried) :
    Outline record (Foreign release gatewayId ids readers)
      (Bounded release gatewayId ids carried) own
      (Bounded release gatewayId ids (group.foldl (carry gatewayId) carried)) := by
  -- One datum after the other: each starts from what those before it carry.
  induction group generalizing tasks own carried with
  | nil =>
    simp only [List.mapM_nil, pure, Except.pure, Except.ok.injEq] at handled
    subst handled
    cases run
    exact Outline.done (bounded_stable _)
  | cons datum rest ih =>
    rw [List.mapM_cons] at handled
    obtain ⟨task, first, handled⟩ := exceptBind_ok handled
    obtain ⟨later, others, handled⟩ := exceptBind_ok handled
    simp only [pure, Except.pure, Except.ok.injEq] at handled
    subst handled
    cases run with
    | seq one two =>
      refine (handler_outline (delegates_of_handle first) one releases
        (application datum List.mem_cons_self) (named datum List.mem_cons_self)
        (fun event same => parties event (same ▸ List.mem_cons_self))
        (fun event same => reads event (same ▸ List.mem_cons_self))).append ?_
      exact ih others (fun other member => application other (List.mem_cons_of_mem _ member))
        (fun other member => named other (List.mem_cons_of_mem _ member))
        (fun event member => parties event (List.mem_cons_of_mem _ member))
        (fun event member => reads event (List.mem_cons_of_mem _ member)) two _

/-- The calls of an application datum outside a group are foreign to the group. -/
theorem foreign_application (releases : readReleasedGateway release = .ok gatewayId)
    {datum : StakeDatum} {task : Task DelegationCall} (delegates : Delegates datum task)
    (application : datum.typeName ∈ applicationTypes)
    (outside : ∀ id ∈ entityIds applicationIds datum, id ∉ ids)
    (parties : ∀ event, datum = .event event → NamesParties event)
    (unread : ∀ event, datum = .event event → ¬ readers event) {call : DelegationCall}
    (made : call ∈ task.actions) (state : RecordedCalls) :
    Foreign release gatewayId ids readers state call := by
  cases delegates with
  | @delegate sent msg kind =>
    rw [List.mem_singleton.mp made]
    exact outside msg.appAddress (by simp [entityIds_delegate kind])
  | @undelegate sent msg kind =>
    rw [List.mem_singleton.mp made]
    trivial
  | @transfer event source destination kind read =>
    have different : event ≠ release := by
      rintro rfl
      exact released_typeName releases application
    rcases List.mem_cons.mp made with rfl | made
    · exact ⟨unread event rfl, fun same => absurd same different⟩
    rcases List.mem_cons.mp made with rfl | made
    · exact outside destination (parties event rfl source destination read).2
    · rw [List.mem_singleton.mp made]
      exact fun same => absurd same different
  | @release event other kind read => exact absurd application (released_typeName read)
  | other _ => simp [Task.actions] at made

/-- The calls of a gateway datum are foreign to every group of application data. -/
theorem foreign_gateway (releases : readReleasedGateway release = .ok gatewayId)
    {datum : StakeDatum} {task : Task DelegationCall} (delegates : Delegates datum task)
    (gateway : datum.typeName ∈ gatewayTypes)
    (reads : ∀ event, readers event → (StakeDatum.event event).typeName ∈ applicationTypes)
    {call : DelegationCall} (made : call ∈ task.actions) {state : RecordedCalls}
    (guarded : call = .bulkRemove release →
      .fetchAll release (.byGatewayId gatewayId) ∈ state.2) :
    Foreign release gatewayId ids readers state call := by
  cases delegates with
  | @delegate sent msg kind =>
    simp [StakeDatum.typeName, kind, DecodedMsg.typeUrl, gatewayTypes] at gateway
  | @undelegate sent msg kind =>
    simp [StakeDatum.typeName, kind, DecodedMsg.typeUrl, gatewayTypes] at gateway
  | @transfer event source destination kind read =>
    simp [StakeDatum.typeName, kind, EventType.name, gatewayTypes] at gateway
  | @release event other kind read =>
    rcases List.mem_cons.mp made with rfl | made
    · refine ⟨fun own => released_typeName read (reads event own), ?_⟩
      rintro rfl
      rw [releases, Except.ok.injEq] at read
      rw [read]
    · rw [List.mem_singleton.mp made] at guarded ⊢
      exact fun same => guarded (by rw [same])
  | other _ => simp [Task.actions] at made

end

/-- The recorded state after calls is the state with the calls that were made. -/
theorem performed_record (calls done : List DelegationCall) (state : DelegationState) :
    performed record calls (state, done) = (applyAll calls state, done ++ calls) := by
  induction calls generalizing done state with
  | nil => simp [performed, applyAll]
  | cons call rest ih =>
    show performed record rest (record call (state, done)) = _
    rw [record, ih]
    simp [applyAll]

/-- The programs of scheduled groups, one handler after the other in each of them. -/
def Chained (groups : List (List StakeDatum)) (chains : List (Task DelegationCall)) : Prop :=
  List.Forall₂ (fun group chain => ∃ tasks, group.mapM handleDelegations = .ok tasks ∧
    chain = Task.chain tasks) groups chains

/-- Scheduled groups are turned into their programs. -/
theorem chained_of_ok {groups : List (List StakeDatum)} {task : Task DelegationCall}
    (built : chainDelegations groups = .ok task) :
    ∃ chains, Chained groups chains ∧ task = Task.all chains := by
  unfold chainDelegations at built
  obtain ⟨chains, mapped, built⟩ := exceptBind_ok built
  simp only [pure, Except.pure, Except.ok.injEq] at built
  refine ⟨chains, (mapM_ok mapped).imp fun group chain same => ?_, built.symm⟩
  obtain ⟨tasks, handled, rfl⟩ := exceptMap_ok same
  exact ⟨tasks, handled, rfl⟩

/-- The calls of a group's program are those of its data. -/
theorem call_of_handled {group : List StakeDatum} {tasks : List (Task DelegationCall)}
    (handled : group.mapM handleDelegations = .ok tasks) {call : DelegationCall}
    (made : call ∈ (Task.chain tasks).actions) :
    ∃ datum ∈ group, ∃ task, Delegates datum task ∧ call ∈ task.actions := by
  rw [Task.actions_chain, List.mem_flatten] at made
  obtain ⟨_, listed, inside⟩ := made
  obtain ⟨task, member, rfl⟩ := List.mem_map.mp listed
  obtain ⟨datum, located, same⟩ := mem_of_mapM_ok handled member
  exact ⟨datum, located, task, delegates_of_handle same, inside⟩

/-- The calls of several groups' programs are those of their data. -/
theorem call_of_chained {groups : List (List StakeDatum)} {chains : List (Task DelegationCall)}
    (chained : Chained groups chains) {chain : Task DelegationCall} (listed : chain ∈ chains)
    {call : DelegationCall} (made : call ∈ chain.actions) :
    ∃ group ∈ groups, ∃ datum ∈ group, ∃ task, Delegates datum task ∧ call ∈ task.actions := by
  obtain ⟨group, located, tasks, handled, rfl⟩ := forall₂_right chained listed
  obtain ⟨datum, member, task, delegates, inside⟩ := call_of_handled handled made
  exact ⟨group, located, datum, member, task, delegates, inside⟩

/-- The handler of a releasing event fetches before it removes, and no other handler removes. -/
theorem guarded_handler {release : CosmosEvent} {gatewayId : String}
    (releases : readReleasedGateway release = .ok gatewayId) {datum : StakeDatum}
    {task : Task DelegationCall} (delegates : Delegates datum task) {own : List DelegationCall}
    (run : Trace task own) : Guards (.fetchAll release (.byGatewayId gatewayId))
      (.bulkRemove release) own := by
  cases delegates with
  | delegate _ => cases run; exact Guards.of_not_mem (by simp)
  | undelegate _ => cases run; exact Guards.of_not_mem (by simp)
  | @transfer event source destination kind read =>
    have different : release ≠ event := by
      rintro rfl
      simp [readReleasedGateway, kind] at releases
    refine Guards.of_not_mem fun member => ?_
    have listed := run.perm.mem_iff.mp member
    simp [transferDelegations, Task.actions, different] at listed
  | @release event other kind read =>
    cases run with
    | seq one two =>
      cases one
      cases two
      intro before after same
      -- The removal is the second of the two calls.
      cases before with
      | nil => simp at same
      | cons first rest =>
        simp only [List.cons_append, List.nil_append, List.cons.injEq] at same
        obtain ⟨rfl, same⟩ := same
        have removal : DelegationCall.bulkRemove release ∈ [DelegationCall.bulkRemove event] := by
          rw [same]
          simp
        simp only [List.mem_singleton, DelegationCall.bulkRemove.injEq] at removal
        subst removal
        rw [releases, Except.ok.injEq] at read
        rw [read]
        exact List.mem_cons_self
  | other _ => cases run; exact Guards.of_not_mem (by simp)

/-- Whichever way scheduled groups overlap, a releasing event fetches before it removes. -/
theorem guarded_chained {release : CosmosEvent} {gatewayId : String}
    (releases : readReleasedGateway release = .ok gatewayId) {groups : List (List StakeDatum)}
    {chains : List (Task DelegationCall)} (chained : Chained groups chains)
    {trace : List DelegationCall} (run : Trace (Task.all chains) trace) :
    Guards (.fetchAll release (.byGatewayId gatewayId)) (.bulkRemove release) trace := by
  refine Guards.all (fun chain listed own ran => ?_) run
  obtain ⟨group, _, tasks, handled, rfl⟩ := forall₂_right chained listed
  refine Guards.chain (fun task member inner part => ?_) ran
  obtain ⟨datum, _, same⟩ := mem_of_mapM_ok handled member
  exact guarded_handler releases (delegates_of_handle same) part

/-- The application or the event that a call is made for. -/
def DelegationCall.subject : DelegationCall → String ⊕ CosmosEvent
  | .save row => .inl row.applicationId
  | .remove row => .inl row.applicationId
  | .fetchAll reader _ => .inr reader
  | .bulkCreate reader _ => .inr reader
  | .bulkRemove reader => .inr reader

/-- A handler makes its calls for an application of its datum, or for the datum itself. -/
theorem subject_of_delegates {datum : StakeDatum} {task : Task DelegationCall}
    (delegates : Delegates datum task) {call : DelegationCall} (made : call ∈ task.actions) :
    (∃ id ∈ entityIds applicationIds datum, call.subject = .inl id) ∨
      ∃ event, datum = .event event ∧ call.subject = .inr event := by
  cases delegates with
  | delegate kind =>
    rw [List.mem_singleton.mp made]
    exact Or.inl ⟨_, by rw [entityIds_delegate kind]; exact List.mem_singleton_self _, rfl⟩
  | undelegate kind =>
    rw [List.mem_singleton.mp made]
    exact Or.inl ⟨_, by rw [entityIds_undelegate kind]; exact List.mem_singleton_self _, rfl⟩
  | @transfer event source destination kind read =>
    refine Or.inr ⟨event, rfl, ?_⟩
    simp only [transferDelegations, Task.actions, List.singleton_append, List.mem_cons,
      List.not_mem_nil, or_false] at made
    rcases made with rfl | rfl | rfl <;> rfl
  | @release event other kind read =>
    refine Or.inr ⟨event, rfl, ?_⟩
    simp only [getUndelegatesForUnstakedGateway, Task.actions, List.singleton_append,
      List.mem_cons, List.not_mem_nil, or_false] at made
    rcases made with rfl | rfl <;> rfl
  | other _ => simp [Task.actions] at made

/-- Gateway data name no applications, and the types of application data are others. -/
theorem gateway_subject {datum : StakeDatum} {task : Task DelegationCall}
    (delegates : Delegates datum task) (gateway : datum.typeName ∈ gatewayTypes)
    {call : DelegationCall} (made : call ∈ task.actions) :
    ∃ event, (StakeDatum.event event).typeName ∉ applicationTypes ∧ call.subject = .inr event := by
  have unlisted : ∀ name ∈ gatewayTypes, name ∉ applicationTypes := by decide
  rcases subject_of_delegates delegates made with ⟨id, named, _⟩ | ⟨event, rfl, subject⟩
  · cases datum with
    | event emitted =>
      cases kind : emitted.type <;>
        simp [StakeDatum.typeName, EventType.name, kind, gatewayTypes] at gateway <;>
          simp [entityIds, getEntityId, applicationIds, kind] at named
    | msg sent =>
      cases kind : sent.decodedMsg <;>
        simp [StakeDatum.typeName, DecodedMsg.typeUrl, kind, gatewayTypes] at gateway <;>
          simp [entityIds, getEntityId, applicationIds, DecodedMsg.typeUrl, kind] at named
  · exact ⟨event, unlisted _ gateway, subject⟩

/-- A block's data in their groups, with the programs the groups are turned into. -/
structure Scheduled (data : List StakeDatum) (groups gatewayGroups : List (List StakeDatum))
    (chains gatewayChains : List (Task DelegationCall)) : Prop where
  addresses : ∀ datum ∈ successfulData (dataOfTypes applicationTypes data),
    ∀ id ∈ entityIds applicationIds datum, IsAddress id
  parties : ∀ event, .event event ∈ successfulData (dataOfTypes applicationTypes data) →
    NamesParties event
  conflictFree : ConflictFree applicationIds (successfulData (dataOfTypes applicationTypes data))
    groups
  gatewayData : gatewayGroups.flatten.Perm (successfulData (dataOfTypes gatewayTypes data))
  chained : Chained groups chains
  gatewayChained : Chained gatewayGroups gatewayChains

/-- The ids of a group are not those of another group. -/
theorem ConflictFree.beside {getEntityIdArg : RecordGetId} {data : List StakeDatum}
    {earlier later : List (List StakeDatum)} {group : List StakeDatum}
    (free : ConflictFree getEntityIdArg data (earlier ++ group :: later)) :
    ∀ other ∈ earlier ++ later, ∀ datum ∈ other, ∀ id ∈ entityIds getEntityIdArg datum,
      id ∉ group.flatMap (entityIds getEntityIdArg) := by
  intro other located datum member id named again
  obtain ⟨own, inside, same⟩ := List.mem_flatMap.mp again
  obtain ⟨_, after, across⟩ := List.pairwise_append.mp free.apart
  rcases List.mem_append.mp located with before | behind
  · exact across other before group List.mem_cons_self datum member own inside id named same
  · exact (List.pairwise_cons.mp after).1 other behind own inside datum member id same named

section

variable {data : List StakeDatum} {groups gatewayGroups : List (List StakeDatum)}
  {chains gatewayChains : List (Task DelegationCall)}
  (scheduled : Scheduled data groups gatewayGroups chains gatewayChains)
  {release : CosmosEvent} {gatewayId : String}

include scheduled

/-- The data of a group are successful application data. -/
theorem Scheduled.application {group : List StakeDatum} (located : group ∈ groups)
    {datum : StakeDatum} (member : datum ∈ group) :
    datum ∈ successfulData (dataOfTypes applicationTypes data) ∧
      datum.typeName ∈ applicationTypes := by
  have listed : datum ∈ successfulData (dataOfTypes applicationTypes data) :=
    scheduled.conflictFree.complete.mem_iff.mp (List.mem_flatten.mpr ⟨group, located, member⟩)
  exact ⟨listed, (mem_dataOfTypes.mp (mem_of_successful listed)).2⟩

/-- The calls of gateway groups are those of gateway data. -/
theorem Scheduled.gatewayCall {call : DelegationCall}
    (made : call ∈ (Task.all gatewayChains).actions) :
    ∃ datum task, datum.typeName ∈ gatewayTypes ∧ Delegates datum task ∧ call ∈ task.actions := by
  rw [Task.actions_all, List.mem_flatten] at made
  obtain ⟨_, listed, inside⟩ := made
  obtain ⟨chain, member, rfl⟩ := List.mem_map.mp listed
  obtain ⟨group, located, datum, held, task, delegates, own⟩ :=
    call_of_chained scheduled.gatewayChained member inside
  have belongs := scheduled.gatewayData.mem_iff.mp (List.mem_flatten.mpr ⟨group, located, held⟩)
  exact ⟨datum, task, (mem_dataOfTypes.mp (mem_of_successful belongs)).2, delegates, own⟩

/-- The handler of a releasing event makes its calls among those of the gateway groups. -/
theorem Scheduled.releaseCall (releases : readReleasedGateway release = .ok gatewayId)
    (listed : .event release ∈ successfulData (dataOfTypes gatewayTypes data)) :
    .bulkRemove release ∈ (Task.all gatewayChains).actions := by
  obtain ⟨group, located, member⟩ :=
    List.mem_flatten.mp (scheduled.gatewayData.mem_iff.mpr listed)
  obtain ⟨chain, found, tasks, handled, rfl⟩ := forall₂_left scheduled.gatewayChained located
  obtain ⟨task, inside, same⟩ := exists_of_mapM_ok handled member
  have removal : DelegationCall.bulkRemove release ∈ task.actions := by
    cases delegates_of_handle same with
    | @transfer event source destination kind read =>
      simp [transferDelegations, Task.actions]
    | @release event other kind read =>
      simp [getUndelegatesForUnstakedGateway, Task.actions]
    | other skipped => exact absurd releases (unread_of_skip skipped gatewayId)
  rw [Task.actions_all]
  refine List.mem_flatten.mpr ⟨_, List.mem_map.mpr ⟨_, found, rfl⟩, ?_⟩
  rw [Task.actions_chain]
  exact List.mem_flatten.mpr ⟨_, List.mem_map.mpr ⟨_, inside, rfl⟩, removal⟩

/-- Calls of a run that are not a group's own are foreign to it. -/
theorem Scheduled.foreign (releases : readReleasedGateway release = .ok gatewayId)
    {ids : List String} {readers : CosmosEvent → Prop}
    (reads : ∀ event, readers event → (StakeDatum.event event).typeName ∈ applicationTypes)
    {others : List (List StakeDatum)} (among : ∀ group ∈ others, group ∈ groups)
    (apart : ∀ group ∈ others, ∀ datum ∈ group, ∀ id ∈ entityIds applicationIds datum, id ∉ ids)
    (unread : ∀ group ∈ others, ∀ event, .event event ∈ group → ¬ readers event)
    {chains : List (Task DelegationCall)} (chained : Chained others chains)
    {call : DelegationCall} {state : RecordedCalls}
    (guarded : call = .bulkRemove release →
      .fetchAll release (.byGatewayId gatewayId) ∈ state.2)
    (made : call ∈ (Task.all chains).actions ∨ call ∈ (Task.all gatewayChains).actions) :
    Foreign release gatewayId ids readers state call := by
  rcases made with made | made
  · rw [Task.actions_all, List.mem_flatten] at made
    obtain ⟨_, listed, inside⟩ := made
    obtain ⟨chain, member, rfl⟩ := List.mem_map.mp listed
    obtain ⟨group, located, datum, held, task, delegates, own⟩ :=
      call_of_chained chained member inside
    have belongs := scheduled.application (among group located) held
    exact foreign_application releases delegates belongs.2 (apart group located datum held)
      (fun event same => scheduled.parties event (same ▸ belongs.1))
      (fun event same => unread group located event (same ▸ held)) own state
  · obtain ⟨datum, task, gateway, delegates, own⟩ := scheduled.gatewayCall made
    exact foreign_gateway releases delegates gateway reads own guarded

/-- Calls with the same subject, one of a group and one of another group, do not exist. -/
theorem Scheduled.disjoint {earlier later : List (List StakeDatum)} {group : List StakeDatum}
    (split : groups = earlier ++ group :: later) {tasks : List (Task DelegationCall)}
    (handled : group.mapM handleDelegations = .ok tasks) {call : DelegationCall}
    (own : call ∈ (Task.chain tasks).actions) :
    (∀ others, Chained (earlier ++ later) others → ∀ beside ∈ others, call ∉ beside.actions) ∧
      call ∉ (Task.all gatewayChains).actions := by
  obtain ⟨datum, member, task, delegates, made⟩ := call_of_handled handled own
  have located : group ∈ groups := by
    rw [split]
    simp
  -- A call is about an application of its datum, or about the event it was made for.
  have mine := subject_of_delegates delegates made
  constructor
  · intro others chained beside listed again
    obtain ⟨other, placed, found, held, twin, alike, also⟩ := call_of_chained chained listed again
    have apart := @ConflictFree.beside _ _ earlier later group
      (split ▸ scheduled.conflictFree) other placed found held
    have theirs := subject_of_delegates alike also
    rcases mine with ⟨id, named, subject⟩ | ⟨event, rfl, subject⟩
    · rcases theirs with ⟨same, listed, equal⟩ | ⟨event, _, equal⟩
      · rw [subject, Sum.inl.injEq] at equal
        exact apart same listed (List.mem_flatMap.mpr ⟨datum, member, equal ▸ named⟩)
      · rw [subject] at equal
        cases equal
    · rcases theirs with ⟨_, _, equal⟩ | ⟨event, rfl, equal⟩
      · rw [subject] at equal
        cases equal
      · -- One datum in both groups would share its ids with itself.
        rw [subject, Sum.inr.injEq] at equal
        subst equal
        have named := scheduled.conflictFree.named _ (scheduled.application located member).1
        obtain ⟨id, rest⟩ := List.exists_mem_of_ne_nil _ named
        exact apart id rest (List.mem_flatMap.mpr ⟨_, member, rest⟩)
  · -- The gateway side handles events of other types.
    intro again
    obtain ⟨other, twin, gateway, alike, also⟩ := scheduled.gatewayCall again
    obtain ⟨event, unlisted, equal⟩ := gateway_subject alike gateway also
    rcases mine with ⟨_, _, subject⟩ | ⟨reader, rfl, subject⟩
    · rw [subject] at equal
      cases equal
    · rw [subject, Sum.inr.injEq] at equal
      exact unlisted (equal ▸ (scheduled.application located member).2)

/-- When no group ends with a delegation it wrote, none is left to the released gateway. -/
theorem Scheduled.released (releases : readReleasedGateway release = .ok gatewayId)
    (listed : .event release ∈ successfulData (dataOfTypes gatewayTypes data))
    {rows : Store ApplicationGateway.id}
    (unwritten : ∀ group ∈ groups,
      (group.foldl (carry gatewayId) ⟨delegators rows gatewayId, ∅⟩).written = ∅)
    {trace : List DelegationCall}
    (run : Trace (Task.par (Task.all chains) (Task.all gatewayChains)) trace)
    {row : ApplicationGateway} (stored : row ∈ (applyAll trace (start rows)).rows.records) :
    row.gatewayId ≠ gatewayId := by
  intro same
  cases run with
  | @par _ _ xs ys _ one two merged =>
    have guarded := Guards.shuffle merged (guarded_chained releases scheduled.chained one)
      (guarded_chained releases scheduled.gatewayChained two)
    have removal : DelegationCall.bulkRemove release ∈ trace :=
      merged.mem.mpr (Or.inr (two.perm.mem_iff.mpr (scheduled.releaseCall releases listed)))
    have recorded := performed_record trace [] (start rows)
    have guards : ∀ before call after, trace = before ++ call :: after →
        call = .bulkRemove release → .fetchAll release (.byGatewayId gatewayId) ∈
          (performed record before (start rows, [])).2 := by
      rintro before call after split rfl
      rw [performed_record]
      exact guarded before after split
    -- What the gateway has before the block is the bound the run starts within.
    have begins : ∀ ids, Bounded release gatewayId ids ⟨delegators rows gatewayId, ∅⟩
        (start rows, []) := by
      intro ids id inside held
      refine ⟨?_, Or.inr ⟨by simp, by simp⟩⟩
      simp only [delegators, List.mem_toFinset, List.mem_map, List.mem_filter, decide_eq_true_eq]
      exact ⟨⟨id, gatewayId⟩, ⟨held, rfl⟩, rfl⟩
    -- The application belongs to one of the groups, or no application datum is about it.
    have bound : ∃ ids carried, row.applicationId ∈ ids ∧ carried.written = ∅ ∧
        Bounded release gatewayId ids carried (performed record trace (start rows, [])) := by
      by_cases known : ∃ group ∈ groups, ∃ datum ∈ group,
          row.applicationId ∈ entityIds applicationIds datum
      · obtain ⟨group, located, datum, member, inside⟩ := known
        obtain ⟨earlier, later, rfl⟩ := List.append_of_mem located
        obtain ⟨front, chain, back, rfl, ⟨tasks, handled, rfl⟩, first, last⟩ :=
          forall₂_middle scheduled.chained
        refine ⟨group.flatMap (entityIds applicationIds), _,
          List.mem_flatMap.mpr ⟨datum, member, inside⟩, unwritten group located, ?_⟩
        have others : Chained (earlier ++ later) (front ++ back) := List.rel_append first last
        -- All other calls of the run are foreign to the group: they keep within the bound.
        have interfered : Interfered record (Foreign release gatewayId
            (group.flatMap (entityIds applicationIds)) fun event => .event event ∈ group)
            (trace.filter fun call => call ∈ (Task.chain tasks).actions) (start rows, [])
            (performed record trace (start rows, [])) := by
          refine Interfered.of_filter fun before call after split idle => ?_
          have member : call ∈ trace := by
            rw [split]
            simp
          have foreign : call ∉ (Task.chain tasks).actions := by simpa using idle
          have made := (merged.mem.mp member).imp one.perm.mem_iff.mp two.perm.mem_iff.mp
          refine scheduled.foreign releases
            (fun event held => (scheduled.application located held).2) ?_
            scheduled.conflictFree.beside ?_ others (guards before call after split) ?_
          · intro other placed
            exact List.mem_append.mpr ((List.mem_append.mp placed).imp_right
              (List.mem_cons_of_mem group))
          · intro other placed event held again
            have named := scheduled.conflictFree.named _ (scheduled.application located again).1
            obtain ⟨id, rest⟩ := List.exists_mem_of_ne_nil _ named
            exact scheduled.conflictFree.beside other placed _ held id rest
              (List.mem_flatMap.mpr ⟨_, again, rest⟩)
          · refine made.imp_left fun listed => ?_
            simp only [Task.actions_all, List.map_append, List.map_cons, List.flatten_append,
              List.flatten_cons, List.mem_append] at listed ⊢
            rcases listed with listed | listed | listed
            · exact Or.inl listed
            · exact absurd listed foreign
            · exact Or.inr listed
        -- The calls of the group itself carry the bound on, datum by datum.
        refine (group_outline releases handled ?_ ?_ ?_ ?_ ?_ _).sound interfered (begins _)
        · exact fun other held => (scheduled.application located held).2
        · exact fun other held id named => List.mem_flatMap.mpr ⟨other, held, named⟩
        · exact fun event held => scheduled.parties event (scheduled.application located held).1
        · exact fun event held => held
        · -- Nothing else makes one of the group's calls, so its own run is what is kept.
          have none : ys.filter (fun call => call ∈ (Task.chain tasks).actions) = [] := by
            refine List.filter_eq_nil_iff.mpr fun call held kept => ?_
            exact (scheduled.disjoint rfl handled (by simpa using kept)).2
              (two.perm.mem_iff.mp held)
          have selected := merged.filter fun call => call ∈ (Task.chain tasks).actions
          rw [none] at selected
          rw [selected.eq_of_nil_right]
          refine Trace.all_filter one (by simp) fun beside listed call held => ?_
          simp only [decide_eq_false_iff_not]
          intro own
          exact (scheduled.disjoint rfl handled own).1 _ others beside listed held
      · -- For an application no datum is about, every call of the run is foreign.
        refine ⟨[row.applicationId], ⟨delegators rows gatewayId, ∅⟩, by simp, rfl, ?_⟩
        have interfered : Interfered record (Foreign release gatewayId [row.applicationId]
            fun _ => False) (trace.filter fun _ => false) (start rows, [])
            (performed record trace (start rows, [])) := by
          refine Interfered.of_filter fun before call after split _ => ?_
          have member : call ∈ trace := by
            rw [split]
            simp
          have made := (merged.mem.mp member).imp one.perm.mem_iff.mp two.perm.mem_iff.mp
          refine scheduled.foreign releases (by simp) (fun group located => located) ?_ (by simp)
            scheduled.chained (guards before call after split) made
          intro group located datum held id named again
          rw [List.mem_singleton.mp again] at named
          exact known ⟨group, located, datum, held, named⟩
        rw [List.filter_false] at interfered
        exact (Outline.done (bounded_stable _)).sound interfered (begins _)
    obtain ⟨ids, carried, inside, empty, bounded⟩ := bound
    rw [recorded] at bounded
    have held : (⟨row.applicationId, gatewayId⟩ : ApplicationGateway) ∈
        (applyAll trace (start rows)).rows.records := by
      rw [← same]
      exact stored
    -- The row was not written in this block, so it goes with the removal, which was made.
    rcases (bounded row.applicationId inside held).2 with written | doomed
    · rw [empty] at written
      simp at written
    · exact doomed.1 (by simpa using removal)

end

end Pocketdex
