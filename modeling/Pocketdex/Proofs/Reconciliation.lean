import Pocketdex.Proofs.ApplicationChain

/-! Stored applications agree with the chain after every reconciled block, except after transfers. -/

namespace Pocketdex

section Reconcile

variable {chain : Chain} {table after : Dict String Application}

/-- The chain returns exactly its applications. -/
theorem mem_allApplications {ca : ChainApplication} : ca ∈ chain.allApplications ↔
    ∃ onchain, chain.get ca.address = some onchain ∧
      ca.stake = some ⟨toString onchain.stake, onchain.denom⟩ ∧
        ca.unstakeSessionEndHeight =
          (onchain.unbonding.map Unbonding.sessionEndHeight).getD 0 := by
  rw [Chain.allApplications, List.mem_map]
  constructor
  · rintro ⟨⟨address, onchain⟩, member, rfl⟩
    exact ⟨onchain, Dict.get_eq_some.mpr member, rfl, rfl⟩
  · rintro ⟨onchain, found, stake, height⟩
    refine ⟨(ca.address, onchain), Dict.get_eq_some.mp found, ?_⟩
    obtain ⟨address, _, _⟩ := ca
    simp only at stake height
    rw [stake, height]

/-- The returned addresses are those of the chain's applications. -/
theorem mem_allApplications_address {id : String} :
    id ∈ chain.allApplications.map ChainApplication.address ↔ chain.get id ≠ none := by
  rw [List.mem_map]
  constructor
  · rintro ⟨ca, member, rfl⟩
    obtain ⟨onchain, found, _⟩ := mem_allApplications.mp member
    simp [found]
  · intro present
    obtain ⟨onchain, found⟩ := Option.ne_none_iff_exists'.mp present
    exact ⟨⟨id, some ⟨toString onchain.stake, onchain.denom⟩,
      (onchain.unbonding.map Unbonding.sessionEndHeight).getD 0⟩,
      mem_allApplications.mpr ⟨onchain, found, rfl, rfl⟩, rfl⟩

/-- The row of a stored application with the chain's stake and status. -/
def Application.withChain (app : Application) (onchain : OnchainApp) : Application :=
  { app with
    stakeAmount := onchain.stake
    stakeDenom := onchain.denom
    stakeStatus := onchain.status }

/-- The row of an application that is closed out. -/
def Application.closedOut (app : Application) : Application :=
  { app with stakeStatus := .unstaked, stakeAmount := 0 }

@[simp] theorem Application.withChain_id (app : Application) (onchain : OnchainApp) :
    (app.withChain onchain).id = app.id := rfl

@[simp] theorem Application.closedOut_id (app : Application) : app.closedOut.id = app.id := rfl

/-- Bringing a row in line with a returned application gives it the chain's stake and status. -/
theorem syncApplication_returned {app : Application} {ca : ChainApplication}
    {onchain : OnchainApp} (stake : ca.stake = some ⟨toString onchain.stake, onchain.denom⟩)
    (height : ca.unstakeSessionEndHeight =
      (onchain.unbonding.map Unbonding.sessionEndHeight).getD 0) :
    syncApplication app ca = .ok (app.withChain onchain) := by
  -- The session end height is positive exactly while the application is unbonding.
  have status : (if ca.unstakeSessionEndHeight > 0 then StakeStatus.unstaking else .staked) =
      onchain.status := by
    rw [height, OnchainApp.status]
    cases onchain.unbonding with
    | none => rfl
    | some begun => simp [begun.waits]
  simp only [syncApplication, stake, bigInt_toString, bind, Except.bind, pure, Except.pure, status,
    Option.map_some, Option.getD_some]
  rfl

/-- The rows brought in line are those of the stored applications the chain returned. -/
theorem syncReturned_ok {chainApps : List ChainApplication} {returned : List Application}
    (ran : syncReturned table chainApps = .ok returned) :
    (∀ app ∈ returned, ∃ ca ∈ chainApps, ∃ old, table.get ca.address = some old ∧
      syncApplication old ca = .ok app) ∧
    ∀ ca ∈ chainApps, ∀ old, table.get ca.address = some old →
      ∃ app ∈ returned, syncApplication old ca = .ok app := by
  induction chainApps generalizing returned with
  | nil =>
    cases ran
    simp
  | cons ca rest ih =>
    rw [syncReturned] at ran
    cases found : table.get ca.address with
    | none =>
      -- An application that is not stored is passed over.
      simp only [found] at ran
      obtain ⟨sound, complete⟩ := ih ran
      refine ⟨fun app member => ?_, fun other member old stored => ?_⟩
      · obtain ⟨other, inside, rest⟩ := sound app member
        exact ⟨other, List.mem_cons_of_mem _ inside, rest⟩
      · rcases List.mem_cons.mp member with rfl | inside
        · rw [found] at stored
          cases stored
        · exact complete other inside old stored
    | some old =>
      simp only [found] at ran
      obtain ⟨synced, one, ran⟩ := exceptBind_ok ran
      obtain ⟨later, others, ran⟩ := exceptBind_ok ran
      cases ran
      obtain ⟨sound, complete⟩ := ih others
      refine ⟨fun app member => ?_, fun other member stored here => ?_⟩
      · rcases List.mem_cons.mp member with rfl | inside
        · exact ⟨ca, List.mem_cons_self, old, found, one⟩
        · obtain ⟨other, listed, rest⟩ := sound app inside
          exact ⟨other, List.mem_cons_of_mem _ listed, rest⟩
      · rcases List.mem_cons.mp member with rfl | inside
        · rw [found] at here
          cases here
          exact ⟨synced, List.mem_cons_self, one⟩
        · obtain ⟨app, listed, same⟩ := complete other inside stored here
          exact ⟨app, List.mem_cons_of_mem _ listed, same⟩

/-- The rows closed out are those of absent applications that were unstaking. -/
theorem mem_closeOut {seen : List String} {app : Application} :
    app ∈ closeOutAbsent seen (fetchAllApplicationByStatus table .staked ++
        fetchAllApplicationByStatus table .unstaking) ↔
      ∃ old ∈ table.values, old.id ∉ seen ∧ old.stakeStatus = .unstaking ∧
        app = old.closedOut := by
  simp only [closeOutAbsent, fetchAllApplicationByStatus, List.mem_map, List.mem_filter,
    List.mem_append, decide_eq_true_eq]
  constructor
  · rintro ⟨old, ⟨listed, absent, status⟩, rfl⟩
    exact ⟨old, listed.elim And.left And.left, absent, status, rfl⟩
  · rintro ⟨old, member, absent, status, rfl⟩
    exact ⟨old, ⟨Or.inr ⟨member, status⟩, absent, status⟩, rfl⟩

/-- What reconciliation makes of a stored application. -/
def ReconciledRow (chain : Chain) (id : String) (old app : Application) : Prop :=
  (∃ onchain, chain.get id = some onchain ∧ app = old.withChain onchain) ∨
    (chain.get id = none ∧ old.stakeStatus = .unstaking ∧ app = old.closedOut) ∨
      (chain.get id = none ∧ old.stakeStatus ≠ .unstaking ∧ app = old)

/-- Reconciliation stores what it makes of each stored application, and nothing else. -/
theorem reconcileApplications_ok (byId : StoredById Application.id table)
    (ran : reconcileApplications chain.allApplications table = .ok after) :
    (∀ id app, after.get id = some app →
      ∃ old, table.get id = some old ∧ ReconciledRow chain id old app) ∧
    ∀ id, table.get id ≠ none → after.get id ≠ none := by
  obtain ⟨returned, synced, ran⟩ := exceptBind_ok ran
  cases ran
  obtain ⟨sound, complete⟩ := syncReturned_ok synced
  -- A stored application of the chain has a row brought in line.
  have renewed : ∀ id app, table.get id = some app → chain.get id ≠ none →
      ∃ row ∈ returned, row.id = id := by
    intro id app stored present
    obtain ⟨ca, listed, same⟩ := List.mem_map.mp (mem_allApplications_address.mpr present)
    subst same
    obtain ⟨onchain, _, stake, height⟩ := mem_allApplications.mp listed
    obtain ⟨row, inside, one⟩ := complete ca listed app stored
    rw [syncApplication_returned stake height] at one
    cases one
    exact ⟨_, inside, by rw [Application.withChain_id, byId _ _ stored]⟩
  refine ⟨fun id app found => ?_, fun id stored => ?_⟩
  · rcases Dict.get_storeAll_cases found with ⟨member, named⟩ | ⟨unnamed, stored⟩
    · rcases List.mem_append.mp member with inside | inside
      · -- The chain returned the application.
        obtain ⟨ca, listed, old, stored, one⟩ := sound app inside
        obtain ⟨onchain, present, stake, height⟩ := mem_allApplications.mp listed
        rw [syncApplication_returned stake height] at one
        cases one
        have same : ca.address = id := (byId _ _ stored).symm.trans named
        subst same
        exact ⟨old, stored, Or.inl ⟨onchain, present, rfl⟩⟩
      · -- The chain did not return it, and it was unstaking.
        obtain ⟨old, held, absent, status, rfl⟩ := mem_closeOut.mp inside
        obtain ⟨key, stored⟩ := Dict.mem_values.mp held
        have same : key = id := (byId _ _ stored).symm.trans named
        subst same
        rw [mem_allApplications_address, not_not, byId _ _ stored] at absent
        exact ⟨old, stored, Or.inr (Or.inl ⟨absent, status, rfl⟩)⟩
    · -- The application was left alone.
      refine ⟨app, stored, Or.inr (Or.inr ⟨?_, ?_, rfl⟩)⟩
      · by_contra present
        obtain ⟨row, inside, named⟩ := renewed id app stored present
        exact unnamed row (List.mem_append_left _ inside) named
      · intro status
        by_cases present : chain.get id = none
        · have absent : app.id ∉ chain.allApplications.map ChainApplication.address := by
            rw [mem_allApplications_address, byId _ _ stored, not_not]
            exact present
          have closed := mem_closeOut.mpr
            ⟨app, Dict.mem_values.mpr ⟨id, stored⟩, absent, status, rfl⟩
          exact unnamed app.closedOut (List.mem_append_right _ closed)
            (by rw [Application.closedOut_id, byId _ _ stored])
        · obtain ⟨row, inside, named⟩ := renewed id app stored present
          exact unnamed row (List.mem_append_left _ inside) named
  · exact Dict.get_storeAll_ne_none.mpr (Or.inr stored)

end Reconcile

section Handling

variable {table : Dict String Application} {datum : StakeDatum} {after : Dict String Application}

/-- The rows a datum is handled with keep status and stake, or belong to applications it enters. -/
structure KeepsStake (datum : StakeDatum) (table : Dict String Application)
    (rows : List Application) : Prop where
  kept : ∀ row ∈ rows,
    (∃ old, table.get row.id = some old ∧ row.stakeStatus = old.stakeStatus ∧
      row.stakeAmount = old.stakeAmount) ∨
    Stakes datum row.id ∨ (table.get row.id = none ∧ ∃ source, TransferEnds datum source row.id)
  staked : ∀ id, Stakes datum id → ∃ row ∈ rows, row.id = id
  received : ∀ source id, TransferEnds datum source id → ∃ row ∈ rows, row.id = id

/-- A handled datum stores rows that keep status and stake. -/
def Handled (datum : StakeDatum) (table after : Dict String Application) : Prop :=
  ∃ rows, after = Dict.storeAll Application.id rows table ∧ KeepsStake datum table rows

/-- Storing applications succeeds, and leaves them in the table. -/
theorem run_saveApplications (rows : List Application) (table : Dict String Application) :
    (saveApplications rows).run table = .ok ((), Dict.storeAll Application.id rows table) := by
  induction rows generalizing table with
  | nil => rfl
  | cons row rest ih =>
    simp only [saveApplications, Program.bind_eq, Program.write_bind, Program.run, ih]
    rfl

/-- A message ends no transfer. -/
theorem msg_not_transferEnds (msg : CosmosMessage) (source destination : String) :
    ¬ TransferEnds (.msg msg) source destination := by
  rintro ⟨other, same, _⟩
  cases same

/-- Storing one edited row keeps status and stake when the edit does. -/
theorem handled_edit {id : String} {old row : Application} (found : table.get id = some old)
    (byId : StoredById Application.id table) (sameId : row.id = old.id)
    (status : row.stakeStatus = old.stakeStatus) (amount : row.stakeAmount = old.stakeAmount)
    (nothing : EntersNothing datum)
    (ran : (saveApplications [row]).run table = .ok ((), after)) : Handled datum table after := by
  rw [run_saveApplications] at ran
  cases ran
  refine ⟨[row], rfl, ?_, ?_, ?_⟩
  · intro other member
    rw [List.mem_singleton.mp member]
    exact Or.inl ⟨old, by rw [sameId, byId id old found, found], status, amount⟩
  · exact fun id stakes => absurd stakes (nothing.1 id)
  · exact fun source id ends => absurd ends (nothing.2 source id)

/-- A staked application is stored as one row, whatever was stored before. -/
theorem handled_stake {μ : Type} {program : ApplicationProgram (μ × Application ×
      List MsgServiceProps × List ApplicationServiceProps)} {docs : StakeDocs μ} {id : String}
    (reads : ∀ table row after, program.run table = .ok (row, after) →
      after = table ∧ row.2.1.id = id)
    (stakes : ∀ other, Stakes datum other ↔ other = id)
    (noEnd : ∀ source destination, ¬ TransferEnds datum source destination)
    (ran : (program.bind fun row => (saveApplications [row.2.1]).bind fun _ =>
      .done (⟨[row.1], row.2.2.1, row.2.2.2⟩ : StakeDocs μ)).run table = .ok (docs, after)) :
    Handled datum table after := by
  -- A program in front of others runs first, and its value decides how they continue.
  have split : ∀ (program : ApplicationProgram (μ × Application × List MsgServiceProps ×
      List ApplicationServiceProps)) (table : Dict String Application),
      (program.bind fun row => (saveApplications [row.2.1]).bind fun _ =>
        .done (⟨[row.1], row.2.2.1, row.2.2.2⟩ : StakeDocs μ)).run table = .ok (docs, after) →
      ∃ row middle, program.run table = .ok (row, middle) ∧
        after = Dict.storeAll Application.id [row.2.1] middle := by
    intro program
    induction program with
    | done row =>
      intro table ran
      refine ⟨row, table, rfl, ?_⟩
      simp only [saveApplications, Program.bind_eq, Program.write_bind, Program.pure_eq,
        Program.bind, Program.run, Except.ok.injEq, Prod.mk.injEq] at ran
      exact ran.2.symm
    | fail error => intro table ran; simp [Program.run] at ran
    | get key next ih => intro table ran; exact ih _ table ran
    | save key row next ih => intro table ran; exact ih _ ran
  obtain ⟨row, middle, first, rfl⟩ := split program table ran
  obtain ⟨rfl, named⟩ := reads table row middle first
  refine ⟨[row.2.1], rfl, ?_, ?_, ?_⟩
  · intro other member
    rw [List.mem_singleton.mp member]
    exact Or.inr (Or.inl ((stakes _).mpr named))
  · exact fun other stake => ⟨row.2.1, List.mem_cons_self, named.trans ((stakes other).mp stake).symm⟩
  · exact fun source other ends => absurd ends (noEnd source other)

/-- Handling a stake message stores the staked application. -/
theorem handleAppMsgStake_handled {msg : CosmosMessage} {decoded : MsgStakeApplication}
    (kind : msg.decodedMsg = .stakeApplication decoded)
    {docs : StakeDocs MsgStakeApplicationProps}
    (ran : (handleAppMsgStake [(msg, decoded)]).run table = .ok (docs, after)) :
    Handled (.msg msg) table after := by
  have stakes : ∀ other, Stakes (.msg msg) other ↔ other = decoded.address := by
    intro other
    constructor
    · rintro (same | same) <;> rw [kind] at same <;> cases same
      rfl
    · rintro rfl
      exact Stakes.stake kind
  refine @handled_stake table _ after _ (_handleAppMsgStake msg decoded) docs decoded.address
    ?_ stakes (msg_not_transferEnds msg) ?_
  · intro table row after ran
    simp only [_handleAppMsgStake, Program.bind_eq] at ran
    obtain ⟨amount, _, ran⟩ := Program.run_lift_bind ran
    simp only [_stakeApplication, Program.bind_eq, Program.read_bind, Program.bind,
      Program.pure_eq, Program.run, Except.ok.injEq, Prod.mk.injEq] at ran
    obtain ⟨rfl, rfl⟩ := ran
    exact ⟨rfl, rfl⟩
  · simpa [handleAppMsgStake, collectStakes] using ran

/-- Handling a Morse claim stores the claimed application. -/
theorem handleMsgClaimMorseApplication_handled {msg : CosmosMessage}
    {decoded : MsgClaimMorseApplication}
    (kind : msg.decodedMsg = .claimMorseApplication decoded)
    {docs : StakeDocs MsgClaimMorseApplicationProps}
    (ran : (handleMsgClaimMorseApplication [(msg, decoded)]).run table = .ok (docs, after)) :
    Handled (.msg msg) table after := by
  have stakes : ∀ other, Stakes (.msg msg) other ↔ other = decoded.shannonDestAddress := by
    intro other
    constructor
    · rintro (same | same) <;> rw [kind] at same <;> cases same
      rfl
    · rintro rfl
      exact Stakes.claim kind
  refine @handled_stake table _ after _ (_handleMsgClaimMorseApplication msg decoded) docs
    decoded.shannonDestAddress ?_ stakes (msg_not_transferEnds msg) ?_
  · -- Nothing but the staking at the end of the handler touches the table.
    intro table row after ran
    simp only [_handleMsgClaimMorseApplication, Program.bind_eq] at ran
    obtain ⟨stakeCoin, _, ran⟩ := Program.run_lift_bind ran
    obtain ⟨balanceCoin, _, ran⟩ := Program.run_lift_bind ran
    simp only [Program.read_bind, Program.run] at ran
    obtain ⟨stakeAmount, _, ran⟩ := Program.run_lift_bind ran
    obtain ⟨balanceAmount, _, ran⟩ := Program.run_lift_bind ran
    obtain ⟨services, _, ran⟩ := Program.run_lift_bind ran
    simp only [_stakeApplication, Program.bind_eq, Program.read_bind, Program.bind,
      Program.pure_eq, Program.run, Except.ok.injEq, Prod.mk.injEq] at ran
    obtain ⟨rfl, rfl⟩ := ran
    exact ⟨rfl, rfl⟩
  · simpa [handleMsgClaimMorseApplication, collectStakes] using ran

/-- An unstake message keeps status and stake. -/
theorem handleUnstakeApplicationMsg_handled (byId : StoredById Application.id table)
    {msg : CosmosMessage} {decoded : MsgUnstakeApplication}
    (kind : msg.decodedMsg = .unstakeApplication decoded)
    (ran : (handleUnstakeApplicationMsg [(msg, decoded)]).run table = .ok ((), after)) :
    Handled (.msg msg) table after := by
  rw [handleUnstakeApplicationMsg, handleAll_single] at ran
  simp only [_handleUnstakeApplicationMsg, Program.bind_eq, Program.bind_assoc] at ran
  obtain ⟨application, found, ran, _⟩ := run_getApplication_bind ran
  refine handled_edit found byId ?_ ?_ ?_ (msg_entersNothing (by simp [kind]) (by simp [kind])) ran
  · rfl
  · rfl
  · rfl

/-- A transfer message keeps status and stake. -/
theorem handleTransferApplicationMsg_handled (byId : StoredById Application.id table)
    {msg : CosmosMessage} {decoded : MsgTransferApplication}
    (kind : msg.decodedMsg = .transferApplication decoded)
    (ran : (handleTransferApplicationMsg [decoded]).run table = .ok ((), after)) :
    Handled (.msg msg) table after := by
  rw [handleTransferApplicationMsg, handleAll_single] at ran
  simp only [_handleTransferApplicationMsg, Program.bind_eq, Program.bind_assoc] at ran
  obtain ⟨application, found, ran, _⟩ := run_getApplication_bind ran
  refine handled_edit found byId ?_ ?_ ?_ (msg_entersNothing (by simp [kind]) (by simp [kind])) ran
  · rfl
  · rfl
  · rfl

/-- A delegation stores no application. -/
theorem handled_nothing (nothing : EntersNothing datum) : Handled datum table table :=
  ⟨[], rfl, fun _ member => absurd member List.not_mem_nil,
    fun id stakes => absurd stakes (nothing.1 id),
    fun source id ends => absurd ends (nothing.2 source id)⟩

/-- A transfer that begins keeps status and stake. -/
theorem handleTransferApplicationBeginEvent_handled (byId : StoredById Application.id table)
    {event : CosmosEvent} (kind : event.type = .applicationTransferBegin)
    (ran : (handleTransferApplicationBeginEvent [event]).run table = .ok ((), after)) :
    Handled (.event event) table after := by
  rw [handleTransferApplicationBeginEvent, handleAll_single] at ran
  simp only [_handleTransferApplicationBeginEvent, Program.bind_eq, Program.bind_assoc] at ran
  obtain ⟨_, _, ran⟩ := Program.run_lift_bind ran
  obtain ⟨_, _, ran⟩ := Program.run_lift_bind ran
  obtain ⟨application, found, ran, _⟩ := run_getApplication_bind ran
  obtain ⟨_, _, ran⟩ := Program.run_lift_bind ran
  refine handled_edit found byId ?_ ?_ ?_ (event_entersNothing (by simp [kind])) ran
  · rfl
  · rfl
  · rfl

/-- A transfer that fails keeps status and stake. -/
theorem handleTransferApplicationErrorEvent_handled (byId : StoredById Application.id table)
    {event : CosmosEvent} (kind : event.type = .applicationTransferError)
    (ran : (handleTransferApplicationErrorEvent [event]).run table = .ok ((), after)) :
    Handled (.event event) table after := by
  rw [handleTransferApplicationErrorEvent, handleAll_single] at ran
  simp only [_handleTransferApplicationErrorEvent, Program.bind_eq, Program.bind_assoc] at ran
  obtain ⟨_, _, ran⟩ := Program.run_lift_bind ran
  obtain ⟨_, _, ran⟩ := Program.run_lift_bind ran
  obtain ⟨_, _, ran⟩ := Program.run_lift_bind ran
  obtain ⟨_, _, ran⟩ := Program.run_lift_bind ran
  obtain ⟨_, _, ran⟩ := Program.run_lift_bind ran
  obtain ⟨_, _, ran⟩ := Program.run_lift_bind ran
  obtain ⟨application, found, ran, _⟩ := run_getApplication_bind ran
  refine handled_edit found byId ?_ ?_ ?_ (event_entersNothing (by simp [kind])) ran
  · rfl
  · rfl
  · rfl

/-- An unbonding that begins keeps status and stake. -/
theorem handleApplicationUnbondingBeginEvent_handled (byId : StoredById Application.id table)
    {event : CosmosEvent} (kind : event.type = .applicationUnbondingBegin)
    (ran : (handleApplicationUnbondingBeginEvent [event]).run table = .ok ((), after)) :
    Handled (.event event) table after := by
  rw [handleApplicationUnbondingBeginEvent, handleAll_single] at ran
  simp only [_handleApplicationUnbondingBeginEvent, Program.bind_eq, Program.bind_assoc] at ran
  obtain ⟨_, _, ran⟩ := Program.run_lift_bind ran
  obtain ⟨_, _, ran⟩ := Program.run_lift_bind ran
  obtain ⟨_, _, ran⟩ := Program.run_lift_bind ran
  obtain ⟨_, _, ran⟩ := Program.run_lift_bind ran
  obtain ⟨application, found, ran, _⟩ := run_getApplication_bind ran
  obtain ⟨_, _, ran⟩ := Program.run_lift_bind ran
  refine handled_edit found byId ?_ ?_ ?_ (event_entersNothing (by simp [kind])) ran
  · rfl
  · rfl
  · rfl

/-- An unbonding that ends keeps status and stake. -/
theorem handleApplicationUnbondingEndEvent_handled (byId : StoredById Application.id table)
    {event : CosmosEvent} (kind : event.type = .applicationUnbondingEnd)
    (ran : (handleApplicationUnbondingEndEvent [event]).run table = .ok ((), after)) :
    Handled (.event event) table after := by
  rw [handleApplicationUnbondingEndEvent, handleAll_single] at ran
  simp only [_handleApplicationUnbondingEndEvent, Program.bind_eq, Program.bind_assoc] at ran
  obtain ⟨_, _, ran⟩ := Program.run_lift_bind ran
  obtain ⟨_, _, ran⟩ := Program.run_lift_bind ran
  obtain ⟨_, _, ran⟩ := Program.run_lift_bind ran
  obtain ⟨_, _, ran⟩ := Program.run_lift_bind ran
  obtain ⟨application, found, ran, _⟩ := run_getApplication_bind ran
  refine handled_edit found byId ?_ ?_ ?_ (event_entersNothing (by simp [kind])) ran
  · rfl
  · rfl
  · rfl

/-- A transfer that ends keeps the source's status and stake, and enters the destination. -/
theorem handleTransferApplicationEndEvent_handled (byId : StoredById Application.id table)
    {event : CosmosEvent} {source destination : String}
    (ends : TransferEnds (.event event) source destination)
    (ran : (handleTransferApplicationEndEvent [event]).run table = .ok ((), after)) :
    Handled (.event event) table after := by
  rw [handleTransferApplicationEndEvent, handleAll_single] at ran
  simp only [_handleTransferApplicationEndEvent, Program.bind_eq, Program.bind_assoc] at ran
  obtain ⟨sourceFound, readSource, ran⟩ := Program.run_lift_bind ran
  obtain ⟨destinationFound, readDestination, ran⟩ := Program.run_lift_bind ran
  obtain ⟨sourceText, requireSource, ran⟩ := Program.run_lift_bind ran
  obtain ⟨destinationText, requireDestination, ran⟩ := Program.run_lift_bind ran
  -- Whatever sides the event is said to have, they are the ones the handler reads.
  have sides : ∀ one other, TransferEnds (.event event) one other →
      sourceText = one ∧ destinationText = other := by
    rintro one other ⟨same, equal, names, _⟩
    cases equal
    have read := transferEnd_addresses names.consistent readSource readDestination requireSource
      requireDestination
    exact ⟨read.1, read.2.2⟩
  obtain ⟨rfl, rfl⟩ := sides source destination ends
  obtain ⟨_, equal, named, _⟩ := id ends
  cases equal
  rw [replaceQuotes_eq named.consistent.sourceAddress.2.2,
    replaceQuotes_eq named.consistent.destinationAddress.2.2] at ran
  simp only [Program.read_bind, Program.run] at ran
  cases foundSource : table.get sourceText with
  | none => simp [foundSource, Program.run] at ran
  | some application =>
    simp only [foundSource, Program.pure_eq, Program.done_bind, run_saveApplications] at ran
    cases ran
    refine ⟨_, rfl, ?_, ?_, ?_⟩
    · intro row member
      rcases List.mem_cons.mp member with rfl | later
      · -- The source's row keeps what reconciliation owns.
        have found := (congrArg table.get (byId _ _ foundSource)).trans foundSource
        exact Or.inl ⟨application, found, rfl, rfl⟩
      · rw [List.mem_singleton.mp later]
        -- A destination that was not stored is new, and received the transfer.
        cases foundDestination : table.get destinationText with
        | none => exact Or.inr (Or.inr ⟨foundDestination, sourceText, ends⟩)
        | some other =>
          have found := (congrArg table.get (byId _ _ foundDestination)).trans foundDestination
          exact Or.inl ⟨other, found, rfl, rfl⟩
    · intro id stakes
      cases stakes
    · intro one id other
      refine ⟨_, List.mem_cons_of_mem _ List.mem_cons_self, ?_⟩
      rw [← (sides one id other).2]
      cases foundDestination : table.get destinationText with
      | none => rfl
      | some stored =>
        have same := byId _ _ foundDestination
        exact same

/-- Handling a datum keeps status and stake, or enters the applications the datum names. -/
theorem handleApplicationDatum_handled (byId : StoredById Application.id table)
    (ends : ∀ event, datum = .event event → event.type = .applicationTransferEnd →
      ∃ source destination, TransferEnds datum source destination)
    (ran : (handleApplicationDatum datum).run table = .ok ((), after)) :
    Handled datum table after := by
  cases datum with
  | event event =>
    rw [handleApplicationDatum] at ran
    cases kind : event.type <;> simp only [kind, applicationEventHandler] at ran <;>
      try simp only [Program.run, reduceCtorEq] at ran
    · exact handleTransferApplicationBeginEvent_handled byId kind ran
    · obtain ⟨source, destination, ended⟩ := ends event rfl kind
      exact handleTransferApplicationEndEvent_handled byId ended ran
    · exact handleTransferApplicationErrorEvent_handled byId kind ran
    · exact handleApplicationUnbondingBeginEvent_handled byId kind ran
    · exact handleApplicationUnbondingEndEvent_handled byId kind ran
  | msg msg =>
    -- The records of a stake are dropped, and the table is kept.
    have dropped : ∀ {μ : Type} {program : ApplicationProgram μ},
        (program >>= fun _ => return ()).run table = .ok ((), after) →
          ∃ docs, program.run table = .ok (docs, after) := by
      intro μ program
      simp only [Program.bind_eq, Program.pure_eq]
      generalize table = table
      induction program generalizing table with
      | done value =>
        intro ran
        cases ran
        exact ⟨value, rfl⟩
      | fail error => intro ran; simp [Program.run] at ran
      | get key next ih => intro ran; exact ih _ table ran
      | save key row next ih => intro ran; exact ih _ ran
    rw [handleApplicationDatum] at ran
    cases kind : msg.decodedMsg <;> simp only [kind, applicationMsgHandler, Option.getD_some,
      Option.getD_none] at ran
    · obtain ⟨docs, ran⟩ := dropped ran
      exact handleAppMsgStake_handled kind ran
    · obtain ⟨docs, ran⟩ := dropped ran
      exact handleMsgClaimMorseApplication_handled kind ran
    · exact handleUnstakeApplicationMsg_handled byId kind ran
    · exact handleTransferApplicationMsg_handled byId kind ran
    · cases ran
      exact handled_nothing (msg_entersNothing (by simp [kind]) (by simp [kind]))
    · cases ran
      exact handled_nothing (msg_entersNothing (by simp [kind]) (by simp [kind]))
    -- The other messages have no handler.
    all_goals simp [Program.run] at ran

/-- The applications that data enter into a table. -/
def Entered (data : List StakeDatum) (table : Dict String Application) (id : String) : Prop :=
  (∃ datum ∈ data, Stakes datum id) ∨
    (table.get id = none ∧ ∃ datum ∈ data, ∃ source, TransferEnds datum source id)

/-- What handling data in order makes of a table. -/
structure HandledAll (order : List StakeDatum) (table after : Dict String Application) : Prop where
  byId : StoredById Application.id after
  kept : ∀ id app, after.get id = some app →
    (∃ old, table.get id = some old ∧ app.stakeStatus = old.stakeStatus ∧
      app.stakeAmount = old.stakeAmount) ∨ Entered order table id
  stored : ∀ id, table.get id ≠ none → after.get id ≠ none
  entered : ∀ datum ∈ order, ∀ id, (Stakes datum id ∨ ∃ source, TransferEnds datum source id) →
    after.get id ≠ none

/-- Handling data in order keeps status and stake, except for the applications it enters. -/
theorem runInOrder_handled {order : List StakeDatum} (byId : StoredById Application.id table)
    (ends : ∀ event, .event event ∈ order → event.type = .applicationTransferEnd →
      ∃ source destination, TransferEnds (.event event) source destination)
    (ran : runInOrder handleApplicationDatum order table = .ok after) :
    HandledAll order table after := by
  unfold runInOrder at ran
  induction order generalizing table with
  | nil =>
    cases ran
    exact ⟨byId, fun id app found => Or.inl ⟨app, found, rfl, rfl⟩, fun _ stored => stored,
      by simp⟩
  | cons datum rest ih =>
    rw [List.foldlM_cons] at ran
    obtain ⟨middle, one, ran⟩ := exceptBind_ok ran
    obtain ⟨⟨_, next⟩, first, same⟩ := exceptMap_ok one
    simp only at same
    subst same
    obtain ⟨rows, rfl, keeps⟩ := handleApplicationDatum_handled byId
      (fun event same kind => by
        subst same
        exact ends event List.mem_cons_self kind) first
    -- The rows of the first datum are stored under their ids.
    have nextId : StoredById Application.id (Dict.storeAll Application.id rows table) := by
      intro id row found
      rcases Dict.get_storeAll_cases found with ⟨_, named⟩ | ⟨_, before⟩
      · exact named
      · exact byId id row before
    have grows : ∀ id, table.get id ≠ none →
        (Dict.storeAll Application.id rows table).get id ≠ none :=
      fun id stored => Dict.get_storeAll_ne_none.mpr (Or.inr stored)
    have later := ih nextId (fun event member => ends event (List.mem_cons_of_mem _ member)) ran
    refine ⟨later.byId, ?_, fun id stored => later.stored id (grows id stored), ?_⟩
    · intro id app found
      rcases later.kept id app found with ⟨old, held, status, amount⟩ | enters | ⟨missing, enters⟩
      · rcases Dict.get_storeAll_cases held with ⟨member, rfl⟩ | ⟨_, before⟩
        · rcases keeps.kept old member with ⟨first, stored, same, equal⟩ | stakes | new
          · exact Or.inl ⟨first, stored, status.trans same, amount.trans equal⟩
          · exact Or.inr (Or.inl ⟨datum, List.mem_cons_self, stakes⟩)
          · exact Or.inr (Or.inr ⟨new.1, datum, List.mem_cons_self, new.2⟩)
        · exact Or.inl ⟨old, before, status, amount⟩
      · obtain ⟨other, member, stakes⟩ := enters
        exact Or.inr (Or.inl ⟨other, List.mem_cons_of_mem _ member, stakes⟩)
      · -- What is missing after the first datum was missing before it.
        obtain ⟨other, member, source, ended⟩ := enters
        refine Or.inr (Or.inr ⟨?_, other, List.mem_cons_of_mem _ member, source, ended⟩)
        by_contra stored
        exact grows id stored missing
    · intro other member id enters
      rcases List.mem_cons.mp member with rfl | inside
      · apply later.stored
        refine Dict.get_storeAll_ne_none.mpr (Or.inl ?_)
        rcases enters with stakes | ⟨source, ended⟩
        · exact keeps.staked id stakes
        · exact keeps.received source id ended
      · exact later.entered other inside id enters

end Handling

section Scheduled

variable {data : List StakeDatum} {types : List String}

/-- The scheduled data are those that succeeded. -/
theorem mem_successfulData {datum : StakeDatum} :
    datum ∈ successfulData data ↔ datum ∈ data ∧ datum.succeeded = true := by
  simp only [successfulData, filterEventsByTxStatus, filterMsgByTxStatus, List.partition_eq_filter_filter,
    List.mem_append, List.mem_map, List.mem_filter, List.mem_filterMap]
  constructor
  · rintro (⟨event, ⟨⟨other, member, same⟩, succeeded⟩, rfl⟩ | ⟨msg, ⟨⟨other, member, same⟩, succeeded⟩, rfl⟩)
    · cases other with
      | event found =>
        simp only [Option.some.injEq] at same
        subst same
        exact ⟨member, succeeded⟩
      | msg found => simp at same
    · cases other with
      | event found => simp at same
      | msg found =>
        simp only [Option.some.injEq] at same
        subst same
        exact ⟨member, succeeded⟩
  · rintro ⟨member, succeeded⟩
    cases datum with
    | event event => exact Or.inl ⟨event, ⟨⟨_, member, rfl⟩, succeeded⟩, rfl⟩
    | msg msg => exact Or.inr ⟨msg, ⟨⟨_, member, rfl⟩, succeeded⟩, rfl⟩

/-- The steps of a group's data are the data. -/
theorem flatten_map_steps (group : List StakeDatum) :
    (group.map (Task.actions ∘ Task.step)).flatten = group := by
  induction group with
  | nil => rfl
  | cons datum rest ih => exact congrArg (List.cons datum) ih

/-- A scheduled order holds exactly the successful data. -/
theorem scheduled_perm {getEntityIdArg : RecordGetId} {task : Task StakeDatum}
    {order : List StakeDatum}
    (addresses : ∀ datum ∈ successfulData data, ∀ id ∈ entityIds getEntityIdArg datum, IsAddress id)
    (built : indexStakeEntity Task.step data getEntityIdArg = .ok task) (run : Trace task order) :
    order.Perm (successfulData data) := by
  obtain ⟨groups, grouped, same⟩ := exceptBind_ok built
  cases same
  have free := indexStakeEntityGroups_conflictFree addresses grouped
  -- The steps of all groups are their data.
  have listed : (Task.all (groups.map fun group => Task.chain (group.map Task.step))).actions =
      groups.flatten := by
    rw [Task.actions_all, List.map_map]
    congr 1
    refine (List.map_congr_left fun group _ => ?_).trans (List.map_id _)
    rw [Function.comp_apply, Task.actions_chain, List.map_map]
    exact flatten_map_steps group
  exact (run.perm.trans (List.Perm.of_eq listed)).trans free.complete

end Scheduled

section Run

variable {height : ℕ} {chain next : Chain} {table after : Dict String Application}
variable {data : List StakeDatum} {reconcileEveryBlock : Bool}

/-- A datum after which applications are not reconciled leaves the chain as it is. -/
theorem ChainStep.idle {datum : StakeDatum} (step : ChainStep height chain datum next)
    (idle : datum.typeName ∉ APPLICATION_RECONCILE_MSG_TYPES ++ APPLICATION_RECONCILE_EVENT_TYPES) :
    next = chain := by
  -- The data that change the chain are of the types that call for a reconciliation.
  have event : ∀ {found : CosmosEvent} {type : EventType}, found.type = type →
      type.name ∈ APPLICATION_RECONCILE_EVENT_TYPES →
      StakeDatum.typeName (.event found) ∈
        APPLICATION_RECONCILE_MSG_TYPES ++ APPLICATION_RECONCILE_EVENT_TYPES := by
    rintro found type rfl listed
    exact List.mem_append_right _ listed
  have msg : ∀ {found : CosmosMessage} {decoded : DecodedMsg}, found.decodedMsg = decoded →
      decoded.typeUrl ∈ APPLICATION_RECONCILE_MSG_TYPES →
      StakeDatum.typeName (.msg found) ∈
        APPLICATION_RECONCILE_MSG_TYPES ++ APPLICATION_RECONCILE_EVENT_TYPES := by
    rintro found decoded rfl listed
    exact List.mem_append_left _ listed
  cases step with
  | failed => rfl
  | stake _ stakes =>
    cases stakes with
    | stake kind => exact absurd (msg kind (by simp [DecodedMsg.typeUrl,
        APPLICATION_RECONCILE_MSG_TYPES])) idle
    | claim kind => exact absurd (msg kind (by simp [DecodedMsg.typeUrl,
        APPLICATION_RECONCILE_MSG_TYPES])) idle
  | unstake _ kind => exact absurd (msg kind (by simp [DecodedMsg.typeUrl,
      APPLICATION_RECONCILE_MSG_TYPES])) idle
  | transfer _ kind => exact absurd (msg kind (by simp [DecodedMsg.typeUrl,
      APPLICATION_RECONCILE_MSG_TYPES])) idle
  | delegate => rfl
  | undelegate => rfl
  | transferBegin => rfl
  | unbondingBegin _ named => exact absurd (event named.kind (by decide)) idle
  | unbondingEnd _ named => exact absurd (event named.kind (by decide)) idle
  | transferEnd _ ends =>
    obtain ⟨found, rfl, named, _⟩ := ends
    exact absurd (event named.kind (by decide)) idle
  | transferError _ named => exact absurd (event named.kind (by decide)) idle
  -- Settlements are listed among the events too.
  | settle kind =>
    rename_i found id app stake here
    refine absurd (event rfl ?_) idle
    simp only [List.mem_cons, List.not_mem_nil, or_false] at kind
    rcases kind with same | same | same <;> rw [same] <;> decide
  | settleNothing => rfl

/-- A block without such data leaves the chain as it is. -/
theorem ChainRun.idle {allowed : Chain → StakeDatum → Prop}
    (run : ChainRun allowed height chain data next) (idle : hasAppChange data = false) :
    next = chain := by
  induction run with
  | done => rfl
  | @snoc before after data datum _ _ step ih =>
    simp only [hasAppChange, List.any_append, Bool.or_eq_false_iff] at idle
    rw [step.idle (by simpa using idle.2), ih idle.1]

/-- A succeeded transfer end of a block ends a transfer. -/
theorem ChainRun.transferEnds {allowed : Chain → StakeDatum → Prop}
    (run : ChainRun allowed height chain data next) {event : CosmosEvent}
    (member : .event event ∈ data) (succeeded : StakeDatum.succeeded (.event event) = true)
    (kind : event.type = .applicationTransferEnd) :
    ∃ source destination, TransferEnds (.event event) source destination := by
  induction run with
  | done => simp at member
  | @snoc before after data datum _ _ step ih =>
    rcases List.mem_append.mp member with inside | last
    · exact ih inside
    · rw [← List.mem_singleton.mp last] at step
      cases step with
      | failed failed => simp [failed] at succeeded
      | stake _ stakes => cases stakes
      | transferBegin named => simp [named.kind] at kind
      | unbondingBegin _ named => simp [named.kind] at kind
      | unbondingEnd _ named => simp [named.kind] at kind
      | transferEnd _ ends => exact ⟨_, _, ends⟩
      | transferError _ named => simp [named.kind] at kind
      | settle listed => simp [kind] at listed
      | settleNothing listed => simp [kind] at listed

/-- A datum that enters an application has a type that application rows are built from. -/
theorem typeName_of_enters {datum : StakeDatum} {id : String}
    (enters : Stakes datum id ∨ ∃ source, TransferEnds datum source id) :
    datum.typeName ∈ applicationTypes := by
  rcases enters with stakes | ⟨source, event, rfl, named, _⟩
  · cases stakes with
    | stake kind => simp [StakeDatum.typeName, kind, DecodedMsg.typeUrl, applicationTypes]
    | claim kind => simp [StakeDatum.typeName, kind, DecodedMsg.typeUrl, applicationTypes]
  · simp [StakeDatum.typeName, named.kind, EventType.name, applicationTypes]

/-- After a block whose transfers end for unbonding sources, the applications are reconciled. -/
theorem reconciled_block (tracked : Tracked chain table) (reconciled : Reconciled chain table)
    (run : ChainRun (SourceUnbonding height) height chain data next)
    (addresses : ∀ datum ∈ successfulData (dataOfTypes applicationTypes data),
      ∀ id ∈ entityIds applicationIds datum, IsAddress id)
    (indexed : IndexesApplications reconcileEveryBlock next.allApplications data table after) :
    Tracked next after ∧ Reconciled next after := by
  obtain ⟨task, order, handled, built, trace, ran, done⟩ := indexed
  have perm := scheduled_perm addresses built trace
  have scheduled : ∀ datum, datum ∈ order ↔
      (datum ∈ data ∧ datum.typeName ∈ applicationTypes) ∧ datum.succeeded = true := by
    intro datum
    rw [perm.mem_iff, mem_successfulData, mem_dataOfTypes]
  have handledAll := runInOrder_handled tracked.byId (fun event member kind =>
    run.transferEnds ((scheduled _).mp member).1.1 ((scheduled _).mp member).2 kind) ran
  have effect := run.effect
  -- Every application of the chain is stored by now.
  have stored : ∀ id, next.get id ≠ none → handled.get id ≠ none := by
    intro id present
    rcases effect.entered id present with before | ⟨datum, member, succeeded, enters⟩
    · exact handledAll.stored id (tracked.stored id before)
    · exact handledAll.entered datum
        ((scheduled datum).mpr ⟨⟨member, typeName_of_enters enters⟩, succeeded⟩) id enters
  -- An absent application has been closed out, or it is still stored as unstaking.
  have absent : ∀ id app, handled.get id = some app → next.get id = none →
      app.stakeStatus = .unstaking ∨ (app.stakeStatus = .unstaked ∧ app.stakeAmount = 0) := by
    intro id app found missing
    obtain ⟨unbonding, unstaked, unreceived⟩ := effect.dropped id missing
    rcases handledAll.kept id app found with ⟨old, held, status, amount⟩ | ⟨datum, member, stakes⟩ |
      ⟨new, datum, member, source, ended⟩
    · rw [status, amount]
      cases started : chain.get id with
      | none => exact Or.inr (reconciled.absent id old held started)
      | some first =>
        have equal := (reconciled.present id old first held started).2.2
        rw [OnchainApp.status, if_pos (unbonding first started)] at equal
        exact Or.inl equal
    · -- It was not staked in this block, as it is dropped at its end.
      have known := (scheduled datum).mp member
      exact absurd stakes (unstaked datum known.1.1 known.2)
    · -- Nor did it receive a transfer, as it is new.
      have known := (scheduled datum).mp member
      have started : chain.get id = none := by
        by_contra present
        exact tracked.stored id present new
      exact absurd ended (unreceived started datum known.1.1 known.2 source)
  by_cases changes : (hasAppChange data || reconcileEveryBlock) = true
  · -- Reconciled, every row is the old one, set as the chain has it, or closed out.
    rw [if_pos changes] at done
    obtain ⟨sound, kept⟩ := reconcileApplications_ok handledAll.byId done
    refine ⟨⟨?_, fun id present => kept id (stored id present)⟩, ⟨?_, ?_⟩⟩
    · intro id app found
      obtain ⟨old, held, row⟩ := sound id app found
      rcases row with ⟨_, _, rfl⟩ | ⟨_, _, rfl⟩ | ⟨_, _, rfl⟩
      · exact handledAll.byId id old held
      · exact handledAll.byId id old held
      · exact handledAll.byId id app held
    · intro id app onchain found present
      obtain ⟨old, held, row⟩ := sound id app found
      rcases row with ⟨same, here, rfl⟩ | ⟨missing, _⟩ | ⟨missing, _⟩
      · rw [present] at here
        cases here
        exact ⟨rfl, rfl, rfl⟩
      · rw [present] at missing
        cases missing
      · rw [present] at missing
        cases missing
    · intro id app found missing
      obtain ⟨old, held, row⟩ := sound id app found
      rcases row with ⟨same, here, rfl⟩ | ⟨_, _, rfl⟩ | ⟨_, status, rfl⟩
      · rw [missing] at here
        cases here
      · exact ⟨rfl, rfl⟩
      · exact (absent id app held missing).resolve_left status
  · -- Without reconciliation nothing has changed.
    rw [if_neg changes] at done
    cases done
    simp only [Bool.or_eq_true, not_or, Bool.not_eq_true] at changes
    have same := run.idle changes.1
    subst same
    -- A datum of applications would have called for a reconciliation.
    have nothing : order = [] := by
      apply List.eq_nil_iff_forall_not_mem.mpr
      intro datum member
      have known := (scheduled datum).mp member
      have idle := List.any_eq_false.mp changes.1 datum known.1.1
      simp only [decide_eq_true_eq] at idle
      refine idle ?_
      revert known
      simp only [applicationTypes, APPLICATION_RECONCILE_MSG_TYPES,
        APPLICATION_RECONCILE_EVENT_TYPES, List.mem_cons, List.mem_append, List.not_mem_nil]
      tauto
    subst nothing
    cases ran
    exact ⟨tracked, reconciled⟩

end Run

/-- In every run whose transfers end for unbonding sources, every state is reconciled. -/
theorem applications_reconciled {reconcileEveryBlock : Bool} {height : ℕ} {chain : Chain}
    {table : Dict String Application}
    (run : ApplicationRun SourceUnbonding reconcileEveryBlock height chain table) :
    Reconciled chain table := by
  -- What carries the induction is that all applications of the chain are stored.
  have invariant : Tracked chain table ∧ Reconciled chain table := by
    induction run with
    | start tracked reconciled => exact ⟨tracked, reconciled⟩
    | block _ _ chained addresses indexed ih =>
      exact reconciled_block ih.1 ih.2 chained addresses indexed
  exact invariant.2

/-- A block whose data form one group is handled in the order of that group. -/
theorem indexesApplications_group {chainApps : List ChainApplication}
    {data group : List StakeDatum} {table handled after : Dict String Application}
    (grouped : indexStakeEntityGroups (dataOfTypes applicationTypes data) applicationIds =
      .ok [group])
    (ran : runInOrder handleApplicationDatum group table = .ok handled)
    (changes : hasAppChange data = true)
    (reconciles : reconcileApplications chainApps handled = .ok after) :
    IndexesApplications false chainApps data table after := by
  have order : (Task.all [Task.chain (group.map Task.step)]).actions = group := by
    rw [Task.actions_all]
    simp only [List.map_cons, List.map_nil, List.flatten_cons, List.flatten_nil, List.append_nil,
      Task.actions_chain, List.map_map, flatten_map_steps]
  refine ⟨Task.all [Task.chain (group.map Task.step)], group, handled, ?_, ?_, ran, ?_⟩
  · simp only [indexStakeEntity, grouped, bind, Except.bind, pure, Except.pure, List.map_cons,
      List.map_nil]
  · have trace := Trace.actions (Task.all [Task.chain (group.map Task.step)])
    rwa [order] at trace
  · rw [changes]
    exact reconciles

/-- The transaction with a stake. -/
def stakeTx : CosmosTransaction := ⟨0, "S", 0, []⟩

/-- The transaction that begins a transfer. -/
def transferTx : CosmosTransaction := ⟨0, "T", 0, []⟩

/-- The stake of an application. -/
def stakeData : List StakeDatum :=
  [.msg ⟨0, 5, stakeTx, .stakeApplication ⟨"pokt1a", some ⟨"5", "upokt"⟩, []⟩⟩]

/-- The message that begins its transfer. -/
def transferMsg : CosmosMessage := ⟨0, 6, transferTx, .transferApplication ⟨"pokt1a", "pokt1b"⟩⟩

/-- The event that the message emits. -/
def transferBeginEvent : CosmosEvent :=
  ⟨0, 6, .transaction, .applicationTransferBegin,
    [⟨"source_address", "\"pokt1a\""⟩, ⟨"destination_address", "\"pokt1b\""⟩,
      ⟨"transfer_end_height", "\"7\""⟩], some transferTx, some transferMsg⟩

/-- The end of the transfer. -/
def transferEndEvent : CosmosEvent :=
  ⟨0, 7, .finalizeBlock, .applicationTransferEnd,
    [⟨"source_address", "\"pokt1a\""⟩, ⟨"destination_address", "\"pokt1b\""⟩], none, none⟩

/-- The application on the chain, with the destination of its transfer if there is one. -/
def fiveStaked (pendingTransfer : Option String) : OnchainApp := ⟨5, "upokt", none, pendingTransfer⟩

/-- The row of the staked application. -/
def fiveStakedRow : Application := {
  id := "pokt1a"
  accountId := "pokt1a"
  stakeAmount := 5
  stakeDenom := "upokt"
  stakeStatus := .staked }

/-- The chain and the table after the stake. -/
def stakedChain : Chain := Dict.empty.set "pokt1a" (fiveStaked none)

def stakedTable : Dict String Application := Dict.empty.set "pokt1a" fiveStakedRow

/-- The chain and the table while the transfer is pending. -/
def pendingChain : Chain := Dict.set stakedChain "pokt1a" (fiveStaked (some "pokt1b"))

def pendingTable : Dict String Application :=
  stakedTable.set "pokt1a"
    { fiveStakedRow with transferringToId := some "pokt1b", transferEndHeight := some 7 }

/-- The chain and the table after the transfer. -/
def transferredChain : Chain := Dict.set (Dict.erase pendingChain "pokt1a") "pokt1b" (fiveStaked none)

def transferredTable : Dict String Application :=
  (pendingTable.set "pokt1a"
    { fiveStakedRow with
      transferEndBlockId := some 7
      unstakingReason := some .transfer
      unstakingEndBlockId := some 7
      destinationApplicationId := some "pokt1b" }).set "pokt1b"
    { fiveStakedRow with
      id := "pokt1b"
      accountId := "pokt1b"
      sourceApplicationId := some "pokt1a"
      transferredFromAtId := some 7 }

/-- The events of a transfer name its two sides. -/
theorem transferEvent_consistent {event : CosmosEvent}
    (known : event = transferBeginEvent ∨ event = transferEndEvent) :
    ConsistentEvent event "pokt1a" "pokt1b" := by
  rcases known with rfl | rfl
  · exact {
      distinctKeys := by decide +kernel
      sourceAddress := by decide +kernel
      destinationAddress := by decide +kernel
      different := by decide +kernel
      flatSource := by decide +kernel
      jsonSource := by decide +kernel
      flatDestination := by decide +kernel
      jsonDestination := by decide +kernel
      message := by
        intro msg sent path listed id found
        cases sent
        simp only [List.mem_cons, List.not_mem_nil, or_false] at listed
        rcases listed with rfl | rfl
        · cases found
        · cases found
          rfl }
  · exact {
      distinctKeys := by decide +kernel
      sourceAddress := by decide +kernel
      destinationAddress := by decide +kernel
      different := by decide +kernel
      flatSource := by decide +kernel
      jsonSource := by decide +kernel
      flatDestination := by decide +kernel
      jsonDestination := by decide +kernel
      message := by
        intro msg sent
        cases sent }

/-- An application that is staked after the first block. -/
theorem staked_run {allowed : ℕ → Chain → StakeDatum → Prop}
    (allows : ∀ datum ∈ stakeData, allowed 5 Dict.empty datum) :
    ApplicationRun allowed false 5 stakedChain stakedTable := by
  have start : ApplicationRun allowed false 4 Dict.empty Dict.empty :=
    ApplicationRun.start ⟨by intro key row found; simp at found, by simp⟩ ⟨by simp, by simp⟩
  refine ApplicationRun.block start (by decide) ?_ (by decide +kernel)
    (@indexesApplications_group _ stakeData stakeData _ stakedTable _
      (ok_of_toOption (by decide +kernel)) (ok_of_toOption (by decide +kernel)) (by decide +kernel)
      (ok_of_toOption (by decide +kernel)))
  exact @ChainRun.snoc _ 5 _ _ _ [] _ ChainRun.done (allows _ (by simp [stakeData]))
    (ChainStep.stake rfl (@Stakes.stake _ ⟨"pokt1a", some ⟨"5", "upokt"⟩, []⟩ rfl) rfl)

/-- After an application was transferred it stays staked, although the chain dropped it. -/
theorem applications_stale_transfer :
    ∃ height chain table, ApplicationRun (fun _ _ _ => True) false height chain table ∧
      ¬ Reconciled chain table := by
  refine ⟨7, transferredChain, transferredTable, ?_, ?_⟩
  · have pending : ApplicationRun (fun _ _ _ => True) false 6 pendingChain pendingTable := by
      refine ApplicationRun.block (staked_run fun _ _ => trivial) (by decide) ?_
        (by decide +kernel)
        (@indexesApplications_group _ [.msg transferMsg, .event transferBeginEvent]
          [.msg transferMsg, .event transferBeginEvent] _ pendingTable _
          (ok_of_toOption (by decide +kernel)) (ok_of_toOption (by decide +kernel))
          (by decide +kernel) (ok_of_toOption (by decide +kernel)))
      have begun : ChainRun (fun _ _ => True) 6 stakedChain [.msg transferMsg] pendingChain :=
        @ChainRun.snoc _ 6 _ _ _ [] _ ChainRun.done trivial
          (@ChainStep.transfer 6 _ transferMsg ⟨"pokt1a", "pokt1b"⟩ (fiveStaked none) rfl rfl rfl)
      exact ChainRun.snoc begun trivial
        (ChainStep.transferBegin ⟨rfl, transferEvent_consistent (Or.inl rfl)⟩)
    refine ApplicationRun.block pending (by decide) ?_ (by decide +kernel)
      (@indexesApplications_group _ [.event transferEndEvent] [.event transferEndEvent] _
        transferredTable _ (ok_of_toOption (by decide +kernel))
        (ok_of_toOption (by decide +kernel)) (by decide +kernel)
        (ok_of_toOption (by decide +kernel)))
    refine @ChainRun.snoc _ 7 _ _ _ [] _ ChainRun.done trivial ?_
    refine ChainStep.transferEnd rfl ⟨transferEndEvent, rfl,
      ⟨rfl, transferEvent_consistent (Or.inr rfl)⟩, ⟨_, List.mem_cons_self, rfl⟩,
      Or.inl ⟨_, List.mem_cons_of_mem _ List.mem_cons_self, rfl⟩⟩ rfl rfl ?_
    intro begun began
    cases began
  · intro reconciled
    -- The source has left the chain with its transfer.
    have closed := (reconciled.absent "pokt1a" _ rfl (by decide +kernel)).1
    exact absurd closed (by decide +kernel)

/-- A staked application is stored with the chain's stake. -/
theorem applications_reconciled_stake : Reconciled stakedChain stakedTable := by
  refine @applications_reconciled false 5 stakedChain stakedTable (staked_run ?_)
  intro datum member source destination ends
  obtain ⟨event, rfl, _⟩ := ends
  simp [stakeData] at member

end Pocketdex
