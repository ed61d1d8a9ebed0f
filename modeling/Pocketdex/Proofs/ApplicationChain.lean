import Pocketdex.Proofs.IdGetters
import Pocketdex.Proofs.StakeSchedule

/-! The applications of a chain, as far as its messages and events constrain what is stored. -/

namespace Pocketdex

/-- An unbonding of the chain: the block it began in, and the session it waits for. -/
structure Unbonding where
  beganAt : ℕ
  sessionEndHeight : ℕ
  waits : 0 < sessionEndHeight
  deriving DecidableEq, Repr

/-- An application in the state of the chain. -/
structure OnchainApp where
  stake : ℕ
  denom : String
  unbonding : Option Unbonding
  pendingTransfer : Option String
  deriving DecidableEq, Repr

/-- The applications of the chain by address. -/
abbrev Chain := Dict String OnchainApp

/-- The answer of the chain to the query for all applications. -/
def Chain.allApplications (chain : Chain) : List ChainApplication :=
  chain.entries.map fun (address, app) =>
    ⟨address, some ⟨toString app.stake, app.denom⟩,
      (app.unbonding.map Unbonding.sessionEndHeight).getD 0⟩

/-- The stake status that an application of the chain has. -/
def OnchainApp.status (app : OnchainApp) : StakeStatus :=
  if app.unbonding.isSome then .unstaking else .staked

/-- Whether a datum belongs to a successful transaction or to no transaction. -/
def StakeDatum.succeeded : StakeDatum → Bool
  | .event emitted => match emitted.tx with
    | none => true
    | some tx => tx.code == 0
  | .msg sent => sent.tx.code == 0

/-- A datum stakes an application. -/
inductive Stakes : StakeDatum → String → Prop where
  | stake {msg : CosmosMessage} {decoded : MsgStakeApplication} :
      msg.decodedMsg = .stakeApplication decoded → Stakes (.msg msg) decoded.address
  | claim {msg : CosmosMessage} {decoded : MsgClaimMorseApplication} :
      msg.decodedMsg = .claimMorseApplication decoded → Stakes (.msg msg) decoded.shannonDestAddress

/-- An event of a type names its application, and a second one where it has one. -/
structure Names (event : CosmosEvent) (type : EventType) (source destination : String) : Prop where
  kind : event.type = type
  consistent : ConsistentEvent event source destination

/-- A transfer from one application to another ends, by an event that carries both addresses. -/
def TransferEnds (datum : StakeDatum) (source destination : String) : Prop :=
  ∃ event, datum = .event event ∧ Names event .applicationTransferEnd source destination ∧
    Carries event "source_address" ∧
      (Carries event "destination_address" ∨ Carries event "destination_application")

/-- What one datum of a block at a height does to the applications of the chain. -/
inductive ChainStep (height : ℕ) : Chain → StakeDatum → Chain → Prop where
  /-- A failed transaction changes nothing. -/
  | failed {chain : Chain} {datum : StakeDatum} :
      datum.succeeded = false → ChainStep height chain datum chain
  /-- Staking creates an application or renews it, which ends its unbonding. -/
  | stake {chain : Chain} {datum : StakeDatum} {id : String} {app : OnchainApp} :
      datum.succeeded = true → Stakes datum id → app.unbonding = none →
      ChainStep height chain datum (chain.set id app)
  /-- Unstaking begins an unbonding. -/
  | unstake {chain : Chain} {msg : CosmosMessage} {decoded : MsgUnstakeApplication}
      {app : OnchainApp} {begun : Unbonding} :
      StakeDatum.succeeded (.msg msg) = true → msg.decodedMsg = .unstakeApplication decoded →
      chain.get decoded.address = some app → app.unbonding = none → begun.beganAt = height →
      ChainStep height chain (.msg msg)
        (chain.set decoded.address { app with unbonding := some begun })
  /-- A transfer message leaves the transfer pending. -/
  | transfer {chain : Chain} {msg : CosmosMessage} {decoded : MsgTransferApplication}
      {app : OnchainApp} :
      StakeDatum.succeeded (.msg msg) = true → msg.decodedMsg = .transferApplication decoded →
      chain.get decoded.sourceAddress = some app →
      ChainStep height chain (.msg msg)
        (chain.set decoded.sourceAddress
          { app with pendingTransfer := some decoded.destinationAddress })
  /-- Delegations concern no stake. -/
  | delegate {chain : Chain} {msg : CosmosMessage} {decoded : MsgDelegateToGateway} :
      msg.decodedMsg = .delegateToGateway decoded → ChainStep height chain (.msg msg) chain
  | undelegate {chain : Chain} {msg : CosmosMessage} {decoded : MsgUndelegateFromGateway} :
      msg.decodedMsg = .undelegateFromGateway decoded → ChainStep height chain (.msg msg) chain
  /-- The event of a transfer that begins follows its message. -/
  | transferBegin {chain : Chain} {event : CosmosEvent} {source destination : String} :
      Names event .applicationTransferBegin source destination →
      ChainStep height chain (.event event) chain
  /-- An unbonding begins, or has begun with the message the event belongs to. -/
  | unbondingBegin {chain : Chain} {event : CosmosEvent} {id other : String} {app : OnchainApp}
      {begun : Unbonding} :
      StakeDatum.succeeded (.event event) = true →
      Names event .applicationUnbondingBegin id other → chain.get id = some app →
      begun.beganAt = height →
      ChainStep height chain (.event event)
        (chain.set id { app with unbonding := some (app.unbonding.getD begun) })
  /-- An unbonding that began in an earlier block ends, and the application is dropped. -/
  | unbondingEnd {chain : Chain} {event : CosmosEvent} {id other : String} {app : OnchainApp}
      {begun : Unbonding} :
      StakeDatum.succeeded (.event event) = true →
      Names event .applicationUnbondingEnd id other → chain.get id = some app →
      app.unbonding = some begun → begun.beganAt < height →
      ChainStep height chain (.event event) (chain.erase id)
  /-- A pending transfer ends: the source is dropped, the destination created or merged. -/
  | transferEnd {chain : Chain} {datum : StakeDatum} {source destination : String}
      {app merged : OnchainApp} :
      datum.succeeded = true → TransferEnds datum source destination →
      chain.get source = some app → app.pendingTransfer = some destination →
      (∀ begun, merged.unbonding = some begun → begun.beganAt < height →
        ∃ old, chain.get destination = some old ∧ old.unbonding = some begun) →
      ChainStep height chain datum ((chain.erase source).set destination merged)
  /-- A transfer that fails is no longer pending. -/
  | transferError {chain : Chain} {event : CosmosEvent} {source destination : String}
      {app : OnchainApp} :
      StakeDatum.succeeded (.event event) = true →
      Names event .applicationTransferError source destination → chain.get source = some app →
      ChainStep height chain (.event event) (chain.set source { app with pendingTransfer := none })
  /-- The settlement of relays may burn stake of an application. -/
  | settle {chain : Chain} {event : CosmosEvent} {id : String} {app : OnchainApp} {stake : ℕ} :
      event.type ∈ [.claimSettled, .applicationOverserviced, .applicationReimbursementRequest] →
      chain.get id = some app →
      ChainStep height chain (.event event) (chain.set id { app with stake := stake })
  | settleNothing {chain : Chain} {event : CosmosEvent} :
      event.type ∈ [.claimSettled, .applicationOverserviced, .applicationReimbursementRequest] →
      ChainStep height chain (.event event) chain

/-- What the data of a block do to the chain one after the other, each under a condition. -/
inductive ChainRun (allowed : Chain → StakeDatum → Prop) (height : ℕ) :
    Chain → List StakeDatum → Chain → Prop where
  | done {chain : Chain} : ChainRun allowed height chain [] chain
  | snoc {chain before after : Chain} {data : List StakeDatum} {datum : StakeDatum} :
      ChainRun allowed height chain data before → allowed before datum →
      ChainStep height before datum after → ChainRun allowed height chain (data ++ [datum]) after

/-- A stored application that agrees with the chain, or with its absence from the chain. -/
structure Reconciled (chain : Chain) (table : Dict String Application) : Prop where
  present : ∀ id app onchain, table.get id = some app → chain.get id = some onchain →
    app.stakeAmount = onchain.stake ∧ app.stakeDenom = onchain.denom ∧
      app.stakeStatus = onchain.status
  absent : ∀ id app, table.get id = some app → chain.get id = none →
    app.stakeStatus = .unstaked ∧ app.stakeAmount = 0

/-- The applications of the chain are stored, each under its own id. -/
structure Tracked (chain : Chain) (table : Dict String Application) : Prop where
  byId : StoredById Application.id table
  stored : ∀ id, chain.get id ≠ none → table.get id ≠ none

/-- What is stored after blocks at increasing heights, starting in agreement with the chain. -/
inductive ApplicationRun (allowed : ℕ → Chain → StakeDatum → Prop) (reconcileEveryBlock : Bool) :
    ℕ → Chain → Dict String Application → Prop where
  | start {height : ℕ} {chain : Chain} {table : Dict String Application} :
      Tracked chain table → Reconciled chain table →
      ApplicationRun allowed reconcileEveryBlock height chain table
  | block {last height : ℕ} {chain next : Chain} {table after : Dict String Application}
      {data : List StakeDatum} :
      ApplicationRun allowed reconcileEveryBlock last chain table → last < height →
      ChainRun (allowed height) height chain data next →
      (∀ datum ∈ successfulData (dataOfTypes applicationTypes data),
        ∀ id ∈ entityIds applicationIds datum, IsAddress id) →
      IndexesApplications reconcileEveryBlock next.allApplications data table after →
      ApplicationRun allowed reconcileEveryBlock height next after

/-- Every transfer that ends has a source whose unbonding began in an earlier block. -/
def SourceUnbonding (height : ℕ) (chain : Chain) (datum : StakeDatum) : Prop :=
  ∀ source destination, TransferEnds datum source destination →
    ∀ app, chain.get source = some app →
      ∃ begun, app.unbonding = some begun ∧ begun.beganAt < height

/-- A transfer end has one source and one destination. -/
theorem transferEnds_unique {datum : StakeDatum} {source destination one other : String}
    (ends : TransferEnds datum source destination) (also : TransferEnds datum one other) :
    source = one ∧ destination = other := by
  obtain ⟨event, rfl, named, ⟨entry, member, key⟩, carried⟩ := ends
  obtain ⟨_, same, names, _, _⟩ := also
  cases same
  refine ⟨?_, ?_⟩
  · rw [← named.consistent.flatSource entry member (by simp [key]),
      names.consistent.flatSource entry member (by simp [key])]
  · rcases carried with ⟨flat, inside, key⟩ | ⟨json, inside, key⟩
    · rw [← named.consistent.flatDestination flat inside key,
        names.consistent.flatDestination flat inside key]
    · -- Both are the address of the whole application.
      have first := named.consistent.jsonDestination json inside key
      rw [names.consistent.jsonDestination json inside key, Except.ok.injEq,
        Option.some.injEq] at first
      exact first.symm

/-- A datum stakes one application at most. -/
theorem stakes_unique {datum : StakeDatum} {id other : String} (stakes : Stakes datum id)
    (also : Stakes datum other) : id = other := by
  cases stakes with
  | stake same =>
    cases also with
    | stake equal => rw [same] at equal; cases equal; rfl
    | claim equal => rw [same] at equal; cases equal
  | claim same =>
    cases also with
    | stake equal => rw [same] at equal; cases equal
    | claim equal => rw [same] at equal; cases equal; rfl

/-- A datum that enters no application stakes none and ends no transfer. -/
def EntersNothing (datum : StakeDatum) : Prop :=
  (∀ id, ¬ Stakes datum id) ∧ ∀ source destination, ¬ TransferEnds datum source destination

/-- An event of another type than the end of a transfer enters nothing. -/
theorem event_entersNothing {event : CosmosEvent} (kind : event.type ≠ .applicationTransferEnd) :
    EntersNothing (.event event) := by
  refine ⟨fun id stakes => ?_, fun source destination ends => ?_⟩
  · cases stakes
  · obtain ⟨other, same, named, _⟩ := ends
    cases same
    exact kind named.kind

/-- A message that is no stake and no claim enters nothing. -/
theorem msg_entersNothing {msg : CosmosMessage}
    (noStake : ∀ decoded, msg.decodedMsg ≠ .stakeApplication decoded)
    (noClaim : ∀ decoded, msg.decodedMsg ≠ .claimMorseApplication decoded) :
    EntersNothing (.msg msg) := by
  refine ⟨fun id stakes => ?_, fun source destination ends => ?_⟩
  · cases stakes with
    | stake same => exact noStake _ same
    | claim same => exact noClaim _ same
  · obtain ⟨other, same, _⟩ := ends
    cases same

section Block

variable {height : ℕ} {start chain next : Chain} {datum : StakeDatum}

/-- What one datum can do to the application under an id. -/
structure StepEffect (height : ℕ) (chain : Chain) (datum : StakeDatum) (next : Chain) : Prop where
  dropped : ∀ id, next.get id = none → chain.get id = none ∨
    ∃ app begun, chain.get id = some app ∧ app.unbonding = some begun ∧ begun.beganAt < height
  left : ∀ id, next.get id = none → datum.succeeded = true →
    ¬ Stakes datum id ∧ ∀ source, ¬ TransferEnds datum source id
  older : ∀ id app begun, next.get id = some app → app.unbonding = some begun →
    begun.beganAt < height →
      (∃ before, chain.get id = some before ∧ before.unbonding = some begun) ∧
        (datum.succeeded = true → ¬ Stakes datum id)
  entered : ∀ id, next.get id ≠ none → chain.get id ≠ none ∨
    (datum.succeeded = true ∧ (Stakes datum id ∨ ∃ source, TransferEnds datum source id))

/-- A datum that changes nothing and enters nothing has no effect. -/
theorem StepEffect.unchanged (nothing : datum.succeeded = true → EntersNothing datum) :
    StepEffect height chain datum chain :=
  { dropped := fun _ missing => Or.inl missing
    left := fun id _ succeeded => ⟨(nothing succeeded).1 id, fun source => (nothing succeeded).2 source id⟩
    older := fun id app _ found began _ =>
      ⟨⟨app, found, began⟩, fun succeeded => (nothing succeeded).1 id⟩
    entered := fun _ present => Or.inl present }

/-- A datum that edits an application of the chain keeps the unbondings of earlier blocks. -/
theorem StepEffect.edited {key : String} {app edited : OnchainApp}
    (found : chain.get key = some app)
    (keeps : ∀ begun, edited.unbonding = some begun → begun.beganAt < height →
      app.unbonding = some begun)
    (nothing : EntersNothing datum) : StepEffect height chain datum (chain.set key edited) := by
  refine ⟨?_, ?_, ?_, ?_⟩
  · intro id missing
    rw [Dict.get_set] at missing
    split at missing
    · cases missing
    · exact Or.inl missing
  · exact fun id _ _ => ⟨nothing.1 id, fun source => nothing.2 source id⟩
  · intro id other begun here began earlier
    refine ⟨?_, fun _ => nothing.1 id⟩
    rw [Dict.get_set] at here
    split at here
    · rename_i same
      cases here
      exact ⟨app, same ▸ found, keeps begun began earlier⟩
    · exact ⟨other, here, began⟩
  · intro id present
    rw [Dict.get_set] at present
    split at present
    · rename_i same
      exact Or.inl (by rw [same, found]; exact Option.some_ne_none _)
    · exact Or.inl present

/-- What a step of the chain does to the application under each id. -/
theorem ChainStep.effect (step : ChainStep height chain datum next)
    (safe : SourceUnbonding height chain datum) : StepEffect height chain datum next := by
  cases step with
  | failed failed => exact StepEffect.unchanged fun succeeded => by simp [failed] at succeeded
  | @stake datum id app succeeded stakes fresh =>
    -- A staked application is on the chain and is not unbonding.
    refine ⟨?_, ?_, ?_, ?_⟩
    · intro other missing
      rw [Dict.get_set] at missing
      split at missing
      · cases missing
      · exact Or.inl missing
    · intro other missing _
      rw [Dict.get_set] at missing
      split at missing
      · cases missing
      · rename_i different
        refine ⟨fun also => different (stakes_unique also stakes), fun source ends => ?_⟩
        obtain ⟨event, same, _⟩ := ends
        subst same
        cases stakes
    · intro other found begun here began earlier
      rw [Dict.get_set] at here
      split at here
      · cases here
        rw [fresh] at began
        cases began
      · rename_i different
        exact ⟨⟨found, here, began⟩, fun _ also => different (stakes_unique also stakes)⟩
    · intro other present
      rw [Dict.get_set] at present
      split at present
      · rename_i same
        exact Or.inr ⟨succeeded, Or.inl (same ▸ stakes)⟩
      · exact Or.inl present
  | unstake succeeded kind found bonded began =>
    refine StepEffect.edited found (fun begun same earlier => ?_)
      (msg_entersNothing (by simp [kind]) (by simp [kind]))
    simp only [Option.some.injEq] at same
    subst same
    omega
  | transfer succeeded kind found =>
    exact StepEffect.edited found (fun _ same _ => same)
      (msg_entersNothing (by simp [kind]) (by simp [kind]))
  | delegate kind =>
    exact StepEffect.unchanged fun _ => msg_entersNothing (by simp [kind]) (by simp [kind])
  | undelegate kind =>
    exact StepEffect.unchanged fun _ => msg_entersNothing (by simp [kind]) (by simp [kind])
  | transferBegin named =>
    exact StepEffect.unchanged fun _ => event_entersNothing (by simp [named.kind])
  | @unbondingBegin event id other app first succeeded named found began =>
    refine StepEffect.edited found (fun begun same earlier => ?_)
      (event_entersNothing (by simp [named.kind]))
    -- An unbonding of this block did not begin earlier.
    cases unbonding : app.unbonding with
    | none =>
      simp only [unbonding, Option.getD_none, Option.some.injEq] at same
      subst same
      omega
    | some old =>
      simp only [unbonding, Option.getD_some, Option.some.injEq] at same
      rw [same]
  -- An ended unbonding drops the application, which was unbonding since an earlier block.
  | @unbondingEnd event id other app begun succeeded named found began earlier =>
    have nothing := @event_entersNothing event (by simp [named.kind])
    refine ⟨?_, fun id _ _ => ⟨nothing.1 id, fun source => nothing.2 source id⟩, ?_, ?_⟩
    · intro key missing
      rw [Dict.get_erase] at missing
      split at missing
      · rename_i same
        exact Or.inr ⟨app, begun, same ▸ found, began, earlier⟩
      · exact Or.inl missing
    · intro key kept since here began earlier
      rw [Dict.get_erase] at here
      split at here
      · cases here
      · exact ⟨⟨kept, here, began⟩, fun _ => nothing.1 key⟩
    · intro key present
      rw [Dict.get_erase] at present
      split at present
      · exact absurd rfl present
      · exact Or.inl present
  -- A transfer drops its source and enters its destination, which takes over the unbonding.
  | @transferEnd datum source destination app merged succeeded ends found pending inherits =>
    have noStake : ∀ id, ¬ Stakes datum id := by
      obtain ⟨event, rfl, _⟩ := ends
      exact fun id stakes => by cases stakes
    refine ⟨?_, ?_, ?_, ?_⟩
    · intro id missing
      rw [Dict.get_set, Dict.get_erase] at missing
      split at missing
      · cases missing
      · split at missing
        · -- The source was unbonding since an earlier block.
          rename_i same
          obtain ⟨begun, began, earlier⟩ := safe source destination ends app found
          exact Or.inr ⟨app, begun, same ▸ found, began, earlier⟩
        · exact Or.inl missing
    · intro id missing _
      refine ⟨noStake id, fun other also => ?_⟩
      rw [← (transferEnds_unique ends also).2, Dict.get_set_self] at missing
      cases missing
    · intro id kept begun here began earlier
      refine ⟨?_, fun _ => noStake id⟩
      rw [Dict.get_set, Dict.get_erase] at here
      split at here
      · rename_i same
        cases here
        exact same ▸ inherits begun began earlier
      · split at here
        · cases here
        · exact ⟨kept, here, began⟩
    · intro id present
      rw [Dict.get_set, Dict.get_erase] at present
      split at present
      · rename_i same
        exact Or.inr ⟨succeeded, Or.inr ⟨source, same ▸ ends⟩⟩
      · split at present
        · exact absurd rfl present
        · exact Or.inl present
  | transferError succeeded named found =>
    exact StepEffect.edited found (fun _ same _ => same)
      (event_entersNothing (by simp [named.kind]))
  | settle kind found =>
    refine StepEffect.edited found (fun _ same _ => same) (event_entersNothing fun same => ?_)
    simp [same] at kind
  | settleNothing kind =>
    refine StepEffect.unchanged fun _ => event_entersNothing fun same => ?_
    simp [same] at kind

/-- What the data of a block so far did to the chain the block started from. -/
structure BlockEffect (height : ℕ) (start : Chain) (data : List StakeDatum) (chain : Chain) :
    Prop where
  dropped : ∀ id, chain.get id = none →
    (∀ first, start.get id = some first → first.unbonding.isSome = true) ∧
      (∀ datum ∈ data, datum.succeeded = true → ¬ Stakes datum id) ∧
        (start.get id = none → ∀ datum ∈ data, datum.succeeded = true →
          ∀ source, ¬ TransferEnds datum source id)
  older : ∀ id app begun, chain.get id = some app → app.unbonding = some begun →
    begun.beganAt < height →
      (∃ first, start.get id = some first ∧ first.unbonding.isSome = true) ∧
        ∀ datum ∈ data, datum.succeeded = true → ¬ Stakes datum id
  entered : ∀ id, chain.get id ≠ none → start.get id ≠ none ∨
    ∃ datum ∈ data, datum.succeeded = true ∧
      (Stakes datum id ∨ ∃ source, TransferEnds datum source id)

/-- A block whose transfers end for unbonding sources drops unbonding applications only. -/
theorem ChainRun.effect {data : List StakeDatum}
    (run : ChainRun (SourceUnbonding height) height start data chain) :
    BlockEffect height start data chain := by
  -- The induction is on the data handled so far: the last step adds to their effect.
  induction run with
  | done =>
    refine ⟨fun id missing => ⟨fun first found => ?_, by simp, by simp⟩, ?_, ?_⟩
    · rw [missing] at found
      cases found
    · intro id app begun found began _
      exact ⟨⟨app, found, by simp [began]⟩, by simp⟩
    · exact fun id present => Or.inl present
  | @snoc before after data datum _ safe step ih =>
    have effect := step.effect safe
    refine ⟨?_, ?_, ?_⟩
    · -- An application is missing since before the last datum, or is dropped by it.
      intro id missing
      have left := effect.left id missing
      rcases effect.dropped id missing with absent | ⟨app, begun, found, began, earlier⟩
      · obtain ⟨unbonded, unstaked, unreceived⟩ := ih.dropped id absent
        refine ⟨unbonded, ?_, fun new => ?_⟩
        · rintro other member succeeded
          rcases List.mem_append.mp member with inside | last
          · exact unstaked other inside succeeded
          · rw [List.mem_singleton.mp last] at succeeded ⊢
            exact (left succeeded).1
        · rintro other member succeeded
          rcases List.mem_append.mp member with inside | last
          · exact unreceived new other inside succeeded
          · rw [List.mem_singleton.mp last] at succeeded ⊢
            exact (left succeeded).2
      · -- What is dropped now was unbonding when the block started.
        obtain ⟨⟨first, started, unbonding⟩, unstaked⟩ := ih.older id app begun found began earlier
        refine ⟨fun other same => ?_, ?_, fun new => ?_⟩
        · rw [started] at same
          cases same
          exact unbonding
        · rintro other member succeeded
          rcases List.mem_append.mp member with inside | last
          · exact unstaked other inside succeeded
          · rw [List.mem_singleton.mp last] at succeeded ⊢
            exact (left succeeded).1
        · rw [started] at new
          cases new
    · -- One that has been unbonding since before the block was not staked in it.
      intro id app begun found began earlier
      obtain ⟨⟨old, held, same⟩, fresh⟩ := effect.older id app begun found began earlier
      obtain ⟨first, unstaked⟩ := ih.older id old begun held same earlier
      refine ⟨first, ?_⟩
      rintro other member succeeded
      rcases List.mem_append.mp member with inside | last
      · exact unstaked other inside succeeded
      · rw [List.mem_singleton.mp last] at succeeded ⊢
        exact fresh succeeded
    · -- One that is present was there before, or some datum has entered it.
      intro id present
      rcases effect.entered id present with before | ⟨succeeded, enters⟩
      · rcases ih.entered id before with started | ⟨other, member, rest⟩
        · exact Or.inl started
        · exact Or.inr ⟨other, List.mem_append_left _ member, rest⟩
      · exact Or.inr ⟨datum, by simp, succeeded, enters⟩

end Block

end Pocketdex
