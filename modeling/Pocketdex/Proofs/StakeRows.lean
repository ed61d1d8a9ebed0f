import Pocketdex.Base.Pool
import Pocketdex.Handlers

/-! Rows of gateways and applications stay well formed while handlers run side by side. -/

namespace Pocketdex

/-- The stored row of a gateway: one that is unstaked holds no stake. -/
structure StoredGateway (id : String) (row : Gateway) : Prop where
  named : row.id = id
  account : row.accountId = id
  staked : row.stakeStatus = .staked →
    row.unstakingBeginBlockId = none ∧ row.unstakingEndBlockId = none
  unstaking : row.stakeStatus = .unstaking → row.unstakingBeginBlockId.isSome
  unstaked : row.stakeStatus = .unstaked → row.stakeAmount = 0 ∧ row.unstakingEndBlockId.isSome

/-- The stored row of an application: one that is unstaked holds no stake, and what it says about a
transfer that ended is complete on both sides. -/
structure StoredApplication (id : String) (row : Application) : Prop where
  named : row.id = id
  account : row.accountId = id
  unstaked : row.stakeStatus = .unstaked → row.stakeAmount = 0
  transferred : row.destinationApplicationId.isSome = row.transferEndBlockId.isSome
  received : row.sourceApplicationId.isSome = row.transferredFromAtId.isSome
  left : row.transferEndBlockId.isSome → row.unstakingEndBlockId.isSome
  reason : row.unstakingReason = some .transfer → row.transferEndBlockId.isSome

section

variable {ν : Type} (handle : StakeDatum → Program String String ν Unit)

/-- The handlers of a group of data, each of which is awaited before the next. -/
def handleGroup : List StakeDatum → Program String String ν Unit
  | [] => return ()
  | datum :: rest => do
    handle datum
    handleGroup rest

/-- The groups of a block's data as they begin to be handled side by side. -/
def blockPool (groups : List (List StakeDatum)) (table : Dict String ν) :
    Pool String String ν where
  programs := groups.map (handleGroup handle)
  table := table

/-- The tables that blocks leave: all data of a block are handled, and then its rows may be settled.
A block that fails leaves none of its rows, and may be attempted again. -/
inductive StakeRun (settles : Dict String ν → Dict String ν → Prop) (start : Dict String ν) :
    Dict String ν → Prop where
  | start : StakeRun settles start start
  | block {table handled after : Dict String ν} {groups : List (List StakeDatum)}
      {programs : List (Program String String ν Unit)} (earlier : StakeRun settles start table)
      (reached : (blockPool handle groups table).Reaches ⟨programs, handled⟩)
      (finished : ∀ program ∈ programs, program = .done ()) (settled : settles handled after) :
      StakeRun settles start after

/-- All rows of a table are well formed, and those of another one are still there. -/
structure StoredRows (stored : String → ν → Prop) (start table : Dict String ν) : Prop where
  rows : ∀ id row, table.get id = some row → stored id row
  kept : ∀ id, start.get id ≠ none → table.get id ≠ none

end

section

variable {ν : Type} {handle : StakeDatum → Program String String ν Unit}
  {settles : Dict String ν → Dict String ν → Prop} {stored : String → ν → Prop}
  {start table : Dict String ν}

/-- Handlers that keep rows well formed do so one after the other. -/
theorem handleGroup_keeps (keeps : ∀ datum, (handle datum).Keeps stored fun _ => True)
    (group : List StakeDatum) : (handleGroup handle group).Keeps stored fun _ => True := by
  induction group with
  | nil => exact trivial
  | cons datum rest ih => exact (keeps datum).bind fun _ _ => ih

/-- A step stores rows, and takes none away. -/
theorem Pool.Step.kept {pool next : Pool String String ν} (step : pool.Step next) {id : String}
    (present : pool.table.get id ≠ none) : next.table.get id ≠ none := by
  cases step with
  | get => exact present
  | save =>
    rw [Dict.get_set]
    split
    · exact Option.some_ne_none _
    · exact present

/-- While the groups of a block are handled, rows stay well formed, and all of them are kept. -/
theorem StoredRows.reached (keeps : ∀ datum, (handle datum).Keeps stored fun _ => True)
    (valid : StoredRows stored start table) {groups : List (List StakeDatum)}
    {pool : Pool String String ν} (reached : (blockPool handle groups table).Reaches pool) :
    StoredRows stored start pool.table := by
  -- Every group starts with the whole of its handlers still to run.
  have good : Pool.Good stored (blockPool handle groups table) := by
    refine ⟨valid.rows, fun program member => ?_⟩
    obtain ⟨group, -, rfl⟩ := List.mem_map.mp member
    exact handleGroup_keeps keeps group
  refine ⟨(Pool.Reaches.keeps reached good).rows, fun id present => ?_⟩
  have before : table.get id ≠ none := valid.kept id present
  -- No step takes a row away, whichever group it belongs to.
  clear good
  induction reached with
  | refl => exact before
  | tail _ step ih => exact step.kept ih

/-- In every run, rows are well formed at every point of every block. -/
theorem StakeRun.valid (keeps : ∀ datum, (handle datum).Keeps stored fun _ => True)
    (settled : ∀ handled after, settles handled after → StoredRows stored start handled →
      StoredRows stored start after)
    (begun : ∀ id row, start.get id = some row → stored id row)
    (run : StakeRun handle settles start table) : StoredRows stored start table := by
  induction run with
  | start => exact ⟨begun, fun _ present => present⟩
  | block _ reached _ ends ih =>
    -- The table of a block is reached from the one before it, and then settled.
    exact settled _ _ ends (ih.reached keeps reached)

end

/-- A gateway that must be stored is read as a well formed row. -/
theorem getGateway_keeps (id message : String) :
    (getGateway id message).Keeps StoredGateway (StoredGateway id) := by
  refine (Program.Keeps.read id).bind fun row known => ?_
  cases row with
  | none => exact trivial
  | some gateway => exact known gateway rfl

/-- A gateway that is unstaked gives up its stake. -/
theorem StoredGateway.unstake {id : String} {gateway : Gateway} (valid : StoredGateway id gateway)
    (block : Int) : StoredGateway gateway.id { gateway with
      unstakingEndBlockId := some block
      stakeStatus := .unstaked
      stakeAmount := 0 } where
  named := rfl
  account := valid.account.trans valid.named.symm
  staked := fun other => by cases other
  unstaking := fun other => by cases other
  unstaked := fun _ => ⟨rfl, rfl⟩

/-- Staking starts the row anew. -/
theorem _handleGatewayMsgStake_keeps (decoded : MsgStakeGateway) :
    (_handleGatewayMsgStake decoded).Keeps StoredGateway fun _ => True := by
  -- What was stored of the gateway before is not read.
  refine Program.Keeps.lift_bind fun stake _ => ?_
  refine Program.Keeps.lift_bind fun stakeAmount _ => ?_
  exact Program.Keeps.write {
    named := rfl
    account := rfl
    staked := fun _ => ⟨rfl, rfl⟩
    unstaking := fun other => by cases other
    unstaked := fun other => by cases other }

/-- An unstake message notes the block it came in. -/
theorem _handleGatewayMsgUnstake_keeps (msg : CosmosMessage) (decoded : MsgUnstakeGateway) :
    (_handleGatewayMsgUnstake msg decoded).Keeps StoredGateway fun _ => True := by
  refine (getGateway_keeps _ _).bind fun gateway valid => ?_
  exact Program.Keeps.write {
    named := rfl
    account := valid.account.trans valid.named.symm
    staked := fun other => by cases other
    unstaking := fun _ => rfl
    unstaked := fun other => by cases other }

/-- The handlers of gateway events keep rows well formed. -/
theorem gatewayEventHandler_keeps {type : EventType} {handler : CosmosEvent → GatewayProgram Unit}
    (found : gatewayEventHandler type = some handler) (event : CosmosEvent) :
    (handler event).Keeps StoredGateway fun _ => True := by
  unfold gatewayEventHandler at found
  split at found <;> cases found
  · refine Program.Keeps.lift_bind fun _ _ => ?_
    refine Program.Keeps.lift_bind fun _ _ => ?_
    exact (getGateway_keeps _ _).bind fun gateway valid => Program.Keeps.write (valid.unstake _)
  · refine Program.Keeps.lift_bind fun _ _ => ?_
    -- The height that an unbonding ends at says nothing about the stake.
    refine (getGateway_keeps _ _).bind fun gateway valid => Program.Keeps.write ?_
    exact { valid with named := rfl, account := valid.account.trans valid.named.symm }
  · refine Program.Keeps.lift_bind fun _ _ => ?_
    exact (getGateway_keeps _ _).bind fun gateway valid => Program.Keeps.write (valid.unstake _)

/-- The handlers of gateways keep rows well formed. -/
theorem handleGatewayDatum_keepsStored (datum : StakeDatum) :
    (handleGatewayDatum datum).Keeps StoredGateway fun _ => True := by
  cases datum with
  | msg sent =>
    unfold handleGatewayDatum gatewayMsgHandler
    dsimp only
    cases sent.decodedMsg with
    | stakeGateway decoded => exact _handleGatewayMsgStake_keeps decoded
    | unstakeGateway decoded => exact _handleGatewayMsgUnstake_keeps sent decoded
    | _ => exact trivial
  | event emitted =>
    unfold handleGatewayDatum
    dsimp only
    cases found : gatewayEventHandler emitted.type with
    | none => exact trivial
    | some handler => exact gatewayEventHandler_keeps found emitted

/-- A stored application is well formed under its own id. -/
theorem StoredApplication.self {id : String} {app : Application} (valid : StoredApplication id app) :
    StoredApplication app.id app :=
  { valid with named := rfl, account := valid.account.trans valid.named.symm }

/-- An application that must be stored is read as a well formed row. -/
theorem getApplication_keeps (id message : String) :
    (getApplication id message).Keeps StoredApplication fun app => StoredApplication app.id app := by
  refine (Program.Keeps.read id).bind fun row known => ?_
  cases row with
  | none => exact trivial
  | some app => exact (known app rfl).self

/-- Storing well formed applications keeps all rows well formed. -/
theorem saveApplications_keeps {apps : List Application}
    (valid : ∀ app ∈ apps, StoredApplication app.id app) :
    (saveApplications apps).Keeps StoredApplication fun _ => True := by
  induction apps with
  | nil => exact trivial
  | cons app rest ih =>
    obtain ⟨first, others⟩ := List.forall_mem_cons.mp valid
    exact (Program.Keeps.write first).bind fun _ _ => ih others

/-- Rows that each datum leaves well formed are stored well formed. -/
theorem handleAll_keeps {δ : Type} {handleOne : δ → ApplicationProgram (List Application)}
    (each : ∀ item, (handleOne item).Keeps StoredApplication
      fun apps => ∀ app ∈ apps, StoredApplication app.id app) (data : List δ) :
    (handleAll handleOne data).Keeps StoredApplication fun _ => True := by
  refine (Program.Keeps.mapM each data).bind fun applications valid => ?_
  -- A row that is saved is one that some datum has left.
  refine saveApplications_keeps fun app member => ?_
  obtain ⟨apps, listed, inside⟩ := List.mem_flatten.mp member
  exact valid apps listed app inside

/-- Staking starts the row anew, but for a transfer that is pending. -/
theorem _stakeApplication_keeps (address msgId : String) (services : List ApplicationServiceConfig)
    (stakeAmount : Int) (stakeDenom : String) :
    (_stakeApplication address msgId services stakeAmount stakeDenom).Keeps StoredApplication
      fun rows => StoredApplication rows.1.id rows.1 := by
  -- Of the row before only a pending transfer and its end are taken over.
  refine (Program.Keeps.read address).bind fun prevApp _ => ?_
  exact {
    named := rfl
    account := rfl
    unstaked := fun other => by cases other
    transferred := rfl
    received := rfl
    left := fun other => by cases other
    reason := fun other => by cases other }

/-- Stakes are stored as well formed rows. -/
theorem collectStakes_keeps {δ μ : Type} {handleOne : δ → ApplicationProgram (μ × Application ×
      List MsgServiceProps × List ApplicationServiceProps)}
    (each : ∀ item, (handleOne item).Keeps StoredApplication
      fun rows => StoredApplication rows.2.1.id rows.2.1) (messages : List δ) :
    (collectStakes handleOne messages).Keeps StoredApplication fun _ => True := by
  refine (Program.Keeps.mapM each messages).bind fun rows valid => ?_
  refine (saveApplications_keeps fun app member => ?_).bind fun _ _ => trivial
  obtain ⟨row, listed, rfl⟩ := List.mem_map.mp member
  exact valid row listed

/-- A stake message leaves a well formed row. -/
theorem _handleAppMsgStake_keeps (msg : CosmosMessage) (decoded : MsgStakeApplication) :
    (_handleAppMsgStake msg decoded).Keeps StoredApplication
      fun rows => StoredApplication rows.2.1.id rows.2.1 := by
  refine Program.Keeps.lift_bind fun stakeAmount _ => ?_
  exact (_stakeApplication_keeps _ _ _ _ _).bind fun rows valid => valid

/-- So does a Morse claim. -/
theorem _handleMsgClaimMorseApplication_keeps (msg : CosmosMessage)
    (decoded : MsgClaimMorseApplication) :
    (_handleMsgClaimMorseApplication msg decoded).Keeps StoredApplication
      fun rows => StoredApplication rows.2.1.id rows.2.1 := by
  refine Program.Keeps.lift_bind fun stakeCoin _ => ?_
  refine Program.Keeps.lift_bind fun balanceCoin _ => ?_
  refine (Program.Keeps.read _).bind fun app _ => ?_
  refine Program.Keeps.lift_bind fun stakeAmount _ => ?_
  refine Program.Keeps.lift_bind fun balanceAmount _ => ?_
  refine Program.Keeps.lift_bind fun services _ => ?_
  exact (_stakeApplication_keeps _ _ _ _ _).bind fun rows valid => valid

/-- The handlers of application messages keep rows well formed. -/
theorem applicationMsgHandler_keeps {msg : CosmosMessage} {program : ApplicationProgram Unit}
    (found : applicationMsgHandler msg = some program) :
    program.Keeps StoredApplication fun _ => True := by
  have single : ∀ {app : Application}, StoredApplication app.id app →
      ∀ other ∈ [app], StoredApplication other.id other := by
    intro app valid other member
    exact List.mem_singleton.mp member ▸ valid
  unfold applicationMsgHandler at found
  split at found <;> cases found
  · exact (collectStakes_keeps (fun _ => _handleAppMsgStake_keeps _ _) _).bind fun _ _ => trivial
  · exact (collectStakes_keeps (fun _ => _handleMsgClaimMorseApplication_keeps _ _) _).bind
      fun _ _ => trivial
  · refine handleAll_keeps (fun item => ?_) _
    exact (getApplication_keeps _ _).bind fun app valid => single { valid with }
  · refine handleAll_keeps (fun item => ?_) _
    exact (getApplication_keeps _ _).bind fun app valid => single { valid with }
  · exact trivial
  · exact trivial

/-- Events of unbondings are decoded to other reasons than a transfer. -/
theorem getAppUnbondingReasonFromSDK_ne {item : Int} {reason : ApplicationUnbondingReason}
    (decoded : getAppUnbondingReasonFromSDK item = .ok reason) : reason ≠ .transfer := by
  unfold getAppUnbondingReasonFromSDK at decoded
  rintro rfl
  split at decoded
  · cases decoded
  · split at decoded
    · cases decoded
    · split at decoded <;> cases decoded

/-- A transfer that ends leaves both rows well formed. -/
theorem _handleTransferApplicationEndEvent_keeps (event : CosmosEvent) :
    (_handleTransferApplicationEndEvent event).Keeps StoredApplication
      fun apps => ∀ app ∈ apps, StoredApplication app.id app := by
  unfold _handleTransferApplicationEndEvent
  refine Program.Keeps.lift_bind fun source _ => ?_
  refine Program.Keeps.lift_bind fun destination _ => ?_
  refine Program.Keeps.lift_bind fun sourceAddress _ => ?_
  refine Program.Keeps.lift_bind fun destinationAddress _ => ?_
  refine (Program.Keeps.read _).bind fun sourceRow known => ?_
  refine (Program.Keeps.read _).bind fun destinationRow stored => ?_
  cases sourceRow with
  | none =>
    -- Without a source row the event fails, and stores nothing.
    exact trivial
  | some app =>
    have valid := (known app rfl).self
    refine List.forall_mem_cons.mpr ⟨{ valid with
      transferred := rfl
      left := fun _ => rfl
      reason := fun _ => rfl }, ?_⟩
    refine List.forall_mem_cons.mpr ⟨?_, fun other member => absurd member List.not_mem_nil⟩
    cases destinationRow with
    | none =>
      -- The destination is new, with the stake of the source.
      exact {
        named := rfl
        account := rfl
        unstaked := fun other => by cases other
        transferred := rfl
        received := rfl
        left := fun other => by cases other
        reason := fun other => by cases other }
    | some other =>
      -- A stored destination keeps the end of an unbonding of its own, if there was one.
      have before := (stored other rfl).self
      refine { before with received := rfl, left := fun ended => ?_ }
      have unbonded := before.left ended
      show (other.unstakingEndBlockId.orElse _).isSome
      rw [Option.isSome_iff_exists] at unbonded
      obtain ⟨block, known⟩ := unbonded
      rw [known]
      rfl

/-- The handlers of application events keep rows well formed. -/
theorem applicationEventHandler_keeps {type : EventType}
    {handler : List CosmosEvent → ApplicationProgram Unit}
    (found : applicationEventHandler type = some handler) (events : List CosmosEvent) :
    (handler events).Keeps StoredApplication fun _ => True := by
  have single : ∀ {app : Application}, StoredApplication app.id app →
      ∀ other ∈ [app], StoredApplication other.id other := by
    intro app valid other member
    exact List.mem_singleton.mp member ▸ valid
  unfold applicationEventHandler at found
  split at found <;> cases found
  · refine handleAll_keeps (fun event => ?_) _
    unfold _handleTransferApplicationBeginEvent
    refine Program.Keeps.lift_bind fun endHeight _ => ?_
    refine Program.Keeps.lift_bind fun sourceAddress _ => ?_
    refine (getApplication_keeps _ _).bind fun app valid => ?_
    -- Whatever the height is read as, it says nothing about the stake.
    generalize readHeight endHeight = height
    refine Program.Keeps.lift_bind fun height _ => ?_
    exact single { valid with }
  · exact handleAll_keeps _handleTransferApplicationEndEvent_keeps _
  · refine handleAll_keeps (fun event => ?_) _
    unfold _handleTransferApplicationErrorEvent
    refine Program.Keeps.lift_bind fun source _ => ?_
    refine Program.Keeps.lift_bind fun destination _ => ?_
    refine Program.Keeps.lift_bind fun error _ => ?_
    refine Program.Keeps.lift_bind fun sourceAddress _ => ?_
    refine Program.Keeps.lift_bind fun _ _ => ?_
    refine Program.Keeps.lift_bind fun _ _ => ?_
    exact (getApplication_keeps _ _).bind fun app valid => single { valid with }
  · refine handleAll_keeps (fun event => ?_) _
    unfold _handleApplicationUnbondingBeginEvent
    refine Program.Keeps.lift_bind fun address _ => ?_
    refine Program.Keeps.lift_bind fun heights _ => ?_
    refine Program.Keeps.lift_bind fun item _ => ?_
    refine Program.Keeps.lift_bind fun named _ => ?_
    refine (getApplication_keeps _ _).bind fun app valid => ?_
    refine Program.Keeps.lift_bind fun reason decoded => ?_
    -- The reason is not the one that only transfers record.
    have other := getAppUnbondingReasonFromSDK_ne decoded
    exact single { valid with reason := fun same => absurd (Option.some.inj same) other }
  · refine handleAll_keeps (fun event => ?_) _
    unfold _handleApplicationUnbondingEndEvent
    refine Program.Keeps.lift_bind fun address _ => ?_
    refine Program.Keeps.lift_bind fun heights _ => ?_
    refine Program.Keeps.lift_bind fun item _ => ?_
    refine Program.Keeps.lift_bind fun named _ => ?_
    refine (getApplication_keeps _ _).bind fun app valid => ?_
    -- The block an unbonding ends in is stored, so a transfer that ended has one.
    exact single { valid with left := fun _ => rfl }

/-- The handlers of applications keep rows well formed. -/
theorem handleApplicationDatum_keepsStored (datum : StakeDatum) :
    (handleApplicationDatum datum).Keeps StoredApplication fun _ => True := by
  cases datum with
  | msg sent =>
    unfold handleApplicationDatum
    dsimp only
    cases found : applicationMsgHandler sent with
    | none => exact trivial
    | some program => exact applicationMsgHandler_keeps found
  | event emitted =>
    unfold handleApplicationDatum
    dsimp only
    cases found : applicationEventHandler emitted.type with
    | none => exact trivial
    | some handler => exact applicationEventHandler_keeps found [emitted]

/-- Rows that are brought in line with the chain stay well formed. -/
theorem syncApplication_stored {app synced : Application} {ca : ChainApplication}
    (valid : StoredApplication app.id app) (ran : syncApplication app ca = .ok synced) :
    StoredApplication synced.id synced := by
  -- Only the stake and the status are taken over from the chain.
  have edited : ∃ stakeAmount stakeDenom, synced = { app with
      stakeAmount := stakeAmount
      stakeDenom := stakeDenom
      stakeStatus := if ca.unstakeSessionEndHeight > 0 then .unstaking else .staked } := by
    unfold syncApplication at ran
    cases stake : ca.stake with
    | none =>
      rw [stake] at ran
      exact ⟨_, _, (Except.ok.inj ran).symm⟩
    | some coin =>
      rw [stake] at ran
      obtain ⟨stakeAmount, -, ran⟩ := exceptBind_ok ran
      exact ⟨_, _, (Except.ok.inj ran).symm⟩
  obtain ⟨stakeAmount, stakeDenom, rfl⟩ := edited
  refine { valid with unstaked := fun status => ?_ }
  -- Whatever the chain returns is not unstaked.
  dsimp only at status
  split at status <;> cases status

/-- All rows that the chain returns are. -/
theorem syncReturned_stored {table : Dict String Application}
    (rows : ∀ id row, table.get id = some row → StoredApplication id row)
    {chainApps : List ChainApplication} {returned : List Application}
    (ran : syncReturned table chainApps = .ok returned) :
    ∀ app ∈ returned, StoredApplication app.id app := by
  induction chainApps generalizing returned with
  | nil =>
    cases ran
    exact fun app member => absurd member List.not_mem_nil
  | cons ca rest ih =>
    -- An application that is not stored is left out.
    rw [syncReturned] at ran
    split at ran
    · exact ih ran
    · rename_i app found
      obtain ⟨synced, first, ran⟩ := exceptBind_ok ran
      obtain ⟨later, others, ran⟩ := exceptBind_ok ran
      cases ran
      exact List.forall_mem_cons.mpr
        ⟨syncApplication_stored (rows _ _ found).self first, ih others⟩

/-- Reconciling keeps rows well formed, and takes none away. -/
theorem reconcileApplications_stored {chainApps : List ChainApplication}
    {start table after : Dict String Application}
    (ran : reconcileApplications chainApps table = .ok after)
    (valid : StoredRows StoredApplication start table) :
    StoredRows StoredApplication start after := by
  unfold reconcileApplications at ran
  obtain ⟨returned, synced, upserted⟩ := exceptBind_ok ran
  have first := syncReturned_stored valid.rows synced
  -- Those the chain does not return are stored ones, which lose their stake.
  have closed : ∀ seen : List String, ∀ app ∈ closeOutAbsent seen
      (fetchAllApplicationByStatus table .staked ++ fetchAllApplicationByStatus table .unstaking),
      StoredApplication app.id app := by
    intro seen app member
    obtain ⟨old, listed, rfl⟩ := List.mem_map.mp member
    have stored : old ∈ table.values := by
      rcases List.mem_append.mp (List.mem_filter.mp listed).1 with staked | unstaking
      · exact (List.mem_filter.mp staked).1
      · exact (List.mem_filter.mp unstaking).1
    obtain ⟨id, found⟩ := Dict.mem_values.mp stored
    exact { (valid.rows id old found).self with unstaked := fun _ => rfl }
  have each : ∀ app ∈ returned ++ closeOutAbsent (chainApps.map ChainApplication.address)
      (fetchAllApplicationByStatus table .staked ++ fetchAllApplicationByStatus table .unstaking),
      StoredApplication app.id app := by
    intro app member
    rcases List.mem_append.mp member with early | late
    · exact first app early
    · exact closed _ app late
  cases upserted
  -- The rows are stored one after the other, each under its own id.
  generalize returned ++ closeOutAbsent _ _ = toUpsert at each
  clear ran synced first closed
  induction toUpsert generalizing table with
  | nil => exact valid
  | cons app rest ih =>
    obtain ⟨own, others⟩ := List.forall_mem_cons.mp each
    refine ih ⟨fun id row stored => ?_, fun id present => ?_⟩ others
    · rw [Dict.get_set] at stored
      split at stored
      · rename_i same
        cases stored
        exact same ▸ own
      · exact valid.rows id row stored
    · rw [Dict.get_set]
      split
      · exact Option.some_ne_none _
      · exact valid.kept id present

/-- Rows of applications are settled by reconciling them with what the chain returns, or not at all. -/
def SettlesApplications (handled after : Dict String Application) : Prop :=
  (∃ chainApps, reconcileApplications chainApps handled = .ok after) ∨ after = handled

/-- Whatever messages and events blocks hold, and in whatever order the reads and writes of their
handlers follow each other, every gateway that is stored is well formed at every point of every block,
and no gateway is lost. -/
theorem gatewayRows_stored (start table : Dict String Gateway)
    (begun : ∀ id row, start.get id = some row → StoredGateway id row)
    (run : StakeRun handleGatewayDatum Eq start table) (groups : List (List StakeDatum))
    (pool : Pool String String Gateway)
    (reached : (blockPool handleGatewayDatum groups table).Reaches pool) :
    StoredRows StoredGateway start pool.table := by
  have settled : ∀ handled after : Dict String Gateway, handled = after →
      StoredRows StoredGateway start handled → StoredRows StoredGateway start after :=
    fun _ _ same valid => same ▸ valid
  exact (run.valid handleGatewayDatum_keepsStored settled begun).reached
    handleGatewayDatum_keepsStored reached

/-- A staked gateway and a staked application. -/
def stakedGateway : Gateway where
  id := "pokt1g"
  accountId := "pokt1g"
  stakeAmount := 5
  stakeDenom := "upokt"
  stakeStatus := .staked

def stakedApplication : Application where
  id := "pokt1a"
  accountId := "pokt1a"
  stakeAmount := 5
  stakeDenom := "upokt"
  stakeStatus := .staked

/-- A message that unstakes the gateway, or the application. -/
def unstakeMsg (decodedMsg : DecodedMsg) : StakeDatum := .msg ⟨0, 6, ⟨0, "U", 0, []⟩, decodedMsg⟩

/-- Both are well formed rows. -/
theorem stakedGateway_stored : StoredGateway "pokt1g" stakedGateway where
  named := rfl
  account := rfl
  staked := fun _ => ⟨rfl, rfl⟩
  unstaking := fun other => by cases other
  unstaked := fun other => by cases other

theorem stakedApplication_stored : StoredApplication "pokt1a" stakedApplication where
  named := rfl
  account := rfl
  unstaked := fun other => by cases other
  transferred := rfl
  received := rfl
  left := fun other => by cases other
  reason := fun other => by cases other

/-- A table of one row is well formed when the row is. -/
theorem stored_singleton {ν : Type} {stored : String → ν → Prop} {key : String} {row : ν}
    (valid : stored key row) :
    ∀ id other, (Dict.empty.set key row).get id = some other → stored id other := by
  intro id other found
  rw [Dict.get_set] at found
  split at found
  · rename_i same
    cases found
    exact same ▸ valid
  · cases found

/-- The gateway is read and stored again while it is unstaked. -/
theorem gatewayRows_stored_unstake :
    StoredRows StoredGateway (Dict.empty.set "pokt1g" stakedGateway)
      ((Dict.empty.set "pokt1g" stakedGateway).set "pokt1g" { stakedGateway with
        stakeStatus := .unstaking
        unstakingBeginBlockId := some 6 }) := by
  refine gatewayRows_stored _ _ (stored_singleton stakedGateway_stored) .start
    [[unstakeMsg (.unstakeGateway ⟨"pokt1g"⟩)]] ⟨[.done ()], _⟩ ?_
  exact (Relation.ReflTransGen.single (@Pool.Step.get _ _ _ _ [] [] _ _ _)).tail
    (@Pool.Step.save _ _ _ _ [] [] _ _ _ _)

/-- The same holds of applications, with or without reconciling them at the end of blocks. -/
theorem applicationRows_stored (start table : Dict String Application)
    (begun : ∀ id row, start.get id = some row → StoredApplication id row)
    (run : StakeRun handleApplicationDatum SettlesApplications start table)
    (groups : List (List StakeDatum)) (pool : Pool String String Application)
    (reached : (blockPool handleApplicationDatum groups table).Reaches pool) :
    StoredRows StoredApplication start pool.table := by
  have settled : ∀ handled after : Dict String Application, SettlesApplications handled after →
      StoredRows StoredApplication start handled → StoredRows StoredApplication start after := by
    rintro handled after (⟨chainApps, ran⟩ | rfl) valid
    · exact reconcileApplications_stored ran valid
    · exact valid
  exact (run.valid handleApplicationDatum_keepsStored settled begun).reached
    handleApplicationDatum_keepsStored reached

/-- The application is read and stored again while it is unstaked. -/
theorem applicationRows_stored_unstake :
    StoredRows StoredApplication (Dict.empty.set "pokt1a" stakedApplication)
      ((Dict.empty.set "pokt1a" stakedApplication).set "pokt1a" { stakedApplication with
        unstakingBeginBlockId := some 6 }) := by
  refine applicationRows_stored _ _ (stored_singleton stakedApplication_stored) .start
    [[unstakeMsg (.unstakeApplication ⟨"pokt1a"⟩)]] ⟨[.done ()], _⟩ ?_
  exact (Relation.ReflTransGen.single (@Pool.Step.get _ _ _ _ [] [] _ _ _)).tail
    (@Pool.Step.save _ _ _ _ [] [] _ _ _ _)

end Pocketdex
