import Pocketdex.Pocket.SupplierIndex

/-! What one datum makes of the supplier records of a block: one case for each kind of datum. -/

namespace Pocketdex

/-- The supplier records of a block, seen through their lookups. -/
abbrev SupplierRecords := String → Option SupplierRecord

/-- Every supplier is recorded under its own id. -/
def Keyed (records : SupplierRecords) : Prop :=
  ∀ operator entry supplier, records operator = some entry → entry.supplier = some supplier →
    supplier.id = operator

/-- The record of an operator that staked. -/
def stakedEntry (externals : Externals) (raw : List SupplierServiceConfig) (supplier : Supplier)
    (entry : Option SupplierRecord) : SupplierRecord :=
  let staked := getServices externals raw supplier.id (knownServices entry).keys
  ⟨some supplier, updateServices staked.servicesToRemove staked.services (knownServices entry)⟩

/-- The configs that staking closes. -/
def closedByStaking (externals : Externals) (raw : List SupplierServiceConfig) (operator : String)
    (entry : Option SupplierRecord) : List String :=
  let staked := getServices externals raw operator (knownServices entry).keys
  staked.servicesToRemove ++ staked.services.map SupplierServiceConfigProps.id

/-- The record of an operator after an activation. -/
def activatedEntry (height : Int) (eventId : String) (entry : SupplierRecord) : SupplierRecord :=
  let activated := activatedServices height eventId entry.services
  { entry with services := Dict.storeAll SupplierServiceConfigProps.id activated entry.services }

/-- The attributes of an unbonding event, with the reason to note and the one to record. -/
structure UnbondingRead (handler : String) (event : CosmosEvent) (unbonding : SupplierUnbonding)
    (reason : Option SupplierUnbondingReason) (recorded : SupplierUnbondingReason) : Prop where
  read : readSupplierUnbonding handler event.attributes = .ok unbonding
  given : givenReason unbonding.reason = .ok reason
  told : recordedReason unbonding.reason = .ok recorded

/-- The attributes of a slash, with the penalty and the stake the chain tells. -/
structure SlashRead (externals : Externals) (event : CosmosEvent) (values : SlashedValues)
    (coin : Option Coin) (penalty : Int) (after : Option Int) : Prop where
  read : _getValuesEventSupplierSlashed externals event.attributes = .ok values
  named : values.operatorAddress ≠ ""
  required : requirePenalty values = .ok coin
  amount : coinAmount coin = .ok penalty
  told : stakeAfterSlash values = .ok after

/-- The attributes of an activation, with the height it names and the operator. -/
structure ActivationRead (event : CosmosEvent) (height : Int) (operator : String) : Prop where
  activation : readAttribute "activation_height" readHeight 0 event.attributes = .ok height
  positive : height ≠ 0
  read : readOperator event.attributes = .ok (some operator)
  named : operator ≠ ""

/-- What handling a datum makes of the records, and the changes it adds to the block. -/
inductive SupplierStep (externals : Externals) (records : SupplierRecords) :
    StakeDatum → SupplierChanges → SupplierRecords → Prop where
  | stake {msg : CosmosMessage} {decoded : MsgStakeSupplier} {amount : Int} {denom : String} :
      msg.decodedMsg = .stakeSupplier decoded →
      stakeOf decoded (knownSupplier (records decoded.operatorAddress)) = .ok (amount, denom) →
      SupplierStep externals records (.msg msg)
        { servicesToClose := closedByStaking externals decoded.services decoded.operatorAddress
            (records decoded.operatorAddress)
          stakeMsgs := [stakeSupplierProps msg decoded amount denom] }
        (Function.update records decoded.operatorAddress (some (stakedEntry externals
          decoded.services (stakedSupplier decoded.operatorAddress decoded.ownerAddress amount denom)
          (records decoded.operatorAddress))))
  | claim {msg : CosmosMessage} {decoded : MsgClaimMorseSupplier}
      {props : MsgClaimMorseSupplierProps} :
      msg.decodedMsg = .claimMorseSupplier decoded →
      claimSupplierProps externals msg decoded = .ok props →
      SupplierStep externals records (.msg msg)
        { servicesToClose := closedByStaking externals decoded.services
            decoded.shannonOperatorAddress (records decoded.shannonOperatorAddress)
          claimMsgs := [props] }
        (Function.update records decoded.shannonOperatorAddress (some (stakedEntry externals
          decoded.services (stakedSupplier decoded.shannonOperatorAddress
            decoded.shannonOwnerAddress (props.stakeAmount +
              ((knownSupplier (records decoded.shannonOperatorAddress)).map
                Supplier.stakeAmount).getD 0) props.stakeDenom)
          (records decoded.shannonOperatorAddress))))
  | unstake {msg : CosmosMessage} {decoded : MsgUnstakeSupplier} {entry : SupplierRecord}
      {supplier : Supplier} :
      msg.decodedMsg = .unstakeSupplier decoded →
      records decoded.operatorAddress = some entry → entry.supplier = some supplier →
      SupplierStep externals records (.msg msg)
        { unstakeMsgs := [unstakeSupplierProps msg decoded] }
        (Function.update records decoded.operatorAddress
          (some { entry with supplier := some (supplier.beginUnstaking msg.height) }))
  | unbondingBegin {event : CosmosEvent} {unbonding : SupplierUnbonding} {entry : SupplierRecord}
      {supplier : Supplier} {reason : Option SupplierUnbondingReason}
      {recorded : SupplierUnbondingReason} :
      event.type = .supplierUnbondingBegin →
      UnbondingRead "handleSupplierUnbondingBeginEvent" event unbonding reason recorded →
      records unbonding.operatorAddress = some entry → entry.supplier = some supplier →
      SupplierStep externals records (.event event)
        { unbondingBeginEvents :=
            [unbondingProps (getEventId externals.kindText event) event.height unbonding recorded] }
        (Function.update records unbonding.operatorAddress (some { entry with
          supplier := some (supplier.noteUnbonding unbonding.unbondingHeight reason) }))
  | unbondingEnd {event : CosmosEvent} {unbonding : SupplierUnbonding} {entry : SupplierRecord}
      {supplier : Supplier} {reason : Option SupplierUnbondingReason}
      {recorded : SupplierUnbondingReason} :
      event.type = .supplierUnbondingEnd →
      UnbondingRead "handleSupplierUnbondingEndEvent" event unbonding reason recorded →
      records unbonding.operatorAddress = some entry → entry.supplier = some supplier →
      SupplierStep externals records (.event event)
        { servicesToClose := entry.services.keys
          unbondingEndEvents :=
            [unbondingProps (getEventId externals.kindText event) event.height unbonding recorded] }
        (Function.update records unbonding.operatorAddress (some
          ⟨some (supplier.unstake.endUnbonding unbonding.unbondingHeight reason),
            updateServices entry.services.keys [] entry.services⟩))
  | slash {event : CosmosEvent} {values : SlashedValues} {entry : SupplierRecord}
      {supplier : Supplier} {coin : Option Coin} {penalty : Int} {after : Option Int} :
      event.type = .supplierSlashed →
      SlashRead externals event values coin penalty after →
      records values.operatorAddress = some entry → entry.supplier = some supplier →
      SupplierStep externals records (.event event)
        { slashingEvents := [slashingProps (getEventId externals.kindText event) event.height values
            penalty ((coin.map Coin.denom).getD "")
            (slashedStake supplier.stakeAmount penalty after)] }
        (Function.update records values.operatorAddress (some { entry with
          supplier :=
            some (supplier.withStake (slashedStake supplier.stakeAmount penalty after).2) }))
  | activate {event : CosmosEvent} {height : Int} {operator : String} {entry : SupplierRecord} :
      event.type = .supplierServiceConfigActivated →
      ActivationRead event height operator →
      records operator = some entry →
      SupplierStep externals records (.event event)
        { servicesToClose := (activatedServices height (getEventId externals.kindText event)
            entry.services).map SupplierServiceConfigProps.id
          serviceConfigActivatedEvents := [⟨getEventId externals.kindText event,
            getEventId externals.kindText event, getBlockId event.height⟩] }
        (Function.update records operator (some (activatedEntry height
          (getEventId externals.kindText event) entry)))
  | activateUnknown {event : CosmosEvent} {height : Int} {operator : String} :
      event.type = .supplierServiceConfigActivated →
      ActivationRead event height operator →
      records operator = none →
      SupplierStep externals records (.event event)
        { serviceConfigActivatedEvents := [⟨getEventId externals.kindText event,
            getEventId externals.kindText event, getBlockId event.height⟩] }
        records
  | ignoreMsg {msg : CosmosMessage} :
      supplierPath msg.decodedMsg = none →
      SupplierStep externals records (.msg msg) {} records
  | ignoreEvent {event : CosmosEvent} :
      supplierGetId event.type = none →
      SupplierStep externals records (.event event) {} records

/-- An activation names its operator once: the id getter finds the one the handler reads. -/
def NamesOneOperator (datum : StakeDatum) : Prop :=
  ∀ event, datum = .event event → event.type = .supplierServiceConfigActivated →
    ∀ operator, readOperator event.attributes = .ok (some operator) →
      eventGetId event.attributes = .ok (some (.string operator))

section

variable {externals : Externals} {records after : SupplierRecords} {changes : SupplierChanges}

/-- An address that is required is the one that was found. -/
theorem requireAddress_some {address : Option String} {message text : String}
    (required : requireAddress address message = .ok text) : address = some text ∧ text ≠ "" := by
  unfold requireAddress at required
  cases address with
  | none => simp at required
  | some found =>
    by_cases empty : found = ""
    · simp [empty] at required
    · simp only [if_neg empty, Except.ok.injEq] at required
      exact ⟨by rw [required], required ▸ empty⟩

/-- An address that is found and not empty is the one that is required. -/
theorem requireAddress_of_some {message text : String} (named : text ≠ "") :
    requireAddress (some text) message = .ok text := by
  simp [requireAddress, named]

/-- An unbonding event that is read names an operator. -/
theorem readSupplierUnbonding_ok {handler : String} {attributes : List Attribute}
    {unbonding : SupplierUnbonding}
    (ran : readSupplierUnbonding handler attributes = .ok unbonding) :
    readOperator attributes = .ok (some unbonding.operatorAddress) ∧
      unbonding.operatorAddress ≠ "" := by
  unfold readSupplierUnbonding at ran
  obtain ⟨unbondingHeight, _, ran⟩ := exceptBind_ok ran
  obtain ⟨sessionEndHeight, _, ran⟩ := exceptBind_ok ran
  obtain ⟨reason, _, ran⟩ := exceptBind_ok ran
  obtain ⟨found, operator, ran⟩ := exceptBind_ok ran
  obtain ⟨address, required, ran⟩ := exceptBind_ok ran
  simp only [pure, Except.pure, Except.ok.injEq] at ran
  subst ran
  obtain ⟨same, named⟩ := requireAddress_some required
  exact ⟨same ▸ operator, named⟩

namespace Program

variable {ε κ ν α β : Type} [DecidableEq κ]

/-- A computation without rows comes first: it must succeed. -/
theorem exec_lift_bind {result : Except ε α} {next : α → Program ε κ ν β} {rows : κ → Option ν}
    {final : β × (κ → Option ν)} :
    ((lift result).bind next).exec rows = some final ↔
      ∃ value, result = .ok value ∧ (next value).exec rows = some final := by
  cases result with
  | error error => simp [exec]
  | ok value => simp

end Program

/-- The services a record knows are those of the record, or none. -/
theorem knownServices_getD (entry : Option SupplierRecord) :
    (entry.getD SupplierRecord.blank).services = knownServices entry := by
  cases entry <;> rfl

/-- A staked supplier is entered whether or not its operator has a record. -/
theorem exec_enterStaking_bind {μ β : Type} {staking : Staking μ}
    {next : List String → SupplierProgram β} :
    ((enterStaking staking).bind next).exec records =
      (next (staking.staked.servicesToRemove ++
        staking.staked.services.map SupplierServiceConfigProps.id)).exec
          (Function.update records staking.supplier.id (some ⟨some staking.supplier,
            updateServices staking.staked.servicesToRemove staking.staked.services
              (knownServices (records staking.supplier.id))⟩)) := by
  simp only [enterStaking, Program.bind_eq, Program.read_bind, Program.write_bind, Program.bind,
    Program.pure_eq, Program.exec, knownServices_getD]

/-- A supplier is put in the record of its operator. -/
theorem exec_setSupplier_bind {β : Type} {operator : String} {supplier : Supplier}
    {entry : SupplierRecord} {next : Unit → SupplierProgram β} (named : supplier.id = operator)
    (found : records operator = some entry) :
    ((setSupplier supplier).bind next).exec records =
      (next ()).exec (Function.update records operator
        (some { entry with supplier := some supplier })) := by
  subst named
  simp only [setSupplier, Program.bind_eq, Program.read_bind, Program.bind, Program.exec, found]
  rfl

/-- A supplier whose unbonding ended is entered in the record of its operator. -/
theorem exec_enterUnbondingEnd_bind {β : Type} {operator : String} {ended : EndedUnbonding}
    {entry : SupplierRecord} {next : Unit → SupplierProgram β}
    (named : ended.supplier.id = operator) (found : records operator = some entry) :
    ((enterUnbondingEnd ended).bind next).exec records =
      (next ()).exec (Function.update records operator (some ⟨some ended.supplier,
        updateServices ended.servicesToRemove [] entry.services⟩)) := by
  subst named
  simp only [enterUnbondingEnd, Program.bind_eq, Program.read_bind, Program.bind, Program.exec,
    found]
  rfl

/-- A supplier that is known is found. -/
theorem exec_getSupplier_of_found {β : Type} {operator message : String} {entry : SupplierRecord}
    {supplier : Supplier} {next : SupplierRecord × Supplier → SupplierProgram β}
    (found : records operator = some entry) (has : entry.supplier = some supplier) :
    ((getSupplier operator message).bind next).exec records = (next (entry, supplier)).exec records := by
  simp only [getSupplier, Program.bind_eq, Program.read_bind, Program.bind, Program.exec, found,
    has]
  rfl

/-- A supplier that must be known is known. -/
theorem found_of_exec_getSupplier {β : Type} {operator message : String}
    {next : SupplierRecord × Supplier → SupplierProgram β} {final : β × SupplierRecords}
    (ran : ((getSupplier operator message).bind next).exec records = some final) :
    ∃ entry supplier, records operator = some entry ∧ entry.supplier = some supplier ∧
      (next (entry, supplier)).exec records = some final := by
  cases found : records operator with
  | none =>
    simp [getSupplier, Program.bind, Program.exec, found] at ran
  | some entry =>
    cases has : entry.supplier with
    | none => simp [getSupplier, Program.bind, Program.exec, found, has] at ran
    | some supplier =>
      rw [exec_getSupplier_of_found found has] at ran
      exact ⟨entry, supplier, rfl, has, ran⟩

/-- Handling a datum does what its step says. -/
theorem exec_of_supplierStep (keyed : Keyed records) {datum : StakeDatum}
    (consistent : NamesOneOperator datum) (step : SupplierStep externals records datum changes after) :
    (processSupplierDatum externals datum).exec records = some (changes, after) := by
  cases step with
  | stake kind stake =>
    simp only [processSupplierDatum, processSupplierMsg, kind, _handleSupplierStakeMsg,
      Program.bind_eq, Program.read_bind, Program.bind, Program.exec, stake, Program.lift_ok,
      Program.done_bind, Program.pure_eq, exec_enterStaking_bind]
    rfl
  | claim kind made =>
    simp only [processSupplierDatum, processSupplierMsg, kind, _handleClaimSupplier,
      Program.bind_eq, Program.read_bind, Program.bind, Program.exec, made, Program.lift_ok,
      Program.pure_eq, exec_enterStaking_bind]
    rfl
  | @unstake msg decoded entry supplier kind found has =>
    simp only [processSupplierDatum, processSupplierMsg, kind, _handleUnstakeSupplierMsg,
      Program.bind_eq, Program.bind_assoc, exec_getSupplier_of_found found has, Program.write_bind,
      Program.bind, Program.exec, Program.pure_eq]
    -- The supplier is changed in place, and then entered once more.
    have named : supplier.id = decoded.operatorAddress := keyed _ _ _ found has
    rw [exec_setSupplier_bind (show (supplier.beginUnstaking _).id = _ from named)
      (Function.update_self ..), Function.update_idem]
    rfl
  | @unbondingBegin event unbonding entry supplier reason recorded kind told found has =>
    simp only [processSupplierDatum, processSupplierEvent, kind, _handleSupplierUnbondingBeginEvent,
      Program.bind_eq, Program.bind_assoc, told.read, Program.lift_ok, Program.done_bind,
      exec_getSupplier_of_found found has, told.given, told.told, Program.pure_eq]
    have named : supplier.id = unbonding.operatorAddress := keyed _ _ _ found has
    rw [exec_setSupplier_bind (show (supplier.noteUnbonding _ _).id = _ from named) found]
    rfl
  | @unbondingEnd event unbonding entry supplier reason recorded kind told found has =>
    simp only [processSupplierDatum, processSupplierEvent, kind, _handleSupplierUnbondingEndEvent,
      Program.bind_eq, Program.bind_assoc, told.read, Program.lift_ok, Program.done_bind,
      exec_getSupplier_of_found found has, Program.write_bind, Program.bind, Program.exec,
      told.given, told.told, Program.pure_eq]
    -- Here as well the supplier is changed in place first.
    have named : supplier.id = unbonding.operatorAddress := keyed _ _ _ found has
    rw [exec_enterUnbondingEnd_bind (show (supplier.unstake.endUnbonding _ _).id = _ from named)
      (Function.update_self ..), Function.update_idem]
    rfl
  | @slash event values entry supplier coin penalty told kind read found has =>
    simp only [processSupplierDatum, processSupplierEvent, kind, _handleEventSupplierSlashed,
      Program.bind_eq, Program.bind_assoc, read.read, Program.lift_ok, Program.done_bind,
      requireAddress_of_some read.named, read.required, exec_getSupplier_of_found found has,
      read.told, read.amount, Program.pure_eq]
    have named : (supplier.withStake (slashedStake supplier.stakeAmount penalty told).2).id =
        values.operatorAddress := keyed _ _ supplier found has
    rw [exec_setSupplier_bind named found]
    rfl
  | @activate event height operator entry kind read found =>
    simp only [processSupplierDatum, processSupplierEvent, kind,
      _handleEventSupplierServiceConfigActivated, Program.bind_eq, read.activation, read.read,
      Program.lift_ok, Program.done_bind, if_neg read.positive,
      requireAddress_of_some read.named, Program.read_bind, Program.bind, Program.exec, found,
      Program.pure_eq, Program.write_bind, consistent event rfl kind operator read.read]
    show ((enterServices operator _).bind _).exec _ = _
    unfold enterServices
    split
    · rfl
    · -- The configs were changed in place, and are set once more.
      have again : ∀ services known, updateServices [] services
          (Dict.storeAll SupplierServiceConfigProps.id services known) =
            Dict.storeAll SupplierServiceConfigProps.id services known :=
        fun services known => Dict.storeAll_storeAll ..
      simp only [Program.bind_eq, Program.read_bind, Program.bind, Program.exec,
        Function.update_self, Program.write, Function.update_idem, again]
      rfl
  | @activateUnknown event height operator kind read unknown =>
    simp only [processSupplierDatum, processSupplierEvent, kind,
      _handleEventSupplierServiceConfigActivated, Program.bind_eq, read.activation, read.read,
      Program.lift_ok, Program.done_bind, if_neg read.positive,
      requireAddress_of_some read.named, Program.read_bind, Program.bind, Program.exec, unknown,
      Program.pure_eq, consistent event rfl kind operator read.read]
    rfl
  | @ignoreMsg msg other =>
    cases kind : msg.decodedMsg <;> simp [kind, supplierPath] at other <;>
      simp [processSupplierDatum, processSupplierMsg, kind, Program.exec]
  | @ignoreEvent event other =>
    cases kind : event.type <;> simp [kind, supplierGetId] at other <;>
      simp [processSupplierDatum, processSupplierEvent, kind, Program.exec]

/-- Handling a datum that succeeds is one of the steps. -/
theorem supplierStep_of_exec (keyed : Keyed records) {datum : StakeDatum}
    (consistent : NamesOneOperator datum)
    (ran : (processSupplierDatum externals datum).exec records = some (changes, after)) :
    SupplierStep externals records datum changes after := by
  -- What the run has read determines the step, and the step determines the run.
  suffices found : ∃ changes after, SupplierStep externals records datum changes after by
    obtain ⟨other, left, step⟩ := found
    have same := exec_of_supplierStep keyed consistent step
    rw [ran, Option.some.injEq, Prod.mk.injEq] at same
    rw [same.1, same.2]
    exact step
  cases datum with
  | msg msg =>
    cases kind : msg.decodedMsg with
    | stakeSupplier decoded =>
      simp only [processSupplierDatum, processSupplierMsg, kind, _handleSupplierStakeMsg,
        Program.bind_eq, Program.read_bind, Program.bind, Program.exec, Program.bind_assoc,
        Program.exec_lift_bind] at ran
      obtain ⟨stake, read, _⟩ := ran
      exact ⟨_, _, SupplierStep.stake kind read⟩
    | claimMorseSupplier decoded =>
      simp only [processSupplierDatum, processSupplierMsg, kind, _handleClaimSupplier,
        Program.bind_eq, Program.bind_assoc, Program.exec_lift_bind] at ran
      obtain ⟨props, made, _⟩ := ran
      exact ⟨_, _, SupplierStep.claim kind made⟩
    | unstakeSupplier decoded =>
      simp only [processSupplierDatum, processSupplierMsg, kind, _handleUnstakeSupplierMsg,
        Program.bind_eq, Program.bind_assoc] at ran
      obtain ⟨entry, supplier, found, has, _⟩ := found_of_exec_getSupplier ran
      exact ⟨_, _, SupplierStep.unstake kind found has⟩
    | _ => exact ⟨_, _, SupplierStep.ignoreMsg (by simp only [kind, supplierPath])⟩
  | event event =>
    cases kind : event.type with
    | supplierUnbondingBegin =>
      simp only [processSupplierDatum, processSupplierEvent, kind,
        _handleSupplierUnbondingBeginEvent, Program.bind_eq, Program.bind_assoc,
        Program.exec_lift_bind] at ran
      obtain ⟨unbonding, read, ran⟩ := ran
      obtain ⟨entry, supplier, found, has, ran⟩ := found_of_exec_getSupplier ran
      simp only [Program.exec_lift_bind] at ran
      obtain ⟨reason, given, recorded, told, _⟩ := ran
      exact ⟨_, _, SupplierStep.unbondingBegin kind ⟨read, given, told⟩ found has⟩
    | supplierUnbondingEnd =>
      simp only [processSupplierDatum, processSupplierEvent, kind,
        _handleSupplierUnbondingEndEvent, Program.bind_eq, Program.bind_assoc,
        Program.exec_lift_bind] at ran
      obtain ⟨unbonding, read, ran⟩ := ran
      obtain ⟨entry, supplier, found, has, ran⟩ := found_of_exec_getSupplier ran
      simp only [Program.write_bind, Program.exec, Program.exec_lift_bind] at ran
      obtain ⟨reason, given, recorded, told, _⟩ := ran
      exact ⟨_, _, SupplierStep.unbondingEnd kind ⟨read, given, told⟩ found has⟩
    | supplierSlashed =>
      simp only [processSupplierDatum, processSupplierEvent, kind, _handleEventSupplierSlashed,
        Program.bind_eq, Program.bind_assoc, Program.exec_lift_bind] at ran
      obtain ⟨values, read, operator, address, coin, required, ran⟩ := ran
      obtain ⟨entry, supplier, found, has, ran⟩ := found_of_exec_getSupplier ran
      simp only [Program.exec_lift_bind] at ran
      obtain ⟨stakeLeft, told, penalty, amount, _⟩ := ran
      obtain ⟨same, named⟩ := requireAddress_some address
      rw [Option.some.injEq] at same
      subst same
      exact ⟨_, _, SupplierStep.slash kind ⟨read, named, required, amount, told⟩ found has⟩
    | supplierServiceConfigActivated =>
      simp only [processSupplierDatum, processSupplierEvent, kind,
        _handleEventSupplierServiceConfigActivated, Program.bind_eq, Program.bind_assoc,
        Program.exec_lift_bind] at ran
      obtain ⟨height, activation, address, read, checked, present, operator, required, _⟩ := ran
      obtain ⟨rfl, named⟩ := requireAddress_some required
      -- A height of zero is refused.
      by_cases zero : height = 0
      · rw [if_pos zero] at present
        cases present
      · have activationRead : ActivationRead event height operator :=
          ⟨activation, zero, read, named⟩
        cases found : records operator with
        | none => exact ⟨_, _, SupplierStep.activateUnknown kind activationRead found⟩
        | some entry => exact ⟨_, _, SupplierStep.activate kind activationRead found⟩
    | _ => exact ⟨_, _, SupplierStep.ignoreEvent (by simp only [kind, supplierGetId])⟩

end

/-- The operator a datum is about. -/
def Concerns (externals : Externals) (operator : String) : StakeDatum → Prop
  | .msg sent => (supplierPath sent.decodedMsg).bind sent.decodedMsg.get = some operator
  | .event emitted => match emitted.type with
    | .supplierUnbondingBegin => readOperator emitted.attributes = .ok (some operator)
    | .supplierUnbondingEnd => readOperator emitted.attributes = .ok (some operator)
    | .supplierServiceConfigActivated => readOperator emitted.attributes = .ok (some operator)
    | .supplierSlashed => ∃ values,
        _getValuesEventSupplierSlashed externals emitted.attributes = .ok values ∧
          values.operatorAddress = operator
    | _ => False

/-- Every config is known under its own id, which is made of its operator and its service. -/
def NamedServices (operator : String) (services : Dict String SupplierServiceConfigProps) : Prop :=
  ∀ id service, services.get id = some service → service.id = id ∧ service.supplierId = operator ∧
    id = getStakeServiceId operator service.serviceId

/-- Suppliers and configs are recorded under their own ids. -/
structure WellKept (records : SupplierRecords) : Prop where
  keyed : Keyed records
  named : ∀ operator, NamedServices operator (knownServices (records operator))

section

variable {externals : Externals} {records after : SupplierRecords} {changes : SupplierChanges}
  {datum : StakeDatum}

/-- A config that is looked up after an update was set, or else was known and not removed. -/
theorem get_updateServices (servicesToRemove : List String)
    (services : List SupplierServiceConfigProps) (known : Dict String SupplierServiceConfigProps)
    (id : String) :
    (updateServices servicesToRemove services known).get id =
      (services.reverse.find? fun service => service.id = id).or
        (if id ∈ servicesToRemove then none else known.get id) := by
  have erased : ∀ (removed : List String) (known : Dict String SupplierServiceConfigProps),
      (removed.foldl Dict.erase known).get id = if id ∈ removed then none else known.get id := by
    intro removed
    induction removed with
    | nil => simp
    | cons first rest ih =>
      intro known
      rw [List.foldl_cons, ih, Dict.get_erase]
      by_cases same : id = first
      · simp [same]
      · simp [same]
  rw [updateServices, Dict.get_storeAll, erased]

/-- The configs of a message are named after its operator. -/
theorem serviceConfig_named (operator : String) (raw : SupplierServiceConfig) :
    (serviceConfig externals operator raw).supplierId = operator ∧
      (serviceConfig externals operator raw).id = getStakeServiceId operator
        (serviceConfig externals operator raw).serviceId := ⟨rfl, rfl⟩

/-- An update with configs of an operator keeps the operator's configs named. -/
theorem NamedServices.update {operator : String} {known : Dict String SupplierServiceConfigProps}
    (named : NamedServices operator known) {servicesToRemove : List String}
    {services : List SupplierServiceConfigProps}
    (own : ∀ service ∈ services, service.supplierId = operator ∧
      service.id = getStakeServiceId operator service.serviceId) :
    NamedServices operator (updateServices servicesToRemove services known) := by
  intro id service found
  rw [get_updateServices] at found
  cases located : services.reverse.find? fun service => service.id = id with
  | some set =>
    rw [located, Option.some_or, Option.some.injEq] at found
    subst found
    have same : set.id = id := by simpa using List.find?_some located
    have member := List.mem_reverse.mp (List.mem_of_find?_eq_some located)
    obtain ⟨supplier, identified⟩ := own set member
    exact ⟨same, supplier, same ▸ identified⟩
  | none =>
    rw [located, Option.none_or] at found
    split at found
    · cases found
    · exact named id service found

/-- Activated configs are the operator's configs. -/
theorem activatedServices_named {operator : String} {height : Int} {eventId : String}
    {known : Dict String SupplierServiceConfigProps} (named : NamedServices operator known) :
    ∀ service ∈ activatedServices height eventId known, service.supplierId = operator ∧
      service.id = getStakeServiceId operator service.serviceId := by
  intro service member
  obtain ⟨before, inside, rfl⟩ := List.mem_map.mp member
  obtain ⟨id, found⟩ := Dict.mem_values.mp (List.mem_filter.mp inside).1
  obtain ⟨same, supplier, identified⟩ := named id before found
  exact ⟨supplier, same ▸ identified⟩

/-- A config is among the activated ones when it is known and not activated. -/
theorem mem_activatedServices_ids {height : Int} {eventId : String}
    {known : Dict String SupplierServiceConfigProps} {operator : String}
    (named : NamedServices operator known) {id : String} :
    id ∈ (activatedServices height eventId known).map SupplierServiceConfigProps.id ↔
      ∃ service, known.get id = some service ∧ service.isActivated = false := by
  simp only [activatedServices, List.map_map, List.mem_map, List.mem_filter, Dict.mem_values,
    Bool.not_eq_true', Function.comp]
  constructor
  · intro ⟨service, ⟨⟨other, found⟩, inactive⟩, same⟩
    have own : service.id = other := (named other service found).1
    have identified : service.id = id := same
    exact ⟨service, by rw [← identified, own]; exact found, inactive⟩
  · intro ⟨service, found, inactive⟩
    exact ⟨service, ⟨⟨id, found⟩, inactive⟩, (named id service found).1⟩

/-- Records of other operators stay as they were. -/
theorem SupplierStep.frame (step : SupplierStep externals records datum changes after)
    {operator : String} (apart : ¬ Concerns externals operator datum) :
    after operator = records operator := by
  -- Each step updates the record of the operator its datum is about.
  cases step with
  | stake kind _ =>
    refine Function.update_of_ne (fun same => apart ?_) ..
    simp [Concerns, kind, supplierPath, DecodedMsg.get, same]
  | claim kind _ =>
    refine Function.update_of_ne (fun same => apart ?_) ..
    simp [Concerns, kind, supplierPath, DecodedMsg.get, same]
  | unstake kind _ _ =>
    refine Function.update_of_ne (fun same => apart ?_) ..
    simp [Concerns, kind, supplierPath, DecodedMsg.get, same]
  | unbondingBegin kind told _ _ =>
    refine Function.update_of_ne (fun same => apart ?_) ..
    simp only [Concerns, kind, same, (readSupplierUnbonding_ok told.read).1]
  | unbondingEnd kind told _ _ =>
    refine Function.update_of_ne (fun same => apart ?_) ..
    simp only [Concerns, kind, same, (readSupplierUnbonding_ok told.read).1]
  | slash kind read _ _ =>
    refine Function.update_of_ne (fun same => apart ?_) ..
    simp only [Concerns, kind]
    exact ⟨_, read.read, same.symm⟩
  | activate kind read _ =>
    refine Function.update_of_ne (fun same => apart ?_) ..
    simp only [Concerns, kind, same, read.read]
  | activateUnknown => rfl
  | ignoreMsg => rfl
  | ignoreEvent => rfl

/-- A record entered for an operator keeps the records well kept. -/
theorem WellKept.update (kept : WellKept records) {operator : String} {entry : SupplierRecord}
    (keyed : ∀ supplier, entry.supplier = some supplier → supplier.id = operator)
    (named : NamedServices operator entry.services) :
    WellKept (Function.update records operator (some entry)) := by
  constructor
  · intro other found supplier located has
    by_cases same : other = operator
    · subst same
      rw [Function.update_self, Option.some.injEq] at located
      exact keyed supplier (located ▸ has)
    · rw [Function.update_of_ne same] at located
      exact kept.keyed other found supplier located has
  · intro other
    by_cases same : other = operator
    · subst same
      rw [Function.update_self]
      exact named
    · rw [Function.update_of_ne same]
      exact kept.named other

/-- Every step keeps the records well kept. -/
theorem SupplierStep.wellKept (step : SupplierStep externals records datum changes after)
    (kept : WellKept records) : WellKept after := by
  -- What a message lists is named after its operator.
  have listed : ∀ {raw : List SupplierServiceConfig} {supplier : Supplier},
      NamedServices supplier.id
        (stakedEntry externals raw supplier (records supplier.id)).services := by
    intro raw supplier
    refine (kept.named supplier.id).update fun service member => ?_
    obtain ⟨config, _, rfl⟩ := List.mem_map.mp member
    exact serviceConfig_named supplier.id config
  have known : ∀ {operator : String} {entry : SupplierRecord}, records operator = some entry →
      NamedServices operator entry.services := by
    intro operator entry found
    have named := kept.named operator
    rwa [found] at named
  -- The other handlers keep the id of the supplier.
  have own : ∀ {operator : String} {entry : SupplierRecord} {supplier other : Supplier},
      records operator = some entry → entry.supplier = some supplier → other.id = supplier.id →
        ∀ stored, some other = some stored → stored.id = operator := by
    intro operator entry supplier other found has same stored equal
    cases equal
    rw [same]
    exact kept.keyed _ _ _ found has
  cases step with
  | @stake msg decoded amount denom =>
    exact kept.update (fun supplier has => by cases has; rfl)
      (@listed decoded.services (stakedSupplier decoded.operatorAddress _ amount denom))
  | @claim msg decoded props =>
    exact kept.update (fun supplier has => by cases has; rfl)
      (@listed decoded.services (stakedSupplier decoded.shannonOperatorAddress _ _ _))
  | unstake _ found has =>
    have services := known found
    exact kept.update (own found has rfl) services
  | unbondingBegin _ _ found has =>
    have services := known found
    exact kept.update (own found has rfl) services
  | unbondingEnd _ _ found has =>
    exact kept.update (own found has rfl) ((known found).update (by simp))
  | slash _ _ found has =>
    have services := known found
    exact kept.update (own found has rfl) services
  | activate _ _ found =>
    exact kept.update (fun supplier has => kept.keyed _ _ _ found has)
      (@NamedServices.update _ _ (known found) [] _ (activatedServices_named (known found)))
  | activateUnknown => exact kept
  | ignoreMsg => exact kept
  | ignoreEvent => exact kept

/-- Configs a step does not close stay as they were. -/
theorem SupplierStep.unclosed (step : SupplierStep externals records datum changes after)
    {id : String} (untouched : id ∉ changes.servicesToClose) (operator : String) :
    (knownServices (after operator)).get id = (knownServices (records operator)).get id := by
  -- What is set or removed is closed as well.
  have updated : ∀ {other : String} {entry : SupplierRecord} {removed : List String}
      {services : List SupplierServiceConfigProps}, id ∉ removed →
      id ∉ services.map SupplierServiceConfigProps.id →
      entry.services = updateServices removed services (knownServices (records other)) →
      (knownServices (Function.update records other (some entry) operator)).get id =
        (knownServices (records operator)).get id := by
    intro other entry removed services kept unset same
    by_cases found : operator = other
    · subst found
      have absent : (services.reverse.find? fun service => service.id = id) = none :=
        List.find?_eq_none.mpr fun service member told =>
          unset (List.mem_map.mpr ⟨service, List.mem_reverse.mp member, by simpa using told⟩)
      rw [Function.update_self]
      show entry.services.get id = _
      rw [same, get_updateServices, absent, Option.none_or, if_neg kept]
    · rw [Function.update_of_ne found]
  cases step with
  | stake =>
    obtain ⟨kept, unset⟩ := not_or.mp (List.mem_append.not.mp untouched)
    exact updated kept unset rfl
  | claim =>
    obtain ⟨kept, unset⟩ := not_or.mp (List.mem_append.not.mp untouched)
    exact updated kept unset rfl
  | unstake _ found _ =>
    exact @updated _ _ [] [] List.not_mem_nil List.not_mem_nil (by rw [found]; rfl)
  | unbondingBegin _ _ found _ =>
    exact @updated _ _ [] [] List.not_mem_nil List.not_mem_nil (by rw [found]; rfl)
  | unbondingEnd _ _ found _ =>
    exact @updated _ _ _ [] untouched List.not_mem_nil (by rw [found]; rfl)
  | slash _ _ found _ =>
    exact @updated _ _ [] [] List.not_mem_nil List.not_mem_nil (by rw [found]; rfl)
  | activate _ _ found =>
    exact @updated _ _ [] _ List.not_mem_nil untouched (by rw [found]; rfl)
  | activateUnknown => rfl
  | ignoreMsg => rfl
  | ignoreEvent => rfl

end

end Pocketdex
