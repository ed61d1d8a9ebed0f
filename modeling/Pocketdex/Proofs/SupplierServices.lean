import Pocketdex.Proofs.SupplierLifecycle

/-! The configs an operator has after a block: what the end of an unbonding closes, and what a stake
leaves open. -/

namespace Pocketdex

/-- A block whose events name one operator each, by addresses without dashes. -/
structure AddressedBlock (externals : Externals) (data : List StakeDatum) : Prop where
  consistent : ∀ datum ∈ data, NamesOneOperator datum
  dashless : ∀ datum ∈ data, ∀ operator, Concerns externals operator datum → '-' ∉ operator.toList

/-- The config rows of earlier blocks: they are older than this one, and stored under their ids. -/
structure EarlierConfigs (height : ℕ) (rows : List (Row SupplierServiceConfigProps)) : Prop where
  named : NamedRows rows
  older : ∀ row ∈ rows, row.blockRange.lower < height

/-- An operator of whom no configs are known. -/
def Bare (entry : Option SupplierRecord) : Prop := ∀ id, (knownServices entry).get id = none

section Steps

variable {externals : Externals} {datum : StakeDatum} {data : List StakeDatum}
  {records after : SupplierRecords} {changes : SupplierChanges} {operator : String}

/-- An operator of whom no configs are known has no ids of known configs. -/
theorem Bare.keys {entry : SupplierRecord} (bare : Bare (some entry)) : entry.services.keys = [] :=
  List.eq_nil_iff_forall_not_mem.mpr fun id listed =>
    Dict.get_eq_none.mp (bare id) listed

/-- A step closes configs of the operator its datum is about. -/
theorem SupplierStep.closes_own (step : SupplierStep externals records datum changes after)
    (kept : WellKept records) {id : String} (closed : id ∈ changes.servicesToClose) :
    ∃ operator serviceId, Concerns externals operator datum ∧
      id = getStakeServiceId operator serviceId := by
  -- Known configs are named after their operator, and so are those of a message.
  have known : ∀ {operator : String}, id ∈ (knownServices (records operator)).keys →
      ∃ serviceId, id = getStakeServiceId operator serviceId := by
    intro operator listed
    obtain ⟨service, found⟩ := Dict.mem_keys.mp listed
    exact ⟨_, (kept.named operator id service found).2.2⟩
  have staked : ∀ {operator : String} {raw : List SupplierServiceConfig},
      id ∈ closedByStaking externals raw operator (records operator) →
        ∃ serviceId, id = getStakeServiceId operator serviceId := by
    intro operator raw listed
    rcases List.mem_append.mp listed with removed | set
    · exact known (List.mem_filter.mp removed).1
    · obtain ⟨service, member, rfl⟩ := List.mem_map.mp set
      obtain ⟨config, _, rfl⟩ := List.mem_map.mp member
      exact ⟨config.serviceId, rfl⟩
  cases step with
  | stake kind _ =>
    obtain ⟨serviceId, same⟩ := staked closed
    exact ⟨_, serviceId, by simp [Concerns, kind, supplierPath, DecodedMsg.get], same⟩
  | claim kind _ =>
    obtain ⟨serviceId, same⟩ := staked closed
    exact ⟨_, serviceId, by simp [Concerns, kind, supplierPath, DecodedMsg.get], same⟩
  | unstake => cases closed
  | unbondingBegin => cases closed
  | unbondingEnd kind told found _ =>
    obtain ⟨serviceId, same⟩ := known (by rw [found]; exact closed)
    exact ⟨_, serviceId, by simp only [Concerns, kind, (readSupplierUnbonding_ok told.read).1], same⟩
  | slash => cases closed
  | @activate event height operator entry kind read found =>
    have named : NamedServices operator entry.services := by
      have own := kept.named operator
      rwa [found] at own
    obtain ⟨service, member, rfl⟩ := List.mem_map.mp closed
    exact ⟨operator, _, by simp only [Concerns, kind, read.read],
      (activatedServices_named named service member).2⟩
  | activateUnknown => cases closed
  | ignoreMsg => cases closed
  | ignoreEvent => cases closed

/-- A step that loads no configs of an operator gives it none, and closes none of its ids. -/
theorem SupplierStep.bare (step : SupplierStep externals records datum changes after)
    (kept : WellKept records) (bare : Bare (records operator))
    (dashless : ∀ other, Concerns externals other datum → '-' ∉ other.toList)
    (own : '-' ∉ operator.toList) (unloaded : ¬Loads externals operator datum) :
    Bare (after operator) ∧
      ∀ serviceId, getStakeServiceId operator serviceId ∉ changes.servicesToClose := by
  by_cases about : Concerns externals operator datum
  · -- A datum of the operator itself changes its supplier, or it ends an unbonding.
    have quiet : ¬fetchesServices datum = true := fun fetches => unloaded ⟨fetches, about⟩
    have same : ∀ {other : String} {entry : SupplierRecord} {supplier : Option Supplier},
        records other = some entry →
          Bare (Function.update records other (some { entry with supplier }) operator) := by
      intro other entry supplier found
      by_cases equal : operator = other
      · subst equal
        rw [Function.update_self]
        rw [found] at bare
        exact bare
      · rw [Function.update_of_ne equal]
        exact bare
    cases step with
    | stake kind _ => exact absurd (by simp [fetchesServices, kind]) quiet
    | claim kind _ => exact absurd (by simp [fetchesServices, kind]) quiet
    | unstake _ found _ => exact ⟨same found, fun _ => List.not_mem_nil⟩
    | unbondingBegin _ _ found _ => exact ⟨same found, fun _ => List.not_mem_nil⟩
    | @unbondingEnd event unbonding entry supplier reason recorded kind told found has =>
      simp only [Concerns, kind, (readSupplierUnbonding_ok told.read).1, Except.ok.injEq,
        Option.some.injEq] at about
      subst about
      rw [found] at bare
      rw [Function.update_self, bare.keys]
      exact ⟨bare, fun _ => List.not_mem_nil⟩
    | slash _ _ found _ => exact ⟨same found, fun _ => List.not_mem_nil⟩
    | activate kind _ _ => exact absurd (by simp [fetchesServices, kind]) quiet
    | activateUnknown kind _ _ => exact absurd (by simp [fetchesServices, kind]) quiet
    | ignoreMsg => exact ⟨bare, fun _ => List.not_mem_nil⟩
    | ignoreEvent => exact ⟨bare, fun _ => List.not_mem_nil⟩
  · -- A datum of another operator closes only ids that are built from that operator.
    rw [step.frame about]
    refine ⟨bare, fun serviceId closed => ?_⟩
    obtain ⟨other, otherService, concerned, same⟩ := step.closes_own kept closed
    have equal := (getStakeServiceId_inj own (dashless other concerned) same).1
    exact about (equal ▸ concerned)

/-- A run that loads no configs of an operator gives it none, and closes none of its ids. -/
theorem SupplierRun.bare (run : SupplierRun externals records data changes after)
    (kept : WellKept records) (bare : Bare (records operator))
    (dashless : ∀ datum ∈ data, ∀ other, Concerns externals other datum → '-' ∉ other.toList)
    (own : '-' ∉ operator.toList) (unloaded : ∀ datum ∈ data, ¬Loads externals operator datum) :
    Bare (after operator) ∧
      ∀ serviceId, getStakeServiceId operator serviceId ∉ changes.servicesToClose := by
  induction run with
  | nil => exact ⟨bare, fun _ => List.not_mem_nil⟩
  | cons step _ ih =>
    obtain ⟨next, now⟩ := step.bare kept bare (dashless _ List.mem_cons_self) own
      (unloaded _ List.mem_cons_self)
    obtain ⟨last, later⟩ := ih (step.wellKept kept) next
      (fun other member => dashless other (List.mem_cons_of_mem _ member))
      (fun other member => unloaded other (List.mem_cons_of_mem _ member))
    refine ⟨last, fun serviceId closed => ?_⟩
    rcases List.mem_append.mp closed with first | rest
    · exact now serviceId first
    · exact later serviceId rest

/-- The end of an unbonding leaves none of the configs that were known. -/
theorem SupplierStep.unbondingEnd_bare {event : CosmosEvent}
    (step : SupplierStep externals records (.event event) changes after)
    (kind : event.type = .supplierUnbondingEnd) (about : Concerns externals operator (.event event)) :
    Bare (after operator) := by
  cases step with
  | @unbondingEnd _ unbonding entry supplier reason recorded _ told found has =>
    simp only [Concerns, kind, (readSupplierUnbonding_ok told.read).1, Except.ok.injEq,
      Option.some.injEq] at about
    subst about
    rw [Function.update_self]
    intro id
    show (updateServices entry.services.keys [] entry.services).get id = none
    rw [get_updateServices]
    by_cases listed : id ∈ entry.services.keys
    · simp [listed]
    · simp [listed, Dict.get_eq_none.mpr listed]
  | unbondingBegin other _ _ _ => simp [kind] at other
  | slash other _ _ _ => simp [kind] at other
  | activate other _ _ => simp [kind] at other
  | activateUnknown other _ _ => simp [kind] at other
  | ignoreEvent none => simp [kind, supplierGetId] at none

end Steps

section Ended

variable {externals : Externals} {height : ℕ} {tables after : SupplierTables}
  {allData before rest : List StakeDatum} {ended : CosmosEvent} {operator : String}

/-- After the unbonding of a supplier ended, none of its configs is open just when none was open
before, or the block loads them. -/
theorem unbondingEnd_closes_iff (prior : EarlierConfigs height tables.services)
    (addressed : AddressedBlock externals (blockData allData))
    (split : blockData allData = before ++ .event ended :: rest)
    (kind : ended.type = .supplierUnbondingEnd)
    (about : Concerns externals operator (.event ended))
    (last : ∀ datum ∈ rest, ¬Concerns externals operator datum)
    (ran : indexSupplier externals height tables allData = .ok after) :
    openConfigs height operator after.services = [] ↔
      openConfigs height operator tables.services = [] ∨
        ∃ datum ∈ blockData allData, Loads externals operator datum := by
  obtain ⟨suppliers, operators, changes, record, collected, run, rfl⟩ :=
    indexSupplier_ok prior.named addressed.consistent ran
  have kept : WellKept (fetchSupplierData height tables suppliers operators).get :=
    fetchSupplierData_wellKept prior.named
  have own : '-' ∉ operator.toList := addressed.dashless _ (by rw [split]; simp) operator about
  -- After the block no config of the operator is known, so that none is saved.
  have bare : Bare (record.get operator) := by
    rw [split] at run
    obtain ⟨middle, earlier, later, first, second, -⟩ := run.split
    cases second with
    | cons step second =>
      rw [second.frame last]
      exact step.unbondingEnd_bare kind about
  have empty : (knownServices (record.get operator)).values = [] :=
    List.eq_nil_iff_forall_not_mem.mpr fun service member => by
      obtain ⟨id, found⟩ := Dict.mem_values.mp member
      rw [bare id] at found
      cases found
  rw [openConfigs_indexed (run.wellKept kept) prior.older, empty, List.map_nil, List.append_nil]
  by_cases loaded : ∃ datum ∈ blockData allData, Loads externals operator datum
  · refine iff_of_true (List.filter_eq_nil_iff.mpr fun row member => ?_) (Or.inr loaded)
    obtain ⟨inside, visible⟩ := List.mem_filter.mp member
    simp only [Bool.and_eq_true, decide_eq_true_eq] at visible
    have fetched : row.data.supplierId ∈ operators := by
      rw [visible.2]
      exact (mem_operators run addressed.consistent collected operator).mpr loaded
    -- A loaded config that was not closed would still be known.
    simp only [decide_eq_true_eq, not_not]
    by_contra untouched
    have known : (knownServices ((fetchSupplierData height tables suppliers operators).get
        row.data.supplierId)).get row.data.id ≠ none :=
      knownServices_of_row inside visible.1 fetched
    rw [← run.unclosed untouched, visible.2] at known
    exact known (bare row.data.id)
  · -- Without its configs the block closes none of them.
    simp only [loaded, or_false]
    have untouched := (run.bare kept ?_ addressed.dashless own fun datum member loads =>
      loaded ⟨datum, member, loads⟩).2
    · rw [List.filter_eq_self.mpr fun row member => ?_]
      obtain ⟨inside, visible⟩ := List.mem_filter.mp member
      simp only [Bool.and_eq_true, decide_eq_true_eq] at visible
      rw [prior.named row inside, visible.2]
      exact decide_eq_true (untouched _)
    · intro id
      by_contra known
      obtain ⟨service, found⟩ := Option.ne_none_iff_exists'.mp known
      obtain ⟨same, -, member⟩ := knownServices_fetched found
      have fetched := (mem_getByField.mp member).1
      rw [same] at fetched
      exact loaded ((mem_operators run addressed.consistent collected operator).mp fetched)

end Ended

/-- The row of a supplier with a stake of 100 and no unstaking noted. -/
def plainSupplier (operator : String) (stakeStatus : StakeStatus) : Supplier where
  id := operator
  operatorId := operator
  ownerId := operator
  stakeAmount := 100
  stakeDenom := "upokt"
  stakeStatus := stakeStatus

/-- Tables with an unstaking supplier and one open config of it. -/
def oneConfigTables : SupplierTables where
  suppliers := [⟨plainSupplier "pokt1op" .unstaking, none, ⟨5, none⟩⟩]
  services := [⟨plainConfig "pokt1op" "svc1" none, none, ⟨5, none⟩⟩]
  stakeMsgs := []
  claimMsgs := []
  unstakeMsgs := []
  serviceConfigActivatedEvents := []
  slashingEvents := []
  unbondingBeginEvents := []
  unbondingEndEvents := []

/-- The end of an unbonding at height 120. -/
def unbondingEnded (operator : String) : CosmosEvent where
  idx := 1
  height := 120
  kind := .finalizeBlock
  type := .supplierUnbondingEnd
  attributes := [⟨"operator_address", operator⟩, ⟨"unbonding_end_height", "120"⟩,
    ⟨"session_end_height", "119"⟩, ⟨"reason", "SUPPLIER_UNBONDING_REASON_VOLUNTARY"⟩]
  tx := none
  msg := none

/-- Beside an activation, which loads the configs, the end of an unbonding closes them. -/
theorem unbondingEnd_closes_loaded :
    ∃ after, indexSupplier plainExternals 120 oneConfigTables
        [.event (activationEvent "pokt1op" "svc1"), .event (unbondingEnded "pokt1op")] =
          .ok after ∧ openConfigs 120 "pokt1op" after.services = [] := by
  have data : blockData [.event (activationEvent "pokt1op" "svc1"),
      .event (unbondingEnded "pokt1op")] = [.event (activationEvent "pokt1op" "svc1")] ++
        .event (unbondingEnded "pokt1op") :: [] := by decide +kernel
  have succeeds : (indexSupplier plainExternals 120 oneConfigTables
      [.event (activationEvent "pokt1op" "svc1"),
        .event (unbondingEnded "pokt1op")]).toOption.isSome = true := by decide +kernel
  obtain ⟨after, ran⟩ := Option.isSome_iff_exists.mp succeeds
  obtain ⟨⟨-, -, activated, -⟩, getter⟩ := activationEvent_names.read
  have ended : readOperator (unbondingEnded "pokt1op").attributes = .ok (some "pokt1op") :=
    ok_of_toOption (by decide)
  -- Both events name their operator, which is an address.
  have addressed : AddressedBlock plainExternals (blockData
      [.event (activationEvent "pokt1op" "svc1"), .event (unbondingEnded "pokt1op")]) := by
    rw [data]
    refine ⟨List.forall_mem_cons.mpr ⟨?_, List.forall_mem_cons.mpr ⟨?_, by simp⟩⟩,
      List.forall_mem_cons.mpr ⟨?_, List.forall_mem_cons.mpr ⟨?_, by simp⟩⟩⟩
    · intro event same _ operator found
      cases same
      rw [activated, Except.ok.injEq, Option.some.injEq] at found
      subst found
      exact getter
    · intro event same kind
      cases same
      cases kind
    · intro operator about
      have found : readOperator (activationEvent "pokt1op" "svc1").attributes =
        .ok (some operator) := about
      rw [activated, Except.ok.injEq, Option.some.injEq] at found
      subst found
      decide
    · intro operator about
      have found : readOperator (unbondingEnded "pokt1op").attributes = .ok (some operator) :=
        about
      rw [ended, Except.ok.injEq, Option.some.injEq] at found
      subst found
      decide
  have prior : EarlierConfigs 120 oneConfigTables.services :=
    ⟨by unfold NamedRows; decide, by decide⟩
  -- The activation is what loads the config.
  have loads : Loads plainExternals "pokt1op" (.event (activationEvent "pokt1op" "svc1")) :=
    ⟨rfl, activated⟩
  exact ⟨after, ok_of_toOption ran, (unbondingEnd_closes_iff prior addressed data rfl ended
    (by simp) (ok_of_toOption ran)).mpr (Or.inr ⟨_, by rw [data]; exact List.mem_cons_self, loads⟩)⟩

/-- On its own the end of an unbonding leaves the config open. -/
theorem unbondingEnd_keeps_config :
    ∃ after, indexSupplier plainExternals 120 oneConfigTables
        [.event (unbondingEnded "pokt1op")] = .ok after ∧
      openConfigs 120 "pokt1op" after.services =
        [⟨plainConfig "pokt1op" "svc1" none, none, ⟨5, none⟩⟩] := by
  have kept : ((indexSupplier plainExternals 120 oneConfigTables
      [.event (unbondingEnded "pokt1op")]).toOption.map fun after =>
        openConfigs 120 "pokt1op" after.services) =
          some [⟨plainConfig "pokt1op" "svc1" none, none, ⟨5, none⟩⟩] := by decide +kernel
  obtain ⟨after, ran, same⟩ := Option.map_eq_some_iff.mp kept
  exact ⟨after, ok_of_toOption ran, same⟩

/-- The services of a stake message or a Morse claim of an operator. -/
def stakedBy (operator : String) : StakeDatum → Option (List SupplierServiceConfig)
  | .event _ => none
  | .msg sent => match sent.decodedMsg with
    | .stakeSupplier decoded =>
      if decoded.operatorAddress = operator then some decoded.services else none
    | .claimMorseSupplier decoded =>
      if decoded.shannonOperatorAddress = operator then some decoded.services else none
    | _ => none

/-- Whether a datum ends the unbonding of an operator. -/
def endsUnbonding (operator : String) : StakeDatum → Bool
  | .event emitted => emitted.type = .supplierUnbondingEnd ∧
      (readOperator emitted.attributes).toOption = some (some operator)
  | .msg _ => false

/-- The ids of the configs an operator holds after a datum. A message removes those that are not
among its plain service ids. -/
def heldAfter (operator : String) (held : List String) (datum : StakeDatum) : List String :=
  match stakedBy operator datum with
  | some raw => held.filter (fun id => id ∈ raw.map SupplierServiceConfig.serviceId) ++
      raw.map fun config => getStakeServiceId operator config.serviceId
  | none => if endsUnbonding operator datum then [] else held

/-- What a message offers for a service. -/
def SupplierServiceConfig.offer (config : SupplierServiceConfig) :
    String × List SupplierEndpoint × List SupplierRevShare :=
  (config.serviceId, config.endpoints,
    config.revShare.map fun share => ⟨share.address, toString share.revSharePercentage⟩)

/-- What a stored config offers for its service. -/
def SupplierServiceConfigProps.offer (service : SupplierServiceConfigProps) :
    String × List SupplierEndpoint × List SupplierRevShare :=
  (service.serviceId, service.endpoints, service.revShare)

/-- The visible configs of an operator are the listed ones, each once, and older versions are
closed. -/
structure LeavesServices (height : ℕ) (operator : String) (raw : List SupplierServiceConfig)
    (rows : List (Row SupplierServiceConfigProps)) : Prop where
  exactly : ((openConfigs height operator rows).map fun row => row.data.offer).Perm
    (raw.map SupplierServiceConfig.offer)
  closed : ∀ row ∈ rows, row.data.supplierId = operator → row.blockRange.lower < height →
    row.openAt height = false

/-- Services of one operator have the same config id only when they are the same. -/
theorem getStakeServiceId_right {operator service other : String}
    (same : getStakeServiceId operator service = getStakeServiceId operator other) :
    service = other := by
  simpa [getStakeServiceId, ToString.toString] using same

section Staked

variable {externals : Externals} {datum : StakeDatum} {data : List StakeDatum}
  {records after : SupplierRecords} {changes : SupplierChanges} {operator : String}
  {raw : List SupplierServiceConfig}

/-- The configs an operator is known to have after it staked. -/
def stakedServices (externals : Externals) (raw : List SupplierServiceConfig) (operator : String)
    (known : Dict String SupplierServiceConfigProps) : Dict String SupplierServiceConfigProps :=
  updateServices (getServices externals raw operator known.keys).servicesToRemove
    (raw.map (serviceConfig externals operator)) known

/-- A message of an operator sets the configs of its services, and closes those it removes or
sets. -/
theorem SupplierStep.staked (step : SupplierStep externals records datum changes after)
    (told : stakedBy operator datum = some raw) :
    knownServices (after operator) =
        stakedServices externals raw operator (knownServices (records operator)) ∧
      changes.servicesToClose = closedByStaking externals raw operator (records operator) := by
  cases step with
  | stake kind _ =>
    simp only [stakedBy, kind, Option.ite_none_right_eq_some, Option.some.injEq] at told
    obtain ⟨rfl, rfl⟩ := told
    rw [Function.update_self]
    exact ⟨rfl, rfl⟩
  | claim kind _ =>
    simp only [stakedBy, kind, Option.ite_none_right_eq_some, Option.some.injEq] at told
    obtain ⟨rfl, rfl⟩ := told
    rw [Function.update_self]
    exact ⟨rfl, rfl⟩
  | unstake kind _ _ => simp [stakedBy, kind] at told
  | @ignoreMsg msg none =>
    cases kind : msg.decodedMsg <;> simp [stakedBy, kind, supplierPath] at told none
  | unbondingBegin => cases told
  | unbondingEnd => cases told
  | slash => cases told
  | activate => cases told
  | activateUnknown => cases told
  | ignoreEvent => cases told

/-- A service of a message is known under its config id. -/
theorem get_stakedServices_listed (distinct : (raw.map SupplierServiceConfig.serviceId).Nodup)
    (known : Dict String SupplierServiceConfigProps) {config : SupplierServiceConfig}
    (listed : config ∈ raw) :
    (stakedServices externals raw operator known).get
        (getStakeServiceId operator config.serviceId) =
      some (serviceConfig externals operator config) := by
  rw [stakedServices, get_updateServices]
  have found : ((raw.map (serviceConfig externals operator)).reverse.find? fun service =>
      service.id = getStakeServiceId operator config.serviceId) =
        some (serviceConfig externals operator config) := by
    cases located : (raw.map (serviceConfig externals operator)).reverse.find? fun service =>
        service.id = getStakeServiceId operator config.serviceId with
    | none =>
      have absent := List.find?_eq_none.mp located (serviceConfig externals operator config)
        (List.mem_reverse.mpr (List.mem_map.mpr ⟨config, listed, rfl⟩))
      exact absurd (decide_eq_true rfl) absent
    | some service =>
      -- Only one service of the message has this id.
      have identified : service.id = getStakeServiceId operator config.serviceId := by
        simpa using List.find?_some located
      obtain ⟨other, member, rfl⟩ := List.mem_map.mp
        (List.mem_reverse.mp (List.mem_of_find?_eq_some located))
      have same : getStakeServiceId operator other.serviceId =
          getStakeServiceId operator config.serviceId := identified
      rw [List.inj_on_of_nodup_map distinct member listed (getStakeServiceId_right same)]
  rw [found, Option.some_or]

/-- Besides the services of a message, what was known under one of its plain ids is known. -/
theorem get_stakedServices_unlisted (known : Dict String SupplierServiceConfigProps) {id : String}
    (unlisted : id ∉ raw.map fun config => getStakeServiceId operator config.serviceId) :
    (stakedServices externals raw operator known).get id =
      if id ∈ raw.map SupplierServiceConfig.serviceId then known.get id else none := by
  rw [stakedServices, get_updateServices]
  have absent : ((raw.map (serviceConfig externals operator)).reverse.find? fun service =>
      service.id = id) = none := by
    refine List.find?_eq_none.mpr fun service member same => unlisted ?_
    obtain ⟨config, listed, rfl⟩ := List.mem_map.mp (List.mem_reverse.mp member)
    exact List.mem_map.mpr ⟨config, listed, of_decide_eq_true same⟩
  rw [absent, Option.none_or, getServices]
  by_cases plain : id ∈ raw.map SupplierServiceConfig.serviceId
  · have kept : id ∉ known.keys.filter fun id =>
        id ∉ raw.map SupplierServiceConfig.serviceId := fun removed =>
      absurd plain (of_decide_eq_true (List.mem_filter.mp removed).2)
    rw [if_pos plain, if_neg kept]
  · rw [if_neg plain]
    -- An id that is not among the plain ones is removed, if it was known at all.
    split
    · rfl
    · rename_i kept
      refine Dict.get_eq_none.mpr fun listed => kept (List.mem_filter.mpr ⟨listed, ?_⟩)
      exact decide_eq_true plain

/-- Whatever else happens to an operator, its configs keep what they offer. -/
theorem SupplierStep.offers (step : SupplierStep externals records datum changes after)
    (kept : WellKept records) (unstaked : stakedBy operator datum = none)
    (unended : endsUnbonding operator datum = false) (id : String) :
    ((knownServices (after operator)).get id).map SupplierServiceConfigProps.offer =
      ((knownServices (records operator)).get id).map SupplierServiceConfigProps.offer := by
  -- Most handlers write the supplier only.
  have same : ∀ {other : String} {entry : SupplierRecord} {supplier : Option Supplier},
      records other = some entry →
        knownServices (Function.update records other (some { entry with supplier }) operator) =
          knownServices (records operator) := by
    intro other entry supplier found
    by_cases equal : operator = other
    · subst equal
      rw [Function.update_self, found]
      rfl
    · rw [Function.update_of_ne equal]
  cases step with
  | @stake msg decoded amount denom kind _ =>
    have apart : decoded.operatorAddress ≠ operator := by simpa [stakedBy, kind] using unstaked
    rw [Function.update_of_ne apart.symm]
  | @claim msg decoded props kind _ =>
    have apart : decoded.shannonOperatorAddress ≠ operator := by
      simpa [stakedBy, kind] using unstaked
    rw [Function.update_of_ne apart.symm]
  | unstake _ found _ => rw [same found]
  | unbondingBegin _ _ found _ => rw [same found]
  | @unbondingEnd event unbonding entry supplier reason recorded kind told found has =>
    have apart : operator ≠ unbonding.operatorAddress := by
      intro equal
      subst equal
      simp [endsUnbonding, kind, (readSupplierUnbonding_ok told.read).1, Except.toOption] at unended
    rw [Function.update_of_ne apart]
  | slash _ _ found _ => rw [same found]
  | @activate event height other entry kind read found =>
    by_cases equal : operator = other
    · subst equal
      have named : NamedServices operator entry.services := by
        have own := kept.named operator
        rwa [found] at own
      rw [Function.update_self, found]
      show ((activatedEntry height _ entry).services.get id).map _ = (entry.services.get id).map _
      rw [get_activatedEntry named, Option.map_map]
      -- What an activation notes is no part of an offer.
      congr 1
      funext service
      simp only [Function.comp_apply]
      split <;> rfl
    · rw [Function.update_of_ne equal]
  | activateUnknown => rfl
  | ignoreMsg => rfl
  | ignoreEvent => rfl

/-- A step keeps track of the ids of the known configs. -/
theorem SupplierStep.held (step : SupplierStep externals records datum changes after)
    (kept : WellKept records) {held : List String}
    (tracked : ∀ id, id ∈ held ↔ (knownServices (records operator)).get id ≠ none) (id : String) :
    id ∈ heldAfter operator held datum ↔ (knownServices (after operator)).get id ≠ none := by
  unfold heldAfter
  cases told : stakedBy operator datum with
  | some raw =>
    rw [(step.staked told).1]
    simp only [List.mem_append, List.mem_filter, decide_eq_true_eq, tracked]
    by_cases listed : id ∈ raw.map fun config => getStakeServiceId operator config.serviceId
    · refine iff_of_true (Or.inr listed) ?_
      -- The id is set last, whatever was known.
      rw [stakedServices, get_updateServices, Ne, Option.or_eq_none_iff, List.find?_eq_none]
      intro absent
      obtain ⟨config, member, same⟩ := List.mem_map.mp listed
      exact absent.1 (serviceConfig externals operator config)
        (List.mem_reverse.mpr (List.mem_map.mpr ⟨config, member, rfl⟩)) (decide_eq_true same)
    · rw [get_stakedServices_unlisted _ listed]
      by_cases plain : id ∈ raw.map SupplierServiceConfig.serviceId
      · simp [plain, listed]
      · simp [plain, listed]
  | none =>
    cases ended : endsUnbonding operator datum with
    | true =>
      cases datum with
      | msg => cases ended
      | event emitted =>
        simp only [endsUnbonding, decide_eq_true_eq] at ended
        have about : Concerns externals operator (.event emitted) := by
          simp only [Concerns, ended.1, ok_of_toOption ended.2]
        have bare := step.unbondingEnd_bare ended.1 about
        simp [bare id]
    | false =>
      have same := step.offers kept told ended id
      rw [if_neg (by simp), tracked, ← Option.isSome_iff_ne_none, ← Option.isSome_iff_ne_none,
        ← Option.isSome_map (f := SupplierServiceConfigProps.offer), ← same, Option.isSome_map]

/-- A run keeps track of the ids of the known configs. -/
theorem SupplierRun.held (run : SupplierRun externals records data changes after)
    (kept : WellKept records) {held : List String}
    (tracked : ∀ id, id ∈ held ↔ (knownServices (records operator)).get id ≠ none) (id : String) :
    id ∈ data.foldl (heldAfter operator) held ↔ (knownServices (after operator)).get id ≠ none := by
  induction run generalizing held with
  | nil => exact tracked id
  | cons step _ ih => exact ih (step.wellKept kept) (step.held kept tracked)

/-- After an operator's last message its configs keep what they offer. -/
theorem SupplierRun.offers (run : SupplierRun externals records data changes after)
    (kept : WellKept records) (unstaked : ∀ datum ∈ data, stakedBy operator datum = none)
    (unended : ∀ datum ∈ data, endsUnbonding operator datum = false) (id : String) :
    ((knownServices (after operator)).get id).map SupplierServiceConfigProps.offer =
      ((knownServices (records operator)).get id).map SupplierServiceConfigProps.offer := by
  induction run with
  | nil => rfl
  | cons step _ ih =>
    rw [ih (step.wellKept kept) (fun other member => unstaked other (List.mem_cons_of_mem _ member))
      fun other member => unended other (List.mem_cons_of_mem _ member)]
    exact step.offers kept (unstaked _ List.mem_cons_self) (unended _ List.mem_cons_self) id

end Staked

section Left

variable {externals : Externals} {height : ℕ} {tables after : SupplierTables}
  {allData before rest : List StakeDatum} {staked : StakeDatum} {operator : String}
  {raw : List SupplierServiceConfig}

/-- The ids of the configs an operator holds when a message of it is handled. -/
def heldBefore (height : ℕ) (operator : String) (before : List StakeDatum)
    (rows : List (Row SupplierServiceConfigProps)) : List String :=
  before.foldl (heldAfter operator) ((openConfigs height operator rows).map fun row => row.data.id)

/-- A message of an operator makes the block load its configs. -/
theorem loads_of_stakedBy (told : stakedBy operator staked = some raw) :
    Loads externals operator staked := by
  cases staked with
  | event => cases told
  | msg sent =>
    cases kind : sent.decodedMsg <;>
      simp only [stakedBy, kind, reduceCtorEq, Option.ite_none_right_eq_some] at told
    · exact ⟨by simp [fetchesServices, kind], by
        simp [Concerns, kind, supplierPath, DecodedMsg.get, told.1]⟩
    · exact ⟨by simp [fetchesServices, kind], by
        simp [Concerns, kind, supplierPath, DecodedMsg.get, told.1]⟩

/-- Configs that are known under the ids of some services, and no others, offer those services. -/
theorem offers_perm (operator : String) {known : Dict String SupplierServiceConfigProps}
    (distinct : (raw.map SupplierServiceConfig.serviceId).Nodup)
    (same : ∀ id offer, (known.get id).map SupplierServiceConfigProps.offer = some offer ↔
      ∃ config ∈ raw, getStakeServiceId operator config.serviceId = id ∧ config.offer = offer) :
    (known.values.map SupplierServiceConfigProps.offer).Perm
      (raw.map SupplierServiceConfig.offer) := by
  -- With their ids the offers of both sides are distinct.
  have left : (known.entries.map fun entry => (entry.1, entry.2.offer)).Nodup := by
    refine List.Nodup.of_map Prod.fst ?_
    rw [List.map_map]
    exact known.nodup
  have right : (raw.map fun config =>
      (getStakeServiceId operator config.serviceId, config.offer)).Nodup := by
    refine List.Nodup.of_map (fun pair => pair.2.1) ?_
    rw [List.map_map]
    exact distinct
  have perm := (List.perm_ext_iff_of_nodup left right).mpr fun pair => by
    have told := same pair.1 pair.2
    rw [Option.map_eq_some_iff] at told
    simp only [List.mem_map]
    constructor
    · rintro ⟨entry, inside, rfl⟩
      obtain ⟨config, listed, identified, offered⟩ :=
        told.mp ⟨entry.2, Dict.get_eq_some.mpr inside, rfl⟩
      exact ⟨config, listed, Prod.ext identified offered⟩
    · rintro ⟨config, listed, rfl⟩
      obtain ⟨service, found, offered⟩ := told.mpr ⟨config, listed, rfl, rfl⟩
      exact ⟨_, Dict.get_eq_some.mp found, Prod.ext rfl offered⟩
  have offers := perm.map Prod.snd
  rw [List.map_map, List.map_map] at offers
  rw [Dict.values, List.map_map]
  exact offers

/-- What a run with a message of an operator, its last one, leaves of the operator's configs. -/
theorem SupplierRun.lastStaked {records final : SupplierRecords} {changes : SupplierChanges}
    (run : SupplierRun externals records (before ++ staked :: rest) changes final)
    (kept : WellKept records) (told : stakedBy operator staked = some raw)
    (last : ∀ datum ∈ rest, stakedBy operator datum = none)
    (unended : ∀ datum ∈ rest, endsUnbonding operator datum = false) {held : List String}
    (tracked : ∀ id, id ∈ held ↔ (knownServices (records operator)).get id ≠ none) :
    ∃ known, (∀ id, id ∈ before.foldl (heldAfter operator) held ↔ known.get id ≠ none) ∧
      (∀ id, ((knownServices (final operator)).get id).map SupplierServiceConfigProps.offer =
        ((stakedServices externals raw operator known).get id).map
          SupplierServiceConfigProps.offer) ∧
      ∀ config ∈ raw, getStakeServiceId operator config.serviceId ∈ changes.servicesToClose := by
  obtain ⟨middle, earlier, later, first, second, closed⟩ := run.split
  cases second with
  | cons step second =>
    obtain ⟨set, closing⟩ := step.staked told
    refine ⟨knownServices (middle operator), first.held kept tracked, fun id => ?_, ?_⟩
    · rw [second.offers (step.wellKept (first.wellKept kept)) last unended id, set]
    · intro config listed
      rw [closed, List.mem_append]
      refine Or.inr (List.mem_append_left _ ?_)
      rw [closing]
      exact List.mem_append_right _
        (List.mem_map.mpr ⟨_, List.mem_map.mpr ⟨config, listed, rfl⟩, rfl⟩)

/-- After the last message of an operator its visible configs are the services of the message, just
when none of the service ids is the id of a config the operator held. -/
theorem stake_leaves_services_iff (prior : EarlierConfigs height tables.services)
    (consistent : ∀ datum ∈ blockData allData, NamesOneOperator datum)
    (split : blockData allData = before ++ staked :: rest)
    (told : stakedBy operator staked = some raw)
    (distinct : (raw.map SupplierServiceConfig.serviceId).Nodup)
    (last : ∀ datum ∈ rest, stakedBy operator datum = none)
    (unended : ∀ datum ∈ rest, endsUnbonding operator datum = false)
    (ran : indexSupplier externals height tables allData = .ok after) :
    LeavesServices height operator raw after.services ↔
      ∀ id ∈ heldBefore height operator before tables.services,
        id ∈ raw.map SupplierServiceConfig.serviceId →
          id ∈ raw.map fun config => getStakeServiceId operator config.serviceId := by
  obtain ⟨suppliers, operators, changes, record, collected, run, same⟩ :=
    indexSupplier_ok prior.named consistent ran
  have kept : WellKept (fetchSupplierData height tables suppliers operators).get :=
    fetchSupplierData_wellKept prior.named
  have fetched : operator ∈ operators := (mem_operators run consistent collected operator).mpr
    ⟨staked, by rw [split]; simp, loads_of_stakedBy told⟩
  -- What is visible afterwards: the configs left open, and those that are saved.
  have rows : openConfigs height operator after.services =
      (openConfigs height operator tables.services).filter
          (fun row => row.data.id ∉ changes.servicesToClose) ++
        (knownServices (record.get operator)).values.map (Row.fresh height) := by
    rw [same, openConfigs_indexed (run.wellKept kept) prior.older]
  have named := (run.wellKept kept).named operator
  have tracked := @mem_openConfigs_ids height tables suppliers operators operator fetched
  rw [split] at run
  obtain ⟨known, held, offers, closing⟩ := run.lastStaked kept told last unended tracked
  constructor
  · -- A config that was held under a plain id is still known, and is saved.
    intro leaves id listed plain
    by_contra unset
    have still : ((knownServices (record.get operator)).get id).map
        SupplierServiceConfigProps.offer ≠ none := by
      rw [offers, get_stakedServices_unlisted _ unset, if_pos plain, Ne, Option.map_eq_none_iff]
      exact (held id).mp listed
    rw [Ne, Option.map_eq_none_iff] at still
    obtain ⟨service, found⟩ := Option.ne_none_iff_exists'.mp still
    have saved : service.offer ∈ raw.map SupplierServiceConfig.offer := by
      refine leaves.exactly.mem_iff.mp ?_
      rw [rows, List.map_append, List.mem_append, List.map_map]
      exact Or.inr (List.mem_map.mpr ⟨service, Dict.mem_values.mpr ⟨id, found⟩, rfl⟩)
    obtain ⟨config, member, offered⟩ := List.mem_map.mp saved
    refine unset (List.mem_map.mpr ⟨config, member, ?_⟩)
    rw [(named id service found).2.2]
    exact congrArg (getStakeServiceId operator) (congrArg Prod.fst offered)
  · intro apart
    -- Besides the services of the message nothing is known.
    have absent : ∀ id, id ∉ raw.map (fun config => getStakeServiceId operator config.serviceId) →
        (stakedServices externals raw operator known).get id = none := by
      intro id unset
      rw [get_stakedServices_unlisted _ unset]
      split
      · rename_i plain
        by_contra found
        exact unset (apart id ((held id).mpr found) plain)
      · rfl
    -- A visible config that is not closed would still be known.
    have closed : (openConfigs height operator tables.services).filter
        (fun row => row.data.id ∉ changes.servicesToClose) = [] := by
      refine List.filter_eq_nil_iff.mpr fun row member => ?_
      simp only [decide_eq_true_eq, not_not]
      by_contra untouched
      have still := (tracked row.data.id).mp (List.mem_map.mpr ⟨row, member, rfl⟩)
      have unset : row.data.id ∉ raw.map fun config =>
          getStakeServiceId operator config.serviceId := by
        intro listed
        obtain ⟨config, inside, identified⟩ := List.mem_map.mp listed
        exact untouched (identified ▸ closing config inside)
      rw [← run.unclosed untouched, ← Option.isSome_iff_ne_none,
        ← Option.isSome_map (f := SupplierServiceConfigProps.offer), offers, absent _ unset] at still
      cases still
    rw [closed, List.nil_append] at rows
    constructor
    · -- What is saved are the offers of the message, each once.
      rw [rows, List.map_map]
      refine offers_perm operator distinct fun id offer => ?_
      rw [offers]
      constructor
      · intro found
        by_cases listed : id ∈ raw.map fun config => getStakeServiceId operator config.serviceId
        · obtain ⟨config, member, rfl⟩ := List.mem_map.mp listed
          rw [get_stakedServices_listed distinct _ member, Option.map_some,
            Option.some.injEq] at found
          exact ⟨config, member, rfl, found⟩
        · rw [absent id listed] at found
          cases found
      · rintro ⟨config, member, rfl, rfl⟩
        rw [get_stakedServices_listed distinct _ member]
        rfl
    · intro row inside own older
      by_contra visible
      have member : row ∈ openConfigs height operator after.services :=
        List.mem_filter.mpr ⟨inside, by simp [own, Bool.eq_true_of_not_eq_false visible]⟩
      -- Every visible row is of this block.
      rw [rows] at member
      obtain ⟨service, _, rfl⟩ := List.mem_map.mp member
      exact Nat.lt_irrefl height older

end Left

/-- A message of a supplier that stakes for services at height 120. -/
def stakeMessage (operator : String) (services : List SupplierServiceConfig) : CosmosMessage where
  idx := 0
  height := 120
  tx := ⟨0, "S", 0, []⟩
  decodedMsg := .stakeSupplier ⟨operator, operator, operator, some ⟨"100", "upokt"⟩, services⟩

/-- A service whose revenue goes to one address. -/
def plainService (operator serviceId : String) : SupplierServiceConfig :=
  ⟨serviceId, [⟨"https://node.test", 3, []⟩], [⟨operator, 100⟩]⟩

/-- Staking for the service it has and for another one leaves a supplier with both. -/
theorem stake_leaves_services_two :
    ∃ after, indexSupplier plainExternals 120 oneConfigTables [.msg (stakeMessage "pokt1op"
        [plainService "pokt1op" "svc1", plainService "pokt1op" "svc2"])] = .ok after ∧
      LeavesServices 120 "pokt1op" [plainService "pokt1op" "svc1", plainService "pokt1op" "svc2"]
        after.services := by
  have data : blockData [.msg (stakeMessage "pokt1op" [plainService "pokt1op" "svc1",
      plainService "pokt1op" "svc2"])] = [] ++ .msg (stakeMessage "pokt1op"
        [plainService "pokt1op" "svc1", plainService "pokt1op" "svc2"]) :: [] := by decide +kernel
  have succeeds : (indexSupplier plainExternals 120 oneConfigTables [.msg (stakeMessage "pokt1op"
      [plainService "pokt1op" "svc1", plainService "pokt1op" "svc2"])]).toOption.isSome = true := by
    decide +kernel
  obtain ⟨after, ran⟩ := Option.isSome_iff_exists.mp succeeds
  have prior : EarlierConfigs 120 oneConfigTables.services :=
    ⟨by unfold NamedRows; decide, by decide⟩
  have consistent : ∀ datum ∈ blockData [.msg (stakeMessage "pokt1op"
      [plainService "pokt1op" "svc1", plainService "pokt1op" "svc2"])], NamesOneOperator datum := by
    rw [data]
    intro datum member event same
    subst same
    simp at member
  exact ⟨after, ok_of_toOption ran, (stake_leaves_services_iff prior consistent data
    (by decide) (by decide) (by simp) (by simp) (ok_of_toOption ran)).mpr (by decide)⟩

/-- A service that is named like the stored config keeps it open. -/
theorem stake_keeps_config :
    ∃ after, indexSupplier plainExternals 120 oneConfigTables
        [.msg (stakeMessage "pokt1op" [plainService "pokt1op" "pokt1op-svc1"])] = .ok after ∧
      ¬LeavesServices 120 "pokt1op" [plainService "pokt1op" "pokt1op-svc1"] after.services := by
  have kept : ((indexSupplier plainExternals 120 oneConfigTables
      [.msg (stakeMessage "pokt1op" [plainService "pokt1op" "pokt1op-svc1"])]).toOption.map
        fun after => (openConfigs 120 "pokt1op" after.services).map fun row => row.data.id) =
          some ["pokt1op-svc1", "pokt1op-svc1", "pokt1op-pokt1op-svc1"] := by decide +kernel
  obtain ⟨after, ran, same⟩ := Option.map_eq_some_iff.mp kept
  refine ⟨after, ok_of_toOption ran, fun leaves => ?_⟩
  have three := congrArg List.length same
  have one := leaves.exactly.length_eq
  simp only [List.length_map, List.length_cons, List.length_nil] at three one
  omega

end Pocketdex
