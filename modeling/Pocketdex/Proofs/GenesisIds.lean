import Pocketdex.Primitives.GenesisEntities
import Pocketdex.Utils.Ids

/-! The ids of the rows the genesis block writes, and when two of them are the same. -/

namespace Pocketdex

/-- The number of an entity is read off the hash made up for it. -/
theorem fakeTxHash_toList (entity : FakeTxType) (index : ℕ) :
    (fakeTxHash entity index).toList =
      (List.replicate (64 - (fakeTxDigits index).length - 1) '0' ++ fakeTxDigits index) ++
        [entity.entityId] := by
  rw [fakeTxHash, String.toList_ofList]

/-- Digits that are filled up with zeros still stand for the number of the entity. -/
theorem ofDigitChars_fakeTxDigits (zeros index : ℕ) :
    Nat.ofDigitChars 10 (List.replicate zeros '0' ++ fakeTxDigits index) 0 = index + 1 := by
  rw [Nat.ofDigitChars_append, Nat.ofDigitChars_replicate_zero, Nat.mul_zero, fakeTxDigits,
    Nat.toString_eq_ofList_toDigits, String.toList_ofList, Nat.ofDigitChars_ten_toDigits]

/-- Kinds are told apart by their letters. -/
theorem entityId_inj {entity other : FakeTxType} (same : entity.entityId = other.entityId) :
    entity = other := by
  cases entity <;> cases other <;> first | rfl | exact absurd same (by decide)

/-- The hashes made up for different entities differ. -/
theorem fakeTxHash_inj {entity other : FakeTxType} {index second : ℕ}
    (same : fakeTxHash entity index = fakeTxHash other second) :
    entity = other ∧ index = second := by
  have listed := congrArg String.toList same
  rw [fakeTxHash_toList, fakeTxHash_toList] at listed
  -- The last letter tells the kind, and what stands before it the number.
  obtain ⟨numbers, letters⟩ := List.append_inj' listed rfl
  have number := congrArg (fun digits => Nat.ofDigitChars 10 digits 0) numbers
  simp only [ofDigitChars_fakeTxDigits] at number
  exact ⟨entityId_inj (List.singleton_inj.mp letters), by omega⟩

/-- A hash that could be made up is the text of its kind and number. -/
theorem getGenesisFakeTxHash_ok {entity : FakeTxType} {index : ℕ} {hash : String}
    (made : getGenesisFakeTxHash entity index = .ok hash) :
    (fakeTxDigits index).length + 1 ≤ 64 ∧ hash = fakeTxHash entity index := by
  unfold getGenesisFakeTxHash at made
  split at made
  · simp at made
  · rename_i short
    simp only [Except.ok.injEq] at made
    exact ⟨by omega, made.symm⟩

/-- The made up hashes have the length of a hash, and tell the kinds and numbers apart. -/
structure FakeHashesDistinct : Prop where
  made : ∀ entity index, index + 1 < 10 ^ 63 → ∃ hash, getGenesisFakeTxHash entity index = .ok hash
  length : ∀ entity index hash, getGenesisFakeTxHash entity index = .ok hash → hash.length = 64
  distinct : ∀ entity index hash other second, getGenesisFakeTxHash entity index = .ok hash →
    getGenesisFakeTxHash other second = .ok hash → entity = other ∧ index = second

/-- The hashes of the genesis file never collide. -/
theorem fakeHashesDistinct : FakeHashesDistinct where
  made entity index small := by
    have digits : (fakeTxDigits index).length ≤ 63 := by
      rw [fakeTxDigits, Nat.toString_eq_ofList_toDigits, String.toList_ofList]
      exact (Nat.length_toDigits_le_iff (by decide) (by decide)).mpr small
    refine ⟨fakeTxHash entity index, ?_⟩
    rw [getGenesisFakeTxHash, if_neg (by omega)]
  length entity index hash made := by
    obtain ⟨short, rfl⟩ := getGenesisFakeTxHash_ok made
    rw [← String.length_toList, fakeTxHash_toList, List.length_append, List.length_append,
      List.length_replicate, List.length_singleton]
    omega
  distinct entity index hash other second made again := by
    obtain ⟨_, first⟩ := getGenesisFakeTxHash_ok made
    obtain ⟨_, more⟩ := getGenesisFakeTxHash_ok again
    exact fakeTxHash_inj (first.symm.trans more)

/-- The id of the message made up for a name. -/
def genesisId (name : String) : String := s!"genesis-{name}"

/-- Names are told apart by their ids. -/
theorem genesisId_injective : Function.Injective genesisId := by
  intro first second same
  have listed := congrArg String.toList same
  simp only [genesisId, String.toList_append] at listed
  exact String.toList_inj.mp (by simpa [toString] using listed)

/-- The name of a genesis transaction, by its place in the list. -/
def genTxName (index : ℕ) : String := s!"gen-txs-{index}-0"

/-- The name of a validator that was carried over as state. -/
def stakingValidatorName (operatorAddress : String) : String :=
  s!"staking-validator-{operatorAddress}"

/-- The names of genesis transactions tell their places. -/
theorem genTxName_inj {index second : ℕ} (same : genTxName index = genTxName second) :
    index = second := by
  have listed := congrArg String.toList same
  simp only [genTxName, String.toList_append] at listed
  -- Both names start and end alike.
  have digits := List.append_cancel_left (List.append_cancel_right listed)
  exact toString_inj digits

/-- Operators are told apart by their names. -/
theorem stakingValidatorName_injective : Function.Injective stakingValidatorName := by
  intro first second same
  unfold stakingValidatorName at same
  have listed := congrArg String.toList same
  simp only [String.toList_append] at listed
  exact String.toList_inj.mp (List.append_cancel_left listed)

/-- Names of the two sorts of validators start differently. -/
theorem genTxName_ne_stakingValidatorName {index : ℕ} {operatorAddress : String} :
    genTxName index ≠ stakingValidatorName operatorAddress := by
  intro same
  unfold genTxName stakingValidatorName at same
  have listed := congrArg String.toList same
  have first : (toString "gen-txs-").toList = 'g' :: "en-txs-".toList := by decide
  have second : (toString "staking-validator-").toList = 's' :: "taking-validator-".toList := by
    decide
  simp only [String.toList_append, first, second, List.cons_append, List.cons.injEq] at listed
  exact absurd listed.1 (by decide)

/-- What a group of records owes to its entities: its hash, and the name in both of its ids. -/
structure Identified {μ : Type} (msgId : μ → String) (docs : GenesisDocs μ)
    (number : FakeTxType × ℕ) (name : String) : Prop where
  transaction : docs.transaction.id = fakeTxHash number.1 number.2
  message : docs.message.id = genesisId name
  entityMsg : msgId docs.entityMsg = genesisId name

/-- A service is named by its id, and always has the number zero. -/
theorem genesisServiceDocs_ids {blockId : ℕ} {service : GenesisService}
    {docs : GenesisDocs MsgAddServiceProps}
    (ran : genesisServiceDocs blockId service = .ok docs) :
    Identified MsgAddServiceProps.id docs (.service, 0) service.id := by
  obtain ⟨_, _, ran⟩ := exceptBind_ok ran
  obtain ⟨_, made, ran⟩ := exceptBind_ok ran
  obtain ⟨_, rfl⟩ := getGenesisFakeTxHash_ok made
  simp only [pure, Except.pure, Except.ok.injEq] at ran
  subst ran
  exact ⟨rfl, rfl, rfl⟩

/-- A supplier is named by its operator. -/
theorem genesisSupplierDocs_ids {blockId : ℕ} {supplier : GenesisSupplier × ℕ}
    {docs : GenesisDocs MsgStakeSupplierProps}
    (ran : genesisSupplierDocs blockId supplier = .ok docs) :
    Identified MsgStakeSupplierProps.id docs (.supplier, supplier.2) supplier.1.operatorAddress := by
  obtain ⟨_, made, ran⟩ := exceptBind_ok ran
  obtain ⟨_, rfl⟩ := getGenesisFakeTxHash_ok made
  obtain ⟨_, _, ran⟩ := exceptBind_ok ran
  simp only [pure, Except.pure, Except.ok.injEq] at ran
  subst ran
  exact ⟨rfl, rfl, rfl⟩

/-- An application is named by its address. -/
theorem genesisApplicationDocs_ids {blockId : ℕ} {app : GenesisApplication × ℕ}
    {docs : GenesisDocs (MsgStakeApplicationProps × List MsgDelegateToGatewayProps)}
    (ran : genesisApplicationDocs blockId app = .ok docs) :
    Identified (fun entityMsg => entityMsg.1.id) docs (.app, app.2) app.1.address ∧
      docs.entityMsg.2.map MsgDelegateToGatewayProps.id =
        app.1.delegateeGatewayAddresses.map genesisId := by
  obtain ⟨_, made, ran⟩ := exceptBind_ok ran
  obtain ⟨_, rfl⟩ := getGenesisFakeTxHash_ok made
  obtain ⟨_, _, ran⟩ := exceptBind_ok ran
  simp only [pure, Except.pure, Except.ok.injEq] at ran
  subst ran
  refine ⟨⟨rfl, rfl, rfl⟩, ?_⟩
  -- A delegation is named by its gateway, whichever application it belongs to.
  show (app.1.delegateeGatewayAddresses.map _).map _ = _
  rw [List.map_map]
  rfl

/-- A gateway is named by its address. -/
theorem genesisGatewayDocs_ids {blockId : ℕ} {gateway : GenesisGateway × ℕ}
    {docs : GenesisDocs MsgStakeGatewayProps}
    (ran : genesisGatewayDocs blockId gateway = .ok docs) :
    Identified MsgStakeGatewayProps.id docs (.gateway, gateway.2) gateway.1.address := by
  obtain ⟨_, made, ran⟩ := exceptBind_ok ran
  obtain ⟨_, rfl⟩ := getGenesisFakeTxHash_ok made
  obtain ⟨_, _, ran⟩ := exceptBind_ok ran
  simp only [pure, Except.pure, Except.ok.injEq] at ran
  subst ran
  exact ⟨rfl, rfl, rfl⟩

/-- The id of a create message of a genesis transaction. -/
theorem genTxId (index : ℕ) : s!"genesis-gen-txs-{index}-0" = genesisId (genTxName index) := by
  have parts : "genesis-gen-txs-" = "genesis-" ++ "gen-txs-" := by decide
  show "genesis-gen-txs-" ++ toString index ++ "-0" =
    "genesis-" ++ ("gen-txs-" ++ toString index ++ "-0")
  rw [parts, String.append_assoc, String.append_assoc, String.append_assoc]

/-- The id of a create message of a validator that was carried over. -/
theorem stakingValidatorId (operatorAddress : String) :
    s!"genesis-staking-validator-{operatorAddress}" =
      genesisId (stakingValidatorName operatorAddress) := by
  have parts : "genesis-staking-validator-" = "genesis-" ++ "staking-validator-" := by decide
  show "genesis-staking-validator-" ++ operatorAddress =
    "genesis-" ++ ("staking-validator-" ++ operatorAddress)
  rw [parts, String.append_assoc]

/-- A genesis transaction is named by its place. -/
theorem genTxDocs_ids {blockId : ℕ} {genTx : GenesisTransaction × ℕ}
    {docs : GenesisDocs MsgCreateValidatorProps} (ran : genTxDocs blockId genTx = .ok docs) :
    Identified MsgCreateValidatorProps.id docs (.validator, genTx.2) (genTxName genTx.2) := by
  obtain ⟨genTx, index⟩ := genTx
  simp only [genTxDocs] at ran
  split at ran
  · cases ran
  · split at ran
    · cases ran
    · obtain ⟨_, created, ran⟩ := exceptBind_ok ran
      obtain ⟨_, made, created⟩ := exceptBind_ok created
      obtain ⟨_, rfl⟩ := getGenesisFakeTxHash_ok made
      -- Only a message its operator signed is stored.
      split at created
      · cases created
      obtain ⟨_, _, created⟩ := exceptBind_ok created
      simp only [pure, Except.pure, Except.ok.injEq] at created ran
      subst created ran
      exact ⟨rfl, genTxId index, genTxId index⟩

/-- A validator that was carried over is named by its operator. -/
theorem stakingValidatorDocs_ids {blockId genTxs : ℕ} {validator : GenesisStakingValidator × ℕ}
    {docs : GenesisDocs MsgCreateValidatorProps}
    (ran : stakingValidatorDocs blockId genTxs validator = .ok docs) :
    Identified MsgCreateValidatorProps.id docs (.validator, genTxs + validator.2)
      (stakingValidatorName validator.1.operatorAddress) := by
  obtain ⟨_, created, ran⟩ := exceptBind_ok ran
  obtain ⟨_, _, created⟩ := exceptBind_ok created
  obtain ⟨_, made, created⟩ := exceptBind_ok created
  obtain ⟨_, rfl⟩ := getGenesisFakeTxHash_ok made
  simp only [pure, Except.pure, Except.ok.injEq] at created ran
  subst created ran
  exact ⟨rfl, stakingValidatorId _, stakingValidatorId _⟩

section

variable {blockId : ℕ} {genesis : GenesisEntities}

/-- The numbers the transactions of the genesis block are made up from. -/
def GenesisEntities.numbers (genesis : GenesisEntities) : List (FakeTxType × ℕ) :=
  genesis.services.map (fun _ => (.service, 0)) ++
    genesis.suppliers.zipIdx.map (fun supplier => (.supplier, supplier.2)) ++
    genesis.applications.zipIdx.map (fun app => (.app, app.2)) ++
    genesis.gateways.zipIdx.map (fun gateway => (.gateway, gateway.2)) ++
    (genesis.genTxs.zipIdx.map (fun genTx => (.validator, genTx.2)) ++
      genesis.numberedValidators.map fun validator =>
        (.validator, genesis.genTxs.length + validator.2))

/-- The addresses of the entities that stake. -/
def GenesisEntities.addresses (genesis : GenesisEntities) : List String :=
  genesis.suppliers.map GenesisSupplier.operatorAddress ++
    genesis.applications.map GenesisApplication.address ++
    genesis.gateways.map GenesisGateway.address

/-- The names of the create messages. -/
def GenesisEntities.validatorNames (genesis : GenesisEntities) : List String :=
  genesis.genTxs.zipIdx.map (fun genTx => genTxName genTx.2) ++
    genesis.numberedValidators.map fun validator =>
      stakingValidatorName validator.1.operatorAddress

/-- The names the messages of the genesis block are made up from. -/
def GenesisEntities.names (genesis : GenesisEntities) : List String :=
  genesis.services.map GenesisService.id ++ genesis.addresses ++ genesis.validatorNames

/-- The ids the genesis block writes to each table. -/
structure RecordIds (genesis : GenesisEntities) (records : GenesisRecords) : Prop where
  transactions : records.transactions.map TransactionProps.id =
    genesis.numbers.map fun number => fakeTxHash number.1 number.2
  messages : records.messages.map MessageProps.id = genesis.names.map genesisId
  msgAddService : records.msgAddService.map MsgAddServiceProps.id =
    (genesis.services.map GenesisService.id).map genesisId
  msgStakeSupplier : records.msgStakeSupplier.map MsgStakeSupplierProps.id =
    (genesis.suppliers.map GenesisSupplier.operatorAddress).map genesisId
  msgStakeApplication : records.msgStakeApplication.map MsgStakeApplicationProps.id =
    (genesis.applications.map GenesisApplication.address).map genesisId
  msgDelegateToGateway : records.msgDelegateToGateway.map MsgDelegateToGatewayProps.id =
    (genesis.applications.flatMap GenesisApplication.delegateeGatewayAddresses).map genesisId
  msgStakeGateway : records.msgStakeGateway.map MsgStakeGatewayProps.id =
    (genesis.gateways.map GenesisGateway.address).map genesisId
  msgCreateValidator : records.msgCreateValidator.map MsgCreateValidatorProps.id =
    genesis.validatorNames.map genesisId

/-- What the records of a group owe to its entities. -/
structure GroupIds {μ : Type} (msgId : μ → String) (docs : List (GenesisDocs μ))
    (numbers : List (FakeTxType × ℕ)) (names : List String) : Prop where
  transactions : (docs.map GenesisDocs.transaction).map TransactionProps.id =
    numbers.map fun number => fakeTxHash number.1 number.2
  messages : (docs.map GenesisDocs.message).map MessageProps.id = names.map genesisId
  entityMsgs : (docs.map GenesisDocs.entityMsg).map msgId = names.map genesisId

/-- Records that are identified one by one are identified as a group. -/
theorem GroupIds.of_mapM {α μ : Type} {msgId : μ → String}
    {make : α → Except String (GenesisDocs μ)} {items : List α} {docs : List (GenesisDocs μ)}
    {number : α → FakeTxType × ℕ} {name : α → String} (ran : items.mapM make = .ok docs)
    (each : ∀ item one, make item = .ok one → Identified msgId one (number item) (name item)) :
    GroupIds msgId docs (items.map number) (items.map name) where
  transactions := by
    rw [List.map_map, List.map_map]
    exact map_of_mapM_ok ran fun item one made => (each item one made).transaction
  messages := by
    rw [List.map_map, List.map_map]
    exact map_of_mapM_ok ran fun item one made => (each item one made).message
  entityMsgs := by
    rw [List.map_map, List.map_map]
    exact map_of_mapM_ok ran fun item one made => (each item one made).entityMsg

/-- A numbered list without its numbers. -/
theorem map_zipIdx_fst {α β : Type} (items : List α) (name : α → β) :
    items.zipIdx.map (fun item => name item.1) = items.map name := by
  conv_rhs => rw [← List.zipIdx_map_fst 0 items, List.map_map]
  rfl

/-- Validators are numbered by their places in both lists. -/
theorem _handleGenesisGenTxs_ids {docs : List (GenesisDocs MsgCreateValidatorProps)}
    (ran : _handleGenesisGenTxs blockId genesis = .ok docs) :
    GroupIds MsgCreateValidatorProps.id docs
      (genesis.genTxs.zipIdx.map (fun genTx => (.validator, genTx.2)) ++
        genesis.numberedValidators.map fun validator =>
          (.validator, genesis.genTxs.length + validator.2))
      genesis.validatorNames := by
  obtain ⟨created, madeCreated, ran⟩ := exceptBind_ok ran
  obtain ⟨carried, madeCarried, ran⟩ := exceptBind_ok ran
  simp only [pure, Except.pure, Except.ok.injEq] at ran
  subst ran
  have first := GroupIds.of_mapM madeCreated fun _ _ => genTxDocs_ids
  have second := GroupIds.of_mapM madeCarried fun _ _ => stakingValidatorDocs_ids
  constructor
  · simp only [List.map_append, first.transactions, second.transactions]
  · simp only [List.map_append, first.messages, second.messages, GenesisEntities.validatorNames]
  · simp only [List.map_append, first.entityMsgs, second.entityMsgs,
      GenesisEntities.validatorNames]

/-- The ids of the genesis block come from its numbers and names. -/
theorem handleGenesisEntities_ids {records : GenesisRecords}
    (ran : handleGenesisEntities blockId genesis = .ok records) : RecordIds genesis records := by
  obtain ⟨services, madeServices, ran⟩ := exceptBind_ok ran
  obtain ⟨suppliers, madeSuppliers, ran⟩ := exceptBind_ok ran
  obtain ⟨applications, madeApplications, ran⟩ := exceptBind_ok ran
  obtain ⟨gateways, madeGateways, ran⟩ := exceptBind_ok ran
  obtain ⟨genTxs, madeGenTxs, ran⟩ := exceptBind_ok ran
  simp only [pure, Except.pure, Except.ok.injEq] at ran
  subst ran
  -- Each group is identified by its own entities.
  have service := GroupIds.of_mapM madeServices fun _ _ => genesisServiceDocs_ids
  have supplier := GroupIds.of_mapM madeSuppliers fun _ _ => genesisSupplierDocs_ids
  have application := GroupIds.of_mapM madeApplications
    fun _ _ made => (genesisApplicationDocs_ids made).1
  have gateway := GroupIds.of_mapM madeGateways fun _ _ => genesisGatewayDocs_ids
  have validator := _handleGenesisGenTxs_ids madeGenTxs
  rw [map_zipIdx_fst _ GenesisSupplier.operatorAddress] at supplier
  rw [map_zipIdx_fst _ GenesisApplication.address] at application
  rw [map_zipIdx_fst _ GenesisGateway.address] at gateway
  have delegated : applications.map (fun one => one.entityMsg.2.map MsgDelegateToGatewayProps.id) =
      genesis.applications.map fun app => app.delegateeGatewayAddresses.map genesisId :=
    (map_of_mapM_ok madeApplications fun _ _ made => (genesisApplicationDocs_ids made).2).trans
      (map_zipIdx_fst genesis.applications fun app => app.delegateeGatewayAddresses.map genesisId)
  refine ⟨?_, ?_, service.entityMsgs, supplier.entityMsgs, ?_, ?_, gateway.entityMsgs,
    validator.entityMsgs⟩
  · simp only [List.map_append, service.transactions, supplier.transactions,
      application.transactions, gateway.transactions, validator.transactions,
      GenesisEntities.numbers]
  · simp only [List.map_append, service.messages, supplier.messages, application.messages,
      gateway.messages, validator.messages, GenesisEntities.names, GenesisEntities.addresses,
      List.append_assoc]
  · rw [← application.entityMsgs, List.map_map, List.map_map]
    rfl
  · rw [List.map_flatMap, List.map_flatMap, List.flatMap_def, List.flatMap_def, delegated]

/-- Each table gets distinct ids. -/
structure GenesisIdsDistinct (records : GenesisRecords) : Prop where
  transactions : (records.transactions.map TransactionProps.id).Nodup
  messages : (records.messages.map MessageProps.id).Nodup
  msgAddService : (records.msgAddService.map MsgAddServiceProps.id).Nodup
  msgStakeSupplier : (records.msgStakeSupplier.map MsgStakeSupplierProps.id).Nodup
  msgStakeApplication : (records.msgStakeApplication.map MsgStakeApplicationProps.id).Nodup
  msgDelegateToGateway : (records.msgDelegateToGateway.map MsgDelegateToGatewayProps.id).Nodup
  msgStakeGateway : (records.msgStakeGateway.map MsgStakeGatewayProps.id).Nodup
  msgCreateValidator : (records.msgCreateValidator.map MsgCreateValidatorProps.id).Nodup

/-- No list of the genesis file repeats an entity. -/
structure GenesisEntities.Listed (genesis : GenesisEntities) : Prop where
  services : (genesis.services.map GenesisService.id).Nodup
  suppliers : (genesis.suppliers.map GenesisSupplier.operatorAddress).Nodup
  applications : (genesis.applications.map GenesisApplication.address).Nodup
  gateways : (genesis.gateways.map GenesisGateway.address).Nodup
  stakingValidators :
    (genesis.stakingValidators.map GenesisStakingValidator.operatorAddress).Nodup

/-- When the names in the genesis file stay apart. -/
structure GenesisEntities.Apart (genesis : GenesisEntities) : Prop where
  oneService : genesis.services.length ≤ 1
  suppliersFromApplications : (genesis.suppliers.map GenesisSupplier.operatorAddress).Disjoint
    (genesis.applications.map GenesisApplication.address)
  suppliersFromGateways : (genesis.suppliers.map GenesisSupplier.operatorAddress).Disjoint
    (genesis.gateways.map GenesisGateway.address)
  applicationsFromGateways : (genesis.applications.map GenesisApplication.address).Disjoint
    (genesis.gateways.map GenesisGateway.address)
  servicesFromAddresses : (genesis.services.map GenesisService.id).Disjoint genesis.addresses
  servicesFromValidators : (genesis.services.map GenesisService.id).Disjoint genesis.validatorNames
  addressesFromValidators : genesis.addresses.Disjoint genesis.validatorNames
  delegatedOnce :
    (genesis.applications.flatMap GenesisApplication.delegateeGatewayAddresses).Nodup

/-- The places of a list are distinct, under one kind and counted from a number. -/
theorem places_nodup {α : Type} (kind : FakeTxType) (first : ℕ) (items : List α) :
    (items.zipIdx.map fun item => (kind, first + item.2)).Nodup := by
  have places : items.zipIdx.map (fun item => (kind, first + item.2)) =
      (List.range' 0 items.length).map fun place => (kind, first + place) := by
    rw [← List.zipIdx_map_snd 0 items, List.map_map]
    rfl
  rw [places]
  have distinct : (List.range' 0 items.length).Nodup := List.nodup_range' 1
  exact distinct.map fun _ _ same => by simpa using same

/-- Numbers of different kinds are different. -/
theorem kinds_disjoint {α β : Type} {kind other : FakeTxType} (different : kind ≠ other)
    {items : List α} {more : List β} {place : α → ℕ} {second : β → ℕ} :
    (items.map fun item => (kind, place item)).Disjoint
      (more.map fun item => (other, second item)) := by
  intro number one two
  obtain ⟨_, _, rfl⟩ := List.mem_map.mp one
  obtain ⟨_, _, same⟩ := List.mem_map.mp two
  exact different (congrArg Prod.fst same).symm

/-- Validators have distinct numbers. -/
theorem validatorNumbers_nodup (genesis : GenesisEntities) :
    (genesis.genTxs.zipIdx.map (fun genTx => (FakeTxType.validator, genTx.2)) ++
      genesis.numberedValidators.map fun validator =>
        (FakeTxType.validator, genesis.genTxs.length + validator.2)).Nodup := by
  have created := places_nodup .validator 0 genesis.genTxs
  simp only [Nat.zero_add] at created
  have all := places_nodup .validator genesis.genTxs.length genesis.stakingValidators
  -- The validators that are skipped leave gaps.
  refine List.nodup_append'.mpr ⟨created, all.sublist (List.filter_sublist.map _), ?_⟩
  -- Those that were carried over are numbered from the first free number on.
  intro number one two
  obtain ⟨⟨_, index⟩, member, rfl⟩ := List.mem_map.mp one
  obtain ⟨⟨_, place⟩, _, same⟩ := List.mem_map.mp two
  have bound := List.snd_lt_of_mem_zipIdx member
  simp only [Prod.mk.injEq] at same
  omega

/-- The numbers of the transactions are distinct exactly when there is at most one service. -/
theorem numbers_nodup_iff : genesis.numbers.Nodup ↔ genesis.services.length ≤ 1 := by
  have services : (genesis.services.map fun _ => (FakeTxType.service, 0)).Nodup ↔
      genesis.services.length ≤ 1 := by
    rw [List.map_const', List.nodup_replicate]
  have suppliers := places_nodup .supplier 0 genesis.suppliers
  have applications := places_nodup .app 0 genesis.applications
  have gateways := places_nodup .gateway 0 genesis.gateways
  simp only [Nat.zero_add] at suppliers applications gateways
  have validators := validatorNumbers_nodup genesis
  rw [GenesisEntities.numbers, List.nodup_append', List.nodup_append', List.nodup_append',
    List.nodup_append', services]
  constructor
  · rintro ⟨⟨⟨⟨few, _⟩, _⟩, _⟩, _⟩
    exact few
  · intro few
    -- Every other part counts the places of a list, and the parts belong to different kinds.
    refine ⟨⟨⟨⟨few, suppliers, ?_⟩, applications, ?_⟩, gateways, ?_⟩, validators, ?_⟩
    · exact kinds_disjoint (by decide)
    · exact List.disjoint_append_left.mpr
        ⟨kinds_disjoint (by decide), kinds_disjoint (by decide)⟩
    · simp only [List.disjoint_append_left]
      exact ⟨⟨kinds_disjoint (by decide), kinds_disjoint (by decide)⟩,
        kinds_disjoint (by decide)⟩
    · simp only [List.disjoint_append_left, List.disjoint_append_right]
      exact ⟨⟨⟨⟨kinds_disjoint (by decide), kinds_disjoint (by decide)⟩,
        kinds_disjoint (by decide)⟩, kinds_disjoint (by decide)⟩,
        ⟨⟨kinds_disjoint (by decide), kinds_disjoint (by decide)⟩,
        kinds_disjoint (by decide)⟩, kinds_disjoint (by decide)⟩

/-- The names of validators are distinct, since those that were carried over are. -/
theorem validatorNames_nodup (listed : genesis.Listed) : genesis.validatorNames.Nodup := by
  refine List.nodup_append'.mpr ⟨?_, ?_, ?_⟩
  · have places := places_nodup .validator 0 genesis.genTxs
    simp only [Nat.zero_add] at places
    -- A name with a place tells the place.
    have named : (genesis.genTxs.zipIdx.map fun genTx => genTxName genTx.2) =
        (genesis.genTxs.zipIdx.map fun genTx => (FakeTxType.validator, genTx.2)).map
          fun number => genTxName number.2 := by
      rw [List.map_map]
      rfl
    rw [named]
    refine List.Nodup.map_on ?_ places
    intro one first two second same
    obtain ⟨_, _, rfl⟩ := List.mem_map.mp first
    obtain ⟨_, _, rfl⟩ := List.mem_map.mp second
    rw [genTxName_inj same]
  · have operators : (genesis.numberedValidators.map fun validator =>
        validator.1.operatorAddress).Nodup := by
      have all := listed.stakingValidators
      rw [← map_zipIdx_fst] at all
      exact all.sublist (List.filter_sublist.map _)
    have named : (genesis.numberedValidators.map fun validator =>
        stakingValidatorName validator.1.operatorAddress) =
        (genesis.numberedValidators.map fun validator => validator.1.operatorAddress).map
          stakingValidatorName := by
      rw [List.map_map]
      rfl
    rw [named]
    exact operators.map stakingValidatorName_injective
  · intro name one two
    obtain ⟨_, _, rfl⟩ := List.mem_map.mp one
    obtain ⟨_, _, same⟩ := List.mem_map.mp two
    exact genTxName_ne_stakingValidatorName same.symm

/-- The names are distinct exactly when the parts of the genesis file share none. -/
theorem names_nodup_iff (listed : genesis.Listed) :
    genesis.names.Nodup ↔
      (genesis.suppliers.map GenesisSupplier.operatorAddress).Disjoint
          (genesis.applications.map GenesisApplication.address) ∧
        (genesis.suppliers.map GenesisSupplier.operatorAddress).Disjoint
          (genesis.gateways.map GenesisGateway.address) ∧
        (genesis.applications.map GenesisApplication.address).Disjoint
          (genesis.gateways.map GenesisGateway.address) ∧
        (genesis.services.map GenesisService.id).Disjoint genesis.addresses ∧
        (genesis.services.map GenesisService.id).Disjoint genesis.validatorNames ∧
        genesis.addresses.Disjoint genesis.validatorNames := by
  have validators := validatorNames_nodup listed
  have addresses : genesis.addresses.Nodup ↔
      (genesis.suppliers.map GenesisSupplier.operatorAddress).Disjoint
          (genesis.applications.map GenesisApplication.address) ∧
        (genesis.suppliers.map GenesisSupplier.operatorAddress).Disjoint
          (genesis.gateways.map GenesisGateway.address) ∧
        (genesis.applications.map GenesisApplication.address).Disjoint
          (genesis.gateways.map GenesisGateway.address) := by
    rw [GenesisEntities.addresses, List.nodup_append', List.nodup_append',
      List.disjoint_append_left]
    simp only [listed.suppliers, listed.applications, listed.gateways, true_and]
  rw [GenesisEntities.names, List.nodup_append', List.nodup_append', addresses,
    List.disjoint_append_left]
  simp only [listed.services, validators, true_and]
  tauto

/-- The hashes never collide, and the ids are distinct exactly when the names stay apart. -/
theorem genesisIdsDistinct_iff {records : GenesisRecords} (listed : genesis.Listed)
    (ran : handleGenesisEntities blockId genesis = .ok records) :
    FakeHashesDistinct ∧ (GenesisIdsDistinct records ↔ genesis.Apart) := by
  have ids := handleGenesisEntities_ids ran
  have hashed : Function.Injective fun number : FakeTxType × ℕ =>
      fakeTxHash number.1 number.2 := fun _ _ same =>
    Prod.ext (fakeTxHash_inj same).1 (fakeTxHash_inj same).2
  refine ⟨fakeHashesDistinct, ?_⟩
  constructor
  · intro distinct
    have transactions := distinct.transactions
    have messages := distinct.messages
    have delegations := distinct.msgDelegateToGateway
    rw [ids.transactions, List.nodup_map_iff hashed, numbers_nodup_iff] at transactions
    rw [ids.messages, List.nodup_map_iff genesisId_injective, names_nodup_iff listed] at messages
    rw [ids.msgDelegateToGateway, List.nodup_map_iff genesisId_injective] at delegations
    obtain ⟨applications, gateways, others, addresses, validators, apart⟩ := messages
    exact ⟨transactions, applications, gateways, others, addresses, validators, apart, delegations⟩
  · intro apart
    constructor
    · rw [ids.transactions]
      exact (numbers_nodup_iff.mpr apart.oneService).map hashed
    · rw [ids.messages]
      exact ((names_nodup_iff listed).mpr ⟨apart.suppliersFromApplications,
        apart.suppliersFromGateways, apart.applicationsFromGateways, apart.servicesFromAddresses,
        apart.servicesFromValidators, apart.addressesFromValidators⟩).map genesisId_injective
    -- The other tables are written from one list each.
    · rw [ids.msgAddService]
      exact listed.services.map genesisId_injective
    · rw [ids.msgStakeSupplier]
      exact listed.suppliers.map genesisId_injective
    · rw [ids.msgStakeApplication]
      exact listed.applications.map genesisId_injective
    · rw [ids.msgDelegateToGateway]
      exact apart.delegatedOnce.map genesisId_injective
    · rw [ids.msgStakeGateway]
      exact listed.gateways.map genesisId_injective
    · rw [ids.msgCreateValidator]
      exact (validatorNames_nodup listed).map genesisId_injective

end

/-- A genesis file with one service, one supplier, one application and one gateway. -/
def smallGenesis : GenesisEntities where
  services := [⟨"anvil", "Anvil", .finite 1, "pokt1owner"⟩]
  suppliers := [⟨"pokt1supplier", "pokt1owner", ⟨"1000", "upokt"⟩⟩]
  applications := [⟨"pokt1app", ⟨"100", "upokt"⟩, ["pokt1gateway"]⟩]
  gateways := [⟨"pokt1gateway", ⟨"10", "upokt"⟩⟩]
  genTxs := []
  stakingValidators := []

/-- The small file repeats nothing. -/
theorem smallGenesis_listed : smallGenesis.Listed where
  services := by decide +kernel
  suppliers := by decide +kernel
  applications := by decide +kernel
  gateways := by decide +kernel
  stakingValidators := by decide +kernel

/-- Its names stay apart. -/
theorem smallGenesis_apart : smallGenesis.Apart := by
  have names : smallGenesis.names.Nodup := by decide +kernel
  obtain ⟨applications, gateways, others, addresses, validators, apart⟩ :=
    (names_nodup_iff smallGenesis_listed).mp names
  exact ⟨by decide +kernel, applications, gateways, others, addresses, validators, apart,
    by decide +kernel⟩

/-- The ids written for the small file are distinct. -/
theorem genesisIdsDistinct_small :
    ∃ records, handleGenesisEntities 1 smallGenesis = .ok records ∧ GenesisIdsDistinct records := by
  cases ran : handleGenesisEntities 1 smallGenesis with
  | error message =>
    have succeeds : (handleGenesisEntities 1 smallGenesis).toBool = true := by decide +kernel
    simp [ran, Except.toBool] at succeeds
  | ok records =>
    exact ⟨records, rfl,
      (genesisIdsDistinct_iff smallGenesis_listed ran).2.mpr smallGenesis_apart⟩

/-- Two services, an address that stakes twice, and a gateway that is delegated to twice. -/
def sharedGenesis : GenesisEntities where
  services := [⟨"anvil", "Anvil", .finite 1, "pokt1owner"⟩, ⟨"eth", "Ethereum", .finite 2,
    "pokt1owner"⟩]
  suppliers := [⟨"pokt1both", "pokt1owner", ⟨"1000", "upokt"⟩⟩]
  applications := [⟨"pokt1both", ⟨"100", "upokt"⟩, ["pokt1gateway"]⟩,
    ⟨"pokt1app", ⟨"100", "upokt"⟩, ["pokt1gateway"]⟩]
  gateways := [⟨"pokt1gateway", ⟨"10", "upokt"⟩⟩]
  genTxs := []
  stakingValidators := []

/-- Its ids collide in the tables of transactions, messages and delegations. -/
theorem sharedGenesis_collides :
    sharedGenesis.Listed ∧ ∃ records, handleGenesisEntities 1 sharedGenesis = .ok records ∧
      ¬ (records.transactions.map TransactionProps.id).Nodup ∧
      ¬ (records.messages.map MessageProps.id).Nodup ∧
      ¬ (records.msgDelegateToGateway.map MsgDelegateToGatewayProps.id).Nodup := by
  refine ⟨⟨by decide +kernel, by decide +kernel, by decide +kernel, by decide +kernel,
    by decide +kernel⟩, ?_⟩
  cases ran : handleGenesisEntities 1 sharedGenesis with
  | error message =>
    have succeeds : (handleGenesisEntities 1 sharedGenesis).toBool = true := by decide +kernel
    simp [ran, Except.toBool] at succeeds
  | ok records =>
    have ids := handleGenesisEntities_ids ran
    refine ⟨records, rfl, ?_, ?_, ?_⟩
    · rw [ids.transactions]
      decide +kernel
    · rw [ids.messages]
      decide +kernel
    · rw [ids.msgDelegateToGateway]
      decide +kernel

end Pocketdex
