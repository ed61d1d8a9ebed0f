import Pocketdex.Base.Run
import Pocketdex.Proofs.SupplierServices

/-! Over runs of blocks the row versions of suppliers and configs follow each other, as long as each
block closes the configs it loads. -/

namespace Pocketdex

/-- Whether a datum activates the configs of an operator. -/
def activatesConfigs (operator : String) : StakeDatum → Bool
  | .event emitted => emitted.type = .supplierServiceConfigActivated ∧
      (readOperator emitted.attributes).toOption = some (some operator)
  | .msg _ => false

/-- Whether a message closes a config: it removes ids that are none of its plain service ids, and
it sets those of its services. -/
def closesByStaking (service : SupplierServiceConfigProps)
    (raw : List SupplierServiceConfig) : Bool :=
  service.id ∉ raw.map SupplierServiceConfig.serviceId ∨
    service.id ∈ raw.map fun config => getStakeServiceId service.supplierId config.serviceId

/-- Whether a datum closes a stored config. -/
def closesConfig (service : SupplierServiceConfigProps) (datum : StakeDatum) : Bool :=
  (stakedBy service.supplierId datum).any (closesByStaking service) ||
    endsUnbonding service.supplierId datum ||
    (activatesConfigs service.supplierId datum && !service.isActivated)

section Closing

variable {externals : Externals} {datum : StakeDatum} {data : List StakeDatum}
  {records after : SupplierRecords} {changes : SupplierChanges} {operator : String}

/-- A datum closes configs of the operator it is about. -/
theorem concerns_of_closesConfig {service : SupplierServiceConfigProps}
    (closes : closesConfig service datum = true) : Concerns externals service.supplierId datum := by
  simp only [closesConfig, Bool.or_eq_true, Bool.and_eq_true] at closes
  rcases closes with (staked | ended) | ⟨activated, -⟩
  · cases told : stakedBy service.supplierId datum with
    | none => simp [told] at staked
    | some raw => exact (loads_of_stakedBy told).2
  · cases datum with
    | msg => cases ended
    | event emitted =>
      simp only [endsUnbonding, decide_eq_true_eq] at ended
      simp only [Concerns, ended.1, ok_of_toOption ended.2]
  · cases datum with
    | msg => cases activated
    | event emitted =>
      simp only [activatesConfigs, decide_eq_true_eq] at activated
      simp only [Concerns, activated.1, ok_of_toOption activated.2]

/-- A step closes a known config just when its datum does. -/
theorem SupplierStep.closes_iff (step : SupplierStep externals records datum changes after)
    (kept : WellKept records)
    (dashless : ∀ other, Concerns externals other datum → '-' ∉ other.toList)
    (own : '-' ∉ operator.toList) {id : String} {service : SupplierServiceConfigProps}
    (known : (knownServices (records operator)).get id = some service) :
    id ∈ changes.servicesToClose ↔ closesConfig service datum = true := by
  obtain ⟨rfl, rfl, named⟩ := kept.named operator id service known
  by_cases about : Concerns externals service.supplierId datum
  · have listed : service.id ∈ (knownServices (records service.supplierId)).keys :=
      Dict.mem_keys.mpr ⟨service, known⟩
    cases told : stakedBy service.supplierId datum with
    | some raw =>
      have message : endsUnbonding service.supplierId datum = false ∧
          activatesConfigs service.supplierId datum = false := by
        cases datum with
        | msg => exact ⟨rfl, rfl⟩
        | event => cases told
      -- A message closes what it removes, and what it sets.
      rw [(step.staked told).2]
      simp only [closedByStaking, getServices, List.mem_append, List.mem_filter, listed, true_and,
        decide_eq_true_eq, List.map_map, closesConfig, told, Option.any_some, closesByStaking,
        message.1, message.2, Bool.or_false, Bool.false_and]
      exact Iff.rfl
    | none =>
      simp only [closesConfig, told, Option.any_none, Bool.false_or]
      cases step with
      | stake kind _ =>
        simp only [Concerns, kind, supplierPath, DecodedMsg.get, Option.bind_some,
          Option.some.injEq] at about
        simp [stakedBy, kind, about] at told
      | claim kind _ =>
        simp only [Concerns, kind, supplierPath, DecodedMsg.get, Option.bind_some,
          Option.some.injEq] at about
        simp [stakedBy, kind, about] at told
      | unstake => simp [endsUnbonding, activatesConfigs]
      | unbondingBegin kind _ _ _ => simp [endsUnbonding, activatesConfigs, kind]
      | @unbondingEnd event unbonding entry supplier reason recorded kind read found has =>
        -- The end of an unbonding closes all that is known.
        simp only [Concerns, kind, (readSupplierUnbonding_ok read.read).1, Except.ok.injEq,
          Option.some.injEq] at about
        rw [about] at found
        rw [found] at listed
        refine iff_of_true listed ?_
        simp [endsUnbonding, kind, (readSupplierUnbonding_ok read.read).1, Except.toOption, about]
      | slash kind _ _ _ => simp [endsUnbonding, activatesConfigs, kind]
      | @activate event height other entry kind read found =>
        -- An activation closes what is not activated yet.
        simp only [Concerns, kind, read.read, Except.ok.injEq, Option.some.injEq] at about
        subst about
        have all : NamedServices service.supplierId entry.services := by
          have own := kept.named service.supplierId
          rwa [found] at own
        rw [found] at known
        have activates : activatesConfigs service.supplierId (.event event) = true := by
          simp [activatesConfigs, kind, read.read, Except.toOption]
        rw [mem_activatedServices_ids all, activates]
        simp only [endsUnbonding, kind, reduceCtorEq, false_and, decide_false, Bool.false_or,
          Bool.true_and, Bool.not_eq_true']
        constructor
        · rintro ⟨other, same, inactive⟩
          obtain rfl : service = other := Option.some.inj (known.symm.trans same)
          exact inactive
        · exact fun inactive => ⟨service, known, inactive⟩
      | activateUnknown kind read found =>
        simp only [Concerns, kind, read.read, Except.ok.injEq, Option.some.injEq] at about
        rw [about] at found
        rw [found] at known
        cases known
      | ignoreMsg => simp [endsUnbonding, activatesConfigs]
      | @ignoreEvent event none =>
        cases kind : event.type <;>
          simp [endsUnbonding, activatesConfigs, supplierGetId, kind] at none ⊢
  · -- A datum of another operator closes ids of that operator only.
    refine iff_of_false (fun closed => ?_) fun closes => about (concerns_of_closesConfig closes)
    obtain ⟨other, otherService, concerned, same⟩ := step.closes_own kept closed
    have equal := (getStakeServiceId_inj own (dashless other concerned) (named.symm.trans same)).1
    exact about (equal ▸ concerned)

/-- Only a message of its operator makes a supplier known. -/
theorem SupplierStep.unknown (step : SupplierStep externals records datum changes after)
    (unstaked : stakedBy operator datum = none) (unknown : knownSupplier (records operator) = none) :
    knownSupplier (after operator) = none := by
  -- The other handlers need a supplier, or leave it as it is.
  have needs : ∀ {other : String} {entry : SupplierRecord} {supplier : Supplier}
      {next : SupplierRecord}, records other = some entry → entry.supplier = some supplier →
        knownSupplier (Function.update records other (some next) operator) = none := by
    intro other entry supplier next found has
    have apart : operator ≠ other := by
      intro same
      subst same
      rw [found] at unknown
      exact Option.some_ne_none supplier (has.symm.trans unknown)
    rw [Function.update_of_ne apart, unknown]
  cases step with
  | @stake msg decoded amount denom kind _ =>
    have apart : decoded.operatorAddress ≠ operator := by simpa [stakedBy, kind] using unstaked
    rw [Function.update_of_ne apart.symm, unknown]
  | @claim msg decoded props kind _ =>
    have apart : decoded.shannonOperatorAddress ≠ operator := by
      simpa [stakedBy, kind] using unstaked
    rw [Function.update_of_ne apart.symm, unknown]
  | unstake _ found has => exact needs found has
  | unbondingBegin _ _ found has => exact needs found has
  | unbondingEnd _ _ found has => exact needs found has
  | slash _ _ found has => exact needs found has
  | @activate event height other entry kind read found =>
    by_cases same : operator = other
    · subst same
      rw [Function.update_self]
      rw [found] at unknown
      exact unknown
    · rw [Function.update_of_ne same, unknown]
  | activateUnknown => exact unknown
  | ignoreMsg => exact unknown
  | ignoreEvent => exact unknown

/-- A run closes a config that is known from the start just when one of its data does. -/
theorem SupplierRun.closes_iff (run : SupplierRun externals records data changes after)
    (kept : WellKept records)
    (dashless : ∀ datum ∈ data, ∀ other, Concerns externals other datum → '-' ∉ other.toList)
    (own : '-' ∉ operator.toList) {id : String} {service : SupplierServiceConfigProps}
    (known : (knownServices (records operator)).get id = some service) :
    id ∈ changes.servicesToClose ↔ ∃ datum ∈ data, closesConfig service datum = true := by
  induction run with
  | nil => simp
  | @cons records middle after datum rest changes later step _ ih =>
    have first := step.closes_iff kept (dashless _ List.mem_cons_self) own known
    have appended : id ∈ (changes.append later).servicesToClose ↔
        id ∈ changes.servicesToClose ∨ id ∈ later.servicesToClose := List.mem_append
    rw [appended, List.exists_mem_cons_iff, ← first]
    by_cases closed : id ∈ changes.servicesToClose
    · simp [closed]
    · -- A config that is not closed is still known as it was.
      rw [ih (step.wellKept kept) (fun other member => dashless other (List.mem_cons_of_mem _ member))
        ((step.unclosed closed operator).trans known)]

/-- A supplier that was not known is known after a message of it. -/
theorem SupplierRun.staked_of_known (run : SupplierRun externals records data changes after)
    (unknown : knownSupplier (records operator) = none)
    (known : knownSupplier (after operator) ≠ none) :
    ∃ datum ∈ data, stakedBy operator datum ≠ none := by
  induction run with
  | nil => exact absurd unknown known
  | @cons records middle after datum rest changes later step _ ih =>
    by_cases staked : stakedBy operator datum = none
    · obtain ⟨other, member, told⟩ := ih (step.unknown staked unknown) known
      exact ⟨other, List.mem_cons_of_mem _ member, told⟩
    · exact ⟨datum, List.mem_cons_self, staked⟩

end Closing

section Saved

variable {record : Dict String SupplierRecord} {height next : ℕ}

/-- Saved suppliers have distinct ids. -/
theorem savedSuppliers_nodup (kept : WellKept record.get) :
    ((buildSupplierSaveLists record).1.map Supplier.id).Nodup := by
  have own : ∀ entry ∈ record.entries, ∀ supplier, entry.2.supplier = some supplier →
      supplier.id = entry.1 := fun entry inside supplier has =>
    kept.keyed entry.1 entry.2 supplier (Dict.get_eq_some.mpr inside) has
  -- The ids are keys of the record.
  have keys : ∀ entries : List (String × SupplierRecord), (∀ entry ∈ entries, ∀ supplier,
      entry.2.supplier = some supplier → supplier.id = entry.1) →
        (((entries.map Prod.snd).filterMap SupplierRecord.supplier).map Supplier.id).Sublist
          (entries.map Prod.fst) := by
    intro entries
    induction entries with
    | nil => intro _; exact List.Sublist.refl _
    | cons entry rest ih =>
      intro own
      have later := ih fun other member => own other (List.mem_cons_of_mem _ member)
      cases has : entry.2.supplier with
      | none =>
        simp only [List.map_cons, List.filterMap_cons, has]
        exact later.cons _
      | some supplier =>
        simp only [List.map_cons, List.filterMap_cons, has,
          own entry List.mem_cons_self supplier has]
        exact later.cons_cons _
  exact record.nodup.sublist (keys record.entries own)

/-- Saved configs have distinct ids, where their operators have no dashes. -/
theorem savedServices_nodup (kept : WellKept record.get)
    (dashless : ∀ operator, ∀ service ∈ (knownServices (record.get operator)).values,
      '-' ∉ operator.toList) :
    ((buildSupplierSaveLists record).2.map SupplierServiceConfigProps.id).Nodup := by
  -- Every config to save is a known one of its operator, under the id built from both.
  have known : ∀ entry ∈ record.entries, ∀ service ∈ entry.2.services.values,
      service ∈ (knownServices (record.get entry.1)).values ∧
        service.id = getStakeServiceId entry.1 service.serviceId ∧
          ∃ id, entry.2.services.get id = some service ∧ service.id = id := by
    intro entry inside service member
    have found : record.get entry.1 = some entry.2 := Dict.get_eq_some.mpr inside
    obtain ⟨id, stored⟩ := Dict.mem_values.mp member
    have named := kept.named entry.1
    rw [found] at named ⊢
    obtain ⟨same, -, identified⟩ := named id service stored
    exact ⟨member, same.trans identified, id, stored, same⟩
  unfold buildSupplierSaveLists
  simp only [Dict.values, List.flatMap_map, List.map_flatMap]
  rw [List.nodup_flatMap]
  constructor
  · -- The configs of one operator are stored under their ids.
    intro entry inside
    have ids : (entry.2.services.entries.map Prod.snd).map SupplierServiceConfigProps.id =
        entry.2.services.entries.map Prod.fst := by
      rw [List.map_map]
      refine List.map_congr_left fun service member => ?_
      have found : entry.2.services.get service.1 = some service.2 := Dict.get_eq_some.mpr member
      have own := kept.named entry.1
      rw [show record.get entry.1 = some entry.2 from Dict.get_eq_some.mpr inside] at own
      exact (own service.1 service.2 found).1
    rw [ids]
    exact entry.2.services.nodup
  · -- Those of different operators have different ids.
    have apart : record.entries.Pairwise fun first second => first.1 ≠ second.1 :=
      List.pairwise_map.mp record.nodup
    refine apart.imp_of_mem fun {first second} inside other different => ?_
    intro id left right
    obtain ⟨service, member, rfl⟩ := List.mem_map.mp left
    obtain ⟨twin, listed, same⟩ := List.mem_map.mp right
    obtain ⟨firstKnown, firstId, -⟩ := known first inside service member
    obtain ⟨secondKnown, secondId, -⟩ := known second other twin listed
    rw [firstId, secondId] at same
    exact different (getStakeServiceId_inj (dashless _ _ firstKnown) (dashless _ _ secondKnown)
      same.symm).1

/-- Closing the versions of some ids leaves no visible one of them, and those of other ids. -/
theorem openVersions_closeRecords {ρ : Type} {key : ρ → String} {ids : List String} {id : String}
    {rows : List (Row ρ)} : openVersions key height id (closeRecords height key ids rows) =
      if id ∈ ids then [] else openVersions key height id rows := by
  unfold closeRecords
  split
  · rename_i none
    rw [List.isEmpty_iff.mp none, if_neg List.not_mem_nil]
  · rw [@openVersions_closeWhere_if _ _ _ _ _ (decide (id ∈ ids)) _ _ _ fun row _ named => by
      rw [named]]
    simp only [decide_eq_true_eq]

/-- Writing a block keeps the versions of a table in a chain, when what is saved was closed. -/
theorem VersionChain.written {ρ : Type} {key : ρ → String} {ids : List String} {docs : List ρ}
    {rows : List (Row ρ)} (chained : VersionChain key height rows) (later : height < next)
    (distinct : (docs.map key).Nodup)
    (closed : ∀ doc ∈ docs, key doc ∉ ids → openVersions key next (key doc) rows = []) :
    VersionChain key next (insertRecords next docs (closeRecords next key ids
      (removeRecords next docs rows))) := by
  rw [removeRecords_older fun row member => Nat.lt_of_le_of_lt (chained.begun row member) later]
  have cleaned : VersionChain key next (closeRecords next key ids rows) := by
    unfold closeRecords
    split
    · exact chained.mono later.le
    · exact chained.close later.le _
  refine cleaned.insert distinct fun doc member => ?_
  rw [openVersions_closeRecords]
  split
  · rfl
  · rename_i kept
    exact closed doc member kept

end Saved

/-- Tables whose row versions follow each other, with configs under their ids. -/
structure StoredVersions (height : ℕ) (tables : SupplierTables) : Prop where
  suppliers : VersionChain Supplier.id height tables.suppliers
  services : VersionChain SupplierServiceConfigProps.id height tables.services
  named : NamedRows tables.services
  dashless : ∀ row ∈ tables.services, '-' ∉ row.data.supplierId.toList

/-- Every visible config that a block loads is closed by one of its data. -/
def ClosesLoaded (externals : Externals) (height : ℕ) (tables : SupplierTables)
    (allData : List StakeDatum) : Prop :=
  ∀ row ∈ tables.services, row.openAt height = true →
    (∃ datum ∈ blockData allData, Loads externals row.data.supplierId datum) →
      ∃ datum ∈ blockData allData, closesConfig row.data datum = true

section Blocks

variable {externals : Externals} {height next : ℕ} {tables after : SupplierTables}
  {allData : List StakeDatum}

/-- A visible config of an operator whose configs are fetched is known as it is stored. -/
theorem StoredVersions.known (stored : StoredVersions height tables) (later : height < next)
    {suppliers operators : List String} {row : Row SupplierServiceConfigProps}
    (inside : row ∈ tables.services) (visible : row.openAt next = true)
    (fetched : row.data.supplierId ∈ operators) :
    (knownServices ((fetchSupplierData next tables suppliers operators).get
      row.data.supplierId)).get row.data.id = some row.data := by
  obtain ⟨service, found⟩ := Option.ne_none_iff_exists'.mp
    (@knownServices_of_row next tables suppliers operators row inside visible fetched)
  obtain ⟨-, same, member⟩ := knownServices_fetched found
  obtain ⟨other, listed, shown, rfl⟩ := (mem_getByField.mp member).2
  rw [found, (stored.services.mono later.le).versioned.unique listed inside shown visible same]

/-- A message of an operator makes the block fetch its supplier. -/
theorem collected_of_staked {data : List StakeDatum} {suppliers operators : List String}
    {datum : StakeDatum} {operator : String}
    (collected : collectSupplierIds data = .ok (suppliers, operators)) (member : datum ∈ data)
    (staked : stakedBy operator datum ≠ none) : operator ∈ suppliers := by
  refine (mem_collectSupplierIds collected operator).1.mpr ⟨datum, member, ?_⟩
  cases datum with
  | event => exact absurd rfl staked
  | msg sent =>
    refine ⟨rfl, _, rfl, ?_⟩
    cases kind : sent.decodedMsg <;>
      simp only [stakedBy, kind, ne_eq, not_true_eq_false, ite_eq_right_iff, reduceCtorEq,
        imp_false, not_not] at staked
    · simp [supplierPath, DecodedMsg.get, staked]
    · simp [supplierPath, DecodedMsg.get, staked]

/-- What is written to a table was there before, or was saved. -/
theorem data_written {ρ : Type} {key : ρ → String} {ids : List String} {docs : List ρ}
    {rows : List (Row ρ)} {row : Row ρ} (member : row ∈ insertRecords next docs
      (closeRecords next key ids (removeRecords next docs rows))) :
    (∃ before ∈ rows, before.data = row.data) ∨ row.data ∈ docs := by
  rcases List.mem_append.mp member with old | new
  · refine Or.inl ?_
    have removed : ∀ other ∈ removeRecords next docs rows, other ∈ rows := by
      intro other listed
      unfold removeRecords at listed
      split at listed
      · exact listed
      · exact (List.mem_filter.mp listed).1
    unfold closeRecords at old
    split at old
    · exact ⟨row, removed row old, rfl⟩
    · obtain ⟨before, inside, rfl⟩ := List.mem_map.mp old
      refine ⟨before, removed before inside, ?_⟩
      split <;> rfl
  · obtain ⟨doc, inside, rfl⟩ := List.mem_map.mp new
    exact Or.inr inside

/-- A supplier that was not known when a block began, and is known at its end, has no visible row. -/
theorem openVersions_of_new {suppliers operators : List String} {record : Dict String SupplierRecord}
    {changes : SupplierChanges} {operator : String}
    (collected : collectSupplierIds (blockData allData) = .ok (suppliers, operators))
    (run : SupplierRun externals (fetchSupplierData next tables suppliers operators).get
      (blockData allData) changes record.get)
    (unknown : knownSupplier ((fetchSupplierData next tables suppliers operators).get operator) =
      none)
    (known : knownSupplier (record.get operator) ≠ none) :
    openVersions Supplier.id next operator tables.suppliers = [] := by
  -- Such a supplier was staked, so that a visible row of it would have been fetched.
  obtain ⟨datum, inside, staked⟩ := run.staked_of_known unknown known
  have fetched := collected_of_staked collected inside staked
  refine List.eq_nil_iff_forall_not_mem.mpr fun row listed => ?_
  obtain ⟨member, rfl, visible⟩ := mem_openVersions.mp listed
  exact knownSupplier_of_row member visible fetched unknown

/-- Every block keeps the versions of suppliers in a chain, and the configs under their ids. -/
theorem suppliers_indexed (chained : VersionChain Supplier.id height tables.suppliers)
    (named : NamedRows tables.services) (later : height < next)
    (consistent : ∀ datum ∈ blockData allData, NamesOneOperator datum)
    (ran : indexSupplier externals next tables allData = .ok after) :
    VersionChain Supplier.id next after.suppliers ∧ NamedRows after.services := by
  obtain ⟨suppliers, operators, changes, record, collected, run, rfl⟩ :=
    indexSupplier_ok named consistent ran
  have kept := run.wellKept (fetchSupplierData_wellKept named)
  constructor
  · refine chained.written later (savedSuppliers_nodup kept) fun supplier saved unclosed => ?_
    have unknown := not_not.mp (mem_suppliersToClose.not.mp unclosed)
    exact openVersions_of_new collected run unknown (by rw [mem_savedSuppliers kept saved]; simp)
  · intro row member
    rcases data_written member with ⟨before, inside, same⟩ | saved
    · rw [← same]
      exact named before inside
    · exact (kept.named _ _ _ (mem_savedServices kept saved)).2.2

/-- A block that closes the configs it loads keeps the versions in a chain. -/
theorem StoredVersions.indexed (stored : StoredVersions height tables) (later : height < next)
    (addressed : AddressedBlock externals (blockData allData))
    (closes : ClosesLoaded externals next tables allData)
    (ran : indexSupplier externals next tables allData = .ok after) :
    StoredVersions next after := by
  obtain ⟨chained, named⟩ :=
    suppliers_indexed stored.suppliers stored.named later addressed.consistent ran
  obtain ⟨suppliers, operators, changes, record, collected, run, rfl⟩ :=
    indexSupplier_ok stored.named addressed.consistent ran
  have start : WellKept (fetchSupplierData next tables suppliers operators).get :=
    fetchSupplierData_wellKept stored.named
  have kept := run.wellKept start
  -- Known configs belong to operators of the block, or to those of stored configs.
  have dashless : ∀ operator, ∀ service ∈ (knownServices (record.get operator)).values,
      '-' ∉ operator.toList := by
    intro operator service member
    by_cases about : ∃ datum ∈ blockData allData, Concerns externals operator datum
    · obtain ⟨datum, inside, concerned⟩ := about
      exact addressed.dashless datum inside operator concerned
    · rw [run.frame fun datum inside concerned => about ⟨datum, inside, concerned⟩] at member
      obtain ⟨id, found⟩ := Dict.mem_values.mp member
      obtain ⟨own, -, got⟩ := knownServices_fetched found
      obtain ⟨row, inside, -, rfl⟩ := (mem_getByField.mp got).2
      rw [← own]
      exact stored.dashless row inside
  refine ⟨chained, ?_, named, ?_⟩
  · refine stored.services.written later (savedServices_nodup kept dashless)
      fun service saved unclosed => ?_
    have known := mem_savedServices kept saved
    refine List.eq_nil_iff_forall_not_mem.mpr fun row listed => ?_
    obtain ⟨member, named, visible⟩ := mem_openVersions.mp listed
    -- A config that is not closed was loaded, and so one of the data closes it.
    rw [run.unclosed unclosed] at known
    obtain ⟨own, -, got⟩ := knownServices_fetched known
    obtain ⟨fetched, other, inside, shown, rfl⟩ := mem_getByField.mp got
    obtain ⟨datum, about, closed⟩ := closes other inside shown
      ((mem_operators run addressed.consistent collected _).mp fetched)
    exact unclosed ((run.closes_iff start addressed.dashless (stored.dashless other inside)
      known).mpr ⟨datum, about, closed⟩)
  · intro row member
    rcases data_written member with ⟨before, inside, same⟩ | saved
    · rw [← same]
      exact stored.dashless before inside
    · exact dashless _ row.data (Dict.mem_values.mpr ⟨_, mem_savedServices kept saved⟩)

/-- A block after which each config has one visible version closes the configs it loads. -/
theorem StoredVersions.closesLoaded (stored : StoredVersions height tables) (later : height < next)
    (addressed : AddressedBlock externals (blockData allData))
    (ran : indexSupplier externals next tables allData = .ok after)
    (versioned : Versioned SupplierServiceConfigProps.id next after.services) :
    ClosesLoaded externals next tables allData := by
  obtain ⟨suppliers, operators, changes, record, collected, run, rfl⟩ :=
    indexSupplier_ok stored.named addressed.consistent ran
  have start : WellKept (fetchSupplierData next tables suppliers operators).get :=
    fetchSupplierData_wellKept stored.named
  intro row inside visible loaded
  have fetched := (mem_operators run addressed.consistent collected _).mpr loaded
  have known := @StoredVersions.known _ _ _ stored later suppliers operators row inside visible fetched
  by_contra unclosed
  -- A config that is not closed is saved again, beside the row there is.
  have untouched : row.data.id ∉ changes.servicesToClose := fun closed => unclosed
    ((run.closes_iff start addressed.dashless (stored.dashless row inside) known).mp closed)
  have older : ∀ row ∈ tables.services, row.blockRange.lower < next := fun other member =>
    Nat.lt_of_le_of_lt (stored.services.begun other member) later
  have rows := @openConfigs_indexed _ _ tables (fetchSupplierData next tables suppliers operators)
    changes (run.wellKept start) older row.data.supplierId
  have stays : row ∈ openConfigs next row.data.supplierId (performSupplierDatabaseOperations next
      ⟨(buildSupplierSaveLists record).1, (buildSupplierSaveLists record).2,
        suppliersToClose (fetchSupplierData next tables suppliers operators), changes⟩
      tables).services := by
    rw [rows]
    exact List.mem_append_left _ (List.mem_filter.mpr ⟨List.mem_filter.mpr ⟨inside, by simp [visible]⟩,
      decide_eq_true untouched⟩)
  have again : Row.fresh next row.data ∈ openConfigs next row.data.supplierId
      (performSupplierDatabaseOperations next ⟨(buildSupplierSaveLists record).1,
        (buildSupplierSaveLists record).2,
        suppliersToClose (fetchSupplierData next tables suppliers operators), changes⟩
      tables).services := by
    rw [rows]
    refine List.mem_append_right _ (List.mem_map.mpr ⟨row.data, Dict.mem_values.mpr ⟨row.data.id, ?_⟩,
      rfl⟩)
    rw [run.unclosed untouched]
    exact known
  have same : row = Row.fresh next row.data := versioned.unique (List.mem_filter.mp stays).1
    (List.mem_filter.mp again).1 visible (Row.fresh_openAt next row.data) rfl
  have less := older row inside
  rw [same, Row.fresh_lower] at less
  exact Nat.lt_irrefl next less

/-- Indexing the supplier data of one block of a run. -/
def indexBlock (externals : Externals) (tables : SupplierTables) (block : ℕ × List StakeDatum) :
    Except String SupplierTables := indexSupplier externals block.1 tables block.2

/-- Over every run of blocks each supplier and each config has one visible version, the one written
last, and no two versions that overlap, just when each block closes the configs it loads. -/
theorem supplier_versions_iff {blocks : List (ℕ × List StakeDatum)}
    (stored : StoredVersions height tables)
    (increasing : (height :: blocks.map Prod.fst).Pairwise (· < ·))
    (addressed : ∀ block ∈ blocks, AddressedBlock externals (blockData block.2)) :
    EveryStep (indexBlock externals) (fun _ block after =>
        Versioned Supplier.id block.1 after.suppliers ∧
          Versioned SupplierServiceConfigProps.id block.1 after.services) tables blocks ↔
      EveryStep (indexBlock externals) (fun before block _ =>
        ClosesLoaded externals block.1 before block.2) tables blocks := by
  -- What is good of a state is that its versions follow each other, below the blocks that are left.
  refine EveryStep.iff_of_remaining (fun tables blocks => ∃ height, StoredVersions height tables ∧
    (height :: blocks.map Prod.fst).Pairwise (· < ·) ∧
      ∀ block ∈ blocks, AddressedBlock externals (blockData block.2))
    ⟨height, stored, increasing, addressed⟩ ?_
  rintro tables block rest after ⟨height, stored, increasing, addressed⟩ ran
  rw [List.map_cons, List.pairwise_cons] at increasing
  have later : height < block.1 := increasing.1 block.1 List.mem_cons_self
  have own := addressed block List.mem_cons_self
  have closes : Versioned SupplierServiceConfigProps.id block.1 after.services →
      ClosesLoaded externals block.1 tables block.2 := stored.closesLoaded later own ran
  refine ⟨⟨fun both => closes both.2, fun closed => ?_⟩, fun both => ⟨block.1, ?_, increasing.2,
    fun other member => addressed other (List.mem_cons_of_mem _ member)⟩⟩
  · have kept := stored.indexed later own closed ran
    exact ⟨kept.suppliers.versioned, kept.services.versioned⟩
  · exact stored.indexed later own (closes both.2) ran

end Blocks

/-- Tables with one config, which was activated at height 60. -/
def activatedTables : SupplierTables :=
  { oneConfigTables with services := [⟨plainConfig "pokt1op" "svc1" (some 60), none, ⟨60, none⟩⟩] }

/-- A block with events about one operator without dashes. -/
theorem addressedBlock_of_events {events : List CosmosEvent} {operator : String}
    (data : blockData (events.map .event) = events.map .event)
    (kind : ∀ event ∈ events, event.type = .supplierServiceConfigActivated ∨
      event.type = .supplierUnbondingEnd)
    (read : ∀ event ∈ events, readOperator event.attributes = .ok (some operator))
    (getter : ∀ event ∈ events, eventGetId event.attributes = .ok (some (.string operator)))
    (dashless : '-' ∉ operator.toList) :
    AddressedBlock plainExternals (blockData (events.map .event)) := by
  rw [data]
  constructor
  · intro datum member event same _ other found
    subst same
    obtain ⟨own, inside, rfl⟩ : ∃ own ∈ events, own = event := by simpa using member
    rw [read own inside, Except.ok.injEq, Option.some.injEq] at found
    rw [getter own inside, found]
  · intro datum member other about
    obtain ⟨event, inside, rfl⟩ := List.mem_map.mp member
    have found : readOperator event.attributes = .ok (some other) := by
      rcases kind event inside with same | same <;> simpa only [Concerns, same] using about
    rw [read event inside, Except.ok.injEq, Option.some.injEq] at found
    exact found ▸ dashless

/-- An activation and, in a later block, the end of the unbonding keep the versions apart. -/
theorem supplier_versions_activated :
    EveryStep (indexBlock plainExternals) (fun _ block after =>
        Versioned Supplier.id block.1 after.suppliers ∧
          Versioned SupplierServiceConfigProps.id block.1 after.services) oneConfigTables
      [(120, [.event (activationEvent "pokt1op" "svc1")]),
        (130, [.event (unbondingEnded "pokt1op")])] := by
  have first : blockData [.event (activationEvent "pokt1op" "svc1")] =
      [.event (activationEvent "pokt1op" "svc1")] := by decide +kernel
  have second : blockData [.event (unbondingEnded "pokt1op")] =
      [.event (unbondingEnded "pokt1op")] := by decide +kernel
  obtain ⟨⟨-, -, activated, -⟩, getter⟩ := activationEvent_names.read
  have ended : readOperator (unbondingEnded "pokt1op").attributes = .ok (some "pokt1op") :=
    ok_of_toOption (by decide)
  -- The stored tables hold one version of the supplier and one of its config.
  have stored : StoredVersions 100 oneConfigTables := by
    refine ⟨⟨by decide, by simp [oneConfigTables], fun id => ?_⟩,
      ⟨by decide, by simp [oneConfigTables], fun id => ?_⟩, by unfold NamedRows; decide, by decide⟩
    · exact (List.pairwise_singleton _ _).filter _
    · exact (List.pairwise_singleton _ _).filter _
  refine (supplier_versions_iff stored (by decide) ?_).mpr ?_
  · refine List.forall_mem_cons.mpr ⟨?_, List.forall_mem_cons.mpr ⟨?_, by simp⟩⟩
    · exact @addressedBlock_of_events [activationEvent "pokt1op" "svc1"] "pokt1op" first
        (by simp [activationEvent]) (by simpa using activated) (by simpa using getter) (by decide)
    · exact @addressedBlock_of_events [unbondingEnded "pokt1op"] "pokt1op" second
        (by simp [unbondingEnded]) (by simpa using ended)
        (by simp [unbondingEnded, eventGetId, replaceQuotes]) (by decide)
  · intro middle _
    refine ⟨fun row inside _ _ => ?_, fun after _ => ⟨fun row _ _ loaded => ?_, trivial⟩⟩
    · rw [List.mem_singleton.mp inside, first]
      exact ⟨_, List.mem_singleton_self _, by decide⟩
    · -- The end of an unbonding loads no configs.
      rw [second] at loaded
      obtain ⟨datum, member, fetches, -⟩ := loaded
      rw [List.mem_singleton.mp member] at fetches
      cases fetches

/-- An activation beside a config that is activated already leaves two visible versions of it. -/
theorem activated_twice :
    ¬EveryStep (indexBlock plainExternals) (fun _ block after =>
        Versioned Supplier.id block.1 after.suppliers ∧
          Versioned SupplierServiceConfigProps.id block.1 after.services) activatedTables
      [(120, [.event (activationEvent "pokt1op" "svc1")])] := by
  have written : ((indexBlock plainExternals activatedTables
      (120, [.event (activationEvent "pokt1op" "svc1")])).toOption.map fun after =>
        (openVersions SupplierServiceConfigProps.id 120 "pokt1op-svc1" after.services).length) =
          some 2 := by decide +kernel
  obtain ⟨after, ran, two⟩ := Option.map_eq_some_iff.mp written
  intro every
  have single : (openVersions SupplierServiceConfigProps.id 120 "pokt1op-svc1"
      after.services).length ≤ 1 := (every after (ok_of_toOption ran)).1.2.single "pokt1op-svc1"
  omega

end Pocketdex
