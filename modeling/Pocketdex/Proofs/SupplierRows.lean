import Pocketdex.Proofs.SupplierSteps

/-! What indexing a block's supplier data leaves in the tables: the rows that stay open, and those
that are opened. -/

namespace Pocketdex

/-- What handling data one after the other makes of the records. -/
inductive SupplierRun (externals : Externals) :
    SupplierRecords → List StakeDatum → SupplierChanges → SupplierRecords → Prop where
  | nil {records : SupplierRecords} : SupplierRun externals records [] {} records
  | cons {records middle after : SupplierRecords} {datum : StakeDatum} {rest : List StakeDatum}
      {changes later : SupplierChanges} :
      SupplierStep externals records datum changes middle →
      SupplierRun externals middle rest later after →
      SupplierRun externals records (datum :: rest) (changes.append later) after

section Runs

variable {externals : Externals} {datum : StakeDatum} {data : List StakeDatum}
  {records after : SupplierRecords} {changes : SupplierChanges}

/-- A datum that can be handled is, and leaves what its step says. -/
theorem run_of_step {record : Dict String SupplierRecord} (kept : WellKept record.get)
    (consistent : NamesOneOperator datum) {rows : SupplierRecords}
    (step : SupplierStep externals record.get datum changes rows) :
    ∃ after, (processSupplierDatum externals datum).run record = .ok (changes, after) ∧
      after.get = rows :=
  Program.run_ok_iff_exec.mpr (exec_of_supplierStep kept.keyed consistent step)

/-- A datum that is handled makes one of the steps. -/
theorem step_of_run {record after : Dict String SupplierRecord} (kept : WellKept record.get)
    (consistent : NamesOneOperator datum)
    (ran : (processSupplierDatum externals datum).run record = .ok (changes, after)) :
    SupplierStep externals record.get datum changes after.get :=
  supplierStep_of_exec kept.keyed consistent (Program.run_ok_iff_exec.mp ⟨after, ran, rfl⟩)

/-- Data that are handled make a run. -/
theorem supplierRun_of_run {record after : Dict String SupplierRecord} (kept : WellKept record.get)
    (consistent : ∀ datum ∈ data, NamesOneOperator datum)
    (ran : (processSupplierEventsAndMessages externals data).run record = .ok (changes, after)) :
    SupplierRun externals record.get data changes after.get := by
  induction data generalizing record changes with
  | nil =>
    cases ran
    exact .nil
  | cons datum rest ih =>
    obtain ⟨one, middle, first, ran⟩ := Program.run_bind_ok.mp ran
    obtain ⟨later, last, second, ran⟩ := Program.run_bind_ok.mp ran
    cases ran
    have step := step_of_run kept (consistent datum List.mem_cons_self) first
    exact .cons step (ih (step.wellKept kept)
      (fun other member => consistent other (List.mem_cons_of_mem _ member)) second)

/-- Data that make a run are handled. -/
theorem run_of_supplierRun {record : Dict String SupplierRecord} (kept : WellKept record.get)
    (consistent : ∀ datum ∈ data, NamesOneOperator datum)
    (run : SupplierRun externals record.get data changes records) :
    ∃ after, (processSupplierEventsAndMessages externals data).run record = .ok (changes, after) ∧
      after.get = records := by
  induction data generalizing record changes with
  | nil =>
    cases run
    exact ⟨record, rfl, rfl⟩
  | cons datum rest ih =>
    cases run with
    | @cons _ middle _ _ _ one later step run =>
      obtain ⟨table, first, rows⟩ := run_of_step kept (consistent datum List.mem_cons_self) step
      subst rows
      obtain ⟨final, second, rows⟩ := ih (step.wellKept kept)
        (fun other member => consistent other (List.mem_cons_of_mem _ member)) run
      refine ⟨final, ?_, rows⟩
      exact Program.run_bind_ok.mpr ⟨one, table, first,
        Program.run_bind_ok.mpr ⟨later, final, second, rfl⟩⟩

/-- A supplier that is known stays known. -/
theorem SupplierStep.still_known (step : SupplierStep externals records datum changes after)
    {operator : String} (known : knownSupplier (records operator) ≠ none) :
    knownSupplier (after operator) ≠ none := by
  -- Entering a supplier, of this operator or another, makes none unknown.
  have entered : ∀ {other : String} {supplier : Supplier}
      {services : Dict String SupplierServiceConfigProps},
        knownSupplier (Function.update records other (some ⟨some supplier, services⟩) operator) ≠
          none := by
    intro other supplier services
    by_cases same : operator = other
    · subst same
      rw [Function.update_self]
      exact Option.some_ne_none supplier
    · rw [Function.update_of_ne same]
      exact known
  cases step with
  | stake => exact entered
  | claim => exact entered
  | unstake => exact entered
  | unbondingBegin => exact entered
  | unbondingEnd => exact entered
  | slash => exact entered
  | @activate event height other entry kind read found =>
    by_cases same : operator = other
    · subst same
      rw [Function.update_self]
      rw [found] at known
      exact known
    · rw [Function.update_of_ne same]
      exact known
  | activateUnknown => exact known
  | ignoreMsg => exact known
  | ignoreEvent => exact known

namespace SupplierRun

/-- A supplier that is known stays known. -/
theorem still_known (run : SupplierRun externals records data changes after) {operator : String}
    (known : knownSupplier (records operator) ≠ none) : knownSupplier (after operator) ≠ none := by
  induction run with
  | nil => exact known
  | cons step _ ih => exact ih (step.still_known known)

/-- A run keeps the records well kept. -/
theorem wellKept (run : SupplierRun externals records data changes after)
    (kept : WellKept records) : WellKept after := by
  induction run with
  | nil => exact kept
  | cons step _ ih => exact ih (step.wellKept kept)

/-- Records of operators that no datum is about stay as they were. -/
theorem frame (run : SupplierRun externals records data changes after) {operator : String}
    (apart : ∀ datum ∈ data, ¬Concerns externals operator datum) :
    after operator = records operator := by
  induction run with
  | nil => rfl
  | cons step _ ih =>
    rw [ih fun other member => apart other (List.mem_cons_of_mem _ member)]
    exact step.frame (apart _ List.mem_cons_self)

/-- Configs that a run does not close stay as they were. -/
theorem unclosed (run : SupplierRun externals records data changes after) {id : String}
    (untouched : id ∉ changes.servicesToClose) (operator : String) :
    (knownServices (after operator)).get id = (knownServices (records operator)).get id := by
  induction run with
  | nil => rfl
  | cons step _ ih =>
    obtain ⟨now, later⟩ := not_or.mp (List.mem_append.not.mp untouched)
    rw [ih later]
    exact step.unclosed now operator

/-- A run over data in two parts is a run over the first part, and then one over the second. -/
theorem split {first second : List StakeDatum}
    (run : SupplierRun externals records (first ++ second) changes after) :
    ∃ middle earlier later, SupplierRun externals records first earlier middle ∧
      SupplierRun externals middle second later after ∧
      changes.servicesToClose = earlier.servicesToClose ++ later.servicesToClose := by
  induction first generalizing records changes with
  | nil => exact ⟨records, {}, changes, .nil, run, rfl⟩
  | cons datum rest ih =>
    cases run with
    | cons step run =>
      obtain ⟨middle, earlier, later, one, two, closed⟩ := ih run
      exact ⟨middle, _, later, .cons step one, two, by
        simp [SupplierChanges.append, closed, List.append_assoc]⟩

end SupplierRun

end Runs

/-- Every config row is stored under an id made of its operator and its service. -/
def NamedRows (rows : List (Row SupplierServiceConfigProps)) : Prop :=
  ∀ row ∈ rows, row.data.id = getStakeServiceId row.data.supplierId row.data.serviceId

section Fetching

variable {ρ : Type} {height : ℕ} {tables : SupplierTables} {suppliers operators : List String}

/-- A query by a field gives all visible records with one of the values. -/
theorem getByField_eq (field : ρ → String) (ids : List String) (rows : List (Row ρ)) :
    getByField height field ids rows =
      (rows.filter fun row => row.openAt height && field row.data ∈ ids).map Row.data := by
  unfold getByField
  exact (fetchPaginatedRecords_all _ _ 0 (by omega)).trans List.drop_zero

/-- A record is visible among some ids of a field. -/
theorem mem_getByField {field : ρ → String} {ids : List String} {rows : List (Row ρ)} {data : ρ} :
    data ∈ getByField height field ids rows ↔
      field data ∈ ids ∧ ∃ row ∈ rows, row.openAt height = true ∧ row.data = data := by
  simp only [getByField_eq, List.mem_map, List.mem_filter, Bool.and_eq_true, decide_eq_true_eq]
  constructor
  · rintro ⟨row, ⟨inside, visible, listed⟩, rfl⟩
    exact ⟨listed, row, inside, visible, rfl⟩
  · rintro ⟨listed, row, inside, visible, rfl⟩
    exact ⟨row, ⟨inside, visible, listed⟩, rfl⟩

/-- Entering fetched configs changes no supplier, and each config is entered under its operator. -/
theorem get_foldl_fetchService (services : List SupplierServiceConfigProps)
    (record : Dict String SupplierRecord) (operator : String) :
    knownSupplier ((services.foldl fetchService record).get operator) =
        knownSupplier (record.get operator) ∧
      ∀ id, (knownServices ((services.foldl fetchService record).get operator)).get id =
        (services.reverse.find? fun service => service.supplierId = operator ∧ service.id = id).or
          ((knownServices (record.get operator)).get id) := by
  induction services using List.reverseRecOn with
  | nil => exact ⟨rfl, fun id => rfl⟩
  | append_singleton services service ih =>
    obtain ⟨supplier, known⟩ := ih
    rw [List.foldl_append, List.foldl_cons, List.foldl_nil, fetchService, Dict.get_set,
      List.reverse_append, List.reverse_singleton, List.singleton_append]
    -- The last fetched config with an id is the one that is known.
    by_cases own : operator = service.supplierId
    · subst own
      rw [if_pos rfl, ← supplier]
      generalize entered : (services.foldl fetchService record).get service.supplierId = entry
      rw [entered] at known
      refine ⟨by cases entry <;> rfl, fun id => ?_⟩
      have set : (knownServices (some { entry.getD SupplierRecord.blank with
          services := (entry.getD SupplierRecord.blank).services.set service.id service })).get id =
            if id = service.id then some service else (knownServices entry).get id := by
        rw [← knownServices_getD entry]
        exact Dict.get_set (entry.getD SupplierRecord.blank).services service.id id service
      rw [set, known]
      by_cases same : id = service.id
      · simp [same]
      · rw [if_neg same, List.find?_cons_of_neg (by simp [Ne.symm same])]
    · rw [if_neg own]
      refine ⟨supplier, fun id => ?_⟩
      rw [known, List.find?_cons_of_neg (by simp [Ne.symm own])]

/-- The supplier a block starts from is a visible one. -/
theorem knownSupplier_fetched {operator : String} {supplier : Supplier}
    (known : knownSupplier ((fetchSupplierData height tables suppliers operators).get operator) =
      some supplier) :
    supplier.id = operator ∧ supplier ∈ getByField height Supplier.id suppliers tables.suppliers := by
  unfold fetchSupplierData at known
  rw [(get_foldl_fetchService _ _ operator).1, Dict.get_collect] at known
  cases found : (getByField height Supplier.id suppliers tables.suppliers).reverse.find?
      fun item => item.id = operator with
  | none => simp [found, knownSupplier] at known
  | some other =>
    simp only [found, Option.map_some, knownSupplier, Option.bind_some, Option.some.injEq] at known
    subst known
    exact ⟨by simpa using List.find?_some found,
      List.mem_reverse.mp (List.mem_of_find?_eq_some found)⟩

/-- A visible supplier whose id is fetched is known. -/
theorem knownSupplier_of_row {row : Row Supplier} (inside : row ∈ tables.suppliers)
    (visible : row.openAt height = true) (fetched : row.data.id ∈ suppliers) :
    knownSupplier ((fetchSupplierData height tables suppliers operators).get row.data.id) ≠ none := by
  have member : row.data ∈ getByField height Supplier.id suppliers tables.suppliers :=
    mem_getByField.mpr ⟨fetched, row, inside, visible, rfl⟩
  unfold fetchSupplierData
  rw [(get_foldl_fetchService _ _ _).1, Dict.get_collect]
  cases found : (getByField height Supplier.id suppliers tables.suppliers).reverse.find?
      fun item => item.id = row.data.id with
  | none =>
    have absent := List.find?_eq_none.mp found row.data (List.mem_reverse.mpr member)
    exact absurd (decide_eq_true rfl) absent
  | some supplier => simp [knownSupplier]

/-- A config a block starts from is a visible one of its operator. -/
theorem knownServices_fetched {operator id : String} {service : SupplierServiceConfigProps}
    (known : (knownServices ((fetchSupplierData height tables suppliers operators).get
      operator)).get id = some service) :
    service.supplierId = operator ∧ service.id = id ∧ service ∈
      getByField height SupplierServiceConfigProps.supplierId operators tables.services := by
  unfold fetchSupplierData at known
  rw [(get_foldl_fetchService _ _ operator).2, Dict.get_collect] at known
  -- The suppliers are entered without configs.
  have bare : ∀ found : Option Supplier, (knownServices (found.map fun supplier =>
      (⟨some supplier, Dict.empty⟩ : SupplierRecord))).get id = none := by
    intro found
    cases found <;> rfl
  rw [bare, Option.or_none] at known
  have holds := List.find?_some known
  simp only [decide_eq_true_eq] at holds
  exact ⟨holds.1, holds.2, List.mem_reverse.mp (List.mem_of_find?_eq_some known)⟩

/-- Every visible config of an operator whose configs are fetched is known. -/
theorem knownServices_of_row {row : Row SupplierServiceConfigProps} (inside : row ∈ tables.services)
    (visible : row.openAt height = true) (fetched : row.data.supplierId ∈ operators) :
    (knownServices ((fetchSupplierData height tables suppliers operators).get
      row.data.supplierId)).get row.data.id ≠ none := by
  have member : row.data ∈ getByField height SupplierServiceConfigProps.supplierId operators
      tables.services := mem_getByField.mpr ⟨fetched, row, inside, visible, rfl⟩
  unfold fetchSupplierData
  rw [(get_foldl_fetchService _ _ _).2]
  intro absent
  rw [Option.or_eq_none_iff, List.find?_eq_none] at absent
  exact absent.1 row.data (List.mem_reverse.mpr member) (by simp)

/-- A block starts from records that are well kept. -/
theorem fetchSupplierData_wellKept (named : NamedRows tables.services) :
    WellKept (fetchSupplierData height tables suppliers operators).get := by
  constructor
  · intro operator entry supplier found has
    have known : knownSupplier ((fetchSupplierData height tables suppliers operators).get
        operator) = some supplier := by
      rw [found]
      exact has
    exact (knownSupplier_fetched known).1
  · intro operator id service known
    obtain ⟨own, same, member⟩ := knownServices_fetched known
    obtain ⟨row, inside, _, rfl⟩ := (mem_getByField.mp member).2
    exact ⟨same, own, by rw [← own, ← same]; exact named row inside⟩

end Fetching

section Saving

variable {record : Dict String SupplierRecord} {height : ℕ} {tables : SupplierTables}
  {writes : SupplierWrites}

/-- The saved configs of an operator are those its record knows. -/
theorem savedServices_of (kept : WellKept record.get) (operator : String) :
    ((buildSupplierSaveLists record).2.filter fun service => service.supplierId = operator) =
      (knownServices (record.get operator)).values := by
  have own : ∀ other entry, record.get other = some entry → ∀ service ∈ entry.services.values,
      service.supplierId = other := by
    intro other entry found service member
    obtain ⟨id, known⟩ := Dict.mem_values.mp member
    have named := kept.named other
    rw [found] at named
    exact (named id service known).2.1
  unfold buildSupplierSaveLists
  simp only
  rw [@Dict.filter_flatMap_values _ _ _ _ _ _ _ operator ?_]
  · cases found : record.get operator with
    | none => rfl
    | some entry =>
      exact List.filter_eq_self.mpr fun service member =>
        decide_eq_true (own operator entry found service member)
  · intro other entry found different
    exact List.filter_eq_nil_iff.mpr fun service member same =>
      different ((own other entry found service member).symm.trans (of_decide_eq_true same))

/-- The saved suppliers with an id are the one its record knows. -/
theorem savedSuppliers_of (kept : WellKept record.get) (operator : String) :
    ((buildSupplierSaveLists record).1.filter fun supplier => supplier.id = operator) =
      (knownSupplier (record.get operator)).toList := by
  have own : ∀ other entry, record.get other = some entry → ∀ supplier ∈ entry.supplier.toList,
      supplier.id = other := by
    intro other entry found supplier member
    exact kept.keyed other entry supplier found (Option.mem_toList.mp member)
  unfold buildSupplierSaveLists
  simp only
  rw [List.filterMap_eq_flatMap_toList, @Dict.filter_flatMap_values _ _ _ _ _ _ _ operator ?_]
  · cases found : record.get operator with
    | none => rfl
    | some entry =>
      exact List.filter_eq_self.mpr fun supplier member =>
        decide_eq_true (own operator entry found supplier member)
  · intro other entry found different
    exact List.filter_eq_nil_iff.mpr fun supplier member same =>
      different ((own other entry found supplier member).symm.trans (of_decide_eq_true same))

/-- A saved config is known of its operator. -/
theorem mem_savedServices (kept : WellKept record.get) {service : SupplierServiceConfigProps}
    (saved : service ∈ (buildSupplierSaveLists record).2) :
    (knownServices (record.get service.supplierId)).get service.id = some service := by
  have listed : service ∈ (knownServices (record.get service.supplierId)).values := by
    rw [← savedServices_of kept]
    exact List.mem_filter.mpr ⟨saved, decide_eq_true rfl⟩
  obtain ⟨id, found⟩ := Dict.mem_values.mp listed
  rw [(kept.named _ id service found).1]
  exact found

/-- A saved supplier is known. -/
theorem mem_savedSuppliers (kept : WellKept record.get) {supplier : Supplier}
    (saved : supplier ∈ (buildSupplierSaveLists record).1) :
    knownSupplier (record.get supplier.id) = some supplier := by
  have listed : supplier ∈ (knownSupplier (record.get supplier.id)).toList := by
    rw [← savedSuppliers_of kept]
    exact List.mem_filter.mpr ⟨saved, decide_eq_true rfl⟩
  exact Option.mem_toList.mp listed

/-- The visible config rows of an operator. -/
def openConfigs (height : ℕ) (operator : String) (rows : List (Row SupplierServiceConfigProps)) :
    List (Row SupplierServiceConfigProps) :=
  rows.filter fun row => row.openAt height && row.data.supplierId = operator

/-- A block starts from the configs that are visible, of the operators whose configs are fetched. -/
theorem mem_openConfigs_ids {suppliers operators : List String} {operator : String}
    (fetched : operator ∈ operators) (id : String) :
    id ∈ (openConfigs height operator tables.services).map (fun row => row.data.id) ↔
      (knownServices ((fetchSupplierData height tables suppliers operators).get operator)).get id ≠
        none := by
  constructor
  · intro listed
    obtain ⟨row, member, rfl⟩ := List.mem_map.mp listed
    obtain ⟨inside, visible⟩ := List.mem_filter.mp member
    simp only [Bool.and_eq_true, decide_eq_true_eq] at visible
    obtain ⟨shown, rfl⟩ := visible
    exact knownServices_of_row inside shown fetched
  · intro known
    obtain ⟨service, found⟩ := Option.ne_none_iff_exists'.mp known
    obtain ⟨own, same, member⟩ := knownServices_fetched found
    obtain ⟨row, inside, visible, rfl⟩ := (mem_getByField.mp member).2
    exact List.mem_map.mpr ⟨row, List.mem_filter.mpr ⟨inside, by simp [visible, own]⟩, same⟩

/-- Nothing is deleted from rows that are older than the block. -/
theorem removeRecords_older {ρ δ : Type} {docs : List δ} {rows : List (Row ρ)}
    (older : ∀ row ∈ rows, row.blockRange.lower < height) : removeRecords height docs rows = rows := by
  unfold removeRecords
  split
  · rfl
  · exact List.filter_eq_self.mpr fun row member => by
      have less := older row member
      simpa using Nat.ne_of_lt less

/-- After a block the visible rows of a kind are those that were not closed, and those saved. -/
theorem filter_written {ρ : Type} (kept : ρ → Bool) {id : ρ → String} {ids : List String}
    {docs : List ρ} {rows : List (Row ρ)} (older : ∀ row ∈ rows, row.blockRange.lower < height) :
    ((insertRecords height docs (closeRecords height id ids
        (removeRecords height docs rows))).filter fun row => row.openAt height && kept row.data) =
      ((rows.filter fun row => row.openAt height && kept row.data).filter
          fun row => id row.data ∉ ids) ++ (docs.filter kept).map (Row.fresh height) := by
  have closed : ((closeRecords height id ids rows).filter
      fun row => row.openAt height && kept row.data) =
        (rows.filter fun row => row.openAt height && kept row.data).filter
          fun row => id row.data ∉ ids := by
    unfold closeRecords
    split
    · rename_i none
      rw [List.isEmpty_iff.mp none]
      simp
    · rw [filter_openAt_closeWhere]
      simp only [decide_not]
  rw [removeRecords_older older, insertRecords, List.filter_append, closed, List.filter_map]
  -- What is inserted is visible.
  simp only [Function.comp_def, Row.fresh_openAt, Row.fresh_data, Bool.true_and]

/-- After a block an operator's visible configs are those that were not closed, and those saved. -/
theorem openConfigs_perform (older : ∀ row ∈ tables.services, row.blockRange.lower < height)
    (operator : String) :
    openConfigs height operator (performSupplierDatabaseOperations height writes tables).services =
      (openConfigs height operator tables.services).filter
          (fun row => row.data.id ∉ writes.changes.servicesToClose) ++
        (writes.servicesToSave.filter fun service => service.supplierId = operator).map
          (Row.fresh height) :=
  filter_written (fun service : SupplierServiceConfigProps => service.supplierId = operator) older

/-- The visible rows of a supplier. -/
def openSuppliers (height : ℕ) (operator : String) (rows : List (Row Supplier)) :
    List (Row Supplier) :=
  rows.filter fun row => row.openAt height && row.data.id = operator

/-- After a block the visible rows of a supplier are those not closed, and the saved one. -/
theorem openSuppliers_perform (older : ∀ row ∈ tables.suppliers, row.blockRange.lower < height)
    (operator : String) :
    openSuppliers height operator (performSupplierDatabaseOperations height writes tables).suppliers =
      (openSuppliers height operator tables.suppliers).filter
          (fun row => row.data.id ∉ writes.suppliersToClose) ++
        (writes.suppliersToSave.filter fun supplier => supplier.id = operator).map
          (Row.fresh height) :=
  filter_written (fun supplier : Supplier => supplier.id = operator) older

/-- The suppliers to close are those that are known. -/
theorem mem_suppliersToClose {id : String} :
    id ∈ suppliersToClose record ↔ knownSupplier (record.get id) ≠ none := by
  simp only [suppliersToClose, List.mem_map, List.mem_filter, Prod.exists, exists_and_right,
    exists_eq_right, knownSupplier, Ne, Option.bind_eq_none_iff, not_forall, ← Option.isSome_iff_ne_none]
  constructor
  · rintro ⟨entry, inside, has⟩
    exact ⟨entry, Dict.get_eq_some.mpr inside, has⟩
  · rintro ⟨entry, found, has⟩
    exact ⟨entry, Dict.get_eq_some.mp found, has⟩

/-- After a block an operator's visible configs are those not closed, and those still known. -/
theorem openConfigs_indexed {start : Dict String SupplierRecord} {changes : SupplierChanges}
    (kept : WellKept record.get) (older : ∀ row ∈ tables.services, row.blockRange.lower < height)
    (operator : String) :
    openConfigs height operator (performSupplierDatabaseOperations height
        ⟨(buildSupplierSaveLists record).1, (buildSupplierSaveLists record).2,
          suppliersToClose start, changes⟩ tables).services =
      (openConfigs height operator tables.services).filter
          (fun row => row.data.id ∉ changes.servicesToClose) ++
        (knownServices (record.get operator)).values.map (Row.fresh height) := by
  rw [openConfigs_perform older]
  simp only [savedServices_of kept]

/-- After a block the visible rows of a supplier are its earlier ones if it was not known, and the
one of what is known of it. -/
theorem openSuppliers_indexed {start : Dict String SupplierRecord} {changes : SupplierChanges}
    (kept : WellKept record.get) (older : ∀ row ∈ tables.suppliers, row.blockRange.lower < height)
    (operator : String) :
    openSuppliers height operator (performSupplierDatabaseOperations height
        ⟨(buildSupplierSaveLists record).1, (buildSupplierSaveLists record).2,
          suppliersToClose start, changes⟩ tables).suppliers =
      (if knownSupplier (start.get operator) = none then
          openSuppliers height operator tables.suppliers else []) ++
        (knownSupplier (record.get operator)).toList.map (Row.fresh height) := by
  rw [openSuppliers_perform older]
  simp only [savedSuppliers_of kept, mem_suppliersToClose, not_not]
  congr 1
  -- All rows of the operator are closed, or none is.
  have same : ∀ row ∈ openSuppliers height operator tables.suppliers, row.data.id = operator := by
    intro row member
    obtain ⟨-, visible⟩ := List.mem_filter.mp member
    simp only [Bool.and_eq_true, decide_eq_true_eq] at visible
    exact visible.2
  split
  · rename_i unknown
    exact List.filter_eq_self.mpr fun row member => by
      rw [same row member]
      exact decide_eq_true unknown
  · rename_i known
    exact List.filter_eq_nil_iff.mpr fun row member => by
      rw [same row member]
      simpa using known

end Saving

section Indexing

variable {externals : Externals} {height : ℕ} {tables after : SupplierTables}
  {allData data : List StakeDatum} {suppliers operators : List String}

/-- The data of a block that suppliers are indexed from, in the order they are handled. -/
def blockData (allData : List StakeDatum) : List StakeDatum :=
  sortEventsAndMsgs (dataOfTypes supplierTypes allData)

/-- The ids that are collected are those of the data they are fetched for. -/
theorem mem_collectSupplierIds (ran : collectSupplierIds data = .ok (suppliers, operators))
    (id : String) :
    (id ∈ suppliers ↔ ∃ datum ∈ data, fetchesSupplier datum = true ∧
      ∃ ids, datumSupplierIds datum = .ok ids ∧ id ∈ ids) ∧
    (id ∈ operators ↔ ∃ datum ∈ data, fetchesServices datum = true ∧
      ∃ ids, datumSupplierIds datum = .ok ids ∧ id ∈ ids) := by
  induction data generalizing suppliers operators with
  | nil =>
    cases ran
    simp
  | cons datum rest ih =>
    obtain ⟨ids, first, ran⟩ := exceptBind_ok ran
    obtain ⟨⟨others, further⟩, later, ran⟩ := exceptBind_ok ran
    cases ran
    obtain ⟨left, right⟩ := ih later
    have own : ∀ other, datumSupplierIds datum = .ok other ↔ ids = other := fun other => by
      rw [first, Except.ok.injEq]
    constructor
    · simp only [List.mem_append, left, List.exists_mem_cons_iff, own, exists_eq_left']
      cases fetchesSupplier datum <;> simp
    · simp only [List.mem_append, right, List.exists_mem_cons_iff, own, exists_eq_left']
      cases fetchesServices datum <;> simp

/-- Ids are collected only if every datum gives its ids. -/
theorem datumSupplierIds_of_collected (ran : collectSupplierIds data = .ok (suppliers, operators))
    {datum : StakeDatum} (member : datum ∈ data) : ∃ ids, datumSupplierIds datum = .ok ids := by
  induction data generalizing suppliers operators with
  | nil => exact absurd member List.not_mem_nil
  | cons head rest ih =>
    obtain ⟨ids, first, ran⟩ := exceptBind_ok ran
    obtain ⟨⟨others, further⟩, later, -⟩ := exceptBind_ok ran
    rcases List.mem_cons.mp member with rfl | inside
    · exact ⟨ids, first⟩
    · exact ih later inside

/-- A datum whose configs are fetched gives the one operator it is about. -/
theorem mem_datumSupplierIds {records next : SupplierRecords} {changes : SupplierChanges}
    {datum : StakeDatum} (step : SupplierStep externals records datum changes next)
    (consistent : NamesOneOperator datum) (fetches : fetchesServices datum = true)
    {ids : List String} (found : datumSupplierIds datum = .ok ids) (operator : String) :
    operator ∈ ids ↔ Concerns externals operator datum := by
  cases step with
  | stake kind _ =>
    simp only [datumSupplierIds, kind, supplierPath, DecodedMsg.get, Option.toList_some,
      List.map_cons, List.map_nil, Option.getD_some, Except.ok.injEq] at found
    subst found
    simp [Concerns, kind, supplierPath, DecodedMsg.get, eq_comm]
  | claim kind _ =>
    simp only [datumSupplierIds, kind, supplierPath, DecodedMsg.get, Option.toList_some,
      List.map_cons, List.map_nil, Option.getD_some, Except.ok.injEq] at found
    subst found
    simp [Concerns, kind, supplierPath, DecodedMsg.get, eq_comm]
  | unstake kind _ _ => simp [fetchesServices, kind] at fetches
  | unbondingBegin kind _ _ _ => simp [fetchesServices, kind] at fetches
  | unbondingEnd kind _ _ _ => simp [fetchesServices, kind] at fetches
  | slash kind _ _ _ => simp [fetchesServices, kind] at fetches
  -- The getter and the handler read the same operator, as the event names only one.
  | activate kind read _ =>
    simp only [datumSupplierIds, kind, supplierGetId, consistent _ rfl kind _ read.read] at found
    cases found
    simp [Concerns, kind, read.read, eq_comm]
  | activateUnknown kind read _ =>
    simp only [datumSupplierIds, kind, supplierGetId, consistent _ rfl kind _ read.read] at found
    cases found
    simp [Concerns, kind, read.read, eq_comm]
  | ignoreMsg none =>
    rename_i msg
    cases kind : msg.decodedMsg <;> simp [fetchesServices, kind, supplierPath] at fetches none
  | ignoreEvent none =>
    rename_i event
    cases kind : event.type <;> simp [fetchesServices, kind, supplierGetId] at fetches none

/-- Whether a datum makes the block load the configs of an operator. -/
def Loads (externals : Externals) (operator : String) (datum : StakeDatum) : Prop :=
  fetchesServices datum = true ∧ Concerns externals operator datum

/-- Every datum of a run makes a step. -/
theorem SupplierRun.step_of_mem {records next : SupplierRecords} {changes : SupplierChanges}
    (run : SupplierRun externals records data changes next) {datum : StakeDatum}
    (member : datum ∈ data) :
    ∃ before later one, SupplierStep externals before datum one later := by
  induction run with
  | nil => exact absurd member List.not_mem_nil
  | cons step _ ih =>
    rcases List.mem_cons.mp member with rfl | inside
    · exact ⟨_, _, _, step⟩
    · exact ih inside

/-- The configs of an operator are fetched when one of the data loads them. -/
theorem mem_operators {records next : SupplierRecords} {changes : SupplierChanges}
    (run : SupplierRun externals records data changes next)
    (consistent : ∀ datum ∈ data, NamesOneOperator datum)
    (collected : collectSupplierIds data = .ok (suppliers, operators)) (operator : String) :
    operator ∈ operators ↔ ∃ datum ∈ data, Loads externals operator datum := by
  rw [(mem_collectSupplierIds collected operator).2]
  constructor
  · rintro ⟨datum, member, fetches, ids, found, listed⟩
    obtain ⟨_, _, _, step⟩ := run.step_of_mem member
    exact ⟨datum, member, fetches,
      (mem_datumSupplierIds step (consistent datum member) fetches found operator).mp listed⟩
  · rintro ⟨datum, member, fetches, about⟩
    obtain ⟨_, _, _, step⟩ := run.step_of_mem member
    obtain ⟨ids, found⟩ := datumSupplierIds_of_collected collected member
    exact ⟨datum, member, fetches, ids, found,
      (mem_datumSupplierIds step (consistent datum member) fetches found operator).mpr about⟩

/-- What a block that was indexed has done. -/
theorem indexSupplier_ok (named : NamedRows tables.services)
    (consistent : ∀ datum ∈ blockData allData, NamesOneOperator datum)
    (ran : indexSupplier externals height tables allData = .ok after) :
    ∃ suppliers operators changes record,
      collectSupplierIds (blockData allData) = .ok (suppliers, operators) ∧
      SupplierRun externals (fetchSupplierData height tables suppliers operators).get
        (blockData allData) changes record.get ∧
      after = performSupplierDatabaseOperations height ⟨(buildSupplierSaveLists record).1,
        (buildSupplierSaveLists record).2,
        suppliersToClose (fetchSupplierData height tables suppliers operators), changes⟩ tables := by
  obtain ⟨writes, wrote, ran⟩ := exceptBind_ok ran
  obtain ⟨⟨suppliers, operators⟩, collected, wrote⟩ := exceptBind_ok wrote
  obtain ⟨⟨changes, record⟩, handled, wrote⟩ := exceptBind_ok wrote
  cases wrote
  cases ran
  exact ⟨suppliers, operators, changes, record, collected,
    supplierRun_of_run (fetchSupplierData_wellKept named) consistent handled, rfl⟩

end Indexing

end Pocketdex
