import Pocketdex.Proofs.SupplierRows

/-! What a supplier's row says over sequences of data: activations, lifecycle, and slashes. -/

namespace Pocketdex

/-- Attributes that name an operator, one of its services and a height, each once, in any order. -/
structure NamesActivation (attributes : List Attribute) (operator serviceId : String)
    (height : Int) : Prop where
  operatorAddress : ∃ value, attributes.filter (fun entry => entry.key = "operator_address") =
    [⟨"operator_address", value⟩] ∧ replaceQuotes value = operator
  service : ∃ value, attributes.filter (fun entry => entry.key = "service_id") =
    [⟨"service_id", value⟩] ∧ replaceQuotes value = serviceId
  activationHeight : ∃ value, attributes.filter (fun entry => entry.key = "activation_height") =
    [⟨"activation_height", value⟩] ∧ readHeight value = .ok height
  flat : ∀ entry ∈ attributes, entry.key ≠ "supplier"
  named : operator ≠ ""
  positive : height ≠ 0

/-- The named config becomes activated, if it was not yet, and the others stay as they were. -/
def ActivatesOnly (before after : Dict String SupplierServiceConfigProps) (named : String)
    (height : Int) (eventId : String) : Prop :=
  ∀ id service, before.get id = some service → ∃ updated, after.get id = some updated ∧
    (id = named → service.isActivated = false →
      updated.activatedAtId = some height ∧ updated.activatedEventId = some eventId) ∧
    (id ≠ named → updated.activatedAtId = service.activatedAtId ∧
      updated.activatedEventId = service.activatedEventId)

/-- An attribute that occurs once is the one that is read. -/
theorem readAttribute_once {α : Type} {key value : String} {read : String → Except String α}
    {default : α} {attributes : List Attribute}
    (once : attributes.filter (fun entry => entry.key = key) = [⟨key, value⟩]) :
    readAttribute key read default attributes = read value := by
  -- The attributes of other keys pass the value on.
  have other : ∀ (attributes : List Attribute) (value : α),
      attributes.filter (fun entry => entry.key = key) = [] →
        readAttribute key read value attributes = .ok value := by
    intro attributes
    induction attributes with
    | nil => intro value _; rfl
    | cons entry rest ih =>
      intro value none
      by_cases same : entry.key = key
      · simp [same] at none
      · rw [List.filter_cons_of_neg (by simpa using same)] at none
        show (if entry.key = key then read entry.value else .ok value).bind _ = _
        rw [if_neg same]
        exact ih value none
  induction attributes generalizing default with
  | nil => simp at once
  | cons entry rest ih =>
    by_cases same : entry.key = key
    · rw [List.filter_cons_of_pos (by simpa using same), List.cons.injEq] at once
      obtain ⟨rfl, none⟩ := once
      show (if key = key then read value else .ok default).bind _ = _
      rw [if_pos rfl]
      cases found : read value with
      | error error => rfl
      | ok result => exact other rest result none
    · rw [List.filter_cons_of_neg (by simpa using same)] at once
      show (if entry.key = key then read entry.value else .ok default).bind _ = _
      rw [if_neg same]
      exact ih once

/-- A flat operator that occurs once is read by the handler and by the id getter. -/
theorem readOperator_once {value : String} {attributes : List Attribute}
    (once : attributes.filter (fun entry => entry.key = "operator_address") =
      [⟨"operator_address", value⟩])
    (flat : ∀ entry ∈ attributes, entry.key ≠ "supplier") :
    readOperator attributes = .ok (some (replaceQuotes value)) ∧
      eventGetId attributes = .ok (some (.string (replaceQuotes value))) := by
  constructor
  · -- Without a JSON supplier only the flat attribute is read.
    have same : ∀ (attributes : List Attribute) (start : Option String),
        (∀ entry ∈ attributes, entry.key ≠ "supplier") →
          attributes.foldlM (fun operatorAddress entry =>
            if entry.key = "supplier" then readJsonOperator entry.value
            else if entry.key = "operator_address" then .ok (some (replaceQuotes entry.value))
            else .ok operatorAddress) start =
          readAttribute "operator_address" (fun value => .ok (some (replaceQuotes value))) start
            attributes := by
      intro attributes
      induction attributes with
      | nil => intro start _; rfl
      | cons entry rest ih =>
        intro start flat
        have later := fun other member => flat other (List.mem_cons_of_mem _ member)
        rw [readAttribute, List.foldlM_cons, List.foldlM_cons,
          if_neg (flat entry List.mem_cons_self)]
        by_cases found : entry.key = "operator_address"
        · rw [if_pos found]
          exact ih _ later
        · rw [if_neg found]
          exact ih _ later
    rw [readOperator, same attributes none flat]
    exact readAttribute_once once
  · -- The getter stops at the first attribute that tells, which is the only one.
    induction attributes with
    | nil => simp at once
    | cons entry rest ih =>
      rw [eventGetId, if_neg (flat entry List.mem_cons_self)]
      by_cases found : entry.key = "operator_address"
      · rw [List.filter_cons_of_pos (by simpa using found), List.cons.injEq] at once
        rw [if_pos found, once.1]
      · rw [List.filter_cons_of_neg (by simpa using found)] at once
        rw [if_neg found]
        exact ih once fun other member => flat other (List.mem_cons_of_mem _ member)

/-- What the handler reads of an activation that names an operator, a service and a height. -/
theorem NamesActivation.read {event : CosmosEvent} {operator serviceId : String} {height : Int}
    (names : NamesActivation event.attributes operator serviceId height) :
    ActivationRead event height operator ∧
      eventGetId event.attributes = .ok (some (.string operator)) := by
  obtain ⟨address, once, rfl⟩ := names.operatorAddress
  obtain ⟨text, single, read⟩ := names.activationHeight
  obtain ⟨handler, getter⟩ := readOperator_once once names.flat
  exact ⟨⟨(readAttribute_once single).trans read, names.positive, handler, names.named⟩, getter⟩

/-- After an activation every config of the operator is activated. -/
theorem get_activatedEntry {operator : String} {entry : SupplierRecord}
    (named : NamedServices operator entry.services) (height : Int) (eventId id : String) :
    (activatedEntry height eventId entry).services.get id = (entry.services.get id).map
      fun service => if service.isActivated then service else service.activate height eventId := by
  show (Dict.storeAll SupplierServiceConfigProps.id _ _).get id = _
  cases found : (Dict.storeAll SupplierServiceConfigProps.id
      (activatedServices height eventId entry.services) entry.services).get id with
  | none =>
    have absent : entry.services.get id = none := by
      by_contra known
      exact absurd found (Dict.get_storeAll_ne_none.mpr (Or.inr known))
    rw [absent]
    rfl
  | some stored =>
    rcases Dict.get_storeAll_cases found with ⟨member, same⟩ | ⟨unset, known⟩
    · -- An activated config is the one that was known under its id.
      obtain ⟨before, inside, rfl⟩ := List.mem_map.mp member
      obtain ⟨inside, inactive⟩ := List.mem_filter.mp inside
      obtain ⟨other, known⟩ := Dict.mem_values.mp inside
      have identified : before.id = id := same
      rw [(named other before known).1] at identified
      subst identified
      rw [known, Option.map_some, if_neg (by simpa using inactive)]
    · -- A config that is not among the activated ones was activated before.
      rw [known, Option.map_some]
      by_cases active : stored.isActivated = true
      · rw [if_pos active]
      · have listed : stored.activate height eventId ∈
            activatedServices height eventId entry.services :=
          List.mem_map.mpr ⟨stored, List.mem_filter.mpr
            ⟨Dict.mem_values.mpr ⟨id, known⟩, by simpa using active⟩, rfl⟩
        have same : (stored.activate height eventId).id = id := (named id stored known).1
        exact absurd same (unset _ listed)

/-- An activation touches only the named config just when the other ones are activated already. -/
theorem activation_onlyNamed_iff (externals : Externals) {record : Dict String SupplierRecord}
    (kept : WellKept record.get) {event : CosmosEvent}
    (kind : event.type = .supplierServiceConfigActivated) {operator serviceId : String}
    {height : Int} (names : NamesActivation event.attributes operator serviceId height) :
    ∃ changes after, (processSupplierDatum externals (.event event)).run record =
        .ok (changes, after) ∧
      (ActivatesOnly (knownServices (record.get operator)) (knownServices (after.get operator))
        (getStakeServiceId operator serviceId) height (getEventId externals.kindText event) ↔
      ∀ id service, (knownServices (record.get operator)).get id = some service →
        id ≠ getStakeServiceId operator serviceId → service.isActivated = true) := by
  obtain ⟨read, getter⟩ := names.read
  have consistent : NamesOneOperator (.event event) := by
    intro other same _ found readFound
    cases same
    rw [read.read, Except.ok.injEq, Option.some.injEq] at readFound
    rw [getter, readFound]
  cases found : record.get operator with
  | none =>
    -- An operator without configs has nothing to activate.
    have step : SupplierStep externals record.get (.event event) _ record.get :=
      SupplierStep.activateUnknown kind read found
    obtain ⟨after, ran, rows⟩ := run_of_step kept consistent step
    refine ⟨_, after, ran, fun _ id service known => ?_, fun _ id service known => ?_⟩
    · simp [knownServices] at known
    · simp [knownServices] at known
  | some entry =>
    have named : NamedServices operator entry.services := by
      have all := kept.named operator
      rwa [found] at all
    have step : SupplierStep externals record.get (.event event) _ _ :=
      SupplierStep.activate kind read found
    obtain ⟨after, ran, rows⟩ := run_of_step kept consistent step
    refine ⟨_, after, ran, ?_⟩
    rw [rows, Function.update_self]
    show ActivatesOnly entry.services (activatedEntry height _ entry).services _ _ _ ↔
      ∀ id service, entry.services.get id = some service → _ → _
    constructor
    · intro only id service known other
      obtain ⟨updated, stored, _, keeps⟩ := only id service known
      rw [get_activatedEntry named, known, Option.map_some, Option.some.injEq] at stored
      by_contra inactive
      rw [if_neg inactive] at stored
      subst stored
      -- The height of the event is none of a config that is not activated.
      have same : some height = service.activatedAtId := (keeps other).1
      rw [SupplierServiceConfigProps.isActivated, ← same, given, Option.filter_some,
        if_pos (by simpa using names.positive)] at inactive
      exact inactive rfl
    · intro active id service known
      refine ⟨_, by rw [get_activatedEntry named, known, Option.map_some], ?_, ?_⟩
      · intro _ inactive
        rw [if_neg (by simp [inactive])]
        exact ⟨rfl, rfl⟩
      · intro other
        rw [if_pos (active id service known other)]
        exact ⟨rfl, rfl⟩

/-- A block without Morse keys and without hosts, whose events are spelled in snake case. -/
def plainExternals : Externals where
  kindText
    | .beginBlock => "begin_block"
    | .endBlock => "end_block"
    | .message => "message"
    | .transaction => "transaction"
    | .finalizeBlock => "finalize_block"
  pubKeyToAddress := fun _ => ""
  hostname := fun _ => none
  cosmosDecimalToBigInt := fun _ => 0

/-- A config of an operator, which may have been activated. -/
def plainConfig (operator serviceId : String) (activatedAtId : Option Int) :
    SupplierServiceConfigProps where
  id := getStakeServiceId operator serviceId
  serviceId := serviceId
  supplierId := operator
  endpoints := []
  revShare := []
  domains := []
  activatedAtId := activatedAtId

/-- The event that activates a service of an operator at height 120. -/
def activationEvent (operator serviceId : String) : CosmosEvent where
  idx := 0
  height := 120
  kind := .finalizeBlock
  type := .supplierServiceConfigActivated
  attributes := [⟨"operator_address", operator⟩, ⟨"service_id", serviceId⟩,
    ⟨"activation_height", "120"⟩]
  tx := none
  msg := none

/-- The record of an operator with two configs, the second of which may have been activated. -/
def twoConfigs (activatedAtId : Option Int) : Dict String SupplierRecord :=
  Dict.empty.set "pokt1op" ⟨none, (Dict.empty.set "pokt1op-svc1"
    (plainConfig "pokt1op" "svc1" none)).set "pokt1op-svc2" (plainConfig "pokt1op" "svc2" activatedAtId)⟩

/-- Records that are searched through are well kept. -/
theorem wellKept_of_entries {record : Dict String SupplierRecord}
    (each : ∀ entry ∈ record.entries,
      (∀ supplier, entry.2.supplier = some supplier → supplier.id = entry.1) ∧
      ∀ service ∈ entry.2.services.entries, service.2.id = service.1 ∧
        service.2.supplierId = entry.1 ∧
          service.1 = getStakeServiceId entry.1 service.2.serviceId) : WellKept record.get := by
  constructor
  · intro operator entry supplier found has
    exact (each (operator, entry) (Dict.get_eq_some.mp found)).1 supplier has
  · intro operator id service known
    cases found : record.get operator with
    | none => simp [found, knownServices] at known
    | some entry =>
      rw [found] at known
      exact (each (operator, entry) (Dict.get_eq_some.mp found)).2 (id, service)
        (Dict.get_eq_some.mp known)

/-- The named attributes of an activation are read back. -/
theorem activationEvent_names : NamesActivation (activationEvent "pokt1op" "svc1").attributes
    "pokt1op" "svc1" 120 where
  operatorAddress := ⟨"pokt1op", by decide, by decide⟩
  service := ⟨"svc1", by decide, by decide⟩
  activationHeight := ⟨"120", by decide, ok_of_toOption (by decide)⟩
  flat := by decide
  named := by decide
  positive := by decide

/-- A record with two configs is well kept. -/
theorem twoConfigs_wellKept (activatedAtId : Option Int) :
    WellKept (twoConfigs activatedAtId).get := by
  refine wellKept_of_entries fun entry member => ?_
  have entries : (twoConfigs activatedAtId).entries = [("pokt1op", ⟨none, (Dict.empty.set
      "pokt1op-svc1" (plainConfig "pokt1op" "svc1" none)).set "pokt1op-svc2"
        (plainConfig "pokt1op" "svc2" activatedAtId)⟩)] := rfl
  have services : ((Dict.empty.set "pokt1op-svc1" (plainConfig "pokt1op" "svc1" none)).set
      "pokt1op-svc2" (plainConfig "pokt1op" "svc2" activatedAtId)).entries =
        [("pokt1op-svc1", plainConfig "pokt1op" "svc1" none),
          ("pokt1op-svc2", plainConfig "pokt1op" "svc2" activatedAtId)] := rfl
  rw [entries, List.mem_singleton] at member
  subst member
  refine ⟨by simp, fun service inside => ?_⟩
  rw [services] at inside
  rcases List.mem_cons.mp inside with rfl | inside
  · exact ⟨rfl, rfl, rfl⟩
  · rw [List.mem_singleton] at inside
    subst inside
    exact ⟨rfl, rfl, rfl⟩

/-- An activation of one service beside a config that is activated already. -/
theorem activation_onlyNamed_active :
    ∃ changes after, (processSupplierDatum plainExternals
        (.event (activationEvent "pokt1op" "svc1"))).run (twoConfigs (some 60)) =
          .ok (changes, after) ∧
      ActivatesOnly (knownServices ((twoConfigs (some 60)).get "pokt1op"))
        (knownServices (after.get "pokt1op")) "pokt1op-svc1" 120 "120-finalize_block-0" := by
  obtain ⟨changes, after, ran, only⟩ := activation_onlyNamed_iff plainExternals
    (twoConfigs_wellKept (some 60)) rfl activationEvent_names
  refine ⟨changes, after, ran, only.mpr fun id service known other => ?_⟩
  have found := Dict.get_eq_some.mp known
  have services : (knownServices ((twoConfigs (some 60)).get "pokt1op")).entries =
      [("pokt1op-svc1", plainConfig "pokt1op" "svc1" none),
        ("pokt1op-svc2", plainConfig "pokt1op" "svc2" (some 60))] := rfl
  rw [services] at found
  rcases List.mem_cons.mp found with same | found
  · cases same
    exact absurd rfl other
  · rw [List.mem_singleton] at found
    cases found
    rfl

/-- An activation of one service activates the other one as well. -/
theorem activation_touches_other :
    ∃ changes after, (processSupplierDatum plainExternals
        (.event (activationEvent "pokt1op" "svc1"))).run (twoConfigs none) =
          .ok (changes, after) ∧
      ¬ ActivatesOnly (knownServices ((twoConfigs none).get "pokt1op"))
        (knownServices (after.get "pokt1op")) "pokt1op-svc1" 120 "120-finalize_block-0" := by
  have consistent : NamesOneOperator (.event (activationEvent "pokt1op" "svc1")) := by
    intro event same _ operator found
    cases same
    rw [activationEvent_names.read.1.read, Except.ok.injEq, Option.some.injEq] at found
    rw [activationEvent_names.read.2, found]
  have step : SupplierStep plainExternals (twoConfigs none).get
      (.event (activationEvent "pokt1op" "svc1")) _ _ :=
    SupplierStep.activate rfl activationEvent_names.read.1 rfl
  obtain ⟨after, ran, rows⟩ := run_of_step (twoConfigs_wellKept none) consistent step
  refine ⟨_, after, ran, fun only => ?_⟩
  obtain ⟨updated, stored, _, keeps⟩ := only "pokt1op-svc2" (plainConfig "pokt1op" "svc2" none) rfl
  -- The other config was not activated before.
  rw [rows, Function.update_self] at stored
  have same := (keeps (by decide)).1
  cases stored
  exact absurd same (by decide)

end Pocketdex
