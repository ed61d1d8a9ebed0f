import Pocketdex.Base.Run
import Pocketdex.Pocket.ApplicationServices
import Pocketdex.Proofs.Reconciliation

/-! What staking leaves of an application: its open services, and what its row says of transfers. -/

namespace Pocketdex

/-- The services kept open for an application once more of its services were read. -/
def addServices (kept : Option (List String)) (serviceIds : List String) : Option (List String) :=
  serviceIds.foldl (fun kept serviceId => some (match kept with
    | none => setOfText serviceId
    | some services => services.insert serviceId)) kept

/-- Whether the update of a call closes the open row of a service of an application. -/
def Closes (listed : List (String × List String)) (address serviceId : String) : Prop :=
  ∃ first rest, listedServices address listed = first :: rest ∧
    serviceId ∉ setOfText first ∧ serviceId ∉ rest

instance (listed : List (String × List String)) (address serviceId : String) :
    Decidable (Closes listed address serviceId) :=
  match found : listedServices address listed with
  | [] => isFalse (by rintro ⟨first, rest, same, _⟩; simp [found] at same)
  | first :: rest =>
    if outside : serviceId ∉ setOfText first ∧ serviceId ∉ rest then
      isTrue ⟨first, rest, found, outside⟩
    else isFalse (by
      rintro ⟨one, others, same, apart⟩
      rw [found, List.cons.injEq] at same
      exact outside (same.1 ▸ same.2 ▸ apart))

/-- A service row has the id of its application and service, and the address is told by it. -/
structure NamedService (row : ApplicationServiceProps) : Prop where
  named : row.id = getStakeServiceId row.applicationId row.serviceId
  dashless : '-' ∉ row.applicationId.toList

/-- Reading services one list after the other reads them all. -/
theorem addServices_append (kept : Option (List String)) (first second : List String) :
    addServices kept (first ++ second) = addServices (addServices kept first) second :=
  List.foldl_append ..

/-- What one message collects for each application. -/
theorem get_collectServices (appServices : Dict String (List String)) (address other : String)
    (serviceIds : List String) :
    (collectServices appServices address serviceIds).get other =
      if other = address then addServices (appServices.get address) serviceIds
      else appServices.get other := by
  -- Each service changes what is kept for the application of the message only.
  induction serviceIds generalizing appServices with
  | nil =>
    by_cases same : other = address
    · simp [collectServices, addServices, same]
    · simp [collectServices, same]
  | cons serviceId rest ih =>
    rw [collectServices, List.foldl_cons]
    refine (ih _).trans ?_
    cases found : appServices.get address with
    | none => simp [Dict.get_set, addServices]; split <;> simp_all
    | some services => simp [Dict.get_set, addServices]; split <;> simp_all

/-- What the messages of a call collect for an application. -/
theorem get_collectAppServices (listed : List (String × List String)) (address : String) :
    (collectAppServices listed).get address = addServices none (listedServices address listed) := by
  have general : ∀ appServices : Dict String (List String),
      (listed.foldl (fun appServices message => collectServices appServices message.1 message.2)
        appServices).get address =
        addServices (appServices.get address) (listedServices address listed) := by
    induction listed with
    | nil => exact fun appServices => rfl
    | cons message rest ih =>
      intro appServices
      rw [List.foldl_cons, ih, get_collectServices]
      by_cases own : message.1 = address
      · subst own
        rw [if_pos rfl, ← addServices_append]
        simp [listedServices]
      · have other : address ≠ message.1 := fun same => own same.symm
        rw [if_neg other]
        simp [listedServices, own]
  exact general Dict.empty

/-- What is kept after more services are those kept before and the new ones. -/
theorem mem_addServices {services : List String} {serviceIds : List String} {serviceId : String} :
    (∃ kept, addServices (some services) serviceIds = some kept ∧ serviceId ∈ kept) ↔
      serviceId ∈ services ∨ serviceId ∈ serviceIds := by
  induction serviceIds generalizing services with
  | nil => simp [addServices]
  | cons first rest ih =>
    have step : addServices (some services) (first :: rest) =
        addServices (some (services.insert first)) rest := rfl
    rw [step, ih, List.mem_insert_iff, List.mem_cons]
    tauto

/-- The update closes the services that are not kept of applications that list some. -/
theorem markDeleteOr_iff {listed : List (String × List String)} {row : ApplicationServiceProps} :
    markDeleteOr (collectAppServices listed) row = true ↔
      Closes listed row.applicationId row.serviceId := by
  have conditions : markDeleteOr (collectAppServices listed) row = true ↔
      ∃ kept, (collectAppServices listed).get row.applicationId = some kept ∧
        row.serviceId ∉ kept := by
    simp only [markDeleteOr, List.any_eq_true, Bool.and_eq_true, decide_eq_true_eq]
    constructor
    · rintro ⟨⟨address, kept⟩, member, same, absent⟩
      exact ⟨kept, by rw [same]; exact Dict.get_eq_some.mpr member, absent⟩
    · rintro ⟨kept, found, absent⟩
      exact ⟨_, Dict.get_eq_some.mp found, rfl, absent⟩
  rw [conditions, get_collectAppServices, Closes]
  cases services : listedServices row.applicationId listed with
  | nil => simp [addServices]
  | cons first rest =>
    have step : addServices none (first :: rest) = addServices (some (setOfText first)) rest := rfl
    have kept := @mem_addServices (setOfText first) rest row.serviceId
    rw [step]
    constructor
    · rintro ⟨all, found, absent⟩
      have outside : ¬ (row.serviceId ∈ setOfText first ∨ row.serviceId ∈ rest) := by
        rw [← kept]
        rintro ⟨again, same, member⟩
        rw [found, Option.some.injEq] at same
        exact absent (same ▸ member)
      exact ⟨first, rest, rfl, not_or.mp outside⟩
    · rintro ⟨one, others, same, apart, beside⟩
      rw [List.cons.injEq] at same
      obtain ⟨rfl, rfl⟩ := same
      -- Once a service was read, something is kept.
      have some : ∀ (serviceIds services : List String),
          ∃ all, addServices (Option.some services) serviceIds = Option.some all := by
        intro serviceIds
        induction serviceIds with
        | nil => exact fun services => ⟨services, rfl⟩
        | cons next more ih => exact fun services => ih _
      obtain ⟨all, found⟩ := some rest (setOfText first)
      exact ⟨all, found, fun member => (kept.mp ⟨all, found, member⟩).elim apart beside⟩

/-- The rows a call inserts: one for each service a message lists. -/
def listedRows (listed : List (String × List String)) : List ApplicationServiceProps :=
  listed.flatMap fun message => message.2.map fun serviceId =>
    ⟨getStakeServiceId message.1 serviceId, serviceId, message.1⟩

/-- The rows of messages that are handled one by one are the listed ones. -/
theorem listedRows_of_forall₂ {δ ρ : Type} {list : δ → String × List String}
    {services : ρ → List ApplicationServiceProps} {messages : List δ} {rows : List ρ}
    (each : List.Forall₂ (fun message row => services row = listedRows [list message]) messages
      rows) : rows.flatMap services = listedRows (messages.map list) := by
  induction each with
  | nil => rfl
  | cons same _ ih =>
    rw [List.flatMap_cons, List.map_cons, ih, same]
    simp [listedRows]

/-- A call that is handled hands over the rows its messages list. -/
theorem appService_ok {call : StakeCall} {table after : Dict String Application}
    {appService : List ApplicationServiceProps}
    (ran : call.appService.run table = .ok (appService, after)) :
    appService = listedRows call.listed := by
  cases call with
  | stake messages =>
    simp only [StakeCall.appService, handleAppMsgStake, collectStakes, Program.bind_eq,
      Program.bind_assoc] at ran
    obtain ⟨rows, middle, collected, ran⟩ := Program.run_bind_ok.mp ran
    obtain ⟨_, last, _, ran⟩ := Program.run_bind_ok.mp ran
    cases ran
    apply listedRows_of_forall₂
    refine Program.forall₂_of_run_mapM ?_ collected
    rintro ⟨msg, decoded⟩ table row after ran
    simp only [_handleAppMsgStake, Program.bind_eq] at ran
    obtain ⟨amount, _, ran⟩ := Program.run_lift_bind ran
    simp only [_stakeApplication, Program.bind_eq, Program.read_bind, Program.bind,
      Program.pure_eq, Program.run, Except.ok.injEq, Prod.mk.injEq] at ran
    obtain ⟨rfl, _⟩ := ran
    simp [listedRows]
  | claim messages =>
    simp only [StakeCall.appService, handleMsgClaimMorseApplication, collectStakes,
      Program.bind_eq, Program.bind_assoc] at ran
    obtain ⟨rows, middle, collected, ran⟩ := Program.run_bind_ok.mp ran
    obtain ⟨_, last, _, ran⟩ := Program.run_bind_ok.mp ran
    cases ran
    apply listedRows_of_forall₂
    refine Program.forall₂_of_run_mapM ?_ collected
    rintro ⟨msg, decoded⟩ table row after ran
    simp only [_handleMsgClaimMorseApplication, Program.bind_eq] at ran
    obtain ⟨stakeCoin, _, ran⟩ := Program.run_lift_bind ran
    obtain ⟨balanceCoin, _, ran⟩ := Program.run_lift_bind ran
    simp only [Program.read_bind, Program.run] at ran
    obtain ⟨stakeAmount, _, ran⟩ := Program.run_lift_bind ran
    obtain ⟨balanceAmount, _, ran⟩ := Program.run_lift_bind ran
    obtain ⟨services, given, ran⟩ := Program.run_lift_bind ran
    simp only [_stakeApplication, Program.bind_eq, Program.read_bind, Program.bind,
      Program.pure_eq, Program.run, Except.ok.injEq, Prod.mk.injEq] at ran
    obtain ⟨rfl, _⟩ := ran
    -- A claim without a service would have failed.
    cases config : decoded.serviceConfig with
    | none => simp [config] at given
    | some service =>
      rw [config] at given
      cases given
      simp [listedRows, config]

/-- The listed rows are those of listed services. -/
theorem mem_listedRows {listed : List (String × List String)} {row : ApplicationServiceProps} :
    row ∈ listedRows listed ↔ row.serviceId ∈ listedServices row.applicationId listed ∧
      row.id = getStakeServiceId row.applicationId row.serviceId := by
  simp only [listedRows, listedServices, List.mem_flatMap, List.mem_filter, List.mem_map,
    decide_eq_true_eq]
  constructor
  · rintro ⟨message, member, serviceId, inside, rfl⟩
    exact ⟨⟨message, ⟨member, rfl⟩, inside⟩, rfl⟩
  · rintro ⟨⟨message, ⟨member, own⟩, inside⟩, named⟩
    refine ⟨message, member, row.serviceId, inside, ?_⟩
    rw [own, ← named]

section

variable {height : ℕ} {listed : List (String × List String)} {address serviceId : String}
  {rows : List (Row ApplicationServiceProps)}

/-- The open version of a service of an application. -/
abbrev openOf (height : ℕ) (address serviceId : String)
    (rows : List (Row ApplicationServiceProps)) : List (Row ApplicationServiceProps) :=
  openVersions ApplicationServiceProps.id height (getStakeServiceId address serviceId) rows

/-- A service is open as often as its id has open versions. -/
theorem count_openServices (named : ∀ row ∈ rows, NamedService row.data)
    (dashless : '-' ∉ address.toList) :
    (openServices height address rows).count serviceId =
      (openOf height address serviceId rows).length := by
  rw [List.count, openServices, List.countP_map, List.countP_filter, List.countP_eq_length_filter,
    openOf, openVersions, versionsOf, List.filter_filter]
  congr 1
  apply List.filter_congr
  intro row member
  obtain ⟨id, own⟩ := named row member
  -- The id of a row is that of the service exactly when both of its parts are.
  have same : row.data.id = getStakeServiceId address serviceId ↔
      row.data.applicationId = address ∧ row.data.serviceId = serviceId := by
    constructor
    · intro equal
      rw [id] at equal
      exact getStakeServiceId_inj own dashless equal
    · rintro ⟨one, other⟩
      rw [id, one, other]
  simp only [Function.comp_apply, same, Bool.decide_and]
  cases row.openAt height <;> cases decide (row.data.applicationId = address) <;>
    simp [beq_eq_decide]

/-- Rows stay well named under both writes. -/
theorem named_perform {write : ServiceWrite} (named : ∀ row ∈ rows, NamedService row.data)
    (inserted : ∀ appService, write = .bulkCreate appService →
      ∀ row ∈ appService, NamedService row) :
    ∀ row ∈ write.perform height rows, NamedService row.data := by
  -- Closing keeps what a row is about.
  have closing : ∀ (selects : ApplicationServiceProps → Bool)
      (rows : List (Row ApplicationServiceProps)), (∀ row ∈ rows, NamedService row.data) →
      ∀ row ∈ closeWhere selects height rows, NamedService row.data := by
    intro selects rows named row member
    obtain ⟨old, before, rfl⟩ := List.mem_map.mp member
    split
    · exact named old before
    · exact named old before
  cases write with
  | update appServices => exact closing _ rows named
  | bulkCreate appService =>
    have inserted := inserted appService rfl
    simp only [ServiceWrite.perform]
    induction appService generalizing rows with
    | nil => exact named
    | cons data rest ih =>
      refine ih ?_ (fun appService same row member => ?_) fun row member => inserted row
        (List.mem_cons_of_mem _ member)
      · intro row member
        rcases List.mem_append.mp member with old | new
        · exact closing _ _ (fun row member => named row (List.mem_filter.mp member).1) row old
        · rw [List.mem_singleton.mp new]
          exact inserted data List.mem_cons_self
      · cases same
        exact inserted row (List.mem_cons_of_mem _ member)

/-- The listed rows are well named when their applications are. -/
theorem named_listedRows (dashless : ∀ message ∈ listed, '-' ∉ message.1.toList) :
    ∀ row ∈ listedRows listed, NamedService row := by
  intro row member
  refine ⟨(mem_listedRows.mp member).2, ?_⟩
  obtain ⟨message, inside, made⟩ := List.mem_flatMap.mp member
  obtain ⟨_, _, rfl⟩ := List.mem_map.mp made
  exact dashless message inside

/-- The insert opens the listed services and leaves the others as they were. -/
theorem openOf_bulkCreate (dashless : ∀ message ∈ listed, '-' ∉ message.1.toList)
    (own : '-' ∉ address.toList) :
    (openOf height address serviceId
        ((ServiceWrite.bulkCreate (listedRows listed)).perform height rows)).length =
      if serviceId ∈ listedServices address listed then 1
      else (openOf height address serviceId rows).length := by
  have named := named_listedRows dashless
  split
  · -- The service has one row, however often it is listed.
    rename_i inside
    have row : (⟨getStakeServiceId address serviceId, serviceId, address⟩ :
        ApplicationServiceProps) ∈ listedRows listed := mem_listedRows.mpr ⟨inside, rfl⟩
    rw [openOf, ServiceWrite.perform]
    rw [openVersions_storeBulkCreate_same row]
    · rfl
    · intro other member same
      obtain ⟨id, apart⟩ := named other member
      rw [id] at same
      obtain ⟨first, second⟩ := getStakeServiceId_inj apart own same
      cases other
      simp_all
  · rename_i absent
    rw [openOf, ServiceWrite.perform, openVersions_storeBulkCreate_other]
    intro row member same
    obtain ⟨id, apart⟩ := named row member
    rw [id] at same
    obtain ⟨rfl, rfl⟩ := getStakeServiceId_inj apart own same
    exact absent (mem_listedRows.mp member).1

/-- The update closes what it closes and leaves the others as they were. -/
theorem openOf_update (named : ∀ row ∈ rows, NamedService row.data)
    (own : '-' ∉ address.toList) :
    (openOf height address serviceId
        ((ServiceWrite.update (collectAppServices listed)).perform height rows)).length =
      if Closes listed address serviceId then 0
      else (openOf height address serviceId rows).length := by
  have chosen : ∀ row ∈ rows, row.data.id = getStakeServiceId address serviceId →
      markDeleteOr (collectAppServices listed) row.data =
        decide (Closes listed address serviceId) := by
    intro row member same
    obtain ⟨id, apart⟩ := named row member
    rw [id] at same
    obtain ⟨rfl, rfl⟩ := getStakeServiceId_inj apart own same
    rw [Bool.eq_iff_iff, markDeleteOr_iff, decide_eq_true_eq]
  rw [openOf, ServiceWrite.perform, openVersions_closeWhere_if chosen]
  by_cases closes : Closes listed address serviceId
  · simp [closes]
  · simp [closes]

/-- Neither write changes the rows of applications without a message. -/
theorem others_perform {write : ServiceWrite} (named : ∀ row ∈ rows, NamedService row.data)
    (dashless : ∀ message ∈ listed, '-' ∉ message.1.toList)
    (either : write = .bulkCreate (listedRows listed) ∨
      write = .update (collectAppServices listed)) :
    (write.perform height rows).filter (fun row => row.data.applicationId ∉ listed.map Prod.fst) =
      rows.filter fun row => row.data.applicationId ∉ listed.map Prod.fst := by
  have inserted := named_listedRows dashless
  rcases either with rfl | rfl
  · -- Every inserted row is of an application with a message.
    have known : ∀ row ∈ listedRows listed, row.applicationId ∈ listed.map Prod.fst := by
      intro row member
      obtain ⟨message, inside, made⟩ := List.mem_flatMap.mp member
      obtain ⟨_, _, rfl⟩ := List.mem_map.mp made
      exact List.mem_map.mpr ⟨message, inside, rfl⟩
    rw [ServiceWrite.perform]
    generalize listedRows listed = records at inserted known
    induction records generalizing rows with
    | nil => rfl
    | cons data rest ih =>
      rw [storeBulkCreate, List.foldl_cons]
      have saved : ∀ row ∈ storeSave ApplicationServiceProps.id height data rows,
          NamedService row.data :=
        @named_perform height rows (.bulkCreate [data]) named
          (by rintro _ ⟨rfl⟩ row member; rw [List.mem_singleton.mp member]
              exact inserted data List.mem_cons_self)
      refine (ih saved (fun row member => inserted row (List.mem_cons_of_mem _ member))
        fun row member => known row (List.mem_cons_of_mem _ member)).trans ?_
      apply @filter_storeSave _ _ ApplicationServiceProps.id _
        fun row => decide (row.applicationId ∉ listed.map Prod.fst)
      · simpa using known data List.mem_cons_self
      · intro row member outside same
        obtain ⟨id, apart⟩ := named row member
        obtain ⟨other, beside⟩ := inserted data List.mem_cons_self
        rw [id, other] at same
        rw [(getStakeServiceId_inj apart beside same).1] at outside
        exact of_decide_eq_true outside (known data List.mem_cons_self)
  · apply @filter_closeWhere _ (markDeleteOr (collectAppServices listed))
      fun row => decide (row.applicationId ∉ listed.map Prod.fst)
    intro row outside
    rw [← Bool.not_eq_true, markDeleteOr_iff]
    rintro ⟨first, rest, services, _⟩
    -- An application with services has a message.
    have none : listedServices row.applicationId listed = [] := by
      rw [listedServices, List.flatMap_eq_nil_iff]
      intro message member
      obtain ⟨inside, own⟩ := List.mem_filter.mp member
      exact absurd (List.mem_map.mpr ⟨message, inside, of_decide_eq_true own⟩)
        (of_decide_eq_true outside)
    rw [none] at services
    cases services

end

/-- The open services of a call's applications are the listed ones, and other rows are unchanged. -/
structure ServicesSettled (height : ℕ) (listed : List (String × List String))
    (rows after : List (Row ApplicationServiceProps)) : Prop where
  own : ∀ message ∈ listed, (openServices height message.1 after).Nodup ∧
    ∀ serviceId, serviceId ∈ openServices height message.1 after ↔
      serviceId ∈ listedServices message.1 listed
  others : (after.filter fun row => row.data.applicationId ∉ listed.map Prod.fst) =
    rows.filter fun row => row.data.applicationId ∉ listed.map Prod.fst

/-- The characters of the first listed service do as well as the service itself. -/
def FirstServiceHarmless (height : ℕ) (listed : List (String × List String))
    (rows : List (Row ApplicationServiceProps)) (address : String) : Prop :=
  match listedServices address listed with
  | [] => openServices height address rows = []
  | first :: rest => (first.toList.length = 1 ∨ first ∈ rest) ∧
    ∀ serviceId ∈ openServices height address rows,
      serviceId ∈ setOfText first → serviceId ∈ first :: rest

/-- A text is one of its own characters when it has just one. -/
theorem mem_setOfText_self {text : String} : text ∈ setOfText text ↔ text.toList.length = 1 := by
  rw [setOfText, List.mem_dedup, List.mem_map]
  constructor
  · rintro ⟨character, _, rfl⟩
    simp
  · intro single
    obtain ⟨character, same⟩ := List.length_eq_one_iff.mp single
    refine ⟨character, by simp [same], String.toList_inj.mp ?_⟩
    rw [same]
    simp

/-- The first service is harmless when what is listed stays open and what is not listed is closed. -/
theorem firstServiceHarmless_iff {height : ℕ} {listed : List (String × List String)}
    {rows : List (Row ApplicationServiceProps)} {address : String} :
    FirstServiceHarmless height listed rows address ↔
      ∀ serviceId, (serviceId ∈ listedServices address listed → ¬ Closes listed address serviceId) ∧
        (serviceId ∉ listedServices address listed → Closes listed address serviceId ∨
          serviceId ∉ openServices height address rows) := by
  rw [FirstServiceHarmless]
  cases services : listedServices address listed with
  | nil =>
    -- Without services nothing is closed.
    have none : ∀ serviceId, ¬ Closes listed address serviceId := by
      rintro serviceId ⟨first, rest, same, _⟩
      rw [services] at same
      cases same
    simp [none, List.eq_nil_iff_forall_not_mem]
  | cons first rest =>
    have closes : ∀ serviceId, Closes listed address serviceId ↔
        serviceId ∉ setOfText first ∧ serviceId ∉ rest := by
      intro serviceId
      constructor
      · rintro ⟨one, others, same, apart⟩
        rw [services, List.cons.injEq] at same
        exact same.1 ▸ same.2 ▸ apart
      · exact fun apart => ⟨first, rest, services, apart⟩
    simp only [closes, ← mem_setOfText_self, List.mem_cons]
    constructor
    · rintro ⟨kept, older⟩ serviceId
      refine ⟨?_, fun absent => ?_⟩
      · rintro (rfl | inside) ⟨apart, beside⟩
        · exact kept.elim apart beside
        · exact beside inside
      · by_cases character : serviceId ∈ setOfText first
        · exact Or.inr fun stored => absent (older serviceId stored character)
        · exact Or.inl ⟨character, fun inside => absent (Or.inr inside)⟩
    · intro every
      refine ⟨?_, fun serviceId stored character => ?_⟩
      · -- The first service is listed, so it must not be closed.
        by_contra neither
        exact (every first).1 (Or.inl rfl) (not_or.mp neither)
      · by_contra absent
        rcases (every serviceId).2 absent with ⟨apart, _⟩ | unstored
        · exact apart character
        · exact unstored stored

/-- The open services of an application are right exactly when each one is open as often as it
should be. -/
theorem openServices_settled_iff {height : ℕ} {listed : List (String × List String)}
    {address : String} {after : List (Row ApplicationServiceProps)} :
    ((openServices height address after).Nodup ∧ ∀ serviceId,
      serviceId ∈ openServices height address after ↔ serviceId ∈ listedServices address listed) ↔
      ∀ serviceId, (openServices height address after).count serviceId =
        if serviceId ∈ listedServices address listed then 1 else 0 := by
  constructor
  · rintro ⟨distinct, same⟩ serviceId
    split
    · rename_i inside
      exact List.count_eq_one_of_mem distinct ((same serviceId).mpr inside)
    · rename_i absent
      exact List.count_eq_zero.mpr fun stored => absent ((same serviceId).mp stored)
  · intro counts
    refine ⟨List.nodup_iff_count_le_one.mpr fun serviceId => ?_, fun serviceId => ?_⟩
    · rw [counts]
      split <;> omega
    · rw [← List.count_pos_iff, counts]
      split <;> simp_all

/-- The two orders in which the writes of a call can take effect. -/
theorem writes_order {call : StakeCall} {appService : List ApplicationServiceProps}
    {order : List ServiceWrite} : Trace (call.writes appService) order ↔
      order = [.bulkCreate appService, .update (collectAppServices call.listed)] ∨
        order = [.update (collectAppServices call.listed), .bulkCreate appService] := by
  constructor
  · intro run
    cases run with
    | par one two merged =>
      cases one
      cases two
      cases merged with
      | left later => cases later with
        | right last => cases last; exact Or.inl rfl
      | right later => cases later with
        | left last => cases last; exact Or.inr rfl
  · rintro (rfl | rfl)
    · exact Trace.par (Trace.step _) (Trace.step _) (Shuffle.left (Shuffle.right Shuffle.nil))
    · exact Trace.par (Trace.step _) (Trace.step _) (Shuffle.right (Shuffle.left Shuffle.nil))

/-- A call with one stake message, which lists one service. -/
def stakeOneService (serviceId : String) : StakeCall :=
  .stake [(⟨0, 9, ⟨0, "T", 0, []⟩, .stakeApplication ⟨"pokt1app", some ⟨"5", "upokt"⟩, [⟨serviceId⟩]⟩⟩,
    ⟨"pokt1app", some ⟨"5", "upokt"⟩, [⟨serviceId⟩]⟩)]

/-- The row of the application after that message. -/
def stakedFive : Dict String Application :=
  Dict.empty.set "pokt1app" {
    id := "pokt1app"
    accountId := "pokt1app"
    stakeAmount := 5
    stakeDenom := "upokt"
    stakeStatus := .staked }

/-- What a row says of transfers that ended. -/
structure Provenance where
  sourceApplicationId : Option String
  transferredFromAtId : Option ℕ
  destinationApplicationId : Option String
  transferEndBlockId : Option ℕ
  deriving DecidableEq, Repr

/-- The provenance a row holds. -/
def Application.provenance (app : Application) : Provenance :=
  ⟨app.sourceApplicationId, app.transferredFromAtId, app.destinationApplicationId,
    app.transferEndBlockId⟩

/-- All that a row says of transfers, pending and ended. -/
def Application.transferFields (app : Application) : Option String × Option Int × Provenance :=
  (app.transferringToId, app.transferEndHeight, app.provenance)

/-- The provenance of an application no transfer has ended for. -/
def Provenance.unset : Provenance := ⟨none, none, none, none⟩

/-- What is done to the application rows: a datum is handled, or the chain's set is applied. -/
inductive ApplicationInput where
  | datum (datum : StakeDatum)
  | reconcile (chainApps : List ChainApplication)

/-- The rows after one input. -/
def applicationStep (table : Dict String Application) :
    ApplicationInput → Except String (Dict String Application)
  | .datum datum => ((handleApplicationDatum datum).run table).map Prod.snd
  | .reconcile chainApps => reconcileApplications chainApps table

/-- An input stakes or claims an application. -/
def ApplicationInput.Restakes (input : ApplicationInput) (id : String) : Prop :=
  ∃ datum, input = .datum datum ∧ Stakes datum id

/-- An input is the event of a transfer that ends. -/
def ApplicationInput.EndsTransfer (input : ApplicationInput) : Prop :=
  ∃ event, input = .datum (.event event) ∧ event.type = .applicationTransferEnd

/-- A restake keeps all transfer fields, and only an ended transfer changes any provenance. -/
def KeepsTransferFields (table : Dict String Application) (input : ApplicationInput)
    (after : Dict String Application) : Prop :=
  (∀ id app, input.Restakes id → table.get id = some app →
    ∃ row, after.get id = some row ∧ row.transferFields = app.transferFields) ∧
  (¬ input.EndsTransfer → ∀ id app, table.get id = some app →
    ∃ row, after.get id = some row ∧ row.provenance = app.provenance)

/-- A restaked application is one that no transfer has ended for. -/
def RestakesUntransferred (table : Dict String Application) (input : ApplicationInput)
    (_ : Dict String Application) : Prop :=
  ∀ id app, input.Restakes id → table.get id = some app → app.provenance = Provenance.unset

section

variable {table after : Dict String Application}

/-- A program changes no row itself, and hands over rows that keep their stored provenance. -/
def HandsOverKept (table : Dict String Application)
    (program : ApplicationProgram (List Application)) : Prop :=
  ∀ rows after, program.run table = .ok (rows, after) → after = table ∧
    ∀ row ∈ rows, ∃ old, table.get row.id = some old ∧ row.provenance = old.provenance

namespace HandsOverKept

/-- A computation in front makes no difference. -/
theorem lift_bind {α : Type} {result : Except String α}
    {next : α → ApplicationProgram (List Application)}
    (later : ∀ value, HandsOverKept table (next value)) :
    HandsOverKept table ((Program.lift result).bind next) := by
  intro rows after ran
  obtain ⟨value, _, ran⟩ := Program.run_lift_bind ran
  exact later value rows after ran

/-- A fetched application is stored. -/
theorem getApplication_bind {id message : String}
    {next : Application → ApplicationProgram (List Application)}
    (later : ∀ app, table.get id = some app → HandsOverKept table (next app)) :
    HandsOverKept table ((getApplication id message).bind next) := by
  intro rows after ran
  obtain ⟨app, found, ran, _⟩ := run_getApplication_bind ran
  exact later app found rows after ran

/-- Editing a stored application outside its provenance hands over a kept row. -/
theorem edit {id : String} {app row : Application} (byId : StoredById Application.id table)
    (found : table.get id = some app) (sameId : row.id = app.id)
    (kept : row.provenance = app.provenance) : HandsOverKept table (Program.done [row]) := by
  rintro rows after ⟨⟩
  refine ⟨rfl, fun other member => ?_⟩
  rw [List.mem_singleton.mp member]
  exact ⟨app, by rw [sameId, byId id app found, found], kept⟩

/-- Rows that keep their provenance leave every provenance as it was. -/
theorem handleAll {δ : Type} {handleOne : δ → ApplicationProgram (List Application)} {datum : δ}
    (kept : HandsOverKept table (handleOne datum))
    (ran : (Pocketdex.handleAll handleOne [datum]).run table = .ok ((), after)) :
    ∀ id app, table.get id = some app →
      ∃ row, after.get id = some row ∧ row.provenance = app.provenance := by
  rw [handleAll_single] at ran
  obtain ⟨rows, middle, handed, saves⟩ := Program.run_bind_ok.mp ran
  obtain ⟨rfl, each⟩ := kept rows middle handed
  rw [run_saveApplications] at saves
  cases saves
  intro id app found
  -- A row that was stored is one of those handed over, or none of them has its id.
  cases stored : (Dict.storeAll Application.id rows middle).get id with
  | none =>
    refine absurd stored (Dict.get_storeAll_ne_none.mpr (Or.inr ?_))
    rw [found]
    exact Option.some_ne_none _
  | some row =>
    refine ⟨row, rfl, ?_⟩
    rcases Dict.get_storeAll_cases stored with ⟨member, rfl⟩ | ⟨_, before⟩
    · obtain ⟨old, was, same⟩ := each row member
      rw [found] at was
      cases was
      exact same
    · rw [found] at before
      cases before
      rfl

end HandsOverKept

section Kept

variable (byId : StoredById Application.id table)

include byId

/-- A transfer that begins notes a height. -/
theorem transferBegin_kept (event : CosmosEvent) :
    HandsOverKept table (_handleTransferApplicationBeginEvent event) := by
  simp only [_handleTransferApplicationBeginEvent, Program.bind_eq]
  refine HandsOverKept.lift_bind fun _ => HandsOverKept.lift_bind fun _ => ?_
  refine HandsOverKept.getApplication_bind fun app found => HandsOverKept.lift_bind fun _ => ?_
  exact HandsOverKept.edit byId found rfl rfl

/-- A transfer that fails is no longer pending. -/
theorem transferError_kept (event : CosmosEvent) :
    HandsOverKept table (_handleTransferApplicationErrorEvent event) := by
  simp only [_handleTransferApplicationErrorEvent, Program.bind_eq]
  refine HandsOverKept.lift_bind fun _ => HandsOverKept.lift_bind fun _ => ?_
  refine HandsOverKept.lift_bind fun _ => HandsOverKept.lift_bind fun _ => ?_
  refine HandsOverKept.lift_bind fun _ => HandsOverKept.lift_bind fun _ => ?_
  exact HandsOverKept.getApplication_bind fun app found => HandsOverKept.edit byId found rfl rfl

/-- An unbonding that begins notes its reason and a height. -/
theorem unbondingBegin_kept (event : CosmosEvent) :
    HandsOverKept table (_handleApplicationUnbondingBeginEvent event) := by
  simp only [_handleApplicationUnbondingBeginEvent, Program.bind_eq]
  refine HandsOverKept.lift_bind fun _ => HandsOverKept.lift_bind fun _ => ?_
  refine HandsOverKept.lift_bind fun _ => HandsOverKept.lift_bind fun _ => ?_
  refine HandsOverKept.getApplication_bind fun app found => HandsOverKept.lift_bind fun _ => ?_
  exact HandsOverKept.edit byId found rfl rfl

/-- An unbonding that ends notes a block. -/
theorem unbondingEnd_kept (event : CosmosEvent) :
    HandsOverKept table (_handleApplicationUnbondingEndEvent event) := by
  simp only [_handleApplicationUnbondingEndEvent, Program.bind_eq]
  refine HandsOverKept.lift_bind fun _ => HandsOverKept.lift_bind fun _ => ?_
  refine HandsOverKept.lift_bind fun _ => HandsOverKept.lift_bind fun _ => ?_
  exact HandsOverKept.getApplication_bind fun app found => HandsOverKept.edit byId found rfl rfl

/-- An unstake message notes a block. -/
theorem unstakeMsg_kept (msg : CosmosMessage) (decoded : MsgUnstakeApplication) :
    HandsOverKept table (_handleUnstakeApplicationMsg msg decoded) := by
  simp only [_handleUnstakeApplicationMsg, Program.bind_eq]
  exact HandsOverKept.getApplication_bind fun app found => HandsOverKept.edit byId found rfl rfl

/-- A transfer message notes the destination. -/
theorem transferMsg_kept (decoded : MsgTransferApplication) :
    HandsOverKept table (_handleTransferApplicationMsg decoded) := by
  simp only [_handleTransferApplicationMsg, Program.bind_eq]
  exact HandsOverKept.getApplication_bind fun app found => HandsOverKept.edit byId found rfl rfl

end Kept

/-- A datum that neither stakes nor ends a transfer keeps the provenance of every application. -/
theorem handleApplicationDatum_keeps {datum : StakeDatum}
    (byId : StoredById Application.id table) (unstaked : ∀ id, ¬ Stakes datum id)
    (unended : ∀ event, datum = .event event → event.type ≠ .applicationTransferEnd)
    (ran : (handleApplicationDatum datum).run table = .ok ((), after)) :
    ∀ id app, table.get id = some app →
      ∃ row, after.get id = some row ∧ row.provenance = app.provenance := by
  cases datum with
  | event event =>
    rw [handleApplicationDatum] at ran
    have unended := unended event rfl
    cases kind : event.type <;> simp only [kind, applicationEventHandler] at ran <;>
      try simp only [Program.run, reduceCtorEq] at ran
    · exact HandsOverKept.handleAll (transferBegin_kept byId event) ran
    · exact absurd kind unended
    · exact HandsOverKept.handleAll (transferError_kept byId event) ran
    · exact HandsOverKept.handleAll (unbondingBegin_kept byId event) ran
    · exact HandsOverKept.handleAll (unbondingEnd_kept byId event) ran
  | msg msg =>
    rw [handleApplicationDatum] at ran
    cases kind : msg.decodedMsg <;> simp only [kind, applicationMsgHandler, Option.getD_some,
      Option.getD_none] at ran
    case stakeApplication decoded => exact absurd (Stakes.stake kind) (unstaked _)
    case claimMorseApplication decoded => exact absurd (Stakes.claim kind) (unstaked _)
    case unstakeApplication decoded =>
      exact @HandsOverKept.handleAll table after _
        (fun (item : CosmosMessage × MsgUnstakeApplication) =>
          _handleUnstakeApplicationMsg item.1 item.2) (msg, decoded)
        (unstakeMsg_kept byId msg decoded) ran
    case transferApplication decoded =>
      exact HandsOverKept.handleAll (transferMsg_kept byId decoded) ran
    case delegateToGateway decoded =>
      cases ran
      exact fun id app found => ⟨app, found, rfl⟩
    case undelegateFromGateway decoded =>
      cases ran
      exact fun id app found => ⟨app, found, rfl⟩
    -- The other messages have no handler.
    all_goals simp [Program.run] at ran

/-- The row a stake or a claim stores, as far as transfers are concerned. -/
def Restaked (table : Dict String Application) (id : String) (row : Application) : Prop :=
  row.id = id ∧ row.transferFields = ((table.get id).bind Application.transferringToId,
    (table.get id).bind Application.transferEndHeight, Provenance.unset)

/-- Collecting the rows of one stake or claim stores its application. -/
theorem collectStakes_restaked {δ μ : Type} {handleOne : δ → ApplicationProgram (μ × Application ×
      List MsgServiceProps × List ApplicationServiceProps)} {message : δ} {id : String}
    (reads : ∀ row middle, (handleOne message).run table = .ok (row, middle) →
      middle = table ∧ Restaked table id row.2.1)
    (ran : (collectStakes handleOne [message] >>= fun _ => return ()).run table =
      .ok ((), after)) :
    ∃ row, after = table.set id row ∧ Restaked table id row := by
  simp only [collectStakes, Program.bind_eq, Program.bind_assoc, List.mapM_cons, List.mapM_nil,
    Program.pure_eq, Program.done_bind] at ran
  obtain ⟨row, middle, one, saves⟩ := Program.run_bind_ok.mp ran
  obtain ⟨rfl, restaked⟩ := reads row middle one
  obtain ⟨_, last, stored, final⟩ := Program.run_bind_ok.mp saves
  rw [run_saveApplications] at stored
  cases stored
  cases final
  refine ⟨row.2.1, ?_, restaked⟩
  simp [Dict.storeAll, restaked.1]

/-- A stake or a claim keeps what its row says of a pending transfer, and nothing else of them. -/
theorem handleApplicationDatum_restakes {datum : StakeDatum} {id : String}
    (stakes : Stakes datum id)
    (ran : (handleApplicationDatum datum).run table = .ok ((), after)) :
    ∃ row, after = table.set id row ∧ Restaked table id row := by
  cases stakes with
  | @stake msg decoded kind =>
    rw [handleApplicationDatum, applicationMsgHandler, kind] at ran
    refine collectStakes_restaked (fun row middle one => ?_) ran
    simp only [_handleAppMsgStake, Program.bind_eq] at one
    obtain ⟨amount, _, one⟩ := Program.run_lift_bind one
    cases one
    exact ⟨rfl, rfl, rfl⟩
  | @claim msg decoded kind =>
    rw [handleApplicationDatum, applicationMsgHandler, kind] at ran
    refine collectStakes_restaked (fun row middle one => ?_) ran
    simp only [_handleMsgClaimMorseApplication, Program.bind_eq] at one
    obtain ⟨stakeCoin, _, one⟩ := Program.run_lift_bind one
    obtain ⟨balanceCoin, _, one⟩ := Program.run_lift_bind one
    simp only [Program.read_bind, Program.run] at one
    obtain ⟨stakeAmount, _, one⟩ := Program.run_lift_bind one
    obtain ⟨balanceAmount, _, one⟩ := Program.run_lift_bind one
    obtain ⟨services, _, one⟩ := Program.run_lift_bind one
    cases one
    exact ⟨rfl, rfl, rfl⟩

/-- Reconciliation keeps all that rows say of transfers. -/
theorem reconcileApplications_keeps {chainApps : List ChainApplication}
    (byId : StoredById Application.id table)
    (ran : reconcileApplications chainApps table = .ok after) :
    StoredById Application.id after ∧ ∀ id app, table.get id = some app →
      ∃ row, after.get id = some row ∧ row.transferFields = app.transferFields := by
  obtain ⟨returned, synced, ran⟩ := exceptBind_ok ran
  cases ran
  -- Every row that is stored again is an edited stored one.
  have edited : ∀ row ∈ returned ++ closeOutAbsent (chainApps.map ChainApplication.address)
      (fetchAllApplicationByStatus table .staked ++ fetchAllApplicationByStatus table .unstaking),
      ∃ old, table.get row.id = some old ∧ row.transferFields = old.transferFields := by
    intro row member
    rcases List.mem_append.mp member with inside | inside
    · obtain ⟨ca, _, old, stored, one⟩ := (syncReturned_ok synced).1 row inside
      -- Only the stake and the status are brought in line.
      have synced : row.id = old.id ∧ row.transferFields = old.transferFields := by
        rw [syncApplication] at one
        cases stake : ca.stake with
        | none =>
          simp only [stake] at one
          cases one
          exact ⟨rfl, rfl⟩
        | some coin =>
          simp only [stake] at one
          obtain ⟨amount, _, one⟩ := exceptBind_ok one
          cases one
          exact ⟨rfl, rfl⟩
      exact ⟨old, by rw [synced.1, byId _ _ stored]; exact stored, synced.2⟩
    · obtain ⟨old, held, _, _, rfl⟩ := mem_closeOut.mp inside
      obtain ⟨key, stored⟩ := Dict.mem_values.mp held
      exact ⟨old, by rw [Application.closedOut_id, byId _ _ stored]; exact stored, rfl⟩
  refine ⟨fun key row found => ?_, fun id app found => ?_⟩
  · rcases Dict.get_storeAll_cases found with ⟨_, named⟩ | ⟨_, stored⟩
    · exact named
    · exact byId key row stored
  · obtain ⟨row, stored⟩ := Option.ne_none_iff_exists'.mp
      (Dict.get_storeAll_ne_none.mpr (Or.inr (found ▸ Option.some_ne_none app)))
    refine ⟨row, stored, ?_⟩
    rcases Dict.get_storeAll_cases stored with ⟨member, rfl⟩ | ⟨_, before⟩
    · obtain ⟨old, was, same⟩ := edited row member
      rw [found] at was
      cases was
      exact same
    · rw [found] at before
      cases before
      rfl

/-- Fetching an application stores nothing. -/
theorem getApplication_savesOwn (id message : String) :
    (getApplication id message).SavesOwn Application.id := by
  intro row
  cases row <;> exact trivial

/-- Applications are stored under their own ids. -/
theorem saveApplications_savesOwn (applications : List Application) :
    (saveApplications applications).SavesOwn Application.id := by
  induction applications with
  | nil => exact trivial
  | cons application rest ih => exact ⟨rfl, ih⟩

/-- A handler that hands over its applications stores them under their own ids. -/
theorem handleAll_savesOwn {δ : Type} {handleOne : δ → ApplicationProgram (List Application)}
    (each : ∀ datum, (handleOne datum).SavesOwn Application.id) (data : List δ) :
    (handleAll handleOne data).SavesOwn Application.id :=
  (Program.SavesOwn.mapM each data).bind fun applications =>
    saveApplications_savesOwn applications.flatten

/-- Handling stakes or claims stores applications under their own ids. -/
theorem collectStakes_savesOwn {δ μ : Type} {handleOne : δ → ApplicationProgram (μ ×
      Application × List MsgServiceProps × List ApplicationServiceProps)}
    (each : ∀ datum, (handleOne datum).SavesOwn Application.id) (data : List δ) :
    (collectStakes handleOne data).SavesOwn Application.id :=
  (Program.SavesOwn.mapM each data).bind fun _ =>
    (saveApplications_savesOwn _).bind fun _ => trivial

/-- The rows of a stake are only handed over. -/
theorem stakeApplication_savesOwn (address msgId : String)
    (services : List ApplicationServiceConfig) (stakeAmount : Int) (stakeDenom : String) :
    (_stakeApplication address msgId services stakeAmount stakeDenom).SavesOwn Application.id :=
  fun _ => trivial

/-- The end of a transfer hands over its two applications. -/
theorem transferEnd_savesOwn (event : CosmosEvent) :
    (_handleTransferApplicationEndEvent event).SavesOwn Application.id := by
  simp only [_handleTransferApplicationEndEvent, Program.bind_eq]
  refine (Program.SavesOwn.lift _ _).bind fun _ => (Program.SavesOwn.lift _ _).bind fun _ => ?_
  refine (Program.SavesOwn.lift _ _).bind fun _ => (Program.SavesOwn.lift _ _).bind fun _ => ?_
  intro source destination
  cases source <;> exact trivial

section

-- The programs are taken apart by lemmas only, and never evaluated.
attribute [local irreducible] Program.SavesOwn

/-- Every handler stores applications under their own ids. -/
theorem handleApplicationDatum_savesOwn (datum : StakeDatum) :
    (handleApplicationDatum datum).SavesOwn Application.id := by
  -- Reading attributes saves nothing, and fetching an application saves nothing either.
  have lifted : ∀ {α β : Type} (result : Except String α) {next : α → ApplicationProgram β},
      (∀ value, (next value).SavesOwn Application.id) →
      ((Program.lift result).bind next).SavesOwn Application.id := fun result _ later =>
    (Program.SavesOwn.lift _ result).bind later
  have fetched : ∀ {β : Type} (id message : String) {next : Application → ApplicationProgram β},
      (∀ app, (next app).SavesOwn Application.id) →
      ((getApplication id message).bind next).SavesOwn Application.id := fun id message _ later =>
    (getApplication_savesOwn id message).bind later
  cases datum with
  | event event =>
    rw [handleApplicationDatum]
    -- One goal is left for each event that has a handler, in the order of the types.
    cases event.type <;> simp only [applicationEventHandler] <;> try simp only [Program.SavesOwn]
    · refine handleAll_savesOwn (fun event => ?_) _
      simp only [_handleTransferApplicationBeginEvent, Program.bind_eq]
      refine lifted _ fun _ => lifted _ fun _ => fetched _ _ fun _ => lifted _ fun _ => ?_
      exact Program.SavesOwn.done _ _
    · exact handleAll_savesOwn transferEnd_savesOwn _
    · refine handleAll_savesOwn (fun event => ?_) _
      simp only [_handleTransferApplicationErrorEvent, Program.bind_eq]
      refine lifted _ fun _ => lifted _ fun _ => lifted _ fun _ => lifted _ fun _ => ?_
      refine lifted _ fun _ => lifted _ fun _ => fetched _ _ fun _ => ?_
      exact Program.SavesOwn.done _ _
    · refine handleAll_savesOwn (fun event => ?_) _
      simp only [_handleApplicationUnbondingBeginEvent, Program.bind_eq]
      refine lifted _ fun _ => lifted _ fun _ => lifted _ fun _ => lifted _ fun _ => ?_
      refine fetched _ _ fun _ => lifted _ fun _ => ?_
      exact Program.SavesOwn.done _ _
    · refine handleAll_savesOwn (fun event => ?_) _
      simp only [_handleApplicationUnbondingEndEvent, Program.bind_eq]
      refine lifted _ fun _ => lifted _ fun _ => lifted _ fun _ => lifted _ fun _ => ?_
      refine fetched _ _ fun _ => ?_
      exact Program.SavesOwn.done _ _
  | msg msg =>
    rw [handleApplicationDatum, applicationMsgHandler]
    -- The same for messages: those that stake save through `stakeApplication`.
    cases msg.decodedMsg <;> simp only [Option.getD_some, Option.getD_none, Program.pure_eq] <;>
      try simp only [Program.SavesOwn]
    · refine (collectStakes_savesOwn (fun message => ?_) _).bind fun _ =>
        Program.SavesOwn.done _ _
      simp only [_handleAppMsgStake, Program.bind_eq]
      exact lifted _ fun _ => (stakeApplication_savesOwn _ _ _ _ _).bind fun _ =>
        Program.SavesOwn.done _ _
    · refine (collectStakes_savesOwn (fun message => ?_) _).bind fun _ =>
        Program.SavesOwn.done _ _
      simp only [_handleMsgClaimMorseApplication, Program.bind_eq, Program.read_bind]
      refine lifted _ fun _ => lifted _ fun _ => Program.SavesOwn.get fun _ => ?_
      refine lifted _ fun _ => lifted _ fun _ => lifted _ fun _ => ?_
      exact (stakeApplication_savesOwn _ _ _ _ _).bind fun _ => Program.SavesOwn.done _ _
    · refine handleAll_savesOwn (fun message => ?_) _
      simp only [_handleUnstakeApplicationMsg, Program.bind_eq]
      refine fetched _ _ fun _ => ?_
      exact Program.SavesOwn.done _ _
    · refine handleAll_savesOwn (fun decoded => ?_) _
      simp only [_handleTransferApplicationMsg, Program.bind_eq]
      refine fetched _ _ fun _ => ?_
      exact Program.SavesOwn.done _ _

end

/-- An input leaves the rows stored under their own ids. -/
theorem applicationStep_byId {input : ApplicationInput} (byId : StoredById Application.id table)
    (ran : applicationStep table input = .ok after) : StoredById Application.id after := by
  cases input with
  | datum datum =>
    rw [applicationStep] at ran
    cases handled : (handleApplicationDatum datum).run table with
    | error error => rw [handled] at ran; cases ran
    | ok final =>
      rw [handled] at ran
      cases ran
      exact (handleApplicationDatum_savesOwn datum).run handled byId
  | reconcile chainApps => exact (reconcileApplications_keeps byId ran).1

/-- One input keeps what it should of transfers exactly when it restakes no transferred
application. -/
theorem keepsTransferFields_iff {input : ApplicationInput} (byId : StoredById Application.id table)
    (ran : applicationStep table input = .ok after) :
    KeepsTransferFields table input after ↔ RestakesUntransferred table input after := by
  cases input with
  | reconcile chainApps =>
    -- Reconciliation is no restake, and keeps everything.
    have keeps := (reconcileApplications_keeps byId ran).2
    constructor
    · rintro _ id app ⟨_, same, _⟩
      cases same
    · refine fun _ => ⟨?_, fun _ id app found => ?_⟩
      · rintro id app ⟨_, same, _⟩
        cases same
      · obtain ⟨row, stored, same⟩ := keeps id app found
        exact ⟨row, stored, congrArg (fun fields => fields.2.2) same⟩
  | datum datum =>
    obtain ⟨⟨⟩, middle, handled⟩ : ∃ result middle,
        (handleApplicationDatum datum).run table = .ok (result, middle) := by
      rw [applicationStep] at ran
      cases handled : (handleApplicationDatum datum).run table with
      | error error => rw [handled] at ran; cases ran
      | ok final => exact ⟨_, _, rfl⟩
    rw [applicationStep, handled] at ran
    cases ran
    by_cases stakes : ∃ id, Stakes datum id
    · obtain ⟨id, stakes⟩ := stakes
      obtain ⟨row, rfl, own, fields⟩ := handleApplicationDatum_restakes stakes handled
      have restakes : ∀ other, (ApplicationInput.datum datum).Restakes other → other = id := by
        rintro other ⟨_, same, also⟩
        cases same
        exact stakes_unique also stakes
      -- A restake writes the fields of a transfer anew, as unset.
      have pending : ∀ app, table.get id = some app →
          (row.transferFields = app.transferFields ↔ app.provenance = Provenance.unset) := by
        intro app found
        rw [fields, found]
        simp [Application.transferFields, eq_comm]
      constructor
      · intro keeps other app restaked found
        obtain rfl := restakes other restaked
        obtain ⟨stored, here, same⟩ := keeps.1 other app restaked found
        rw [Dict.get_set_self, Option.some.injEq] at here
        exact (pending app found).mp (here ▸ same)
      · intro untransferred
        have kept : ∀ app, table.get id = some app → row.transferFields = app.transferFields :=
          fun app found => (pending app found).mpr
            (untransferred id app ⟨datum, rfl, stakes⟩ found)
        refine ⟨fun other app restaked found => ?_, fun _ other app found => ?_⟩
        · obtain rfl := restakes other restaked
          exact ⟨row, Dict.get_set_self .., kept app found⟩
        · rw [Dict.get_set]
          by_cases same : other = id
          · subst same
            exact ⟨row, if_pos rfl, congrArg (fun fields => fields.2.2) (kept app found)⟩
          · exact ⟨app, by rw [if_neg same, found], rfl⟩
    · -- A datum that stakes nothing keeps them, unless a transfer ends.
      have unstaked : ∀ id, ¬ Stakes datum id := not_exists.mp stakes
      constructor
      · rintro _ id app ⟨_, same, also⟩
        cases same
        exact absurd also (unstaked id)
      · refine fun _ => ⟨?_, fun unended => ?_⟩
        · rintro id app ⟨_, same, also⟩
          cases same
          exact absurd also (unstaked id)
        · refine handleApplicationDatum_keeps byId unstaked (fun event same kind => ?_) handled
          exact unended ⟨event, by rw [same], kind⟩

/-- Along a run all restakes keep the transfer fields, and only ended transfers change a provenance,
exactly when no restaked application had a transfer end. -/
theorem restakes_keepTransfers_iff {inputs : List ApplicationInput}
    (byId : StoredById Application.id table) :
    EveryStep applicationStep KeepsTransferFields table inputs ↔
      EveryStep applicationStep RestakesUntransferred table inputs :=
  EveryStep.iff_of_invariant (StoredById Application.id) byId fun good ran =>
    ⟨keepsTransferFields_iff good ran, fun _ => applicationStep_byId good ran⟩

end

/-- An application that received the stake of another one. -/
def receivedRow : Application := {
  id := "pokt1app"
  accountId := "pokt1app"
  stakeAmount := 5
  stakeDenom := "upokt"
  stakeStatus := .staked
  sourceApplicationId := some "pokt1source"
  transferredFromAtId := some 8 }

/-- The message that stakes it again. -/
def restakeMsg : StakeDatum :=
  .msg ⟨0, 9, ⟨0, "T", 0, []⟩, .stakeApplication ⟨"pokt1app", some ⟨"7", "upokt"⟩, [⟨"svc1"⟩]⟩⟩

/-- A restake of an application without transfers keeps that there were none. -/
theorem restake_keepsTransfers_untransferred :
    EveryStep applicationStep KeepsTransferFields stakedFive [.datum restakeMsg] := by
  refine (restakes_keepTransfers_iff ?_).mpr ?_
  · intro key row found
    rw [stakedFive, Dict.get_set] at found
    split at found
    · rename_i same
      cases found
      exact same.symm
    · cases found
  · refine fun next _ => ⟨fun id app _ found => ?_, trivial⟩
    rw [stakedFive, Dict.get_set] at found
    split at found
    · cases found
      rfl
    · cases found

/-- A restake forgets where the stake of an application once came from. -/
theorem restake_forgets_transfer :
    ¬ ∀ (table : Dict String Application) (inputs : List ApplicationInput),
      StoredById Application.id table → EveryStep applicationStep KeepsTransferFields table inputs := by
  intro every
  have byId : StoredById Application.id (Dict.empty.set "pokt1app" receivedRow) := by
    intro key row found
    rw [Dict.get_set] at found
    split at found
    · rename_i same
      cases found
      exact same.symm
    · cases found
  have ran : applicationStep (Dict.empty.set "pokt1app" receivedRow) (.datum restakeMsg) =
      .ok (Dict.empty.set "pokt1app" { receivedRow with
        stakeAmount := 7
        sourceApplicationId := none
        transferredFromAtId := none }) := ok_of_toOption (by decide +kernel)
  obtain ⟨⟨keeps, _⟩, _⟩ := every _ [.datum restakeMsg] byId _ ran
  have stakes : Stakes restakeMsg "pokt1app" :=
    @Stakes.stake _ ⟨"pokt1app", some ⟨"7", "upokt"⟩, [⟨"svc1"⟩]⟩ rfl
  obtain ⟨row, here, same⟩ := keeps "pokt1app" receivedRow ⟨_, rfl, stakes⟩ (Dict.get_set_self ..)
  -- The restaked row no longer names the source.
  rw [Dict.get_set_self, Option.some.injEq] at here
  subst here
  exact absurd same (by decide)

end Pocketdex
