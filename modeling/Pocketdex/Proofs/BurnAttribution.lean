import Mathlib.Data.List.ReduceOption
import Pocketdex.Base.Except
import Pocketdex.Proofs.SettlementAccounts

/-! Which claim takes the burn of which overserviced application. -/

namespace Pocketdex.Settlement

/-- What an overserviced event tells, with the service and the session end where it carries them. -/
structure Overserviced where
  application : String
  supplier : String
  burn : String
  serviceId : Option String
  sessionEnd : Option String
  deriving DecidableEq, Repr

/-- The overserviced application of an event, if the event names it with its supplier and burn. -/
def overservicedOf (event : CosmosEvent) : Except String (Option Overserviced) := do
  let text (key : String) : Except String String :=
    readAttributes [key] (fun entry => .ok (replaceQuotes entry.value)) "" event.attributes
  let carried (key : String) : Except String (Option String) :=
    readAttributes [key] (fun entry => .ok (some (replaceQuotes entry.value))) none event.attributes
  let application ← text "application_addr"
  let supplier ← text "supplier_operator_addr"
  let effectiveBurn ← readAttributes ["effective_burn"]
    (fun entry => (getDenomAndAmount entry.value).map some) none event.attributes
  let serviceId ← carried "service_id"
  let sessionEnd ← carried "session_end_block_height"
  match effectiveBurn with
  | some coin =>
    if application ≠ "" ∧ supplier ≠ "" then
      return some ⟨application, supplier, coin.amount, serviceId, sessionEnd⟩
    else return none
  | none => return none

/-- The session of a claim as its event tells it. -/
structure ClaimSession where
  application : String
  supplier : String
  serviceId : String
  sessionEnd : Except String Int

/-- The session of the claim of an event. -/
def claimSession (attributes : EventAttributes) : ClaimSession :=
  let sessionHeader := optionalProperty (some attributes.claim) "session_header"
  { application := orEmpty (optionalProperty sessionHeader "application_address")
    supplier := optionText (optionalProperty (some attributes.claim) "supplier_operator_address")
    serviceId := orEmpty (optionalProperty sessionHeader "service_id")
    sessionEnd := heightOf (optionalProperty sessionHeader "session_end_block_height") }

/-- An overserviced event identifies a claim: application and supplier agree, and so do the service
and the session end where the event carries them. -/
structure Identifies (overserviced : Overserviced) (session : ClaimSession) : Prop where
  application : overserviced.application = session.application
  supplier : overserviced.supplier = session.supplier
  service : ∀ text, overserviced.serviceId = some text → text = session.serviceId
  height : ∀ text, overserviced.sessionEnd = some text →
    ∃ height, bigInt text = .ok height ∧ session.sessionEnd = .ok height

/-- The key burns are kept under. -/
def pairKey (application supplier : String) : String := s!"{application}-{supplier}"

/-- The last overserviced event that is kept under the key of a claim. -/
def lastOfPair (read : List Overserviced) (session : ClaimSession) : Option Overserviced :=
  read.reverse.find? fun overserviced => pairKey overserviced.application overserviced.supplier =
    pairKey session.application session.supplier

/-- A claim settles for the burn of the event that identifies it, and else for what it claimed. -/
structure Attributed (read : List Overserviced) (attributes : EventAttributes) (settled : Int) :
    Prop where
  identified : ∀ overserviced ∈ read, Identifies overserviced (claimSession attributes) →
    bigInt overserviced.burn = .ok settled
  unidentified : (∀ overserviced ∈ read, ¬ Identifies overserviced (claimSession attributes)) →
    ∀ coin, attributes.claimed = some coin → bigInt coin.amount = .ok settled

/-- The last event of a claim's pair burns what the identifying one does, or, where none identifies
the claim, what was claimed; a burn without an amount counts as none. -/
def LastOfPairFits (read : List Overserviced) (attributes : EventAttributes) : Prop :=
  match lastOfPair read (claimSession attributes) with
  | none => True
  | some last =>
    if last.burn = "" then
      ∀ overserviced ∈ read, Identifies overserviced (claimSession attributes) →
        ∀ coin, attributes.claimed = some coin → bigInt overserviced.burn = bigInt coin.amount
    else
      (∀ overserviced ∈ read, Identifies overserviced (claimSession attributes) →
        bigInt overserviced.burn = bigInt last.burn) ∧
      ((∀ overserviced ∈ read, ¬ Identifies overserviced (claimSession attributes)) →
        ∀ coin, attributes.claimed = some coin → bigInt coin.amount = bigInt last.burn)

/-- Reading a carried text never fails. -/
theorem readAttributes_text (key : String) (attributes : List Attribute) :
    ∃ text, readAttributes [key] (fun entry => .ok (some (replaceQuotes entry.value))) none
      attributes = .ok text := by
  have general : ∀ start : Option String, ∃ text, readAttributes [key]
      (fun entry => .ok (some (replaceQuotes entry.value))) start attributes = .ok text := by
    induction attributes with
    | nil => exact fun start => ⟨start, rfl⟩
    | cons entry rest ih =>
      intro start
      rw [readAttributes, List.foldlM_cons]
      split
      · exact ih _
      · exact ih _
  exact general none

/-- The code keeps the burn of the application an event tells about. -/
theorem effectiveBurnEntry_eq (event : CosmosEvent) :
    effectiveBurnEntry event = (overservicedOf event).map fun told => told.map fun overserviced =>
      (pairKey overserviced.application overserviced.supplier, overserviced.burn) := by
  obtain ⟨serviceId, service⟩ := readAttributes_text "service_id" event.attributes
  obtain ⟨sessionEnd, height⟩ := readAttributes_text "session_end_block_height" event.attributes
  rw [effectiveBurnEntry, overservicedOf]
  simp only [service, height, bind, Except.bind]
  -- Both read the same three attributes in the same order.
  cases readAttributes ["application_addr"] (fun entry => .ok (replaceQuotes entry.value)) ""
      event.attributes with
  | error error => rfl
  | ok application =>
    cases readAttributes ["supplier_operator_addr"] (fun entry => .ok (replaceQuotes entry.value)) ""
        event.attributes with
    | error error => rfl
    | ok supplier =>
      cases readAttributes ["effective_burn"] (fun entry =>
          (getDenomAndAmount entry.value).map some) none event.attributes with
      | error error => rfl
      | ok burn =>
        cases burn with
        | none => rfl
        | some coin =>
          by_cases both : application ≠ "" ∧ supplier ≠ ""
          · simp only [if_pos both]
            rfl
          · simp only [if_neg both]
            rfl

/-- The burn the code finds for a claim is that of the last event of its pair. -/
theorem getEffectiveBurn_ok {overservices : List CosmosEvent}
    {burnOf : String → String → Option String} {told : List (Option Overserviced)}
    (found : getEffectiveBurn overservices = .ok burnOf)
    (read : overservices.mapM overservicedOf = .ok told) (session : ClaimSession) :
    burnOf session.application session.supplier =
      ((lastOfPair told.reduceOption session).map Overserviced.burn).filter (· ≠ "") := by
  obtain ⟨entries, kept, rest⟩ := exceptBind_ok found
  cases rest
  clear found
  -- Each entry is made of what its event tells.
  have made : entries = told.map fun told => told.map fun overserviced =>
      (pairKey overserviced.application overserviced.supplier, overserviced.burn) := by
    have one := mapM_ok kept
    have two := mapM_ok read
    clear kept read
    induction one generalizing told with
    | nil =>
      cases two
      rfl
    | @cons event entry events entries first _ ih =>
      cases two with
      | @cons _ value _ values second rest =>
        rw [effectiveBurnEntry_eq, second] at first
        cases first
        rw [ih rest, List.map_cons]
  have listed : entries.reduceOption = told.reduceOption.map fun overserviced =>
      (pairKey overserviced.application overserviced.supplier, overserviced.burn) := by
    rw [made]
    exact List.reduceOption_map
  simp only [listed, Dict.get_collect]
  rw [← List.map_reverse, List.find?_map, lastOfPair]
  simp only [Option.map_map, Function.comp_def, pairKey]
  rfl

/-- A claim without a settled amount is attributed exactly when the last event of its pair fits. -/
theorem attributed_iff {kindText : CosmosEventKind → String} {mintRatioFromParams : Double}
    {burnOf : String → String → Option String} {event : CosmosEvent}
    {attributes : EventAttributes} {read : List Overserviced} {props : EventClaimSettledProps}
    {transfers : List ModToAcctTransferRecord}
    (burns : ∀ session : ClaimSession, burnOf session.application session.supplier =
      ((lastOfPair read session).map Overserviced.burn).filter (· ≠ ""))
    (given : getAttributes event.attributes = .ok attributes)
    (unsettled : attributes.settledUpokt = none)
    (handled : _handleEventClaimSettled kindText mintRatioFromParams burnOf event =
      .ok (props, transfers)) :
    Attributed read attributes props.settledAmount ↔ LastOfPairFits read attributes := by
  obtain ⟨effectiveBurn, burn, accepted⟩ := _handleEventClaimSettled_ok handled given
  have settled := accepted.settled
  have source := effectiveBurnOf_ok burn
  have matched : matchingBurn attributes burnOf =
      ((lastOfPair read (claimSession attributes)).map Overserviced.burn).filter (· ≠ "") :=
    burns (claimSession attributes)
  rw [unsettled, Option.map_none, Option.none_or, matched] at source
  -- An event that identifies the claim is of its pair.
  have ofPair : ∀ overserviced ∈ read, Identifies overserviced (claimSession attributes) →
      lastOfPair read (claimSession attributes) ≠ none := by
    intro overserviced member identifies missing
    have absent := List.find?_eq_none.mp missing overserviced (List.mem_reverse.mpr member)
    rw [identifies.application, identifies.supplier] at absent
    exact absent (decide_eq_true rfl)
  unfold LastOfPairFits
  cases last : lastOfPair read (claimSession attributes) with
  | none =>
    -- Nothing identifies the claim, and it settles for what it claimed.
    rw [last, Option.map_none, Option.filter_none, Option.none_or] at source
    refine iff_of_true ⟨?_, ?_⟩ trivial
    · exact fun overserviced member identifies => absurd last (ofPair overserviced member identifies)
    · intro _ coin claimed
      rw [claimed, Option.map_some, Option.some.injEq] at source
      rw [← source, settled]
  | some final =>
    rw [last, Option.map_some] at source
    by_cases blank : final.burn = ""
    · -- The burn is no amount, so the claim settles for what it claimed.
      have dropped : (some final.burn).filter (· ≠ "") = none := by simp [blank]
      rw [dropped, Option.none_or] at source
      obtain ⟨coin, claimed, same⟩ := Option.map_eq_some_iff.mp source.symm
      simp only [if_pos blank]
      constructor
      · intro attributed overserviced member identifies other given
        rw [claimed] at given
        cases given
        rw [attributed.identified overserviced member identifies, same, settled]
      · intro fits
        refine ⟨fun overserviced member identifies => ?_, fun _ other given => ?_⟩
        · rw [fits overserviced member identifies coin claimed, same, settled]
        · rw [claimed] at given
          cases given
          rw [same, settled]
    · have kept : (some final.burn).filter (· ≠ "") = some final.burn := by simp [blank]
      rw [kept, Option.some_or, Option.some.injEq] at source
      subst source
      simp only [if_neg blank, settled]
      exact ⟨fun attributed => ⟨attributed.identified, attributed.unidentified⟩,
        fun fits => ⟨fits.1, fits.2⟩⟩

/-- The claims of a block without a settled amount settle for their own burns exactly when the last
event of each one's pair fits it. -/
theorem effectiveBurns_attributed_iff {kindText : CosmosEventKind → String}
    {mintRatioParam : Option String} {events overservices : List CosmosEvent}
    {settled : List (EventClaimSettledProps × List ModToAcctTransferRecord)}
    {told : List (Option Overserviced)}
    (handled : eventsSettled kindText mintRatioParam events overservices = .ok settled)
    (read : overservices.mapM overservicedOf = .ok told) :
    List.Forall₂ (fun event record => ∀ attributes, getAttributes event.attributes = .ok attributes →
      attributes.settledUpokt = none →
        Attributed told.reduceOption attributes record.1.settledAmount) events settled ↔
    ∀ event ∈ events, ∀ attributes, getAttributes event.attributes = .ok attributes →
      attributes.settledUpokt = none → LastOfPairFits told.reduceOption attributes := by
  obtain ⟨burnOf, found, ran⟩ := exceptBind_ok handled
  have burns := getEffectiveBurn_ok found read
  have each := mapM_ok ran
  clear handled ran
  -- Every claim is compared with its own record.
  induction each with
  | nil => simp
  | @cons event record events records first _ ih =>
    refine List.forall₂_cons.trans (Iff.trans (and_congr ?_ ih) List.forall_mem_cons.symm)
    refine forall_congr' fun attributes => forall_congr' fun given =>
      forall_congr' fun unsettled => ?_
    exact attributed_iff burns given unsettled first

/-- A claim of 100upokt for one of two services of an application and a supplier. -/
def claimOfService (service : String) : CosmosEvent where
  idx := 0
  height := 10
  kind := .endBlock
  type := .claimSettled
  attributes := [⟨"supplier_operator_address", "\"supplier\""⟩, ⟨"application_address", "\"app\""⟩,
    ⟨"service_id", s!"\"{service}\""⟩, ⟨"session_end_block_height", "\"60\""⟩,
    ⟨"claimed_upokt", "\"100upokt\""⟩, ⟨"num_estimated_relays", "\"1\""⟩,
    ⟨"reward_distribution_detailed", "[]"⟩]
  tx := none
  msg := none

/-- The event that tells that the first of them could burn only 40upokt. -/
def overservicedFirst : CosmosEvent where
  idx := 1
  height := 10
  kind := .endBlock
  type := .applicationOverserviced
  attributes := [⟨"application_addr", "\"app\""⟩, ⟨"supplier_operator_addr", "\"supplier\""⟩,
    ⟨"effective_burn", "\"40upokt\""⟩, ⟨"service_id", "\"svc1\""⟩,
    ⟨"session_end_block_height", "\"60\""⟩]
  tx := none
  msg := none

/-- What that event tells. -/
def firstTold : Overserviced := ⟨"app", "supplier", "40", some "svc1", some "60"⟩

/-- The settled claims of a block with that event. -/
def settledWithFirst (events : List CosmosEvent) :
    Except String (List (EventClaimSettledProps × List ModToAcctTransferRecord)) :=
  eventsSettled (fun _ => "end") none events [overservicedFirst]

/-- What is read of an event, as far as its attribution depends on it. -/
def attributionReadOf (event : CosmosEvent) :
    Option (List (Option Coin) × List String × Option Int) :=
  (getAttributes event.attributes).toOption.map fun attributes =>
    ([attributes.settledUpokt, attributes.claimed],
      [(claimSession attributes).application, (claimSession attributes).supplier,
        (claimSession attributes).serviceId], (claimSession attributes).sessionEnd.toOption)

/-- The claim an overserviced event identifies settles for its burn. -/
theorem effectiveBurns_attributed_single : ∃ settled,
    settledWithFirst [claimOfService "svc1"] = .ok settled ∧
      List.Forall₂ (fun event record => ∀ attributes,
        getAttributes event.attributes = .ok attributes → attributes.settledUpokt = none →
          Attributed [firstTold] attributes record.1.settledAmount) [claimOfService "svc1"]
        settled := by
  have recorded : (settledWithFirst [claimOfService "svc1"]).toOption.isSome = true := by
    decide +kernel
  have told : [overservicedFirst].mapM overservicedOf = .ok [some firstTold] :=
    ok_of_toOption (by decide +kernel)
  have session : attributionReadOf (claimOfService "svc1") =
      some ([none, some ⟨"100", "upokt"⟩], ["app", "supplier", "svc1"], some 60) := by
    decide +kernel
  obtain ⟨settled, handled⟩ := Option.isSome_iff_exists.mp recorded
  refine ⟨settled, ok_of_toOption handled,
    (effectiveBurns_attributed_iff (ok_of_toOption handled) told).mpr ?_⟩
  intro event member attributes given _
  rw [List.mem_singleton.mp member] at given
  rw [attributionReadOf, given] at session
  simp only [Except.toOption, Option.map_some, Option.some.injEq, Prod.mk.injEq, List.cons.injEq,
    and_true] at session
  obtain ⟨⟨_, claimed⟩, ⟨application, supplier, service⟩, height⟩ := session
  have last : lastOfPair [some firstTold].reduceOption (claimSession attributes) =
      some firstTold := by
    rw [lastOfPair, application, supplier]
    decide +kernel
  -- The only event identifies the claim.
  have identifies : Identifies firstTold (claimSession attributes) :=
    { application := application.symm
      supplier := supplier.symm
      service := by rw [service]; rintro text ⟨⟩; rfl
      height := by
        rintro text ⟨⟩
        exact ⟨60, ok_of_toOption (by decide +kernel), ok_of_toOption height⟩ }
  rw [LastOfPairFits, last]
  refine ⟨fun overserviced inside _ => ?_, fun none => ?_⟩
  · rw [List.mem_singleton.mp inside]
  · exact absurd identifies (none firstTold List.mem_cons_self)

/-- The other claim of the application and the supplier takes that burn as well. -/
theorem effectiveBurns_taken_by_other : ∃ attributes settled other,
    settledWithFirst [claimOfService "svc1", claimOfService "svc2"] = .ok [settled, other] ∧
      [overservicedFirst].mapM overservicedOf = .ok [some firstTold] ∧
      getAttributes (claimOfService "svc2").attributes = .ok attributes ∧
      attributes.settledUpokt = none ∧
      ¬ Attributed [firstTold] attributes other.1.settledAmount := by
  have amounts : (settledWithFirst [claimOfService "svc1", claimOfService "svc2"]).toOption.map
      (fun settled => settled.map fun record => record.1.settledAmount) = some [40, 40] := by
    decide +kernel
  have session : attributionReadOf (claimOfService "svc2") =
      some ([none, some ⟨"100", "upokt"⟩], ["app", "supplier", "svc2"], some 60) := by
    decide +kernel
  generalize settledWithFirst [claimOfService "svc1", claimOfService "svc2"] = outcome at amounts ⊢
  obtain ⟨records, handled, amounts⟩ := Option.map_eq_some_iff.mp amounts
  obtain ⟨settled, rest, rfl, _, amounts⟩ := List.map_eq_cons_iff.mp amounts
  obtain ⟨other, last, rfl, amount, amounts⟩ := List.map_eq_cons_iff.mp amounts
  rw [List.map_eq_nil_iff.mp amounts] at handled
  obtain ⟨attributes, given, session⟩ := Option.map_eq_some_iff.mp session
  simp only [Prod.mk.injEq, List.cons.injEq, and_true] at session
  obtain ⟨⟨unsettled, claimed⟩, ⟨_, _, service⟩, _⟩ := session
  refine ⟨attributes, settled, other, ok_of_toOption handled, ok_of_toOption (by decide +kernel),
    ok_of_toOption given, unsettled, ?_⟩
  intro attributed
  -- No event is about the second service, so a hundred should have been settled.
  have none : ∀ overserviced ∈ [firstTold],
      ¬ Identifies overserviced (claimSession attributes) := by
    intro overserviced member identifies
    rw [List.mem_singleton.mp member] at identifies
    have same := identifies.service "svc1" rfl
    rw [service] at same
    exact absurd same (by decide)
  have full := attributed.unidentified none _ claimed
  rw [amount] at full
  exact absurd (congrArg Except.toOption full) (by decide +kernel)

end Pocketdex.Settlement
