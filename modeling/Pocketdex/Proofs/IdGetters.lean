import Mathlib.Data.List.Perm.Subperm
import Pocketdex.Handlers
import Pocketdex.Proofs.StakeGroups

/-! The ids the scheduler reads from an event are compared with the rows its handler touches. -/

namespace Pocketdex

/-- Rows are stored under their own id. -/
def StoredById {ν : Type} (id : ν → String) (table : Dict String ν) : Prop :=
  ∀ key row, table.get key = some row → id row = key

/-- An event is accepted when its handler succeeds, having touched the rows of some ids. -/
inductive Accepted : RecordGetId → CosmosEvent → List String → Prop where
  | application {event : CosmosEvent} {handle : List CosmosEvent → ApplicationProgram Unit}
      {table : Dict String Application} {final : Unit × Dict String Application} :
      applicationEventHandler event.type = some handle → StoredById Application.id table →
      (handle [event]).run table = .ok final →
      Accepted applicationIds event ((handle [event]).touched table)
  | gateway {event : CosmosEvent} {handle : CosmosEvent → GatewayProgram Unit}
      {table : Dict String Gateway} {final : Unit × Dict String Gateway} :
      gatewayEventHandler event.type = some handle → StoredById Gateway.id table →
      (handle event).run table = .ok final →
      Accepted gatewayIds event ((handle event).touched table)

/-- A getter agrees with a handler when it finds the ids of the touched rows and does not throw. -/
def GetterAgrees (getEntityIdArg : RecordGetId) (event : CosmosEvent) (ids : List String) : Prop :=
  (∀ filed, ∃ after, fileDatum getEntityIdArg filed (.event event) = .ok after) ∧
    ∀ id, id ∈ entityIds getEntityIdArg (.event event) ↔ id ∈ ids

/-- An event carries an attribute with the given key. -/
def Carries (event : CosmosEvent) (key : String) : Prop :=
  ∃ entry ∈ event.attributes, entry.key = key

/-- An event carries the attribute that the getter of its type reads. -/
def CarriesGetterAttribute (event : CosmosEvent) : Prop :=
  match event.type with
  | .applicationTransferBegin => Carries event "source_address"
  | .applicationTransferEnd => Carries event "destination_address"
  | .applicationUnbondingBegin => Carries event "application"
  | .applicationUnbondingEnd => Carries event "application"
  | .gatewayUnbondingBegin => Carries event "gateway"
  | .gatewayUnbondingEnd => Carries event "gateway"
  | _ => True

/-- An event of the chain names one entity throughout, and one destination when it transfers. -/
structure ConsistentEvent (event : CosmosEvent) (source destination : String) : Prop where
  distinctKeys : (event.attributes.map Attribute.key).Nodup
  sourceAddress : IsAddress source
  destinationAddress : IsAddress destination
  different : source ≠ destination
  flatSource : ∀ entry ∈ event.attributes,
    entry.key ∈ ["source_address", "application_address", "gateway_address"] →
      replaceQuotes entry.value = source
  jsonSource : ∀ entry ∈ event.attributes, entry.key ∈ ["application", "gateway"] →
    readJsonAddress entry.value = .ok (some source)
  flatDestination : ∀ entry ∈ event.attributes, entry.key = "destination_address" →
    replaceQuotes entry.value = destination
  jsonDestination : ∀ entry ∈ event.attributes, entry.key = "destination_application" →
    readJsonAddress entry.value = .ok (some destination)
  message : ∀ msg, event.msg = some msg → ∀ path ∈ ["address", "sourceAddress"], ∀ id,
    msg.decodedMsg.get path = some id → id = source

/-- A variable read from attributes that agree holds their value, or its default without any. -/
theorem readAttribute_agree {α : Type} {key : String} {read : String → Except String α}
    {default value : α} {attributes : List Attribute}
    (agree : ∀ entry ∈ attributes, entry.key = key → read entry.value = .ok value) :
    ((∃ entry ∈ attributes, entry.key = key) ∧
        readAttribute key read default attributes = .ok value) ∨
      ((∀ entry ∈ attributes, entry.key ≠ key) ∧
        readAttribute key read default attributes = .ok default) := by
  -- Each entry either sets the variable to the common value or leaves it.
  induction attributes generalizing default with
  | nil => exact Or.inr ⟨by simp, rfl⟩
  | cons entry rest ih =>
    have later := fun other member => agree other (List.mem_cons_of_mem entry member)
    by_cases same : entry.key = key
    · have here := agree entry List.mem_cons_self same
      have step : readAttribute key read default (entry :: rest) =
          readAttribute key read value rest := by
        simp [readAttribute, same, here, Bind.bind, Except.bind]
      refine Or.inl ⟨⟨entry, List.mem_cons_self, same⟩, ?_⟩
      rw [step]
      rcases ih later with ⟨_, result⟩ | ⟨_, result⟩
      · exact result
      · exact result
    · have step : readAttribute key read default (entry :: rest) =
          readAttribute key read default rest := by
        simp [readAttribute, same, Bind.bind, Except.bind]
      rw [step]
      rcases ih later with ⟨⟨other, member, named⟩, result⟩ | ⟨absent, result⟩
      · exact Or.inl ⟨⟨other, List.mem_cons_of_mem _ member, named⟩, result⟩
      · exact Or.inr ⟨List.forall_mem_cons.mpr ⟨same, absent⟩, result⟩

/-- An address read from attributes that agree is theirs, or the default without any. -/
theorem readAddress_agree {flatKey jsonKey id : String} {default : Option String}
    {attributes : List Attribute}
    (flat : ∀ entry ∈ attributes, entry.key = flatKey → replaceQuotes entry.value = id)
    (json : ∀ entry ∈ attributes, entry.key = jsonKey →
      readJsonAddress entry.value = .ok (some id)) :
    readAddress flatKey jsonKey default attributes = .ok (some id) ∨
      ((∀ entry ∈ attributes, entry.key ≠ flatKey ∧ entry.key ≠ jsonKey) ∧
        readAddress flatKey jsonKey default attributes = .ok default) := by
  induction attributes generalizing default with
  | nil => exact Or.inr ⟨by simp, rfl⟩
  | cons entry rest ih =>
    have laterFlat := fun other member => flat other (List.mem_cons_of_mem entry member)
    have laterJson := fun other member => json other (List.mem_cons_of_mem entry member)
    -- Once the address is set, the remaining entries set it to the same one or leave it.
    have settled : readAddress flatKey jsonKey (some id) rest = .ok (some id) := by
      rcases @ih (some id) laterFlat laterJson with result | ⟨_, result⟩
      · exact result
      · exact result
    by_cases isFlat : entry.key = flatKey
    · refine Or.inl ?_
      have here := flat entry List.mem_cons_self isFlat
      simp only [readAddress, List.foldlM_cons, isFlat, if_true, here, Bind.bind, Except.bind]
      exact settled
    · by_cases isJson : entry.key = jsonKey
      · refine Or.inl ?_
        have here := json entry List.mem_cons_self isJson
        have other : ¬ jsonKey = flatKey := isJson ▸ isFlat
        simp only [readAddress, List.foldlM_cons, isJson, other, if_true, if_false, here,
          Bind.bind, Except.bind]
        exact settled
      · have step : readAddress flatKey jsonKey default (entry :: rest) =
            readAddress flatKey jsonKey default rest := by
          simp [readAddress, isFlat, isJson, Bind.bind, Except.bind]
        rw [step]
        rcases ih laterFlat laterJson with result | ⟨absent, result⟩
        · exact Or.inl result
        · exact Or.inr ⟨List.forall_mem_cons.mpr ⟨⟨isFlat, isJson⟩, absent⟩, result⟩

/-- A required address is the one found. -/
theorem requireAddress_ok {address : Option String} {message id : String}
    (required : requireAddress address message = .ok id) : address = some id := by
  unfold requireAddress at required
  cases address with
  | none => simp at required
  | some text =>
    by_cases empty : text = ""
    · simp [empty] at required
    · simpa [empty] using required

/-- Handling a single datum stores the applications it updates. -/
theorem handleAll_single {δ : Type} (handleOne : δ → ApplicationProgram (List Application))
    (datum : δ) : handleAll handleOne [datum] = (handleOne datum).bind saveApplications := by
  simp [handleAll]

/-- A program that fetches an application succeeds only on a stored one, and touches its row. -/
theorem run_getApplication_bind {β : Type} {id message : String}
    {next : Application → ApplicationProgram β} {table : Dict String Application}
    {final : β × Dict String Application}
    (ran : ((getApplication id message).bind next).run table = .ok final) :
    ∃ application, table.get id = some application ∧ (next application).run table = .ok final ∧
      ((getApplication id message).bind next).touched table =
        id :: (next application).touched table := by
  simp only [getApplication, Program.bind_eq, Program.read_bind, Program.bind, Program.run,
    Program.touched] at ran ⊢
  cases found : table.get id with
  | none => simp [found, Program.run] at ran
  | some application => exact ⟨application, rfl, by simpa [found] using ran, by simp⟩

/-- The gateway counterpart: fetching succeeds only on a stored gateway, and touches its row. -/
theorem run_getGateway_bind {β : Type} {id message : String} {next : Gateway → GatewayProgram β}
    {table : Dict String Gateway} {final : β × Dict String Gateway}
    (ran : ((getGateway id message).bind next).run table = .ok final) :
    ∃ gateway, table.get id = some gateway ∧ (next gateway).run table = .ok final ∧
      ((getGateway id message).bind next).touched table = id :: (next gateway).touched table := by
  simp only [getGateway, Program.bind_eq, Program.read_bind, Program.bind, Program.run,
    Program.touched] at ran ⊢
  cases found : table.get id with
  | none => simp [found, Program.run] at ran
  | some gateway => exact ⟨gateway, rfl, by simpa [found] using ran, by simp⟩

/-- Storing applications touches their rows in turn. -/
theorem touched_saveApplications (applications : List Application)
    (table : Dict String Application) :
    (saveApplications applications).touched table = applications.map Application.id := by
  induction applications generalizing table with
  | nil => rfl
  | cons application rest ih =>
    simp only [saveApplications, Program.bind_eq, Program.write_bind, Program.touched,
      List.map_cons, ih]

section

variable {event : CosmosEvent} {source destination : String}
  (consistent : ConsistentEvent event source destination)

include consistent

/-- The source address of a transfer event, if any is found. -/
theorem sourceAddress_agree :
    (Carries event "source_address" ∧ readAttribute "source_address"
        (fun value => .ok (some (replaceQuotes value))) none event.attributes = .ok (some source)) ∨
      (¬ Carries event "source_address" ∧ readAttribute "source_address"
        (fun value => .ok (some (replaceQuotes value))) none event.attributes = .ok none) := by
  rcases @readAttribute_agree _ "source_address"
      (fun value => .ok (some (replaceQuotes value))) none (some source) event.attributes
      (fun entry member named => by
        rw [consistent.flatSource entry member (by simp [named])]) with found | ⟨absent, result⟩
  · exact Or.inl found
  · exact Or.inr ⟨fun ⟨entry, member, named⟩ => absent entry member named, result⟩

/-- The addresses a transfer end is read for are those of its two sides. -/
theorem transferEnd_addresses {sourceFound destinationFound : Option String}
    {sourceText destinationText message missing : String}
    (readSource : readAttribute "source_address"
      (fun value => .ok (some (replaceQuotes value))) none event.attributes = .ok sourceFound)
    (readDestination : readAddress "destination_address" "destination_application" none
      event.attributes = .ok destinationFound)
    (requireSource : requireAddress sourceFound message = .ok sourceText)
    (requireDestination : requireAddress destinationFound missing = .ok destinationText) :
    sourceText = source ∧ Carries event "source_address" ∧ destinationText = destination := by
  -- A side that no attribute names would be refused.
  have sourceSame : sourceText = source ∧ Carries event "source_address" := by
    rcases sourceAddress_agree consistent with ⟨carried, result⟩ | ⟨_, result⟩
    · rw [result] at readSource
      cases readSource
      exact ⟨Option.some.inj (requireAddress_ok requireSource).symm, carried⟩
    · rw [result] at readSource
      cases readSource
      simp [requireAddress] at requireSource
  have destinationSame : destinationText = destination := by
    rcases @readAddress_agree "destination_address" "destination_application" destination none
        event.attributes consistent.flatDestination consistent.jsonDestination with
      result | ⟨_, result⟩
    · rw [result] at readDestination
      cases readDestination
      exact Option.some.inj (requireAddress_ok requireDestination).symm
    · rw [result] at readDestination
      cases readDestination
      simp [requireAddress] at requireDestination
  exact ⟨sourceSame.1, sourceSame.2, destinationSame⟩

/-- An accepted transfer end names its source and touches both sides. -/
theorem transferEnd_touched {table : Dict String Application}
    (stored : StoredById Application.id table) {final : Unit × Dict String Application}
    (ran : (handleTransferApplicationEndEvent [event]).run table = .ok final) :
    Carries event "source_address" ∧ ∀ id,
      id ∈ (handleTransferApplicationEndEvent [event]).touched table ↔
        id = source ∨ id = destination := by
  rw [handleTransferApplicationEndEvent, handleAll_single] at ran ⊢
  simp only [_handleTransferApplicationEndEvent, Program.bind_eq, Program.bind_assoc] at ran ⊢
  obtain ⟨sourceFound, readSource, ran⟩ := Program.run_lift_bind ran
  obtain ⟨destinationFound, readDestination, ran⟩ := Program.run_lift_bind ran
  obtain ⟨sourceText, requireSource, ran⟩ := Program.run_lift_bind ran
  obtain ⟨destinationText, requireDestination, ran⟩ := Program.run_lift_bind ran
  simp only [readSource, readDestination, requireSource, requireDestination, Program.lift_ok,
    Program.done_bind]
  obtain ⟨rfl, carried, rfl⟩ := transferEnd_addresses consistent readSource readDestination
    requireSource requireDestination
  rw [replaceQuotes_eq consistent.sourceAddress.2.2,
    replaceQuotes_eq consistent.destinationAddress.2.2] at ran ⊢
  refine ⟨carried, ?_⟩
  simp only [Program.read_bind, Program.run, Program.touched] at ran ⊢
  -- Without its source a transfer fails, and this one ran.
  cases foundSource : table.get sourceText with
  | none => simp [foundSource, Program.run] at ran
  | some application =>
    have sameId := stored _ _ foundSource
    simp only [Program.pure_eq, Program.done_bind, touched_saveApplications]
    intro id
    cases foundDestination : table.get destinationText with
    | none => simp [sameId]; tauto
    | some other =>
      have otherId := stored _ _ foundDestination
      simp [sameId, otherId]; tauto

/-- An accepted transfer begin touches its source. -/
theorem transferBegin_touched {table : Dict String Application}
    (stored : StoredById Application.id table) {final : Unit × Dict String Application}
    (ran : (handleTransferApplicationBeginEvent [event]).run table = .ok final) :
    ∀ id, id ∈ (handleTransferApplicationBeginEvent [event]).touched table ↔ id = source := by
  rw [handleTransferApplicationBeginEvent, handleAll_single] at ran ⊢
  simp only [_handleTransferApplicationBeginEvent, Program.bind_eq, Program.bind_assoc] at ran ⊢
  obtain ⟨heightText, readHeightText, ran⟩ := Program.run_lift_bind ran
  obtain ⟨address, readMessage, ran⟩ := Program.run_lift_bind ran
  obtain ⟨application, found, ran, touched⟩ := run_getApplication_bind ran
  obtain ⟨height, readEnd, ran⟩ := Program.run_lift_bind ran
  -- The address comes from the message, which names the source.
  have same : address = source := by
    cases sent : event.msg with
    | none => simp [sent] at readMessage
    | some msg =>
      cases field : msg.decodedMsg.get "sourceAddress" with
      | none => simp [sent, field] at readMessage
      | some id =>
        simp only [sent, field, Except.ok.injEq] at readMessage
        rw [← readMessage]
        exact consistent.message msg sent "sourceAddress" (by simp) id field
  rw [readHeightText, readMessage, Program.lift_ok, Program.done_bind, Program.lift_ok,
    Program.done_bind, touched, readEnd]
  simp [touched_saveApplications, stored _ _ found, same]

/-- An accepted transfer error names its source and touches only it. -/
theorem transferError_touched {table : Dict String Application}
    (stored : StoredById Application.id table) {final : Unit × Dict String Application}
    (ran : (handleTransferApplicationErrorEvent [event]).run table = .ok final) :
    Carries event "source_address" ∧
      ∀ id, id ∈ (handleTransferApplicationErrorEvent [event]).touched table ↔ id = source := by
  rw [handleTransferApplicationErrorEvent, handleAll_single] at ran ⊢
  simp only [_handleTransferApplicationErrorEvent, Program.bind_eq, Program.bind_assoc] at ran ⊢
  obtain ⟨sourceFound, readSource, ran⟩ := Program.run_lift_bind ran
  obtain ⟨destinationFound, readDestination, ran⟩ := Program.run_lift_bind ran
  obtain ⟨errorFound, readError, ran⟩ := Program.run_lift_bind ran
  obtain ⟨address, requireSource, ran⟩ := Program.run_lift_bind ran
  obtain ⟨_, requireDestination, ran⟩ := Program.run_lift_bind ran
  obtain ⟨_, requireError, ran⟩ := Program.run_lift_bind ran
  obtain ⟨application, found, ran, touched⟩ := run_getApplication_bind ran
  have same : address = source ∧ Carries event "source_address" := by
    rcases sourceAddress_agree consistent with ⟨carried, result⟩ | ⟨_, result⟩
    · rw [result] at readSource
      cases readSource
      exact ⟨Option.some.inj (requireAddress_ok requireSource).symm, carried⟩
    · rw [result] at readSource
      cases readSource
      simp [requireAddress] at requireSource
  simp only [readSource, readDestination, readError, requireSource, requireDestination,
    requireError, Program.lift_ok, Program.done_bind, touched]
  refine ⟨same.2, ?_⟩
  simp [touched_saveApplications, stored _ _ found, same.1]

/-- An accepted unbonding begin touches its application. -/
theorem unbondingBegin_touched {table : Dict String Application}
    (stored : StoredById Application.id table) {final : Unit × Dict String Application}
    (ran : (handleApplicationUnbondingBeginEvent [event]).run table = .ok final) :
    ∀ id, id ∈ (handleApplicationUnbondingBeginEvent [event]).touched table ↔ id = source := by
  rw [handleApplicationUnbondingBeginEvent, handleAll_single] at ran ⊢
  simp only [_handleApplicationUnbondingBeginEvent, Program.bind_eq, Program.bind_assoc] at ran ⊢
  obtain ⟨addressFound, readBegin, ran⟩ := Program.run_lift_bind ran
  obtain ⟨heights, readHeights, ran⟩ := Program.run_lift_bind ran
  obtain ⟨reason, readReason, ran⟩ := Program.run_lift_bind ran
  obtain ⟨address, required, ran⟩ := Program.run_lift_bind ran
  obtain ⟨application, found, ran, touched⟩ := run_getApplication_bind ran
  obtain ⟨unstakingReason, decoded, ran⟩ := Program.run_lift_bind ran
  -- The address is the message's, or else the one the attributes agree on.
  have same : address = source := by
    have present := requireAddress_ok required
    subst present
    unfold unbondingBeginAddress at readBegin
    cases sent : event.msg with
    | some msg =>
      simp only [sent, Except.ok.injEq] at readBegin
      exact consistent.message msg sent "address" (by simp) address readBegin
    | none =>
      simp only [sent] at readBegin
      rcases @readAddress_agree "application_address" "application" source (some "")
          event.attributes
          (fun entry member named => consistent.flatSource entry member (by simp [named]))
          (fun entry member named => consistent.jsonSource entry member (by simp [named])) with
        result | ⟨_, result⟩
      · rw [result] at readBegin
        simpa using readBegin.symm
      · rw [result] at readBegin
        simp only [Except.ok.injEq, Option.some.injEq] at readBegin
        simp [requireAddress, ← readBegin] at required
  simp only [readBegin, readHeights, readReason, required, Program.lift_ok, Program.done_bind]
  rw [touched, decoded]
  simp [touched_saveApplications, stored _ _ found, same]

/-- An accepted unbonding end touches its application. -/
theorem unbondingEnd_touched {table : Dict String Application}
    (stored : StoredById Application.id table) {final : Unit × Dict String Application}
    (ran : (handleApplicationUnbondingEndEvent [event]).run table = .ok final) :
    ∀ id, id ∈ (handleApplicationUnbondingEndEvent [event]).touched table ↔ id = source := by
  rw [handleApplicationUnbondingEndEvent, handleAll_single] at ran ⊢
  simp only [_handleApplicationUnbondingEndEvent, Program.bind_eq, Program.bind_assoc] at ran ⊢
  obtain ⟨addressFound, readEnd, ran⟩ := Program.run_lift_bind ran
  obtain ⟨heights, readHeights, ran⟩ := Program.run_lift_bind ran
  obtain ⟨reason, readReason, ran⟩ := Program.run_lift_bind ran
  obtain ⟨address, required, ran⟩ := Program.run_lift_bind ran
  obtain ⟨application, found, ran, touched⟩ := run_getApplication_bind ran
  have same : address = source := by
    rcases @readAddress_agree "application_address" "application" source none event.attributes
        (fun entry member named => consistent.flatSource entry member (by simp [named]))
        (fun entry member named => consistent.jsonSource entry member (by simp [named])) with
      result | ⟨_, result⟩
    · rw [result] at readEnd
      cases readEnd
      exact Option.some.inj (requireAddress_ok required).symm
    · rw [result] at readEnd
      cases readEnd
      simp [requireAddress] at required
  simp only [readEnd, readHeights, readReason, required, Program.lift_ok, Program.done_bind,
    touched]
  simp [touched_saveApplications, stored _ _ found, same]

/-- The gateway that a gateway unbonding event names is its source. -/
theorem readGatewayUnbonding_source {handler : String} {heights : UnbondingHeights}
    {address : String}
    (readUnbonding : readGatewayUnbonding handler event.attributes = .ok (heights, address)) :
    address = source := by
  obtain ⟨found, readFound, rest⟩ := exceptBind_ok readUnbonding
  obtain ⟨_, _, rest⟩ := exceptBind_ok rest
  obtain ⟨text, required, result⟩ := exceptBind_ok rest
  simp only [Pure.pure, Except.pure, Except.ok.injEq, Prod.mk.injEq] at result
  rw [← result.2]
  -- The attributes either agree on the source or name no gateway, which is refused.
  rcases @readAddress_agree "gateway_address" "gateway" source none event.attributes
      (fun entry member named => consistent.flatSource entry member (by simp [named]))
      (fun entry member named => consistent.jsonSource entry member (by simp [named])) with
    agreed | ⟨_, agreed⟩
  · rw [agreed] at readFound
    cases readFound
    exact Option.some.inj (requireAddress_ok required).symm
  · rw [agreed] at readFound
    cases readFound
    simp [requireAddress] at required

/-- An accepted gateway unbonding begin touches its gateway. -/
theorem gatewayUnbondingBegin_touched {table : Dict String Gateway}
    (stored : StoredById Gateway.id table) {final : Unit × Dict String Gateway}
    (ran : (_handleEventGatewayUnbondingBegin event).run table = .ok final) :
    ∀ id, id ∈ (_handleEventGatewayUnbondingBegin event).touched table ↔ id = source := by
  simp only [_handleEventGatewayUnbondingBegin, Program.bind_eq] at ran ⊢
  obtain ⟨⟨heights, address⟩, readUnbonding, ran⟩ := Program.run_lift_bind ran
  obtain ⟨gateway, found, ran, touched⟩ := run_getGateway_bind ran
  simp only [readUnbonding, Program.lift_ok, Program.done_bind, touched]
  simp [Program.write, Program.touched, stored _ _ found,
    readGatewayUnbonding_source consistent readUnbonding]

/-- An accepted gateway unbonding end touches its gateway. -/
theorem gatewayUnbondingEnd_touched {table : Dict String Gateway}
    (stored : StoredById Gateway.id table) {final : Unit × Dict String Gateway}
    (ran : (_handleEventGatewayUnbondingEnd event).run table = .ok final) :
    ∀ id, id ∈ (_handleEventGatewayUnbondingEnd event).touched table ↔ id = source := by
  simp only [_handleEventGatewayUnbondingEnd, Program.bind_eq] at ran ⊢
  obtain ⟨⟨heights, address⟩, readUnbonding, ran⟩ := Program.run_lift_bind ran
  obtain ⟨gateway, found, ran, touched⟩ := run_getGateway_bind ran
  simp only [readUnbonding, Program.lift_ok, Program.done_bind, touched]
  simp [Program.write, Program.touched, stored _ _ found,
    readGatewayUnbonding_source consistent readUnbonding]

/-- An accepted gateway unstake carries the gateway and touches it. -/
theorem gatewayUnstaked_touched {table : Dict String Gateway}
    (stored : StoredById Gateway.id table) {final : Unit × Dict String Gateway}
    (ran : (_handleGatewayUnstakeEvent event).run table = .ok final) :
    Carries event "gateway" ∧
      ∀ id, id ∈ (_handleGatewayUnstakeEvent event).touched table ↔ id = source := by
  simp only [_handleGatewayUnstakeEvent, Program.bind_eq] at ran ⊢
  obtain ⟨stringified, readGateway, ran⟩ := Program.run_lift_bind ran
  obtain ⟨address, readJson, ran⟩ := Program.run_lift_bind ran
  obtain ⟨gateway, found, ran, touched⟩ := run_getGateway_bind ran
  have carried : ∃ entry ∈ event.attributes, entry.key = "gateway" ∧ stringified = entry.value := by
    cases located : event.attributes.find? (fun entry => entry.key = "gateway") with
    | none => simp [located] at readGateway
    | some entry =>
      refine ⟨entry, List.mem_of_find?_eq_some located, by simpa using List.find?_some located, ?_⟩
      by_cases empty : entry.value = ""
      · simp [located, empty] at readGateway
      · simpa [located, empty] using readGateway.symm
  obtain ⟨entry, member, named, value⟩ := carried
  have same : address = source := by
    rw [value, consistent.jsonSource entry member (by simp [named])] at readJson
    have required : requireAddress (some source)
        "[handleGatewayUnstakeEvent] address not provided in gateway event" = .ok address := readJson
    exact Option.some.inj (requireAddress_ok required).symm
  refine ⟨⟨entry, member, named⟩, ?_⟩
  simp only [readGateway, readJson, Program.lift_ok, Program.done_bind, touched]
  simp [Program.write, Program.touched, stored _ _ found, same]

end

/-- A getter that finds the source agrees with a handler that touches only the source. -/
theorem getterAgrees_source {getEntityIdArg : RecordGetId} {event : CosmosEvent} {text : String}
    {source : String} (address : IsAddress source)
    (found : getEntityId getEntityIdArg (.event event) = .ok (.one text))
    (unquoted : replaceQuotes text = source) {ids : List String}
    (touched : ∀ id, id ∈ ids ↔ id = source) : GetterAgrees getEntityIdArg event ids := by
  have nonempty : text ≠ "" := by
    rintro rfl
    exact address.1 (by rw [← unquoted]; rfl)
  refine ⟨fun filed => ?_, fun id => ?_⟩
  · simp only [fileDatum, found, Bind.bind, Except.bind, nonempty, if_false]
    exact ⟨_, rfl⟩
  · simp [entityIds, found, unquoted, touched]

/-- A getter that finds nothing makes the scheduler throw. -/
theorem not_getterAgrees_missing {getEntityIdArg : RecordGetId} {event : CosmosEvent}
    (missing : getEntityId getEntityIdArg (.event event) = .ok .missing) {ids : List String} :
    ¬ GetterAgrees getEntityIdArg event ids := by
  rintro ⟨filed, _⟩
  obtain ⟨after, ran⟩ := filed ⟨[], Dict.empty⟩
  simp [fileDatum, missing, Bind.bind, Except.bind] at ran

/-- A getter of the first attribute with a key finds none exactly when the event lacks it. -/
theorem find_carries {event : CosmosEvent} (key : String) :
    (∃ entry ∈ event.attributes, entry.key = key ∧
        event.attributes.find? (fun entry => entry.key = key) = some entry) ∨
      (¬ Carries event key ∧ event.attributes.find? (fun entry => entry.key = key) = none) := by
  cases located : event.attributes.find? (fun entry => entry.key = key) with
  | none =>
    refine Or.inr ⟨?_, rfl⟩
    rintro ⟨entry, member, named⟩
    simpa [named] using List.find?_eq_none.mp located entry member
  | some entry =>
    exact Or.inl ⟨entry, List.mem_of_find?_eq_some located, by simpa using List.find?_some located,
      rfl⟩

/-- Reading an address through its JSON entity gives the id the getter returns. -/
theorem entityIdOfJson_of_readJsonAddress {value address : String}
    (read : readJsonAddress value = .ok (some address)) :
    (do entityIdOfJson (← property (← parseJson value) "address")) = .ok (.one address) := by
  obtain ⟨entity, parsed, rest⟩ := exceptBind_ok read
  obtain ⟨field, located, rest⟩ := exceptBind_ok rest
  -- Only a text gives an address.
  simp only [parsed, located, Bind.bind, Except.bind]
  cases field with
  | none => simp [Pure.pure, Except.pure] at rest
  | some json =>
    cases json <;> simp [Pure.pure, Except.pure] at rest
    simp [entityIdOfJson, rest]

section

variable {event : CosmosEvent} {source destination : String}
  (consistent : ConsistentEvent event source destination)

include consistent

/-- A JSON getter agrees with a handler of the source exactly on events that carry its entity. -/
theorem jsonGetter_agrees_iff {getEntityIdArg : RecordGetId} {key : String}
    (listed : key ∈ ["application", "gateway"])
    (getter : getEntityIdArg.getIdFromEventAttribute event.type = some (getAddressOfJson key))
    {ids : List String} (touched : ∀ id, id ∈ ids ↔ id = source) :
    GetterAgrees getEntityIdArg event ids ↔ Carries event key := by
  have answer : getEntityId getEntityIdArg (.event event) =
      getAddressOfJson key event.attributes := by simp [getEntityId, getter]
  rcases @find_carries event key with ⟨entry, member, named, located⟩ | ⟨absent, located⟩
  · have read := entityIdOfJson_of_readJsonAddress
      (consistent.jsonSource entry member (by simpa [named] using listed))
    have found : getEntityId getEntityIdArg (.event event) = .ok (.one source) := by
      rw [answer, getAddressOfJson, located]
      exact read
    have agrees := getterAgrees_source consistent.sourceAddress found
      (replaceQuotes_eq consistent.sourceAddress.2.2) touched
    exact ⟨fun _ => ⟨entry, member, named⟩, fun _ => agrees⟩
  · have found : getEntityId getEntityIdArg (.event event) = .ok .missing := by
      rw [answer, getAddressOfJson, located]
    exact ⟨fun agrees => absurd agrees (not_getterAgrees_missing found),
      fun carried => absurd carried absent⟩

/-- The source getter agrees with a handler of the source exactly on events that carry it. -/
theorem sourceGetter_agrees_iff {getEntityIdArg : RecordGetId}
    (getter : getEntityIdArg.getIdFromEventAttribute event.type = some getIdOfTransferEvents)
    {ids : List String} (touched : ∀ id, id ∈ ids ↔ id = source) :
    GetterAgrees getEntityIdArg event ids ↔ Carries event "source_address" := by
  have answer : getEntityId getEntityIdArg (.event event) =
      getIdOfTransferEvents event.attributes := by simp [getEntityId, getter]
  rcases @find_carries event "source_address" with ⟨entry, member, named, located⟩ |
    ⟨absent, located⟩
  · have found : getEntityId getEntityIdArg (.event event) = .ok (.one entry.value) := by
      rw [answer, getIdOfTransferEvents, located]
    have agrees := getterAgrees_source consistent.sourceAddress found
      (consistent.flatSource entry member (by simp [named])) touched
    exact ⟨fun _ => ⟨entry, member, named⟩, fun _ => agrees⟩
  · have found : getEntityId getEntityIdArg (.event event) = .ok .missing := by
      rw [answer, getIdOfTransferEvents, located]
    exact ⟨fun agrees => absurd agrees (not_getterAgrees_missing found),
      fun carried => absurd carried absent⟩

/-- The ids of a transfer end are those of the flat addresses it carries. -/
theorem mem_transferEndIds {id : String} :
    id ∈ entityIds applicationIds (.event { event with type := .applicationTransferEnd }) ↔
      (Carries event "source_address" ∧ id = source) ∨
        (Carries event "destination_address" ∧ id = destination) := by
  -- With distinct keys there are at most two such attributes, so none is cut off.
  have few : (event.attributes.filter fun entry =>
      entry.key = "source_address" ∨ entry.key = "destination_address").length ≤ 2 := by
    have distinct : ((event.attributes.filter fun entry => entry.key = "source_address" ∨
        entry.key = "destination_address").map Attribute.key).Nodup :=
      consistent.distinctKeys.sublist (List.filter_sublist.map Attribute.key)
    have inside : (event.attributes.filter fun entry =>
        entry.key = "source_address" ∨ entry.key = "destination_address").map Attribute.key ⊆
        ["source_address", "destination_address"] := by
      intro key member
      obtain ⟨entry, held, rfl⟩ := List.mem_map.mp member
      simpa using (List.mem_filter.mp held).2
    simpa using (distinct.subperm inside).length_le
  simp only [entityIds, getEntityId, applicationIds, getIdsOfTransferEndEvents,
    List.take_of_length_le few, List.mem_map, List.mem_filter, decide_eq_true_eq]
  constructor
  · rintro ⟨entry, ⟨member, named | named⟩, rfl⟩
    · exact Or.inl ⟨⟨entry, member, named⟩, consistent.flatSource entry member (by simp [named])⟩
    · exact Or.inr ⟨⟨entry, member, named⟩, consistent.flatDestination entry member named⟩
  · rintro (⟨⟨entry, member, named⟩, rfl⟩ | ⟨⟨entry, member, named⟩, rfl⟩)
    · exact ⟨entry, ⟨member, Or.inl named⟩, consistent.flatSource entry member (by simp [named])⟩
    · exact ⟨entry, ⟨member, Or.inr named⟩, consistent.flatDestination entry member named⟩

/-- The transfer end getter agrees with its handler exactly on flat destinations. -/
theorem transferEndGetter_agrees_iff (kind : event.type = .applicationTransferEnd)
    (carriesSource : Carries event "source_address") {ids : List String}
    (touched : ∀ id, id ∈ ids ↔ id = source ∨ id = destination) :
    GetterAgrees applicationIds event ids ↔ Carries event "destination_address" := by
  have same : ({ event with type := .applicationTransferEnd } : CosmosEvent) = event := by
    rw [← kind]
  have members := fun id => @mem_transferEndIds event source destination consistent id
  rw [same] at members
  constructor
  · rintro ⟨_, agree⟩
    rcases (members destination).mp ((agree destination).mpr ((touched destination).mpr
      (Or.inr rfl))) with ⟨_, equal⟩ | ⟨carried, _⟩
    · exact absurd equal.symm consistent.different
    · exact carried
  · intro carried
    refine ⟨fun filed => ?_, fun id => ?_⟩
    · have found : entityIds applicationIds (.event event) ≠ [] :=
        List.ne_nil_of_mem ((members source).mpr (Or.inl ⟨carriesSource, rfl⟩))
      refine fileDatum_succeeds found fun id inside => ?_
      rcases (members id).mp inside with ⟨_, rfl⟩ | ⟨_, rfl⟩
      · exact consistent.sourceAddress
      · exact consistent.destinationAddress
    · rw [members, touched]
      simp [carriesSource, carried]

end

/--
The getters agree with the handlers exactly on the attribute format they read.

Handlers also accept flat addresses of unbonding events, and whole destination applications.
-/
theorem idGetter_agrees_iff {getEntityIdArg : RecordGetId} {event : CosmosEvent}
    {ids : List String} (accepted : Accepted getEntityIdArg event ids)
    {source destination : String} (consistent : ConsistentEvent event source destination) :
    GetterAgrees getEntityIdArg event ids ↔ CarriesGetterAttribute event := by
  cases accepted with
  -- For every type with a handler: what it touches, and whether the getter says the same.
  | application handler stored ran =>
    cases kind : event.type <;> simp only [kind, applicationEventHandler, reduceCtorEq,
      Option.some.injEq] at handler <;> subst handler <;>
      simp only [CarriesGetterAttribute, kind]
    · exact sourceGetter_agrees_iff consistent (by simp [kind, applicationIds])
        (transferBegin_touched consistent stored ran)
    · obtain ⟨carried, touched⟩ := transferEnd_touched consistent stored ran
      exact transferEndGetter_agrees_iff consistent kind carried touched
    · obtain ⟨carried, touched⟩ := transferError_touched consistent stored ran
      exact iff_true_intro ((sourceGetter_agrees_iff consistent (by simp [kind, applicationIds])
        touched).mpr carried)
    · exact jsonGetter_agrees_iff consistent (by simp) (by simp [kind, applicationIds,
        getIdOfBondingEvents]) (unbondingBegin_touched consistent stored ran)
    · exact jsonGetter_agrees_iff consistent (by simp) (by simp [kind, applicationIds,
        getIdOfBondingEvents]) (unbondingEnd_touched consistent stored ran)
  | gateway handler stored ran =>
    cases kind : event.type <;> simp only [kind, gatewayEventHandler, reduceCtorEq,
      Option.some.injEq] at handler <;> subst handler <;>
      simp only [CarriesGetterAttribute, kind]
    · obtain ⟨carried, touched⟩ := gatewayUnstaked_touched consistent stored ran
      exact iff_true_intro ((jsonGetter_agrees_iff consistent (by simp) (by simp [kind, gatewayIds,
        getIdOfUnbondingEvents]) touched).mpr carried)
    · exact jsonGetter_agrees_iff consistent (by simp) (by simp [kind, gatewayIds,
        getIdOfUnbondingEvents]) (gatewayUnbondingBegin_touched consistent stored ran)
    · exact jsonGetter_agrees_iff consistent (by simp) (by simp [kind, gatewayIds,
        getIdOfUnbondingEvents]) (gatewayUnbondingEnd_touched consistent stored ran)

/-- An application that is stored while its unbonding ends. -/
def unbondingTable : Dict String Application :=
  Dict.empty.set "pokt1a" {
    id := "pokt1a"
    accountId := "pokt1a"
    stakeAmount := 5
    stakeDenom := "upokt"
    stakeStatus := .unstaking }

/-- The end of its unbonding, carrying the application under the given attribute. -/
def unbondingEndEvent (address : Attribute) : CosmosEvent where
  idx := 0
  height := 100
  kind := .finalizeBlock
  type := .applicationUnbondingEnd
  attributes := [address, ⟨"reason", "\"APPLICATION_UNBONDING_REASON_ELECTIVE\""⟩,
    ⟨"session_end_height", "\"90\""⟩, ⟨"unbonding_end_height", "\"100\""⟩]
  tx := none
  msg := none

/-- The flat form of the event. -/
def flatUnbondingEnd : CosmosEvent := unbondingEndEvent ⟨"application_address", "\"pokt1a\""⟩

/-- The older form of the event. -/
def jsonUnbondingEnd : CosmosEvent :=
  unbondingEndEvent ⟨"application", "\x7b\"address\":\"pokt1a\"\x7d"⟩

/-- The stored application has its own id. -/
theorem unbondingTable_stored : StoredById Application.id unbondingTable := by
  intro key row found
  rw [unbondingTable, Dict.get_set] at found
  split at found
  · rename_i same
    cases found
    exact same.symm
  · simp at found

/-- Both forms of the event are accepted when the handler runs without throwing. -/
theorem unbondingEnd_accepted {event : CosmosEvent} (kind : event.type = .applicationUnbondingEnd)
    (succeeds : ((handleApplicationUnbondingEndEvent [event]).run unbondingTable).toBool = true) :
    Accepted applicationIds event
      ((handleApplicationUnbondingEndEvent [event]).touched unbondingTable) := by
  cases ran : (handleApplicationUnbondingEndEvent [event]).run unbondingTable with
  | error message => simp [ran, Except.toBool] at succeeds
  | ok final => exact Accepted.application (by rw [kind]; rfl) unbondingTable_stored ran

/-- The flat form names its application consistently. -/
theorem flatUnbondingEnd_consistent : ConsistentEvent flatUnbondingEnd "pokt1a" "pokt1b" where
  distinctKeys := by decide +kernel
  sourceAddress := by decide +kernel
  destinationAddress := by decide +kernel
  different := by decide +kernel
  flatSource := by decide +kernel
  jsonSource := by decide +kernel
  flatDestination := by decide +kernel
  jsonDestination := by decide +kernel
  message := by simp [flatUnbondingEnd, unbondingEndEvent]

/-- The older form names its application consistently. -/
theorem jsonUnbondingEnd_consistent : ConsistentEvent jsonUnbondingEnd "pokt1a" "pokt1b" where
  distinctKeys := by decide +kernel
  sourceAddress := by decide +kernel
  destinationAddress := by decide +kernel
  different := by decide +kernel
  flatSource := by decide +kernel
  jsonSource := by decide +kernel
  flatDestination := by decide +kernel
  jsonDestination := by decide +kernel
  message := by simp [jsonUnbondingEnd, unbondingEndEvent]

/-- On the older form the getter and the handler agree. -/
theorem idGetter_agrees_json : GetterAgrees applicationIds jsonUnbondingEnd
    ((handleApplicationUnbondingEndEvent [jsonUnbondingEnd]).touched unbondingTable) :=
  (idGetter_agrees_iff (unbondingEnd_accepted rfl (by decide +kernel))
    jsonUnbondingEnd_consistent).mpr ⟨_, List.mem_cons_self, rfl⟩

/-- On the flat form the handler succeeds and the scheduler throws. -/
theorem idGetter_throws_flat :
    Accepted applicationIds flatUnbondingEnd
      ((handleApplicationUnbondingEndEvent [flatUnbondingEnd]).touched unbondingTable) ∧
    ConsistentEvent flatUnbondingEnd "pokt1a" "pokt1b" ∧
    indexStakeEntityGroups [.event flatUnbondingEnd] applicationIds =
      .error "entityId not found for event type pocket.application.EventApplicationUnbondingEnd" ∧
    ¬ GetterAgrees applicationIds flatUnbondingEnd
      ((handleApplicationUnbondingEndEvent [flatUnbondingEnd]).touched unbondingTable) :=
  ⟨unbondingEnd_accepted rfl (by decide +kernel), flatUnbondingEnd_consistent, by decide +kernel,
    not_getterAgrees_missing (by decide +kernel)⟩

end Pocketdex
