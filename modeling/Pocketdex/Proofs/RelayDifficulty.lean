import Pocketdex.Base.Except
import Pocketdex.Pocket.Services
import Pocketdex.Utils.Number

/-! When the events of a new relay mining difficulty are accepted. -/

namespace Pocketdex

/-- What the last attribute of a key tells, without quotes. -/
def lastTold (key : String) (attributes : List Attribute) : Option String :=
  attributes.reverse.findSome? fun entry =>
    if entry.key = key then some (replaceQuotes entry.value) else none

/-- The keys of the two moving averages. -/
def emaKeys : List String := ["prev_num_relays_ema", "new_num_relays_ema"]

/-- The keys of the five values a difficulty event tells. -/
def difficultyKeys : List String :=
  "service_id" :: "prev_target_hash_hex_encoded" :: "new_target_hash_hex_encoded" :: emaKeys

/-- Every moving average is a whole number or left empty, with quotes around it or without. -/
def EmasSpelled (event : CosmosEvent) : Prop :=
  ∀ entry ∈ event.attributes, entry.key ∈ emaKeys →
    replaceQuotes entry.value = "" ∨ IsDecimal (replaceQuotes entry.value)

/-- One of the five attributes is missing or empty. -/
def Lacking (event : CosmosEvent) : Prop :=
  ∃ key ∈ difficultyKeys, lastTold key event.attributes = none ∨
    lastTold key event.attributes = some ""

/-- The five values of a difficulty event. -/
structure Difficulty where
  serviceId : String
  prevTargetHash : String
  newTargetHash : String
  prevEma : ℕ
  newEma : ℕ

/-- The attributes of an event carry five values. -/
structure Difficulty.CarriedBy (told : Difficulty) (event : CosmosEvent) : Prop where
  serviceId : lastTold "service_id" event.attributes = some told.serviceId
  prevTargetHash :
    lastTold "prev_target_hash_hex_encoded" event.attributes = some told.prevTargetHash
  newTargetHash : lastTold "new_target_hash_hex_encoded" event.attributes = some told.newTargetHash
  prevEma : ∃ text, lastTold "prev_num_relays_ema" event.attributes = some text ∧
    IsDecimal text ∧ decimalValue text = told.prevEma
  newEma : ∃ text, lastTold "new_num_relays_ema" event.attributes = some text ∧
    IsDecimal text ∧ decimalValue text = told.newEma
  filled : told.serviceId ≠ "" ∧ told.prevTargetHash ≠ "" ∧ told.newTargetHash ≠ ""

/-- The record of an event with exactly these five values. -/
def Difficulty.record (told : Difficulty) (kindText : CosmosEventKind → String)
    (event : CosmosEvent) : EventRelayMiningDifficultyUpdatedProps where
  id := getEventId kindText event
  serviceId := told.serviceId
  prevTargetHashHexEncoded := told.prevTargetHash
  newTargetHashHexEncoded := told.newTargetHash
  prevNumRelaysEma := told.prevEma
  newNumRelaysEma := told.newEma
  blockId := getBlockId event.height
  eventId := getEventId kindText event

/-- An event is stored with the values it carries, and rejected only if one of them is missing. -/
def NeverBlocks (kindText : CosmosEventKind → String) (event : CosmosEvent) : Prop :=
  (∀ told : Difficulty, told.CarriedBy event →
    _handleEventRelayMiningDifficultyUpdated kindText event = .ok (told.record kindText event)) ∧
  ∀ message, _handleEventRelayMiningDifficultyUpdated kindText event = .error message →
    Lacking event

/-- Neither moving average of an event is zero. -/
def NoZeroEma (event : CosmosEvent) : Prop :=
  ∀ key ∈ emaKeys, ∀ text, lastTold key event.attributes = some text →
    text ≠ "" → decimalValue text ≠ 0

/-- What is told last is told by the rest, or by the first entry where the rest tells nothing. -/
theorem lastTold_cons (key : String) (entry : Attribute) (rest : List Attribute) :
    lastTold key (entry :: rest) = (lastTold key rest).or
      (if entry.key = key then some (replaceQuotes entry.value) else none) := by
  simp [lastTold, List.findSome?_append]

/-- What is told last is told by one of the entries. -/
theorem lastTold_from {key text : String} {attributes : List Attribute}
    (told : lastTold key attributes = some text) :
    ∃ entry ∈ attributes, entry.key = key ∧ replaceQuotes entry.value = text := by
  obtain ⟨entry, member, found⟩ := List.exists_of_findSome?_eq_some told
  split at found
  · rename_i same
    exact ⟨entry, List.mem_reverse.mp member, same, Option.some.inj found⟩
  · cases found

/-- The moving average a spelled text is read as. -/
theorem bigInt_ema {text : String} (spelled : text = "" ∨ IsDecimal text) :
    bigInt text = .ok (decimalValue text : Int) := by
  rcases spelled with rfl | decimal
  · -- An empty text is read as zero.
    rfl
  · exact bigInt_decimal decimal

/-- The variables hold what is told last, and otherwise what they started at. -/
theorem readDifficultyAttributes_ok {attributes : List Attribute} (start : DifficultyAttributes)
    (spelled : ∀ entry ∈ attributes, entry.key ∈ emaKeys →
      replaceQuotes entry.value = "" ∨ IsDecimal (replaceQuotes entry.value)) :
    attributes.foldlM readDifficultyAttribute start = .ok {
      serviceId := (lastTold "service_id" attributes).getD start.serviceId
      prevTargetHashHexEncoded :=
        (lastTold "prev_target_hash_hex_encoded" attributes).getD start.prevTargetHashHexEncoded
      newTargetHashHexEncoded :=
        (lastTold "new_target_hash_hex_encoded" attributes).getD start.newTargetHashHexEncoded
      prevNumRelaysEma := ((lastTold "prev_num_relays_ema" attributes).map fun text =>
        (decimalValue text : Int)).or start.prevNumRelaysEma
      newNumRelaysEma := ((lastTold "new_num_relays_ema" attributes).map fun text =>
        (decimalValue text : Int)).or start.newNumRelaysEma } := by
  induction attributes generalizing start with
  | nil => simp [lastTold, pure, Except.pure]
  | cons entry rest ih =>
    have later := fun start => ih start fun other member =>
      spelled other (List.mem_cons_of_mem _ member)
    have read : entry.key ∈ emaKeys → bigInt (replaceQuotes entry.value) =
        .ok (decimalValue (replaceQuotes entry.value) : Int) := fun named =>
      bigInt_ema (spelled entry List.mem_cons_self named)
    simp only [List.foldlM_cons, lastTold_cons, readDifficultyAttribute]
    -- The key of the entry names at most one of the variables.
    split
    · rename_i same
      simp [same, bind, Except.bind, later]
    split
    · rename_i same
      simp [same, bind, Except.bind, later]
    split
    · rename_i same
      simp [same, bind, Except.bind, later]
    split
    · rename_i same
      have ema := read (by simp [same, emaKeys])
      simp [same, ema, bind, Except.bind, Except.map, later]
    split
    · rename_i same
      have ema := read (by simp [same, emaKeys])
      simp [ema, bind, Except.bind, Except.map, later]
    · simp [bind, Except.bind, later]

/-- An event that carries all five values is accepted unless a moving average is zero. -/
theorem handled_of_carried {kindText : CosmosEventKind → String} {event : CosmosEvent}
    {told : Difficulty} (spelled : EmasSpelled event) (carried : told.CarriedBy event) :
    _handleEventRelayMiningDifficultyUpdated kindText event =
      if told.prevEma = 0 then
        .error "[handleEventRelayMiningDifficultyUpdated] prevNumRelaysEma not found in event"
      else if told.newEma = 0 then
        .error "[handleEventRelayMiningDifficultyUpdated] newNumRelaysEma not found in event"
      else .ok (told.record kindText event) := by
  obtain ⟨prevText, prevTold, -, prevValue⟩ := carried.prevEma
  obtain ⟨newText, newTold, -, newValue⟩ := carried.newEma
  obtain ⟨service, prevHash, newHash⟩ := carried.filled
  unfold _handleEventRelayMiningDifficultyUpdated
  rw [readDifficultyAttributes_ok _ spelled]
  -- The three texts are filled, so the two averages decide.
  simp only [bind, Except.bind, carried.serviceId, carried.prevTargetHash, carried.newTargetHash,
    prevTold, newTold, prevValue, newValue, Option.getD_some, Option.map_some, Option.some_or,
    service, prevHash, newHash, if_false]
  by_cases prevZero : told.prevEma = 0
  · simp [prevZero, Option.filter]
  · by_cases newZero : told.newEma = 0
    · simp [prevZero, newZero, Option.filter]
    · simp [prevZero, newZero, Option.filter, Difficulty.record, pure, Except.pure]

/-- A complete event is accepted exactly if neither moving average is zero. -/
theorem accepted_iff {kindText : CosmosEventKind → String} {event : CosmosEvent}
    {told : Difficulty} (spelled : EmasSpelled event) (carried : told.CarriedBy event) :
    (∃ record, _handleEventRelayMiningDifficultyUpdated kindText event = .ok record) ↔
      told.prevEma ≠ 0 ∧ told.newEma ≠ 0 := by
  rw [handled_of_carried spelled carried]
  constructor
  · rintro ⟨record, accepted⟩
    refine ⟨fun zero => ?_, fun zero => ?_⟩
    · rw [if_pos zero] at accepted
      cases accepted
    · rw [if_pos zero] at accepted
      split at accepted <;> cases accepted
  · rintro ⟨prevSome, newSome⟩
    exact ⟨_, by rw [if_neg prevSome, if_neg newSome]⟩

/-- An event none of whose five attributes is missing or empty carries five values. -/
theorem carried_of_complete {event : CosmosEvent} (spelled : EmasSpelled event)
    (complete : ¬Lacking event) : ∃ told : Difficulty, told.CarriedBy event := by
  have given : ∀ key ∈ difficultyKeys, ∃ text, lastTold key event.attributes = some text ∧
      text ≠ "" := by
    intro key listed
    cases found : lastTold key event.attributes with
    | none => exact absurd ⟨key, listed, Or.inl found⟩ complete
    | some text =>
      refine ⟨text, rfl, fun empty => complete ⟨key, listed, Or.inr ?_⟩⟩
      rw [found, empty]
  -- A moving average that is not empty is a whole number.
  have decimal : ∀ key ∈ emaKeys, ∀ text, lastTold key event.attributes = some text →
      text ≠ "" → IsDecimal text := by
    intro key listed text found filled
    obtain ⟨entry, member, named, rfl⟩ := lastTold_from found
    exact (spelled entry member (named ▸ listed)).resolve_left filled
  obtain ⟨serviceId, service, serviceFilled⟩ := given "service_id" (by decide)
  obtain ⟨prevTargetHash, prevHash, prevFilled⟩ :=
    given "prev_target_hash_hex_encoded" (by decide)
  obtain ⟨newTargetHash, newHash, newFilled⟩ := given "new_target_hash_hex_encoded" (by decide)
  obtain ⟨prevText, prevTold, prevSome⟩ := given "prev_num_relays_ema" (by decide)
  obtain ⟨newText, newTold, newSome⟩ := given "new_num_relays_ema" (by decide)
  exact ⟨⟨serviceId, prevTargetHash, newTargetHash, decimalValue prevText, decimalValue newText⟩,
    { serviceId := service
      prevTargetHash := prevHash
      newTargetHash := newHash
      prevEma := ⟨prevText, prevTold, decimal _ (by decide) _ prevTold prevSome, rfl⟩
      newEma := ⟨newText, newTold, decimal _ (by decide) _ newTold newSome, rfl⟩
      filled := ⟨serviceFilled, prevFilled, newFilled⟩ }⟩

/-- A whole number is not empty. -/
theorem IsDecimal.filled {text : String} (decimal : IsDecimal text) : text ≠ "" := by
  rintro rfl
  exact decimal.1 rfl

/-- A complete event carries values that are not missing. -/
theorem Difficulty.CarriedBy.complete {told : Difficulty} {event : CosmosEvent}
    (carried : told.CarriedBy event) : ¬Lacking event := by
  obtain ⟨prevText, prevTold, prevDecimal, -⟩ := carried.prevEma
  obtain ⟨newText, newTold, newDecimal, -⟩ := carried.newEma
  rintro ⟨key, listed, lacks⟩
  -- Each of the five keys tells a text that is not empty.
  simp only [difficultyKeys, emaKeys, List.mem_cons, List.not_mem_nil, or_false] at listed
  rcases listed with rfl | rfl | rfl | rfl | rfl
  · simp [carried.serviceId, carried.filled.1] at lacks
  · simp [carried.prevTargetHash, carried.filled.2.1] at lacks
  · simp [carried.newTargetHash, carried.filled.2.2] at lacks
  · simp [prevTold, prevDecimal.filled] at lacks
  · simp [newTold, newDecimal.filled] at lacks

/-- Where neither moving average is zero, the values an event carries tell so. -/
theorem Difficulty.CarriedBy.noZero_iff {told : Difficulty} {event : CosmosEvent}
    (carried : told.CarriedBy event) :
    NoZeroEma event ↔ told.prevEma ≠ 0 ∧ told.newEma ≠ 0 := by
  obtain ⟨prevText, prevTold, prevDecimal, prevValue⟩ := carried.prevEma
  obtain ⟨newText, newTold, newDecimal, newValue⟩ := carried.newEma
  constructor
  · intro noZero
    exact ⟨prevValue ▸ noZero _ (by decide) _ prevTold prevDecimal.filled,
      newValue ▸ noZero _ (by decide) _ newTold newDecimal.filled⟩
  · rintro ⟨prevSome, newSome⟩ key listed text found -
    simp only [emaKeys, List.mem_cons, List.not_mem_nil, or_false] at listed
    rcases listed with rfl | rfl
    · rw [prevTold, Option.some.injEq] at found
      rwa [← found, prevValue]
    · rw [newTold, Option.some.injEq] at found
      rwa [← found, newValue]

/-- A difficulty event is never rejected without a missing value exactly when it lacks one, or
neither of its moving averages is zero. -/
theorem difficultyUpdated_neverBlocks_iff (kindText : CosmosEventKind → String)
    (event : CosmosEvent) (spelled : EmasSpelled event) :
    NeverBlocks kindText event ↔ Lacking event ∨ NoZeroEma event := by
  by_cases lacks : Lacking event
  · -- An event that lacks a value carries no five values.
    refine iff_of_true ⟨fun told carried => absurd lacks carried.complete, fun _ _ => lacks⟩
      (Or.inl lacks)
  obtain ⟨told, carried⟩ := carried_of_complete spelled lacks
  simp only [lacks, false_or, carried.noZero_iff]
  constructor
  · rintro ⟨accepted, -⟩
    -- Zero would be taken for a missing value.
    exact (accepted_iff spelled carried).mp ⟨_, accepted told carried⟩
  · rintro ⟨prevSome, newSome⟩
    refine ⟨fun other otherCarried => ?_, fun message rejected => ?_⟩
    · have others := otherCarried.noZero_iff.mp (carried.noZero_iff.mpr ⟨prevSome, newSome⟩)
      rw [handled_of_carried spelled otherCarried, if_neg others.1, if_neg others.2]
    · rw [handled_of_carried spelled carried, if_neg prevSome, if_neg newSome] at rejected
      cases rejected

/-- The attributes of a difficulty event. -/
def difficultyEvent (service prevHash newHash prevEma newEma : String) : CosmosEvent where
  idx := 4
  height := 70
  kind := .finalizeBlock
  type := .relayMiningDifficultyUpdated
  attributes := [⟨"new_num_relays_ema", newEma⟩, ⟨"service_id", service⟩,
    ⟨"prev_num_relays_ema", prevEma⟩, ⟨"prev_target_hash_hex_encoded", prevHash⟩,
    ⟨"new_target_hash_hex_encoded", newHash⟩, ⟨"mode", "EndBlock"⟩]
  tx := none
  msg := none

/-- An event with quoted texts and averages above zero is accepted. -/
theorem difficultyUpdated_neverBlocks_iff_quoted :
    EmasSpelled (difficultyEvent "\"eth\"" "\"ff\"" "\"0f\"" "\"12\"" "\"30\"") ∧
    NeverBlocks (fun _ => "EndBlock")
      (difficultyEvent "\"eth\"" "\"ff\"" "\"0f\"" "\"12\"" "\"30\"") := by
  have spelled : EmasSpelled
      (difficultyEvent "\"eth\"" "\"ff\"" "\"0f\"" "\"12\"" "\"30\"") := by
    unfold EmasSpelled
    decide
  refine ⟨spelled, (difficultyUpdated_neverBlocks_iff _ _ spelled).mpr (Or.inr ?_)⟩
  intro key listed text found _
  simp only [emaKeys, List.mem_cons, List.not_mem_nil, or_false] at listed
  rcases listed with rfl | rfl
  · cases found
    decide
  · cases found
    decide

/-- An event about a service without relays before carries all values, and is rejected. -/
theorem difficultyUpdated_blocks : ¬∀ event : CosmosEvent, EmasSpelled event →
    NeverBlocks (fun _ => "EndBlock") event := by
  intro never
  have spelled : EmasSpelled (difficultyEvent "eth" "ff" "0f" "0" "30") := by
    unfold EmasSpelled
    decide
  have carried : (⟨"eth", "ff", "0f", 0, 30⟩ : Difficulty).CarriedBy
      (difficultyEvent "eth" "ff" "0f" "0" "30") :=
    ⟨rfl, rfl, rfl, ⟨"0", rfl, by decide, by decide⟩, ⟨"30", rfl, by decide, by decide⟩, by decide⟩
  have stored := (never _ spelled).1 _ carried
  rw [handled_of_carried spelled carried, if_pos rfl] at stored
  cases stored

/-- An accepted event lacks none of its five values. -/
theorem complete_of_accepted {kindText : CosmosEventKind → String} {event : CosmosEvent}
    {record : EventRelayMiningDifficultyUpdatedProps} (spelled : EmasSpelled event)
    (accepted : _handleEventRelayMiningDifficultyUpdated kindText event = .ok record) :
    ¬Lacking event := by
  unfold _handleEventRelayMiningDifficultyUpdated at accepted
  rw [readDifficultyAttributes_ok _ spelled] at accepted
  simp only [bind, Except.bind, Option.or_none] at accepted
  -- Every check is passed, the last ones by averages that are some integers.
  split at accepted
  · cases accepted
  split at accepted
  · cases accepted
  split at accepted
  · cases accepted
  rename_i service prevHash newHash
  split at accepted
  · cases accepted
  · cases accepted
  rename_i prevFound newFound
  rintro ⟨key, listed, absent⟩
  simp only [difficultyKeys, emaKeys, List.mem_cons, List.not_mem_nil, or_false] at listed
  -- An absent text is empty, and an absent average is null or zero.
  rcases listed with rfl | rfl | rfl | rfl | rfl
  · rcases absent with none | blank
    · exact service (by rw [none, Option.getD_none])
    · exact service (by rw [blank, Option.getD_some])
  · rcases absent with none | blank
    · exact prevHash (by rw [none, Option.getD_none])
    · exact prevHash (by rw [blank, Option.getD_some])
  · rcases absent with none | blank
    · exact newHash (by rw [none, Option.getD_none])
    · exact newHash (by rw [blank, Option.getD_some])
  · rcases absent with none | blank
    · rw [none] at prevFound
      cases prevFound
    · rw [blank] at prevFound
      cases prevFound
  · rcases absent with none | blank
    · rw [none] at newFound
      cases newFound
    · rw [blank] at newFound
      cases newFound

/-- The difficulty events of a block are stored exactly if each of them tells its five values with
averages above zero. -/
theorem difficultyEvents_stored_iff {kindText : CosmosEventKind → String}
    {events : List CosmosEvent} (store : Store EventRelayMiningDifficultyUpdatedProps.id)
    (spelled : ∀ event ∈ events, EmasSpelled event) :
    (∃ after, handleEventRelayMiningDifficultyUpdated kindText events store = .ok after) ↔
      ∀ event ∈ events, ¬Lacking event ∧ NoZeroEma event := by
  constructor
  · rintro ⟨after, stored⟩ event member
    obtain ⟨records, each, -⟩ := exceptBind_ok stored
    obtain ⟨record, -, accepted⟩ := exists_of_mapM_ok each member
    have complete := complete_of_accepted (spelled event member) accepted
    obtain ⟨told, carried⟩ := carried_of_complete (spelled event member) complete
    -- A zero average would have ended in an error.
    exact ⟨complete, carried.noZero_iff.mpr
      ((accepted_iff (spelled event member) carried).mp ⟨record, accepted⟩)⟩
  · intro each
    have stored : ∀ event ∈ events, ∃ record,
        _handleEventRelayMiningDifficultyUpdated kindText event = .ok record ∧
          record.blockId = event.height := by
      intro event member
      obtain ⟨complete, noZero⟩ := each event member
      obtain ⟨told, carried⟩ := carried_of_complete (spelled event member) complete
      obtain ⟨prevSome, newSome⟩ := carried.noZero_iff.mp noZero
      refine ⟨told.record kindText event, ?_, rfl⟩
      rw [handled_of_carried (spelled event member) carried, if_neg prevSome, if_neg newSome]
    -- The records of all events are stored together.
    obtain ⟨records, handled, -⟩ := exists_mapM_ok stored
    refine ⟨store.bulkCreate records, ?_⟩
    rw [handleEventRelayMiningDifficultyUpdated, handled]
    rfl

end Pocketdex
