import Pocketdex.Pocket.Claims
import Pocketdex.Proofs.ClaimFormats

/-! Which event a created claim takes its counts from: the first one of its supplier, application and
service, whatever its session. -/

namespace Pocketdex.Settlement

section Estimate

variable {estimate : Option Int} {numEstimated numClaimed numRelays : Int}

/-- The relays of a claim with counts of sixty-four bits are estimated. -/
theorem computeNumEstimatedRelays_ok (estimated : |numEstimated| < 2 ^ 64)
    (claimed : |numClaimed| < 2 ^ 64) (relays : |numRelays| < 2 ^ 64) :
    ∃ found, _computeNumEstimatedRelays estimate numEstimated numClaimed numRelays = .ok found := by
  cases estimate with
  | some told => exact ⟨told, rfl⟩
  | none =>
    unfold _computeNumEstimatedRelays
    simp only
    split
    · exact ⟨0, rfl⟩
    · rename_i nonzero
      obtain ⟨units, unitsFound, unitsSmall, -⟩ := Double.ofInt_finite claimed
      obtain ⟨count, countFound, -, positive⟩ := Double.ofInt_finite relays
      obtain ⟨total, totalFound, totalSmall, -⟩ := Double.ofInt_finite estimated
      obtain ⟨quotient, quotientFound⟩ := Double.div_finite unitsSmall (positive nonzero)
      have floored : (Double.finite quotient).floor = .finite ⌊quotient⌋ := rfl
      rw [unitsFound, countFound, totalFound, quotientFound, floored]
      by_cases zero : Double.finite ⌊quotient⌋ = .finite 0
      · exact ⟨0, if_pos zero⟩
      · -- A number of units for each relay that is not zero is one to divide by.
        rw [if_neg zero]
        have floorNonzero : ⌊quotient⌋ ≠ 0 := fun none => zero (by rw [none]; rfl)
        have one : (1 : ℚ) ≤ |(⌊quotient⌋ : ℚ)| := by
          exact_mod_cast Int.one_le_abs floorNonzero
        obtain ⟨rest, restFound⟩ := Double.div_finite totalSmall one
        rw [restFound]
        exact ⟨⌊rest + 1 / 2⌋, by simp [Double.round, Double.toBigInt]⟩

end Estimate

section Names

variable {name value : String} {current : Json} {entry : Attribute} {rest : List Attribute}
  {names : ClaimNames}

/-- A name of the loop is still blank before its attribute, and has its value after it. -/
def Awaits (name value : String) (current : Json) (rest : List Attribute) : Prop :=
  (current = .string "" ∧ ∃ text, (⟨name, text⟩ : Attribute) ∈ rest ∧ replaceQuotes text = value) ∨
    (current = .string value ∧ name ∉ rest.map Attribute.key)

/-- One attribute is what a name has been waiting for, or it keeps waiting. -/
theorem Awaits.step (awaits : Awaits name value current (entry :: rest))
    (distinct : ((entry :: rest).map Attribute.key).Nodup) :
    Awaits name value (if entry.key = name then .string (replaceQuotes entry.value) else current)
      rest := by
  rw [List.map_cons, List.nodup_cons] at distinct
  rcases awaits with ⟨blank, text, member, reads⟩ | ⟨has, gone⟩
  · rcases List.mem_cons.mp member with same | later
    · subst same
      rw [if_pos rfl, reads]
      exact Or.inr ⟨rfl, distinct.1⟩
    · -- The attribute it waits for is the only one with its key.
      have other : entry.key ≠ name := fun same =>
        distinct.1 (same ▸ List.mem_map_of_mem (f := Attribute.key) later)
      rw [if_neg other]
      exact Or.inl ⟨blank, text, later, reads⟩
  · rw [List.map_cons, List.mem_cons, not_or] at gone
    rw [if_neg fun same => gone.1 same.symm]
    exact Or.inr ⟨has, gone.2⟩

/-- A name that counts as given has its value. -/
theorem Awaits.given (awaits : Awaits name value current rest)
    (given : truthy (some current) = true) : current = .string value := by
  rcases awaits with ⟨blank, -⟩ | ⟨has, -⟩
  · subst blank
    exact absurd given (by decide)
  · exact has

/-- After all attributes a name has its value. -/
theorem Awaits.done (awaits : Awaits name value current []) : current = .string value := by
  rcases awaits with ⟨-, text, member, -⟩ | ⟨has, -⟩
  · exact absurd member List.not_mem_nil
  · exact has

/-- The names after a flat attribute. -/
def ClaimNames.set (names : ClaimNames) (entry : Attribute) : ClaimNames where
  supplier := if entry.key = "supplier_operator_address" then .string (replaceQuotes entry.value)
    else names.supplier
  app := if entry.key = "application_address" then .string (replaceQuotes entry.value)
    else names.app
  service := if entry.key = "service_id" then .string (replaceQuotes entry.value)
    else names.service

/-- An attribute that is no claim sets the name it has the key of. -/
theorem readClaimNames_flat (flat : entry.key ≠ "claim") :
    readClaimNames names entry = .ok (names.set entry) := by
  unfold readClaimNames ClaimNames.set
  by_cases service : entry.key = "service_id"
  · simp [service]
  · by_cases app : entry.key = "application_address"
    · simp [app]
    · by_cases supplier : entry.key = "supplier_operator_address"
      · simp [supplier]
      · simp [service, app, supplier, flat]

/-- The keys of the attributes the names are collected from. -/
def nameKeys : List String :=
  ["claim", "service_id", "application_address", "supplier_operator_address"]

/-- An attribute with another key leaves the names as they are. -/
theorem readClaimNames_unread (unread : entry.key ∉ nameKeys) :
    readClaimNames names entry = .ok names := by
  have other : ∀ {key : String}, key ∈ nameKeys → entry.key ≠ key := fun member same =>
    unread (same ▸ member)
  rw [readClaimNames_flat (other (by decide)), ClaimNames.set, if_neg (other (by decide)),
    if_neg (other (by decide)), if_neg (other (by decide))]

/-- Attributes with other keys leave the names as they are. -/
theorem claimNames_unread {attributes : List Attribute}
    (unread : ∀ entry ∈ attributes, entry.key ∉ nameKeys) :
    claimNames names attributes = .ok names := by
  induction attributes with
  | nil => rfl
  | cons entry rest ih =>
    rw [claimNames, readClaimNames_unread (unread entry List.mem_cons_self)]
    simp only [Except.bind]
    split
    · rfl
    · exact ih fun other member => unread other (List.mem_cons_of_mem _ member)

/-- A claim without flat attributes gives the names, wherever it stands. -/
theorem claimNames_claim {attributes : List Attribute} {claim : String} {given : ClaimNames}
    (member : (⟨"claim", claim⟩ : Attribute) ∈ attributes)
    (others : ∀ entry ∈ attributes, entry ≠ ⟨"claim", claim⟩ → entry.key ∉ nameKeys)
    (distinct : (attributes.map Attribute.key).Nodup)
    (reads : readClaimNames .empty ⟨"claim", claim⟩ = .ok given) :
    claimNames .empty attributes = .ok given := by
  induction attributes with
  | nil => exact absurd member List.not_mem_nil
  | cons entry rest ih =>
    rw [List.map_cons, List.nodup_cons] at distinct
    have later : ∀ other ∈ rest, other ≠ ⟨"claim", claim⟩ → other.key ∉ nameKeys :=
      fun other inside => others other (List.mem_cons_of_mem _ inside)
    by_cases same : entry = ⟨"claim", claim⟩
    · -- After the claim nothing changes the names any more.
      subst same
      rw [claimNames, reads]
      simp only [Except.bind]
      split
      · rfl
      · exact claimNames_unread fun other inside => later other inside fun same =>
          distinct.1 (List.mem_map.mpr ⟨other, inside, by rw [same]⟩)
    · rw [claimNames, readClaimNames_unread (others entry List.mem_cons_self same)]
      simp only [Except.bind]
      rw [if_neg (by decide)]
      exact ih ((List.mem_cons.mp member).resolve_left fun found => same found.symm) later
        distinct.2

/-- Flat attributes give the names, wherever the loop is left. -/
theorem claimNames_flat {attributes : List Attribute} {supplier app service : String}
    (flat : "claim" ∉ attributes.map Attribute.key)
    (distinct : (attributes.map Attribute.key).Nodup)
    (ofSupplier : Awaits "supplier_operator_address" supplier names.supplier attributes)
    (ofApp : Awaits "application_address" app names.app attributes)
    (ofService : Awaits "service_id" service names.service attributes) :
    claimNames names attributes = .ok ⟨.string supplier, .string app, .string service⟩ := by
  -- The induction carries what each name still waits for.
  induction attributes generalizing names with
  | nil =>
    rw [claimNames, ← ofSupplier.done, ← ofApp.done, ← ofService.done]
  | cons entry rest ih =>
    have nextSupplier : Awaits _ supplier (names.set entry).supplier rest :=
      ofSupplier.step distinct
    have nextApp : Awaits _ app (names.set entry).app rest := ofApp.step distinct
    have nextService : Awaits _ service (names.set entry).service rest := ofService.step distinct
    rw [List.map_cons, List.mem_cons, not_or] at flat
    rw [claimNames, readClaimNames_flat fun same => flat.1 same.symm]
    simp only [Except.bind]
    split
    · -- The loop is left early, but then nothing is waited for.
      rename_i complete
      simp only [ClaimNames.complete, Bool.and_eq_true] at complete
      rw [← nextSupplier.given complete.2, ← nextApp.given complete.1.2,
        ← nextService.given complete.1.1]
    · exact ih flat.2 (List.nodup_cons.mp distinct).2 nextSupplier nextApp nextService

/-- A text stands for itself where it is used in place of a missing one. -/
theorem orEmptyText_string (text : String) : orEmptyText (some (.string text)) = .string text := by
  unfold orEmptyText
  by_cases empty : text = ""
  · subst empty
    rfl
  · simp [truthy, empty]

end Names

/-- The keys of the attributes an event about a claim is read from. -/
def readKeys : List String :=
  ["proof", "claim", "supplier_operator_address", "service_id", "application_address",
    "session_end_block_height", "session_id", "claim_proof_status_int", "num_relays",
    "num_compute_units", "num_claimed_compute_units", "num_estimated_compute_units", "claimed_upokt",
    "settlement_result", "reward_distribution", "reward_distribution_detailed", "settled_upokt",
    "mint_ratio", "supplier_owner_address", "num_estimated_relays", "minted_upokt",
    "overservicing_loss_upokt", "deflation_loss_upokt", "proof_missing_penalty",
    "supplier_stake_after_slash", "failure_reason", "proof_status", "proof_requirement_int",
    "proof_requirement", "expiration_reason"]

/-- Attributes nothing is read from, such as the index of a message. -/
structure Unread (others : List Attribute) : Prop where
  apart : ∀ entry ∈ others, entry.key ∉ readKeys
  distinct : (others.map Attribute.key).Nodup

/-- The attributes beside a claim: later versions of the chain tell the estimated relays. -/
inductive Beside : Option Int → List Attribute → Prop where
  | derived {others : List Attribute} : Unread others → Beside none others
  | told {others : List Attribute} {text : String} {estimate : Int} :
      Unread others → bigInt (replaceQuotes text) = .ok estimate →
        Beside (some estimate) (⟨"num_estimated_relays", text⟩ :: others)

section Further

variable {estimate : Option Int} {others : List Attribute}

/-- A key nothing is read from is the value it is about. -/
theorem topic_of_unread {key : String} (unread : key ∉ readKeys) : topic key = key := by
  have other : ∀ {known : String}, known ∈ readKeys → key ≠ known := fun known same =>
    unread (same ▸ known)
  unfold topic
  rw [if_neg (other (by decide)), if_neg (other (by decide)), if_neg (other (by decide))]

/-- Attributes nothing is read from are about values of their own. -/
theorem Unread.further (unread : Unread others) : Further others := by
  have same : others.map topicOf = others.map Attribute.key :=
    List.map_congr_left fun entry member => topic_of_unread (unread.apart entry member)
  refine ⟨fun entry member listed => ?_, same ▸ unread.distinct⟩
  rw [topicOf, topic_of_unread (unread.apart entry member)] at listed
  exact unread.apart entry member ((by decide : claimTopics ⊆ readKeys) listed)

/-- What stands beside a claim is about values of its own. -/
theorem Beside.further (beside : Beside estimate others) : Further others := by
  cases beside with
  | derived unread => exact unread.further
  | @told rest text _ unread _ =>
    have own : topicOf ⟨"num_estimated_relays", text⟩ = "num_estimated_relays" := rfl
    refine ⟨List.forall_mem_cons.mpr ⟨by rw [own]; decide, unread.further.apart⟩, ?_⟩
    rw [List.map_cons, List.nodup_cons]
    refine ⟨fun listed => ?_, unread.further.distinct⟩
    obtain ⟨entry, member, same⟩ := List.mem_map.mp listed
    rw [topicOf, topic_of_unread (unread.apart entry member)] at same
    exact unread.apart entry member (by rw [same, own]; decide)

/-- Nothing but the estimated relays is read from what stands beside a claim. -/
theorem Beside.unread {α : Type} {keys : List String} {read : Attribute → Except String α}
    {default : α} (beside : Beside estimate others)
    (about : keys.all (fun key => key ∈ readKeys ∧ key ≠ "num_estimated_relays") = true) :
    readAttributes keys read default others = .ok default := by
  have known : ∀ key ∈ keys, key ∈ readKeys ∧ key ≠ "num_estimated_relays" := fun key member => by
    simpa using List.all_eq_true.mp about key member
  cases beside with
  | derived unread =>
    exact readAttributes_apart fun entry member named =>
      unread.apart entry member (known _ named).1
  | @told rest text _ unread _ =>
    refine readAttributes_apart (List.forall_mem_cons.mpr ⟨fun named => ?_, ?_⟩)
    · exact (known _ named).2 rfl
    · exact fun entry member named => unread.apart entry member (known _ named).1

/-- The estimated relays are read where the chain tells them. -/
theorem Beside.tells (beside : Beside estimate others) :
    readAttributes ["num_estimated_relays"]
      (fun entry => (bigInt (replaceQuotes entry.value)).map some) none others = .ok estimate := by
  cases beside with
  | derived unread =>
    exact readAttributes_apart fun entry member named =>
      unread.apart entry member (List.mem_singleton.mp named ▸ by decide)
  | @told rest text told unread reads =>
    rw [readAttributes_cons, if_pos (List.mem_singleton.mpr rfl), reads]
    exact readAttributes_apart fun entry member named =>
      unread.apart entry member (List.mem_singleton.mp named ▸ by decide)

/-- An event tells the counts and the coin of a claim, and the relays the chain estimates. -/
structure EventAttributes.Tell (attributes : EventAttributes) (content : ClaimContent)
    (estimate : Option Int) : Prop where
  numRelays : attributes.numRelays = content.numRelays
  numClaimedComputedUnits : attributes.numClaimedComputedUnits = content.numClaimedComputedUnits
  numEstimatedComputedUnits :
    attributes.numEstimatedComputedUnits = content.numEstimatedComputedUnits
  claimed : attributes.claimed = some content.claimed
  chainNumEstimatedRelays : attributes.chainNumEstimatedRelays = estimate

/-- What stands beside a claim is read, and tells no more than the estimated relays. -/
theorem Beside.furtherAttributes (beside : Beside estimate others) (content : ClaimContent) :
    ∃ told, furtherAttributes others content = .ok told ∧ told.Tell content estimate := by
  unfold Settlement.furtherAttributes
  simp (disch := decide) only [beside.unread, beside.tells]
  exact ⟨_, rfl, rfl, rfl, rfl, rfl, rfl⟩

end Further

/-- The JSON value of a claim names its supplier and its session. -/
structure CreatedClaimJson (content : ClaimContent) (json : Json) : Prop where
  supplier : property json "supplier_operator_address" = .ok (some (.string content.supplier))
  header : ∃ header, property json "session_header" = .ok (some header) ∧
    optionalProperty (some header) "application_address" = some (.string content.application) ∧
    optionalProperty (some header) "service_id" = some (.string content.service) ∧
    optionalProperty (some header) "session_end_block_height" =
      some (.string (toString content.sessionEnd))

/-- Attributes that tell a created claim in the older format, as one JSON value, in any order. -/
structure CreatedOlder (content : ClaimContent) (others attributes : List Attribute) where
  claim : String
  json : Json
  counts : CountTexts
  parsed : Json.parse claim = some json
  isClaim : CreatedClaimJson content json
  spell : counts.Spell content
  listed : attributes.Perm ((⟨"claim", claim⟩ :: counts.attributes) ++ others)

/-- A text between quotes. -/
def quoted (text : String) : String := "\"" ++ text ++ "\""

/-- The flat attributes of a created claim: texts are quoted, and the session has no id. -/
def createdFlat (content : ClaimContent) (sessionEnd status : String) : List Attribute :=
  [⟨"supplier_operator_address", quoted content.supplier⟩,
    ⟨"application_address", quoted content.application⟩, ⟨"service_id", quoted content.service⟩,
    ⟨"session_end_block_height", sessionEnd⟩, ⟨"claim_proof_status_int", status⟩]

/-- Attributes that tell a created claim in the newer format, value by value, in any order: names
hold no quotes, and the status is its number. -/
structure CreatedNewer (content : ClaimContent) (others attributes : List Attribute) where
  sessionEnd : String
  status : String
  counts : CountTexts
  plain : ∀ text ∈ [content.supplier, content.application, content.service], '"' ∉ text.toList
  readsEnd : bigInt (replaceQuotes sessionEnd) = .ok content.sessionEnd
  readsStatus : replaceQuotes status = toString content.status.number
  spell : counts.Spell content
  listed : attributes.Perm ((createdFlat content sessionEnd status ++ counts.attributes) ++ others)

/-- Attributes that tell a created claim in either format. -/
inductive CreatedForm (content : ClaimContent) (estimate : Option Int)
    (attributes : List Attribute) : Prop where
  | older {others : List Attribute} : CreatedOlder content others attributes →
      Beside estimate others → CreatedForm content estimate attributes
  | newer {others : List Attribute} : CreatedNewer content others attributes →
      Beside estimate others → CreatedForm content estimate attributes

section Created

variable {content : ClaimContent} {estimate : Option Int} {others attributes : List Attribute}

/-- What is given of a claim is given before the further attributes. -/
theorem mem_front {front : List Attribute} {entry : Attribute}
    (listed : attributes.Perm (front ++ others)) (further : Further others)
    (member : entry ∈ attributes) (about : topicOf entry ∈ claimTopics) : entry ∈ front := by
  rcases List.mem_append.mp (listed.mem_iff.mp member) with inside | beside
  · exact inside
  · exact absurd about (further.apart entry beside)

/-- Attributes that are about different values have different keys. -/
theorem keys_nodup {front : List Attribute} (listed : attributes.Perm (front ++ others))
    (further : Further others) (claim : front.map topicOf ⊆ claimTopics)
    (distinct : (front.map topicOf).Nodup) : (attributes.map Attribute.key).Nodup := by
  have topics : ((attributes.map Attribute.key).map topic).Nodup := by
    rw [List.map_map]
    exact ((listed.map topicOf).nodup_iff).mpr (further.topics_nodup claim distinct)
  exact topics.of_map

/-- The older format is read: the counts as they are told, and the names of the session. -/
theorem CreatedOlder.reads (form : CreatedOlder content others attributes)
    (beside : Beside estimate others) :
    (∃ told, getAttributes attributes = .ok told ∧ told.Tell content estimate) ∧
      claimNames .empty attributes =
        .ok ⟨.string content.supplier, .string content.application, .string content.service⟩ := by
  have topics : (⟨"claim", form.claim⟩ :: form.counts.attributes).map topicOf = ["claim",
      "num_relays", "num_claimed_compute_units", "num_estimated_compute_units", "claimed_upokt"] := by
    rw [List.map_cons, form.spell.topics]
    rfl
  constructor
  · obtain ⟨told, found, tells⟩ := beside.furtherAttributes content
    rw [getAttributes_claim form.parsed form.spell form.listed beside.further, found]
    exact ⟨_, rfl, tells.numRelays, tells.numClaimedComputedUnits, tells.numEstimatedComputedUnits,
      tells.claimed, tells.chainNumEstimatedRelays⟩
  · have member : (⟨"claim", form.claim⟩ : Attribute) ∈ attributes :=
      form.listed.mem_iff.mpr (by simp)
    have absent : ∀ entry ∈ attributes, entry ≠ ⟨"claim", form.claim⟩ → entry.key ∉ nameKeys := by
      intro entry inside other named
      have about : topicOf entry ∈ claimTopics :=
        (by decide : ∀ key ∈ nameKeys, topic key ∈ claimTopics) _ named
      -- Beside the claim only its counts are left, and they name nothing.
      rcases List.mem_cons.mp (mem_front form.listed beside.further inside about) with same | count
      · exact other same
      · have counted : topicOf entry ∈ form.counts.attributes.map topicOf :=
          List.mem_map_of_mem count
        rw [form.spell.topics] at counted
        exact (by decide : ∀ key ∈ nameKeys, topic key ∉ ["num_relays",
          "num_claimed_compute_units", "num_estimated_compute_units", "claimed_upokt"]) _ named
          counted
    have distinct := keys_nodup form.listed beside.further (by rw [topics]; decide)
      (by rw [topics]; decide)
    obtain ⟨header, found, application, service, -⟩ := form.isClaim.header
    refine claimNames_claim member absent distinct ?_
    simp [readClaimNames, parseJson, form.parsed, found, form.isClaim.supplier, application, service,
      orEmptyText_string, bind, Except.bind, pure, Except.pure]

/-- A text without quotes is what its quoted form denotes. -/
theorem replaceQuotes_quoted {text : String} (plain : '"' ∉ text.toList) :
    replaceQuotes (quoted text) = text := by
  have kept : text.toList.filter (· ≠ '"') = text.toList :=
    List.filter_eq_self.mpr fun char member => decide_eq_true fun same => plain (same ▸ member)
  rw [replaceQuotes, quoted, String.toList_append, String.toList_append, List.filter_append,
    List.filter_append, kept]
  simp

/-- The claim that is pieced together from the flat attributes of a created one. -/
def createdJson (content : ClaimContent) : Json :=
  .object [("session_header", .object [("service_id", .string content.service),
      ("application_address", .string content.application),
      ("session_end_block_height", .number (toString content.sessionEnd)),
      ("session_start_block_height", .number "0"), ("session_id", .string "")]),
    ("supplier_operator_address", .string content.supplier),
    ("proof_validation_status", .number (toString content.status.number))]

/-- The newer format is read: the counts as they are told, and the names of the session. -/
theorem CreatedNewer.reads (form : CreatedNewer content others attributes)
    (beside : Beside estimate others) :
    (∃ told, getAttributes attributes = .ok told ∧ told.Tell content estimate) ∧
      claimNames .empty attributes =
        .ok ⟨.string content.supplier, .string content.application, .string content.service⟩ := by
  have topics : (createdFlat content form.sessionEnd form.status).map topicOf =
      ["supplier_operator_address", "application_address", "service_id",
        "session_end_block_height", "proof_status"] := rfl
  have supplier := replaceQuotes_quoted (form.plain content.supplier (by simp))
  have application := replaceQuotes_quoted (form.plain content.application (by simp))
  have service := replaceQuotes_quoted (form.plain content.service (by simp))
  constructor
  · -- The flat attributes spell a claim of their own, which is taken as none is told.
    have number : flatStatus ⟨"claim_proof_status_int", form.status⟩ = content.status.number := by
      rw [flatStatus, form.readsStatus, claimProofStatusFromJSON_number]
    have status : readProofStatus ⟨"claim_proof_status_int", form.status⟩ =
        .ok content.status.fromNumber := by
      rw [readProofStatus, if_pos rfl, number]
      exact getClaimProofStatusFromSDK_number content.status
    have readFlat : newClaim (createdFlat content form.sessionEnd form.status) =
        .ok (createdJson content) := by
      unfold newClaim
      simp [createdFlat, readAttributes, form.readsEnd, number, supplier, application, service,
        optionalField, createdJson, bind, Except.bind, pure, Except.pure, Except.map]
      rfl
    -- The status is asked for once more, under either of its names.
    have readStatus : readAttributes ["claim_proof_status_int", "proof_status"] readProofStatus none
        (createdFlat content form.sessionEnd form.status) = .ok content.status.fromNumber := by
      simp [createdFlat, readAttributes, status, bind, Except.bind, pure, Except.pure]
    have chosen : chooseClaim (.object []) (createdJson content) = createdJson content := by
      simp [chooseClaim, createdJson, isEmpty]
    obtain ⟨told, found, tells⟩ := beside.furtherAttributes content
    rw [getAttributes_flat (by rw [topics]; decide) (by rw [topics]; decide) form.spell form.listed
      beside.further readFlat readStatus chosen, found]
    exact ⟨_, rfl, tells.numRelays, tells.numClaimedComputedUnits, tells.numEstimatedComputedUnits,
      tells.claimed, tells.chainNumEstimatedRelays⟩
  · -- The names come from three attributes, each told once and in quotes.
    have whole : (createdFlat content form.sessionEnd form.status ++
        form.counts.attributes).map topicOf = ["supplier_operator_address", "application_address",
          "service_id", "session_end_block_height", "proof_status", "num_relays",
          "num_claimed_compute_units", "num_estimated_compute_units", "claimed_upokt"] := by
      rw [List.map_append, topics, form.spell.topics]
      rfl
    have distinct := keys_nodup form.listed beside.further (by rw [whole]; decide)
      (by rw [whole]; decide)
    -- No attribute tells a claim, so the names are not looked for in one.
    have noClaim : "claim" ∉ attributes.map Attribute.key := by
      intro listed
      obtain ⟨entry, member, key⟩ := List.mem_map.mp listed
      have own : topicOf entry = "claim" := by
        rw [topicOf, key]
        rfl
      have front := mem_front form.listed beside.further member (by rw [own]; decide)
      have given := List.mem_map_of_mem (f := topicOf) front
      rw [own, whole] at given
      exact absurd given (by decide)
    have given : ∀ entry ∈ createdFlat content form.sessionEnd form.status, entry ∈ attributes :=
      fun entry member => form.listed.mem_iff.mpr (by simp [member])
    exact claimNames_flat noClaim distinct
      (Or.inl ⟨rfl, _, given _ (by simp [createdFlat]), supplier⟩)
      (Or.inl ⟨rfl, _, given _ (by simp [createdFlat]), application⟩)
      (Or.inl ⟨rfl, _, given _ (by simp [createdFlat]), service⟩)

/-- An event of a created claim is read in either format. -/
theorem CreatedForm.reads (form : CreatedForm content estimate attributes) :
    (∃ told, getAttributes attributes = .ok told ∧ told.Tell content estimate) ∧
      claimNames .empty attributes =
        .ok ⟨.string content.supplier, .string content.application, .string content.service⟩ := by
  cases form with
  | older form beside => exact form.reads beside
  | newer form beside => exact form.reads beside

end Created

/-- What a record takes from an event. -/
structure ClaimCounts where
  numRelays : Int
  numEstimatedRelays : Option Int
  numClaimedComputedUnits : Int
  numEstimatedComputedUnits : Int
  claimedDenom : String
  claimedAmount : Int
  deriving DecidableEq, Repr

/-- What a record has taken from an event. -/
def MsgCreateClaimProps.counts (record : MsgCreateClaimProps) : ClaimCounts where
  numRelays := record.numRelays
  numEstimatedRelays := some record.numEstimatedRelays
  numClaimedComputedUnits := record.numClaimedComputedUnits
  numEstimatedComputedUnits := record.numEstimatedComputedUnits
  claimedDenom := record.claimedDenom
  claimedAmount := record.claimedAmount

/-- A message that creates a claim, and the event of its session. -/
structure CreatedClaim where
  idx : ℕ
  supplier : String
  header : SessionHeader
  event : ResultEvent
  content : ClaimContent
  estimate : Option Int
  told : isClaimEvent event = true
  form : CreatedForm content estimate event.attributes
  ofSupplier : content.supplier = supplier
  ofApplication : content.application = header.applicationAddress
  ofService : content.service = header.serviceId
  ofSession : content.sessionEnd = header.sessionEndBlockHeight
  numRelays : |content.numRelays| < 2 ^ 64
  numClaimed : |content.numClaimedComputedUnits| < 2 ^ 64
  numEstimated : |content.numEstimatedComputedUnits| < 2 ^ 64
  amount : IsDecimal content.claimed.amount

namespace CreatedClaim

/-- What a claim is looked up by. -/
def key (claim : CreatedClaim) : String × String × String :=
  (claim.header.serviceId, claim.header.applicationAddress, claim.supplier)

/-- What tells a claim from all others. -/
def session (claim : CreatedClaim) : (String × String × String) × Int :=
  (claim.key, claim.header.sessionEndBlockHeight)

/-- The message of a claim inside a transaction. -/
def message (tx : ClaimTransaction) (height : ℕ) (claim : CreatedClaim) : CreateClaimMessage :=
  ⟨claim.idx, height, tx, ⟨claim.supplier, some claim.header⟩⟩

/-- What the event of the claim's own session tells. -/
def counts (claim : CreatedClaim) : ClaimCounts where
  numRelays := claim.content.numRelays
  numEstimatedRelays := (_computeNumEstimatedRelays claim.estimate
    claim.content.numEstimatedComputedUnits claim.content.numClaimedComputedUnits
    claim.content.numRelays).toOption
  numClaimedComputedUnits := claim.content.numClaimedComputedUnits
  numEstimatedComputedUnits := claim.content.numEstimatedComputedUnits
  claimedDenom := claim.content.claimed.denom
  claimedAmount := decimalValue claim.content.claimed.amount

/-- The event of a claim is taken for the one of every claim with the same key, and of no other. -/
theorem isEventOf_event (claim : CreatedClaim) (service application supplier : String) :
    isEventOf service application supplier claim.event =
      .ok (decide (claim.key = (service, application, supplier))) := by
  unfold isEventOf
  rw [if_pos claim.told, claim.form.reads.2]
  simp only [Except.map, isText, claim.ofSupplier, claim.ofApplication, claim.ofService, key,
    Prod.mk.injEq, Bool.decide_and, Bool.and_assoc]

/-- A record that is built from what the event of a claim tells has the counts of that event. -/
theorem claimRecord_told (claim : CreatedClaim) (msg : CreateClaimMessage) {told : EventAttributes}
    (tells : told.Tell claim.content claim.estimate) :
    ∃ record, claimRecord msg told = .ok record ∧ record.counts = claim.counts := by
  obtain ⟨relays, estimated⟩ :=
    computeNumEstimatedRelays_ok claim.numEstimated claim.numClaimed claim.numRelays
  have amount : bigInt (orZero ((told.claimed.map Coin.amount).getD "")) =
      .ok (decimalValue claim.content.claimed.amount : Int) := by
    rw [bigInt_orZero, tells.claimed]
    exact bigInt_decimal claim.amount
  have relaysTold : _computeNumEstimatedRelays told.chainNumEstimatedRelays
      told.numEstimatedComputedUnits told.numClaimedComputedUnits told.numRelays = .ok relays := by
    rw [tells.numRelays, tells.numClaimedComputedUnits, tells.numEstimatedComputedUnits,
      tells.chainNumEstimatedRelays]
    exact estimated
  unfold claimRecord
  rw [relaysTold, amount]
  refine ⟨_, rfl, ?_⟩
  simp only [MsgCreateClaimProps.counts, counts, estimated, tells.numRelays,
    tells.numClaimedComputedUnits, tells.numEstimatedComputedUnits, tells.claimed, Except.toOption,
    Option.map_some, Option.getD_some]

end CreatedClaim

/-- A transaction creates claims of different sessions, and its events about claims are theirs. -/
structure CreatesClaims (tx : ClaimTransaction) (claims : List CreatedClaim) : Prop where
  events : (tx.events.filter isClaimEvent).Perm (claims.map CreatedClaim.event)
  distinct : (claims.map CreatedClaim.session).Nodup

section Lookup

variable {tx : ClaimTransaction} {claims : List CreatedClaim} {claim : CreatedClaim}

/-- A claim takes its counts from the event of some claim with its key, the same one for each of
them. -/
theorem handled_by_key (height : ℕ) (created : CreatesClaims tx claims) (member : claim ∈ claims) :
    ∃ other ∈ claims, other.key = claim.key ∧
      ∀ one ∈ claims, one.key = claim.key → ∃ record,
        _handleMsgCreateClaim (one.message tx height) = .ok record ∧
          record.counts = other.counts := by
  -- Every event of the transaction is one of a claim, or it is about something else.
  have owner : ∀ event ∈ tx.events, isClaimEvent event = true →
      ∃ other ∈ claims, other.event = event := by
    intro event inside told
    have listed := created.events.mem_iff.mp (List.mem_filter.mpr ⟨inside, told⟩)
    exact List.mem_map.mp listed
  have own : claim.event ∈ tx.events :=
    (List.mem_filter.mp (created.events.mem_iff.mpr (List.mem_map_of_mem member))).1
  have checked : ∀ event ∈ tx.events, ∃ found,
      isEventOf claim.key.1 claim.key.2.1 claim.key.2.2 event = .ok found := by
    intro event inside
    by_cases told : isClaimEvent event = true
    · obtain ⟨other, -, rfl⟩ := owner event inside told
      exact ⟨_, other.isEventOf_event _ _ _⟩
    · exact ⟨false, by rw [isEventOf, if_neg told]⟩
  rcases findM?_of_ok checked with ⟨-, none⟩ | ⟨event, inside, found, taken⟩
  · -- The claim's own event would have been found.
    have missed := none _ own
    rw [claim.isEventOf_event] at missed
    simp at missed
  · have told : isClaimEvent event = true := by
      by_contra other
      rw [isEventOf, if_neg other] at taken
      cases taken
    obtain ⟨other, listed, rfl⟩ := owner event inside told
    rw [other.isEventOf_event] at taken
    have same : other.key = claim.key := of_decide_eq_true (Except.ok.inj taken)
    refine ⟨other, listed, same, fun one _ shared => ?_⟩
    obtain ⟨attributes, read, tells⟩ := other.form.reads.1
    obtain ⟨record, built, counts⟩ := other.claimRecord_told (one.message tx height) tells
    refine ⟨record, ?_, counts⟩
    rw [← shared] at found
    unfold _handleMsgCreateClaim
    have looked : (one.message tx height).tx.events.findM? (isEventOf
        (((one.message tx height).decodedMsg.sessionHeader.map SessionHeader.serviceId).getD "")
        (((one.message tx height).decodedMsg.sessionHeader.map
          SessionHeader.applicationAddress).getD "")
        (one.message tx height).decodedMsg.supplierOperatorAddress) = .ok (some other.event) := found
    simp only [looked, read, bind, Except.bind, built]

/-- The records of the claims that a transaction creates have the counts of their own sessions. -/
def ClaimsAttributed (tx : ClaimTransaction) (height : ℕ) (claims : List CreatedClaim) : Prop :=
  ∃ records, (claims.map (CreatedClaim.message tx height)).mapM _handleMsgCreateClaim =
    .ok records ∧ records.map MsgCreateClaimProps.counts = claims.map CreatedClaim.counts

/-- The messages are handled claim by claim. -/
theorem handled_claims (tx : ClaimTransaction) (height : ℕ) (claims : List CreatedClaim) :
    (claims.map (CreatedClaim.message tx height)).mapM _handleMsgCreateClaim =
      claims.mapM fun claim => _handleMsgCreateClaim (claim.message tx height) :=
  List.mapM_map

/-- Where all records have the counts of their sessions, claims with one key tell the same. -/
theorem ClaimsAttributed.agree {height : ℕ} (attributed : ClaimsAttributed tx height claims)
    (created : CreatesClaims tx claims) {one other : CreatedClaim} (oneIn : one ∈ claims)
    (otherIn : other ∈ claims) (shared : one.key = other.key) : one.counts = other.counts := by
  obtain ⟨records, ran, same⟩ := attributed
  rw [handled_claims] at ran
  -- Both records are built from the event of one and the same claim.
  obtain ⟨owner, -, -, each⟩ := handled_by_key height created oneIn
  obtain ⟨first, firstBuilt, firstCounts⟩ := each one oneIn rfl
  obtain ⟨second, secondBuilt, secondCounts⟩ := each other otherIn shared.symm
  obtain ⟨record, built, counts⟩ := field_of_mapM_ok ran same oneIn
  obtain ⟨further, furtherBuilt, furtherCounts⟩ := field_of_mapM_ok ran same otherIn
  rw [firstBuilt, Except.ok.injEq] at built
  rw [secondBuilt, Except.ok.injEq] at furtherBuilt
  rw [← counts, ← furtherCounts, ← built, ← furtherBuilt, firstCounts, secondCounts]

/-- The records of a transaction's claims have the counts of their own sessions exactly when the
events of one supplier, application and service all tell the same. -/
theorem createdClaims_attributed_iff (created : CreatesClaims tx claims) (height : ℕ) :
    ClaimsAttributed tx height claims ↔
      ∀ one ∈ claims, ∀ other ∈ claims, one.key = other.key → one.counts = other.counts := by
  constructor
  · intro attributed one oneIn other otherIn shared
    exact attributed.agree created oneIn otherIn shared
  · intro agree
    unfold ClaimsAttributed
    rw [handled_claims]
    refine exists_mapM_ok fun claim member => ?_
    obtain ⟨owner, ownerIn, shared, each⟩ := handled_by_key height created member
    obtain ⟨record, built, counts⟩ := each claim member rfl
    exact ⟨record, built, counts.trans (agree owner ownerIn claim member shared)⟩

/-- A record belongs to the block of its message. -/
theorem record_blockId {msg : CreateClaimMessage} {record : MsgCreateClaimProps}
    (handled : _handleMsgCreateClaim msg = .ok record) : record.blockId = msg.height := by
  unfold _handleMsgCreateClaim at handled
  obtain ⟨event, -, rest⟩ := exceptBind_ok handled
  cases event with
  | none => cases rest
  | some event =>
    obtain ⟨attributes, -, built⟩ := exceptBind_ok rest
    obtain ⟨relays, -, amounts⟩ := exceptBind_ok built
    obtain ⟨amount, -, made⟩ := exceptBind_ok amounts
    cases made
    rfl

/-- What is stored of a block is the records of its messages. -/
theorem handleMsgCreateClaim_stores {height : ℕ} {messages : List CreateClaimMessage}
    {task : Task (Statement (Row MsgCreateClaimProps))}
    {trace : List (Statement (Row MsgCreateClaimProps))}
    {table : Table fun _ : Row MsgCreateClaimProps => (none : Option Unit)}
    (ofBlock : ∀ msg ∈ messages, msg.height = height) (some : messages ≠ [])
    (handled : handleMsgCreateClaim height messages = .ok task) (run : Trace task trace) :
    ∃ records, messages.mapM _handleMsgCreateClaim = .ok records ∧
      (table.execute trace).Holds (removes height .blockId)
        (records.map fun record => stamp height ⟨record, record.blockId, none⟩) := by
  obtain ⟨records, ran, made⟩ := exceptBind_ok handled
  cases made
  rw [optimizedBulkCreate_eq_writeRows _ _ (by simp)] at run
  refine ⟨records, ran, ?_⟩
  have own : ∀ record ∈ records, record.blockId = height := by
    intro record member
    obtain ⟨msg, inside, built⟩ := mem_of_mapM_ok ran member
    exact (record_blockId built).trans (ofBlock msg inside)
  -- The batches hold all the records, stamped with the height.
  have rows : (fillBatches BATCH_SIZE [] ((records.map fun record : MsgCreateClaimProps =>
      (⟨record, record.blockId, none⟩ : Doc MsgCreateClaimProps)).map (stamp height))).flatten =
        records.map fun record => stamp height ⟨record, record.blockId, none⟩ := by
    rw [fillBatches_nil_flatten, List.map_map]
    rfl
  rw [← rows]
  refine Table.writeRows_holds run ?_ ?_ ?_
  · rw [rows]
    intro row member
    obtain ⟨record, inside, rfl⟩ := List.mem_map.mp member
    simp [removes, stamp, own record inside]
  · simp
  · -- Every message leaves a record, so that there is something to write.
    rw [rows]
    intro none
    have length := (mapM_ok ran).length_eq
    rw [List.map_eq_nil_iff.mp none] at length
    exact absurd (List.length_eq_zero_iff.mp length) some

end Lookup

/-- The counts of one of two sessions. -/
def createdCounts (later : Bool) : CountTexts where
  claimedKey := "num_claimed_compute_units"
  numRelays := if later then "\"7\"" else "\"5\""
  numClaimed := if later then "\"70\"" else "\"50\""
  numEstimated := if later then "\"140\"" else "\"100\""
  claimed := if later then "\"700upokt\"" else "\"500upokt\""

/-- A claim of one of two sessions for one of two services. -/
def createdContent (other later : Bool) : ClaimContent where
  supplier := "sup"
  application := "app"
  service := if other then "eth" else "svc"
  sessionId := ""
  sessionEnd := if later then 20 else 10
  status := .pendingValidation
  numRelays := if later then 7 else 5
  numClaimedComputedUnits := if later then 70 else 50
  numEstimatedComputedUnits := if later then 140 else 100
  claimed := if later then ⟨"700", "upokt"⟩ else ⟨"500", "upokt"⟩

/-- The event of the claim, in the newer format. -/
def createdEvent (other later : Bool) : ResultEvent where
  type := "pocket.proof.EventClaimCreated"
  attributes := (createdFlat (createdContent other later) (if later then "\"20\"" else "\"10\"")
    "0" ++ (createdCounts later).attributes) ++ [⟨"msg_index", "0"⟩]

/-- The counts are spelled. -/
theorem createdSpell (other later : Bool) :
    (createdCounts later).Spell (createdContent other later) := by
  cases later
  · exact ⟨Or.inr rfl,
      (ok_of_toOption (by decide +kernel) : bigInt (replaceQuotes "\"5\"") = .ok 5),
      (ok_of_toOption (by decide +kernel) : bigInt (replaceQuotes "\"50\"") = .ok 50),
      (ok_of_toOption (by decide +kernel) : bigInt (replaceQuotes "\"100\"") = .ok 100),
      (ok_of_toOption (by decide +kernel) :
        getDenomAndAmount "\"500upokt\"" = .ok ⟨"500", "upokt"⟩)⟩
  · exact ⟨Or.inr rfl,
      (ok_of_toOption (by decide +kernel) : bigInt (replaceQuotes "\"7\"") = .ok 7),
      (ok_of_toOption (by decide +kernel) : bigInt (replaceQuotes "\"70\"") = .ok 70),
      (ok_of_toOption (by decide +kernel) : bigInt (replaceQuotes "\"140\"") = .ok 140),
      (ok_of_toOption (by decide +kernel) :
        getDenomAndAmount "\"700upokt\"" = .ok ⟨"700", "upokt"⟩)⟩

/-- The event tells the claim. -/
theorem createdForm (other later : Bool) :
    CreatedForm (createdContent other later) none (createdEvent other later).attributes := by
  have form : CreatedNewer (createdContent other later) [⟨"msg_index", "0"⟩]
      (createdEvent other later).attributes := {
    sessionEnd := if later then "\"20\"" else "\"10\""
    status := "0"
    counts := createdCounts later
    plain := by cases other <;> cases later <;> decide
    readsEnd := by
      cases later
      · exact (ok_of_toOption (by decide +kernel) : bigInt (replaceQuotes "\"10\"") = .ok 10)
      · exact (ok_of_toOption (by decide +kernel) : bigInt (replaceQuotes "\"20\"") = .ok 20)
    readsStatus := by cases other <;> cases later <;> decide
    spell := createdSpell other later
    listed := List.Perm.refl _ }
  exact .newer form (.derived ⟨by decide, by decide⟩)

/-- The claim with its message. -/
def createdClaim (other later : Bool) : CreatedClaim where
  idx := if later then 1 else 0
  supplier := "sup"
  header := {
    applicationAddress := "app"
    serviceId := if other then "eth" else "svc"
    sessionId := if later then "second" else "first"
    sessionStartBlockHeight := if later then 11 else 1
    sessionEndBlockHeight := if later then 20 else 10 }
  event := createdEvent other later
  content := createdContent other later
  estimate := none
  told := rfl
  form := createdForm other later
  ofSupplier := rfl
  ofApplication := rfl
  ofService := rfl
  ofSession := rfl
  numRelays := by cases other <;> cases later <;> decide
  numClaimed := by cases other <;> cases later <;> decide
  numEstimated := by cases other <;> cases later <;> decide
  amount := by cases other <;> cases later <;> decide

/-- A transaction that creates two claims. -/
def createdTransaction (first second : CreatedClaim) : ClaimTransaction :=
  ⟨"tx", [⟨"message", []⟩, first.event, second.event]⟩

/-- Two claims of different sessions are created together. -/
theorem createdTransaction_creates {first second : CreatedClaim}
    (distinct : first.session ≠ second.session) :
    CreatesClaims (createdTransaction first second) [first, second] where
  events := by
    rw [createdTransaction, List.filter_cons_of_neg (by decide),
      List.filter_cons_of_pos first.told, List.filter_cons_of_pos second.told]
    exact List.Perm.refl _
  distinct := by simpa using distinct

/-- Two claims for different services take their own counts. -/
theorem createdClaims_attributed_services :
    ClaimsAttributed (createdTransaction (createdClaim false false) (createdClaim true true)) 12
      [createdClaim false false, createdClaim true true] := by
  refine (createdClaims_attributed_iff (createdTransaction_creates (by decide)) 12).mpr ?_
  intro one oneIn other otherIn shared
  simp only [List.mem_cons, List.not_mem_nil, or_false] at oneIn otherIn
  rcases oneIn with rfl | rfl
  · rcases otherIn with rfl | rfl
    · rfl
    · exact absurd shared (by decide)
  · rcases otherIn with rfl | rfl
    · exact absurd shared (by decide)
    · rfl

/-- Of two sessions of one application, supplier and service, the later one takes the counts of the
earlier one. -/
theorem createdClaims_mixed :
    CreatesClaims (createdTransaction (createdClaim false false) (createdClaim false true))
      [createdClaim false false, createdClaim false true] ∧
    ¬ClaimsAttributed (createdTransaction (createdClaim false false) (createdClaim false true)) 12
      [createdClaim false false, createdClaim false true] := by
  have created := createdTransaction_creates
    (by decide : (createdClaim false false).session ≠ (createdClaim false true).session)
  refine ⟨created, fun attributed => ?_⟩
  have same := attributed.agree created (by simp) (by simp)
    (by decide : (createdClaim false false).key = (createdClaim false true).key)
  exact absurd (congrArg ClaimCounts.numRelays same) (by decide)

end Pocketdex.Settlement
