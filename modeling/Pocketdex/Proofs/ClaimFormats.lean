import Mathlib.Data.List.Perm.Basic
import Pocketdex.Base.Except
import Pocketdex.Pocket.Settlement

/-! The older and the newer format of the events about a claim, and when they are read alike. -/

namespace Pocketdex.Settlement

/-- The value an attribute is about, which versions of the chain name differently. -/
def topic (key : String) : String :=
  if key = "num_compute_units" then "num_claimed_compute_units"
  else if key = "proof_requirement_int" then "proof_requirement"
  else if key = "claim_proof_status_int" then "proof_status"
  else key

/-- The value an attribute is about. -/
def topicOf (entry : Attribute) : String := topic entry.key

/-- Whether keys are about one value. -/
def oneTopic (keys : List String) : Bool :=
  match keys with
  | [] => true
  | key :: rest => rest.all fun other => topic other = topic key

section Reading

variable {α : Type} {keys : List String} {read : Attribute → Except String α} {default : α}

/-- Attributes are read one after the other. -/
theorem readAttributes_cons (entry : Attribute) (rest : List Attribute) :
    readAttributes keys read default (entry :: rest) =
      (if entry.key ∈ keys then read entry else .ok default).bind fun value =>
        readAttributes keys read value rest :=
  rfl

/-- The attributes of two lists are read one list after the other. -/
theorem readAttributes_append (first second : List Attribute) :
    readAttributes keys read default (first ++ second) =
      (readAttributes keys read default first).bind fun value =>
        readAttributes keys read value second := by
  unfold readAttributes
  rw [List.foldlM_append]
  rfl

/-- Attributes with other keys leave the default. -/
theorem readAttributes_apart {attributes : List Attribute}
    (apart : ∀ entry ∈ attributes, entry.key ∉ keys) :
    readAttributes keys read default attributes = .ok default := by
  induction attributes with
  | nil => rfl
  | cons entry rest ih =>
    rw [readAttributes_cons, if_neg (apart entry List.mem_cons_self)]
    exact ih fun other member => apart other (List.mem_cons_of_mem _ member)

/-- Attributes about other values leave the default. -/
theorem readAttributes_off {attributes : List Attribute}
    (off : ∀ key ∈ keys, topic key ∉ attributes.map topicOf) :
    readAttributes keys read default attributes = .ok default :=
  readAttributes_apart fun _ member named => off _ named (List.mem_map_of_mem member)

/-- Attributes about other values add nothing before the others. -/
theorem readAttributes_off_left {first second : List Attribute}
    (off : ∀ key ∈ keys, topic key ∉ first.map topicOf) :
    readAttributes keys read default (first ++ second) = readAttributes keys read default second := by
  rw [readAttributes_append, readAttributes_off off]
  rfl

/-- Attributes about other values add nothing after the others. -/
theorem readAttributes_off_right {first second : List Attribute}
    (off : ∀ key ∈ keys, topic key ∉ second.map topicOf) :
    readAttributes keys read default (first ++ second) = readAttributes keys read default first := by
  have none : ∀ value, readAttributes keys read value second = .ok value := fun value =>
    readAttributes_off off
  rw [readAttributes_append]
  simp only [none]
  cases readAttributes keys read default first <;> rfl

/-- Only the attributes with one of the keys are read. -/
theorem readAttributes_filter (attributes : List Attribute) :
    readAttributes keys read default attributes =
      readAttributes keys read default (attributes.filter fun entry => entry.key ∈ keys) := by
  induction attributes generalizing default with
  | nil => rfl
  | cons entry rest ih =>
    by_cases named : entry.key ∈ keys
    · rw [List.filter_cons_of_pos (by simpa using named), readAttributes_cons, readAttributes_cons]
      congr 1
      funext value
      exact ih
    · rw [List.filter_cons_of_neg (by simpa using named), readAttributes_cons, if_neg named]
      exact ih

/-- At most one attribute is about the value of some keys. -/
theorem filter_length_le_one {attributes : List Attribute}
    (distinct : (attributes.map topicOf).Nodup) (one : oneTopic keys = true) :
    (attributes.filter fun entry => entry.key ∈ keys).length ≤ 1 := by
  cases keys with
  | nil => simp
  | cons key rest =>
    -- All that is left has the topic of the first key.
    have about : ∀ entry ∈ attributes.filter (fun entry => entry.key ∈ key :: rest),
        topicOf entry = topic key := by
      intro entry member
      have named : entry.key ∈ key :: rest := by simpa using (List.mem_filter.mp member).2
      rcases List.mem_cons.mp named with same | other
      · rw [topicOf, same]
      · simpa [topicOf] using List.all_eq_true.mp one _ other
    have kept : ((attributes.filter fun entry => entry.key ∈ key :: rest).map topicOf).Sublist
        (attributes.map topicOf) :=
      List.filter_sublist.map _
    have nodup := distinct.sublist kept
    rw [List.map_congr_left about, List.map_const', List.nodup_replicate] at nodup
    exact nodup

/-- Reading does not depend on the order of attributes that are about different values. -/
theorem readAttributes_perm {attributes others : List Attribute} (same : attributes.Perm others)
    (distinct : (others.map topicOf).Nodup) (one : oneTopic keys = true) :
    readAttributes keys read default attributes = readAttributes keys read default others := by
  rw [readAttributes_filter attributes, readAttributes_filter others]
  have left := same.filter fun entry => decide (entry.key ∈ keys)
  have short := filter_length_le_one distinct one
  rw [show attributes.filter (fun entry => decide (entry.key ∈ keys)) =
    others.filter fun entry => decide (entry.key ∈ keys) from ?_]
  cases listed : others.filter fun entry => decide (entry.key ∈ keys) with
  | nil =>
    rw [listed] at left
    exact left.eq_nil
  | cons entry rest =>
    rw [listed, List.length_cons] at short
    have nothing : rest = [] := List.length_eq_zero_iff.mp (by omega)
    rw [listed, nothing] at left
    rw [nothing]
    exact List.perm_singleton.mp left

end Reading

/-- What an event about a claim says does not depend on the order of its attributes. -/
theorem getAttributes_perm {attributes others : List Attribute} (same : attributes.Perm others)
    (distinct : (others.map topicOf).Nodup) :
    getAttributes attributes = getAttributes others := by
  unfold getAttributes newClaim
  simp (disch := decide) only [readAttributes_perm same distinct]

/-- What a claim is about: its session and its supplier, how far its proof is validated, its counts,
and the coin that is claimed. -/
structure ClaimContent where
  supplier : String
  application : String
  service : String
  sessionId : String
  sessionEnd : Int
  status : ClaimProofStatus
  numRelays : Int
  numClaimedComputedUnits : Int
  numEstimatedComputedUnits : Int
  claimed : Coin

/-- The number of a status. -/
def ClaimProofStatus.number : ClaimProofStatus → ℕ
  | pendingValidation => 0
  | validated => 1
  | invalid => 2

/-- The name of a status. -/
def ClaimProofStatus.name : ClaimProofStatus → String
  | pendingValidation => "PENDING_VALIDATION"
  | validated => "VALIDATED"
  | invalid => "INVALID"

/-- The texts of the counts and of the coin, which both formats carry alike. -/
structure CountTexts where
  claimedKey : String
  numRelays : String
  numClaimed : String
  numEstimated : String
  claimed : String

/-- The attributes of the counts and of the coin. -/
def CountTexts.attributes (texts : CountTexts) : List Attribute :=
  [⟨"num_relays", texts.numRelays⟩, ⟨texts.claimedKey, texts.numClaimed⟩,
    ⟨"num_estimated_compute_units", texts.numEstimated⟩, ⟨"claimed_upokt", texts.claimed⟩]

/-- The texts spell the counts and the coin of a claim. -/
structure CountTexts.Spell (texts : CountTexts) (content : ClaimContent) : Prop where
  claimedKey : texts.claimedKey = "num_compute_units" ∨ texts.claimedKey = "num_claimed_compute_units"
  numRelays : bigInt (replaceQuotes texts.numRelays) = .ok content.numRelays
  numClaimed : bigInt (replaceQuotes texts.numClaimed) = .ok content.numClaimedComputedUnits
  numEstimated : bigInt (replaceQuotes texts.numEstimated) = .ok content.numEstimatedComputedUnits
  claimed : getDenomAndAmount texts.claimed = .ok content.claimed

/-- A JSON value is a claim with some content. -/
structure ClaimJson (content : ClaimContent) (json : Json) : Prop where
  supplier : property json "supplier_operator_address" = .ok (some (.string content.supplier))
  status : property json "proof_validation_status" = .ok (some (.string content.status.name))
  header : ∃ header, property json "session_header" = .ok (some header) ∧
    optionalProperty (some header) "application_address" = some (.string content.application) ∧
    optionalProperty (some header) "service_id" = some (.string content.service) ∧
    optionalProperty (some header) "session_id" = some (.string content.sessionId) ∧
    optionalProperty (some header) "session_end_block_height" =
      some (.string (toString content.sessionEnd)) ∧
    ∃ start : Int, optionalProperty (some header) "session_start_block_height" =
      some (.string (toString start))

/-- The values only the attributes of a claim are about. -/
def claimTopics : List String :=
  ["claim", "supplier_operator_address", "service_id", "application_address",
    "session_end_block_height", "session_id", "proof_status", "num_relays",
    "num_claimed_compute_units", "num_estimated_compute_units", "claimed_upokt"]

/-- Further attributes of an event, which are about values of their own. -/
structure Further (others : List Attribute) : Prop where
  apart : ∀ entry ∈ others, topicOf entry ∉ claimTopics
  distinct : (others.map topicOf).Nodup

/-- Attributes that give a claim in the older format, as one JSON value, in any order. -/
structure OlderForm (content : ClaimContent) (others attributes : List Attribute) where
  claim : String
  json : Json
  counts : CountTexts
  parsed : Json.parse claim = some json
  isClaim : ClaimJson content json
  spell : counts.Spell content
  listed : attributes.Perm ((⟨"claim", claim⟩ :: counts.attributes) ++ others)

/-- The texts of a claim in the newer format. -/
structure FlatTexts where
  supplier : String
  application : String
  service : String
  sessionId : String
  sessionEnd : String
  status : String

/-- The attributes of a claim in the newer format. -/
def FlatTexts.attributes (texts : FlatTexts) : List Attribute :=
  [⟨"supplier_operator_address", texts.supplier⟩, ⟨"application_address", texts.application⟩,
    ⟨"service_id", texts.service⟩, ⟨"session_id", texts.sessionId⟩,
    ⟨"session_end_block_height", texts.sessionEnd⟩, ⟨"claim_proof_status_int", texts.status⟩]

/-- Attributes that give a claim in the newer format, value by value, in any order: texts are JSON
strings, and the status is its number. -/
structure NewerForm (content : ClaimContent) (others attributes : List Attribute) where
  flat : FlatTexts
  counts : CountTexts
  supplier : Json.parse flat.supplier = some (.string content.supplier)
  application : Json.parse flat.application = some (.string content.application)
  service : Json.parse flat.service = some (.string content.service)
  sessionId : Json.parse flat.sessionId = some (.string content.sessionId)
  sessionEnd : bigInt (replaceQuotes flat.sessionEnd) = .ok content.sessionEnd
  status : replaceQuotes flat.status = toString content.status.number
  spell : counts.Spell content
  listed : attributes.Perm ((flat.attributes ++ counts.attributes) ++ others)

/-- The texts of the newer format are written without escapes: without its quotes, each is the text it
denotes. -/
structure FlatTexts.Unescaped (texts : FlatTexts) (content : ClaimContent) : Prop where
  supplier : replaceQuotes texts.supplier = content.supplier
  application : replaceQuotes texts.application = content.application
  service : replaceQuotes texts.service = content.service
  sessionId : replaceQuotes texts.sessionId = content.sessionId

section Splitting

variable {α : Type} {keys : List String} {read : Attribute → Except String α} {default : α}
  {front others : List Attribute}

/-- A value of the claim is read from the attributes of the claim. -/
theorem readAttributes_claim (apart : ∀ entry ∈ others, topicOf entry ∉ claimTopics)
    (about : keys.all (fun key => topic key ∈ claimTopics) = true) :
    readAttributes keys read default (front ++ others) =
      readAttributes keys read default front := by
  refine readAttributes_off_right fun key named listed => ?_
  obtain ⟨entry, member, same⟩ := List.mem_map.mp listed
  exact apart entry member (same ▸ by simpa using List.all_eq_true.mp about key named)

/-- Any other value is read from the further attributes. -/
theorem readAttributes_further (claim : front.map topicOf ⊆ claimTopics)
    (about : keys.all (fun key => topic key ∉ claimTopics) = true) :
    readAttributes keys read default (front ++ others) =
      readAttributes keys read default others :=
  readAttributes_off_left fun key named listed =>
    absurd (claim listed) (by simpa using List.all_eq_true.mp about key named)

end Splitting

/-- The same attributes about another claim. -/
def EventAttributes.about (attributes : EventAttributes) (claim : Json)
    (proofValidationStatus : Option ClaimProofStatus) : EventAttributes :=
  { attributes with claim, proofValidationStatus }

/-- What the further attributes of an event say, beside the counts and a claim that is left out. -/
def furtherAttributes (others : List Attribute) (content : ClaimContent) :
    Except String EventAttributes := do
  let json (key : String) : Except String (Option Json) :=
    readAttributes [key] (fun entry => (parseJson entry.value).map some) none others
  let coin (key : String) : Except String (Option Coin) :=
    readAttributes [key] (fun entry => (getDenomAndAmount entry.value).map some) none others
  let text (key : String) : Except String (Option String) :=
    readAttributes [key] (fun entry => .ok (some (replaceQuotes entry.value))) none others
  let proof ← json "proof"
  let settlementResult ← json "settlement_result"
  let rewardDistribution ← json "reward_distribution"
  let rewardDistributionDetailed ← json "reward_distribution_detailed"
  let settledUpokt ← coin "settled_upokt"
  let mintRatioStr ← text "mint_ratio"
  let supplierOwnerAddress ← text "supplier_owner_address"
  let chainNumEstimatedRelays ← readAttributes ["num_estimated_relays"]
    (fun entry => (bigInt (replaceQuotes entry.value)).map some) none others
  let mintedUpokt ← coin "minted_upokt"
  let overservicingLossUpokt ← coin "overservicing_loss_upokt"
  let deflationLossUpokt ← coin "deflation_loss_upokt"
  let proofMissingPenalty ← coin "proof_missing_penalty"
  let supplierStakeAfterSlash ← coin "supplier_stake_after_slash"
  let failureReason ← text "failure_reason"
  let proofRequirement ← readAttributes ["proof_requirement_int", "proof_requirement"]
    readProofRequirement .notRequired others
  let expirationReason ← readAttributes ["expiration_reason"] readExpirationReason .unspecified others
  return {
    claim := .null
    proof := proof.getD (.object [])
    numRelays := content.numRelays
    numClaimedComputedUnits := content.numClaimedComputedUnits
    numEstimatedComputedUnits := content.numEstimatedComputedUnits
    claimed := some content.claimed
    proofRequirement, expirationReason, proofMissingPenalty, failureReason
    proofValidationStatus := none
    settlementResult, rewardDistribution, rewardDistributionDetailed
    settledUpokt, mintRatioStr, supplierOwnerAddress, chainNumEstimatedRelays, mintedUpokt
    overservicingLossUpokt, deflationLossUpokt, supplierStakeAfterSlash }

section Fronts

variable {content : ClaimContent} {counts : CountTexts}

/-- The counts and the coin of a claim are read whatever attributes of the claim stand before them. -/
structure ReadsCounts (front : List Attribute) (content : ClaimContent) : Prop where
  numRelays : readAttributes ["num_relays"]
    (fun entry => (bigInt (replaceQuotes entry.value)).map some) none front =
      .ok (some content.numRelays)
  numClaimed : readAttributes ["num_compute_units", "num_claimed_compute_units"]
    (fun entry => (bigInt (replaceQuotes entry.value)).map some) none front =
      .ok (some content.numClaimedComputedUnits)
  numEstimated : readAttributes ["num_estimated_compute_units"]
    (fun entry => (bigInt (replaceQuotes entry.value)).map some) none front =
      .ok (some content.numEstimatedComputedUnits)
  claimed : readAttributes ["claimed_upokt"]
    (fun entry => (getDenomAndAmount entry.value).map some) none front = .ok (some content.claimed)

/-- The attributes of the counts and the coin give what they spell. -/
theorem readsCounts {before : List Attribute} (spell : counts.Spell content)
    (off : ∀ key ∈ ["num_relays", "num_compute_units", "num_claimed_compute_units",
      "num_estimated_compute_units", "claimed_upokt"], topic key ∉ before.map topicOf) :
    ReadsCounts (before ++ counts.attributes) content := by
  refine ⟨?_, ?_, ?_, ?_⟩
  all_goals
    rw [readAttributes_off_left fun key named => off key (by
      simp only [List.mem_cons, List.not_mem_nil, or_false] at named ⊢
      tauto)]
    rcases spell.claimedKey with old | new
    · simp [CountTexts.attributes, readAttributes, old, spell.numRelays, spell.numClaimed,
        spell.numEstimated, spell.claimed, bind, Except.bind, pure, Except.pure, Except.map]
    · simp [CountTexts.attributes, readAttributes, new, spell.numRelays, spell.numClaimed,
        spell.numEstimated, spell.claimed, bind, Except.bind, pure, Except.pure, Except.map]

/-- The attributes of an event are those of its claim and the further ones. -/
theorem getAttributes_split {front others : List Attribute} {json : Option Json} {flat : Json}
    {status : Option ClaimProofStatus} (further : Further others)
    (claim : front.map topicOf ⊆ claimTopics) (counted : ReadsCounts front content)
    (readClaim : readAttributes ["claim"] (fun entry => (parseJson entry.value).map some) none front =
      .ok json)
    (readFlat : newClaim front = .ok flat)
    (readStatus : readAttributes ["claim_proof_status_int", "proof_status"] readProofStatus none
      front = .ok status) :
    getAttributes (front ++ others) = (furtherAttributes others content).map fun further =>
      further.about (chooseClaim (json.getD (.object [])) flat) status := by
  have flatRead : newClaim (front ++ others) = .ok flat := by
    rw [← readFlat]
    unfold newClaim
    simp (disch := decide) only [readAttributes_claim further.apart]
  unfold getAttributes furtherAttributes
  simp (disch := decide) only [flatRead, readAttributes_claim further.apart,
    readAttributes_further claim, readClaim, readStatus, counted.numRelays, counted.numClaimed,
    counted.numEstimated, counted.claimed]
  -- What the claim says is known, and the other reads are the same on both sides.
  have known : ∀ {α β : Type} (value : α) (next : α → Except String β),
      (Except.ok value >>= next) = next value := fun _ _ => rfl
  simp only [known]
  iterate 16 refine exceptBind_map_congr fun _ => ?_
  rfl

end Fronts

section Older

variable {content : ClaimContent} {others attributes : List Attribute}

/-- The topics of the counts and the coin. -/
theorem CountTexts.Spell.topics {counts : CountTexts} (spell : counts.Spell content) :
    counts.attributes.map topicOf = ["num_relays",
      "num_claimed_compute_units", "num_estimated_compute_units", "claimed_upokt"] := by
  unfold CountTexts.attributes
  rcases spell.claimedKey with old | new
  · simp only [List.map_cons, List.map_nil, old]
    rfl
  · simp only [List.map_cons, List.map_nil, new]
    rfl

/-- Attributes of a claim and further ones are about different values. -/
theorem Further.topics_nodup (further : Further others) {front : List Attribute}
    (claim : front.map topicOf ⊆ claimTopics)
    (distinct : (front.map topicOf).Nodup) :
    ((front ++ others).map topicOf).Nodup := by
  rw [List.map_append, List.nodup_append]
  refine ⟨distinct, further.distinct, ?_⟩
  intro first inside second beside same
  obtain ⟨other, listed, rfl⟩ := List.mem_map.mp beside
  exact further.apart other listed (same ▸ claim inside)

/-- Beside its counts an event carries a claim as it was sent, and nothing flat. -/
theorem getAttributes_claim {claim : String} {json : Json} {counts : CountTexts}
    (parsed : Json.parse claim = some json) (spell : counts.Spell content)
    (listed : attributes.Perm ((⟨"claim", claim⟩ :: counts.attributes) ++ others))
    (further : Further others) :
    getAttributes attributes = (furtherAttributes others content).map fun further =>
      further.about json none := by
  have topics : (⟨"claim", claim⟩ :: counts.attributes).map topicOf = ["claim",
      "num_relays", "num_claimed_compute_units", "num_estimated_compute_units", "claimed_upokt"] := by
    rw [List.map_cons, spell.topics]
    rfl
  have about : (⟨"claim", claim⟩ :: counts.attributes).map topicOf ⊆ claimTopics := by
    rw [topics]
    decide
  rw [getAttributes_perm listed (further.topics_nodup about (by rw [topics]; decide))]
  have counted : ReadsCounts ([⟨"claim", claim⟩] ++ counts.attributes) content :=
    readsCounts spell (by simp only [List.map_cons, List.map_nil, topicOf]; decide)
  -- There is a claim and nothing flat beside it.
  have readClaim : readAttributes ["claim"] (fun entry => (parseJson entry.value).map some) none
      (⟨"claim", claim⟩ :: counts.attributes) = .ok (some json) := by
    rcases spell.claimedKey with old | new
    · simp [CountTexts.attributes, readAttributes, old, parseJson, parsed, bind, Except.bind,
        pure, Except.pure, Except.map]
    · simp [CountTexts.attributes, readAttributes, new, parseJson, parsed, bind, Except.bind,
        pure, Except.pure, Except.map]
  have readFlat : newClaim (⟨"claim", claim⟩ :: counts.attributes) =
      .ok (.object [("session_header", .object [])]) := by
    unfold newClaim
    simp (disch := (rw [topics]; decide)) only [readAttributes_off]
    rfl
  have readStatus : readAttributes ["claim_proof_status_int", "proof_status"] readProofStatus none
      (⟨"claim", claim⟩ :: counts.attributes) = .ok none :=
    readAttributes_off (by rw [topics]; decide)
  -- One field alone does not replace a claim.
  have kept : chooseClaim json (.object [("session_header", .object [])]) = json := by
    simp [chooseClaim]
  rw [getAttributes_split further about counted readClaim readFlat readStatus, Option.getD_some,
    kept]

/-- The attributes of an event in the older format carry the claim as it was sent. -/
theorem getAttributes_older (form : OlderForm content others attributes)
    (further : Further others) :
    getAttributes attributes = (furtherAttributes others content).map fun further =>
      further.about form.json none :=
  getAttributes_claim form.parsed form.spell form.listed further

/-- The claim that is pieced together from the newer format. -/
def FlatTexts.json (texts : FlatTexts) (content : ClaimContent) : Json :=
  .object [("session_header", .object [("service_id", .string (replaceQuotes texts.service)),
      ("application_address", .string (replaceQuotes texts.application)),
      ("session_end_block_height", .number (toString content.sessionEnd)),
      ("session_start_block_height", .number "0"),
      ("session_id", .string (replaceQuotes texts.sessionId))]),
    ("supplier_operator_address", .string (replaceQuotes texts.supplier)),
    ("proof_validation_status", .number (toString content.status.number))]

/-- The status that is read from its number: the number zero counts as none at all. -/
def ClaimProofStatus.fromNumber (status : ClaimProofStatus) : Option ClaimProofStatus :=
  if status = .pendingValidation then none else some status

/-- The number of a status is recognized. -/
theorem claimProofStatusFromJSON_number (status : ClaimProofStatus) :
    claimProofStatusFromJSON (Double.ofText (toString status.number)) = status.number := by
  cases status <;> decide +kernel

/-- A status given by its number is read unless the number is zero. -/
theorem getClaimProofStatusFromSDK_number (status : ClaimProofStatus) :
    getClaimProofStatusFromSDK (some (.number (toString status.number))) =
      .ok status.fromNumber := by
  cases status <;> exact ok_of_toOption (by decide +kernel)

/-- A status given by its name is read. -/
theorem getClaimProofStatusFromSDK_name (status : ClaimProofStatus) :
    getClaimProofStatusFromSDK (some (.string status.name)) = .ok (some status) := by
  cases status <;> exact ok_of_toOption (by decide +kernel)

/-- The values flat attributes of a claim are about. -/
def flatTopics : List String :=
  ["supplier_operator_address", "application_address", "service_id", "session_id",
    "session_end_block_height", "proof_status"]

/-- Beside its counts an event carries flat attributes, from which its claim is pieced together. -/
theorem getAttributes_flat {flat : List Attribute} {counts : CountTexts} {json : Json}
    {status : Option ClaimProofStatus} (about : flat.map topicOf ⊆ flatTopics)
    (distinct : (flat.map topicOf).Nodup) (spell : counts.Spell content)
    (listed : attributes.Perm ((flat ++ counts.attributes) ++ others)) (further : Further others)
    (readFlat : newClaim flat = .ok json)
    (readStatus : readAttributes ["claim_proof_status_int", "proof_status"] readProofStatus none
      flat = .ok status) (chosen : chooseClaim (.object []) json = json) :
    getAttributes attributes = (furtherAttributes others content).map fun further =>
      further.about json status := by
  have outside : ∀ {topic : String}, topic ∉ flatTopics → topic ∉ flat.map topicOf :=
    fun apart member => apart (about member)
  have topics : counts.attributes.map topicOf = ["num_relays", "num_claimed_compute_units",
      "num_estimated_compute_units", "claimed_upokt"] := spell.topics
  have claim : (flat ++ counts.attributes).map topicOf ⊆ claimTopics := by
    rw [List.map_append, topics]
    refine List.append_subset.mpr ⟨fun topic member => ?_, by decide⟩
    exact (by decide : flatTopics ⊆ claimTopics) (about member)
  have apart : ((flat ++ counts.attributes).map topicOf).Nodup := by
    rw [List.map_append, topics, List.nodup_append']
    refine ⟨distinct, by decide, List.disjoint_right.mpr fun topic beside => outside ?_⟩
    revert topic
    decide
  rw [getAttributes_perm listed (further.topics_nodup claim apart)]
  have counted : ReadsCounts (flat ++ counts.attributes) content :=
    readsCounts spell fun key named => outside (by revert key; decide)
  -- There is no claim, so that the flat one takes its place.
  have readClaim : readAttributes ["claim"] (fun entry => (parseJson entry.value).map some) none
      (flat ++ counts.attributes) = .ok none := by
    rw [readAttributes_off_right (by rw [topics]; decide)]
    exact readAttributes_off fun key named => outside (by revert key; decide)
  have wholeFlat : newClaim (flat ++ counts.attributes) = .ok json := by
    rw [← readFlat]
    unfold newClaim
    simp (disch := (rw [topics]; decide)) only [readAttributes_off_right]
  have wholeStatus : readAttributes ["claim_proof_status_int", "proof_status"] readProofStatus none
      (flat ++ counts.attributes) = .ok status := by
    rw [readAttributes_off_right (by rw [topics]; decide)]
    exact readStatus
  rw [getAttributes_split further claim counted readClaim wholeFlat wholeStatus, Option.getD_none,
    chosen]

/-- The attributes of an event in the newer format carry the claim that is pieced together. -/
theorem getAttributes_newer (form : NewerForm content others attributes)
    (further : Further others) :
    getAttributes attributes = (furtherAttributes others content).map fun further =>
      further.about (form.flat.json content) content.status.fromNumber := by
  have topics : form.flat.attributes.map topicOf =
      ["supplier_operator_address", "application_address", "service_id", "session_id",
        "session_end_block_height", "proof_status"] := rfl
  have number : flatStatus ⟨"claim_proof_status_int", form.flat.status⟩ = content.status.number := by
    rw [flatStatus, form.status, claimProofStatusFromJSON_number]
  have status : readProofStatus ⟨"claim_proof_status_int", form.flat.status⟩ =
      .ok content.status.fromNumber := by
    rw [readProofStatus, if_pos rfl, number]
    exact getClaimProofStatusFromSDK_number content.status
  have readFlat : newClaim form.flat.attributes = .ok (form.flat.json content) := by
    unfold newClaim
    simp [FlatTexts.attributes, readAttributes, form.sessionEnd, number, optionalField,
      FlatTexts.json, bind, Except.bind, pure,
      Except.pure, Except.map]
    rfl
  have readStatus : readAttributes ["claim_proof_status_int", "proof_status"] readProofStatus none
      form.flat.attributes = .ok content.status.fromNumber := by
    simp [FlatTexts.attributes, readAttributes, status, bind, Except.bind, pure, Except.pure]
  have chosen : chooseClaim (.object []) (form.flat.json content) = form.flat.json content := by
    simp [chooseClaim, FlatTexts.json, isEmpty]
  exact getAttributes_flat (by rw [topics]; simp [flatTopics]) (by rw [topics]; simp) form.spell
    form.listed further readFlat readStatus chosen

end Older

/-- What the handlers read of the JSON value of a claim. -/
structure Reads (json : Json) (supplier application service sessionId : String)
    (sessionStart sessionEnd : Int) (status : Option ClaimProofStatus) : Prop where
  supplier : property json "supplier_operator_address" = .ok (some (.string supplier))
  status : ∃ given, property json "proof_validation_status" = .ok given ∧
    getClaimProofStatusFromSDK given = .ok status
  header : ∃ header, property json "session_header" = .ok (some header) ∧
    optionalProperty (some header) "application_address" = some (.string application) ∧
    optionalProperty (some header) "service_id" = some (.string service) ∧
    optionalProperty (some header) "session_id" = some (.string sessionId) ∧
    heightOf (optionalProperty (some header) "session_start_block_height") = .ok sessionStart ∧
    heightOf (optionalProperty (some header) "session_end_block_height") = .ok sessionEnd

/-- A height that is spelled in decimal is read. -/
theorem heightOf_int {value : Json} {height : Int}
    (spelled : value = .string (toString height) ∨ value = .number (toString height)) :
    heightOf (some value) = .ok height := by
  have text : templateText value = toString height := by
    rcases spelled with rfl | rfl
    · rfl
    · rfl
  have read : heightOf (some value) =
      if templateText value = "" then .ok 0 else bigInt (templateText value) := by
    rcases spelled with rfl | rfl
    · rfl
    · rfl
  rw [read, text]
  split
  · -- An empty text would denote zero.
    rename_i empty
    have zero := bigInt_int height
    rw [empty] at zero
    exact zero
  · exact bigInt_int height

/-- The claim of the older format as it is read. -/
theorem ClaimJson.reads {content : ClaimContent} {json : Json} (claim : ClaimJson content json) :
    ∃ start, Reads json content.supplier content.application content.service content.sessionId
      start content.sessionEnd (some content.status) := by
  obtain ⟨header, found, application, service, sessionId, sessionEnd, start, began⟩ := claim.header
  refine ⟨start, claim.supplier,
    ⟨_, claim.status, getClaimProofStatusFromSDK_name content.status⟩,
    header, found, application, service, sessionId, ?_, ?_⟩
  · rw [began]
    exact heightOf_int (Or.inl rfl)
  · rw [sessionEnd]
    exact heightOf_int (Or.inl rfl)

/-- The claim of the newer format as it is read: it has the texts without their quotes, and no status
if its number is zero. -/
theorem FlatTexts.reads (texts : FlatTexts) (content : ClaimContent) :
    Reads (texts.json content) (replaceQuotes texts.supplier) (replaceQuotes texts.application)
      (replaceQuotes texts.service) (replaceQuotes texts.sessionId) 0 content.sessionEnd
      content.status.fromNumber :=
  ⟨rfl, ⟨_, rfl, getClaimProofStatusFromSDK_number content.status⟩, _, rfl, rfl, rfl, rfl,
    heightOf_int (Or.inr rfl), heightOf_int (Or.inr rfl)⟩

/-- The same record with another start of the session and another status. -/
def EventClaimSettledProps.retold (props : EventClaimSettledProps) (sessionStartHeight : Int)
    (proofValidationStatus : Option ClaimProofStatus) : EventClaimSettledProps :=
  { props with sessionStartHeight, proofValidationStatus }

/-- The same record with another start of the session and another status. -/
def EventClaimExpiredProps.retold (props : EventClaimExpiredProps) (sessionStartHeight : Int)
    (proofValidationStatus : Option ClaimProofStatus) : EventClaimExpiredProps :=
  { props with sessionStartHeight, proofValidationStatus }

section Handlers

variable {supplier application service sessionId : String} {sessionStart otherStart sessionEnd : Int}
  {status other : Option ClaimProofStatus} {claim otherClaim : Json}
  {told otherTold : Option ClaimProofStatus} {attributes : EventAttributes}

/-- What a claim is settled for depends on its supplier and its application only. -/
theorem effectiveBurnOf_about
    (first : Reads claim supplier application service sessionId sessionStart sessionEnd status)
    (second : Reads otherClaim supplier application service sessionId otherStart sessionEnd other)
    (getEffectiveBurn : String → String → Option String) :
    effectiveBurnOf (attributes.about otherClaim otherTold) getEffectiveBurn =
      effectiveBurnOf (attributes.about claim told) getEffectiveBurn := by
  obtain ⟨header, found, named, _⟩ := first.header
  obtain ⟨otherHeader, otherFound, otherNamed, _⟩ := second.header
  simp only [effectiveBurnOf, EventAttributes.about, found, otherFound, first.supplier,
    second.supplier, bind, Except.bind, named, otherNamed]

/-- The record of a settled claim depends on what is read of the claim only. -/
theorem buildClaimSettledProps_about
    (first : Reads claim supplier application service sessionId sessionStart sessionEnd status)
    (second : Reads otherClaim supplier application service sessionId otherStart sessionEnd other)
    (kindText : CosmosEventKind → String) (event : CosmosEvent) (listed : List Attribute)
    (settlement : SettlementParts) (effectiveBurn : String) (mintRatio : Double) :
    _buildClaimSettledProps kindText { event with attributes := listed }
        (attributes.about otherClaim otherTold) settlement effectiveBurn mintRatio =
      (_buildClaimSettledProps kindText event (attributes.about claim told) settlement
        effectiveBurn mintRatio).map fun props => props.retold otherStart other := by
  obtain ⟨header, found, named, served, session, began, ended⟩ := first.header
  obtain ⟨otherHeader, otherFound, otherNamed, otherServed, otherSession, otherBegan, otherEnded⟩ :=
    second.header
  obtain ⟨given, givenRead, givenStatus⟩ := first.status
  obtain ⟨otherGiven, otherRead, otherStatus⟩ := second.status
  have known : ∀ {α β : Type} (value : α) (next : α → Except String β),
      (Except.ok value >>= next) = next value := fun _ _ => rfl
  simp only [_buildClaimSettledProps, EventAttributes.about, found, otherFound, first.supplier,
    second.supplier, givenRead, otherRead, named, otherNamed, served, otherServed, session,
    otherSession, began, otherBegan, ended, otherEnded, givenStatus, otherStatus, known]
  iterate 6 refine exceptBind_map_congr fun _ => ?_
  rfl

/-- The record of an expired claim depends on what is read of the claim only. -/
theorem claimExpired_about {kindText : CosmosEventKind → String} {event : CosmosEvent}
    {listed flatListed : List Attribute} {further : Except String EventAttributes}
    (first : Reads claim supplier application service sessionId sessionStart sessionEnd status)
    (second : Reads otherClaim supplier application service sessionId otherStart sessionEnd other)
    (one : getAttributes listed = further.map (·.about claim told))
    (two : getAttributes flatListed = further.map (·.about otherClaim otherTold)) :
    _handleEventClaimExpired kindText { event with attributes := flatListed } =
      (_handleEventClaimExpired kindText { event with attributes := listed }).map fun props =>
        props.retold otherStart other := by
  obtain ⟨header, found, named, served, session, began, ended⟩ := first.header
  obtain ⟨otherHeader, otherFound, otherNamed, otherServed, otherSession, otherBegan, otherEnded⟩ :=
    second.header
  obtain ⟨given, givenRead, givenStatus⟩ := first.status
  obtain ⟨otherGiven, otherRead, otherStatus⟩ := second.status
  have known : ∀ {α β : Type} (value : α) (next : α → Except String β),
      (Except.ok value >>= next) = next value := fun _ _ => rfl
  simp only [_handleEventClaimExpired, one, two]
  cases further with
  | error error => rfl
  | ok attributes =>
    simp only [Except.map, EventAttributes.about, found, otherFound, first.supplier,
      second.supplier, givenRead, otherRead, named, otherNamed, served, otherServed, session,
      otherSession, began, otherBegan, ended, otherEnded, givenStatus, otherStatus, known]
    iterate 2 refine exceptBind_map_congr fun _ => ?_
    rfl

/-- So does the record of a settled claim, with its transfers. -/
theorem claimSettled_about {kindText : CosmosEventKind → String} {mintRatioFromParams : Double}
    {getEffectiveBurn : String → String → Option String} {event : CosmosEvent}
    {listed flatListed : List Attribute} {further : Except String EventAttributes}
    (first : Reads claim supplier application service sessionId sessionStart sessionEnd status)
    (second : Reads otherClaim supplier application service sessionId otherStart sessionEnd other)
    (one : getAttributes listed = further.map (·.about claim told))
    (two : getAttributes flatListed = further.map (·.about otherClaim otherTold)) :
    _handleEventClaimSettled kindText mintRatioFromParams getEffectiveBurn
        { event with attributes := flatListed } =
      (_handleEventClaimSettled kindText mintRatioFromParams getEffectiveBurn
        { event with attributes := listed }).map fun record =>
          (record.1.retold otherStart other, record.2) := by
  simp only [_handleEventClaimSettled, one, two]
  cases further with
  | error error => rfl
  | ok attributes =>
    have known : ∀ {α β : Type} (value : α) (next : α → Except String β),
        (Except.ok value >>= next) = next value := fun _ _ => rfl
    -- Both formats name the same supplier and application, so the same burn applies.
    have burn : effectiveBurnOf (attributes.about otherClaim otherTold) getEffectiveBurn =
        effectiveBurnOf (attributes.about claim told) getEffectiveBurn :=
      effectiveBurnOf_about first second getEffectiveBurn
    simp only [Except.map, known, burn]
    refine exceptBind_map_congr fun effectiveBurn => ?_
    refine exceptBind_map_congr fun settlement => ?_
    -- The records differ in the start of the session and the status only.
    have record : _buildClaimSettledProps kindText { event with attributes := flatListed }
        (attributes.about otherClaim otherTold) settlement effectiveBurn
          (mintRatioOf attributes mintRatioFromParams) =
        (_buildClaimSettledProps kindText { event with attributes := listed }
          (attributes.about claim told) settlement effectiveBurn
            (mintRatioOf attributes mintRatioFromParams)).map fun props =>
              props.retold otherStart other :=
      buildClaimSettledProps_about first second kindText { event with attributes := listed }
        flatListed settlement effectiveBurn (mintRatioOf attributes mintRatioFromParams)
    exact exceptBind_renamed record fun _ => rfl

end Handlers

/-- What the two formats of a claim have to agree on. -/
structure ClaimFields where
  supplierId : Option String
  applicationId : String
  serviceId : String
  sessionId : String
  sessionEndHeight : Int
  proofValidationStatus : Option ClaimProofStatus
  numRelays : Int
  numEstimatedRelays : Int
  numClaimedComputedUnits : Int
  numEstimatedComputedUnits : Int
  claimedDenom : String
  claimedAmount : Int
  deriving DecidableEq, Repr

/-- The fields of a settled claim that come from the claim. -/
def EventClaimSettledProps.claimFields (props : EventClaimSettledProps) : ClaimFields where
  supplierId := props.supplierId
  applicationId := props.applicationId
  serviceId := props.serviceId
  sessionId := props.sessionId
  sessionEndHeight := props.sessionEndHeight
  proofValidationStatus := props.proofValidationStatus
  numRelays := props.numRelays
  numEstimatedRelays := props.numEstimatedRelays
  numClaimedComputedUnits := props.numClaimedComputedUnits
  numEstimatedComputedUnits := props.numEstimatedComputedUnits
  claimedDenom := props.claimedDenom
  claimedAmount := props.claimedAmount

/-- The fields of an expired claim that come from the claim. -/
def EventClaimExpiredProps.claimFields (props : EventClaimExpiredProps) : ClaimFields where
  supplierId := props.supplierId
  applicationId := props.applicationId
  serviceId := props.serviceId
  sessionId := props.sessionId
  sessionEndHeight := props.sessionEndHeight
  proofValidationStatus := props.proofValidationStatus
  numRelays := props.numRelays
  numEstimatedRelays := props.numEstimatedRelays
  numClaimedComputedUnits := props.numClaimedComputedUnits
  numEstimatedComputedUnits := props.numEstimatedComputedUnits
  claimedDenom := props.claimedDenom
  claimedAmount := props.claimedAmount

/-- Both results are records, and their claims are the same. -/
def Agree {ρ : Type} (fields : ρ → ClaimFields) (older newer : Except String ρ) : Prop :=
  ∃ record other, older = .ok record ∧ newer = .ok other ∧ fields record = fields other

/-- The fields of a record tell the texts and the status that were read of its claim. -/
structure Tells (fields : ClaimFields) (supplier application service sessionId : String)
    (status : Option ClaimProofStatus) : Prop where
  supplier : fields.supplierId = some supplier
  application : fields.applicationId = application
  service : fields.serviceId = service
  sessionId : fields.sessionId = sessionId
  status : fields.proofValidationStatus = status

/-- A text that is there is taken as it is, even if it is empty. -/
theorem orEmpty_string (text : String) : orEmpty (some (.string text)) = text := by
  unfold orEmpty
  split
  · rfl
  · rename_i empty
    have blank : text = "" := by simpa [truthy] using empty
    exact blank.symm

section Tells

variable {supplier application service sessionId : String} {sessionStart sessionEnd : Int}
  {status : Option ClaimProofStatus} {attributes : EventAttributes} {kindText : CosmosEventKind → String}
  {event : CosmosEvent}

/-- The record of an accepted expired claim tells what was read of the claim. -/
theorem claimExpired_tells {props : EventClaimExpiredProps}
    (handled : _handleEventClaimExpired kindText event = .ok props)
    (read : getAttributes event.attributes = .ok attributes)
    (reads : Reads attributes.claim supplier application service sessionId sessionStart sessionEnd
      status) : Tells props.claimFields supplier application service sessionId status := by
  obtain ⟨header, found, named, served, session, _, _⟩ := reads.header
  obtain ⟨given, givenRead, givenStatus⟩ := reads.status
  obtain ⟨same, isRead, handled⟩ := exceptBind_ok handled
  rw [read] at isRead
  cases isRead
  obtain ⟨_, one, handled⟩ := exceptBind_ok handled
  obtain ⟨_, two, handled⟩ := exceptBind_ok handled
  obtain ⟨_, three, handled⟩ := exceptBind_ok handled
  obtain ⟨_, _, handled⟩ := exceptBind_ok handled
  obtain ⟨_, _, handled⟩ := exceptBind_ok handled
  obtain ⟨_, _, handled⟩ := exceptBind_ok handled
  obtain ⟨_, _, handled⟩ := exceptBind_ok handled
  obtain ⟨_, four, handled⟩ := exceptBind_ok handled
  rw [givenRead] at one
  cases one
  rw [found] at two
  cases two
  rw [reads.supplier] at three
  cases three
  rw [givenStatus] at four
  cases four
  cases handled
  refine ⟨rfl, ?_, ?_, ?_, rfl⟩
  · show orEmpty (optionalProperty (some header) "application_address") = application
    rw [named, orEmpty_string]
  · show orEmpty (optionalProperty (some header) "service_id") = service
    rw [served, orEmpty_string]
  · show orEmpty (optionalProperty (some header) "session_id") = sessionId
    rw [session, orEmpty_string]

/-- The record of an accepted settled claim tells what was read of the claim. -/
theorem claimSettled_tells {mintRatioFromParams : Double}
    {getEffectiveBurn : String → String → Option String} {props : EventClaimSettledProps}
    {transfers : List ModToAcctTransferRecord}
    (handled : _handleEventClaimSettled kindText mintRatioFromParams getEffectiveBurn event =
      .ok (props, transfers))
    (read : getAttributes event.attributes = .ok attributes)
    (reads : Reads attributes.claim supplier application service sessionId sessionStart sessionEnd
      status) : Tells props.claimFields supplier application service sessionId status := by
  obtain ⟨header, found, named, served, session, _, _⟩ := reads.header
  obtain ⟨given, givenRead, givenStatus⟩ := reads.status
  obtain ⟨same, isRead, handled⟩ := exceptBind_ok handled
  rw [read] at isRead
  cases isRead
  obtain ⟨_, _, handled⟩ := exceptBind_ok handled
  obtain ⟨settlement, _, handled⟩ := exceptBind_ok handled
  obtain ⟨record, built, handled⟩ := exceptBind_ok handled
  cases handled
  -- The record takes its names from the claim, wherever the attributes told it.
  have told := buildClaimSettledProps_ok built
  obtain ⟨header', operator, foundHeader, foundOperator, supplierId, applicationId, serviceId,
    sessionId'⟩ := told.names
  rw [found] at foundHeader
  cases foundHeader
  rw [reads.supplier] at foundOperator
  cases foundOperator
  refine ⟨supplierId, ?_, ?_, ?_, ?_⟩
  · show props.applicationId = application
    rw [applicationId, named, orEmpty_string]
  · show props.serviceId = service
    rw [serviceId, served, orEmpty_string]
  · show props.sessionId = sessionId
    rw [sessionId', session, orEmpty_string]
  · obtain ⟨status', statusRead, statusGiven⟩ := told.status
    rw [givenRead] at statusRead
    cases statusRead
    rw [givenStatus] at statusGiven
    exact (Except.ok.inj statusGiven).symm

end Tells

/-- Handlers that tell what they read agree on two formats of a claim exactly if its status has a
number other than zero and its texts need no escapes. -/
theorem agree_iff {ρ : Type} {fields : ρ → ClaimFields} {older newer : Except String ρ}
    {content : ClaimContent} {flat : FlatTexts}
    (olderTells : ∀ record, older = .ok record → Tells (fields record) content.supplier
      content.application content.service content.sessionId (some content.status))
    (newerTells : ∀ record, newer = .ok record → Tells (fields record) (replaceQuotes flat.supplier)
      (replaceQuotes flat.application) (replaceQuotes flat.service) (replaceQuotes flat.sessionId)
      content.status.fromNumber)
    (about : flat.Unescaped content → ∃ retell : ρ → ρ, newer = older.map retell ∧
      ∀ record, fields (retell record) =
        { fields record with proofValidationStatus := content.status.fromNumber })
    (accepted : (∃ record, older = .ok record) ∨ ∃ record, newer = .ok record) :
    Agree fields older newer ↔ content.status ≠ .pendingValidation ∧ flat.Unescaped content := by
  constructor
  · intro ⟨record, other, isOlder, isNewer, same⟩
    have one := olderTells record isOlder
    have two := newerTells other isNewer
    rw [← same] at two
    refine ⟨?_, ?_, ?_, ?_, ?_⟩
    · intro pending
      have status := one.status.symm.trans two.status
      rw [ClaimProofStatus.fromNumber, if_pos pending] at status
      cases status
    · exact Option.some.inj (two.supplier.symm.trans one.supplier)
    · exact two.application.symm.trans one.application
    · exact two.service.symm.trans one.service
    · exact two.sessionId.symm.trans one.sessionId
  · intro ⟨numbered, unescaped⟩
    obtain ⟨retell, mapped, retold⟩ := about unescaped
    -- If one of the two is a record, so is the other.
    have both : ∃ record, older = .ok record := by
      rcases accepted with isOlder | ⟨record, isNewer⟩
      · exact isOlder
      · rw [isNewer] at mapped
        obtain ⟨value, isOlder, _⟩ := exceptMap_ok mapped.symm
        exact ⟨value, isOlder⟩
    obtain ⟨record, isOlder⟩ := both
    refine ⟨record, retell record, isOlder, by rw [mapped, isOlder]; rfl, ?_⟩
    have status := (olderTells record isOlder).status
    rw [retold, ClaimProofStatus.fromNumber, if_neg numbered, ← status]

section Formats

variable {content : ClaimContent} {others listed flatListed : List Attribute}

/-- What both formats of a claim are read as: without escapes they are read as the same texts. -/
theorem formats_read (further : Further others) (older : OlderForm content others listed)
    (newer : NewerForm content others flatListed) :
    ∃ (known : Except String EventAttributes) (claim otherClaim : Json)
      (told otherTold : Option ClaimProofStatus) (start : Int),
      getAttributes listed = known.map (·.about claim told) ∧
      getAttributes flatListed = known.map (·.about otherClaim otherTold) ∧
      Reads claim content.supplier content.application content.service content.sessionId start
        content.sessionEnd (some content.status) ∧
      Reads otherClaim (replaceQuotes newer.flat.supplier) (replaceQuotes newer.flat.application)
        (replaceQuotes newer.flat.service) (replaceQuotes newer.flat.sessionId) 0
        content.sessionEnd content.status.fromNumber ∧
      (newer.flat.Unescaped content → Reads otherClaim content.supplier content.application
        content.service content.sessionId 0 content.sessionEnd content.status.fromNumber) := by
  obtain ⟨start, first⟩ := older.isClaim.reads
  have second := newer.flat.reads content
  refine ⟨_, _, _, _, _, start, getAttributes_older older further, getAttributes_newer newer further,
    first, second, ?_⟩
  intro unescaped
  rw [unescaped.supplier, unescaped.application, unescaped.service, unescaped.sessionId] at second
  exact second

/-- The formats give the same record of an expired claim exactly if the claim is not pending
validation and its texts need no escapes. -/
theorem claimExpired_agree_iff (further : Further others) (older : OlderForm content others listed)
    (newer : NewerForm content others flatListed) (kindText : CosmosEventKind → String)
    (event : CosmosEvent)
    (accepted : (∃ record,
        _handleEventClaimExpired kindText { event with attributes := listed } = .ok record) ∨
      ∃ record,
        _handleEventClaimExpired kindText { event with attributes := flatListed } = .ok record) :
    Agree EventClaimExpiredProps.claimFields
        (_handleEventClaimExpired kindText { event with attributes := listed })
        (_handleEventClaimExpired kindText { event with attributes := flatListed }) ↔
      content.status ≠ .pendingValidation ∧ newer.flat.Unescaped content := by
  obtain ⟨known, claim, otherClaim, told, otherTold, start, one, two, first, second, alike⟩ :=
    formats_read further older newer
  refine agree_iff ?_ ?_ ?_ accepted
  · intro record isOlder
    obtain ⟨attributes, read, _⟩ := exceptBind_ok isOlder
    obtain ⟨_, _, rfl⟩ := exceptMap_ok (one.symm.trans read)
    exact claimExpired_tells isOlder read first
  · intro record isNewer
    obtain ⟨attributes, read, _⟩ := exceptBind_ok isNewer
    obtain ⟨_, _, rfl⟩ := exceptMap_ok (two.symm.trans read)
    exact claimExpired_tells isNewer read second
  · intro unescaped
    exact ⟨_, claimExpired_about first (alike unescaped) one two, fun record => rfl⟩

/-- The formats give the same record of a settled claim exactly if the claim is not pending validation
and its texts need no escapes. -/
theorem claimSettled_agree_iff (further : Further others) (older : OlderForm content others listed)
    (newer : NewerForm content others flatListed) (kindText : CosmosEventKind → String)
    (mintRatioFromParams : Double) (getEffectiveBurn : String → String → Option String)
    (event : CosmosEvent)
    (accepted : (∃ record, _handleEventClaimSettled kindText mintRatioFromParams getEffectiveBurn
        { event with attributes := listed } = .ok record) ∨
      ∃ record, _handleEventClaimSettled kindText mintRatioFromParams getEffectiveBurn
        { event with attributes := flatListed } = .ok record) :
    Agree (fun record => record.1.claimFields)
        (_handleEventClaimSettled kindText mintRatioFromParams getEffectiveBurn
          { event with attributes := listed })
        (_handleEventClaimSettled kindText mintRatioFromParams getEffectiveBurn
          { event with attributes := flatListed }) ↔
      content.status ≠ .pendingValidation ∧ newer.flat.Unescaped content := by
  obtain ⟨known, claim, otherClaim, told, otherTold, start, one, two, first, second, alike⟩ :=
    formats_read further older newer
  refine agree_iff ?_ ?_ ?_ accepted
  · intro record isOlder
    obtain ⟨attributes, read, _⟩ := exceptBind_ok isOlder
    obtain ⟨_, _, rfl⟩ := exceptMap_ok (one.symm.trans read)
    exact claimSettled_tells isOlder read first
  · intro record isNewer
    obtain ⟨attributes, read, _⟩ := exceptBind_ok isNewer
    obtain ⟨_, _, rfl⟩ := exceptMap_ok (two.symm.trans read)
    exact claimSettled_tells isNewer read second
  · intro unescaped
    exact ⟨_, claimSettled_about first (alike unescaped) one two, fun record => rfl⟩

/-- The older and the newer format of a claim give the same records, settled or expired, exactly if
the claim is not pending validation and its texts need no escapes. -/
theorem claimFormats_agree_iff (further : Further others) (older : OlderForm content others listed)
    (newer : NewerForm content others flatListed) (kindText : CosmosEventKind → String)
    (mintRatioFromParams : Double) (getEffectiveBurn : String → String → Option String)
    (event : CosmosEvent) :
    let settled (attributes : List Attribute) := _handleEventClaimSettled kindText
      mintRatioFromParams getEffectiveBurn { event with attributes }
    let expired (attributes : List Attribute) := _handleEventClaimExpired kindText
      { event with attributes }
    ((∃ record, settled listed = .ok record) ∨ (∃ record, settled flatListed = .ok record) →
      (Agree (fun record => record.1.claimFields) (settled listed) (settled flatListed) ↔
        content.status ≠ .pendingValidation ∧ newer.flat.Unescaped content)) ∧
    ((∃ record, expired listed = .ok record) ∨ (∃ record, expired flatListed = .ok record) →
      (Agree EventClaimExpiredProps.claimFields (expired listed) (expired flatListed) ↔
        content.status ≠ .pendingValidation ∧ newer.flat.Unescaped content)) :=
  ⟨claimSettled_agree_iff further older newer kindText mintRatioFromParams getEffectiveBurn event,
    claimExpired_agree_iff further older newer kindText event⟩

end Formats

/-- A claim with some status. -/
def sampleClaim (status : ClaimProofStatus) : ClaimContent where
  supplier := "sup"
  application := "app"
  service := "svc"
  sessionId := "ses"
  sessionEnd := 10
  status := status
  numRelays := 3
  numClaimedComputedUnits := 30
  numEstimatedComputedUnits := 60
  claimed := ⟨"100", "upokt"⟩

/-- The counts of the claim. -/
def sampleCounts : CountTexts where
  claimedKey := "num_claimed_compute_units"
  numRelays := "\"3\""
  numClaimed := "\"30\""
  numEstimated := "\"60\""
  claimed := "\"100upokt\""

/-- The further attributes of the event: nothing was distributed. -/
def sampleOthers : List Attribute := [⟨"reward_distribution_detailed", "[]"⟩]

/-- The claim as a JSON value. -/
def sampleJson (status : ClaimProofStatus) : Json :=
  .object [("supplier_operator_address", .string "sup"),
    ("session_header", .object [("application_address", .string "app"), ("service_id", .string "svc"),
      ("session_id", .string "ses"), ("session_start_block_height", .string "1"),
      ("session_end_block_height", .string "10")]),
    ("proof_validation_status", .string status.name)]

/-- The text of the JSON value. -/
def sampleText (status : ClaimProofStatus) : String :=
  "\x7b\"supplier_operator_address\":\"sup\",\"session_header\":\x7b\"application_address\":\"app\"," ++
    "\"service_id\":\"svc\",\"session_id\":\"ses\",\"session_start_block_height\":\"1\"," ++
    "\"session_end_block_height\":\"10\"\x7d,\"proof_validation_status\":\"" ++ status.name ++ "\"\x7d"

/-- The text denotes the JSON value. -/
theorem sampleText_parse (status : ClaimProofStatus) :
    Json.parse (sampleText status) = some (sampleJson status) := by
  cases status
  all_goals
    apply Json.parse_of_chars
    · -- The characters are listed part by part, before the kernel parses them.
      unfold sampleText ClaimProofStatus.name
      rewrite [String.toList_append, String.toList_append, String.toList_append,
        String.toList_append]
      exact congrArg₂ _ (congrArg₂ _ (congrArg₂ _ (congrArg₂ _ String.toList_ofList
        String.toList_ofList) String.toList_ofList) String.toList_ofList) String.toList_ofList
    · decide +kernel

/-- The texts of the claim value by value. -/
def sampleFlat (status : ClaimProofStatus) : FlatTexts where
  supplier := "\"sup\""
  application := "\"app\""
  service := "\"svc\""
  sessionId := "\"ses\""
  sessionEnd := "\"10\""
  status := toString status.number

/-- The attributes of the claim in the older format. -/
def sampleOlder (status : ClaimProofStatus) : List Attribute :=
  (⟨"claim", sampleText status⟩ :: sampleCounts.attributes) ++ sampleOthers

/-- The attributes of the claim in the newer format. -/
def sampleNewer (status : ClaimProofStatus) : List Attribute :=
  ((sampleFlat status).attributes ++ sampleCounts.attributes) ++ sampleOthers

/-- The further attribute is about a value of its own. -/
theorem sampleFurther : Further sampleOthers := ⟨by decide, by decide⟩

/-- The counts are spelled. -/
theorem sampleSpell (status : ClaimProofStatus) : sampleCounts.Spell (sampleClaim status) :=
  ⟨Or.inr rfl,
    (ok_of_toOption (by decide +kernel) : bigInt (replaceQuotes "\"3\"") = .ok 3),
    (ok_of_toOption (by decide +kernel) : bigInt (replaceQuotes "\"30\"") = .ok 30),
    (ok_of_toOption (by decide +kernel) : bigInt (replaceQuotes "\"60\"") = .ok 60),
    (ok_of_toOption (by decide +kernel) :
      getDenomAndAmount "\"100upokt\"" = .ok ⟨"100", "upokt"⟩)⟩

/-- The attributes give the claim in the older format if its text is read. -/
def sampleOlderForm (status : ClaimProofStatus)
    (parsed : Json.parse (sampleText status) = some (sampleJson status)) :
    OlderForm (sampleClaim status) sampleOthers (sampleOlder status) where
  claim := sampleText status
  json := sampleJson status
  counts := sampleCounts
  parsed := parsed
  isClaim := ⟨rfl, rfl, _, rfl, rfl, rfl, rfl, rfl, 1, rfl⟩
  spell := sampleSpell status
  listed := List.Perm.refl _

/-- The attributes give the claim in the newer format. -/
def sampleNewerForm (status : ClaimProofStatus) :
    NewerForm (sampleClaim status) sampleOthers (sampleNewer status) where
  flat := sampleFlat status
  counts := sampleCounts
  supplier := (Json.parse_of_same (by decide +kernel) :
    Json.parse "\"sup\"" = some (.string "sup"))
  application := (Json.parse_of_same (by decide +kernel) :
    Json.parse "\"app\"" = some (.string "app"))
  service := (Json.parse_of_same (by decide +kernel) :
    Json.parse "\"svc\"" = some (.string "svc"))
  sessionId := (Json.parse_of_same (by decide +kernel) :
    Json.parse "\"ses\"" = some (.string "ses"))
  sessionEnd := (ok_of_toOption (by decide +kernel) : bigInt (replaceQuotes "\"10\"") = .ok 10)
  status := by cases status <;> decide +kernel
  spell := sampleSpell status
  listed := List.Perm.refl _

/-- An event about the claim. -/
def sampleEvent (attributes : List Attribute) : CosmosEvent where
  idx := 0
  height := 12
  kind := .endBlock
  type := .claimSettled
  attributes := attributes
  tx := none
  msg := none

/-- The record of the claim if it is settled. -/
def sampleSettled (attributes : List Attribute) :
    Except String (EventClaimSettledProps × List ModToAcctTransferRecord) :=
  _handleEventClaimSettled (fun _ => "end") (.finite 1) (fun _ _ => none) (sampleEvent attributes)

/-- The record of the claim if it expires. -/
def sampleExpired (attributes : List Attribute) : Except String EventClaimExpiredProps :=
  _handleEventClaimExpired (fun _ => "end") (sampleEvent attributes)

/-- The formats agree on a validated claim. -/
theorem claimFormats_agree_iff_validated :
    Agree (fun record => record.1.claimFields) (sampleSettled (sampleOlder .validated))
      (sampleSettled (sampleNewer .validated)) ∧
    Agree EventClaimExpiredProps.claimFields (sampleExpired (sampleOlder .validated))
      (sampleExpired (sampleNewer .validated)) := by
  have unescaped : (sampleFlat .validated).Unescaped (sampleClaim .validated) :=
    ⟨by decide, by decide, by decide, by decide⟩
  have settles : (sampleSettled (sampleNewer .validated)).toOption.isSome = true := by
    decide +kernel
  have expires : (sampleExpired (sampleNewer .validated)).toOption.isSome = true := by
    decide +kernel
  obtain ⟨record, settled⟩ := Option.isSome_iff_exists.mp settles
  obtain ⟨other, expired⟩ := Option.isSome_iff_exists.mp expires
  obtain ⟨first, second⟩ := claimFormats_agree_iff sampleFurther
    (sampleOlderForm .validated (sampleText_parse .validated))
    (sampleNewerForm .validated) (fun _ => "end") (.finite 1) (fun _ _ => none) (sampleEvent [])
  exact ⟨(first (Or.inr ⟨record, ok_of_toOption settled⟩)).mpr ⟨by decide, unescaped⟩,
    (second (Or.inr ⟨other, ok_of_toOption expired⟩)).mpr ⟨by decide, unescaped⟩⟩

/-- On a claim that is pending validation they do not: the newer format has no status. -/
theorem claimFormats_pending :
    Nonempty (OlderForm (sampleClaim .pendingValidation) sampleOthers
      (sampleOlder .pendingValidation)) ∧
    Nonempty (NewerForm (sampleClaim .pendingValidation) sampleOthers
      (sampleNewer .pendingValidation)) ∧
    (∃ record, sampleExpired (sampleNewer .pendingValidation) = .ok record ∧
      record.proofValidationStatus = none) ∧
    ¬Agree EventClaimExpiredProps.claimFields (sampleExpired (sampleOlder .pendingValidation))
      (sampleExpired (sampleNewer .pendingValidation)) := by
  have older := sampleOlderForm .pendingValidation (sampleText_parse .pendingValidation)
  have newer := sampleNewerForm .pendingValidation
  have undefined : (sampleExpired (sampleNewer .pendingValidation)).toOption.map
      EventClaimExpiredProps.proofValidationStatus = some none := by
    decide +kernel
  obtain ⟨record, expired, status⟩ := Option.map_eq_some_iff.mp undefined
  refine ⟨⟨older⟩, ⟨newer⟩, ⟨record, ok_of_toOption expired, status⟩, ?_⟩
  intro agree
  exact ((claimExpired_agree_iff sampleFurther older newer (fun _ => "end") (sampleEvent [])
    (Or.inr ⟨record, ok_of_toOption expired⟩)).mp agree).1 rfl

end Pocketdex.Settlement
