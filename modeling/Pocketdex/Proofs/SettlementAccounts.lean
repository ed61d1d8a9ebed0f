import Pocketdex.Base.Except
import Pocketdex.Pocket.Settlement

/-! When the amounts of a settled claim add up, whatever its event carries. -/

namespace Pocketdex.Settlement

/-- The record of a claim adds up: it was claimed what the chain says, what was not settled was lost
to overservicing, and what was settled and not minted was lost to deflation. -/
structure AddsUp (attributes : EventAttributes) (props : EventClaimSettledProps) : Prop where
  claimed : ∃ coin, attributes.claimed = some coin ∧ bigInt coin.amount = .ok props.claimedAmount
  overserviced : props.claimedAmount = props.settledAmount + props.overservicingLossAmount
  minted : ∃ minted, props.mintedAmount = some minted ∧
    props.settledAmount = minted + props.deflationLossAmount

/-- The amounts an event carries are related as the chain documents them: what is claimed is settled
or lost to overservicing, and what is settled is minted or lost to deflation. -/
structure Documented (attributes : EventAttributes) (claimed settled minted : Int) : Prop where
  claims : ∀ coin, attributes.claimed = some coin → bigInt coin.amount = .ok claimed
  settles : ∀ coin, attributes.settledUpokt = some coin → bigInt coin.amount = .ok settled
  mints : ∀ coin, attributes.mintedUpokt = some coin → bigInt coin.amount = .ok minted
  overserves : ∀ coin, attributes.overservicingLossUpokt = some coin →
    bigInt coin.amount = .ok (claimed - settled)
  deflates : ∀ coin, attributes.deflationLossUpokt = some coin →
    bigInt coin.amount = .ok (settled - minted)
  ordered : 0 ≤ minted ∧ minted ≤ settled ∧ settled ≤ claimed

/-- The burn of the overserviced event that matches a claim, if there is one. -/
def matchingBurn (attributes : EventAttributes)
    (getEffectiveBurn : String → String → Option String) : Option String :=
  let sessionHeader := optionalProperty (some attributes.claim) "session_header"
  getEffectiveBurn (orEmpty (optionalProperty sessionHeader "application_address"))
    (optionText (optionalProperty (some attributes.claim) "supplier_operator_address"))

/-- Nothing of a claimed amount is lost to overservicing: what the chain settled, or else what the
matching overserviced event says was burned, is the whole of it, and no loss is told. -/
structure SettledInFull (attributes : EventAttributes) (burn : Option String) (claimed : Int) :
    Prop where
  settled : ∀ coin, attributes.settledUpokt = some coin → bigInt coin.amount = .ok claimed
  burned : attributes.settledUpokt = none → ∀ text, burn = some text → bigInt text = .ok claimed
  loss : ∀ coin, attributes.overservicingLossUpokt = some coin → bigInt coin.amount = .ok 0

/-- The event tells what was minted: without a deflation loss any reward format or minted amount
does, and with one the minted amount has to be what is left of the claimed amount. Where no minted
amount is told, a settlement result or a detailed distribution counts as mint of everything, and a
plain distribution as mint of the ratio's share, whether one is told or not. -/
def MintTold (attributes : EventAttributes) (mintRatio : Double) (claimed : Int) : Prop :=
  match attributes.deflationLossUpokt with
  | none => attributes.mintedUpokt ≠ none ∨ truthy attributes.settlementResult ∨
      truthy attributes.rewardDistributionDetailed ∨ truthy attributes.rewardDistribution
  | some loss => ∃ lost, bigInt loss.amount = .ok lost ∧
      if truthy attributes.settlementResult ∨ truthy attributes.rewardDistributionDetailed then
        match attributes.mintedUpokt with
        | some coin => bigInt coin.amount = .ok (claimed - lost)
        | none => lost = 0
      else if truthy attributes.rewardDistribution then
        bigInt ((Double.ofInt claimed).mul mintRatio).floor.integerText = .ok (claimed - lost)
      else ∃ coin, attributes.mintedUpokt = some coin ∧ bigInt coin.amount = .ok (claimed - lost)

/-- The text of the minted amount a settlement records. -/
def recordedMint (attributes : EventAttributes) (effectiveBurn : String) (mintRatio : Double) :
    Option String :=
  if truthy attributes.settlementResult ∨ truthy attributes.rewardDistributionDetailed then
    some ((attributes.mintedUpokt.map Coin.amount).getD effectiveBurn)
  else if truthy attributes.rewardDistribution then
    some (mintedAfterRatio effectiveBurn mintRatio).integerText
  else attributes.mintedUpokt.map Coin.amount

/-- The minted amount of a coin is the amount of the coin. -/
theorem minted_getD (mintedUpokt : Option Coin) (effectiveBurn : String) (denom : Option String) :
    ((mintedUpokt.map mintedCoin).getD ⟨effectiveBurn, denom⟩).amount =
      (mintedUpokt.map Coin.amount).getD effectiveBurn := by
  cases mintedUpokt <;> rfl

/-- What a distribution beyond the minted share is split into, and the share that is recorded. -/
theorem buildBurnsAndMints_ok {total : Int} {effectiveBurn : String} {mintRatio : Double}
    {claimed : Option Coin} {burns mints : List MintBurnOp} {minted : MintedCoin}
    (built : _buildBurnsAndMintsFromRewardTotal total effectiveBurn mintRatio claimed none =
      .ok (burns, mints, minted)) :
    ∃ share, (mintedAfterRatio effectiveBurn mintRatio).toBigInt = .ok share ∧ share ≤ total ∧
      mints = [claimedOp .tlmGlobalMintInflation ((total - share).tdiv 2) claimed,
        claimedOp .tlmGlobalMintReimbursementRequestEscrowDaoTransfer ((total - share).tdiv 2) claimed,
        claimedOp .tlmRelayBurnEqualsMintSupplierStakeMint share claimed] ∧
      minted.amount = (mintedAfterRatio effectiveBurn mintRatio).integerText := by
  unfold _buildBurnsAndMintsFromRewardTotal at built
  obtain ⟨share, value, built⟩ := exceptBind_ok built
  refine ⟨share, value, ?_⟩
  by_cases negative : total - share < 0
  · simp only [if_pos negative] at built
    cases built
  · simp only [if_neg negative] at built
    obtain ⟨burned, _, built⟩ := exceptBind_ok built
    cases built
    exact ⟨by omega, rfl, rfl⟩

/-- Which amount a settlement records as minted. -/
theorem resolveSettlementParts_minted {attributes : EventAttributes} {eventId : String} {blockId : ℕ}
    {effectiveBurn : String} {mintRatio : Double} {settlement : SettlementParts}
    (resolved : _resolveSettlementParts attributes eventId blockId effectiveBurn mintRatio =
      .ok settlement) :
    settlement.mintedUpokt.map MintedCoin.amount =
      recordedMint attributes effectiveBurn mintRatio := by
  unfold _resolveSettlementParts at resolved
  unfold recordedMint
  split at resolved
  · -- A settlement result takes the minted amount as told, or everything that was burned.
    rename_i result
    obtain ⟨transfers, _, rest⟩ := exceptBind_ok resolved
    obtain ⟨mints, _, rest⟩ := exceptBind_ok rest
    obtain ⟨burns, _, rest⟩ := exceptBind_ok rest
    obtain ⟨moved, _, rest⟩ := exceptBind_ok rest
    cases rest
    rw [if_pos (Or.inl result), Option.map_some, minted_getD]
  · rename_i noResult
    split at resolved
    · -- So does a detailed distribution.
      rename_i detailed
      obtain ⟨transfers, _, rest⟩ := exceptBind_ok resolved
      obtain ⟨burned, _, rest⟩ := exceptBind_ok rest
      obtain ⟨minted, _, rest⟩ := exceptBind_ok rest
      cases rest
      rw [if_pos (Or.inr detailed), Option.map_some, minted_getD]
    · rename_i noDetail
      rw [if_neg (not_or.mpr ⟨noResult, noDetail⟩)]
      split at resolved
      · -- A plain distribution takes the share of the ratio.
        rename_i plain
        obtain ⟨transfers, _, rest⟩ := exceptBind_ok resolved
        obtain ⟨⟨burns, mints, minted⟩, built, rest⟩ := exceptBind_ok rest
        cases rest
        rw [if_pos plain, Option.map_some]
        obtain ⟨_, _, _, _, spelled⟩ := buildBurnsAndMints_ok built
        rw [spelled]
      · -- Without a distribution the minted amount is as told, if it is.
        rename_i noDistribution
        cases resolved
        rw [if_neg noDistribution]
        cases attributes.mintedUpokt <;> rfl

/-- What an accepted event says about the amounts of its record. -/
structure Accepted (attributes : EventAttributes) (effectiveBurn : String) (mintRatio : Double)
    (props : EventClaimSettledProps) : Prop where
  claimed : bigInt effectiveBurn = .ok props.claimedAmount
  settled : bigInt effectiveBurn = .ok props.settledAmount
  overserviced : _computeOverservicingLoss attributes.overservicingLossUpokt
    (attributes.claimed.map Coin.amount) effectiveBurn = .ok props.overservicingLossAmount
  deflation : ∀ coin, attributes.deflationLossUpokt = some coin →
    bigInt coin.amount = .ok props.deflationLossAmount
  minted : ∀ text, recordedMint attributes effectiveBurn mintRatio = some text →
    ∃ minted, props.mintedAmount = some minted ∧ bigInt text = .ok minted ∧
      (attributes.deflationLossUpokt = none →
        props.deflationLossAmount = props.settledAmount - minted)
  unminted : recordedMint attributes effectiveBurn mintRatio = none → props.mintedAmount = none

/-- The amounts of the record of an accepted event. -/
theorem _handleEventClaimSettled_ok {kindText : CosmosEventKind → String}
    {mintRatioFromParams : Double} {getEffectiveBurn : String → String → Option String}
    {event : CosmosEvent} {props : EventClaimSettledProps}
    {transfers : List ModToAcctTransferRecord} {attributes : EventAttributes}
    (handled : _handleEventClaimSettled kindText mintRatioFromParams getEffectiveBurn event =
      .ok (props, transfers))
    (read : getAttributes event.attributes = .ok attributes) :
    ∃ effectiveBurn, effectiveBurnOf attributes getEffectiveBurn = .ok effectiveBurn ∧
      Accepted attributes effectiveBurn (mintRatioOf attributes mintRatioFromParams) props := by
  obtain ⟨found, same, handled⟩ := exceptBind_ok handled
  rw [read] at same
  cases same
  obtain ⟨effectiveBurn, burn, handled⟩ := exceptBind_ok handled
  obtain ⟨settlement, resolved, handled⟩ := exceptBind_ok handled
  obtain ⟨record, built, handled⟩ := exceptBind_ok handled
  cases handled
  have recorded := resolveSettlementParts_minted resolved
  refine ⟨effectiveBurn, burn, ?_⟩
  have record := buildClaimSettledProps_ok built
  have claiming := record.claimed
  rw [bigInt_orZero] at claiming
  have deflated := record.deflation
  unfold _computeDeflationLoss at deflated
  refine ⟨claiming, record.settled, record.overserviced, ?_, ?_, ?_⟩
  · intro coin given
    rw [given] at deflated
    exact deflated
  · intro text told
    rw [← recorded] at told
    obtain ⟨coin, present, rfl⟩ := Option.map_eq_some_iff.mp told
    have minting := record.minted
    rw [present] at minting
    obtain ⟨amount, value, stored⟩ := exceptMap_ok minting
    refine ⟨amount, stored.symm, value, fun absent => ?_⟩
    -- Without a stated loss it is what was settled and not minted.
    simp only [absent, record.settled, record.minted, ← stored] at deflated
    exact (Except.ok.inj deflated).symm
  · intro told
    rw [← recorded, Option.map_eq_none_iff] at told
    have minting := record.minted
    rw [told] at minting
    exact (Except.ok.inj minting).symm

/-- A property that can be read is the one behind an optional chain. -/
theorem optionalProperty_of_property {value : Json} {name : String} {found : Option Json}
    (read : property value name = .ok found) : optionalProperty (some value) name = found := by
  cases value with
  | null => cases read
  | object fields => cases read; rfl
  | bool _ => cases read; rfl
  | number _ => cases read; rfl
  | string _ => cases read; rfl
  | array _ => cases read; rfl

/-- What a claim is settled for: the settled amount, or else the matching burn, or else the claimed
amount. -/
theorem effectiveBurnOf_ok {attributes : EventAttributes}
    {getEffectiveBurn : String → String → Option String} {effectiveBurn : String}
    (found : effectiveBurnOf attributes getEffectiveBurn = .ok effectiveBurn) :
    some effectiveBurn = (attributes.settledUpokt.map Coin.amount).or
      ((matchingBurn attributes getEffectiveBurn).or (attributes.claimed.map Coin.amount)) := by
  unfold effectiveBurnOf at found
  unfold matchingBurn
  obtain ⟨sessionHeader, header, found⟩ := exceptBind_ok found
  obtain ⟨supplier, operator, found⟩ := exceptBind_ok found
  rw [optionalProperty_of_property header, optionalProperty_of_property operator]
  -- A settled amount comes first, then the burn of the block, then the claimed amount.
  cases settled : attributes.settledUpokt with
  | some coin =>
    rw [settled] at found
    cases found
    rfl
  | none =>
    rw [settled] at found
    simp only at found
    cases burned : getEffectiveBurn (orEmpty (optionalProperty sessionHeader "application_address"))
        (optionText supplier) with
    | some burn =>
      rw [burned] at found
      cases found
      simp
    | none =>
      rw [burned] at found
      cases claimed : attributes.claimed with
      | none =>
        rw [claimed] at found
        cases found
      | some coin =>
        rw [claimed] at found
        cases found
        simp

/-- A claim is settled for its claimed amount exactly if neither the settled amount nor, without one,
the matching burn is another one. -/
theorem effectiveBurn_eq_claimed {attributes : EventAttributes} {burn : Option String}
    {effectiveBurn : String} {coin : Coin} {claimed : Int}
    (found : some effectiveBurn = (attributes.settledUpokt.map Coin.amount).or
      (burn.or (attributes.claimed.map Coin.amount)))
    (given : attributes.claimed = some coin) (value : bigInt coin.amount = .ok claimed) :
    bigInt effectiveBurn = .ok claimed ↔
      (∀ coin, attributes.settledUpokt = some coin → bigInt coin.amount = .ok claimed) ∧
      (attributes.settledUpokt = none → ∀ text, burn = some text → bigInt text = .ok claimed) := by
  cases settled : attributes.settledUpokt with
  | some other =>
    rw [settled] at found
    simp only [Option.map_some, Option.some_or, Option.some.injEq] at found
    simp [found]
  | none =>
    cases burn with
    | some text =>
      simp only [settled, Option.map_none, Option.none_or, Option.some_or,
        Option.some.injEq] at found
      simp [found]
    | none =>
      simp only [settled, given, Option.map_none, Option.none_or, Option.map_some,
        Option.some.injEq] at found
      simp [found, value]

/-- The record tells what was minted exactly if the event does, when the whole of the claimed amount
is settled. -/
theorem mintTold_iff {attributes : EventAttributes} {effectiveBurn : String} {mintRatio : Double}
    {claimed lost : Int} {loss : Coin} (settled : bigInt effectiveBurn = .ok claimed)
    (given : attributes.deflationLossUpokt = some loss) (value : bigInt loss.amount = .ok lost) :
    MintTold attributes mintRatio claimed ↔ ∃ text,
      recordedMint attributes effectiveBurn mintRatio = some text ∧
        bigInt text = .ok (claimed - lost) := by
  -- The loss of the event is the only one there is.
  have only : MintTold attributes mintRatio claimed ↔
      if truthy attributes.settlementResult ∨ truthy attributes.rewardDistributionDetailed then
        match attributes.mintedUpokt with
        | some coin => bigInt coin.amount = .ok (claimed - lost)
        | none => lost = 0
      else if truthy attributes.rewardDistribution then
        bigInt ((Double.ofInt claimed).mul mintRatio).floor.integerText = .ok (claimed - lost)
      else ∃ coin, attributes.mintedUpokt = some coin ∧
        bigInt coin.amount = .ok (claimed - lost) := by
    unfold MintTold
    simp only [given]
    constructor
    · intro ⟨other, same, told⟩
      rw [value] at same
      cases same
      exact told
    · intro told
      exact ⟨lost, value, told⟩
  rw [only]
  unfold recordedMint
  by_cases listed : truthy attributes.settlementResult ∨ truthy attributes.rewardDistributionDetailed
  · simp only [if_pos listed]
    cases attributes.mintedUpokt with
    | some coin => simp
    | none =>
      -- Everything that was settled counts as minted, so nothing can be lost.
      simp only [Option.map_none, Option.getD_none, Option.some.injEq, exists_eq_left', settled,
        Except.ok.injEq]
      omega
  · simp only [if_neg listed]
    by_cases plain : truthy attributes.rewardDistribution
    · have double : Double.ofText effectiveBurn = Double.ofInt claimed := by
        simp only [Double.ofText, settled]
      simp only [if_pos plain, Option.some.injEq, exists_eq_left', mintedAfterRatio, double]
    · simp only [if_neg plain, Option.map_eq_some_iff]
      constructor
      · intro ⟨coin, present, told⟩
        exact ⟨coin.amount, ⟨coin, present, rfl⟩, told⟩
      · intro ⟨_, ⟨coin, present, rfl⟩, told⟩
        exact ⟨coin, present, told⟩

/-- A settlement records a minted amount exactly if the event has a reward format or tells it. -/
theorem recordedMint_ne_none {attributes : EventAttributes} {effectiveBurn : String}
    {mintRatio : Double} : recordedMint attributes effectiveBurn mintRatio ≠ none ↔
      attributes.mintedUpokt ≠ none ∨ truthy attributes.settlementResult ∨
        truthy attributes.rewardDistributionDetailed ∨ truthy attributes.rewardDistribution := by
  unfold recordedMint
  split
  · rename_i listed
    constructor
    · intro _
      rcases listed with result | detailed
      · exact Or.inr (Or.inl result)
      · exact Or.inr (Or.inr (Or.inl detailed))
    · intro _ absent
      cases absent
  · rename_i unlisted
    obtain ⟨noResult, noDetail⟩ := not_or.mp unlisted
    split
    · rename_i plain
      simp [plain]
    · rename_i noDistribution
      simp [noResult, noDetail, noDistribution]

/-- A settled claim adds up exactly if it has a claimed amount, the whole of it is settled, and the
event tells what was minted of it. -/
theorem claimSettled_addsUp_iff {kindText : CosmosEventKind → String} {mintRatioFromParams : Double}
    {getEffectiveBurn : String → String → Option String} {event : CosmosEvent}
    {props : EventClaimSettledProps} {transfers : List ModToAcctTransferRecord}
    {attributes : EventAttributes}
    (handled : _handleEventClaimSettled kindText mintRatioFromParams getEffectiveBurn event =
      .ok (props, transfers))
    (read : getAttributes event.attributes = .ok attributes) :
    AddsUp attributes props ↔ ∃ coin claimed, attributes.claimed = some coin ∧
      bigInt coin.amount = .ok claimed ∧
      SettledInFull attributes (matchingBurn attributes getEffectiveBurn) claimed ∧
      MintTold attributes (mintRatioOf attributes mintRatioFromParams) claimed := by
  obtain ⟨effectiveBurn, burn, accepted⟩ := _handleEventClaimSettled_ok handled read
  have found := effectiveBurnOf_ok burn
  -- The claimed and the settled amount of the record are the same number.
  have same : props.settledAmount = props.claimedAmount := by
    have twice := accepted.settled
    rw [accepted.claimed] at twice
    exact (Except.ok.inj twice).symm
  constructor
  · -- An account that adds up has no overservicing loss, as the settled amount is the claimed one.
    intro adds
    obtain ⟨coin, given, value⟩ := adds.claimed
    have none_lost : props.overservicingLossAmount = 0 := by
      have overserviced := adds.overserviced
      omega
    obtain ⟨settled, burned⟩ := (effectiveBurn_eq_claimed found given value).mp accepted.claimed
    refine ⟨coin, props.claimedAmount, given, value, ⟨settled, burned, ?_⟩, ?_⟩
    · intro lost told
      have overserviced := accepted.overserviced
      rw [told, none_lost] at overserviced
      exact overserviced
    · -- What was minted is told, and falls short of the claim by the loss that is told.
      obtain ⟨minted, recorded, split⟩ := adds.minted
      cases text : recordedMint attributes effectiveBurn
          (mintRatioOf attributes mintRatioFromParams) with
      | none =>
        rw [accepted.unminted text] at recorded
        cases recorded
      | some text' =>
        obtain ⟨other, recorded', amount, _⟩ := accepted.minted text' text
        rw [recorded] at recorded'
        cases recorded'
        cases loss : attributes.deflationLossUpokt with
        | none =>
          unfold MintTold
          simp only [loss]
          exact recordedMint_ne_none.mp (by rw [text]; exact Option.some_ne_none _)
        | some coin =>
          refine (mintTold_iff accepted.claimed loss (accepted.deflation coin loss)).mpr ?_
          refine ⟨text', text, ?_⟩
          rw [amount]
          congr 1
          omega
  · -- Settled in full, the claim is recorded with the amount that it told.
    intro ⟨coin, claimed, given, value, full, told⟩
    have settled := (effectiveBurn_eq_claimed found given value).mpr ⟨full.settled, full.burned⟩
    have amount : props.claimedAmount = claimed := by
      have twice := accepted.claimed
      rw [settled] at twice
      exact (Except.ok.inj twice).symm
    refine ⟨⟨coin, given, by rw [value, amount]⟩, ?_, ?_⟩
    · -- Either no loss is told, and the difference of the two amounts is none, or it is told to be zero.
      have overserviced := accepted.overserviced
      unfold _computeOverservicingLoss at overserviced
      have lost : props.overservicingLossAmount = 0 := by
        cases loss : attributes.overservicingLossUpokt with
        | some coin =>
          simp only [loss, full.loss coin loss] at overserviced
          exact (Except.ok.inj overserviced).symm
        | none =>
          simp only [loss, given, Option.map_some] at overserviced
          split at overserviced
          · rw [value, settled] at overserviced
            have difference := Except.ok.inj overserviced
            omega
          · exact (Except.ok.inj overserviced).symm
      omega
    · -- Without a loss told, the record takes the difference to what was minted.
      cases loss : attributes.deflationLossUpokt with
      | none =>
        unfold MintTold at told
        simp only [loss] at told
        obtain ⟨text, recorded⟩ := Option.ne_none_iff_exists'.mp
          ((@recordedMint_ne_none attributes effectiveBurn
            (mintRatioOf attributes mintRatioFromParams)).mpr told)
        obtain ⟨minted, stored, _, rest⟩ := accepted.minted text recorded
        refine ⟨minted, stored, ?_⟩
        have lost := rest loss
        omega
      | some coin =>
        obtain ⟨text, recorded, minting⟩ :=
          (mintTold_iff settled loss (accepted.deflation coin loss)).mp told
        obtain ⟨minted, stored, spelled, _⟩ := accepted.minted text recorded
        rw [minting] at spelled
        cases spelled
        refine ⟨_, stored, ?_⟩
        omega

/-- A claim of 100upokt with a detailed distribution of nothing, and what became of the amount. -/
def settledClaim (settled minted overserviced deflated : ℕ) : CosmosEvent where
  idx := 0
  height := 10
  kind := .endBlock
  type := .claimSettled
  attributes := [⟨"supplier_operator_address", "\"supplier\""⟩, ⟨"application_address", "\"app\""⟩,
    ⟨"claimed_upokt", "\"100upokt\""⟩, ⟨"num_estimated_relays", "\"1\""⟩,
    ⟨"reward_distribution_detailed", "[]"⟩, ⟨"settled_upokt", s!"\"{settled}upokt\""⟩,
    ⟨"minted_upokt", s!"\"{minted}upokt\""⟩,
    ⟨"overservicing_loss_upokt", s!"\"{overserviced}upokt\""⟩,
    ⟨"deflation_loss_upokt", s!"\"{deflated}upokt\""⟩]
  tx := none
  msg := none

/-- The record of a claim no overserviced event matches, with a mint ratio of one. -/
def recordOf (event : CosmosEvent) :
    Except String (EventClaimSettledProps × List ModToAcctTransferRecord) :=
  _handleEventClaimSettled (fun _ => "end") (.finite 1) (fun _ _ => none) event

/-- The five amounts of the attributes of an event that can be read. -/
def coinsOf (event : CosmosEvent) : Option (List (Option Coin)) :=
  (getAttributes event.attributes).toOption.map fun attributes =>
    [attributes.claimed, attributes.settledUpokt, attributes.mintedUpokt,
      attributes.overservicingLossUpokt, attributes.deflationLossUpokt]

/-- The amount of the only coin a value can be. -/
theorem amount_of_told {given : Option Coin} {told : Coin} {amount : Int} (only : given = some told)
    (value : bigInt told.amount = .ok amount) :
    ∀ coin, given = some coin → bigInt coin.amount = .ok amount := by
  intro coin same
  rw [only] at same
  cases same
  exact value

/-- A claim that was settled in full and minted for nine tenths adds up. -/
theorem claimSettled_addsUp_iff_deflated : ∃ attributes props transfers,
    recordOf (settledClaim 100 90 0 10) = .ok (props, transfers) ∧
    getAttributes (settledClaim 100 90 0 10).attributes = .ok attributes ∧
    AddsUp attributes props := by
  have recorded : (recordOf (settledClaim 100 90 0 10)).toOption.isSome = true := by decide +kernel
  have coins : coinsOf (settledClaim 100 90 0 10) = some [some ⟨"100", "upokt"⟩,
      some ⟨"100", "upokt"⟩, some ⟨"90", "upokt"⟩, some ⟨"0", "upokt"⟩, some ⟨"10", "upokt"⟩] := by
    decide +kernel
  obtain ⟨⟨props, transfers⟩, handled⟩ := Option.isSome_iff_exists.mp recorded
  obtain ⟨attributes, read, coins⟩ := Option.map_eq_some_iff.mp coins
  simp only [List.cons.injEq, and_true] at coins
  obtain ⟨claimed, settled, minted, lost, loss⟩ := coins
  have detailed : (getAttributes (settledClaim 100 90 0 10).attributes).toOption.map
      (fun attributes => truthy attributes.rewardDistributionDetailed) = some true := by
    decide +kernel
  rw [read] at detailed
  refine ⟨attributes, props, transfers, ok_of_toOption handled, ok_of_toOption read,
    (claimSettled_addsUp_iff (ok_of_toOption handled) (ok_of_toOption read)).mpr
      ⟨⟨"100", "upokt"⟩, 100, claimed, rfl,
        ⟨amount_of_told settled rfl, ?_, amount_of_told lost rfl⟩, ?_⟩⟩
  · intro absent
    rw [settled] at absent
    cases absent
  · unfold MintTold
    simp only [loss, minted]
    refine ⟨10, rfl, ?_⟩
    rw [if_pos (Or.inr (Option.some.inj detailed))]
    rfl

/-- A claim that lost a fifth to overservicing is recorded as claimed for the rest only. -/
theorem claimSettled_overserviced : ∃ attributes props transfers,
    recordOf (settledClaim 80 80 20 0) = .ok (props, transfers) ∧
    getAttributes (settledClaim 80 80 20 0).attributes = .ok attributes ∧
    Documented attributes 100 80 80 ∧ ¬AddsUp attributes props := by
  have coins : coinsOf (settledClaim 80 80 20 0) = some [some ⟨"100", "upokt"⟩,
      some ⟨"80", "upokt"⟩, some ⟨"80", "upokt"⟩, some ⟨"20", "upokt"⟩, some ⟨"0", "upokt"⟩] := by
    decide +kernel
  have amounts : (recordOf (settledClaim 80 80 20 0)).toOption.map
      (fun record => record.1.claimedAmount) = some 80 := by
    decide +kernel
  obtain ⟨⟨props, transfers⟩, handled, amount⟩ := Option.map_eq_some_iff.mp amounts
  obtain ⟨attributes, read, coins⟩ := Option.map_eq_some_iff.mp coins
  simp only [List.cons.injEq, and_true] at coins
  obtain ⟨claimed, settled, minted, lost, loss⟩ := coins
  refine ⟨attributes, props, transfers, ok_of_toOption handled, ok_of_toOption read,
    ⟨amount_of_told claimed rfl, amount_of_told settled rfl, amount_of_told minted rfl,
      amount_of_told lost rfl, amount_of_told loss rfl, by decide⟩, ?_⟩
  -- The chain claimed a hundred.
  intro adds
  obtain ⟨coin, told, value⟩ := adds.claimed
  rw [claimed] at told
  cases told
  rw [show props.claimedAmount = 80 from amount] at value
  cases value

end Pocketdex.Settlement
