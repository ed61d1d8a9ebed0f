import Pocketdex.Pocket.ExactSettlement
import Pocketdex.Proofs.SettlementAccounts

/-! Which amount is recorded as minted, in each of the formats a reward can have. -/

namespace Pocketdex.Settlement

/-- The event carries its reward in one of the three formats. -/
def CarriesReward (attributes : EventAttributes) : Prop :=
  truthy attributes.settlementResult ∨ truthy attributes.rewardDistributionDetailed ∨
    truthy attributes.rewardDistribution

/-- The minted amount is the one of the chain, or else the share of the settled amount. -/
def MintedAsStated (attributes : EventAttributes) (settled : Int) (ratio : ℚ)
    (minted : Option Int) : Prop :=
  match attributes.mintedUpokt with
  | some coin => ∃ amount, bigInt coin.amount = .ok amount ∧ minted = some amount
  | none => minted = some ⌊settled * ratio⌋

/-- A settlement result and a detailed distribution fall back to the whole settled amount, and a
plain distribution always takes the share of the ratio. -/
def FormatAgrees (attributes : EventAttributes) (settled : Int) (ratio : ℚ) : Prop :=
  if truthy attributes.settlementResult ∨ truthy attributes.rewardDistributionDetailed then
    attributes.mintedUpokt ≠ none ∨ ⌊settled * ratio⌋ = settled
  else ∀ coin, attributes.mintedUpokt = some coin → bigInt coin.amount = .ok ⌊settled * ratio⌋

/-- The text of the minted amount a settlement records, with exact arithmetic. -/
def exactRecordedMint (attributes : EventAttributes) (effectiveBurn : String)
    (ratio : Option ℚ) : Option String :=
  if truthy attributes.settlementResult ∨ truthy attributes.rewardDistributionDetailed then
    some ((attributes.mintedUpokt.map Coin.amount).getD effectiveBurn)
  else if truthy attributes.rewardDistribution then
    (Exact.toBigInt (Exact.mintedAfterRatio effectiveBurn ratio)).toOption.map toString
  else attributes.mintedUpokt.map Coin.amount

/-- A whole number converts to itself. -/
theorem toBigInt_intCast (value : Int) : Exact.toBigInt (some (value : ℚ)) = .ok value := by
  simp [Exact.toBigInt]

/-- The minted share of a settled amount. -/
theorem mintedAfterRatio_exact {effectiveBurn : String} {settled : Int} {ratio : ℚ}
    (amount : bigInt effectiveBurn = .ok settled) :
    Exact.mintedAfterRatio effectiveBurn (some ratio) = some (⌊settled * ratio⌋ : ℚ) := by
  simp [Exact.mintedAfterRatio, Exact.number, amount]

/-- The share that is recorded, and that it is written in full. -/
theorem exactBurnsAndMints_ok {total : Int} {effectiveBurn : String} {ratio : Option ℚ}
    {claimed : Option Coin} {burns mints : List MintBurnOp} {minted : MintedCoin}
    (built : Exact._buildBurnsAndMintsFromRewardTotal total effectiveBurn ratio claimed none =
      .ok (burns, mints, minted)) :
    ∃ share, Exact.toBigInt (Exact.mintedAfterRatio effectiveBurn ratio) = .ok share ∧
      minted.amount = toString share := by
  unfold Exact._buildBurnsAndMintsFromRewardTotal at built
  obtain ⟨share, value, built⟩ := exceptBind_ok built
  refine ⟨share, value, ?_⟩
  by_cases negative : total - share < 0
  · simp only [if_pos negative] at built
    cases built
  · simp only [if_neg negative] at built
    obtain ⟨burned, _, built⟩ := exceptBind_ok built
    cases built
    rfl

/-- The formats that do not depend on the ratio record the same in both readings. -/
theorem resolveSettlementParts_exact {attributes : EventAttributes} {eventId : String}
    {blockId : ℕ} {effectiveBurn : String} {mintRatio : Double} {ratio : Option ℚ}
    (plain : ¬ (truthy attributes.settlementResult ∨
      truthy attributes.rewardDistributionDetailed) → ¬ truthy attributes.rewardDistribution) :
    Exact._resolveSettlementParts attributes eventId blockId effectiveBurn ratio =
      _resolveSettlementParts attributes eventId blockId effectiveBurn mintRatio := by
  unfold Exact._resolveSettlementParts _resolveSettlementParts
  by_cases result : truthy attributes.settlementResult
  · rw [if_pos result, if_pos result]
  · rw [if_neg result, if_neg result]
    by_cases detailed : truthy attributes.rewardDistributionDetailed
    · rw [if_pos detailed, if_pos detailed]
    · rw [if_neg detailed, if_neg detailed]
      have none := plain (not_or.mpr ⟨result, detailed⟩)
      rw [if_neg none, if_neg none]

/-- Which amount a settlement records as minted, with exact arithmetic. -/
theorem exactSettlementParts_minted {attributes : EventAttributes} {eventId : String}
    {blockId : ℕ} {effectiveBurn : String} {ratio : Option ℚ} {settlement : SettlementParts}
    (resolved : Exact._resolveSettlementParts attributes eventId blockId effectiveBurn ratio =
      .ok settlement) :
    settlement.mintedUpokt.map MintedCoin.amount =
      exactRecordedMint attributes effectiveBurn ratio := by
  unfold exactRecordedMint
  by_cases whole : truthy attributes.settlementResult ∨ truthy attributes.rewardDistributionDetailed
  · -- These two formats do not use the ratio.
    rw [@resolveSettlementParts_exact _ _ _ _ .nan _ (fun neither => absurd whole neither)]
      at resolved
    rw [resolveSettlementParts_minted resolved, recordedMint, if_pos whole, if_pos whole]
  · rw [if_neg whole]
    by_cases plain : truthy attributes.rewardDistribution
    · rw [Exact._resolveSettlementParts, if_neg (not_or.mp whole).1, if_neg (not_or.mp whole).2,
        if_pos plain] at resolved
      obtain ⟨transfers, _, rest⟩ := exceptBind_ok resolved
      obtain ⟨⟨burns, mints, minted⟩, built, rest⟩ := exceptBind_ok rest
      cases rest
      obtain ⟨share, value, spelled⟩ := exactBurnsAndMints_ok built
      rw [if_pos plain, Option.map_some, value, spelled]
      rfl
    · rw [@resolveSettlementParts_exact _ _ _ _ .nan _ (fun _ => plain)] at resolved
      rw [resolveSettlementParts_minted resolved, recordedMint, if_neg whole, if_neg plain,
        if_neg plain]

/-- The recorded amount of a minted text. -/
theorem mintedAmountOf_some {mintedUpokt : Option MintedCoin} {minted : Option Int} {text : String}
    (told : mintedUpokt.map MintedCoin.amount = some text)
    (read : mintedAmountOf mintedUpokt = .ok minted) :
    ∃ amount, bigInt text = .ok amount ∧ minted = some amount := by
  obtain ⟨coin, rfl, rfl⟩ := Option.map_eq_some_iff.mp told
  obtain ⟨amount, value, rfl⟩ := exceptMap_ok read
  exact ⟨amount, value, rfl⟩

/-- A claim with a reward records the stated minted amount exactly when its format agrees with it. -/
theorem mintedAmount_asStated_iff {kindText : CosmosEventKind → String}
    {mintRatioParam : Option String} {getEffectiveBurn : String → String → Option String}
    {event : CosmosEvent} {attributes : EventAttributes} {effectiveBurn : String} {settled : Int}
    {ratio : ℚ} {props : EventClaimSettledProps} {transfers : List ModToAcctTransferRecord}
    (read : getAttributes event.attributes = .ok attributes)
    (carries : CarriesReward attributes)
    (burn : effectiveBurnOf attributes getEffectiveBurn = .ok effectiveBurn)
    (amount : bigInt effectiveBurn = .ok settled)
    (rate : Exact.mintRatioOf attributes mintRatioParam = some ratio)
    (handled : Exact._handleEventClaimSettled kindText mintRatioParam getEffectiveBurn event =
      .ok (props, transfers)) :
    MintedAsStated attributes settled ratio props.mintedAmount ↔
      FormatAgrees attributes settled ratio := by
  obtain ⟨found, same, handled⟩ := exceptBind_ok handled
  rw [read] at same
  cases same
  obtain ⟨burned, same, handled⟩ := exceptBind_ok handled
  rw [burn] at same
  cases same
  obtain ⟨settlement, resolved, handled⟩ := exceptBind_ok handled
  obtain ⟨record, built, handled⟩ := exceptBind_ok handled
  cases handled
  have minted := (buildClaimSettledProps_ok built).minted
  have told := exactSettlementParts_minted resolved
  rw [rate, exactRecordedMint] at told
  unfold MintedAsStated FormatAgrees
  by_cases whole : truthy attributes.settlementResult ∨ truthy attributes.rewardDistributionDetailed
  · rw [if_pos whole] at told ⊢
    obtain ⟨stored, value, same⟩ := mintedAmountOf_some told minted
    cases given : attributes.mintedUpokt with
    | some coin =>
      -- The chain's minted amount is taken over.
      rw [given] at value
      exact ⟨fun _ => Or.inl (Option.some_ne_none coin), fun _ => ⟨stored, value, same⟩⟩
    | none =>
      -- Without one the whole settled amount counts as minted.
      simp only [given, Option.map_none, Option.getD_none, amount, Except.ok.injEq] at value
      rw [same, ← value, Option.some.injEq]
      simp only [ne_eq, not_true_eq_false, false_or]
      exact eq_comm
  · rw [if_neg whole] at told ⊢
    have plain : truthy attributes.rewardDistribution :=
      (carries.resolve_left fun result => whole (Or.inl result)).resolve_left
        fun detailed => whole (Or.inr detailed)
    rw [if_pos plain, mintedAfterRatio_exact amount, toBigInt_intCast] at told
    obtain ⟨stored, value, same⟩ := mintedAmountOf_some told minted
    rw [bigInt_int, Except.ok.injEq] at value
    subst value
    cases given : attributes.mintedUpokt with
    | none => simp [same]
    | some coin =>
      -- The chain's minted amount is not looked at.
      simp only [same, Option.some.injEq]
      constructor
      · rintro ⟨told, worth, equal⟩ other rfl
        rw [worth, equal]
      · exact fun agrees => ⟨_, agrees coin rfl, rfl⟩

/-- When the double arithmetic of a plain distribution is exact, both readings record one amount. -/
theorem mintedAmount_exact {kindText : CosmosEventKind → String} {mintRatioParam : Option String}
    {getEffectiveBurn : String → String → Option String} {event : CosmosEvent}
    {attributes : EventAttributes} {effectiveBurn : String} {share : Int}
    {props exactProps : EventClaimSettledProps} {transfers others : List ModToAcctTransferRecord}
    (read : getAttributes event.attributes = .ok attributes)
    (burn : effectiveBurnOf attributes getEffectiveBurn = .ok effectiveBurn)
    (exact : Exact.toBigInt (Exact.mintedAfterRatio effectiveBurn
      (Exact.mintRatioOf attributes mintRatioParam)) = .ok share)
    (spelled : bigInt (mintedAfterRatio effectiveBurn (mintRatioOf attributes
      (mintRatioFromParam mintRatioParam))).integerText = .ok share)
    (handled : _handleEventClaimSettled kindText (mintRatioFromParam mintRatioParam)
      getEffectiveBurn event = .ok (props, transfers))
    (exactly : Exact._handleEventClaimSettled kindText mintRatioParam getEffectiveBurn event =
      .ok (exactProps, others)) : props.mintedAmount = exactProps.mintedAmount := by
  obtain ⟨found, same, exactly⟩ := exceptBind_ok exactly
  rw [read] at same
  cases same
  obtain ⟨burned, same, exactly⟩ := exceptBind_ok exactly
  rw [burn] at same
  cases same
  obtain ⟨settlement, resolved, exactly⟩ := exceptBind_ok exactly
  obtain ⟨record, built, exactly⟩ := exceptBind_ok exactly
  cases exactly
  -- Both handlers read the same attributes and the same burn.
  have minted := (buildClaimSettledProps_ok built).minted
  have told := exactSettlementParts_minted resolved
  obtain ⟨burned, same, accepted⟩ := _handleEventClaimSettled_ok handled read
  rw [burn] at same
  cases same
  unfold exactRecordedMint at told
  cases recorded : recordedMint attributes effectiveBurn (mintRatioOf attributes
      (mintRatioFromParam mintRatioParam)) with
  | none =>
    -- Nothing is recorded in either reading.
    rw [accepted.unminted recorded]
    unfold recordedMint at recorded
    split at recorded
    · cases recorded
    · rename_i partly
      rw [if_neg partly] at told
      split at recorded
      · cases recorded
      · rename_i plain
        rw [if_neg plain, recorded, Option.map_eq_none_iff] at told
        rw [told, mintedAmountOf, Except.ok.injEq] at minted
        exact minted
  | some text =>
    obtain ⟨amount, same, value, _⟩ := accepted.minted text recorded
    rw [same]
    unfold recordedMint at recorded
    split at recorded
    · -- A told amount is taken as it is, without a ratio.
      rename_i whole
      rw [if_pos whole, recorded] at told
      obtain ⟨stored, worth, equal⟩ := mintedAmountOf_some told minted
      rw [value, Except.ok.injEq] at worth
      rw [equal, worth]
    · rename_i partly
      rw [if_neg partly] at told
      split at recorded
      · -- The share is spelled in full by both.
        rename_i plain
        rw [if_pos plain, exact] at told
        obtain ⟨stored, worth, equal⟩ := mintedAmountOf_some told minted
        cases recorded
        rw [spelled, Except.ok.injEq] at value
        rw [bigInt_int, Except.ok.injEq] at worth
        rw [equal, ← value, worth]
      · rename_i plain
        rw [if_neg plain, recorded] at told
        obtain ⟨stored, worth, equal⟩ := mintedAmountOf_some told minted
        rw [value, Except.ok.injEq] at worth
        rw [equal, worth]

/-- A claim of a detailed distribution that does not tell the minted amount, at a ratio of a half. -/
def halvedClaim : CosmosEvent where
  idx := 0
  height := 10
  kind := .endBlock
  type := .claimSettled
  attributes := [⟨"supplier_operator_address", "\"supplier\""⟩, ⟨"application_address", "\"app\""⟩,
    ⟨"claimed_upokt", "\"100upokt\""⟩, ⟨"num_estimated_relays", "\"1\""⟩,
    ⟨"reward_distribution_detailed", "[]"⟩, ⟨"settled_upokt", "\"100upokt\""⟩,
    ⟨"mint_ratio", "\"0.5\""⟩]
  tx := none
  msg := none

/-- The record of a claim no overserviced event matches, before there is a ratio parameter. -/
def exactRecordOf (event : CosmosEvent) :
    Except String (EventClaimSettledProps × List ModToAcctTransferRecord) :=
  Exact._handleEventClaimSettled (fun _ => "end") none (fun _ _ => none) event

/-- What is read of an event, as far as the minted amount depends on it. -/
def mintReadOf (event : CosmosEvent) : Option (Option Coin × Bool × Option ℚ × Option String) :=
  (getAttributes event.attributes).toOption.map fun attributes =>
    (attributes.mintedUpokt, truthy attributes.rewardDistributionDetailed,
      Exact.mintRatioOf attributes none, (effectiveBurnOf attributes fun _ _ => none).toOption)

/-- The minted amount of a claim that tells it is recorded as told. -/
theorem mintedAmount_asStated_told : ∃ attributes props transfers,
    exactRecordOf (settledClaim 100 90 0 10) = .ok (props, transfers) ∧
      MintedAsStated attributes 100 1 props.mintedAmount := by
  have recorded : (exactRecordOf (settledClaim 100 90 0 10)).toOption.isSome = true := by
    decide +kernel
  have told : mintReadOf (settledClaim 100 90 0 10) =
      some (some ⟨"90", "upokt"⟩, true, some 1, some "100") := by decide +kernel
  obtain ⟨⟨props, transfers⟩, handled⟩ := Option.isSome_iff_exists.mp recorded
  obtain ⟨attributes, read, told⟩ := Option.map_eq_some_iff.mp told
  simp only [Prod.mk.injEq] at told
  obtain ⟨minted, detailed, rate, burn⟩ := told
  refine ⟨attributes, props, transfers, ok_of_toOption handled,
    (mintedAmount_asStated_iff (ok_of_toOption read) (Or.inr (Or.inl detailed))
      (ok_of_toOption burn) (ok_of_toOption (by decide +kernel)) rate
      (ok_of_toOption handled)).mpr ?_⟩
  rw [FormatAgrees, if_pos (Or.inr detailed), minted]
  exact Or.inl (Option.some_ne_none _)

/-- A detailed distribution without the minted amount counts everything as minted at any ratio. -/
theorem mintedAmount_ignores_ratio : ∃ attributes props transfers,
    getAttributes halvedClaim.attributes = .ok attributes ∧ CarriesReward attributes ∧
      effectiveBurnOf attributes (fun _ _ => none) = .ok "100" ∧ bigInt "100" = .ok 100 ∧
      Exact.mintRatioOf attributes none = some (1 / 2) ∧
      exactRecordOf halvedClaim = .ok (props, transfers) ∧
      ¬ MintedAsStated attributes 100 (1 / 2) props.mintedAmount := by
  have amounts : (exactRecordOf halvedClaim).toOption.map (fun record => record.1.mintedAmount) =
      some (some 100) := by decide +kernel
  have told : mintReadOf halvedClaim = some (none, true, some (1 / 2), some "100") := by
    decide +kernel
  obtain ⟨⟨props, transfers⟩, handled, stored⟩ := Option.map_eq_some_iff.mp amounts
  obtain ⟨attributes, read, told⟩ := Option.map_eq_some_iff.mp told
  simp only [Prod.mk.injEq] at told
  obtain ⟨minted, detailed, rate, burn⟩ := told
  refine ⟨attributes, props, transfers, ok_of_toOption read, Or.inr (Or.inl detailed),
    ok_of_toOption burn, ok_of_toOption (by decide +kernel), rate, ok_of_toOption handled, ?_⟩
  -- Half of a hundred should have been minted.
  rw [MintedAsStated, minted, show props.mintedAmount = some 100 from stored]
  decide +kernel

end Pocketdex.Settlement
