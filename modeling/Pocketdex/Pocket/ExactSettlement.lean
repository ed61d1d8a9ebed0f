import Pocketdex.Pocket.Settlement

/-! The settlement of a claim with its number arithmetic read as exact arithmetic on rationals. -/

namespace Pocketdex.Settlement.Exact

/-- The exact value at the front of a text, whatever follows it. -/
def parseFloat (text : String) : Option ℚ :=
  let (negative, chars) := splitSign (text.toList.dropWhile isWhitespace)
  (Double.decimalPrefix chars).map fun (value, _) => if negative then -value else value

/-- The exact value a whole text spells. -/
def number (text : String) : Option ℚ :=
  match bigInt text with
  | .ok value => some value
  | .error _ =>
    let (negative, chars) := splitSign (trimBlanks text.toList)
    match Double.decimalPrefix chars with
    | some (value, []) => some (if negative then -value else value)
    | _ => none

/-- Converting an exact value to an integer throws unless it is one. -/
def toBigInt : Option ℚ → Except String Int
  | some value =>
    if value.den = 1 then .ok value.num
    else .error "The number cannot be converted to a BigInt because it is not an integer"
  | none => .error "The number cannot be converted to a BigInt because it is not an integer"

/-- The mint ratio of the parameters, which is one before there is such a parameter. -/
def mintRatioFromParam (mintRatioParam : Option String) : Option ℚ :=
  match mintRatioParam with
  | some value => parseFloat value
  | none => some 1

/-- The mint ratio of an event, or else the one of the parameters. -/
def mintRatioOf (attributes : EventAttributes) (mintRatioParam : Option String) : Option ℚ :=
  match attributes.mintRatioStr with
  | some text => if text = "" then mintRatioFromParam mintRatioParam else parseFloat text
  | none => mintRatioFromParam mintRatioParam

/-- The share of a settled amount that is minted. -/
def mintedAfterRatio (effectiveBurn : String) (mintRatio : Option ℚ) : Option ℚ :=
  (number effectiveBurn).bind fun burned => mintRatio.map fun ratio => (⌊burned * ratio⌋ : ℚ)

/-- The mints and burns behind the total of a reward distribution. -/
def _buildBurnsAndMintsFromRewardTotal (totalFromRewardDistribution : Int) (effectiveBurn : String)
    (mintRatio : Option ℚ) (claimed : Option Coin) (mintedUpokt : Option MintedCoin) :
    Except String (List MintBurnOp × List MintBurnOp × MintedCoin) := do
  let mintedAfterRatio := match mintedUpokt with
    | some coin => number coin.amount
    | none => mintedAfterRatio effectiveBurn mintRatio
  let minted ← toBigInt mintedAfterRatio
  let inflationPlusReimbursementMint := totalFromRewardDistribution - minted
  if inflationPlusReimbursementMint < 0 then
    .error s!"inflationAndReimbursementMint is negative, totalFromRewardDistribution: {totalFromRewardDistribution}, claimed.amount: {effectiveBurn}"
  else do
    let inflationAndReimbursementMint := inflationPlusReimbursementMint.tdiv 2
    let burned ← bigInt effectiveBurn
    return ([claimedOp .tlmRelayBurnEqualsMintApplicationStakeBurn burned claimed],
      [claimedOp .tlmGlobalMintInflation inflationAndReimbursementMint claimed,
        claimedOp .tlmGlobalMintReimbursementRequestEscrowDaoTransfer inflationAndReimbursementMint
          claimed,
        claimedOp .tlmRelayBurnEqualsMintSupplierStakeMint minted claimed],
      mintedUpokt.getD ⟨toString minted, claimed.map Coin.denom⟩)

/-- The parts of a reward distribution without reasons. -/
def _buildSettlementFromDistribution (rewardDistribution : Json) (eventId : String) (blockId : ℕ)
    (effectiveBurn : String) (mintRatio : Option ℚ) (claimed : Option Coin) :
    Except String SettlementParts := do
  let modToAcctTransfers ← Pocketdex._buildSettlementFromDistribution rewardDistribution eventId
    blockId
  let totalFromRewardDistribution := (modToAcctTransfers.map ModToAcctTransferRecord.amount).sum
  -- The builder is not given the minted amount of the event.
  let (burns, mints, mintedUpokt) ← _buildBurnsAndMintsFromRewardTotal totalFromRewardDistribution
    effectiveBurn mintRatio claimed none
  return { modToAcctTransfers, mints, burns, modToModTransfers := [], mintedUpokt := some mintedUpokt }

/-- The parts of a settlement come from the first of three attributes the event carries. -/
def _resolveSettlementParts (attributes : EventAttributes) (eventId : String) (blockId : ℕ)
    (effectiveBurn : String) (mintRatio : Option ℚ) : Except String SettlementParts :=
  if truthy attributes.settlementResult then
    _buildSettlementFromResult (attributes.settlementResult.getD .null) eventId blockId effectiveBurn
      attributes.claimed attributes.mintedUpokt
  else if truthy attributes.rewardDistributionDetailed then
    _buildSettlementFromDetailedDistribution (attributes.rewardDistributionDetailed.getD .null)
      eventId blockId effectiveBurn attributes.claimed attributes.mintedUpokt
  else if truthy attributes.rewardDistribution then
    _buildSettlementFromDistribution (attributes.rewardDistribution.getD .null) eventId blockId
      effectiveBurn mintRatio attributes.claimed
  else .ok ⟨[], [], [], [], attributes.mintedUpokt.map mintedCoin⟩

/-- The record and the transfers of one settled claim, whose ratio is recorded as a double. -/
def _handleEventClaimSettled (kindText : CosmosEventKind → String) (mintRatioParam : Option String)
    (getEffectiveBurn : String → String → Option String) (event : CosmosEvent) :
    Except String (EventClaimSettledProps × List ModToAcctTransferRecord) := do
  let attributes ← getAttributes event.attributes
  let effectiveBurn ← effectiveBurnOf attributes getEffectiveBurn
  let settlement ← _resolveSettlementParts attributes (getEventId kindText event)
    (getBlockId event.height) effectiveBurn (mintRatioOf attributes mintRatioParam)
  let props ← _buildClaimSettledProps kindText event attributes settlement effectiveBurn
    (Settlement.mintRatioOf attributes (Settlement.mintRatioFromParam mintRatioParam))
  return (props, settlement.modToAcctTransfers)

end Pocketdex.Settlement.Exact
