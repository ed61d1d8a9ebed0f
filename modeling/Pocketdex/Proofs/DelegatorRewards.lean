import Pocketdex.Proofs.DelegatorData

/-! When the rewards of delegators by service are not multiplied by the joins. -/

namespace Pocketdex

open Settlement

/-- The transfers to some addresses in blocks between two dates. -/
def paymentsTo (tables : DelegatorTables) (addresses : List String) (startTs endTs : Int) :
    List ModToAcctTransferRecord :=
  tables.modToAcctTransfers.filter fun m => m.recipientId ∈ addresses ∧
    (tables.blocks.any fun block => block.id = m.blockId && block.within startTs endTs) = true

/-- How many of some transfers a claim paid. -/
def paidTimes (payments : List ModToAcctTransferRecord) (e : EventClaimSettledProps) : ℕ :=
  payments.countP fun m => e.id = m.eventClaimSettledId

section

variable (tables : DelegatorTables) (payments : List ModToAcctTransferRecord)

/-- The settled claims of a service that paid one of some transfers. -/
def payingClaims (serviceId : String) : List EventClaimSettledProps :=
  tables.eventClaimSettleds.filter fun e => e.serviceId = serviceId ∧ 0 < paidTimes payments e

/-- Whether a transfer was paid by a claim of a service. -/
def PaidFor (serviceId : String) (m : ModToAcctTransferRecord) : Prop :=
  ∃ e ∈ tables.eventClaimSettleds, e.id = m.eventClaimSettledId ∧ e.serviceId = serviceId

instance (serviceId : String) (m : ModToAcctTransferRecord) :
    Decidable (PaidFor tables serviceId m) := inferInstanceAs (Decidable (∃ _, _ ∧ _))

/-- Whether a transfer was paid by a claim. -/
def PaidByClaim (m : ModToAcctTransferRecord) : Prop :=
  ∃ e ∈ tables.eventClaimSettleds, e.id = m.eventClaimSettledId

instance (m : ModToAcctTransferRecord) : Decidable (PaidByClaim tables m) :=
  inferInstanceAs (Decidable (∃ _, _ ∧ _))

/-- The rewards of a service: its transfers, and its paying claims, each counted once. -/
def expectedRewards (serviceId : String) : ServiceRewards :=
  let claims := payingClaims tables payments serviceId
  { serviceId
    relays := (claims.map EventClaimSettledProps.numRelays).sum
    estimatedRelays := (claims.map EventClaimSettledProps.numEstimatedRelays).sum
    computedUnits := (claims.map EventClaimSettledProps.numClaimedComputedUnits).sum
    estimatedComputedUnits := (claims.map EventClaimSettledProps.numEstimatedComputedUnits).sum
    grossRewards := (claims.map EventClaimSettledProps.claimedAmount).sum
    netRewards := ((payments.filter fun m => PaidFor tables serviceId m).map
      ModToAcctTransferRecord.amount).sum }

/-- Every service with a paying claim has the one row that is expected, and the rows add up to all
transfers that claims paid. -/
structure RewardsReported (result : Option (List ServiceRewards)) : Prop where
  rows : ∀ serviceId, payingClaims tables payments serviceId ≠ [] →
    (result.getD []).filter (fun row => row.serviceId = serviceId) =
      [expectedRewards tables payments serviceId]
  total : ((result.getD []).map ServiceRewards.netRewards).sum =
    ((payments.filter fun m => PaidByClaim tables m).map ModToAcctTransferRecord.amount).sum

/-- Whether a service is one of a staked supplier that shares revenue with one of some addresses. -/
def CurrentService (addresses : List String) (serviceId : String) : Prop :=
  ∃ ssc ∈ tables.supplierServiceConfigs, ssc.data.serviceId = serviceId ∧
    ssc.blockRange.upperInf = true ∧
    ∃ address ∈ addresses, SharesWith tables ssc.data.supplierId address

instance (addresses : List String) (serviceId : String) :
    Decidable (CurrentService tables addresses serviceId) :=
  inferInstanceAs (Decidable (∃ _, _ ∧ _))

/-- Every service with a paying claim is a current one, and the figures of its paying claims come to
nothing when each counts as often as the claim paid further transfers. -/
structure RewardsPlain (addresses : List String) : Prop where
  current : ∀ serviceId, payingClaims tables payments serviceId ≠ [] →
    CurrentService tables addresses serviceId
  once : ∀ serviceId, ∀ figure ∈ [EventClaimSettledProps.numRelays,
      EventClaimSettledProps.numEstimatedRelays, EventClaimSettledProps.numClaimedComputedUnits,
      EventClaimSettledProps.numEstimatedComputedUnits, EventClaimSettledProps.claimedAmount],
    ((payingClaims tables payments serviceId).map fun e =>
      ((paidTimes payments e : Int) - 1) * figure e).sum = 0

end

section

variable {tables : DelegatorTables} {addresses : List String} {startTs endTs : Int}

/-- The services of the database function. -/
def currentServices (tables : DelegatorTables) (addresses : List String) : List String :=
  (((Sql.innerJoin (fun ssc ms => ssc.data.supplierId = ms.1)
    tables.supplierServiceConfigs (matchedSuppliers tables addresses)).filter
      fun (ssc, _) => ssc.blockRange.upperInf).map fun (ssc, _) => ssc.data.serviceId).dedup

/-- They are the current ones. -/
theorem mem_currentServices {serviceId : String} :
    serviceId ∈ currentServices tables addresses ↔ CurrentService tables addresses serviceId := by
  unfold currentServices CurrentService
  simp only [List.mem_dedup, List.mem_map, List.mem_filter, Sql.mem_innerJoin, Prod.exists,
    decide_eq_true_eq]
  constructor
  · rintro ⟨ssc, supplierId, address, ⟨⟨inside, matched, rfl⟩, current⟩, rfl⟩
    obtain ⟨asked, shares⟩ := mem_matchedSuppliers.mp matched
    exact ⟨ssc, inside, rfl, current, address, asked, shares⟩
  · rintro ⟨ssc, inside, rfl, current, address, asked, shares⟩
    exact ⟨ssc, ssc.data.supplierId, address,
      ⟨⟨inside, mem_matchedSuppliers.mpr ⟨asked, shares⟩, rfl⟩, current⟩, rfl⟩

/-- The transfers of the database function, joined with their blocks and claims. -/
def joinedTransfers (tables : DelegatorTables) (addresses : List String) (startTs endTs : Int) :
    List ((ModToAcctTransferRecord × BlockRow) × EventClaimSettledProps) :=
  (Sql.innerJoin (fun (m, _) e => e.id = m.eventClaimSettledId)
    (Sql.innerJoin (fun m b => b.id = m.blockId) tables.modToAcctTransfers tables.blocks)
    tables.eventClaimSettleds).filter fun ((m, b), _) =>
      m.recipientId ∈ addresses ∧ b.within startTs endTs = true

/-- With blocks that are stored once, they are the payments with their claims. -/
theorem joinedTransfers_pairs :
    (joinedTransfers tables addresses startTs endTs).map (fun row => (row.1.1, row.2)) =
      Sql.innerJoin (fun m e => decide (e.id = m.eventClaimSettledId))
        (paymentsTo tables addresses startTs endTs) tables.eventClaimSettleds := by
  -- The condition is about transfers and blocks, so it may come before the second join.
  have chosen : joinedTransfers tables addresses startTs endTs =
      Sql.innerJoin (fun row e => decide (e.id = row.1.eventClaimSettledId))
        ((Sql.innerJoin (fun m b => decide (b.id = m.blockId)) tables.modToAcctTransfers
          tables.blocks).filter fun row =>
            row.1.recipientId ∈ addresses ∧ row.2.within startTs endTs = true)
        tables.eventClaimSettleds :=
    Sql.filter_innerJoin_fst (fun row : ModToAcctTransferRecord × BlockRow =>
      decide (row.1.recipientId ∈ addresses ∧ row.2.within startTs endTs = true))
  -- A transfer is joined with the one block of its height.
  have transfers : ((Sql.innerJoin (fun m b => decide (b.id = m.blockId))
      tables.modToAcctTransfers tables.blocks).filter fun row =>
        row.1.recipientId ∈ addresses ∧ row.2.within startTs endTs = true).map Prod.fst =
      paymentsTo tables addresses startTs endTs := by
    have split : (Sql.innerJoin (fun m b => decide (b.id = m.blockId)) tables.modToAcctTransfers
        tables.blocks).filter (fun row =>
          decide (row.1.recipientId ∈ addresses ∧ row.2.within startTs endTs = true)) =
        Sql.innerJoin (fun m b => decide (b.id = m.blockId))
          (tables.modToAcctTransfers.filter fun m => m.recipientId ∈ addresses)
          (tables.blocks.filter (BlockRow.within startTs endTs)) := by
      rw [← Sql.filter_innerJoin_snd, ← Sql.filter_innerJoin_fst, List.filter_filter]
      refine List.filter_congr fun row _ => ?_
      simp only [Bool.decide_and, Bool.decide_eq_true, Bool.and_comm]
    have dated : (Sql.innerJoin (fun m b => decide (b.id = m.blockId))
          (tables.modToAcctTransfers.filter fun m => m.recipientId ∈ addresses)
          (tables.blocks.filter (BlockRow.within startTs endTs))).map Prod.fst =
        betweenDates ModToAcctTransferRecord.blockId tables.blocks startTs endTs
          (tables.modToAcctTransfers.filter fun m => m.recipientId ∈ addresses) := by
      unfold Sql.innerJoin betweenDates
      rw [List.map_flatMap]
      refine List.flatMap_congr fun m _ => ?_
      rw [List.map_map, List.filter_filter]
      refine congrArg (List.map _) (List.filter_congr fun block _ => ?_)
      simp only [BlockRow.within, Bool.decide_and, eq_comm]
    rw [split, dated, betweenDates_eq_filter tables.blockIds, List.filter_filter]
    unfold paymentsTo
    refine List.filter_congr fun m _ => ?_
    simp only [Bool.decide_and, Bool.decide_eq_true, Bool.and_comm]
  rw [chosen, ← transfers]
  exact @Sql.innerJoin_map_left ModToAcctTransferRecord EventClaimSettledProps
    (fun m e => decide (e.id = m.eventClaimSettledId)) _ _ Prod.fst _

/-- What is summed over the claims of a service counts each as often as it paid. -/
theorem claim_sum (serviceId : String) (f : EventClaimSettledProps → Int) :
    (((joinedTransfers tables addresses startTs endTs).filter
      fun row => row.2.serviceId = serviceId).map fun row => f row.2).sum =
      ((tables.eventClaimSettleds.filter fun e => e.serviceId = serviceId).map fun e =>
        (paidTimes (paymentsTo tables addresses startTs endTs) e : Int) * f e).sum := by
  have pairs := congrArg (fun rows => ((rows.filter fun pair : ModToAcctTransferRecord ×
    EventClaimSettledProps => decide (pair.2.serviceId = serviceId)).map fun pair => f pair.2).sum)
    (@joinedTransfers_pairs tables addresses startTs endTs)
  simp only [List.filter_map, List.map_map] at pairs
  refine Eq.trans pairs ?_
  rw [Sql.filter_innerJoin_snd (fun e : EventClaimSettledProps => decide (e.serviceId = serviceId)),
    Sql.sum_innerJoin_snd]
  rfl

/-- Of the claims of a service, one at most paid a transfer. -/
theorem claims_countP (serviceId : String) (m : ModToAcctTransferRecord) :
    (tables.eventClaimSettleds.filter fun e => e.serviceId = serviceId).countP
      (fun e => e.id = m.eventClaimSettledId) = if PaidFor tables serviceId m then 1 else 0 := by
  have nodup : ((tables.eventClaimSettleds.filter fun e => decide (e.serviceId = serviceId)).map
      EventClaimSettledProps.id).Nodup :=
    tables.settledIds.sublist (List.filter_sublist.map _)
  have counted : (tables.eventClaimSettleds.filter fun e =>
      decide (e.serviceId = serviceId)).countP (fun e => decide (e.id = m.eventClaimSettledId)) =
      ((tables.eventClaimSettleds.filter fun e => decide (e.serviceId = serviceId)).map
        EventClaimSettledProps.id).count m.eventClaimSettledId := by
    rw [List.count_eq_countP, List.countP_map]
    rfl
  rw [counted]
  split
  · rename_i paid
    obtain ⟨e, inside, linked, served⟩ := paid
    exact List.count_eq_one_of_mem nodup
      (List.mem_map.mpr ⟨e, List.mem_filter.mpr ⟨inside, decide_eq_true served⟩, linked⟩)
  · rename_i unpaid
    refine List.count_eq_zero_of_not_mem fun member => unpaid ?_
    obtain ⟨e, inside, linked⟩ := List.mem_map.mp member
    obtain ⟨found, served⟩ := List.mem_filter.mp inside
    exact ⟨e, found, linked, of_decide_eq_true served⟩

/-- The transfers of a service are summed once. -/
theorem amount_sum (serviceId : String) :
    (((joinedTransfers tables addresses startTs endTs).filter
      fun row => row.2.serviceId = serviceId).map fun row => row.1.1.amount).sum =
      (((paymentsTo tables addresses startTs endTs).filter
        fun m => PaidFor tables serviceId m).map ModToAcctTransferRecord.amount).sum := by
  have pairs := congrArg (fun rows => ((rows.filter fun pair : ModToAcctTransferRecord ×
    EventClaimSettledProps => decide (pair.2.serviceId = serviceId)).map
      fun pair => pair.1.amount).sum) (@joinedTransfers_pairs tables addresses startTs endTs)
  simp only [List.filter_map, List.map_map] at pairs
  refine Eq.trans pairs ?_
  rw [Sql.filter_innerJoin_snd (fun e : EventClaimSettledProps => decide (e.serviceId = serviceId)),
    Sql.sum_innerJoin_fst]
  -- A transfer of the service has one claim, and another transfer has none.
  simp only [claims_countP, Nat.cast_ite, Nat.cast_one, Nat.cast_zero, ite_mul, one_mul, zero_mul]
  rw [List.sum_map_ite]
  simp

/-- What the database function reports for a service. -/
def reportedRewards (tables : DelegatorTables) (payments : List ModToAcctTransferRecord)
    (serviceId : String) : ServiceRewards :=
  let weighted (figure : EventClaimSettledProps → Int) :=
    ((tables.eventClaimSettleds.filter fun e => e.serviceId = serviceId).map fun e =>
      (paidTimes payments e : Int) * figure e).sum
  { serviceId
    relays := weighted EventClaimSettledProps.numRelays
    estimatedRelays := weighted EventClaimSettledProps.numEstimatedRelays
    computedUnits := weighted EventClaimSettledProps.numClaimedComputedUnits
    estimatedComputedUnits := weighted EventClaimSettledProps.numEstimatedComputedUnits
    grossRewards := weighted EventClaimSettledProps.claimedAmount
    netRewards := ((payments.filter fun m => PaidFor tables serviceId m).map
      ModToAcctTransferRecord.amount).sum }

/-- The group of a service, which is null when nothing was paid for it. -/
def rewardGroup (tables : DelegatorTables) (addresses : List String) (startTs endTs : Int)
    (serviceId : String) : Option (String × RewardSums) :=
  let rows := (joinedTransfers tables addresses startTs endTs).filter
    fun row => row.2.serviceId = serviceId
  if rows.isEmpty then none else some (serviceId, RewardSums.of rows)

/-- A figure of claims in the group of a service. -/
theorem rewardGroup_figure {figure : RewardSums → Option Int} {f : EventClaimSettledProps → Int}
    (summed : ∀ rows, figure (RewardSums.of rows) = Sql.sum (rows.map fun row => some (f row.2)))
    (serviceId : String) :
    ((rewardGroup tables addresses startTs endTs serviceId).bind fun r => figure r.2).getD 0 =
      ((tables.eventClaimSettleds.filter fun e => e.serviceId = serviceId).map fun e =>
        (paidTimes (paymentsTo tables addresses startTs endTs) e : Int) * f e).sum :=
  (Sql.sum_group (summed _)).trans (claim_sum serviceId f)

/-- The transfers in the group of a service. -/
theorem rewardGroup_amount (serviceId : String) :
    ((rewardGroup tables addresses startTs endTs serviceId).bind fun r => r.2.netRewards).getD 0 =
      (((paymentsTo tables addresses startTs endTs).filter
        fun m => PaidFor tables serviceId m).map ModToAcctTransferRecord.amount).sum := by
  have summed : ∀ rows, (RewardSums.of rows).netRewards =
      Sql.sum (rows.map fun row => some row.1.1.amount) := fun _ => rfl
  exact (Sql.sum_group (summed _)).trans (amount_sum serviceId)

/-- The database function reports each of its services once. -/
theorem getRewards_getD :
    (getRewardsByDelegatorAddressesAndTimesGroupByService tables addresses startTs endTs).getD [] =
      (currentServices tables addresses).map
        (reportedRewards tables (paymentsTo tables addresses startTs endTs)) := by
  have rows : Sql.leftJoin (fun serviceId (r : String × RewardSums) => decide (r.1 = serviceId))
      (currentServices tables addresses)
      ((Sql.groupBy (fun row => row.2.serviceId)
        (joinedTransfers tables addresses startTs endTs)).map
          fun group => (group.1, RewardSums.of group.2)) =
      (currentServices tables addresses).map fun serviceId =>
        (serviceId, rewardGroup tables addresses startTs endTs serviceId) :=
    Sql.leftJoin_groupBy (fun _ => RewardSums.of) id (currentServices tables addresses)
  unfold getRewardsByDelegatorAddressesAndTimesGroupByService
  rw [Sql.jsonbAgg_getD]
  refine (congrArg (List.map _) rows).trans ?_
  rw [List.map_map]
  refine List.map_congr_left fun serviceId _ => ?_
  simp only [Function.comp_apply, reportedRewards, ServiceRewards.mk.injEq, true_and]
  exact ⟨rewardGroup_figure (fun _ => rfl) serviceId, rewardGroup_figure (fun _ => rfl) serviceId,
    rewardGroup_figure (fun _ => rfl) serviceId, rewardGroup_figure (fun _ => rfl) serviceId,
    rewardGroup_figure (fun _ => rfl) serviceId, rewardGroup_amount serviceId⟩

/-- What is summed over the claims of a service is summed over its paying claims, and once more for
each further transfer. -/
theorem weighted_eq (payments : List ModToAcctTransferRecord) (serviceId : String)
    (f : EventClaimSettledProps → Int) :
    ((tables.eventClaimSettleds.filter fun e => e.serviceId = serviceId).map fun e =>
      (paidTimes payments e : Int) * f e).sum =
      ((payingClaims tables payments serviceId).map f).sum +
      ((payingClaims tables payments serviceId).map fun e =>
        ((paidTimes payments e : Int) - 1) * f e).sum := by
  rw [← List.sum_map_add]
  unfold payingClaims
  generalize tables.eventClaimSettleds = claims
  induction claims with
  | nil => rfl
  | cons e rest ih =>
    rw [List.filter_cons, List.filter_cons]
    by_cases served : e.serviceId = serviceId
    · by_cases paid : 0 < paidTimes payments e
      · simp only [served, paid, and_self, decide_true, if_true, List.map_cons, List.sum_cons, ih]
        ring
      · -- A claim that paid nothing counts for nothing.
        have zero : paidTimes payments e = 0 := Nat.eq_zero_of_not_pos paid
        simp [served, zero, ih]
    · simp [served, ih]

/-- The row of a service is as expected just when its figures count nothing twice. -/
theorem reportedRewards_eq_iff (payments : List ModToAcctTransferRecord) (serviceId : String) :
    reportedRewards tables payments serviceId = expectedRewards tables payments serviceId ↔
      ∀ figure ∈ [EventClaimSettledProps.numRelays, EventClaimSettledProps.numEstimatedRelays,
        EventClaimSettledProps.numClaimedComputedUnits,
        EventClaimSettledProps.numEstimatedComputedUnits, EventClaimSettledProps.claimedAmount],
        ((payingClaims tables payments serviceId).map fun e =>
          ((paidTimes payments e : Int) - 1) * figure e).sum = 0 := by
  simp only [reportedRewards, expectedRewards, ServiceRewards.mk.injEq, true_and, and_true,
    weighted_eq, add_eq_left, List.mem_cons, List.not_mem_nil, or_false, forall_eq_or_imp,
    forall_eq]

/-- The rows of a service are its one row, if the database function has it. -/
theorem getRewards_filter (serviceId : String) :
    ((getRewardsByDelegatorAddressesAndTimesGroupByService tables addresses startTs
      endTs).getD []).filter (fun row => row.serviceId = serviceId) =
      if serviceId ∈ currentServices tables addresses then
        [reportedRewards tables (paymentsTo tables addresses startTs endTs) serviceId] else [] := by
  have nodup : (currentServices tables addresses).Nodup := List.nodup_dedup _
  rw [getRewards_getD, List.filter_map]
  have same : ((fun row : ServiceRewards => decide (row.serviceId = serviceId)) ∘
      reportedRewards tables (paymentsTo tables addresses startTs endTs)) =
      fun other => decide (other = serviceId) := rfl
  rw [same, List.filter_eq]
  split
  · rename_i found
    rw [List.count_eq_one_of_mem nodup found]
    rfl
  · rename_i missing
    rw [List.count_eq_zero_of_not_mem missing]
    rfl

/-- A transfer that a claim paid is one of the service of that claim. -/
theorem payingClaims_ne_nil {payments : List ModToAcctTransferRecord} {serviceId : String}
    {m : ModToAcctTransferRecord} (inside : m ∈ payments) (paid : PaidFor tables serviceId m) :
    payingClaims tables payments serviceId ≠ [] := by
  obtain ⟨e, found, linked, served⟩ := paid
  refine List.ne_nil_of_mem (List.mem_filter.mpr ⟨found, decide_eq_true ⟨served, ?_⟩⟩)
  exact List.countP_pos_iff.mpr ⟨m, inside, decide_eq_true linked⟩

/-- The service of the claim that paid a transfer. -/
def paidService (tables : DelegatorTables) (m : ModToAcctTransferRecord) : Option String :=
  (tables.eventClaimSettleds.find? fun e => e.id = m.eventClaimSettledId).map
    EventClaimSettledProps.serviceId

/-- A transfer is paid for a service just when its claim is one of the service. -/
theorem paidService_eq_some {m : ModToAcctTransferRecord} {serviceId : String} :
    paidService tables m = some serviceId ↔ PaidFor tables serviceId m := by
  unfold paidService
  rw [Option.map_eq_some_iff]
  constructor
  · rintro ⟨e, first, served⟩
    exact ⟨e, List.mem_of_find?_eq_some first, by simpa using List.find?_some first, served⟩
  · rintro ⟨e, found, linked, served⟩
    have some : (tables.eventClaimSettleds.find? fun e => decide
        (e.id = m.eventClaimSettledId)).isSome = true :=
      List.find?_isSome.mpr ⟨e, found, decide_eq_true linked⟩
    obtain ⟨other, first⟩ := Option.isSome_iff_exists.mp some
    have named : other.id = m.eventClaimSettledId := by simpa using List.find?_some first
    -- Claims have different ids, so the first one found is the claim.
    have same : other = e := List.inj_on_of_nodup_map tables.settledIds
      (List.mem_of_find?_eq_some first) found (named.trans linked.symm)
    exact ⟨other, first, same ▸ served⟩

/-- The services add up to all transfers that claims paid, if each of their services is current. -/
theorem total_netRewards (payments : List ModToAcctTransferRecord)
    (current : ∀ serviceId, payingClaims tables payments serviceId ≠ [] →
      serviceId ∈ currentServices tables addresses) :
    (((currentServices tables addresses).map (reportedRewards tables payments)).map
      ServiceRewards.netRewards).sum =
      ((payments.filter fun m => PaidByClaim tables m).map ModToAcctTransferRecord.amount).sum := by
  -- Each transfer is added up under the service of its claim, if it has one.
  have added : (((currentServices tables addresses).map some).map fun value =>
      ((payments.filter fun m => paidService tables m = value).map
        ModToAcctTransferRecord.amount).sum).sum = _ :=
    Sql.sum_map_filter_key ((List.nodup_dedup _).map (Option.some_injective _)) _ payments
  rw [List.map_map] at added ⊢
  have each : (currentServices tables addresses).map
      (ServiceRewards.netRewards ∘ reportedRewards tables payments) =
      (currentServices tables addresses).map ((fun value =>
        ((payments.filter fun m => paidService tables m = value).map
          ModToAcctTransferRecord.amount).sum) ∘ some) := by
    refine List.map_congr_left fun serviceId _ => ?_
    simp only [Function.comp_apply, reportedRewards, paidService_eq_some]
  rw [each, added]
  refine congrArg List.sum (congrArg (List.map _) (List.filter_congr fun m inside => ?_))
  rw [decide_eq_decide, List.mem_map]
  constructor
  · rintro ⟨serviceId, -, same⟩
    obtain ⟨e, found, linked, -⟩ := paidService_eq_some.mp same.symm
    exact ⟨e, found, linked⟩
  · rintro ⟨e, found, linked⟩
    have paid : PaidFor tables e.serviceId m := ⟨e, found, linked, rfl⟩
    exact ⟨e.serviceId, current e.serviceId (payingClaims_ne_nil inside paid),
      (paidService_eq_some.mpr paid).symm⟩

/-- Every service with a paying claim is reported as expected, and the services add up, just when
each is current and the figures of its claims count nothing twice. -/
theorem delegatorRewards_iff (tables : DelegatorTables) (addresses : List String)
    (startTs endTs : Int) :
    RewardsReported tables (paymentsTo tables addresses startTs endTs)
        (getRewardsByDelegatorAddressesAndTimesGroupByService tables addresses startTs endTs) ↔
      RewardsPlain tables (paymentsTo tables addresses startTs endTs) addresses := by
  constructor
  · intro reported
    -- A service that paid has a row of its own, so it is a current one.
    have listed : ∀ serviceId, payingClaims tables (paymentsTo tables addresses startTs endTs)
        serviceId ≠ [] → serviceId ∈ currentServices tables addresses ∧
          reportedRewards tables (paymentsTo tables addresses startTs endTs) serviceId =
            expectedRewards tables (paymentsTo tables addresses startTs endTs) serviceId := by
      intro serviceId paying
      have row := reported.rows serviceId paying
      rw [getRewards_filter] at row
      split at row
      · rename_i found
        exact ⟨found, (List.cons.inj row).1⟩
      · cases row
    refine ⟨fun serviceId paying => mem_currentServices.mp (listed serviceId paying).1,
      fun serviceId => ?_⟩
    by_cases paying : payingClaims tables (paymentsTo tables addresses startTs endTs) serviceId = []
    · rw [paying]
      exact fun figure _ => rfl
    · exact (reportedRewards_eq_iff _ serviceId).mp (listed serviceId paying).2
  · -- Where all services are current, their rows make up the total.
    intro plain
    have current : ∀ serviceId, payingClaims tables (paymentsTo tables addresses startTs endTs)
        serviceId ≠ [] → serviceId ∈ currentServices tables addresses :=
      fun serviceId paying => mem_currentServices.mpr (plain.current serviceId paying)
    constructor
    · intro serviceId paying
      rw [getRewards_filter, if_pos (current serviceId paying),
        (reportedRewards_eq_iff _ serviceId).mpr (plain.once serviceId)]
    · rw [getRewards_getD]
      exact total_netRewards _ current

end

/-- A settled claim of the supplier. -/
def rewardedClaim : EventClaimSettledProps where
  id := "settled"
  supplierId := some "pokt1op"
  applicationId := "pokt1app"
  serviceId := "eth"
  sessionId := "session"
  sessionStartHeight := 1
  sessionEndHeight := 8
  numRelays := 100
  numEstimatedRelays := 100
  numClaimedComputedUnits := 200
  numEstimatedComputedUnits := 200
  claimedDenom := "upokt"
  claimedAmount := 3000
  proofValidationStatus := none
  transactionId := none
  blockId := 10
  proofRequirement := .notRequired
  mints := []
  burns := []
  modToModTransfers := []
  settledAmount := 3000
  settledDenom := some "upokt"
  mintRatio := .finite 1
  supplierOwnerId := some "pokt1op"
  mintedAmount := some 3000
  mintedDenom := some "upokt"
  overservicingLossAmount := 0
  overservicingLossDenom := none
  deflationLossAmount := 0
  deflationLossDenom := none

/-- A transfer of the claim to an address. -/
def rewardTransfer (id recipientId : String) (amount : Int) : ModToAcctTransferRecord where
  id := id
  eventClaimSettledId := "settled"
  blockId := 10
  opReason := .tlmRelayBurnEqualsMintSupplierStakeMint
  recipientId := recipientId
  amount := amount
  denom := "upokt"

/-- The tables of the supplier with a settled claim and its transfers. -/
def rewardTables : DelegatorTables where
  supplierServiceConfigs := [sharingConfig ["pokt1x", "pokt1y"]]
  suppliers := [sharingSupplier]
  blocks := [⟨10, 1000⟩]
  modToAcctTransfers := [rewardTransfer "settled-0" "pokt1x" 1400,
    rewardTransfer "settled-1" "pokt1y" 700]
  eventClaimSettleds := [rewardedClaim]
  msgCreateClaims := []
  eventSupplierSlasheds := []
  blockIds := singleBlock_ids
  settledIds := List.nodup_singleton _
  createdIds := List.nodup_nil

/-- A claim that paid both addresses has its relays counted twice. -/
theorem delegatorRewards_twice :
    ((getRewardsByDelegatorAddressesAndTimesGroupByService rewardTables ["pokt1x", "pokt1y"] 0
      2000).getD []).map (fun row => (row.serviceId, row.relays, row.netRewards)) =
        [("eth", 200, 2100)] ∧
    ¬RewardsReported rewardTables (paymentsTo rewardTables ["pokt1x", "pokt1y"] 0 2000)
      (getRewardsByDelegatorAddressesAndTimesGroupByService rewardTables ["pokt1x", "pokt1y"] 0
        2000) := by
  refine ⟨by decide +kernel, fun reported => ?_⟩
  have row := congrArg (List.map ServiceRewards.relays) (reported.rows "eth" (by decide +kernel))
  exact absurd row (by decide +kernel)

end Pocketdex
