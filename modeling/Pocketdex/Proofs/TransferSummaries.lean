import Mathlib.Algebra.BigOperators.Group.List.Basic
import Mathlib.Algebra.Ring.Int.Defs
import Pocketdex.Pocket.Relays
import Pocketdex.Utils.Texts

/-! The summaries of a block's transfers hold one record for each group, with the group's total. -/

namespace Pocketdex

/-- What the transfers of one summary share. -/
structure TransferGroup where
  recipientId : String
  opReason : SettlementOpReason
  denom : String
  serviceId : String
  deriving DecidableEq, Repr

/-- The group of a transfer, with the service of its settled claim. -/
def ModToAcctTransferRecord.group (services : Dict String String)
    (record : ModToAcctTransferRecord) : TransferGroup :=
  ⟨record.recipientId, record.opReason, record.denom,
    (services.get record.eventClaimSettledId).getD ""⟩

/-- The group of a summary. -/
def SummarizedTransferRecord.group (summary : SummarizedTransferRecord) : TransferGroup :=
  ⟨summary.recipientId, summary.opReason, summary.denom, summary.serviceId⟩

/-- The text a group is collected under. -/
def TransferGroup.key (group : TransferGroup) : String :=
  s!"{group.recipientId}|{group.opReason.label}|{group.denom}|{group.serviceId}"

/-- The id of the summary of a group. -/
def TransferGroup.id (group : TransferGroup) (blockId : ℕ) : String :=
  s!"{blockId}-{group.recipientId}-{group.opReason.label}-{group.denom}-{group.serviceId}"

/-- Neither separator occurs in the recipient and the denomination; reasons never hold one. -/
structure TransferGroup.Separated (group : TransferGroup) : Prop where
  recipientBar : '|' ∉ group.recipientId.toList
  recipientDash : '-' ∉ group.recipientId.toList
  denomBar : '|' ∉ group.denom.toList
  denomDash : '-' ∉ group.denom.toList

/-- The transfers of a group. -/
def transfersOf (services : Dict String String) (group : TransferGroup)
    (records : List ModToAcctTransferRecord) : List ModToAcctTransferRecord :=
  records.filter fun record => record.group services = group

/-- The summary of a group's transfers. -/
def summaryOfGroup (blockId : ℕ) (services : Dict String String)
    (records : List ModToAcctTransferRecord) (group : TransferGroup) : SummarizedTransferRecord :=
  { id := group.id blockId
    blockId := blockId
    recipientId := group.recipientId
    opReason := group.opReason
    denom := group.denom
    serviceId := group.serviceId
    amount := ((transfersOf services group records).map ModToAcctTransferRecord.amount).sum
    transferCount := (transfersOf services group records).length }

@[simp] theorem summaryOfGroup_group (blockId : ℕ) (services : Dict String String)
    (records : List ModToAcctTransferRecord) (group : TransferGroup) :
    (summaryOfGroup blockId services records group).group = group := rfl

/-- The label of a reason holds neither separator. -/
theorem label_separated (reason : SettlementOpReason) :
    '|' ∉ reason.label.toList ∧ '-' ∉ reason.label.toList := by
  cases reason <;>
    exact ⟨not_mem_of_chars rfl (by decide), not_mem_of_chars rfl (by decide)⟩

/-- All reasons there are. -/
def SettlementOpReason.all : List SettlementOpReason :=
  [.unspecified, .tlmRelayBurnEqualsMintSupplierStakeMint,
    .tlmRelayBurnEqualsMintApplicationStakeBurn, .tlmGlobalMintInflation,
    .tlmRelayBurnEqualsMintSupplierShareholderRd, .tlmGlobalMintDaoRewardDistribution,
    .tlmGlobalMintProposerRewardDistribution, .tlmGlobalMintSupplierShareholderRewardDistribution,
    .tlmGlobalMintSourceOwnerRewardDistribution, .tlmGlobalMintApplicationRewardDistribution,
    .tlmGlobalMintReimbursementRequestEscrowDaoTransfer,
    .unspecifiedTlmSupplierSlashModuleTransfer, .unspecifiedTlmSupplierSlashStakeBurn,
    .tlmGlobalMintSupplierShareholderRewardModuleTransfer,
    .tlmGlobalMintReimbursementRequestEscrowModuleTransfer,
    .tlmRelayBurnEqualsMintDaoRewardDistribution, .tlmRelayBurnEqualsMintSourceOwnerRd,
    .tlmRelayBurnEqualsMintApplicationRd, .tlmRelayBurnEqualsMintTokenomicsMint,
    .tlmRelayBurnEqualsMintValidatorRd, .tlmRelayBurnEqualsMintDelegatorRd,
    .tlmGlobalMintValidatorRewardDistribution, .tlmGlobalMintDelegatorRewardDistribution]

/-- Different reasons have different labels. -/
theorem label_inj {first second : SettlementOpReason} (same : first.label = second.label) :
    first = second := by
  have listed : ∀ reason, reason ∈ SettlementOpReason.all := by
    intro reason
    cases reason <;> decide
  have distinct : (SettlementOpReason.all.map SettlementOpReason.label).Nodup := by
    simp [SettlementOpReason.all, SettlementOpReason.label]
  exact List.inj_on_of_nodup_map distinct (listed first) (listed second) same

/-- Four texts joined by a separator that the first three do not hold can be told apart. -/
theorem four_joined_inj {separator : Char} {first second third fourth one two three four : String}
    (absentFirst : separator ∉ first.toList) (absentOne : separator ∉ one.toList)
    (absentSecond : separator ∉ second.toList) (absentTwo : separator ∉ two.toList)
    (absentThird : separator ∉ third.toList) (absentThree : separator ∉ three.toList)
    (same : first.toList ++ separator :: (second.toList ++ separator :: (third.toList ++
      separator :: fourth.toList)) = one.toList ++ separator :: (two.toList ++ separator ::
        (three.toList ++ separator :: four.toList))) :
    first = one ∧ second = two ∧ third = three ∧ fourth = four := by
  -- The parts are cut off one after the other from the left.
  obtain ⟨firsts, rest⟩ := first_joined_inj absentFirst absentOne same
  obtain ⟨seconds, rest⟩ := first_joined_inj absentSecond absentTwo rest
  obtain ⟨thirds, fourths⟩ := first_joined_inj absentThird absentThree rest
  exact ⟨String.toList_inj.mp firsts, String.toList_inj.mp seconds, String.toList_inj.mp thirds,
    String.toList_inj.mp fourths⟩

/-- The characters of a key. -/
theorem TransferGroup.key_toList (group : TransferGroup) : group.key.toList =
    group.recipientId.toList ++ '|' :: (group.opReason.label.toList ++ '|' ::
      (group.denom.toList ++ '|' :: group.serviceId.toList)) := by
  simp [TransferGroup.key, toString]

/-- The characters of an id. -/
theorem TransferGroup.id_toList (group : TransferGroup) (blockId : ℕ) : (group.id blockId).toList =
    (toString blockId).toList ++ '-' :: (group.recipientId.toList ++ '-' ::
      (group.opReason.label.toList ++ '-' :: (group.denom.toList ++ '-' ::
        group.serviceId.toList))) := by
  simp [TransferGroup.id, toString]

/-- Groups are told apart by their keys. -/
theorem TransferGroup.key_inj {first second : TransferGroup} (one : first.Separated)
    (two : second.Separated) (same : first.key = second.key) : first = second := by
  have listed := congrArg String.toList same
  rw [TransferGroup.key_toList, TransferGroup.key_toList] at listed
  obtain ⟨recipients, labels, denoms, services⟩ := four_joined_inj one.recipientBar
    two.recipientBar (label_separated _).1 (label_separated _).1 one.denomBar two.denomBar listed
  have reasons := label_inj labels
  cases first
  cases second
  simp_all

/-- Groups are told apart by the ids of their summaries, and blocks as well. -/
theorem TransferGroup.id_inj {first second : TransferGroup} {height other : ℕ}
    (one : first.Separated) (two : second.Separated) (same : first.id height = second.id other) :
    first = second ∧ height = other := by
  have listed := congrArg String.toList same
  rw [TransferGroup.id_toList, TransferGroup.id_toList] at listed
  -- The block's number is cut off first.
  obtain ⟨heights, rest⟩ := first_joined_inj (dash_not_mem_toString _) (dash_not_mem_toString _)
    listed
  obtain ⟨recipients, labels, denoms, services⟩ := four_joined_inj one.recipientDash
    two.recipientDash (label_separated _).2 (label_separated _).2 one.denomDash two.denomDash rest
  have reasons := label_inj labels
  refine ⟨?_, toString_inj heights⟩
  cases first
  cases second
  simp_all

section

variable {blockId : ℕ} {services : Dict String String} {records : List ModToAcctTransferRecord}

/-- The groups of records are separated. -/
def SeparatedGroups (services : Dict String String) (records : List ModToAcctTransferRecord) :
    Prop :=
  ∀ record ∈ records, (record.group services).Separated

/-- What is collected are the summaries of the groups of the records read so far. -/
structure Collected (blockId : ℕ) (services : Dict String String)
    (records : List ModToAcctTransferRecord) (grouped : Dict String SummarizedTransferRecord) :
    Prop where
  summary : ∀ record ∈ records, grouped.get (record.group services).key =
    some (summaryOfGroup blockId services records (record.group services))
  read : ∀ key summary, grouped.get key = some summary →
    ∃ record ∈ records, key = (record.group services).key

/-- One more transfer of another group leaves a group's summary as it was. -/
theorem summaryOfGroup_other {record : ModToAcctTransferRecord} {group : TransferGroup}
    (other : record.group services ≠ group) :
    summaryOfGroup blockId services (records ++ [record]) group =
      summaryOfGroup blockId services records group := by
  have same : transfersOf services group (records ++ [record]) =
      transfersOf services group records := by
    simp [transfersOf, other]
  simp only [summaryOfGroup, same]

/-- One more transfer of a group adds its amount and counts once more. -/
theorem summaryOfGroup_own (record : ModToAcctTransferRecord) :
    summaryOfGroup blockId services (records ++ [record]) (record.group services) =
      { summaryOfGroup blockId services records (record.group services) with
        amount := (summaryOfGroup blockId services records (record.group services)).amount +
          record.amount
        transferCount :=
          (summaryOfGroup blockId services records (record.group services)).transferCount + 1 } := by
  have more : transfersOf services (record.group services) (records ++ [record]) =
      transfersOf services (record.group services) records ++ [record] := by
    simp [transfersOf]
  simp only [summaryOfGroup, more, List.map_append, List.sum_append, List.length_append]
  simp

/-- Adding a transfer replaces the summary under the key of its group. -/
theorem summarizeTransfer_eq (grouped : Dict String SummarizedTransferRecord)
    (record : ModToAcctTransferRecord) :
    summarizeTransfer blockId services grouped record =
      grouped.set (record.group services).key (match grouped.get (record.group services).key with
        | some existing => { existing with
            amount := existing.amount + record.amount
            transferCount := existing.transferCount + 1 }
        | none => summaryOfGroup blockId services [record] (record.group services)) := by
  have single : transfersOf services (record.group services) [record] = [record] := by
    simp [transfersOf]
  rw [summarizeTransfer]
  simp only [summaryOfGroup, single, List.map_singleton, List.sum_singleton, List.length_singleton]
  -- Both sides look under the same key.
  cases found : grouped.get (record.group services).key with
  | none =>
    simp only [TransferGroup.key, ModToAcctTransferRecord.group] at found ⊢
    rw [found]
    rfl
  | some existing =>
    simp only [TransferGroup.key, ModToAcctTransferRecord.group] at found ⊢
    rw [found]

/-- Reading one more transfer collects it in the summary of its group. -/
theorem Collected.step {grouped : Dict String SummarizedTransferRecord}
    {record : ModToAcctTransferRecord} (collected : Collected blockId services records grouped)
    (separated : SeparatedGroups services (records ++ [record])) :
    Collected blockId services (records ++ [record])
      (summarizeTransfer blockId services grouped record) := by
  have own : (record.group services).Separated := separated record (by simp)
  rw [summarizeTransfer_eq]
  -- The summary written is that of the group over all records.
  have written : (match grouped.get (record.group services).key with
      | some existing => { existing with
          amount := existing.amount + record.amount
          transferCount := existing.transferCount + 1 }
      | none => summaryOfGroup blockId services [record] (record.group services)) =
      summaryOfGroup blockId services (records ++ [record]) (record.group services) := by
    cases found : grouped.get (record.group services).key with
    | some existing =>
      obtain ⟨earlier, member, same⟩ := collected.read _ _ found
      have equal := TransferGroup.key_inj own (separated earlier (by simp [member])) same
      have stored := collected.summary earlier member
      rw [← equal, found, Option.some.injEq] at stored
      rw [summaryOfGroup_own, stored]
    | none =>
      -- No transfer of the group was read before.
      have fresh : transfersOf services (record.group services) records = [] := by
        rw [transfersOf, List.filter_eq_nil_iff]
        intro earlier member same
        have stored := collected.summary earlier member
        rw [of_decide_eq_true same, found] at stored
        cases stored
      have all : transfersOf services (record.group services) (records ++ [record]) =
          transfersOf services (record.group services) [record] := by
        rw [transfersOf, List.filter_append, ← transfersOf, ← transfersOf, fresh, List.nil_append]
      simp only [summaryOfGroup, all]
  rw [written]
  constructor
  · intro other member
    by_cases same : other.group services = record.group services
    · rw [same, Dict.get_set_self]
    · have before : other ∈ records := by
        rcases List.mem_append.mp member with before | last
        · exact before
        · exact absurd (by rw [List.mem_singleton.mp last]) same
      have apart : (other.group services).key ≠ (record.group services).key := fun equal =>
        same (TransferGroup.key_inj (separated other member) own equal)
      rw [Dict.get_set_ne _ _ apart, collected.summary other before,
        summaryOfGroup_other fun equal => same equal.symm]
  · intro key summary found
    rw [Dict.get_set] at found
    split at found
    · rename_i same
      exact ⟨record, by simp, same⟩
    · obtain ⟨earlier, member, same⟩ := collected.read key summary found
      exact ⟨earlier, by simp [member], same⟩

/-- Reading all transfers collects the summaries of all groups. -/
theorem collected_fold (separated : SeparatedGroups services records) :
    Collected blockId services records
      (records.foldl (summarizeTransfer blockId services) Dict.empty) := by
  induction records using List.reverseRecOn with
  | nil => exact ⟨by simp, by simp⟩
  | append_singleton earlier last ih =>
    rw [List.foldl_append, List.foldl_cons, List.foldl_nil]
    refine (ih fun record member => ?_).step separated
    exact separated record (List.mem_append_left _ member)

/-- What is collected under a key is the summary of a group that was read. -/
theorem Collected.cases {grouped : Dict String SummarizedTransferRecord} {key : String}
    {summary : SummarizedTransferRecord} (collected : Collected blockId services records grouped)
    (found : grouped.get key = some summary) : ∃ record ∈ records,
      key = (record.group services).key ∧
        summary = summaryOfGroup blockId services records (record.group services) := by
  obtain ⟨record, member, rfl⟩ := collected.read key summary found
  have stored := collected.summary record member
  rw [found, Option.some.injEq] at stored
  exact ⟨record, member, rfl, stored⟩

/-- The collected summaries are those of the groups that were read. -/
theorem Collected.mem_values {grouped : Dict String SummarizedTransferRecord}
    {summary : SummarizedTransferRecord} (collected : Collected blockId services records grouped) :
    summary ∈ grouped.values ↔ ∃ record ∈ records,
      summary = summaryOfGroup blockId services records (record.group services) := by
  rw [Dict.mem_values]
  constructor
  · rintro ⟨key, found⟩
    obtain ⟨record, member, _, same⟩ := collected.cases found
    exact ⟨record, member, same⟩
  · rintro ⟨record, member, rfl⟩
    exact ⟨_, collected.summary record member⟩

/-- Each group has one summary. -/
theorem Collected.nodup {grouped : Dict String SummarizedTransferRecord}
    (collected : Collected blockId services records grouped) :
    (grouped.values.map SummarizedTransferRecord.group).Nodup := by
  -- The keys are those of the groups, and no key is taken twice.
  have keys : (grouped.values.map SummarizedTransferRecord.group).map TransferGroup.key =
      grouped.keys := by
    rw [Dict.values, Dict.keys, List.map_map, List.map_map]
    apply List.map_congr_left
    intro entry member
    obtain ⟨record, _, key, summary⟩ := collected.cases (Dict.get_eq_some.mpr member)
    simp only [Function.comp_apply, summary, summaryOfGroup_group]
    exact key.symm
  apply List.Nodup.of_map TransferGroup.key
  rw [keys]
  exact grouped.nodup

end

/-- A stored summary has an id that begins with the number of its block. -/
def NamedByBlock (row : SummarizedTransferRecord) : Prop :=
  ∃ rest : List Char, row.id.toList = (toString row.blockId).toList ++ '-' :: rest

/-- The summaries of transfers hold each group once, with its total, and are all stored. -/
structure Conserves (services : Dict String String) (records : List ModToAcctTransferRecord)
    (summaries : List SummarizedTransferRecord) : Prop where
  once : (summaries.map SummarizedTransferRecord.group).Nodup
  groups : ∀ group, group ∈ summaries.map SummarizedTransferRecord.group ↔
    ∃ record ∈ records, record.group services = group
  totals : ∀ summary ∈ summaries,
    summary.amount =
      ((transfersOf services summary.group records).map ModToAcctTransferRecord.amount).sum ∧
    summary.transferCount = (transfersOf services summary.group records).length
  distinct : (summaries.map SummarizedTransferRecord.id).Nodup
  stored : ∀ (table : Table fun row : SummarizedTransferRecord => some row.id) (first :
    ModToAcctTransferRecord) (trace : List (Statement SummarizedTransferRecord)),
    records.head? = some first → (∀ row ∈ table.rows, NamedByBlock row) →
      Trace (bulkInsertSummarizedTransfers summaries) trace →
        (table.execute trace).Holds (fun row => row.blockId = first.blockId) summaries

/-- Two transfers of one group and one of another. -/
def sampleTransfers : List ModToAcctTransferRecord := [
  ⟨"a", "e1", 7, .tlmGlobalMintInflation, "pokt1x", 5, "upokt"⟩,
  ⟨"b", "e2", 7, .tlmGlobalMintInflation, "pokt1x", 6, "upokt"⟩,
  ⟨"c", "e1", 7, .tlmGlobalMintInflation, "pokt1x", 7, "upokt"⟩]

/-- The services of their claims, of which one holds both separators. -/
def sampleServices : Dict String String :=
  (Dict.empty.set "e1" "svc|-1").set "e2" "svc|"

end Pocketdex
