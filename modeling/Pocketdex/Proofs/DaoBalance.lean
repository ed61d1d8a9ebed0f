import Pocketdex.Base.Rollup
import Pocketdex.DbFunctions.DaoBalance
import Pocketdex.Proofs.BalanceRuns

/-! The balance of the DAO at every height is what the events of its account come to. -/

namespace Pocketdex

section

variable {params : List (Row ParamProps)} {balances : List (Row BalanceProps)}
  {stored : List BlockRow} {height effective next : ℕ} {account : String}

/-- In a settled table, the visible balances of an account in a denomination are those of their id. -/
theorem PriorBalances.filter_account (settled : PriorBalances next balances)
    (plain : '-' ∉ account.toList) (denom : String) :
    (balances.filter fun b => decide (b.data.accountId = account) &&
      (decide (b.data.denom = denom) && b.openAt height)) =
        openVersions BalanceProps.id height (getBalanceId account denom) balances := by
  unfold openVersions versionsOf
  rw [List.filter_filter]
  apply List.filter_congr
  intro row member
  have labelled := settled.labelled row member
  -- Without dashes in the addresses, an id tells the account from the denomination.
  have own : (row.data.accountId = account ∧ row.data.denom = denom) ↔
      row.data.id = getBalanceId account denom := by
    constructor
    · rintro ⟨rfl, rfl⟩
      exact labelled
    · intro same
      exact getBalanceId_inj (settled.dashless row member) plain (labelled.symm.trans same)
  rw [← Bool.and_assoc, Bool.and_comm (row.openAt height), ← Bool.decide_and]
  exact congrArg (· && row.openAt height) (decide_eq_decide.mpr own)

/-- With one visible address of the DAO, its stored balance is reported. -/
theorem getDaoBalanceAtHeight_eq (settled : PriorBalances next balances)
    (latest : effectiveHeight stored height = some effective)
    (named : (params.filter (isDaoRewardAddress effective)).map (fun p => p.data.value) = [account])
    (plain : '-' ∉ account.toList) :
    getDaoBalanceAtHeight params balances stored height =
      (storeGet BalanceProps.id effective (getBalanceId account "upokt") balances).map
        BalanceProps.amount := by
  obtain ⟨p, one, value⟩ : ∃ p, params.filter (isDaoRewardAddress effective) = [p] ∧
      p.data.value = account := by
    cases found : params.filter (isDaoRewardAddress effective) with
    | nil =>
      rw [found] at named
      cases named
    | cons p rest =>
      rw [found, List.map_cons] at named
      obtain ⟨value, none⟩ := List.cons.inj named
      exact ⟨p, by rw [List.map_eq_nil_iff.mp none], value⟩
  unfold getDaoBalanceAtHeight
  rw [latest]
  show ((List.filter _ (Sql.leftJoin _ params balances)).head?.map _) = _
  -- The join holds the versions of the one balance, in the order they are stored.
  rw [Sql.filter_leftJoin, one, List.flatMap_singleton, value, settled.filter_account plain,
    List.head?_map, Option.map_map, storeGet, Option.map_map]
  rfl

end

end Pocketdex
