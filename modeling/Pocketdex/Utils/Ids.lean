import Pocketdex.Types

/-! The identifiers under which rows are stored. -/

namespace Pocketdex

/-- Blocks are identified by their height. -/
def getBlockId (height : ℕ) : ℕ := height

/-- A message is identified by its transaction and its index. -/
def messageId (msg : CosmosMessage) : String := s!"{msg.tx.hash}-{msg.idx}"

/-- An event is identified by its transaction or block, its kind as the node spells it, and its
index. -/
def getEventId (kindText : CosmosEventKind → String) (event : CosmosEvent) : String :=
  let hash := (event.tx.map CosmosTransaction.hash).getD ""
  let origin := if hash = "" then toString (getBlockId event.height) else hash
  s!"{origin}-{kindText event.kind}-{event.idx}"

/-- A balance is identified by its account and denomination. -/
def getBalanceId (address denom : String) : String := s!"{address}-{denom}"

/-- A service of a stake message. -/
def getMsgStakeServiceId (msgStakeId serviceId : String) : String := s!"{msgStakeId}-{serviceId}"

/-- A service of a staked entity. -/
def getStakeServiceId (entityStakedId serviceId : String) : String :=
  s!"{entityStakedId}-{serviceId}"

/-- A delegation of an application to a gateway. -/
def getAppDelegatedToGatewayId (appAddress gatewayAddress : String) : String :=
  s!"{appAddress}-{gatewayAddress}"

/-- Texts joined by a separator are told apart at its last place. -/
theorem joined_inj {α : Type} {separator : α} {first second one two : List α}
    (absentOne : separator ∉ one) (absentTwo : separator ∉ two)
    (same : first ++ separator :: one = second ++ separator :: two) :
    first = second ∧ one = two := by
  -- If the separators stood at different places, one of them would be inside a last part.
  rcases List.append_eq_append_iff.mp same with ⟨middle, rest, tail⟩ | ⟨middle, rest, tail⟩
  · cases middle with
    | nil =>
      simp only [List.nil_append, List.cons.injEq, true_and] at tail
      exact ⟨by simpa using rest.symm, tail⟩
    | cons head more =>
      simp only [List.cons_append, List.cons.injEq] at tail
      exact absurd (by simp [tail.2]) absentOne
  · cases middle with
    | nil =>
      simp only [List.nil_append, List.cons.injEq, true_and] at tail
      exact ⟨by simpa using rest, tail.symm⟩
    | cons head more =>
      simp only [List.cons_append, List.cons.injEq] at tail
      exact absurd (by simp [tail.2]) absentTwo

/-- What stands before the first separator. -/
theorem takeWhile_joined {α : Type} [DecidableEq α] {separator : α} {first rest : List α}
    (absent : separator ∉ first) :
    (first ++ separator :: rest).takeWhile (· ≠ separator) = first := by
  have before : ∀ item ∈ first, (decide (item ≠ separator)) = true := fun item member =>
    decide_eq_true fun same => absent (same ▸ member)
  rw [List.takeWhile_append_of_pos before]
  simp

/-- What stands from the first separator on. -/
theorem dropWhile_joined {α : Type} [DecidableEq α] {separator : α} {first rest : List α}
    (absent : separator ∉ first) :
    (first ++ separator :: rest).dropWhile (· ≠ separator) = separator :: rest := by
  have before : ∀ item ∈ first, (decide (item ≠ separator)) = true := fun item member =>
    decide_eq_true fun same => absent (same ▸ member)
  rw [List.dropWhile_append_of_pos before]
  simp

/-- The characters of a balance id. -/
theorem getBalanceId_toList (address denom : String) :
    (getBalanceId address denom).toList = address.toList ++ '-' :: denom.toList := by
  simp [getBalanceId, toString]

/-- Texts joined by a separator that neither first part holds are told apart at its first place. -/
theorem first_joined_inj {α : Type} [DecidableEq α] {separator : α} {first second one two : List α}
    (absentFirst : separator ∉ first) (absentSecond : separator ∉ second)
    (same : first ++ separator :: one = second ++ separator :: two) :
    first = second ∧ one = two := by
  -- The first separator ends the first part on both sides.
  have before := congrArg (List.takeWhile (· ≠ separator)) same
  have after := congrArg (List.dropWhile (· ≠ separator)) same
  rw [takeWhile_joined absentFirst, takeWhile_joined absentSecond] at before
  rw [dropWhile_joined absentFirst, dropWhile_joined absentSecond, List.cons.injEq] at after
  exact ⟨before, after.2⟩

/-- Ids of accounts without dashes tell their account and denomination. -/
theorem getBalanceId_inj {address other denom otherDenom : String}
    (dashless : '-' ∉ address.toList) (otherDashless : '-' ∉ other.toList)
    (same : getBalanceId address denom = getBalanceId other otherDenom) :
    address = other ∧ denom = otherDenom := by
  have listed := congrArg String.toList same
  rw [getBalanceId_toList, getBalanceId_toList] at listed
  obtain ⟨accounts, denoms⟩ := first_joined_inj dashless otherDashless listed
  exact ⟨String.toList_inj.mp accounts, String.toList_inj.mp denoms⟩

/-- Service ids of addresses without dashes tell address and service. -/
theorem getStakeServiceId_inj {address other serviceId otherService : String}
    (dashless : '-' ∉ address.toList) (otherDashless : '-' ∉ other.toList)
    (same : getStakeServiceId address serviceId = getStakeServiceId other otherService) :
    address = other ∧ serviceId = otherService :=
  -- A balance id is made of its two parts in the same way.
  getBalanceId_inj dashless otherDashless same

/-- A number is spelled without dashes. -/
theorem dash_not_mem_toString (number : ℕ) : '-' ∉ (toString number).toList := by
  intro member
  rw [Nat.toString_eq_ofList_toDigits, String.toList_ofList] at member
  have digit := Nat.isDigit_of_mem_toDigits (by decide) (by decide) member
  exact absurd digit (by decide)

/-- Different numbers are spelled differently. -/
theorem toString_inj {first second : ℕ}
    (same : (toString first).toList = (toString second).toList) : first = second := by
  rw [Nat.toString_eq_ofList_toDigits, Nat.toString_eq_ofList_toDigits, String.toList_ofList,
    String.toList_ofList] at same
  rw [← @Nat.ofDigitChars_ten_toDigits first, same, Nat.ofDigitChars_ten_toDigits]

/-- Texts numbered after a dash are told apart by text and number. -/
theorem numbered_inj {first second : String} {one two : ℕ}
    (same : s!"{first}-{one}" = s!"{second}-{two}") : first = second ∧ one = two := by
  have listed := congrArg String.toList same
  simp only [String.toList_append] at listed
  obtain ⟨texts, numbers⟩ := joined_inj (dash_not_mem_toString one) (dash_not_mem_toString two)
    (by simpa [toString] using listed)
  exact ⟨String.toList_inj.mp texts, toString_inj numbers⟩

end Pocketdex
