import Mathlib.Algebra.Group.Nat.Defs
import Pocketdex.Base.Run
import Pocketdex.Base.Sorting
import Pocketdex.Pocket.Validators

/-! What a re-sync leaves of every stored validator, and which removed validators keep a stake. -/

namespace Pocketdex

/-- Two fields hold the same texts under the same keys, empty texts aside. -/
def SameField (first second : JsonField) : Prop :=
  ∀ key text, text ≠ "" → (first.get key = some (some text) ↔ second.get key = some (some text))

/-- The filled entries are the texts of the field that are not empty. -/
theorem mem_filledEntries {field : JsonField} {key text : String} :
    (key, text) ∈ filledEntries field ↔ text ≠ "" ∧ field.get key = some (some text) := by
  rw [filledEntries, List.mem_filterMap, Dict.get_eq_some]
  constructor
  · rintro ⟨⟨name, stored⟩, member, found⟩
    cases stored with
    | none => simp at found
    | some value =>
      by_cases empty : value = ""
      · simp [empty] at found
      · simp only [ne_eq, empty, not_false_eq_true, if_true, Option.some.injEq,
          Prod.mk.injEq] at found
        obtain ⟨rfl, rfl⟩ := found
        exact ⟨empty, member⟩
  · rintro ⟨filled, member⟩
    exact ⟨_, member, by simp [filled]⟩

/-- No key is filled twice. -/
theorem filledEntries_nodup (field : JsonField) :
    ((filledEntries field).map Prod.fst).Nodup := by
  -- The keys of the filled entries are among those of all entries.
  refine field.nodup.sublist ?_
  rw [filledEntries]
  induction field.entries with
  | nil => simp
  | cons entry rest ih =>
    obtain ⟨key, stored⟩ := entry
    rw [List.filterMap_cons]
    split
    · exact ih.cons _
    · rename_i found
      cases stored with
      | none => simp at found
      | some value =>
        by_cases empty : value = ""
        · simp [empty] at found
        · simp only [ne_eq, empty, not_false_eq_true, if_true, Option.some.injEq] at found
          subst found
          exact ih.cons_cons _

/-- An entry shows where its text ends. -/
theorem entryText_prefixCode : PrefixCode entryText := by
  rintro ⟨key, text⟩ ⟨other, value⟩ rest more same
  simp only [entryText, Json.arrayText, Json.moreItems, List.cons_append, List.append_assoc,
    List.nil_append, List.cons.injEq, true_and] at same
  -- The key is read first, and then the text.
  obtain ⟨rfl, following⟩ := Json.quote_prefixCode _ _ _ _ same
  rw [List.cons.injEq] at following
  obtain ⟨rfl, closing⟩ := Json.quote_prefixCode _ _ _ _ following.2
  simpa using closing

/-- Two fields compare equal exactly when they hold the same texts. -/
theorem jsonFieldEquals_iff (first second : JsonField) :
    jsonFieldEquals (some first) (some second) = true ↔ SameField first second := by
  have written : jsonFieldEquals (some first) (some second) = true ↔
      sortedEntries first = sortedEntries second := by
    simp only [jsonFieldEquals, canonical, decide_eq_true_eq, String.ofList_inj]
    constructor
    · intro same
      have opened : ∀ entry tail rest, entryText entry ++ tail ≠ ']' :: rest := by
        simp [entryText, Json.arrayText]
      exact (Json.arrayText_prefixCode entryText_prefixCode opened).injective same
    · intro same
      rw [same]
  rw [written, sortedEntries, sortedEntries, mergeSort_eq_iff localeCompare_total localeCompare_trans
    localeCompare_antisymm (filledEntries_nodup first) (filledEntries_nodup second)]
  constructor
  · intro same key text filled
    simpa [mem_filledEntries, filled] using same (key, text)
  · rintro same ⟨key, text⟩
    rw [mem_filledEntries, mem_filledEntries]
    exact and_congr_right fun filled => same key text filled

theorem SameField.refl (field : JsonField) : SameField field field := fun _ _ _ => Iff.rfl

theorem SameField.symm {first second : JsonField} (same : SameField first second) :
    SameField second first := fun key text filled => (same key text filled).symm

theorem SameField.trans {first second third : JsonField} (same : SameField first second)
    (next : SameField second third) : SameField first third :=
  fun key text filled => (same key text filled).trans (next key text filled)

namespace ChainValidator

/-- The amounts of a validator are decimal. -/
structure Decimal (cv : ChainValidator) : Prop where
  tokens : IsDecimal (orZero cv.tokens)
  minSelfDelegation : IsDecimal (orZero cv.minSelfDelegation)

/-- A stored validator with the mutable columns of a validator with decimal amounts. -/
def applyTo (cv : ChainValidator) (validator : Validator) : Validator :=
  { validator with
    description := cv.description.getD validator.description
    commission := cv.commissionRates.getD validator.commission
    minSelfDelegation := Number.ofNat (decimalValue (orZero cv.minSelfDelegation))
    stakeAmount := decimalValue (orZero cv.tokens)
    stakeStatus := mapBondStatus cv.status }

/-- A stored validator has the chain's values: the amount it must delegate itself as the closest
number, and its fields up to the order of their keys and empty texts. -/
structure Agrees (cv : ChainValidator) (validator : Validator) : Prop where
  stakeStatus : validator.stakeStatus = mapBondStatus cv.status
  stakeAmount : validator.stakeAmount = decimalValue (orZero cv.tokens)
  minSelfDelegation : validator.minSelfDelegation =
    Number.ofNat (decimalValue (orZero cv.minSelfDelegation))
  description : ∀ description, cv.description = some description →
    SameField validator.description description
  commission : ∀ rates, cv.commissionRates = some rates → SameField validator.commission rates

variable {cv : ChainValidator} {validator : Validator}

/-- A validator with decimal amounts refreshes a stored one. -/
theorem refreshed_eq (decimal : cv.Decimal) : refreshed validator cv = .ok (cv.applyTo validator) := by
  rw [refreshed, bigInt_decimal decimal.tokens, parseInt_decimal decimal.minSelfDelegation]
  rfl

/-- A refreshed validator agrees with the chain. -/
theorem applyTo_agrees : cv.Agrees (cv.applyTo validator) where
  stakeStatus := rfl
  stakeAmount := rfl
  minSelfDelegation := rfl
  description := by
    intro description given
    simp only [applyTo, given, Option.getD_some]
    exact SameField.refl _
  commission := by
    intro rates given
    simp only [applyTo, given, Option.getD_some]
    exact SameField.refl _

/-- A stored field compares equal to the chain's one, if there is one, when it holds the same. -/
theorem sameField_getD {stored : JsonField} {given : Option JsonField} :
    jsonFieldEquals (some stored) (some (given.getD stored)) = true ↔
      ∀ field, given = some field → SameField stored field := by
  rw [jsonFieldEquals_iff]
  cases given with
  | none => simp [SameField.refl]
  | some field => simp

/-- The stored validators that do not move are those that agree with the chain. -/
theorem unmoved_iff : unmoved validator (cv.applyTo validator) = true ↔ cv.Agrees validator := by
  have counted := Number.ofNat_ne_nan (decimalValue (orZero cv.minSelfDelegation))
  simp only [unmoved, Number.equals, Bool.and_eq_true, decide_eq_true_eq]
  simp only [applyTo, sameField_getD]
  constructor
  · rintro ⟨⟨⟨⟨status, amount⟩, _, delegation⟩, description⟩, commission⟩
    exact ⟨status, amount, delegation, description, commission⟩
  · rintro ⟨status, amount, delegation, description, commission⟩
    refine ⟨⟨⟨⟨status, amount⟩, ?_, delegation⟩, description⟩, commission⟩
    rw [delegation]
    exact counted

end ChainValidator

/-- A dropped validator without its stake. -/
def closedOut (validator : Validator) : Validator :=
  { validator with stakeStatus := .unstaked, stakeAmount := 0 }

/-- What a re-sync writes for one stored validator. -/
def written (chain : List ChainValidator) (validator : Validator) : Option Validator :=
  match chain.find? fun cv => cv.operatorAddress = validator.id with
  | some cv =>
    if unmoved validator (cv.applyTo validator) then none else some (cv.applyTo validator)
  | none => if validator.stakeStatus = .unstaking then some (closedOut validator) else none

/-- What a re-sync leaves of one stored validator. -/
def settled (chain : List ChainValidator) (validator : Validator) : Validator :=
  (written chain validator).getD validator

/-- A write is made under the id of the validator it is about. -/
theorem written_id {chain : List ChainValidator} {validator next : Validator}
    (wrote : written chain validator = some next) : next.id = validator.id := by
  unfold written at wrote
  split at wrote
  · split at wrote
    · simp at wrote
    · cases wrote
      rfl
  · split at wrote
    · cases wrote
      rfl
    · simp at wrote

/-- The validators with a status are the stored ones that have it. -/
theorem mem_fetchAllValidatorByStatus {store : ValidatorStore} {status : StakeStatus}
    {validator : Validator} : validator ∈ fetchAllValidatorByStatus store status ↔
      store.get validator.id = some validator ∧ validator.stakeStatus = status := by
  rw [fetchAllValidatorByStatus, fetchPaginatedRecords_all _ _ _ (by omega), List.drop_zero,
    List.mem_filter, Store.mem_records, decide_eq_true_eq]

/-- The stored records of an entity have distinct ids. -/
theorem fetchAllValidatorByStatus_nodup (store : ValidatorStore) (status : StakeStatus) :
    ((fetchAllValidatorByStatus store status).map Validator.id).Nodup := by
  rw [fetchAllValidatorByStatus, fetchPaginatedRecords_all _ _ _ (by omega), List.drop_zero]
  exact store.records_nodup.sublist (List.filter_sublist.map _)

/-- Of validators listed once each the one with an address is found by it. -/
theorem find_operator {chain : List ChainValidator}
    (distinct : (chain.map ChainValidator.operatorAddress).Nodup) {cv : ChainValidator}
    (member : cv ∈ chain) :
    chain.find? (fun other => other.operatorAddress = cv.operatorAddress) = some cv := by
  cases found : chain.find? fun other => other.operatorAddress = cv.operatorAddress with
  | none => simpa using List.find?_eq_none.mp found cv member
  | some other =>
    have named := List.find?_some found
    simp only [decide_eq_true_eq] at named
    rw [List.inj_on_of_nodup_map distinct (List.mem_of_find?_eq_some found) member named]

section Settling

variable {store : ValidatorStore} {chain : List ChainValidator}

/-- What is written for one validator of the chain. -/
def seenWrite (store : ValidatorStore) (cv : ChainValidator) : Option Validator :=
  (store.get cv.operatorAddress).bind fun validator =>
    if unmoved validator (cv.applyTo validator) then none else some (cv.applyTo validator)

/-- A validator with decimal amounts is refreshed without an error. -/
theorem refreshSeen_eq {cv : ChainValidator} (decimal : cv.Decimal) :
    refreshSeen store cv = .ok (seenWrite store cv) := by
  unfold refreshSeen seenWrite
  cases store.get cv.operatorAddress with
  | none => rfl
  | some validator =>
    simp only [ChainValidator.refreshed_eq decimal]
    rfl

/-- The writes about the validators of the chain are under their addresses. -/
theorem seenWrite_id {cv : ChainValidator} {next : Validator}
    (wrote : seenWrite store cv = some next) : next.id = cv.operatorAddress := by
  obtain ⟨validator, found, wrote⟩ := Option.bind_eq_some_iff.mp wrote
  split at wrote
  · simp at wrote
  · have named := Store.id_of_get found
    cases wrote
    exact named

/-- The tracked validators are stored, each once. -/
theorem tracked_nodup (store : ValidatorStore) :
    ((fetchAllValidatorByStatus store .staked ++ fetchAllValidatorByStatus store .unstaking).map
      Validator.id).Nodup := by
  rw [List.map_append, List.nodup_append]
  refine ⟨fetchAllValidatorByStatus_nodup _ _, fetchAllValidatorByStatus_nodup _ _, ?_⟩
  -- One record cannot have two statuses.
  rintro key staked other unstaking rfl
  obtain ⟨one, first, rfl⟩ := List.mem_map.mp staked
  obtain ⟨two, second, same⟩ := List.mem_map.mp unstaking
  rw [mem_fetchAllValidatorByStatus] at first second
  rw [same, first.1] at second
  cases second.1
  exact absurd (first.2.symm.trans second.2) (by decide)

/-- Membership of the close-outs: the unstaking validators the chain did not return. -/
theorem mem_closeOutMissing {seen : List String} {next : Validator} :
    next ∈ closeOutMissing seen
      (fetchAllValidatorByStatus store .staked ++ fetchAllValidatorByStatus store .unstaking) ↔
        ∃ validator, store.get validator.id = some validator ∧ validator.id ∉ seen ∧
          validator.stakeStatus = .unstaking ∧ closedOut validator = next := by
  simp only [closeOutMissing, List.mem_map, List.mem_filter, List.mem_append,
    mem_fetchAllValidatorByStatus, decide_eq_true_eq]
  constructor
  · rintro ⟨validator, ⟨tracked, missing, status⟩, same⟩
    exact ⟨validator, tracked.elim And.left And.left, missing, status, same⟩
  · rintro ⟨validator, stored, missing, status, same⟩
    exact ⟨validator, ⟨Or.inr ⟨stored, status⟩, missing, status⟩, same⟩

/-- A re-sync writes at most one record for each stored validator, the one that settles it. -/
theorem toUpsert_spec (distinct : (chain.map ChainValidator.operatorAddress).Nodup)
    (decimal : ∀ cv ∈ chain, cv.Decimal) : ∃ writes, toUpsert store chain = .ok writes ∧
      (writes.map Validator.id).Nodup ∧
      ∀ next, next ∈ writes ↔
        ∃ validator, store.get validator.id = some validator ∧
          written chain validator = some next := by
  let seen := chain.map ChainValidator.operatorAddress
  let closed := closeOutMissing seen
    (fetchAllValidatorByStatus store .staked ++ fetchAllValidatorByStatus store .unstaking)
  -- No refresh fails, as the tokens of the chain are decimal.
  have ran : toUpsert store chain = .ok (chain.filterMap (seenWrite store) ++ closed) := by
    have kept : (chain.map (seenWrite store)).reduceOption = chain.filterMap (seenWrite store) := by
      show (chain.map (seenWrite store)).filterMap id = chain.filterMap (seenWrite store)
      rw [List.filterMap_map]
      rfl
    rw [toUpsert, mapM_of_ok fun cv member => refreshSeen_eq (decimal cv member), ← kept]
    rfl
  have addressed : ((chain.filterMap (seenWrite store)).map Validator.id).Sublist seen := by
    -- Each write stands at the place of the validator it is about.
    clear distinct decimal ran
    induction chain with
    | nil => simp [seen]
    | cons cv rest ih =>
      rw [List.filterMap_cons, show seen = cv.operatorAddress :: rest.map _ from rfl]
      split
      · exact ih.cons _
      · rename_i next wrote
        rw [List.map_cons, seenWrite_id wrote]
        exact ih.cons_cons _
  refine ⟨_, ran, ?_, ?_⟩
  · rw [List.map_append, List.nodup_append]
    refine ⟨distinct.sublist addressed, ?_, ?_⟩
    · -- Closing a validator out keeps its id.
      have kept : closed.map Validator.id = ((fetchAllValidatorByStatus store .staked ++
          fetchAllValidatorByStatus store .unstaking).filter fun validator =>
            validator.id ∉ seen ∧ validator.stakeStatus = .unstaking).map Validator.id := by
        simp only [closed, closeOutMissing, List.map_map]
        rfl
      rw [kept]
      exact (tracked_nodup store).sublist (List.filter_sublist.map _)
    · -- A validator is closed out only where it was not seen.
      rintro key inside other outside rfl
      obtain ⟨next, member, rfl⟩ := List.mem_map.mp outside
      obtain ⟨validator, _, missing, _, rfl⟩ := mem_closeOutMissing.mp member
      exact missing (addressed.subset inside)
  · intro next
    rw [List.mem_append, List.mem_filterMap, mem_closeOutMissing]
    constructor
    · -- A write is the refresh of a validator the chain has, or the close-out of one it has not.
      rintro (⟨cv, member, wrote⟩ | ⟨validator, stored, missing, status, rfl⟩)
      · obtain ⟨validator, found, wrote⟩ := Option.bind_eq_some_iff.mp wrote
        have named := Store.id_of_get found
        refine ⟨validator, by rw [named, found], ?_⟩
        rw [written, named, find_operator distinct member]
        exact wrote
      · refine ⟨validator, stored, ?_⟩
        have absent : chain.find? (fun cv => cv.operatorAddress = validator.id) = none := by
          rw [List.find?_eq_none]
          intro cv member same
          exact missing (List.mem_map.mpr ⟨cv, member, by simpa using same⟩)
        rw [written, absent]
        simp only [status, if_true]
    · rintro ⟨validator, stored, wrote⟩
      rw [written] at wrote
      split at wrote
      · rename_i cv found
        have named := List.find?_some found
        simp only [decide_eq_true_eq] at named
        refine Or.inl ⟨cv, List.mem_of_find?_eq_some found, ?_⟩
        rw [seenWrite, named, stored]
        exact wrote
      · rename_i absent
        split at wrote
        · rename_i status
          refine Or.inr ⟨validator, stored, ?_, status, Option.some.inj wrote⟩
          intro member
          obtain ⟨cv, inside, same⟩ := List.mem_map.mp member
          have other := List.find?_eq_none.mp absent cv inside
          exact other (by simpa using same)
        · simp at wrote

/-- A re-sync settles every stored validator and stores no other one. -/
theorem get_reconcileValidators (distinct : (chain.map ChainValidator.operatorAddress).Nodup)
    (decimal : ∀ cv ∈ chain, cv.Decimal) : ∃ after, reconcileValidators (.ok chain) store = .ok after ∧
      ∀ key, after.get key = (store.get key).map (settled chain) := by
  obtain ⟨writes, ran, once, spec⟩ := @toUpsert_spec store chain distinct decimal
  refine ⟨store.bulkCreate writes, by rw [reconcileValidators, ran]; rfl, fun key => ?_⟩
  cases found : store.get key with
  | none =>
    -- Only stored validators are written.
    rw [Store.get_bulkCreate_other, found, Option.map_none]
    intro next member same
    obtain ⟨validator, stored, wrote⟩ := (spec next).mp member
    rw [← written_id wrote, same, found] at stored
    simp at stored
  | some validator =>
    have named := Store.id_of_get found
    have stored : store.get validator.id = some validator := by rw [named, found]
    rw [Option.map_some, settled]
    cases wrote : written chain validator with
    | some next =>
      have member := (spec next).mpr ⟨validator, stored, wrote⟩
      rw [← named, ← written_id wrote, Store.get_bulkCreate_self once member]
      rfl
    | none =>
      rw [Store.get_bulkCreate_other, found]
      · rfl
      · intro next member same
        obtain ⟨other, present, writing⟩ := (spec next).mp member
        rw [← written_id writing, same, found] at present
        cases present
        rw [wrote] at writing
        simp at writing

end Settling

section Exactness

variable {store : ValidatorStore} {chain : List ChainValidator}

/-- The columns a re-sync never writes. -/
def Validator.identity (validator : Validator) : List String :=
  [validator.ed25519Id, validator.signerId, validator.signerPoktPrefixId, validator.createMsgId,
    validator.transactionId]

/-- Two records of a validator differ at most in the order of keys and in empty texts. -/
structure SameRecord (first second : Validator) : Prop where
  description : SameField first.description second.description
  commission : SameField first.commission second.commission
  others : second =
    { first with description := second.description, commission := second.commission }

/-- A stored validator of the chain ends up with the chain's values. -/
theorem settled_agrees (distinct : (chain.map ChainValidator.operatorAddress).Nodup)
    {cv : ChainValidator} (member : cv ∈ chain) {validator : Validator}
    (named : validator.id = cv.operatorAddress) : cv.Agrees (settled chain validator) := by
  rw [settled, written, named, find_operator distinct member]
  -- Either it agreed before, or it is refreshed.
  by_cases same : unmoved validator (cv.applyTo validator) = true
  · simp only [same, if_true, Option.getD_none]
    exact ChainValidator.unmoved_iff.mp same
  · simp only [if_neg same, Option.getD_some]
    exact ChainValidator.applyTo_agrees

/-- A validator the chain did not return is closed out when it was unstaking. -/
theorem settled_missing {validator : Validator}
    (missing : validator.id ∉ chain.map ChainValidator.operatorAddress) :
    settled chain validator =
      if validator.stakeStatus = .unstaking then closedOut validator else validator := by
  have absent : chain.find? (fun cv => cv.operatorAddress = validator.id) = none := by
    rw [List.find?_eq_none]
    intro cv member same
    exact missing (List.mem_map.mpr ⟨cv, member, by simpa using same⟩)
  rw [settled, written, absent]
  by_cases unstaking : validator.stakeStatus = .unstaking <;> simp [unstaking]

/-- Settling a validator writes none of its identity columns. -/
theorem settled_identity (chain : List ChainValidator) (validator : Validator) :
    (settled chain validator).identity = validator.identity ∧
      (settled chain validator).id = validator.id := by
  unfold settled written
  split
  · split <;> exact ⟨rfl, rfl⟩
  · split <;> exact ⟨rfl, rfl⟩

/-- A validator that agrees with the chain does so in any order of its keys. -/
theorem ChainValidator.Agrees.of_same {cv : ChainValidator} {first second : Validator}
    (agrees : cv.Agrees first) (same : SameRecord first second) : cv.Agrees second := by
  have others := same.others
  constructor
  · rw [others]
    exact agrees.stakeStatus
  · rw [others]
    exact agrees.stakeAmount
  · rw [others]
    exact agrees.minSelfDelegation
  · exact fun description given => same.description.symm.trans (agrees.description description given)
  · exact fun rates given => same.commission.symm.trans (agrees.commission rates given)

/-- A settled validator is not written again, in whatever order its keys are read back. -/
theorem written_settled (distinct : (chain.map ChainValidator.operatorAddress).Nodup)
    {validator again : Validator} (same : SameRecord (settled chain validator) again) :
    written chain again = none := by
  have status : again.stakeStatus = (settled chain validator).stakeStatus := by rw [same.others]
  have named : again.id = validator.id := by
    rw [same.others]
    exact (settled_identity chain validator).2
  unfold written
  split
  · -- The chain returned it, and it agrees with the chain.
    rename_i cv found
    have address := List.find?_some found
    simp only [decide_eq_true_eq] at address
    have agrees := settled_agrees distinct (List.mem_of_find?_eq_some found)
      (named.symm.trans address.symm)
    rw [if_pos (ChainValidator.unmoved_iff.mpr (agrees.of_same same))]
  · -- The chain did not return it, and it is not unstaking any more.
    rename_i absent
    have missing : validator.id ∉ chain.map ChainValidator.operatorAddress := by
      intro member
      obtain ⟨cv, inside, equal⟩ := List.mem_map.mp member
      have other := List.find?_eq_none.mp absent cv inside
      exact other (by simpa [named] using equal)
    rw [status, settled_missing missing]
    by_cases unstaking : validator.stakeStatus = .unstaking
    · simp [unstaking, closedOut]
    · simp [unstaking]

/-- A validator as a create message of the given stake leaves it. -/
def stakedValidator (id : String) (stakeAmount : Int) : Validator where
  id := id
  ed25519Id := "ed25519"
  signerId := id
  signerPoktPrefixId := "pokt1signer"
  description := Dict.empty.set "moniker" (some "node")
  commission := Dict.empty.set "rate" (some "0.1")
  minSelfDelegation := .integer 1
  stakeDenom := "upokt"
  stakeAmount := stakeAmount
  stakeStatus := .staked
  transactionId := "hash"
  createMsgId := "hash-0"

/-- A validator of the chain with some amounts. -/
def chainValidator (operatorAddress : String) (status : BondStatus)
    (tokens minSelfDelegation : String) : ChainValidator :=
  ⟨operatorAddress, status, tokens, some (Dict.empty.set "moniker" (some "node")),
    some (Dict.empty.set "rate" (some "0.1")), minSelfDelegation⟩

end Exactness

section Removal

/-- A block as the validators see it: the create messages that succeeded, and the validators the
chain returns at its height, each once. -/
structure ValidatorBlock where
  messages : List MsgCreateValidator
  chain : List ChainValidator
  distinct : (chain.map ChainValidator.operatorAddress).Nodup
  decimal : ∀ cv ∈ chain, cv.Decimal

/-- The stored validators, and those the chain returned last. -/
structure ValidatorIndex where
  store : ValidatorStore
  chain : List ChainValidator

/-- Indexing a block whose read of the chain succeeds. -/
def indexValidatorBlock (index : ValidatorIndex) (block : ValidatorBlock) :
    Except String ValidatorIndex := do
  let store ← indexValidators block.messages (.ok block.chain) index.store
  return ⟨store, block.chain⟩

/-- Every stored validator the chain does not return is unstaked and holds nothing. -/
def RemovedHoldNothing (index : ValidatorIndex) : Prop :=
  ∀ validator, index.store.get validator.id = some validator →
    validator.id ∉ index.chain.map ChainValidator.operatorAddress →
      validator.stakeStatus = .unstaked ∧ validator.stakeAmount = 0

/-- Every stored validator the chain returned agrees with it. -/
def ReturnedAgree (index : ValidatorIndex) : Prop :=
  ∀ cv ∈ index.chain, ∀ validator, index.store.get cv.operatorAddress = some validator →
    cv.Agrees validator

/-- The stored validators that leave the chain with a block were last returned as unbonding, or
without tokens, and the ones created in the block are returned. -/
def LeaveEmpty (index : ValidatorIndex) (block : ValidatorBlock) : Prop :=
  (∀ cv ∈ index.chain, index.store.get cv.operatorAddress ≠ none →
    cv.operatorAddress ∉ block.chain.map ChainValidator.operatorAddress →
      cv.status = .unbonding ∨
        (mapBondStatus cv.status = .unstaked ∧ decimalValue (orZero cv.tokens) = 0)) ∧
  ∀ msg ∈ block.messages,
    msg.validatorAddress ∈ block.chain.map ChainValidator.operatorAddress

/-- A create message stores a staked validator under the address it names. -/
theorem handleValidatorMsgCreate_row {msg : MsgCreateValidator} {validator : Validator}
    (handled : _handleValidatorMsgCreate msg = .ok validator) :
    validator.id = msg.validatorAddress ∧ validator.stakeStatus = .staked := by
  unfold _handleValidatorMsgCreate at handled
  split at handled
  · simp at handled
  · split at handled
    · simp at handled
    · split at handled
      · simp at handled
      · split at handled
        · simp at handled
        · obtain ⟨amount, _, rest⟩ := exceptBind_ok handled
          cases rest
          exact ⟨rfl, rfl⟩

/-- Only bonded validators are staked, and only unbonding ones are unstaking. -/
theorem mapBondStatus_unstaking {status : BondStatus} :
    mapBondStatus status = .unstaking ↔ status = .unbonding := by
  cases status <;> simp [mapBondStatus]

/-- What a block leaves under an id: the settled validator that was created or stored under it. -/
theorem indexValidatorBlock_get {index next : ValidatorIndex} {block : ValidatorBlock}
    (ran : indexValidatorBlock index block = .ok next) :
    next.chain = block.chain ∧ ∃ created, block.messages.mapM _handleValidatorMsgCreate = .ok created ∧
      ∀ key, next.store.get key =
        ((index.store.bulkCreate created).get key).map (settled block.chain) := by
  obtain ⟨store, indexed, rest⟩ := exceptBind_ok ran
  cases rest
  obtain ⟨middle, stored, reconciled⟩ := exceptBind_ok indexed
  obtain ⟨created, handled, rest⟩ := exceptBind_ok stored
  cases rest
  obtain ⟨after, settling, gets⟩ := @get_reconcileValidators (index.store.bulkCreate created)
    block.chain block.distinct block.decimal
  rw [settling, Except.ok.injEq] at reconciled
  subst reconciled
  exact ⟨rfl, created, handled, gets⟩

/-- A validator found after the create messages was created in the block, or was stored before. -/
theorem get_created {store : ValidatorStore} {messages : List MsgCreateValidator}
    {created : List Validator} (handled : messages.mapM _handleValidatorMsgCreate = .ok created)
    {key : String} {validator : Validator}
    (found : (store.bulkCreate created).get key = some validator) :
    (validator.stakeStatus = .staked ∧ ∃ msg ∈ messages, msg.validatorAddress = key) ∨
      ((∀ msg ∈ messages, msg.validatorAddress ≠ key) ∧ store.get key = some validator) := by
  rcases Store.get_bulkCreate_cases found with ⟨member, named⟩ | ⟨others, stored⟩
  · obtain ⟨msg, inside, row⟩ := mem_of_mapM_ok handled member
    obtain ⟨address, staked⟩ := handleValidatorMsgCreate_row row
    exact Or.inl ⟨staked, msg, inside, address.symm.trans named⟩
  · refine Or.inr ⟨fun msg member same => ?_, stored⟩
    obtain ⟨row, inside, handled⟩ := exists_of_mapM_ok handled member
    exact others row inside ((handleValidatorMsgCreate_row handled).1.trans same)

/-- A block leaves the removed validators without stake exactly when those that leave are empty. -/
theorem indexValidatorBlock_removed {index next : ValidatorIndex} {block : ValidatorBlock}
    (removed : RemovedHoldNothing index) (returned : ReturnedAgree index)
    (ran : indexValidatorBlock index block = .ok next) :
    ReturnedAgree next ∧ (RemovedHoldNothing next ↔ LeaveEmpty index block) := by
  obtain ⟨chain, created, handled, gets⟩ := indexValidatorBlock_get ran
  refine ⟨?_, ?_, ?_⟩
  · -- What the chain returns is settled with its values.
    rw [ReturnedAgree, chain]
    intro cv member validator found
    rw [gets, Option.map_eq_some_iff] at found
    obtain ⟨before, stored, rfl⟩ := found
    exact settled_agrees block.distinct member (Store.id_of_get stored)
  · intro holds
    -- A validator that is not returned stays as it was unless it is unstaking.
    have after : ∀ {key validator}, (index.store.bulkCreate created).get key = some validator →
        key ∉ block.chain.map ChainValidator.operatorAddress →
          validator.stakeStatus = .unstaking ∨
            (validator.stakeStatus = .unstaked ∧ validator.stakeAmount = 0) := by
      intro key validator found missing
      have named := Store.id_of_get found
      have same := (settled_identity block.chain validator).2
      have kept := holds (settled block.chain validator)
        (by rw [same, named, gets, found, Option.map_some]) (by rw [same, named, chain]; exact missing)
      rw [settled_missing (by rw [named]; exact missing)] at kept
      by_cases unstaking : validator.stakeStatus = .unstaking
      · exact Or.inl unstaking
      · rw [if_neg unstaking] at kept
        exact Or.inr kept
    -- So no created validator is missing from the chain.
    have creating : ∀ msg ∈ block.messages,
        msg.validatorAddress ∈ block.chain.map ChainValidator.operatorAddress := by
      intro msg member
      by_contra missing
      obtain ⟨row, inside, made⟩ := exists_of_mapM_ok handled member
      have present : (index.store.bulkCreate created).get msg.validatorAddress ≠ none :=
        Store.get_bulkCreate_ne_none.mpr
          (Or.inl ⟨row, inside, (handleValidatorMsgCreate_row made).1⟩)
      obtain ⟨validator, found⟩ := Option.ne_none_iff_exists'.mp present
      rcases get_created handled found with ⟨staked, _⟩ | ⟨others, _⟩
      · rcases after found missing with status | ⟨status, _⟩ <;> simp [staked] at status
      · exact others msg member rfl
    refine ⟨?_, creating⟩
    intro cv member present missing
    obtain ⟨validator, stored⟩ := Option.ne_none_iff_exists'.mp present
    have found : (index.store.bulkCreate created).get cv.operatorAddress = some validator := by
      rw [Store.get_bulkCreate_other, stored]
      intro row inside same
      obtain ⟨msg, within, made⟩ := mem_of_mapM_ok handled inside
      have address := (handleValidatorMsgCreate_row made).1
      exact missing (same ▸ address ▸ creating msg within)
    have agrees := returned cv member validator stored
    rcases after found missing with status | ⟨status, amount⟩
    · rw [agrees.stakeStatus, mapBondStatus_unstaking] at status
      exact Or.inl status
    · rw [agrees.stakeStatus] at status
      rw [agrees.stakeAmount] at amount
      exact Or.inr ⟨status, by exact_mod_cast amount⟩
  · rintro ⟨leaving, creating⟩
    rw [RemovedHoldNothing, chain]
    intro validator found missing
    rw [gets, Option.map_eq_some_iff] at found
    obtain ⟨before, stored, rfl⟩ := found
    have same := (settled_identity block.chain before).2
    rw [same] at stored missing
    rw [settled_missing missing]
    -- It was not created in this block, so it left with it or was gone before.
    rcases get_created handled stored with ⟨_, msg, member, address⟩ | ⟨_, stored⟩
    · exact absurd (address ▸ creating msg member) missing
    · by_cases gone : before.id ∈ index.chain.map ChainValidator.operatorAddress
      · obtain ⟨cv, member, address⟩ := List.mem_map.mp gone
        rw [← address] at stored missing
        have agrees := returned cv member before stored
        rcases leaving cv member (by simp [stored]) missing with unbonding | ⟨status, amount⟩
        · have status : before.stakeStatus = .unstaking := by
            rw [agrees.stakeStatus, mapBondStatus_unstaking]
            exact unbonding
          simp [status, closedOut]
        · have unstaked : before.stakeStatus = .unstaked := agrees.stakeStatus.trans status
          have nothing : before.stakeAmount = 0 := by rw [agrees.stakeAmount, amount]; rfl
          simp [unstaked, nothing]
      · obtain ⟨status, amount⟩ := removed before stored gone
        simp [status, amount]

/-- Along any run of blocks the removed validators hold no stake exactly when every stored validator
leaves the chain as unbonding, or without tokens. -/
theorem removedValidators_iff {index : ValidatorIndex} {blocks : List ValidatorBlock}
    (removed : RemovedHoldNothing index) (returned : ReturnedAgree index) :
    EveryStep indexValidatorBlock (fun _ _ next => RemovedHoldNothing next) index blocks ↔
      EveryStep indexValidatorBlock (fun before block _ => LeaveEmpty before block) index blocks := by
  refine EveryStep.iff_of_invariant
    (fun index => RemovedHoldNothing index ∧ ReturnedAgree index) ⟨removed, returned⟩ ?_
  intro before block next good ran
  obtain ⟨agree, iff⟩ := indexValidatorBlock_removed good.1 good.2 ran
  exact ⟨iff, fun holds => ⟨holds, agree⟩⟩

/-- No validator is stored, and the chain returned none. -/
def emptyValidatorIndex : ValidatorIndex := ⟨Store.empty, []⟩

theorem removed_emptyValidatorIndex : RemovedHoldNothing emptyValidatorIndex := by
  intro validator found
  simp [emptyValidatorIndex] at found

theorem returned_emptyValidatorIndex : ReturnedAgree emptyValidatorIndex := by
  intro cv member
  simp [emptyValidatorIndex] at member

/-- The create message of one validator. -/
def createMessage : MsgCreateValidator where
  messageId := "hash-0"
  transactionId := "hash"
  signer := some ⟨true, "poktvaloper1", "pokt1"⟩
  ed25519Address := some "poktvaloper1ed"
  validatorAddress := "poktvaloper1"
  description := Dict.empty.set "moniker" (some "node")
  commission := Dict.empty.set "rate" (some "0.1")
  minSelfDelegation := "1"
  value := ⟨"100", "upokt"⟩

/-- A block with create messages after which the chain has one validator with a status. -/
def oneValidatorBlock (messages : List MsgCreateValidator) (status : BondStatus) :
    ValidatorBlock where
  messages := messages
  chain := [chainValidator "poktvaloper1" status "100" "1"]
  distinct := by simp
  decimal := by
    intro cv member
    rw [List.mem_singleton.mp member]
    exact ⟨show IsDecimal (orZero "100") by decide, show IsDecimal (orZero "1") by decide⟩

/-- A block after which the chain has no validator. -/
def noValidatorBlock : ValidatorBlock := ⟨[], [], by simp, by simp⟩

/-- A validator that unbonds before it leaves holds nothing afterwards. -/
theorem removedValidators_iff_unbonding :
    EveryStep indexValidatorBlock (fun _ _ next => RemovedHoldNothing next) emptyValidatorIndex
      [oneValidatorBlock [createMessage] .bonded, oneValidatorBlock [] .unbonding,
        noValidatorBlock] := by
  refine (removedValidators_iff removed_emptyValidatorIndex returned_emptyValidatorIndex).mpr ?_
  intro first ran
  refine ⟨⟨by simp [emptyValidatorIndex], by simp [oneValidatorBlock, createMessage, chainValidator]⟩,
    ?_⟩
  intro second next
  refine ⟨⟨?_, by simp [oneValidatorBlock]⟩, ?_⟩
  · rw [(indexValidatorBlock_get ran).1]
    simp [oneValidatorBlock, chainValidator]
  · intro third last
    refine ⟨⟨?_, by simp [noValidatorBlock]⟩, trivial⟩
    rw [(indexValidatorBlock_get next).1]
    simp [oneValidatorBlock, chainValidator]

/-- A validator that leaves the chain from a bond status of unbonded keeps its stake. -/
theorem removedValidators_keep_stake :
    ¬EveryStep indexValidatorBlock (fun _ _ next => RemovedHoldNothing next) emptyValidatorIndex
      [oneValidatorBlock [createMessage] .unbonded, noValidatorBlock] := by
  intro every
  have ran : ∃ next, indexValidatorBlock emptyValidatorIndex
      (oneValidatorBlock [createMessage] .unbonded) = .ok next ∧
        ∃ last, indexValidatorBlock next noValidatorBlock = .ok last ∧
          (last.store.get "poktvaloper1").map
            (fun validator => (validator.id, validator.stakeStatus, validator.stakeAmount)) =
              some ("poktvaloper1", .unstaked, 100) := by
    refine ⟨_, rfl, _, rfl, ?_⟩
    decide +kernel
  obtain ⟨next, first, last, second, kept⟩ := ran
  obtain ⟨validator, found, columns⟩ := Option.map_eq_some_iff.mp kept
  simp only [Prod.mk.injEq] at columns
  obtain ⟨_, further⟩ := every next first
  obtain ⟨removed, _⟩ := further last second
  have gone := removed validator (by rw [columns.1, found])
    (by rw [(indexValidatorBlock_get second).1]; simp [noValidatorBlock])
  rw [columns.2.2] at gone
  exact absurd gone.2 (by decide)

end Removal

end Pocketdex
