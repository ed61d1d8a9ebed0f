import Mathlib.Data.List.Lex
import Mathlib.Data.Prod.Lex
import Pocketdex.Base.JsonText
import Pocketdex.Base.Store
import Pocketdex.Pocket.Applications
import Pocketdex.Utils.Db
import Pocketdex.Utils.Number

/-! The validator handlers, and how each block re-syncs the stored validators with the chain. -/

namespace Pocketdex

/-- A flat JSON field: the texts under its keys, in insertion order, where a text may be missing. -/
abbrev JsonField := Dict String (Option String)

structure Validator where
  id : String
  ed25519Id : String
  signerId : String
  signerPoktPrefixId : String
  description : JsonField
  commission : JsonField
  minSelfDelegation : Number
  stakeDenom : String
  stakeAmount : Int
  stakeStatus : StakeStatus
  transactionId : String
  createMsgId : String
  deriving DecidableEq

abbrev ValidatorStore := Store Validator.id

/-- How a validator is bonded, as the chain tells it. -/
inductive BondStatus where
  | unspecified
  | unbonded
  | unbonding
  | bonded
  | unrecognized
  deriving DecidableEq, Repr

/-- A validator of the chain: its commission is there when its rates are. -/
structure ChainValidator where
  operatorAddress : String
  status : BondStatus
  tokens : String
  description : Option JsonField
  commissionRates : Option JsonField
  minSelfDelegation : String
  deriving DecidableEq

/-- What is derived from the public key of a signer. -/
structure ValidatorSigner where
  supported : Bool
  signerAddress : String
  poktSignerAddress : String
  deriving DecidableEq, Repr

structure MsgCreateValidator where
  messageId : String
  transactionId : String
  signer : Option ValidatorSigner
  ed25519Address : Option String
  validatorAddress : String
  description : JsonField
  commission : JsonField
  minSelfDelegation : String
  value : Coin
  deriving DecidableEq

/-- The validator a create message stores, under the operator address it names. -/
def _handleValidatorMsgCreate (msg : MsgCreateValidator) : Except String Validator :=
  match msg.signer with
  | none => .error "[handleValidatorMsgCreate] missing signerInfos public key"
  | some signer =>
    match msg.ed25519Address with
    | none => .error "Pubkey is nil"
    | some ed25519Address =>
      if msg.validatorAddress = "" then
        .error "[handleValidatorMsgCreate] missing validatorAddress in MsgCreateValidator"
      -- Keys of other kinds are not compared with the address.
      else if signer.supported ∧ signer.signerAddress ≠ msg.validatorAddress then
        .error "[handleValidatorMsgCreate] derived signer address != msg validatorAddress"
      else do
        let stakeAmount ← bigInt msg.value.amount
        return {
          id := msg.validatorAddress
          ed25519Id := ed25519Address
          signerId := signer.signerAddress
          signerPoktPrefixId := signer.poktSignerAddress
          description := msg.description
          commission := msg.commission
          minSelfDelegation := parseInt msg.minSelfDelegation
          stakeDenom := msg.value.denom
          stakeAmount := stakeAmount
          stakeStatus := .staked
          transactionId := msg.transactionId
          createMsgId := msg.messageId }

/-- The validators of a block's create messages are saved together. -/
def handleValidatorMsgCreate (messages : List MsgCreateValidator) (store : ValidatorStore) :
    Except String ValidatorStore := do
  let validators ← messages.mapM _handleValidatorMsgCreate
  return store.bulkCreate validators

/-- Only a bonded or unbonding validator is staked or unstaking. -/
def mapBondStatus : BondStatus → StakeStatus
  | .bonded => .staked
  | .unbonding => .unstaking
  | _ => .unstaked

/-- The place of a character of a key: underscores and dollars come before digits and letters. -/
def primaryWeight (char : Char) : ℕ :=
  if char = '_' then 0 else if char = '$' then 1 else char.toLower.toNat

/-- What two keys are sorted by: their letters, and among the same letters the small ones first. -/
def collation (key : String) : List ℕ ×ₗ List ℕ :=
  toLex (key.toList.map primaryWeight, key.toList.map fun char => 0x110000 - char.toNat)

/-- Whether one key is not sorted after another one. -/
def localeCompare (first second : String) : Bool := collation first ≤ collation second

/-- Keys that are sorted alike are the same. -/
theorem collation_injective : Function.Injective collation := by
  intro first second same
  -- The second list tells every character.
  have codes := congrArg (fun pair => (ofLex pair).2) same
  simp only [collation, ofLex_toLex] at codes
  apply String.toList_inj.mp
  refine List.map_injective_iff.mpr ?_ codes
  intro one other equal
  have small : one.toNat < 0x110000 := by
    have valid : one.toNat < 0xD800 ∨ 0xDFFF < one.toNat ∧ one.toNat < 0x110000 := one.valid
    omega
  have below : other.toNat < 0x110000 := by
    have valid : other.toNat < 0xD800 ∨ 0xDFFF < other.toNat ∧ other.toNat < 0x110000 :=
      other.valid
    omega
  have equal : 0x110000 - one.toNat = 0x110000 - other.toNat := equal
  exact Char.toNat_inj.mp (by omega)

theorem localeCompare_total (first second : String) :
    (localeCompare first second || localeCompare second first) = true := by
  simp only [localeCompare, Bool.or_eq_true, decide_eq_true_eq]
  exact le_total _ _

theorem localeCompare_trans (first second third : String) (less : localeCompare first second = true)
    (more : localeCompare second third = true) : localeCompare first third = true := by
  simp only [localeCompare, decide_eq_true_eq] at *
  exact less.trans more

theorem localeCompare_antisymm (first second : String) (less : localeCompare first second = true)
    (more : localeCompare second first = true) : first = second := by
  simp only [localeCompare, decide_eq_true_eq] at less more
  exact collation_injective (le_antisymm less more)

/-- The entries of a field that hold a text which is not empty. -/
def filledEntries (field : JsonField) : List (String × String) :=
  field.entries.filterMap fun entry =>
    match entry.2 with
    | some text => if text ≠ "" then some (entry.1, text) else none
    | none => none

/-- The filled entries in the order of their keys. -/
def sortedEntries (field : JsonField) : List (String × String) :=
  (filledEntries field).mergeSort fun one other => localeCompare one.1 other.1

/-- One key with its text. -/
def entryText (entry : String × String) : List Char :=
  Json.arrayText [Json.quote entry.1, Json.quote entry.2]

/-- A field as a text that hides the order of its keys and its empty entries. -/
def canonical : Option JsonField → String
  | none => "null"
  | some field => String.ofList (Json.arrayText ((sortedEntries field).map entryText))

/-- Whether two fields differ at most in the order of their keys and in empty entries. -/
def jsonFieldEquals (first second : Option JsonField) : Bool := canonical first = canonical second

/-- A stored validator with the mutable columns of the chain. -/
def refreshed (validator : Validator) (cv : ChainValidator) : Except String Validator := do
  let stakeAmount ← bigInt (orZero cv.tokens)
  return { validator with
    description := cv.description.getD validator.description
    commission := cv.commissionRates.getD validator.commission
    minSelfDelegation := parseInt (orZero cv.minSelfDelegation)
    stakeAmount := stakeAmount
    stakeStatus := mapBondStatus cv.status }

/-- Whether no mutable column of a validator moved. -/
def unmoved (validator next : Validator) : Bool :=
  validator.stakeStatus = next.stakeStatus && validator.stakeAmount = next.stakeAmount &&
    validator.minSelfDelegation.equals next.minSelfDelegation &&
    jsonFieldEquals (some validator.description) (some next.description) &&
    jsonFieldEquals (some validator.commission) (some next.commission)

/-- What is written for one validator of the chain: nothing if it is not stored or did not move. -/
def refreshSeen (store : ValidatorStore) (cv : ChainValidator) :
    Except String (Option Validator) :=
  match store.get cv.operatorAddress with
  | none => .ok none
  | some validator => do
    let next ← refreshed validator cv
    return if unmoved validator next then none else some next

/-- The stored validators with a status, page by page. -/
def fetchAllValidatorByStatus (store : ValidatorStore) (status : StakeStatus) : List Validator :=
  let records := store.records.filter fun validator => validator.stakeStatus = status
  fetchPaginatedRecords (fun offset limit => (records.drop offset).take limit)
    (records.length + 1) 0

/-- What is written for the tracked validators the chain dropped: staked ones are left alone. -/
def closeOutMissing (seen : List String) (tracked : List Validator) : List Validator :=
  (tracked.filter fun validator =>
    validator.id ∉ seen ∧ validator.stakeStatus = .unstaking).map fun validator =>
      { validator with stakeStatus := .unstaked, stakeAmount := 0 }

/-- The validators a re-sync writes. -/
def toUpsert (store : ValidatorStore) (chainValidators : List ChainValidator) :
    Except String (List Validator) := do
  let moved ← chainValidators.mapM (refreshSeen store)
  let tracked := fetchAllValidatorByStatus store .staked ++ fetchAllValidatorByStatus store .unstaking
  return moved.reduceOption ++
    closeOutMissing (chainValidators.map ChainValidator.operatorAddress) tracked

/-- The re-sync of a block: a failed read of the chain is tolerated, and nothing else is. -/
def reconcileValidators (read : Except String (List ChainValidator)) (store : ValidatorStore) :
    Except String ValidatorStore :=
  match read with
  | .error _ => .ok store
  | .ok chainValidators => do
    let writes ← toUpsert store chainValidators
    return store.bulkCreate writes

/-- Create messages are stored before the stored validators are re-synced. -/
def indexValidators (messages : List MsgCreateValidator)
    (read : Except String (List ChainValidator)) (store : ValidatorStore) :
    Except String ValidatorStore := do
  let store ← handleValidatorMsgCreate messages store
  reconcileValidators read store

end Pocketdex
