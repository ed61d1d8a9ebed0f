import Pocketdex.Base.Except
import Pocketdex.Pocket.Migration
import Pocketdex.Proofs.SupplierSteps

/-! When a claimed Morse supplier is stored under its operator, and its own account is marked. -/

namespace Pocketdex

/-- The operator of a claimed supplier, which is the owner when none is named. -/
def claimedOperator (decoded : MsgClaimMorseSupplier) : String :=
  if decoded.shannonOperatorAddress = "" then decoded.shannonOwnerAddress
  else decoded.shannonOperatorAddress

/-- What a claim of the supplier marks. -/
def MsgClaimMorseSupplier.claimedItem (msg : CosmosMessage) (decoded : MsgClaimMorseSupplier)
    (morseAddress : String) : ClaimedItem where
  publicKey := none
  morseAddress := some morseAddress
  destinationAddress := decoded.shannonOwnerAddress
  transactionHash := msg.tx.hash
  claimedMsgId := messageId msg

/-- A claim enters the supplier and its configs under its operator, and marks the account of its
node. -/
structure ClaimIdentified (externals : Externals) (msg : CosmosMessage)
    (decoded : MsgClaimMorseSupplier) : Prop where
  stored : ∀ records, ∃ changes after entry supplier,
    (processSupplierMsg externals msg).exec records = some (changes, after) ∧
    after (claimedOperator decoded) = some entry ∧ entry.supplier = some supplier ∧
    supplier.id = claimedOperator decoded ∧ supplier.stakeStatus = .staked ∧
    ∀ service ∈ decoded.services, ∃ config,
      entry.services.get (getStakeServiceId (claimedOperator decoded) service.serviceId) =
        some config ∧ config.supplierId = claimedOperator decoded
  marked : ∀ records changes after,
    (processSupplierMsg externals msg).exec records = some (changes, after) →
      ∀ blockHeight rows, (updateMorseClaimableAccounts externals blockHeight
        (claimedSuppliers changes.claimMsgs) rows).toOption =
          some (rows.map fun row =>
            if row.data.id = toLowerCase decoded.morseNodeAddress then
              { row with data := (decoded.claimedItem msg
                decoded.morseNodeAddress).mark blockHeight row.data }
            else row)

/-- The operator is named, or there is no owner either, and the key that signed is the one of the
node. -/
structure SignedByNode (externals : Externals) (decoded : MsgClaimMorseSupplier) : Prop where
  operator : decoded.shannonOperatorAddress = "" → decoded.shannonOwnerAddress = ""
  signer : externals.pubKeyToAddress decoded.morsePublicKey ≠ "" ∧
    toLowerCase (externals.pubKeyToAddress decoded.morsePublicKey) =
      toLowerCase decoded.morseNodeAddress

/-- The row of an account that is not claimed. -/
def unclaimedAccount (id : String) : Row MorseClaimableAccountProps where
  data := {
    id := id
    msgImportMorseClaimableAccountsId := "import"
    applicationStakeAmount := 0
    applicationStakeDenom := "upokt"
    supplierStakeAmount := 100
    supplierStakeDenom := "upokt"
    claimed := false
    unstakedBalanceAmount := 0
    unstakedBalanceDenom := "upokt" }
  blockId := none
  blockRange := ⟨1, none⟩

section

variable {externals : Externals} {msg : CosmosMessage} {decoded : MsgClaimMorseSupplier}
  {props : MsgClaimMorseSupplierProps}

/-- What handling a claim leads to. -/
theorem exec_claim (kind : msg.decodedMsg = .claimMorseSupplier decoded)
    (made : claimSupplierProps externals msg decoded = .ok props) (records : SupplierRecords) :
    (processSupplierMsg externals msg).exec records =
      some ({ servicesToClose := closedByStaking externals decoded.services
                decoded.shannonOperatorAddress (records decoded.shannonOperatorAddress)
              claimMsgs := [props] },
        Function.update records decoded.shannonOperatorAddress (some (stakedEntry externals
          decoded.services (stakedSupplier decoded.shannonOperatorAddress
            decoded.shannonOwnerAddress (props.stakeAmount +
              ((knownSupplier (records decoded.shannonOperatorAddress)).map
                Supplier.stakeAmount).getD 0) props.stakeDenom)
          (records decoded.shannonOperatorAddress)))) := by
  simp only [processSupplierMsg, kind, _handleClaimSupplier, Program.bind_eq, Program.read_bind,
    Program.bind, Program.exec, made, Program.lift_ok, Program.pure_eq, exec_enterStaking_bind]
  rfl

/-- The record of a claim names the key that signed, the message and the owner. -/
theorem claimSupplierProps_names (made : claimSupplierProps externals msg decoded = .ok props) :
    props.morseSrcAddress = externals.pubKeyToAddress decoded.morsePublicKey ∧
      props.shannonOwnerAddress = decoded.shannonOwnerAddress ∧
      props.transactionId = msg.tx.hash ∧ props.messageId = messageId msg := by
  unfold claimSupplierProps at made
  obtain ⟨signerType, -, made⟩ := exceptBind_ok made
  obtain ⟨balance, -, made⟩ := exceptBind_ok made
  obtain ⟨stake, -, made⟩ := exceptBind_ok made
  obtain ⟨stakeCoin, -, made⟩ := exceptBind_ok made
  obtain ⟨balanceCoin, -, made⟩ := exceptBind_ok made
  obtain ⟨stakeAmount, -, made⟩ := exceptBind_ok made
  obtain ⟨balanceAmount, -, made⟩ := exceptBind_ok made
  obtain ⟨type, -, made⟩ := exceptBind_ok made
  cases made
  exact ⟨rfl, rfl, rfl, rfl⟩

/-- So it marks the account of that key. -/
theorem claimedSuppliers_of_claim (made : claimSupplierProps externals msg decoded = .ok props) :
    claimedSuppliers [props] = [decoded.claimedItem msg
      (externals.pubKeyToAddress decoded.morsePublicKey)] := by
  obtain ⟨address, owner, transaction, message⟩ := claimSupplierProps_names made
  simp only [claimedSuppliers, List.map_cons, List.map_nil, address, owner, transaction, message]
  rfl

/-- Marking the account with one address. -/
theorem update_of_claim (morseAddress : String) (blockHeight : ℕ)
    (rows : List (Row MorseClaimableAccountProps)) :
    (updateMorseClaimableAccounts externals blockHeight [decoded.claimedItem msg morseAddress]
      rows).toOption =
      if morseAddress = "" then none
      else some (rows.map fun row => if row.data.id = toLowerCase morseAddress then
        { row with data := (decoded.claimedItem msg morseAddress).mark blockHeight row.data }
        else row) := by
  show (updateMorseClaimableAccount externals blockHeight (decoded.claimedItem msg morseAddress)
    rows >>= pure).toOption = _
  by_cases empty : morseAddress = ""
  · subst empty
    rfl
  · have named : (decoded.claimedItem msg morseAddress).accountId externals =
        .ok (toLowerCase morseAddress) := by
      simp [ClaimedItem.accountId, MsgClaimMorseSupplier.claimedItem, empty]
    unfold updateMorseClaimableAccount
    rw [named, if_neg empty]
    rfl

/-- Staking stores a config for each service, under the operator. -/
theorem stakedEntry_config {raw : List SupplierServiceConfig} (supplier : Supplier)
    (entry : Option SupplierRecord) {service : SupplierServiceConfig} (member : service ∈ raw) :
    ∃ config, (stakedEntry externals raw supplier entry).services.get
      (getStakeServiceId supplier.id service.serviceId) = some config ∧
        config.supplierId = supplier.id := by
  -- The config of a service is stored last, after those that are removed.
  have listed : serviceConfig externals supplier.id service ∈
      (getServices externals raw supplier.id (knownServices entry).keys).services :=
    List.mem_map_of_mem member
  have stored : (stakedEntry externals raw supplier entry).services.get
      (getStakeServiceId supplier.id service.serviceId) ≠ none :=
    Dict.get_storeAll_ne_none.mpr (Or.inl ⟨_, listed, rfl⟩)
  obtain ⟨config, found⟩ := Option.ne_none_iff_exists'.mp stored
  refine ⟨config, found, ?_⟩
  rcases Dict.get_storeAll_cases found with ⟨inside, -⟩ | ⟨missing, -⟩
  · obtain ⟨other, -, rfl⟩ := List.mem_map.mp inside
    rfl
  · exact absurd rfl (missing _ listed)

/-- A claim enters its supplier under its operator just when that is named, or no owner is. -/
theorem stored_iff (kind : msg.decodedMsg = .claimMorseSupplier decoded)
    (made : claimSupplierProps externals msg decoded = .ok props) :
    (∀ records, ∃ changes after entry supplier,
      (processSupplierMsg externals msg).exec records = some (changes, after) ∧
      after (claimedOperator decoded) = some entry ∧ entry.supplier = some supplier ∧
      supplier.id = claimedOperator decoded ∧ supplier.stakeStatus = .staked ∧
      ∀ service ∈ decoded.services, ∃ config,
        entry.services.get (getStakeServiceId (claimedOperator decoded) service.serviceId) =
          some config ∧ config.supplierId = claimedOperator decoded) ↔
      (decoded.shannonOperatorAddress = "" → decoded.shannonOwnerAddress = "") := by
  constructor
  · -- From no records at all, only the named operator is entered.
    intro stored empty
    obtain ⟨changes, after, entry, supplier, ran, found, -⟩ := stored fun _ => none
    rw [exec_claim kind made, Option.some.injEq, Prod.mk.injEq] at ran
    obtain ⟨-, rfl⟩ := ran
    by_contra owned
    rw [claimedOperator, if_pos empty, Function.update_apply, if_neg (by rw [empty]; exact owned)]
      at found
    cases found
  · intro named records
    have operator : claimedOperator decoded = decoded.shannonOperatorAddress := by
      unfold claimedOperator
      split
      · rename_i empty
        rw [empty, named empty]
      · rfl
    rw [operator]
    exact ⟨_, _, _, _, exec_claim kind made records, Function.update_self .., rfl, rfl, rfl,
      fun service member => stakedEntry_config _ _ member⟩

/-- A claim marks the account of its node just when the key that signed is the one of the node. -/
theorem marked_iff (kind : msg.decodedMsg = .claimMorseSupplier decoded)
    (made : claimSupplierProps externals msg decoded = .ok props) :
    (∀ records changes after,
      (processSupplierMsg externals msg).exec records = some (changes, after) →
        ∀ blockHeight rows, (updateMorseClaimableAccounts externals blockHeight
          (claimedSuppliers changes.claimMsgs) rows).toOption =
            some (rows.map fun row =>
              if row.data.id = toLowerCase decoded.morseNodeAddress then
                { row with data := (decoded.claimedItem msg
                  decoded.morseNodeAddress).mark blockHeight row.data }
              else row)) ↔
      externals.pubKeyToAddress decoded.morsePublicKey ≠ "" ∧
        toLowerCase (externals.pubKeyToAddress decoded.morsePublicKey) =
          toLowerCase decoded.morseNodeAddress := by
  constructor
  · intro marked
    have ran := exec_claim kind made fun _ => none
    have one := marked _ _ _ ran
    simp only [claimedSuppliers_of_claim made, update_of_claim] at one
    by_cases empty : externals.pubKeyToAddress decoded.morsePublicKey = ""
    · simp [empty] at one
    · simp only [if_neg empty, Option.some.injEq] at one
      refine ⟨empty, ?_⟩
      -- An unclaimed account of the key is marked, so it is the one of the node.
      by_contra different
      have mark := one 0 [unclaimedAccount
        (toLowerCase (externals.pubKeyToAddress decoded.morsePublicKey))]
      simp [unclaimedAccount, different, ClaimedItem.mark] at mark
  · rintro ⟨named, same⟩ records changes after ran blockHeight rows
    rw [exec_claim kind made, Option.some.injEq, Prod.mk.injEq] at ran
    obtain ⟨rfl, -⟩ := ran
    rw [claimedSuppliers_of_claim made, update_of_claim, if_neg named, same]
    rfl

/-- A claim is identified by its operator and its node just when one of them is named as operator
and the key that signed is the one of the node. -/
theorem claimIdentified_iff (kind : msg.decodedMsg = .claimMorseSupplier decoded)
    (made : claimSupplierProps externals msg decoded = .ok props) :
    ClaimIdentified externals msg decoded ↔ SignedByNode externals decoded := by
  constructor
  · rintro ⟨stored, marked⟩
    exact ⟨(stored_iff kind made).mp stored, (marked_iff kind made).mp marked⟩
  · rintro ⟨operator, signer⟩
    exact ⟨(stored_iff kind made).mpr operator, (marked_iff kind made).mpr signer⟩

end

/-- A node where the key of 32 zero bytes has its address, and no endpoint has a host. -/
def zeroKeyExternals : Externals where
  kindText := fun _ => ""
  pubKeyToAddress := fun _ => "66687aadf862bd776c8fc18b8e9f8e2008971485"
  hostname := fun _ => none
  cosmosDecimalToBigInt := fun _ => 0

/-- A claim of a node, signed by that key. -/
def zeroKeyClaim (operator node : String) (signerIsOutputAddress : Bool) :
    MsgClaimMorseSupplier where
  shannonSigningAddress := "pokt1owner"
  shannonOwnerAddress := "pokt1owner"
  shannonOperatorAddress := operator
  morsePublicKey := List.replicate 32 0
  morseSignature := []
  morseNodeAddress := node
  signerIsOutputAddress := signerIsOutputAddress
  services := [⟨"eth", [], []⟩]

/-- The message of a claim, with its event. -/
def zeroKeyMessage (decoded : MsgClaimMorseSupplier) : CosmosMessage where
  idx := 0
  height := 120
  tx := ⟨0, "M", 0, [⟨.morseSupplierClaimed, [⟨"claimed_balance", "10upokt"⟩,
    ⟨"claimed_supplier_stake", "50upokt"⟩]⟩]⟩
  decodedMsg := .claimMorseSupplier decoded

/-- The record of the claim. -/
def zeroKeyProps (decoded : MsgClaimMorseSupplier) : MsgClaimMorseSupplierProps where
  id := "M-0"
  supplierId := decoded.shannonOperatorAddress
  shannonSigningAddress := decoded.shannonSigningAddress
  shannonOwnerAddress := decoded.shannonOwnerAddress
  shannonOperatorAddress := decoded.shannonOperatorAddress
  morsePublicKey := toHex decoded.morsePublicKey
  morseSrcAddress := "66687aadf862bd776c8fc18b8e9f8e2008971485"
  morseSignature := ""
  stakeAmount := 50
  stakeDenom := "upokt"
  balanceAmount := 10
  balanceDenom := "upokt"
  blockId := 120
  transactionId := "M"
  messageId := "M-0"
  morseNodeAddress := decoded.morseNodeAddress
  signerIsOutputAddress := decoded.signerIsOutputAddress
  claimSignerType := none

/-- A claim that names its operator and is signed by the key of the node is identified by them. -/
theorem claimIdentified_node : ClaimIdentified zeroKeyExternals
    (zeroKeyMessage (zeroKeyClaim "pokt1op" "66687AADF862BD776C8FC18B8E9F8E2008971485" false))
    (zeroKeyClaim "pokt1op" "66687AADF862BD776C8FC18B8E9F8E2008971485" false) := by
  have made : claimSupplierProps zeroKeyExternals
      (zeroKeyMessage (zeroKeyClaim "pokt1op" "66687AADF862BD776C8FC18B8E9F8E2008971485" false))
      (zeroKeyClaim "pokt1op" "66687AADF862BD776C8FC18B8E9F8E2008971485" false) =
      .ok (zeroKeyProps (zeroKeyClaim "pokt1op" "66687AADF862BD776C8FC18B8E9F8E2008971485" false)) :=
    ok_of_toOption (by decide +kernel)
  exact (claimIdentified_iff rfl made).mpr ⟨by decide, by decide +kernel, by decide +kernel⟩

/-- A claim without an operator, signed by the key of the output address, is stored under no name,
and marks the account of the key. -/
theorem claimIdentified_output :
    (processSupplierMsg zeroKeyExternals (zeroKeyMessage (zeroKeyClaim ""
      "00f9900606fa3d5c9179fc0c8513078a53a2073e" true))).exec (fun _ => none) ≠ none ∧
    ¬ClaimIdentified zeroKeyExternals
      (zeroKeyMessage (zeroKeyClaim "" "00f9900606fa3d5c9179fc0c8513078a53a2073e" true))
      (zeroKeyClaim "" "00f9900606fa3d5c9179fc0c8513078a53a2073e" true) := by
  have made : claimSupplierProps zeroKeyExternals
      (zeroKeyMessage (zeroKeyClaim "" "00f9900606fa3d5c9179fc0c8513078a53a2073e" true))
      (zeroKeyClaim "" "00f9900606fa3d5c9179fc0c8513078a53a2073e" true) =
      .ok (zeroKeyProps (zeroKeyClaim "" "00f9900606fa3d5c9179fc0c8513078a53a2073e" true)) :=
    ok_of_toOption (by decide +kernel)
  refine ⟨by rw [exec_claim rfl made]; exact Option.some_ne_none _, fun identified => ?_⟩
  exact absurd ((stored_iff rfl made).mp identified.stored rfl) (by decide)

end Pocketdex
