import Pocketdex.Pocket.Migration
import Pocketdex.Proofs.SupplierLifecycle

/-! When the claims of Morse accounts in one transaction each get the figures of their own event. -/

namespace Pocketdex

/-- What the attributes of one event leave in a variable that starts empty. -/
def ownValue {α : Type} (key : String) (read : String → Except String α) (event : TxEvent) :
    Except String (Option α) :=
  readAttribute key (fun value => (read value).map some) none event.attributes

/-- The amount and denomination of a coin that one event tells. -/
def ownCoin (key : String) (event : TxEvent) : Except String (Int × String) := do
  let coin ← ownValue key getDenomAndAmount event
  let coin ← requireCoin coin ""
  let amount ← bigInt coin.amount
  return (amount, coin.denom)

/-- A claim of a Morse account in a transaction, with its own event and the balance that tells. -/
structure AccountClaim (tx : CosmosTransaction) where
  msg : ClaimMorseAccountMessage
  ofTx : msg.tx = tx
  event : TxEvent
  balance : Int × String
  tellsBalance : ownCoin "claimed_balance" event = .ok balance

/-- A claim of a Morse application or supplier in a transaction, with its own event and the balance
and the stake that tells. -/
structure StakeClaim (tx : CosmosTransaction) (μ : Type) (stakeKey : String) where
  msg : CosmosMessage
  ofTx : msg.tx = tx
  decoded : μ
  event : TxEvent
  balance : Int × String
  stake : Int × String
  tellsBalance : ownCoin "claimed_balance" event = .ok balance
  tellsStake : ownCoin stakeKey event = .ok stake

/-- A transaction with all its claims of Morse accounts, each with its own event. Applications are
claimed for a service, and the events of suppliers name their signers well. -/
structure MorseClaims where
  tx : CosmosTransaction
  accounts : List (AccountClaim tx)
  applications : List (StakeClaim tx MsgClaimMorseApplication "claimed_application_stake")
  suppliers : List (StakeClaim tx MsgClaimMorseSupplier "claimed_supplier_stake")
  accountEvents : (tx.events.filter fun event => event.type = .morseAccountClaimed).Perm
    (accounts.map AccountClaim.event)
  applicationEvents : (tx.events.filter fun event => event.type = .morseApplicationClaimed).Perm
    (applications.map StakeClaim.event)
  supplierEvents : (tx.events.filter fun event => event.type = .morseSupplierClaimed).Perm
    (suppliers.map StakeClaim.event)
  configured : ∀ claim ∈ applications, ∃ service, claim.decoded.serviceConfig = some service
  signers : ∀ claim ∈ suppliers, ∃ signer,
    ownValue "claim_signer_type" (fun value => .ok (replaceQuotes value)) claim.event =
      .ok signer ∧ ∃ type, claimSignerTypeOf signer = .ok type

/-- The record of a claimed account has the balance of its own event. -/
def AccountClaim.Attributed {tx : CosmosTransaction} (externals : Externals)
    (claim : AccountClaim tx) : Prop :=
  ∃ record, _handleMsgClaimMorseAccount externals claim.msg = .ok record ∧
    (record.balanceAmount, record.balanceDenom) = claim.balance

/-- The record of a claimed application has the balance and stake of its own event, and that stake
is added to the one stored. -/
def ApplicationAttributed {tx : CosmosTransaction} {stakeKey : String}
    (claim : StakeClaim tx MsgClaimMorseApplication stakeKey) : Prop :=
  ∀ table, ∃ record application services,
    (_handleMsgClaimMorseApplication claim.msg claim.decoded).run table =
      .ok ((record, application, services), table) ∧
    (record.balanceAmount, record.balanceDenom) = claim.balance ∧
    (record.stakeAmount, record.stakeDenom) = claim.stake ∧
    application.stakeAmount = claim.stake.1 +
      ((table.get claim.decoded.shannonDestAddress).map Application.stakeAmount).getD 0 ∧
    application.stakeDenom = claim.stake.2

/-- The record of a claimed supplier has the balance and stake of its own event, and that stake is
added to the one known. -/
def SupplierAttributed {tx : CosmosTransaction} {stakeKey : String} (externals : Externals)
    (claim : StakeClaim tx MsgClaimMorseSupplier stakeKey) : Prop :=
  ∀ table, ∃ staking,
    (_handleClaimSupplier externals claim.msg claim.decoded).run table = .ok (staking, table) ∧
    (staking.msg.balanceAmount, staking.msg.balanceDenom) = claim.balance ∧
    (staking.msg.stakeAmount, staking.msg.stakeDenom) = claim.stake ∧
    staking.supplier.stakeAmount = claim.stake.1 +
      ((knownSupplier (table.get claim.decoded.shannonOperatorAddress)).map
        Supplier.stakeAmount).getD 0 ∧
    staking.supplier.stakeDenom = claim.stake.2

/-- Every claim of a transaction has the figures of its own event. -/
structure MorseClaims.Attributed (externals : Externals) (claims : MorseClaims) : Prop where
  accounts : ∀ claim ∈ claims.accounts, claim.Attributed externals
  applications : ∀ claim ∈ claims.applications, ApplicationAttributed claim
  suppliers : ∀ claim ∈ claims.suppliers, SupplierAttributed externals claim

/-- The events of each kind of claim all tell the same figures. -/
structure MorseClaims.Alike (claims : MorseClaims) : Prop where
  accounts : ∀ claim ∈ claims.accounts, ∀ other ∈ claims.accounts,
    claim.balance = other.balance
  applications : ∀ claim ∈ claims.applications, ∀ other ∈ claims.applications,
    claim.balance = other.balance ∧ claim.stake = other.stake
  suppliers : ∀ claim ∈ claims.suppliers, ∀ other ∈ claims.suppliers,
    claim.balance = other.balance ∧ claim.stake = other.stake

/-- What the events of one type leave in a variable, the last one found. -/
def lastValue {α : Type} (type : EventType) (key : String) (read : String → Except String α)
    (events : List TxEvent) : Except String (Option α) :=
  (events.filter fun event => event.type = type).foldlM
    (fun found event => readAttribute key (fun value => (read value).map some) found
      event.attributes) none

section

variable {α : Type} {key : String} {read : String → Except String α}

/-- Attributes that tell a value overwrite what was found before, and others keep it. -/
theorem readAttribute_found {attributes : List Attribute} {value : Option α}
    (own : readAttribute key (fun text => (read text).map some) none attributes = .ok value)
    (found : Option α) :
    readAttribute key (fun text => (read text).map some) found attributes =
      .ok (value.or found) := by
  -- The attributes are read from the last one backwards: it decides if it has the key.
  induction attributes using List.reverseRecOn generalizing value with
  | nil =>
    cases own
    rfl
  | append_singleton rest entry ih =>
    unfold readAttribute at own ih ⊢
    rw [List.foldlM_append] at own ⊢
    obtain ⟨before, first, last⟩ := exceptBind_ok own
    rw [ih first]
    show ((if entry.key = key then Except.map some (read entry.value) else .ok (before.or found)) >>=
      pure) = _
    by_cases named : entry.key = key
    · simp only [List.foldlM_cons, List.foldlM_nil, if_pos named] at last
      rw [if_pos named]
      obtain ⟨one, told, same⟩ := exceptBind_ok last
      obtain ⟨text, -, rfl⟩ := exceptMap_ok told
      cases same
      rw [told]
      rfl
    · simp only [List.foldlM_cons, List.foldlM_nil, if_neg named] at last
      rw [if_neg named]
      cases last
      rfl

/-- What the events of one type leave is what one of them tells, if each tells something. -/
theorem lastValue_told {type : EventType} {events : List TxEvent}
    (told : ∀ event ∈ events, event.type = type → ∃ value, ownValue key read event = .ok value) :
    ∃ result, lastValue type key read events = .ok result ∧
      ((result = none ∧ ∀ event ∈ events, event.type = type →
          ownValue key read event = .ok none) ∨
        ∃ event ∈ events, event.type = type ∧ ownValue key read event = .ok result) := by
  induction events using List.reverseRecOn with
  | nil => exact ⟨none, rfl, Or.inl ⟨rfl, fun event member => absurd member List.not_mem_nil⟩⟩
  | append_singleton rest event ih =>
    obtain ⟨result, earlier, origin⟩ := ih fun other member =>
      told other (List.mem_append_left _ member)
    unfold lastValue at earlier ⊢
    rw [List.filter_append, List.foldlM_append, earlier]
    by_cases typed : event.type = type
    · obtain ⟨value, own⟩ := told event (by simp) typed
      have last := readAttribute_found own result
      refine ⟨value.or result, ?_, ?_⟩
      · simp only [List.filter_cons, typed, decide_true, if_true, List.filter_nil]
        show (readAttribute key _ result event.attributes >>= pure) = _
        rw [last]
        rfl
      · cases value with
        | some value => exact Or.inr ⟨event, by simp, typed, own⟩
        | none =>
          -- An event that tells nothing leaves what was found before it.
          rcases origin with ⟨rfl, unknown⟩ | ⟨other, member, kind, same⟩
          · refine Or.inl ⟨rfl, fun other member kind => ?_⟩
            rcases List.mem_append.mp member with before | here
            · exact unknown other before kind
            · rw [List.mem_singleton.mp here]
              exact own
          · exact Or.inr ⟨other, List.mem_append_left _ member, kind, same⟩
    · refine ⟨result, by simp [typed], ?_⟩
      rcases origin with ⟨rfl, unknown⟩ | ⟨other, member, kind, same⟩
      · refine Or.inl ⟨rfl, fun other member kind => ?_⟩
        rcases List.mem_append.mp member with before | here
        · exact unknown other before kind
        · exact absurd (List.mem_singleton.mp here ▸ kind) typed
      · exact Or.inr ⟨other, List.mem_append_left _ member, kind, same⟩

end

/-- A coin that an event tells is found in it, and its amount is a number. -/
theorem ownCoin_ok {key : String} {event : TxEvent} {figure : Int × String} :
    ownCoin key event = .ok figure ↔
      ∃ coin, ownValue key getDenomAndAmount event = .ok (some coin) ∧
        bigInt coin.amount = .ok figure.1 ∧ coin.denom = figure.2 := by
  constructor
  · intro told
    obtain ⟨found, own, told⟩ := exceptBind_ok told
    obtain ⟨coin, required, told⟩ := exceptBind_ok told
    obtain ⟨amount, number, same⟩ := exceptBind_ok told
    cases found with
    | none => cases required
    | some coin =>
      cases required
      cases same
      exact ⟨coin, own, number, rfl⟩
  · rintro ⟨coin, own, number, denom⟩
    unfold ownCoin
    rw [own]
    show (bigInt coin.amount >>= fun amount => pure (amount, coin.denom)) = _
    rw [number, denom]
    rfl

/-- The coin the events of one type leave is that of one of them. -/
theorem lastCoin_told {type : EventType} {key : String} {events : List TxEvent}
    (present : ∃ event ∈ events, event.type = type)
    (told : ∀ event ∈ events, event.type = type → ∃ figure, ownCoin key event = .ok figure) :
    ∃ coin amount, lastValue type key getDenomAndAmount events = .ok (some coin) ∧
      bigInt coin.amount = .ok amount ∧
      ∃ event ∈ events, event.type = type ∧ ownCoin key event = .ok (amount, coin.denom) := by
  have values : ∀ event ∈ events, event.type = type →
      ∃ coin, ownValue key getDenomAndAmount event = .ok (some coin) := by
    intro event member typed
    obtain ⟨figure, own⟩ := told event member typed
    obtain ⟨coin, found, -⟩ := ownCoin_ok.mp own
    exact ⟨coin, found⟩
  obtain ⟨result, last, origin⟩ := lastValue_told fun event member typed =>
    (values event member typed).imp' some fun coin found => found
  rcases origin with ⟨-, unknown⟩ | ⟨event, member, typed, own⟩
  · -- Some event is there, and it tells a coin.
    obtain ⟨event, member, typed⟩ := present
    obtain ⟨coin, found⟩ := values event member typed
    cases found.symm.trans (unknown event member typed)
  · obtain ⟨figure, tells⟩ := told event member typed
    obtain ⟨coin, found, number, denom⟩ := ownCoin_ok.mp tells
    cases own.symm.trans found
    exact ⟨coin, figure.1, last, number, event, member, typed, by rw [denom]; exact tells⟩

section

variable {claims : MorseClaims}

/-- The coin of the events of one kind of claim is that of one of the claims. -/
theorem lastCoin_of_claims {γ : Type} {type : EventType} {key : String} {tx : CosmosTransaction}
    {items : List γ} {eventOf : γ → TxEvent} {figureOf : γ → Int × String}
    (events : (tx.events.filter fun event => event.type = type).Perm (items.map eventOf))
    (tells : ∀ item, ownCoin key (eventOf item) = .ok (figureOf item)) (nonempty : items ≠ []) :
    ∃ item ∈ items, ∃ coin, lastValue type key getDenomAndAmount tx.events = .ok (some coin) ∧
      bigInt coin.amount = .ok (figureOf item).1 ∧ coin.denom = (figureOf item).2 := by
  have listed : ∀ event, (event ∈ tx.events ∧ event.type = type) ↔ event ∈ items.map eventOf := by
    intro event
    rw [← events.mem_iff, List.mem_filter, decide_eq_true_eq]
  have present : ∃ event ∈ tx.events, event.type = type := by
    obtain ⟨item, member⟩ := List.exists_mem_of_ne_nil _ nonempty
    exact ⟨eventOf item, (listed _).mpr (List.mem_map_of_mem member)⟩
  obtain ⟨coin, amount, last, number, event, member, typed, own⟩ := lastCoin_told present
    fun event member typed => by
      obtain ⟨item, -, rfl⟩ := List.mem_map.mp ((listed event).mp ⟨member, typed⟩)
      exact ⟨figureOf item, tells item⟩
  obtain ⟨item, inside, rfl⟩ := List.mem_map.mp ((listed event).mp ⟨member, typed⟩)
  have same : figureOf item = (amount, coin.denom) := Except.ok.inj ((tells item).symm.trans own)
  exact ⟨item, inside, coin, last, by rw [same]; exact number, by rw [same]⟩

/-- If all get the figure of one item, each gets its own just when all figures are the same. -/
theorem own_iff_alike {γ β : Type} {items : List γ} {origin : γ} (member : origin ∈ items)
    (figureOf : γ → β) : (∀ item ∈ items, figureOf origin = figureOf item) ↔
      ∀ item ∈ items, ∀ other ∈ items, figureOf item = figureOf other := by
  constructor
  · intro own item inside other also
    exact (own item inside).symm.trans (own other also)
  · intro alike item inside
    exact alike origin member item inside

/-- The record of a claimed account has the balance of some claim. -/
theorem account_record (externals : Externals) (nonempty : claims.accounts ≠ []) :
    ∃ origin ∈ claims.accounts, ∀ claim ∈ claims.accounts, ∃ record,
      _handleMsgClaimMorseAccount externals claim.msg = .ok record ∧
        (record.balanceAmount, record.balanceDenom) = origin.balance := by
  obtain ⟨origin, member, coin, last, number, denom⟩ := lastCoin_of_claims claims.accountEvents
    AccountClaim.tellsBalance nonempty
  refine ⟨origin, member, fun claim _ => ?_⟩
  have read : claimedBalance claim.msg.tx.events = .ok (some coin) := by
    rw [claim.ofTx]
    exact last
  unfold _handleMsgClaimMorseAccount
  rw [read]
  simp only [requireCoin, number, bind, Except.bind, pure, Except.pure]
  exact ⟨_, rfl, Prod.ext rfl denom⟩

/-- The record of a claimed application has the balance of some claim and the stake of some claim,
and that stake is added. -/
theorem application_record (nonempty : claims.applications ≠ []) :
    ∃ one ∈ claims.applications, ∃ other ∈ claims.applications,
      ∀ claim ∈ claims.applications, ∀ table, ∃ record application services,
        (_handleMsgClaimMorseApplication claim.msg claim.decoded).run table =
          .ok ((record, application, services), table) ∧
        (record.balanceAmount, record.balanceDenom) = one.balance ∧
        (record.stakeAmount, record.stakeDenom) = other.stake ∧
        application.stakeAmount = other.stake.1 +
          ((table.get claim.decoded.shannonDestAddress).map Application.stakeAmount).getD 0 ∧
        application.stakeDenom = other.stake.2 := by
  obtain ⟨one, first, balanceCoin, balance, balanceNumber, balanceDenom⟩ := lastCoin_of_claims
    claims.applicationEvents StakeClaim.tellsBalance nonempty
  obtain ⟨other, second, stakeCoin, stake, stakeNumber, stakeDenom⟩ := lastCoin_of_claims
    claims.applicationEvents StakeClaim.tellsStake nonempty
  refine ⟨one, first, other, second, fun claim member table => ?_⟩
  have readBalance : claimedCoin "claimed_balance" claim.msg.tx.events = .ok (some balanceCoin) := by
    rw [claim.ofTx]
    exact balance
  have readStake : claimedCoin "claimed_application_stake" claim.msg.tx.events =
      .ok (some stakeCoin) := by
    rw [claim.ofTx]
    exact stake
  obtain ⟨service, configured⟩ := claims.configured claim member
  simp only [_handleMsgClaimMorseApplication, readBalance, readStake, configured, Except.bind,
    requireCoin, balanceNumber, stakeNumber, _stakeApplication, Program.bind_eq, Program.lift_ok,
    Program.done_bind, Program.read_bind, Program.pure_eq, Program.bind, Program.run]
  exact ⟨_, _, _, rfl, Prod.ext rfl balanceDenom, Prod.ext rfl stakeDenom, rfl, stakeDenom⟩

/-- The record of a claimed supplier has the balance of some claim and the stake of some claim, and
that stake is added. -/
theorem supplier_record (externals : Externals) (nonempty : claims.suppliers ≠ []) :
    ∃ one ∈ claims.suppliers, ∃ other ∈ claims.suppliers,
      ∀ claim ∈ claims.suppliers, ∀ table, ∃ staking,
        (_handleClaimSupplier externals claim.msg claim.decoded).run table =
          .ok (staking, table) ∧
        (staking.msg.balanceAmount, staking.msg.balanceDenom) = one.balance ∧
        (staking.msg.stakeAmount, staking.msg.stakeDenom) = other.stake ∧
        staking.supplier.stakeAmount = other.stake.1 +
          ((knownSupplier (table.get claim.decoded.shannonOperatorAddress)).map
            Supplier.stakeAmount).getD 0 ∧
        staking.supplier.stakeDenom = other.stake.2 := by
  obtain ⟨one, first, balanceCoin, balance, balanceNumber, balanceDenom⟩ := lastCoin_of_claims
    claims.supplierEvents StakeClaim.tellsBalance nonempty
  obtain ⟨other, second, stakeCoin, stake, stakeNumber, stakeDenom⟩ := lastCoin_of_claims
    claims.supplierEvents StakeClaim.tellsStake nonempty
  -- The type of the signer is taken from some event, which names it well.
  obtain ⟨signer, type, readSigner, typed⟩ : ∃ signer type,
      claimedSupplierAttribute "claim_signer_type" (fun value => .ok (replaceQuotes value))
        claims.tx.events = .ok signer ∧ claimSignerTypeOf signer = .ok type := by
    have named : ∀ event ∈ claims.tx.events, event.type = .morseSupplierClaimed →
        ∃ signer, ownValue "claim_signer_type" (fun value => .ok (replaceQuotes value)) event =
          .ok signer ∧ ∃ type, claimSignerTypeOf signer = .ok type := by
      intro event member typed
      have listed := claims.supplierEvents.mem_iff.mp
        (List.mem_filter.mpr ⟨member, decide_eq_true typed⟩)
      obtain ⟨claim, inside, rfl⟩ := List.mem_map.mp listed
      exact claims.signers claim inside
    obtain ⟨signer, last, origin⟩ := lastValue_told fun event member typed =>
      (named event member typed).imp fun _ both => both.1
    refine ⟨signer, ?_⟩
    rcases origin with ⟨rfl, -⟩ | ⟨event, member, kind, own⟩
    · exact ⟨none, last, rfl⟩
    · obtain ⟨same, tells, type, typed⟩ := named event member kind
      cases own.symm.trans tells
      exact ⟨type, last, typed⟩
  refine ⟨one, first, other, second, fun claim member table => ?_⟩
  -- The handler reads the events of the whole transaction, not those of its message.
  have readBalance : claimedSupplierAttribute "claimed_balance" getDenomAndAmount
      claim.msg.tx.events = .ok (some balanceCoin) := by
    rw [claim.ofTx]
    exact balance
  have readStake : claimedSupplierAttribute "claimed_supplier_stake" getDenomAndAmount
      claim.msg.tx.events = .ok (some stakeCoin) := by
    rw [claim.ofTx]
    exact stake
  rw [← claim.ofTx] at readSigner
  simp only [_handleClaimSupplier, claimSupplierProps, readSigner, readBalance, readStake,
    requireCoin, balanceNumber, stakeNumber, typed, bind, Except.bind, pure, Except.pure,
    Program.lift_ok, Program.done_bind, Program.read_bind, Program.run]
  exact ⟨_, rfl, Prod.ext rfl balanceDenom, Prod.ext rfl stakeDenom, rfl, stakeDenom⟩

/-- The claimed accounts get the balances of their own events just when these are the same. -/
theorem accounts_iff (externals : Externals) :
    (∀ claim ∈ claims.accounts, claim.Attributed externals) ↔
      ∀ claim ∈ claims.accounts, ∀ other ∈ claims.accounts, claim.balance = other.balance := by
  by_cases empty : claims.accounts = []
  · simp [empty]
  obtain ⟨origin, member, records⟩ := account_record externals empty
  rw [← own_iff_alike member AccountClaim.balance]
  refine forall₂_congr fun claim inside => ?_
  obtain ⟨record, ran, balance⟩ := records claim inside
  constructor
  · rintro ⟨same, again, own⟩
    cases ran.symm.trans again
    exact balance.symm.trans own
  · intro own
    exact ⟨record, ran, balance.trans own⟩

/-- The claimed applications get the figures of their own events just when these are the same. -/
theorem applications_iff :
    (∀ claim ∈ claims.applications, ApplicationAttributed claim) ↔
      ∀ claim ∈ claims.applications, ∀ other ∈ claims.applications,
        claim.balance = other.balance ∧ claim.stake = other.stake := by
  by_cases empty : claims.applications = []
  · simp [empty]
  obtain ⟨one, first, other, second, records⟩ := application_record empty
  simp only [forall_and]
  rw [← own_iff_alike first StakeClaim.balance, ← own_iff_alike second StakeClaim.stake,
    ← forall₂_and]
  refine forall₂_congr fun claim inside => ?_
  constructor
  · intro attributed
    obtain ⟨record, application, services, ran, balance, stake, -, -⟩ :=
      records claim inside Dict.empty
    obtain ⟨same, _, _, again, ownBalance, ownStake, -, -⟩ := attributed Dict.empty
    cases ran.symm.trans again
    exact ⟨balance.symm.trans ownBalance, stake.symm.trans ownStake⟩
  · rintro ⟨ownBalance, ownStake⟩ table
    obtain ⟨record, application, services, ran, balance, stake, added, denom⟩ :=
      records claim inside table
    exact ⟨record, application, services, ran, balance.trans ownBalance, stake.trans ownStake,
      by rw [← ownStake]; exact added, by rw [← ownStake]; exact denom⟩

/-- The claimed suppliers get the figures of their own events just when these are the same. -/
theorem suppliers_iff (externals : Externals) :
    (∀ claim ∈ claims.suppliers, SupplierAttributed externals claim) ↔
      ∀ claim ∈ claims.suppliers, ∀ other ∈ claims.suppliers,
        claim.balance = other.balance ∧ claim.stake = other.stake := by
  by_cases empty : claims.suppliers = []
  · simp [empty]
  obtain ⟨one, first, other, second, records⟩ := supplier_record externals empty
  simp only [forall_and]
  rw [← own_iff_alike first StakeClaim.balance, ← own_iff_alike second StakeClaim.stake,
    ← forall₂_and]
  refine forall₂_congr fun claim inside => ?_
  constructor
  · intro attributed
    obtain ⟨staking, ran, balance, stake, -, -⟩ := records claim inside Dict.empty
    obtain ⟨same, again, ownBalance, ownStake, -, -⟩ := attributed Dict.empty
    cases ran.symm.trans again
    exact ⟨balance.symm.trans ownBalance, stake.symm.trans ownStake⟩
  · rintro ⟨ownBalance, ownStake⟩ table
    obtain ⟨staking, ran, balance, stake, added, denom⟩ := records claim inside table
    exact ⟨staking, ran, balance.trans ownBalance, stake.trans ownStake,
      by rw [← ownStake]; exact added, by rw [← ownStake]; exact denom⟩

end

/-- Every claim of a transaction gets the figures of its own event just when, for each kind of claim,
the events all tell the same figures. -/
theorem morseClaims_iff (externals : Externals) (claims : MorseClaims) :
    claims.Attributed externals ↔ claims.Alike := by
  constructor
  · rintro ⟨accounts, applications, suppliers⟩
    exact ⟨(accounts_iff externals).mp accounts, applications_iff.mp applications,
      (suppliers_iff externals).mp suppliers⟩
  · rintro ⟨accounts, applications, suppliers⟩
    exact ⟨(accounts_iff externals).mpr accounts, applications_iff.mpr applications,
      (suppliers_iff externals).mpr suppliers⟩

/-- An event of a claimed account with its balance. -/
def accountClaimedEvent (balance : String) : TxEvent where
  type := .morseAccountClaimed
  attributes := [⟨"session_end_height", "\"100\""⟩, ⟨"claimed_balance", balance⟩]

/-- A transaction that claims two accounts with different balances. -/
def twoAccountsTx : CosmosTransaction where
  idx := 0
  hash := "A1"
  code := 0
  events := [accountClaimedEvent "100upokt", accountClaimedEvent "200upokt"]

/-- A claim of an account in that transaction. -/
def twoAccountsMessage (idx : ℕ) (publicKey : UInt8) : ClaimMorseAccountMessage where
  idx := idx
  height := 7
  tx := twoAccountsTx
  decodedMsg := ⟨"pokt1dest", "pokt1signer", [publicKey], [0]⟩

/-- Both claims of that transaction, with their own events. -/
def twoAccounts : MorseClaims where
  tx := twoAccountsTx
  accounts := [
    { msg := twoAccountsMessage 0 1, ofTx := rfl, event := accountClaimedEvent "100upokt"
      balance := (100, "upokt"), tellsBalance := ok_of_toOption (by decide +kernel) },
    { msg := twoAccountsMessage 1 2, ofTx := rfl, event := accountClaimedEvent "200upokt"
      balance := (200, "upokt"), tellsBalance := ok_of_toOption (by decide +kernel) }]
  applications := []
  suppliers := []
  accountEvents := by decide
  applicationEvents := by decide
  supplierEvents := by decide
  configured := fun _ member => absurd member List.not_mem_nil
  signers := fun _ member => absurd member List.not_mem_nil

/-- The first of two claimed accounts is stored with the balance of the second. -/
theorem morseClaims_second_balance :
    (twoAccounts.tx.events.map fun event => (ownCoin "claimed_balance" event).toOption) =
      [some (100, "upokt"), some (200, "upokt")] ∧
    (_handleMsgClaimMorseAccount plainExternals (twoAccountsMessage 0 1)).toOption.map
      MsgClaimMorseAccountProps.balanceAmount = some 200 ∧
    ¬twoAccounts.Attributed plainExternals := by
  refine ⟨by decide +kernel, by decide +kernel, fun attributed => ?_⟩
  obtain ⟨record, ran, balance⟩ := attributed.accounts _ List.mem_cons_self
  have amount : (_handleMsgClaimMorseAccount plainExternals (twoAccountsMessage 0 1)).toOption.map
      MsgClaimMorseAccountProps.balanceAmount = some 200 := by decide +kernel
  have same : _handleMsgClaimMorseAccount plainExternals (twoAccountsMessage 0 1) = .ok record := ran
  rw [same] at amount
  have other : record.balanceAmount = 100 := congrArg Prod.fst balance
  simp [Except.toOption, other] at amount

end Pocketdex
