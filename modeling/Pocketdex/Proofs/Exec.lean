import Mathlib.Data.List.Nodup
import Pocketdex.Authz.Exec
import Pocketdex.Base.Except
import Pocketdex.Utils.Ids

/-! What the rows of executed messages tell of the messages inside them. -/

namespace Pocketdex.Authz

/-- The messages of a block that execute others. They are told apart by transaction and index, and
hashes are free of dashes. -/
structure ExecBlock where
  messages : List ExecMessage
  distinct : (messages.map fun msg => (msg.tx.hash, msg.idx)).Nodup
  hashes : ∀ msg ∈ messages, '-' ∉ msg.tx.hash.toList

/-- A type of inner messages that is decoded. -/
def Supported (typeUrl : String) : Prop :=
  typeUrl = "/pocket.migration.MsgImportMorseClaimableAccounts" ∨
    typeUrl = "/pocket.migration.MsgRecoverMorseAccount" ∨
    typeUrl = "/pocket.migration.MsgAdminRecoverMorseAccount" ∨
    typeUrl ∈ msgUpdateParamsMap ∨ typeUrl ∈ allModuleTypes

instance (typeUrl : String) : Decidable (Supported typeUrl) :=
  inferInstanceAs (Decidable (_ ∨ _))

/-- The text of what bytes hold. -/
def Codec.read {α : Type} (codec : Codec α) (value : List UInt8) : Except String String :=
  (codec.decode value).map codec.stringify

/-- The content of an inner message, as the codec of its type reads it. -/
def Codecs.content (codecs : Codecs) (encodedMsg : EncodedMsg) : Except String String :=
  if encodedMsg.typeUrl = "/pocket.migration.MsgImportMorseClaimableAccounts" then
    codecs.importAccounts.read encodedMsg.value
  else if encodedMsg.typeUrl = "/pocket.migration.MsgRecoverMorseAccount" then
    codecs.recoverAccount.read encodedMsg.value
  else if encodedMsg.typeUrl = "/pocket.migration.MsgAdminRecoverMorseAccount" then
    codecs.adminRecoverAccount.read encodedMsg.value
  else if encodedMsg.typeUrl ∈ msgUpdateParamsMap then
    (codecs.updateParams encodedMsg.typeUrl).read encodedMsg.value
  else (codecs.moduleType encodedMsg.typeUrl).read encodedMsg.value

/-- Each supported inner message has one row with its type and content and is joined to the outer
message by one row, and no two rows of messages, imports or recoveries have the same id. -/
structure Expanded (codecs : Codecs) (messages : List ExecMessage)
    (rows : HandleAuthzExecResult) : Prop where
  message : ∀ msg ∈ messages, ∀ encodedMsg i, (encodedMsg, i) ∈ msg.decodedMsg.msgs.zipIdx →
    Supported encodedMsg.typeUrl → ∃ row,
      rows.messages.filter (fun row => row.id = subMsgId msg i) = [row] ∧
        row.typeUrl = encodedMsg.typeUrl ∧ codecs.content encodedMsg = .ok row.json
  joined : ∀ msg ∈ messages, ∀ encodedMsg i, (encodedMsg, i) ∈ msg.decodedMsg.msgs.zipIdx →
    Supported encodedMsg.typeUrl →
      rows.authzExecMsgs.filter (fun row => row.messageId = subMsgId msg i) =
        [{ id := subMsgId msg i, authzExecId := msg.id, messageId := subMsgId msg i }]
  messageIds : (rows.messages.map MessageProps.id).Nodup
  importIds : (rows.msgImportMorseClaimableAccounts.map
    MsgImportMorseClaimableAccountsProps.id).Nodup
  recoverIds : (rows.msgRecoverMorseAccount.map MsgRecoverMorseAccountProps.id).Nodup

/-- The messages of a block are expanded without loss. -/
def ExpandedBlock (codecs : Codecs) (block : ExecBlock) : Prop :=
  ∃ rows, allResults codecs block.messages = .ok rows ∧ Expanded codecs block.messages rows

/-- No message of a block executes one of a supported type. -/
def NothingSupported (block : ExecBlock) : Prop :=
  ∀ msg ∈ block.messages, ∀ encodedMsg ∈ msg.decodedMsg.msgs, ¬Supported encodedMsg.typeUrl

/-- Of rows with different ids one has each id. -/
theorem filter_id_eq {ρ κ : Type} [DecidableEq κ] {id : ρ → κ} {rows : List ρ}
    (distinct : (rows.map id).Nodup) {row : ρ} (member : row ∈ rows) :
    rows.filter (fun other => id other = id row) = [row] := by
  induction rows with
  | nil => cases member
  | cons first rest ih =>
    rw [List.map_cons, List.nodup_cons] at distinct
    rcases List.mem_cons.mp member with rfl | inside
    · -- The others have other ids.
      have others : rest.filter (fun other => id other = id row) = [] :=
        List.filter_eq_nil_iff.mpr fun other later same =>
          distinct.1 (List.mem_map.mpr ⟨other, later, of_decide_eq_true same⟩)
      rw [List.filter_cons_of_pos (by simp), others]
    · have different : id first ≠ id row := fun same =>
        distinct.1 (List.mem_map.mpr ⟨row, inside, same.symm⟩)
      rw [List.filter_cons_of_neg (by simpa using different), ih distinct.2 inside]

/-- Ids given to several rows of each item are different just when each item has one at most. -/
theorem nodup_flatMap_replicate {ρ κ : Type} {id : ρ → κ} {count : ρ → ℕ} {items : List ρ}
    (distinct : (items.map id).Nodup) :
    (items.flatMap fun item => List.replicate (count item) (id item)).Nodup ↔
      ∀ item ∈ items, count item ≤ 1 := by
  rw [List.nodup_flatMap]
  constructor
  · intro different item member
    exact List.nodup_replicate.mp (different.1 item member)
  · intro bounded
    refine ⟨fun item member => List.nodup_replicate.mpr (bounded item member), ?_⟩
    refine (List.pairwise_map.mp distinct).imp fun {first second} different => ?_
    intro key inFirst inSecond
    exact different ((List.eq_of_mem_replicate inFirst).symm.trans
      (List.eq_of_mem_replicate inSecond))

/-- A message of an executing type is none that is supported inside of one. -/
theorem not_supported_exec (msg : ExecMessage) : ¬Supported msg.typeUrl := by
  show ¬Supported "/cosmos.authz.v1beta1.MsgExec"
  decide +kernel

section

variable {codecs : Codecs} {msg : ExecMessage} {encodedMsg : EncodedMsg} {i : ℕ}
  {rows : HandleAuthzExecResult}

/-- An inner message of another type leaves no rows. -/
theorem handleSubMsg_unsupported (unsupported : ¬Supported encodedMsg.typeUrl) :
    handleSubMsg codecs msg encodedMsg i = .ok {} := by
  simp only [Supported, not_or] at unsupported
  obtain ⟨imports, recovers, admin, update, known⟩ := unsupported
  rw [handleSubMsg, if_neg imports, if_neg recovers, if_neg admin, if_neg update, if_neg known]

/-- The record of an import has the id it is given. -/
theorem import_ok {decode : List UInt8 → Except String MsgImportMorseClaimableAccounts}
    {value : List UInt8} {hash id : String} {blockId : ℕ}
    {decodedMsg : MsgImportMorseClaimableAccounts} {record : MsgImportMorseClaimableAccountsProps}
    {accounts : List MorseClaimableAccountProps}
    (ran : handleMsgImportMorseClaimableAccounts decode value hash blockId id =
      .ok (decodedMsg, record, accounts)) :
    decode value = .ok decodedMsg ∧ record.id = id := by
  unfold handleMsgImportMorseClaimableAccounts at ran
  obtain ⟨message, decoded, ran⟩ := exceptBind_ok ran
  cases state : message.morseAccountState with
  | none => rw [state] at ran; cases ran
  | some listed =>
    rw [state] at ran
    obtain ⟨stored, -, ran⟩ := exceptBind_ok ran
    cases ran
    exact ⟨decoded, rfl⟩

/-- The record of a recovery has the id it is given. -/
theorem recover_ok {decode : List UInt8 → Except String MsgRecoverMorseAccount}
    {value : List UInt8} {tx : CosmosTransaction} {id : String} {blockId : ℕ} {isAdmin : Bool}
    {decodedMsg : MsgRecoverMorseAccount} {record : MsgRecoverMorseAccountProps}
    (ran : handleMsgRecoverMorseAccount decode value tx blockId id isAdmin =
      .ok (decodedMsg, record)) :
    decode value = .ok decodedMsg ∧ record.id = id := by
  unfold handleMsgRecoverMorseAccount at ran
  obtain ⟨message, decoded, ran⟩ := exceptBind_ok ran
  obtain ⟨coin, -, ran⟩ := exceptBind_ok ran
  obtain ⟨found, -, ran⟩ := exceptBind_ok ran
  obtain ⟨amount, -, ran⟩ := exceptBind_ok ran
  cases ran
  exact ⟨decoded, rfl⟩

/-- Whether an inner message imports accounts. -/
def EncodedMsg.imports (encodedMsg : EncodedMsg) : Bool :=
  encodedMsg.typeUrl = "/pocket.migration.MsgImportMorseClaimableAccounts"

/-- Whether an inner message recovers an account. -/
def EncodedMsg.recovers (encodedMsg : EncodedMsg) : Bool :=
  encodedMsg.typeUrl = "/pocket.migration.MsgRecoverMorseAccount" ∨
    encodedMsg.typeUrl = "/pocket.migration.MsgAdminRecoverMorseAccount"

/-- What handling an inner message leaves: rows with its content if its type is supported, and the
outer message's id for each import and recovery. -/
structure SubMsgHandled (codecs : Codecs) (msg : ExecMessage) (encodedMsg : EncodedMsg) (i : ℕ)
    (rows : HandleAuthzExecResult) : Prop where
  supported : Supported encodedMsg.typeUrl → ∃ json, codecs.content encodedMsg = .ok json ∧
    rows.messages = (subMsgRows msg i json).messages ∧
    rows.authzExecMsgs = (subMsgRows msg i json).authzExecMsgs
  unsupported : ¬Supported encodedMsg.typeUrl → rows = {}
  importIds : rows.msgImportMorseClaimableAccounts.map MsgImportMorseClaimableAccountsProps.id =
    if encodedMsg.imports then [msg.id] else []
  recoverIds : rows.msgRecoverMorseAccount.map MsgRecoverMorseAccountProps.id =
    if encodedMsg.recovers then [msg.id] else []

/-- Handling an inner message. -/
theorem handleSubMsg_handled (ran : handleSubMsg codecs msg encodedMsg i = .ok rows) :
    SubMsgHandled codecs msg encodedMsg i rows := by
  -- An import leaves its record and the accounts, and no recovery.
  by_cases imports : encodedMsg.typeUrl = "/pocket.migration.MsgImportMorseClaimableAccounts"
  · rw [handleSubMsg, if_pos imports] at ran
    obtain ⟨⟨decodedMsg, record, accounts⟩, handled, ran⟩ := exceptBind_ok ran
    obtain ⟨decoded, id⟩ := import_ok handled
    cases ran
    refine ⟨fun _ => ⟨_, ?_, rfl, rfl⟩,
      fun unsupported => absurd (Or.inl imports) unsupported, ?_, ?_⟩
    · simp [Codecs.content, imports, Codec.read, decoded, Except.map]
    · simp [EncodedMsg.imports, imports, id]
    · simp [EncodedMsg.recovers, imports, subMsgRows]
  by_cases recovers : encodedMsg.typeUrl = "/pocket.migration.MsgRecoverMorseAccount"
  · rw [handleSubMsg, if_neg imports, if_pos recovers] at ran
    obtain ⟨⟨decodedMsg, record⟩, handled, ran⟩ := exceptBind_ok ran
    obtain ⟨decoded, id⟩ := recover_ok handled
    cases ran
    refine ⟨fun _ => ⟨_, ?_, rfl, rfl⟩,
      fun unsupported => absurd (Or.inr (Or.inl recovers)) unsupported, ?_, ?_⟩
    · simp [Codecs.content, recovers, Codec.read, decoded, Except.map]
    · simp [EncodedMsg.imports, recovers, subMsgRows]
    · simp [EncodedMsg.recovers, recovers, id]
  -- The recovery of an admin is stored with the others.
  by_cases admin : encodedMsg.typeUrl = "/pocket.migration.MsgAdminRecoverMorseAccount"
  · rw [handleSubMsg, if_neg imports, if_neg recovers, if_pos admin] at ran
    obtain ⟨⟨decodedMsg, record⟩, handled, ran⟩ := exceptBind_ok ran
    obtain ⟨decoded, id⟩ := recover_ok handled
    cases ran
    refine ⟨fun _ => ⟨_, ?_, rfl, rfl⟩,
      fun unsupported => absurd (Or.inr (Or.inr (Or.inl admin))) unsupported, ?_, ?_⟩
    · simp [Codecs.content, admin, Codec.read, decoded, Except.map]
    · simp [EncodedMsg.imports, admin, subMsgRows]
    · simp [EncodedMsg.recovers, admin, id]
  -- The other types leave neither imports nor recoveries.
  have noImport : encodedMsg.imports = false := decide_eq_false imports
  have noRecovery : encodedMsg.recovers = false :=
    decide_eq_false (not_or.mpr ⟨recovers, admin⟩)
  rw [handleSubMsg, if_neg imports, if_neg recovers, if_neg admin] at ran
  by_cases update : encodedMsg.typeUrl ∈ msgUpdateParamsMap
  · rw [if_pos update] at ran
    obtain ⟨decodedMsg, decoded, ran⟩ := exceptBind_ok ran
    obtain ⟨params, -, ran⟩ := exceptBind_ok ran
    cases ran
    refine ⟨fun _ => ⟨_, ?_, rfl, rfl⟩,
      fun unsupported => absurd (Or.inr (Or.inr (Or.inr (Or.inl update)))) unsupported, ?_, ?_⟩
    · simp [Codecs.content, imports, recovers, admin, update, Codec.read, decoded, Except.map]
    · simp [noImport, subMsgRows]
    · simp [noRecovery, subMsgRows]
  by_cases known : encodedMsg.typeUrl ∈ allModuleTypes
  · rw [if_neg update, if_pos known] at ran
    obtain ⟨decodedMsg, decoded, ran⟩ := exceptBind_ok ran
    cases ran
    refine ⟨fun _ => ⟨_, ?_, rfl, rfl⟩,
      fun unsupported => absurd (Or.inr (Or.inr (Or.inr (Or.inr known)))) unsupported, ?_, ?_⟩
    · simp [Codecs.content, imports, recovers, admin, update, Codec.read, decoded, Except.map]
    · simp [noImport, subMsgRows]
    · simp [noRecovery, subMsgRows]
  · rw [if_neg update, if_neg known] at ran
    cases ran
    refine ⟨fun supported => ?_, fun _ => rfl, by simp [noImport], by simp [noRecovery]⟩
    simp [Supported, imports, recovers, admin, update, known] at supported

/-- The inner messages of a supported type, with their places. -/
def ExecMessage.supported (msg : ExecMessage) : List (EncodedMsg × ℕ) :=
  msg.decodedMsg.msgs.zipIdx.filter fun inner => Supported inner.1.typeUrl

/-- The ids of an outer message and its supported inner ones. -/
def ExecMessage.rowIds (msg : ExecMessage) : List String :=
  msg.id :: msg.supported.map fun inner => subMsgId msg inner.2

/-- A list built for each inner message, where unsupported ones leave nothing. -/
theorem flatMap_supported {α : Type} (build : EncodedMsg × ℕ → α)
    (inner : List (EncodedMsg × ℕ)) :
    (inner.flatMap fun item => if Supported item.1.typeUrl then [build item] else []) =
      (inner.filter fun item => Supported item.1.typeUrl).map build := by
  induction inner with
  | nil => rfl
  | cons item rest ih =>
    rw [List.flatMap_cons, ih]
    by_cases supported : Supported item.1.typeUrl
    · rw [if_pos supported, List.filter_cons_of_pos (by simpa using supported)]
      rfl
    · rw [if_neg supported, List.filter_cons_of_neg (by simpa using supported)]
      rfl

/-- A column of a message's rows: its own values, and those that each inner message leaves. -/
theorem column_of_exec {α : Type} {column : HandleAuthzExecResult → List α}
    (merged : ∀ results, column (merge results) = results.flatMap column)
    (expected : EncodedMsg × ℕ → List α)
    (each : ∀ item result, handleSubMsg codecs msg item.1 item.2 = .ok result →
      column result = expected item)
    (ran : _handleAuthzExec codecs msg = .ok rows) :
    column rows = column (execRows codecs msg) ++ msg.decodedMsg.msgs.zipIdx.flatMap expected := by
  obtain ⟨inner, handled, ran⟩ := exceptBind_ok ran
  cases ran
  rw [merged, List.flatMap_cons, flatMap_of_mapM_ok column expected handled each]

/-- The message rows of a run are those of the outer messages and of the supported inner ones. -/
theorem messageIds_of_exec (ran : _handleAuthzExec codecs msg = .ok rows) :
    rows.messages.map MessageProps.id = msg.rowIds := by
  have each : ∀ (item : EncodedMsg × ℕ) result,
      handleSubMsg codecs msg item.1 item.2 = .ok result →
      result.messages.map MessageProps.id =
        if Supported item.1.typeUrl then [subMsgId msg item.2] else [] := by
    intro item result one
    have left := handleSubMsg_handled one
    by_cases supported : Supported item.1.typeUrl
    · obtain ⟨json, -, messages, -⟩ := left.supported supported
      rw [messages, if_pos supported]
      rfl
    · rw [left.unsupported supported, if_neg supported]
      rfl
  exact (column_of_exec (fun _ => List.map_flatMap) _ each ran).trans
    (congrArg (List.cons msg.id) (flatMap_supported _ _))

/-- So are the rows that join inner messages to outer ones. -/
theorem joinedIds_of_exec (ran : _handleAuthzExec codecs msg = .ok rows) :
    rows.authzExecMsgs.map AuthzMsgExecProps.messageId =
      msg.supported.map fun inner => subMsgId msg inner.2 := by
  have each : ∀ (item : EncodedMsg × ℕ) result,
      handleSubMsg codecs msg item.1 item.2 = .ok result →
      result.authzExecMsgs.map AuthzMsgExecProps.messageId =
        if Supported item.1.typeUrl then [subMsgId msg item.2] else [] := by
    intro item result one
    have left := handleSubMsg_handled one
    by_cases supported : Supported item.1.typeUrl
    · obtain ⟨json, -, -, joined⟩ := left.supported supported
      rw [joined, if_pos supported]
      rfl
    · rw [left.unsupported supported, if_neg supported]
      rfl
  exact (column_of_exec (fun _ => List.map_flatMap) _ each ran).trans (flatMap_supported _ _)

/-- One id for each inner message of a kind. -/
theorem flatMap_kind (kind : EncodedMsg → Bool) (id : String) (msgs : List EncodedMsg) :
    (msgs.zipIdx.flatMap fun item => if kind item.1 then [id] else []) =
      List.replicate (msgs.countP kind) id := by
  -- The places play no part.
  have unplaced : (msgs.zipIdx.flatMap fun item => if kind item.1 then [id] else []) =
      (msgs.zipIdx.map Prod.fst).flatMap fun item => if kind item then [id] else [] := by
    rw [List.flatMap_map]
  rw [unplaced, List.zipIdx_map_fst]
  clear unplaced
  induction msgs with
  | nil => rfl
  | cons item rest ih =>
    rw [List.flatMap_cons, ih]
    by_cases same : kind item = true
    · rw [if_pos same, List.countP_cons_of_pos same, List.replicate_succ]
      rfl
    · rw [if_neg same, List.countP_cons_of_neg same]
      rfl

/-- Every import a message executes is recorded under the id of that message. -/
theorem importIds_of_exec (ran : _handleAuthzExec codecs msg = .ok rows) :
    rows.msgImportMorseClaimableAccounts.map MsgImportMorseClaimableAccountsProps.id =
      List.replicate (msg.decodedMsg.msgs.countP EncodedMsg.imports) msg.id :=
  (column_of_exec (fun _ => List.map_flatMap)
    (fun item => if item.1.imports then [msg.id] else [])
    (fun _ _ one => (handleSubMsg_handled one).importIds) ran).trans (flatMap_kind _ _ _)

/-- Every recovery a message executes is recorded under the id of that message. -/
theorem recoverIds_of_exec (ran : _handleAuthzExec codecs msg = .ok rows) :
    rows.msgRecoverMorseAccount.map MsgRecoverMorseAccountProps.id =
      List.replicate (msg.decodedMsg.msgs.countP EncodedMsg.recovers) msg.id :=
  (column_of_exec (fun _ => List.map_flatMap)
    (fun item => if item.1.recovers then [msg.id] else [])
    (fun _ _ one => (handleSubMsg_handled one).recoverIds) ran).trans (flatMap_kind _ _ _)

/-- A supported inner message leaves a row with its content, under the type of the outer one. -/
theorem rows_of_exec (ran : _handleAuthzExec codecs msg = .ok rows)
    (placed : (encodedMsg, i) ∈ msg.decodedMsg.msgs.zipIdx)
    (supported : Supported encodedMsg.typeUrl) : ∃ json, codecs.content encodedMsg = .ok json ∧
      { id := subMsgId msg i, idx := msg.idx, typeUrl := msg.typeUrl, json := json,
        transactionId := msg.tx.hash, blockId := msg.height : MessageProps } ∈ rows.messages ∧
      { id := subMsgId msg i, authzExecId := msg.id, messageId := subMsgId msg i
        : AuthzMsgExecProps } ∈ rows.authzExecMsgs := by
  obtain ⟨inner, handled, ran⟩ := exceptBind_ok ran
  cases ran
  obtain ⟨result, member, one⟩ := exists_of_mapM_ok handled placed
  obtain ⟨json, content, messages, joined⟩ := (handleSubMsg_handled one).supported supported
  refine ⟨json, content, ?_, ?_⟩
  · refine List.mem_flatMap.mpr ⟨result, List.mem_cons_of_mem _ member, ?_⟩
    rw [messages]
    exact List.mem_singleton_self _
  · refine List.mem_flatMap.mpr ⟨result, List.mem_cons_of_mem _ member, ?_⟩
    rw [joined]
    exact List.mem_singleton_self _

end

/-- Ids of inner messages tell the outer one and the place in it. -/
theorem subMsgId_inj {first second : ExecMessage} {one two : ℕ}
    (same : subMsgId first one = subMsgId second two) : first.id = second.id ∧ one = two :=
  numbered_inj same

/-- An outer message has no id of an inner one. -/
theorem id_ne_subMsgId {first second : ExecMessage} (dashless : '-' ∉ first.tx.hash.toList)
    (i : ℕ) : first.id ≠ subMsgId second i := by
  intro same
  -- The hash of the one would be the id of the other, which has a dash.
  obtain ⟨hash, -⟩ := numbered_inj same
  refine dashless ?_
  rw [hash]
  simp [ExecMessage.id, toString]

section

variable {codecs : Codecs} {block : ExecBlock} {rows : HandleAuthzExecResult}

/-- Outer messages have different ids. -/
theorem ExecBlock.ids_nodup (block : ExecBlock) : (block.messages.map ExecMessage.id).Nodup := by
  refine List.pairwise_map.mpr ((List.pairwise_map.mp block.distinct).imp ?_)
  intro first second different same
  obtain ⟨hash, idx⟩ := numbered_inj same
  exact different (Prod.ext hash idx)

/-- The supported messages inside of one have different ids. -/
theorem ExecMessage.subMsgIds_nodup (msg : ExecMessage) :
    (msg.supported.map fun inner => subMsgId msg inner.2).Nodup := by
  have places : (msg.decodedMsg.msgs.zipIdx.map Prod.snd).Nodup := by
    rw [List.zipIdx_map_snd]
    exact List.nodup_range'
  refine List.pairwise_map.mpr (((List.pairwise_map.mp places).filter _).imp ?_)
  intro first second different same
  exact different (subMsgId_inj same).2

/-- Messages with different ids have no id of a row in common. -/
theorem ExecMessage.rowIds_disjoint {first second : ExecMessage}
    (dashless : '-' ∉ first.tx.hash.toList) (alsoDashless : '-' ∉ second.tx.hash.toList)
    (different : first.id ≠ second.id) : List.Disjoint first.rowIds second.rowIds := by
  intro id inFirst inSecond
  rcases List.mem_cons.mp inFirst with rfl | inFirst
  · rcases List.mem_cons.mp inSecond with same | inSecond
    · exact different same
    · obtain ⟨inner, -, same⟩ := List.mem_map.mp inSecond
      exact id_ne_subMsgId dashless inner.2 same.symm
  · obtain ⟨inner, -, rfl⟩ := List.mem_map.mp inFirst
    rcases List.mem_cons.mp inSecond with same | inSecond
    · exact id_ne_subMsgId alsoDashless inner.2 same.symm
    · obtain ⟨other, -, same⟩ := List.mem_map.mp inSecond
      exact different (subMsgId_inj same).1.symm

/-- A column of a block's rows is that of its messages, one after the other. -/
theorem column_of_block {α : Type} {column : HandleAuthzExecResult → List α}
    (merged : ∀ results, column (merge results) = results.flatMap column)
    (expected : ExecMessage → List α)
    (each : ∀ msg result, _handleAuthzExec codecs msg = .ok result → column result = expected msg)
    (ran : allResults codecs block.messages = .ok rows) :
    column rows = block.messages.flatMap expected := by
  obtain ⟨results, handled, ran⟩ := exceptBind_ok ran
  cases ran
  rw [merged, flatMap_of_mapM_ok column expected handled each]

/-- All message rows of a block have different ids. -/
theorem messageIds_nodup (ran : allResults codecs block.messages = .ok rows) :
    (rows.messages.map MessageProps.id).Nodup := by
  have ids : rows.messages.map MessageProps.id = block.messages.flatMap ExecMessage.rowIds :=
    column_of_block (fun _ => List.map_flatMap) _ (fun _ _ => messageIds_of_exec) ran
  rw [ids, List.nodup_flatMap]
  refine ⟨fun msg member => List.nodup_cons.mpr ⟨?_, msg.subMsgIds_nodup⟩, ?_⟩
  · intro inside
    obtain ⟨inner, -, same⟩ := List.mem_map.mp inside
    exact id_ne_subMsgId (block.hashes msg member) inner.2 same.symm
  · refine (List.pairwise_map.mp block.ids_nodup).imp_of_mem fun one other different => ?_
    exact ExecMessage.rowIds_disjoint (block.hashes _ one) (block.hashes _ other) different

/-- All rows that join inner messages to outer ones join different ones. -/
theorem joinedIds_nodup (ran : allResults codecs block.messages = .ok rows) :
    (rows.authzExecMsgs.map AuthzMsgExecProps.messageId).Nodup := by
  have ids : rows.authzExecMsgs.map AuthzMsgExecProps.messageId = block.messages.flatMap
      fun msg => msg.supported.map fun inner => subMsgId msg inner.2 :=
    column_of_block (fun _ => List.map_flatMap) _ (fun _ _ => joinedIds_of_exec) ran
  rw [ids, List.nodup_flatMap]
  refine ⟨fun msg member => msg.subMsgIds_nodup, ?_⟩
  refine (List.pairwise_map.mp block.ids_nodup).imp_of_mem
    fun {first second} one other different => ?_
  intro id inFirst inSecond
  exact ExecMessage.rowIds_disjoint (block.hashes first one) (block.hashes second other) different
    (List.mem_cons_of_mem _ inFirst) (List.mem_cons_of_mem _ inSecond)

/-- In every run a supported inner message has one row with its content, under the type of the
outer message, and one that joins it to that. -/
theorem rows_of_block (ran : allResults codecs block.messages = .ok rows) {msg : ExecMessage}
    (member : msg ∈ block.messages) {encodedMsg : EncodedMsg} {i : ℕ}
    (placed : (encodedMsg, i) ∈ msg.decodedMsg.msgs.zipIdx)
    (supported : Supported encodedMsg.typeUrl) : ∃ row,
      rows.messages.filter (fun row => row.id = subMsgId msg i) = [row] ∧
      row.typeUrl = msg.typeUrl ∧ codecs.content encodedMsg = .ok row.json ∧
      rows.authzExecMsgs.filter (fun row => row.messageId = subMsgId msg i) =
        [{ id := subMsgId msg i, authzExecId := msg.id, messageId := subMsgId msg i }] := by
  have messages := messageIds_nodup ran
  have joined := joinedIds_nodup ran
  obtain ⟨results, handled, ran⟩ := exceptBind_ok ran
  cases ran
  obtain ⟨result, inside, one⟩ := exists_of_mapM_ok handled member
  obtain ⟨json, content, row, join⟩ := rows_of_exec one placed supported
  have listed := filter_id_eq messages (List.mem_flatMap.mpr ⟨result, inside, row⟩)
  have alsoListed := filter_id_eq joined (List.mem_flatMap.mpr ⟨result, inside, join⟩)
  exact ⟨_, listed, rfl, content, alsoListed⟩

/-- Imports are recorded under different ids just when each message executes one at most. -/
theorem importIds_nodup_iff (ran : allResults codecs block.messages = .ok rows) :
    (rows.msgImportMorseClaimableAccounts.map MsgImportMorseClaimableAccountsProps.id).Nodup ↔
      ∀ msg ∈ block.messages, msg.decodedMsg.msgs.countP EncodedMsg.imports ≤ 1 := by
  have ids : rows.msgImportMorseClaimableAccounts.map MsgImportMorseClaimableAccountsProps.id =
      block.messages.flatMap fun msg =>
        List.replicate (msg.decodedMsg.msgs.countP EncodedMsg.imports) msg.id :=
    column_of_block (fun _ => List.map_flatMap) _ (fun _ _ => importIds_of_exec) ran
  rw [ids, nodup_flatMap_replicate block.ids_nodup]

/-- Recoveries are recorded under different ids just when each message executes one at most. -/
theorem recoverIds_nodup_iff (ran : allResults codecs block.messages = .ok rows) :
    (rows.msgRecoverMorseAccount.map MsgRecoverMorseAccountProps.id).Nodup ↔
      ∀ msg ∈ block.messages, msg.decodedMsg.msgs.countP EncodedMsg.recovers ≤ 1 := by
  have ids : rows.msgRecoverMorseAccount.map MsgRecoverMorseAccountProps.id =
      block.messages.flatMap fun msg =>
        List.replicate (msg.decodedMsg.msgs.countP EncodedMsg.recovers) msg.id :=
    column_of_block (fun _ => List.map_flatMap) _ (fun _ _ => recoverIds_of_exec) ran
  rw [ids, nodup_flatMap_replicate block.ids_nodup]

/-- Rows with different ids are stored each under its own. -/
theorem handleAuthzExec_keeps {externals : Externals} {blockHeight : ℕ} {tables after : Tables}
    {accounts marked : List (Row MorseClaimableAccountProps)}
    (stored : handleAuthzExec codecs externals blockHeight block.messages tables accounts =
      .ok (after, marked))
    (ran : allResults codecs block.messages = .ok rows)
    (expanded : Expanded codecs block.messages rows) :
    (∀ row ∈ rows.messages, after.messages.get row.id = some row) ∧
      (∀ row ∈ rows.msgImportMorseClaimableAccounts,
        after.msgImportMorseClaimableAccounts.get row.id = some row) ∧
      ∀ row ∈ rows.msgRecoverMorseAccount, after.msgRecoverMorseAccount.get row.id = some row := by
  obtain ⟨result, same, stored⟩ := exceptBind_ok stored
  cases ran.symm.trans same
  obtain ⟨updated, -, stored⟩ := exceptBind_ok stored
  cases stored
  exact ⟨fun row member => Store.get_bulkCreate_self expanded.messageIds member _,
    fun row member => Store.get_bulkCreate_self expanded.importIds member _,
    fun row member => Store.get_bulkCreate_self expanded.recoverIds member _⟩

/-- Then the messages of one bundle add no rows of their own. -/
theorem subMsgs_nothing {codecs : Codecs} {msg : ExecMessage} (nothing : NothingSupported block)
    (member : msg ∈ block.messages) :
    (msg.decodedMsg.msgs.zipIdx.mapM fun (encodedMsg, i) => handleSubMsg codecs msg encodedMsg i) =
      .ok (msg.decodedMsg.msgs.zipIdx.map fun _ => {}) :=
  mapM_of_ok fun item placed => handleSubMsg_unsupported
    (nothing msg member item.1 (List.fst_mem_of_mem_zipIdx placed))

/-- Messages without supported inner ones leave their own rows. -/
theorem allResults_nothing (codecs : Codecs) (nothing : NothingSupported block) :
    allResults codecs block.messages =
      .ok (merge (block.messages.map fun msg =>
        merge (execRows codecs msg :: msg.decodedMsg.msgs.zipIdx.map fun _ => {}))) := by
  have each : ∀ msg ∈ block.messages, _handleAuthzExec codecs msg =
      .ok (merge (execRows codecs msg :: msg.decodedMsg.msgs.zipIdx.map fun _ => {})) := by
    intro msg member
    rw [_handleAuthzExec, subMsgs_nothing nothing member]
    rfl
  rw [allResults, mapM_of_ok each]
  rfl

/-- The messages of a block are expanded without loss just when there is nothing to expand: no
inner message is of a supported type. -/
theorem expandedBlock_iff (codecs : Codecs) (block : ExecBlock) :
    ExpandedBlock codecs block ↔ NothingSupported block := by
  constructor
  · rintro ⟨rows, ran, expanded⟩ msg member encodedMsg inside supported
    rw [← List.zipIdx_map_fst 0 msg.decodedMsg.msgs] at inside
    obtain ⟨⟨encodedMsg, i⟩, placed, rfl⟩ := List.mem_map.mp inside
    -- The one row of the inner message has the type of the outer one.
    obtain ⟨row, one, type, -⟩ := expanded.message msg member encodedMsg i placed supported
    obtain ⟨other, also, outer, -⟩ := rows_of_block ran member placed supported
    cases one.symm.trans also
    exact not_supported_exec msg (outer.symm.trans type ▸ supported)
  · intro nothing
    have ran := allResults_nothing codecs nothing
    have unsupported : ∀ msg ∈ block.messages, ∀ encodedMsg i,
        (encodedMsg, i) ∈ msg.decodedMsg.msgs.zipIdx → ¬Supported encodedMsg.typeUrl :=
      fun msg member encodedMsg i placed =>
        nothing msg member encodedMsg (List.fst_mem_of_mem_zipIdx placed)
    refine ⟨_, ran, fun msg member encodedMsg i placed supported =>
      absurd supported (unsupported msg member encodedMsg i placed),
      fun msg member encodedMsg i placed supported =>
        absurd supported (unsupported msg member encodedMsg i placed),
      messageIds_nodup ran, (importIds_nodup_iff ran).mpr ?_, (recoverIds_nodup_iff ran).mpr ?_⟩
    · intro msg member
      have none : msg.decodedMsg.msgs.countP EncodedMsg.imports = 0 :=
        List.countP_eq_zero.mpr fun encodedMsg inside kind =>
          nothing msg member encodedMsg inside (Or.inl (of_decide_eq_true kind))
      omega
    · intro msg member
      have none : msg.decodedMsg.msgs.countP EncodedMsg.recovers = 0 := by
        refine List.countP_eq_zero.mpr fun encodedMsg inside kind =>
          nothing msg member encodedMsg inside ?_
        rcases of_decide_eq_true kind with plain | admin
        · exact Or.inr (Or.inl plain)
        · exact Or.inr (Or.inr (Or.inl admin))
      omega

end

/-- The two messages of the example as their codec decodes them. -/
def decodeRecovery : List UInt8 → Except String MsgRecoverMorseAccount
  | [10, 1, 103, 18, 1, 112, 26, 1, 97] => .ok ⟨"g", "p", "a"⟩
  | [10, 1, 103, 18, 1, 112, 26, 1, 98] => .ok ⟨"g", "p", "b"⟩
  | _ => .error "premature EOF"

/-- The text of a recovery. -/
def recoveryText (msg : MsgRecoverMorseAccount) : String :=
  "\x7b\"authority\":\"" ++ msg.authority ++ "\",\"shannonDestAddress\":\"" ++
    msg.shannonDestAddress ++ "\",\"morseSrcAddress\":\"" ++ msg.morseSrcAddress ++ "\"\x7d"

/-- Codecs that know the messages of the example. -/
def exampleCodecs : Codecs where
  exec := fun msg => "\x7b\"grantee\":\"" ++ msg.grantee ++ "\"\x7d"
  importAccounts := ⟨fun _ => .error "premature EOF", fun _ => ""⟩
  recoverAccount := ⟨decodeRecovery, recoveryText⟩
  adminRecoverAccount := ⟨decodeRecovery, recoveryText⟩
  updateParams := fun _ => ⟨fun _ => .error "premature EOF", fun _ => ""⟩
  moduleType := fun _ => ⟨fun _ => .error "premature EOF", fun _ => ""⟩

/-- The event of a recovery. -/
def recoveredEvent (morseAddress balance : String) : TxEvent where
  type := .morseAccountRecovered
  attributes := [⟨"recovered_balance", balance⟩, ⟨"morse_src_address", morseAddress⟩,
    ⟨"shannon_dest_address", "p"⟩]

/-- A message that executes two recoveries. -/
def twoRecoveries : ExecBlock where
  messages := [{
    idx := 0
    height := 7
    tx := ⟨0, "A1", 0, [recoveredEvent "a" "10upokt", recoveredEvent "b" "20upokt"]⟩
    decodedMsg := ⟨"g",
      [⟨"/pocket.migration.MsgRecoverMorseAccount", [10, 1, 103, 18, 1, 112, 26, 1, 97]⟩,
        ⟨"/pocket.migration.MsgRecoverMorseAccount", [10, 1, 103, 18, 1, 112, 26, 1, 98]⟩]⟩ }]
  distinct := List.nodup_singleton _
  hashes := List.forall_mem_singleton.mpr (by decide)

/-- The inner messages are stored with the type of the outer one, and both recoveries under one
id. -/
theorem expandedBlock_recoveries :
    ((allResults exampleCodecs twoRecoveries.messages).toOption.map fun rows =>
      (rows.messages.map fun row => (row.id, row.typeUrl),
        rows.msgRecoverMorseAccount.map fun row => (row.id, row.morseSrcAddress))) =
      some ([("A1-0", "/cosmos.authz.v1beta1.MsgExec"), ("A1-0-0", "/cosmos.authz.v1beta1.MsgExec"),
        ("A1-0-1", "/cosmos.authz.v1beta1.MsgExec")], [("A1-0", "a"), ("A1-0", "b")]) ∧
    ¬ExpandedBlock exampleCodecs twoRecoveries := by
  refine ⟨by decide +kernel, ?_⟩
  rintro ⟨rows, ran, expanded⟩
  -- One message executes two recoveries.
  have single := (recoverIds_nodup_iff ran).mp expanded.recoverIds _ List.mem_cons_self
  exact absurd single (by decide +kernel)

end Pocketdex.Authz
