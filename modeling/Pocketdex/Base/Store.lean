import Pocketdex.Base.Dict

/-! Entity stores: the current record under each id, and the saves that replace it. -/

namespace Pocketdex

/-- The current records of an entity, each under its own id. -/
structure Store {ρ κ : Type} (id : ρ → κ) [DecidableEq κ] where
  table : Dict κ ρ
  named : ∀ {key : κ} {record : ρ}, table.get key = some record → id record = key

namespace Store

variable {ρ κ : Type} {id : ρ → κ} [DecidableEq κ]

/-- The store without records. -/
def empty : Store id := ⟨Dict.empty, by simp⟩

/-- The record under an id. -/
def get (store : Store id) (key : κ) : Option ρ := store.table.get key

/-- All records, in the order their ids were first saved. -/
def records (store : Store id) : List ρ := store.table.values

/-- Saving a record replaces the one under its id. -/
def save (store : Store id) (record : ρ) : Store id :=
  ⟨store.table.set (id record) record, by
    intro key found stored
    rw [Dict.get_set] at stored
    split at stored
    · rename_i same
      rw [← Option.some.inj stored, same]
    · exact store.named stored⟩

/-- Saving several records, one after the other. -/
def bulkCreate (store : Store id) (records : List ρ) : Store id := records.foldl save store

/-- Removing the record under an id. -/
def remove (store : Store id) (key : κ) : Store id :=
  ⟨store.table.erase key, by
    intro other found stored
    rw [Dict.get_erase] at stored
    split at stored
    · simp at stored
    · exact store.named stored⟩

/-- Removing the records under several ids, one after the other. -/
def bulkRemove (store : Store id) (keys : List κ) : Store id := keys.foldl remove store

/-- The record under an id has that id. -/
theorem id_of_get {store : Store id} {key : κ} {record : ρ} (found : store.get key = some record) :
    id record = key := store.named found

/-- The records are those found under some id. -/
theorem mem_records {store : Store id} {record : ρ} :
    record ∈ store.records ↔ store.get (id record) = some record := by
  rw [records, Dict.mem_values]
  constructor
  · rintro ⟨key, found⟩
    rw [get, store.named found, found]
  · intro found
    exact ⟨id record, found⟩

/-- The ids of the records are those under which something is found. -/
theorem mem_ids {store : Store id} {key : κ} :
    key ∈ store.records.map id ↔ store.get key ≠ none := by
  rw [List.mem_map, Option.ne_none_iff_exists']
  constructor
  · rintro ⟨record, member, rfl⟩
    exact ⟨record, mem_records.mp member⟩
  · rintro ⟨record, found⟩
    have own : id record = key := store.named found
    exact ⟨record, mem_records.mpr (by rw [own, found]), own⟩

/-- No two records have the same id. -/
theorem records_nodup (store : Store id) : (store.records.map id).Nodup := by
  -- Each entry of the table is stored under the id of its record.
  have listed : store.records.map id = store.table.keys := by
    rw [records, Dict.values, Dict.keys, List.map_map]
    apply List.map_congr_left
    intro entry member
    exact store.named (Dict.get_eq_some.mpr member)
  rw [listed]
  exact store.table.nodup

@[simp] theorem get_empty (key : κ) : (empty : Store id).get key = none := rfl

/-- A lookup after a save reads the new record under its id and the old one elsewhere. -/
theorem get_save (store : Store id) (record : ρ) (key : κ) :
    (store.save record).get key = if key = id record then some record else store.get key :=
  Dict.get_set store.table (id record) key record

/-- Saving nothing leaves the store as it was. -/
@[simp] theorem bulkCreate_nil (store : Store id) : store.bulkCreate [] = store := rfl

/-- Saving several records saves the first one and then the others. -/
@[simp] theorem bulkCreate_cons (store : Store id) (record : ρ) (rest : List ρ) :
    store.bulkCreate (record :: rest) = (store.save record).bulkCreate rest := rfl

/-- Saving a list and then another saves both. -/
theorem bulkCreate_append (store : Store id) (first second : List ρ) :
    store.bulkCreate (first ++ second) = (store.bulkCreate first).bulkCreate second :=
  List.foldl_append ..

/-- An id that is not saved keeps its record. -/
theorem get_bulkCreate_other {records : List ρ} {key : κ}
    (absent : ∀ record ∈ records, id record ≠ key) (store : Store id) :
    (store.bulkCreate records).get key = store.get key := by
  -- Each save is of another id.
  induction records generalizing store with
  | nil => rfl
  | cons record rest ih =>
    have different : key ≠ id record := fun same => absent record List.mem_cons_self same.symm
    rw [bulkCreate_cons, ih fun other member => absent other (List.mem_cons_of_mem _ member),
      get_save, if_neg different]

/-- Of saved records with distinct ids each is found under its own. -/
theorem get_bulkCreate_self {records : List ρ} (distinct : (records.map id).Nodup) {record : ρ}
    (member : record ∈ records) (store : Store id) :
    (store.bulkCreate records).get (id record) = some record := by
  induction records generalizing store with
  | nil => simp at member
  | cons first rest ih =>
    rw [List.map_cons, List.nodup_cons] at distinct
    rw [bulkCreate_cons]
    rcases List.mem_cons.mp member with rfl | inside
    · -- No later record has the same id.
      have absent : ∀ other ∈ rest, id other ≠ id record := fun other later same =>
        distinct.1 (List.mem_map.mpr ⟨other, later, same⟩)
      rw [get_bulkCreate_other absent, get_save, if_pos rfl]
    · exact ih distinct.2 inside _

/-- What is found after saving records is one of them, or was there and is not among them. -/
theorem get_bulkCreate_cases {store : Store id} {records : List ρ} {key : κ} {record : ρ}
    (found : (store.bulkCreate records).get key = some record) :
    (record ∈ records ∧ id record = key) ∨
      ((∀ other ∈ records, id other ≠ key) ∧ store.get key = some record) := by
  -- Later records take the place of earlier ones with their id.
  induction records generalizing store with
  | nil => exact Or.inr ⟨by simp, found⟩
  | cons first rest ih =>
    rw [bulkCreate_cons] at found
    rcases ih found with ⟨inside, same⟩ | ⟨absent, before⟩
    · exact Or.inl ⟨List.mem_cons_of_mem _ inside, same⟩
    · rw [get_save] at before
      split at before
      · rename_i same
        cases before
        exact Or.inl ⟨List.mem_cons_self, same.symm⟩
      · rename_i different
        refine Or.inr ⟨List.forall_mem_cons.mpr ⟨fun same => different same.symm, absent⟩, before⟩

/-- An id has a record afterwards if one was saved under it, or if it had one before. -/
theorem get_bulkCreate_ne_none {store : Store id} {records : List ρ} {key : κ} :
    (store.bulkCreate records).get key ≠ none ↔
      (∃ record ∈ records, id record = key) ∨ store.get key ≠ none := by
  induction records generalizing store with
  | nil => simp
  | cons first rest ih =>
    rw [bulkCreate_cons, ih, get_save]
    simp only [List.mem_cons, exists_eq_or_imp]
    by_cases same : key = id first
    · subst same
      simp
    · have different : id first ≠ key := fun equal => same equal.symm
      simp [same, different]

/-- Saving the records of another store reads that store first. -/
theorem get_bulkCreate_records (store other : Store id) (key : κ) :
    (store.bulkCreate other.records).get key = (other.get key).or (store.get key) := by
  cases found : other.get key with
  | none =>
    -- No record of the other store has this id.
    rw [get_bulkCreate_other, Option.none_or]
    intro record member same
    rw [mem_records, same, found] at member
    simp at member
  | some record =>
    have named := id_of_get found
    have member : record ∈ other.records := by rw [mem_records, named, found]
    rw [← named, get_bulkCreate_self other.records_nodup member, Option.some_or]

/-- Records saved under ids that follow from what they are made of are found under those ids. -/
theorem get_bulkCreate_map {α : Type} {items : List α} {record : α → ρ} {item : α}
    (member : item ∈ items) (unique : ∀ other ∈ items, id (record other) = id (record item) →
      record other = record item) (store : Store id) :
    (store.bulkCreate (items.map record)).get (id (record item)) = some (record item) := by
  have present : (store.bulkCreate (items.map record)).get (id (record item)) ≠ none :=
    get_bulkCreate_ne_none.mpr (Or.inl ⟨_, List.mem_map.mpr ⟨item, member, rfl⟩, rfl⟩)
  obtain ⟨found, stored⟩ := Option.ne_none_iff_exists'.mp present
  rcases get_bulkCreate_cases stored with ⟨inside, same⟩ | ⟨absent, _⟩
  · obtain ⟨other, listed, rfl⟩ := List.mem_map.mp inside
    rw [stored, unique other listed same]
  · exact absurd rfl (absent _ (List.mem_map.mpr ⟨item, member, rfl⟩))

/-- Leaving out records that are there already makes no difference. -/
theorem get_bulkCreate_sublist {store : Store id} {kept records : List ρ}
    (distinct : (records.map id).Nodup) (part : kept.Sublist records)
    (there : ∀ record ∈ records, record ∉ kept → store.get (id record) = some record) (key : κ) :
    (store.bulkCreate kept).get key = (store.bulkCreate records).get key := by
  by_cases saved : ∃ record ∈ records, id record = key
  · obtain ⟨record, member, rfl⟩ := saved
    rw [get_bulkCreate_self distinct member]
    by_cases keep : record ∈ kept
    · exact get_bulkCreate_self (distinct.sublist (part.map id)) keep _
    · -- No record that is kept has the same id.
      rw [get_bulkCreate_other, there record member keep]
      intro other inside same
      exact keep (List.inj_on_of_nodup_map distinct (part.subset inside) member same ▸ inside)
  · rw [get_bulkCreate_other, get_bulkCreate_other]
    · exact fun record member same => saved ⟨record, member, same⟩
    · exact fun record member same => saved ⟨record, part.subset member, same⟩

/-- The records after a save are the new one and those with other ids. -/
theorem mem_records_save {store : Store id} {record other : ρ} :
    other ∈ (store.save record).records ↔
      other = record ∨ (other ∈ store.records ∧ id other ≠ id record) := by
  rw [mem_records, mem_records, get_save]
  by_cases same : id other = id record
  · simp only [same, if_true, Option.some.injEq, ne_eq, not_true_eq_false, and_false, or_false]
    exact eq_comm
  · have different : other ≠ record := fun equal => same (congrArg id equal)
    simp [same, different]

/-- A record stays when every record saved under its id is the same. -/
theorem mem_records_bulkCreate_of_mem {store : Store id} {records : List ρ} {record : ρ}
    (member : record ∈ store.records)
    (same : ∀ other ∈ records, id other = id record → other = record) :
    record ∈ (store.bulkCreate records).records := by
  induction records generalizing store with
  | nil => exact member
  | cons first rest ih =>
    rw [bulkCreate_cons]
    refine ih ?_ fun other inside => same other (List.mem_cons_of_mem _ inside)
    rw [mem_records_save]
    by_cases equal : id first = id record
    · exact Or.inl (same first List.mem_cons_self equal).symm
    · exact Or.inr ⟨member, fun again => equal again.symm⟩

/-- The records after a removal are those with other ids. -/
theorem mem_records_remove {store : Store id} {key : κ} {other : ρ} :
    other ∈ (store.remove key).records ↔ other ∈ store.records ∧ id other ≠ key := by
  rw [mem_records, mem_records]
  show (store.table.erase key).get (id other) = some other ↔ _
  rw [Dict.get_erase]
  by_cases same : id other = key
  · simp [same]
  · simp [same, get]

/-- The records after several removals are those with none of the ids. -/
theorem mem_records_bulkRemove {store : Store id} {keys : List κ} {other : ρ} :
    other ∈ (store.bulkRemove keys).records ↔ other ∈ store.records ∧ id other ∉ keys := by
  induction keys generalizing store with
  | nil => simp [bulkRemove]
  | cons key rest ih =>
    show other ∈ ((store.remove key).bulkRemove rest).records ↔ _
    rw [ih, mem_records_remove, List.mem_cons, not_or, and_assoc]

/-- The records after several saves are among the saved ones and the earlier ones. -/
theorem mem_records_bulkCreate {store : Store id} {records : List ρ} {other : ρ}
    (member : other ∈ (store.bulkCreate records).records) :
    other ∈ records ∨ other ∈ store.records := by
  rw [mem_records] at member
  rcases get_bulkCreate_cases member with ⟨inside, _⟩ | ⟨_, before⟩
  · exact Or.inl inside
  · exact Or.inr (mem_records.mpr before)

end Store

end Pocketdex
