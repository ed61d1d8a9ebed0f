import Mathlib.Data.List.Induction
import Mathlib.Data.List.Nodup
import Mathlib.Data.List.Perm.Basic

/-! Dictionaries that iterate in insertion order and hold one entry for each key. -/

namespace Pocketdex

/-- An insertion-ordered dictionary whose keys are pairwise distinct. -/
structure Dict (κ ν : Type) where
  entries : List (κ × ν)
  nodup : (entries.map Prod.fst).Nodup
  deriving DecidableEq

namespace Dict

variable {κ ν : Type} [DecidableEq κ]

/-- The dictionary without entries. -/
def empty : Dict κ ν := ⟨[], List.nodup_nil⟩

/-- The keys in insertion order. -/
def keys (dict : Dict κ ν) : List κ := dict.entries.map Prod.fst

/-- The values in the order of their keys. -/
def values (dict : Dict κ ν) : List ν := dict.entries.map Prod.snd

/-- The value stored under a key. -/
def get (dict : Dict κ ν) (key : κ) : Option ν :=
  (dict.entries.find? fun entry => entry.1 = key).map Prod.snd

/-- Overwriting keeps a key's place among the entries. -/
def overwrite (entries : List (κ × ν)) (key : κ) (value : ν) : List (κ × ν) :=
  entries.map fun entry => if entry.1 = key then (key, value) else entry

omit [DecidableEq κ] in
/-- Two entries of one dictionary with the same key are the same entry. -/
theorem value_unique {dict : Dict κ ν} {key : κ} {left right : ν}
    (first : (key, left) ∈ dict.entries) (second : (key, right) ∈ dict.entries) :
    left = right := by
  -- Distinct keys leave one position for each key.
  have injective := List.inj_on_of_nodup_map dict.nodup first second rfl
  exact congrArg Prod.snd injective

/-- Overwriting leaves the list of keys as it was. -/
theorem overwrite_keys (entries : List (κ × ν)) (key : κ) (value : ν) :
    (overwrite entries key value).map Prod.fst = entries.map Prod.fst := by
  -- The replaced entry carries the key it was found under.
  simp only [overwrite, List.map_map]
  apply List.map_congr_left
  intro entry _
  by_cases same : entry.1 = key <;> simp [same]

/-- Storing a value overwrites the key's entry, or appends a new one. -/
def set (dict : Dict κ ν) (key : κ) (value : ν) : Dict κ ν :=
  if absent : key ∉ dict.keys then
    ⟨dict.entries ++ [(key, value)], by
      simp only [List.map_append, List.map_cons, List.map_nil]
      exact List.nodup_append.mpr ⟨dict.nodup, by simp, by
        intro other inside last member
        simp only [List.mem_singleton] at member
        subst member
        exact fun same => absent (same ▸ inside)⟩⟩
  else
    ⟨overwrite dict.entries key value, by rw [overwrite_keys]; exact dict.nodup⟩

/-- Deleting drops the entry of a key. -/
def erase (dict : Dict κ ν) (key : κ) : Dict κ ν :=
  ⟨dict.entries.filter fun entry => entry.1 ≠ key,
    dict.nodup.sublist (List.filter_sublist.map _)⟩

/-- A lookup succeeds exactly on the stored entries. -/
theorem get_eq_some {dict : Dict κ ν} {key : κ} {value : ν} :
    dict.get key = some value ↔ (key, value) ∈ dict.entries := by
  -- The first entry with the key is the only one.
  constructor
  · intro found
    obtain ⟨entry, located, same⟩ := Option.map_eq_some_iff.mp found
    have named := List.find?_some located
    simp only [decide_eq_true_eq] at named
    have member := List.mem_of_find?_eq_some located
    rw [← named, ← same]
    exact member
  · intro member
    cases located : dict.entries.find? (fun entry => entry.1 = key) with
    | none =>
      have absent := List.find?_eq_none.mp located (key, value) member
      simp at absent
    | some entry =>
      have named := List.find?_some located
      simp only [decide_eq_true_eq] at named
      have inside : (key, entry.2) ∈ dict.entries := by
        rw [← named]
        exact List.mem_of_find?_eq_some located
      simp [get, located, value_unique inside member]

/-- A lookup fails exactly on the keys without an entry. -/
theorem get_eq_none {dict : Dict κ ν} {key : κ} : dict.get key = none ↔ key ∉ dict.keys := by
  -- Searching for the key inspects every entry.
  simp only [get, Option.map_eq_none_iff, List.find?_eq_none, decide_eq_true_eq, keys,
    List.mem_map, not_exists, not_and]

/-- The keys are those whose lookup succeeds. -/
theorem mem_keys {dict : Dict κ ν} {key : κ} : key ∈ dict.keys ↔ ∃ value, dict.get key = some value := by
  rw [← not_iff_not, ← get_eq_none, not_exists]
  cases dict.get key <;> simp

/-- The values are those some key is mapped to. -/
theorem mem_values {dict : Dict κ ν} {value : ν} :
    value ∈ dict.values ↔ ∃ key, dict.get key = some value := by
  simp [values, get_eq_some]

@[simp] theorem get_empty (key : κ) : (empty : Dict κ ν).get key = none := rfl

omit [DecidableEq κ] in
@[simp] theorem keys_empty : (empty : Dict κ ν).keys = [] := rfl

/-- The entries after a store are the new one and the old ones of other keys. -/
theorem mem_set {dict : Dict κ ν} {key other : κ} {value stored : ν} :
    (other, stored) ∈ (dict.set key value).entries ↔
      (other = key ∧ stored = value) ∨ (other ≠ key ∧ (other, stored) ∈ dict.entries) := by
  -- A new key is appended, and a known one keeps its place.
  unfold set
  split
  · rename_i absent
    simp only [List.mem_append, List.mem_singleton, Prod.mk.injEq]
    constructor
    · rintro (inside | fresh)
      · refine Or.inr ⟨?_, inside⟩
        rintro rfl
        exact absent (List.mem_map.mpr ⟨_, inside, rfl⟩)
      · exact Or.inl fresh
    · rintro (fresh | ⟨_, inside⟩)
      · exact Or.inr fresh
      · exact Or.inl inside
  · rename_i present
    obtain ⟨⟨found, old⟩, inside, rfl⟩ := List.mem_map.mp (not_not.mp present)
    simp only [overwrite, List.mem_map]
    constructor
    · rintro ⟨entry, member, image⟩
      by_cases same : entry.1 = found
      · simp only [same, if_true, Prod.mk.injEq] at image
        exact Or.inl ⟨image.1.symm, image.2.symm⟩
      · simp only [same, if_false] at image
        subst image
        exact Or.inr ⟨same, member⟩
    · rintro (⟨rfl, rfl⟩ | ⟨different, member⟩)
      · exact ⟨(other, old), inside, by simp⟩
      · exact ⟨(other, stored), member, by simp [different]⟩

/-- A stored value is read back under its key. -/
@[simp] theorem get_set_self (dict : Dict κ ν) (key : κ) (value : ν) :
    (dict.set key value).get key = some value :=
  get_eq_some.mpr (mem_set.mpr (Or.inl ⟨rfl, rfl⟩))

/-- Storing leaves every other key alone. -/
theorem get_set_ne (dict : Dict κ ν) {key other : κ} (value : ν) (different : other ≠ key) :
    (dict.set key value).get other = dict.get other := by
  -- Membership of the other key's entries is unchanged.
  apply Option.ext
  intro stored
  rw [get_eq_some, get_eq_some, mem_set]
  simp [different]

/-- A lookup after a store reads the new value at its key and the old one elsewhere. -/
theorem get_set (dict : Dict κ ν) (key other : κ) (value : ν) :
    (dict.set key value).get other = if other = key then some value else dict.get other := by
  by_cases same : other = key
  · subst same; simp
  · simp [get_set_ne dict value same, same]

/-- A lookup after a deletion fails at its key and is unchanged elsewhere. -/
theorem get_erase (dict : Dict κ ν) (key other : κ) :
    (dict.erase key).get other = if other = key then none else dict.get other := by
  apply Option.ext
  intro stored
  rw [get_eq_some]
  by_cases same : other = key
  · simp [erase, same]
  · simp [erase, same, get_eq_some]

/-- Storing adds its key to the keys. -/
theorem mem_keys_set {dict : Dict κ ν} {key other : κ} {value : ν} :
    other ∈ (dict.set key value).keys ↔ other = key ∨ other ∈ dict.keys := by
  rw [mem_keys, mem_keys, get_set]
  by_cases same : other = key <;> simp [same]

/-- A dictionary filled from a list, where later items replace earlier ones with their key. -/
def collect {α : Type} (key : α → κ) (value : α → ν) (items : List α) : Dict κ ν :=
  items.foldl (fun dict item => dict.set (key item) (value item)) empty

/-- A collected key is mapped to the value of its last item. -/
theorem get_collect {α : Type} (key : α → κ) (value : α → ν) (items : List α) (other : κ) :
    (collect key value items).get other =
      (items.reverse.find? fun item => key item = other).map value := by
  -- The last item decides, and the others are collected before it.
  induction items using List.reverseRecOn with
  | nil => rfl
  | append_singleton earlier last ih =>
    rw [collect, List.foldl_append, List.foldl_cons, List.foldl_nil, ← collect, get_set, ih]
    by_cases same : key last = other
    · simp [same]
    · have different : other ≠ key last := fun equal => same equal.symm
      simp [same, different]

/-- The collected keys are those of the items. -/
theorem mem_keys_collect {α : Type} {key : α → κ} {value : α → ν} {items : List α} {other : κ} :
    other ∈ (collect key value items).keys ↔ ∃ item ∈ items, key item = other := by
  rw [mem_keys, get_collect]
  constructor
  · rintro ⟨stored, found⟩
    obtain ⟨item, located, _⟩ := Option.map_eq_some_iff.mp found
    have named := List.find?_some located
    have member := List.mem_of_find?_eq_some located
    exact ⟨item, List.mem_reverse.mp member, by simpa using named⟩
  · rintro ⟨item, member, named⟩
    have found : (items.reverse.find? fun item => key item = other).isSome := by
      rw [List.find?_isSome]
      exact ⟨item, List.mem_reverse.mpr member, by simpa using named⟩
    obtain ⟨last, located⟩ := Option.isSome_iff_exists.mp found
    exact ⟨value last, by rw [located]; rfl⟩

/-- Storing values one after the other, each under its own key. -/
def storeAll (key : ν → κ) (values : List ν) (dict : Dict κ ν) : Dict κ ν :=
  values.foldl (fun dict value => dict.set (key value) value) dict

/-- A key holds the last value stored under it, or else what it held before. -/
theorem get_storeAll (key : ν → κ) (values : List ν) (dict : Dict κ ν) (other : κ) :
    (storeAll key values dict).get other =
      (values.reverse.find? fun value => key value = other).or (dict.get other) := by
  induction values using List.reverseRecOn with
  | nil => rfl
  | append_singleton earlier last ih =>
    rw [storeAll, List.foldl_append, List.foldl_cons, List.foldl_nil, ← storeAll, get_set, ih]
    by_cases same : key last = other
    · simp [same]
    · have different : other ≠ key last := fun equal => same equal.symm
      simp [same, different]

/-- What is stored under a key afterwards is one of the values, or was stored before. -/
theorem get_storeAll_cases {key : ν → κ} {values : List ν} {dict : Dict κ ν} {other : κ}
    {stored : ν} (found : (storeAll key values dict).get other = some stored) :
    (stored ∈ values ∧ key stored = other) ∨
      ((∀ value ∈ values, key value ≠ other) ∧ dict.get other = some stored) := by
  rw [get_storeAll] at found
  -- The last value with a key is what is stored under it.
  cases located : values.reverse.find? fun value => key value = other with
  | none =>
    rw [located, Option.none_or] at found
    refine Or.inr ⟨fun value member same => ?_, found⟩
    have missing := List.find?_eq_none.mp located value (List.mem_reverse.mpr member)
    simp [same] at missing
  | some value =>
    rw [located, Option.some_or, Option.some.injEq] at found
    subst found
    exact Or.inl ⟨List.mem_reverse.mp (List.mem_of_find?_eq_some located),
      by simpa using List.find?_some located⟩

/-- A key holds something afterwards if a value was stored under it, or if it did before. -/
theorem get_storeAll_ne_none {key : ν → κ} {values : List ν} {dict : Dict κ ν} {other : κ} :
    (storeAll key values dict).get other ≠ none ↔
      (∃ value ∈ values, key value = other) ∨ dict.get other ≠ none := by
  induction values generalizing dict with
  | nil => simp [storeAll]
  | cons value rest ih =>
    -- The first value is stored before the rest.
    rw [storeAll, List.foldl_cons, ← storeAll, ih, get_set]
    simp only [List.mem_cons, exists_eq_or_imp]
    by_cases same : other = key value
    · subst same
      simp
    · have different : key value ≠ other := fun equal => same equal.symm
      simp [same, different]

/-- Overwriting a known key leaves the keys as they were. -/
theorem keys_set_of_mem {dict : Dict κ ν} {key : κ} (known : key ∈ dict.keys) (value : ν) :
    (dict.set key value).keys = dict.keys := by
  unfold set
  rw [dif_neg (not_not.mpr known)]
  exact overwrite_keys dict.entries key value

/-- Overwriting known keys leaves the keys as they were. -/
theorem keys_storeAll_of_mem {key : ν → κ} {values : List ν} {dict : Dict κ ν}
    (known : ∀ value ∈ values, key value ∈ dict.keys) : (storeAll key values dict).keys = dict.keys := by
  induction values generalizing dict with
  | nil => rfl
  | cons value rest ih =>
    have same := keys_set_of_mem (known value List.mem_cons_self) value
    rw [storeAll, List.foldl_cons, ← storeAll, ih]
    · exact same
    · intro other member
      rw [same]
      exact known other (List.mem_cons_of_mem _ member)

/-- Dictionaries with the same keys in the same order and the same lookups are the same. -/
theorem ext_of_get {first second : Dict κ ν} (keys : first.keys = second.keys)
    (gets : ∀ key, first.get key = second.get key) : first = second := by
  -- An entry is its key with the value that is looked up under it.
  have entry : ∀ (dict : Dict κ ν) (index : ℕ) (inside : index < dict.entries.length),
      dict.get (dict.entries[index]).1 = some (dict.entries[index]).2 := fun dict index inside =>
    get_eq_some.mpr (List.getElem_mem inside)
  have lengths : first.entries.length = second.entries.length := by
    have same := congrArg List.length keys
    simpa only [Dict.keys, List.length_map] using same
  have entries : first.entries = second.entries := by
    refine List.ext_getElem lengths fun index one two => ?_
    have named : (first.entries[index]).1 = (second.entries[index]).1 := by
      have same := List.getElem_of_eq keys (i := index) (by simpa [Dict.keys] using one)
      simpa only [Dict.keys, List.getElem_map] using same
    have left := entry first index one
    rw [gets, named, entry second index two, Option.some.injEq] at left
    exact Prod.ext named left.symm
  obtain ⟨_, _⟩ := first
  obtain ⟨_, _⟩ := second
  simp only at entries
  subst entries
  rfl

/-- Storing the same values again changes nothing. -/
theorem storeAll_storeAll (key : ν → κ) (values : List ν) (dict : Dict κ ν) :
    storeAll key values (storeAll key values dict) = storeAll key values dict := by
  refine ext_of_get (keys_storeAll_of_mem ?_) fun other => ?_
  · intro value member
    rw [mem_keys, ← Option.ne_none_iff_exists', get_storeAll_ne_none]
    exact Or.inl ⟨value, member, rfl⟩
  · rw [get_storeAll, get_storeAll]
    cases values.reverse.find? fun value => key value = other <;> rfl

/-- What is selected of the items of all values is what is selected of one value's items, when no
other value has any. -/
theorem filter_flatMap_values {α : Type} {items : ν → List α} {selects : α → Bool} {dict : Dict κ ν}
    {key : κ} (apart : ∀ other value, dict.get other = some value → other ≠ key →
      (items value).filter selects = []) :
    (dict.values.flatMap items).filter selects =
      ((dict.get key).map fun value => (items value).filter selects).getD [] := by
  -- Along the entries, whose keys are distinct, only the one with the key counts.
  have general : ∀ entries : List (κ × ν), (entries.map Prod.fst).Nodup →
      (∀ entry ∈ entries, entry.1 ≠ key → (items entry.2).filter selects = []) →
      ((entries.map Prod.snd).flatMap items).filter selects =
        (((entries.find? fun entry => entry.1 = key).map Prod.snd).map
          fun value => (items value).filter selects).getD [] := by
    intro entries
    induction entries with
    | nil => intro _ _; rfl
    | cons entry rest ih =>
      intro distinct others
      rw [List.map_cons, List.nodup_cons] at distinct
      have later := ih distinct.2 fun other member => others other (List.mem_cons_of_mem _ member)
      rw [List.map_cons, List.flatMap_cons, List.filter_append, later]
      by_cases same : entry.1 = key
      · have absent : (rest.find? fun other => other.1 = key) = none :=
          List.find?_eq_none.mpr fun other member found => distinct.1
            (List.mem_map.mpr ⟨other, member, (of_decide_eq_true found).trans same.symm⟩)
        rw [List.find?_cons_of_pos (by simpa using same), absent]
        simp
      · rw [List.find?_cons_of_neg (by simpa using same), others entry List.mem_cons_self same,
          List.nil_append]
  exact general dict.entries dict.nodup fun entry member other =>
    apart entry.1 entry.2 (get_eq_some.mpr member) other

end Dict

end Pocketdex
