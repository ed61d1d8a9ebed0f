import Pocketdex.Base.Sorting
import Pocketdex.Pocket.FlatObjects

/-! When two flat objects compare equal, whatever the order of their keys. -/

namespace Pocketdex

namespace Json

/-- Parts between brackets are an array of them. -/
theorem enclosed_eq_arrayText (parts : List (List Char)) : enclosed '[' ']' parts = arrayText parts := by
  have more : ∀ (part : List Char) (parts : List (List Char)),
      [','].intercalate (part :: parts) ++ [']'] = part ++ moreItems parts := by
    intro part parts
    induction parts generalizing part with
    | nil => simp [moreItems]
    | cons next parts ih => simp [moreItems, ← ih next]
  cases parts with
  | nil => rfl
  | cons part parts =>
    rw [enclosed, List.cons_append, more, arrayText]
    rfl

/-- The items of an array are written one by one. -/
theorem writeItems_eq (items : List Json) : writeItems items = items.map write := by
  induction items with
  | nil => rfl
  | cons item items ih => rw [writeItems, ih, List.map_cons]

/-- An array as it is written. -/
theorem write_array (items : List Json) : (array items).write = arrayText (items.map write) := by
  rw [write, writeItems_eq, enclosed_eq_arrayText]

end Json

/-- Two texts in front of a character that neither holds are the same, and so is what follows. -/
theorem append_cons_inj {stop : Char} {first second rest more : List Char} (one : stop ∉ first)
    (two : stop ∉ second) (same : first ++ stop :: rest = second ++ stop :: more) :
    first = second ∧ rest = more := by
  induction first generalizing second with
  | nil =>
    cases second with
    | nil => exact ⟨rfl, (List.cons.inj same).2⟩
    | cons char chars =>
      exact absurd ((List.cons.inj same).1 ▸ List.mem_cons_self) two
  | cons char chars ih =>
    cases second with
    | nil => exact absurd ((List.cons.inj same).1 ▸ List.mem_cons_self) one
    | cons other others =>
      obtain ⟨heads, tails⟩ := List.cons.inj same
      obtain ⟨fronts, rests⟩ := ih (fun inside => one (List.mem_cons_of_mem _ inside))
        (fun inside => two (List.mem_cons_of_mem _ inside)) tails
      exact ⟨by rw [heads, fronts], rests⟩

namespace Scalar

/-- The text of a number holds no bracket. -/
theorem bracket_notMem_number (double : FiniteDouble) :
    ']' ∉ Double.numberText double.value := by
  intro inside
  exact absurd ((Double.numberText_chars double.double).2 _ inside) (by decide)

/-- It begins with a digit or a sign. -/
theorem number_begins {double : FiniteDouble} {char : Char} {tail rest : List Char}
    (same : Double.numberText double.value ++ tail = char :: rest) :
    char.isDigit = true ∨ char = '-' := by
  obtain ⟨first, others, written, begins⟩ := (Double.numberText_chars double.double).1
  rw [written, List.cons_append] at same
  rwa [(List.cons.inj same).1] at begins

/-- Numbers written the same are the same. -/
theorem number_injective {first second : FiniteDouble}
    (same : Double.numberText first.value = Double.numberText second.value) : first = second := by
  have values := Double.numberText_injective first.double second.double same
  obtain ⟨value, double⟩ := first
  obtain ⟨other, doubleToo⟩ := second
  subst values
  rfl

/-- In front of a bracket, values written the same are the same: texts begin with a quote, truth
values with a letter, and numbers with a digit or a sign. -/
theorem write_json_inj {first second : Scalar} {rest more : List Char}
    (filled : first.isFilled = true) (filledToo : second.isFilled = true)
    (same : first.json.write ++ ']' :: rest = second.json.write ++ ']' :: more) :
    first = second ∧ rest = more := by
  cases first with
  | undefined => simp [isFilled] at filled
  | null => simp [isFilled] at filled
  -- The two truth values are told apart by their first letters.
  | bool value =>
    cases second with
    | undefined => simp [isFilled] at filledToo
    | null => simp [isFilled] at filledToo
    | bool other =>
      cases value <;> cases other
      · exact ⟨rfl, by simpa [json, Json.write] using same⟩
      · simp [json, Json.write] at same
      · simp [json, Json.write] at same
      · exact ⟨rfl, by simpa [json, Json.write] using same⟩
    | number double =>
      simp only [json, Json.write, String.toList_ofList] at same
      cases value <;> exact absurd (number_begins same.symm) (by decide)
    | string text => cases value <;> simp [json, Json.write, Json.quote] at same
  | number double =>
    cases second with
    | undefined => simp [isFilled] at filledToo
    | null => simp [isFilled] at filledToo
    | bool other =>
      simp only [json, Json.write, String.toList_ofList] at same
      cases other <;> exact absurd (number_begins same) (by decide)
    | number other =>
      simp only [json, Json.write, String.toList_ofList] at same
      -- Numbers are written without brackets, so the first bracket ends both.
      obtain ⟨texts, rests⟩ := append_cons_inj (bracket_notMem_number double)
        (bracket_notMem_number other) same
      exact ⟨by rw [number_injective texts], rests⟩
    | string text =>
      simp only [json, Json.write, String.toList_ofList] at same
      exact absurd (number_begins same) (by decide)
  | string text =>
    cases second with
    | undefined => simp [isFilled] at filledToo
    | null => simp [isFilled] at filledToo
    | bool other => cases other <;> simp [json, Json.write, Json.quote] at same
    | number double =>
      simp only [json, Json.write, String.toList_ofList] at same
      exact absurd (number_begins same.symm) (by decide)
    | string other =>
      -- No quoted text is the beginning of another.
      obtain ⟨texts, rests⟩ := Json.quote_prefixCode _ _ _ _ same
      exact ⟨by rw [texts], (List.cons.inj rests).2⟩

end Scalar

namespace FlatObject

/-- An entry that holds something. -/
abbrev FilledEntry := { entry : String × Scalar // entry.2.isFilled = true }

/-- An entry as it is written. -/
def entryJson (entry : String × Scalar) : Json := .array [.string entry.1, entry.2.json]

/-- Filled entries show where their texts end. -/
theorem entryJson_prefixCode : PrefixCode fun entry : FilledEntry => (entryJson entry).write := by
  rintro ⟨⟨key, value⟩, filled⟩ ⟨⟨other, stored⟩, filledToo⟩ rest more same
  simp only [entryJson, Json.write_array, List.map_cons, List.map_nil, Json.arrayText,
    Json.moreItems, List.cons_append, List.append_assoc, List.nil_append, List.cons.injEq,
    true_and] at same
  -- The key is read first, and then the value up to the bracket behind it.
  obtain ⟨keys, values⟩ := Json.quote_prefixCode _ _ _ _ same
  obtain ⟨scalars, rests⟩ := Scalar.write_json_inj filled filledToo (List.cons.inj values).2
  have keys : key = other := keys
  exact ⟨by subst keys scalars; rfl, rests⟩

/-- Only filled entries are sorted. -/
theorem filled_of_mem {object : FlatObject} {entry : String × Scalar}
    (member : entry ∈ object.sortedEntries) : entry.2.isFilled = true := by
  have inside := List.mem_mergeSort.mp member
  exact (List.mem_filter.mp inside).2

/-- The sorted entries, with the fact that they are filled. -/
def sortedFilled (object : FlatObject) : List FilledEntry :=
  object.sortedEntries.attachWith _ fun _ member => filled_of_mem member

/-- An object is written as the array of its sorted entries. -/
theorem canonical_eq (object : FlatObject) : canonical (some object) =
    String.ofList (Json.arrayText
      (object.sortedFilled.map fun entry : FilledEntry => (entryJson entry).write)) := by
  have items : object.sortedFilled.map (fun entry : FilledEntry => (entryJson entry).write) =
      object.sortedEntries.map fun entry => (entryJson entry).write :=
    List.attachWith_map_val (f := fun entry => (entryJson entry).write) _
  rw [items, canonical, stringify, Json.write_array, List.map_map]
  rfl

/-- The canonical texts of two objects are the same when their sorted entries are. -/
theorem canonical_eq_iff (first second : FlatObject) :
    canonical (some first) = canonical (some second) ↔
      first.sortedEntries = second.sortedEntries := by
  rw [canonical_eq, canonical_eq, String.ofList_inj]
  constructor
  · intro same
    have opened : ∀ (entry : FilledEntry) tail rest,
        (entryJson entry).write ++ tail ≠ ']' :: rest := by
      simp [entryJson, Json.write_array, Json.arrayText]
    have entries := (Json.arrayText_prefixCode entryJson_prefixCode opened).injective same
    have values := congrArg (List.map Subtype.val) entries
    rwa [sortedFilled, sortedFilled, List.attachWith_map_subtype_val,
      List.attachWith_map_subtype_val] at values
  · intro same
    unfold sortedFilled
    simp only [same]

/-- No key is filled twice. -/
theorem filledEntries_nodup (object : FlatObject) :
    (object.filledEntries.map Prod.fst).Nodup :=
  object.fields.nodup.sublist (List.filter_sublist.map _)

/-- The filled entries are those of the object that hold something. -/
theorem mem_filledEntries {object : FlatObject} {key : String} {value : Scalar} :
    (key, value) ∈ object.filledEntries ↔
      object.fields.get key = some value ∧ value.isFilled = true := by
  rw [filledEntries, List.mem_filter, Dict.get_eq_some]

/-- Two objects hold the same when they have the same filled entries. -/
theorem sameFilled_iff (first second : FlatObject) : SameFilled first second ↔
    ∀ entry, entry ∈ first.filledEntries ↔ entry ∈ second.filledEntries := by
  constructor
  · rintro ⟨keys, values⟩ ⟨key, value⟩
    rw [mem_filledEntries, mem_filledEntries]
    constructor
    · rintro ⟨found, filled⟩
      rw [values key ⟨value, found, filled⟩] at found
      exact ⟨found, filled⟩
    · rintro ⟨found, filled⟩
      rw [← values key ((keys key).mpr ⟨value, found, filled⟩)] at found
      exact ⟨found, filled⟩
  · intro same
    have entries : ∀ key value, first.fields.get key = some value ∧ value.isFilled = true ↔
        second.fields.get key = some value ∧ value.isFilled = true := fun key value => by
      rw [← mem_filledEntries, ← mem_filledEntries]
      exact same (key, value)
    refine ⟨fun key => exists_congr (entries key), ?_⟩
    rintro key ⟨value, found, filled⟩
    rw [found, ((entries key value).mp ⟨found, filled⟩).1]

/-- Two objects compare equal exactly when they hold the same, and this is an equivalence. -/
theorem jsonFieldEquals_equivalence :
    (∀ first second : FlatObject,
      jsonFieldEquals (some first) (some second) = true ↔ SameFilled first second) ∧
      Equivalence fun first second : FlatObject =>
        jsonFieldEquals (some first) (some second) = true := by
  constructor
  · intro first second
    rw [jsonFieldEquals, decide_eq_true_eq, canonical_eq_iff, sortedEntries, sortedEntries,
      mergeSort_eq_iff localeCompare_total localeCompare_trans localeCompare_antisymm
        first.filledEntries_nodup second.filledEntries_nodup, sameFilled_iff]
  · -- It compares one text of each object.
    simp only [jsonFieldEquals, decide_eq_true_eq]
    exact ⟨fun _ => rfl, Eq.symm, Eq.trans⟩

section Texts

/-- A text of a stored field as a value. -/
def ofText : Option String → Scalar
  | none => .undefined
  | some text => .string text

variable {object : FlatObject} {field : JsonField}

/-- The filled entries of an object of texts are those of the field it stands for. -/
theorem filledEntries_texts (texts : object.fields.entries =
    field.entries.map fun entry => (entry.1, ofText entry.2)) :
    object.filledEntries =
      (Pocketdex.filledEntries field).map fun entry => (entry.1, .string entry.2) := by
  rw [filledEntries, texts, Pocketdex.filledEntries]
  induction field.entries with
  | nil => rfl
  | cons entry rest ih =>
    obtain ⟨key, text⟩ := entry
    -- A missing or empty text is left out on both sides.
    cases text with
    | none =>
      rw [List.map_cons, List.filter_cons_of_neg (by simp [ofText, Scalar.isFilled]), ih,
        List.filterMap_cons_none rfl]
    | some text =>
      by_cases empty : text = ""
      · rw [List.map_cons, List.filter_cons_of_neg (by simp [ofText, Scalar.isFilled, empty]), ih,
          List.filterMap_cons_none (by simp [empty])]
      · rw [List.map_cons, List.filter_cons_of_pos (by simp [ofText, Scalar.isFilled, empty]), ih,
          List.filterMap_cons_some (by simp [empty]; rfl)]
        rfl

/-- Fields of texts, as validators have them, are compared like the objects they are. -/
theorem canonical_texts (texts : object.fields.entries =
    field.entries.map fun entry => (entry.1, ofText entry.2)) :
    canonical (some object) = Pocketdex.canonical (some field) := by
  have sorted : object.sortedEntries =
      (Pocketdex.sortedEntries field).map fun entry => (entry.1, .string entry.2) := by
    rw [sortedEntries, filledEntries_texts texts, Pocketdex.sortedEntries]
    exact (List.map_mergeSort (f := fun entry : String × String => (entry.1, Scalar.string entry.2))
      fun _ _ _ _ => rfl).symm
  rw [canonical, Pocketdex.canonical, stringify, Json.write_array, sorted, List.map_map,
    List.map_map]
  refine congrArg (fun items => String.ofList (Json.arrayText items)) (List.map_congr_left ?_)
  intro entry _
  exact Json.write_array _

end Texts

end FlatObject

end Pocketdex
