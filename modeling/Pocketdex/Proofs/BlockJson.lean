import Mathlib.Data.List.Perm.Subperm
import Mathlib.Data.List.Sort
import Pocketdex.Utils.BlockParser
import Pocketdex.Utils.Ids
import Pocketdex.Utils.Number

/-! Which blocks have all their byte arrays converted, and nothing else. -/

namespace Pocketdex

/-- The order in which the runtime enumerates keys: indexes first, by size, and then all others. A
list of keys has fewer than two to the thirty-two entries. -/
structure EnumeratedKeys (keys : List String) : Prop where
  nodup : keys.Nodup
  short : keys.length < 2 ^ 32
  ordered : ∃ (indexes : List ℕ) (names : List String), keys = indexes.map toString ++ names ∧
    indexes.Pairwise (· < ·) ∧ ∀ name ∈ names, ∀ index < 2 ^ 32 - 1, name ≠ toString index

namespace JsValue

mutual

/-- All objects of a tree enumerate their keys in order. -/
def WellFormed : JsValue → Prop
  | array items => WellFormedItems items
  | object fields => EnumeratedKeys (fields.map Prod.fst) ∧ WellFormedFields fields
  | _ => True

/-- So do the objects in the items of an array. -/
def WellFormedItems : List JsValue → Prop
  | [] => True
  | item :: rest => WellFormed item ∧ WellFormedItems rest

/-- And those in the fields of an object. -/
def WellFormedFields : List (String × JsValue) → Prop
  | [] => True
  | (_, value) :: rest => WellFormed value ∧ WellFormedFields rest

end

/-- The bytes that fields map their indexes to, from one index on. -/
def indexBytes : ℕ → List (String × JsValue) → Option (List UInt8)
  | _, [] => some []
  | start, (key, value) :: rest =>
    if key = toString start then do
      let byte ← value.byteOf
      let data ← indexBytes (start + 1) rest
      return byte :: data
    else none

/-- A byte array, or an object that maps its indexes to bytes. -/
def isByteData : JsValue → Bool
  | bytes _ => true
  | object fields => !fields.isEmpty && (indexBytes 0 fields).isSome
  | _ => false

/-- Bytes in hexadecimal, with capital letters. -/
def hexText (data : List UInt8) : String :=
  String.ofList (data.flatMap fun byte =>
    ["0123456789ABCDEF".toList.getD (byte.toNat / 16) '0',
      "0123456789ABCDEF".toList.getD (byte.toNat % 16) '0'])

mutual

/-- A tree with all its byte data in hexadecimal, and nothing else changed. -/
def hexed : JsValue → JsValue
  | bytes data => string (hexText data)
  | array items => array (hexedItems items)
  | object fields =>
    match fields, indexBytes 0 fields with
    | _ :: _, some data => string (hexText data)
    | _, _ => object (hexedFields fields)
  | other => other

/-- The items of an array with their byte data in hexadecimal. -/
def hexedItems : List JsValue → List JsValue
  | [] => []
  | item :: rest => hexed item :: hexedItems rest

/-- The fields of an object with their byte data in hexadecimal. -/
def hexedFields : List (String × JsValue) → List (String × JsValue)
  | [] => []
  | (key, value) :: rest => (key, hexed value) :: hexedFields rest

end

mutual

/-- No array of a tree holds byte data directly, no object is empty or has a field named like the
prototype, and no date is without nanoseconds. -/
def regular : JsValue → Bool
  | date _ nanoseconds => nanoseconds.isSome
  | array items => regularItems items
  | object fields => !fields.isEmpty && regularFields fields
  | _ => true

/-- The items of such an array. -/
def regularItems : List JsValue → Bool
  | [] => true
  | item :: rest => !isByteData item && regular item && regularItems rest

/-- The fields of such an object. -/
def regularFields : List (String × JsValue) → Bool
  | [] => true
  | (key, value) :: rest => key ≠ "__proto__" && regular value && regularFields rest

end

mutual

/-- No byte data is left at any depth of a tree. -/
def byteFree : JsValue → Bool
  | array items => byteFreeItems items
  | object fields => !isByteData (object fields) && byteFreeFields fields
  | other => !isByteData other

/-- None is left in the items of an array. -/
def byteFreeItems : List JsValue → Bool
  | [] => true
  | item :: rest => byteFree item && byteFreeItems rest

/-- None is left in the fields of an object. -/
def byteFreeFields : List (String × JsValue) → Bool
  | [] => true
  | (_, value) :: rest => byteFree value && byteFreeFields rest

end

/-- Fields map indexes to bytes if their keys count up and their values are the bytes. -/
theorem indexBytes_eq_some {start : ℕ} {fields : List (String × JsValue)} {data : List UInt8} :
    indexBytes start fields = some data ↔
      fields.map Prod.fst = (List.range' start fields.length).map toString ∧
        fields.map (fun entry => entry.2.byteOf) = data.map some := by
  induction fields generalizing start data with
  | nil => cases data <;> simp [indexBytes]
  | cons entry rest ih =>
    obtain ⟨key, value⟩ := entry
    rw [indexBytes]
    -- The keys count up from the start, and the first that does not ends it.
    split
    · rename_i same
      simp only [Option.bind_eq_bind, Option.bind_eq_some_iff, ih, same, List.map_cons,
        List.length_cons, List.range'_succ, List.cons.injEq, true_and]
      constructor
      · rintro ⟨byte, read, others, ⟨keys, values⟩, result⟩
        cases result
        exact ⟨keys, by simp [read, values]⟩
      · rintro ⟨keys, values⟩
        cases data with
        | nil => simp at values
        | cons byte others =>
          simp only [List.map_cons, List.cons.injEq] at values
          exact ⟨byte, values.1, others, ⟨keys, values.2⟩, rfl⟩
    · rename_i apart
      constructor
      · rintro ⟨⟩
      · rintro ⟨keys, -⟩
        rw [List.length_cons, List.range'_succ, List.map_cons, List.map_cons, List.cons.injEq] at keys
        exact absurd keys.1 apart

/-- Distinct numbers have distinct texts. -/
theorem toString_injective : Function.Injective (toString : ℕ → String) :=
  fun _ _ same => toString_inj (congrArg String.toList same)

/-- Keys that hold all indexes below their number are these indexes, in order. -/
theorem keys_eq_range {keys : List String} (enumerated : EnumeratedKeys keys)
    (all : ∀ index < keys.length, toString index ∈ keys) :
    keys = (List.range keys.length).map toString := by
  obtain ⟨indexes, names, split, sorted, apart⟩ := enumerated.ordered
  have short := enumerated.short
  have nodup : ((List.range keys.length).map (toString : ℕ → String)).Nodup :=
    List.nodup_range.map toString_injective
  have perm : ((List.range keys.length).map toString).Perm keys := by
    refine (List.subperm_of_subset nodup ?_).perm_of_length_le (by simp)
    intro key member
    obtain ⟨index, below, rfl⟩ := List.mem_map.mp member
    exact all index (List.mem_range.mp below)
  -- There are no more keys than indexes, so no other name is left.
  have none : names = [] := by
    rw [List.eq_nil_iff_forall_not_mem]
    intro name member
    have listed : name ∈ keys := by
      rw [split]
      exact List.mem_append_right _ member
    obtain ⟨index, below, same⟩ := List.mem_map.mp (perm.mem_iff.mpr listed)
    exact apart name member index (by have := List.mem_range.mp below; omega) same.symm
  rw [none, List.append_nil] at split
  have indexPerm : (List.range keys.length).Perm indexes := by
    rw [← List.map_perm_map_iff toString_injective, ← split]
    exact perm
  have same : List.range keys.length = indexes :=
    indexPerm.eq_of_pairwise (fun one two _ _ first second => absurd first (by omega))
      List.pairwise_lt_range sorted
  rw [same]
  exact split

/-- An index is the number its text is read as. -/
theorem ofText_toString {index : ℕ} (small : index < 2 ^ 53) :
    Double.ofText (toString index) = .finite index := by
  have absolute : ((index : Int)).natAbs < 2 ^ 53 := by omega
  unfold Double.ofText
  rw [bigInt_toString]
  simp only [Double.ofInt, absolute, if_true]
  norm_cast

/-- The keys of consecutive indexes are read as these indexes, which are sorted already. -/
theorem sorted_indexes {fields : List (String × JsValue)} (short : fields.length < 2 ^ 32)
    (keys : fields.map Prod.fst = (List.range fields.length).map toString) :
    (fields.map fun (key, _) => Double.ofText key).mergeSort Double.notAfter =
      (List.range fields.length).map fun index : ℕ => Double.finite index := by
  have read : (fields.map fun (key, _) => Double.ofText key) =
      (List.range fields.length).map fun index : ℕ => Double.finite index := by
    calc (fields.map fun (key, _) => Double.ofText key)
        = (fields.map Prod.fst).map Double.ofText := by rw [List.map_map]; rfl
      _ = (List.range fields.length).map fun index => Double.ofText (toString index) := by
        rw [keys, List.map_map]
        rfl
      _ = (List.range fields.length).map fun index : ℕ => Double.finite index := by
        refine List.map_congr_left fun index member => ofText_toString ?_
        have below := List.mem_range.mp member
        omega
  rw [read]
  apply List.mergeSort_of_pairwise
  rw [List.pairwise_map]
  refine List.pairwise_lt_range.imp fun {first second} less => ?_
  simp only [Double.notAfter, decide_eq_true_eq]
  exact_mod_cast less.le

/-- An object is taken for a map of bytes exactly if its fields map indexes to bytes. -/
theorem isUintMap_object {fields : List (String × JsValue)}
    (enumerated : EnumeratedKeys (fields.map Prod.fst)) :
    isUintMap (object fields) = true ↔ ∃ data, indexBytes 0 fields = some data := by
  have short : fields.length < 2 ^ 32 := by simpa using enumerated.short
  constructor
  · intro taken
    simp only [isUintMap, ownEntries, Bool.and_eq_true, List.all_eq_true] at taken
    -- Every index below the number of keys is a key with a byte.
    have found : ∀ index < fields.length, ∃ entry ∈ fields, entry.1 = toString index ∧
        entry.2.byteOf.isSome = true := by
      intro index below
      have inside : index < ((fields.map fun (key, _) => Double.ofText key).mergeSort
          Double.notAfter).length := by simpa using below
      have one := taken.2 _ (List.mk_mem_zipIdx_iff_getElem?.mpr (List.getElem?_eq_getElem inside))
      obtain ⟨entry, located, byte⟩ := (Option.any_eq_true _ _).mp one.2
      exact ⟨entry, List.mem_of_find?_eq_some located, by simpa using List.find?_some located, byte⟩
    have keys : fields.map Prod.fst = (List.range fields.length).map toString := by
      have range := keys_eq_range enumerated fun index below => by
        obtain ⟨entry, member, named, -⟩ := found index (by simpa using below)
        exact List.mem_map.mpr ⟨entry, member, named⟩
      simpa using range
    -- The keys are distinct, so every field is the one found under its key.
    have bytes : ∀ entry ∈ fields, entry.2.byteOf.isSome = true := by
      intro entry member
      have listed : entry.1 ∈ (List.range fields.length).map toString :=
        keys ▸ List.mem_map_of_mem member
      obtain ⟨index, below, same⟩ := List.mem_map.mp listed
      obtain ⟨other, inside, named, byte⟩ := found index (List.mem_range.mp below)
      have equal := List.inj_on_of_nodup_map enumerated.nodup inside member (named.trans same)
      rwa [← equal]
    refine ⟨fields.map fun entry => entry.2.byteOf.getD 0, indexBytes_eq_some.mpr ⟨?_, ?_⟩⟩
    · rw [← List.range_eq_range']
      exact keys
    · rw [List.map_map]
      refine List.map_congr_left fun entry member => ?_
      obtain ⟨byte, is⟩ := Option.isSome_iff_exists.mp (bytes entry member)
      simp [is]
  · rintro ⟨data, read⟩
    obtain ⟨keys, values⟩ := indexBytes_eq_some.mp read
    rw [← List.range_eq_range'] at keys
    simp only [isUintMap, ownEntries, sorted_indexes short keys, Bool.and_eq_true,
      Bool.not_eq_true', List.all_eq_true]
    refine ⟨by simp, ?_⟩
    rintro ⟨key, index⟩ member
    obtain ⟨below, listed⟩ := List.getElem?_eq_some_iff.mp
      (List.mk_mem_zipIdx_iff_getElem?.mp member)
    have inside : index < fields.length := by simpa using below
    simp only [List.getElem_map, List.getElem_range] at listed
    refine ⟨by simp [listed], ?_⟩
    -- The field under the index is found, and holds one of the bytes.
    have named : toString index ∈ fields.map Prod.fst := by
      rw [keys]
      exact List.mem_map_of_mem (List.mem_range.mpr inside)
    obtain ⟨entry, held, same⟩ := List.mem_map.mp named
    obtain ⟨other, located⟩ := Option.isSome_iff_exists.mp
      (List.find?_isSome.mpr ⟨entry, held, by simpa using same⟩ :
        (fields.find? fun entry => entry.1 = toString index).isSome = true)
    have byte : other.2.byteOf ∈ data.map some := by
      rw [← values]
      exact List.mem_map_of_mem (List.mem_of_find?_eq_some located)
    obtain ⟨value, -, is⟩ := List.mem_map.mp byte
    show Option.any _ (fields.find? fun entry => decide (entry.1 = toString index)) = true
    rw [located, Option.any_some, ← is]
    rfl

/-- The byte array made of such an object holds these bytes. -/
theorem uint8Array_object {fields : List (String × JsValue)} {data : List UInt8}
    (read : indexBytes 0 fields = some data) : uint8Array (object fields) = bytes data := by
  have values := (indexBytes_eq_some.mp read).2
  have held : fields.map (fun entry => entry.2.byteOf.getD 0) = data := by
    calc fields.map (fun entry => entry.2.byteOf.getD 0)
        = (fields.map fun entry => entry.2.byteOf).map fun byte => byte.getD 0 := by
          rw [List.map_map]
          rfl
      _ = data := by
          rw [values, List.map_map]
          simp [Function.comp_def]
  rw [uint8Array, ownEntries, Option.getD_some, held]

/-- A byte is the integer it is stored as. -/
theorem byteOf_number (byte : UInt8) : byteOf (number (.finite byte.toNat)) = some byte := by
  have small := byte.toNat_lt_size
  simp only [UInt8.size] at small
  have integer : ((byte.toNat : ℚ)).num = byte.toNat := Rat.num_natCast _
  have whole : ((byte.toNat : ℚ)).den = 1 := Rat.den_natCast _
  simp only [byteOf]
  rw [if_pos ⟨whole, by omega, by omega⟩, integer, Int.toNat_natCast, UInt8.ofNat_toNat]

/-- A byte array is left as it is, whether or not it is taken for a map of its bytes. -/
theorem findAndConvert_bytes (data : List UInt8) :
    findAndConvertUintMaps (bytes data) = bytes data := by
  have same : uint8Array (bytes data) = bytes data := by
    simp only [uint8Array, ownEntries, Option.getD_some, indexed, List.map_map, Function.comp_def,
      byteOf_number, bytes.injEq]
    exact List.zipIdx_map_fst 0 data
  unfold findAndConvertUintMaps
  rw [same]
  split <;> rfl

/-- A date without properties of its own becomes a byte array without bytes. -/
theorem findAndConvert_date (milliseconds : Int) :
    findAndConvertUintMaps (date milliseconds none) = bytes [] := by
  have taken : isUintMap (date milliseconds none) = true := by
    simp [isUintMap, ownEntries]
  unfold findAndConvertUintMaps
  rw [taken]
  rfl

/-- A date with nanoseconds is left as it is. -/
theorem findAndConvert_nanoseconds (milliseconds : Int) (count : ℕ) :
    findAndConvertUintMaps (date milliseconds (some count)) = date milliseconds (some count) := by
  have key : Double.ofText "nanoseconds" = .nan := by decide +kernel
  have apart : isUintMap (date milliseconds (some count)) = false := by
    simp [isUintMap, ownEntries, key]
  unfold findAndConvertUintMaps
  rw [apart]
  rfl

/-- The text of bytes in capital letters. -/
theorem toUpperCase_toHex (data : List UInt8) : toUpperCase (toHex data) = hexText data := by
  -- There are sixteen digits to check.
  have digit : ∀ value < 16, (Nat.digitChar value).toUpper =
      "0123456789ABCDEF".toList.getD value '0' := by decide
  rw [toUpperCase, toHex, String.toList_ofList, hexText, List.map_flatMap]
  congr 2
  funext byte
  have small := byte.toNat_lt_size
  simp only [UInt8.size] at small
  simp only [List.map_cons, List.map_nil, digit _ (by omega : byte.toNat / 16 < 16),
    digit _ (by omega : byte.toNat % 16 < 16)]

/-- What a value becomes as a field of an object. -/
def inField (bech32Prefix : String) (value : JsValue) : JsValue :=
  match findAndConvertUintMaps value with
  | bytes data => string (toUpperCase (toHex data))
  | _ => convert bech32Prefix (findAndConvertUintMaps value)

/-- Bytes become a text in an object. -/
theorem inField_bytes {bech32Prefix : String} {value : JsValue} {data : List UInt8}
    (found : findAndConvertUintMaps value = bytes data) :
    inField bech32Prefix value = string (hexText data) := by
  simp only [inField, found, toUpperCase_toHex]

/-- What a value becomes as an item of an array, or on its own. -/
def inArray (bech32Prefix : String) (value : JsValue) : JsValue :=
  convert bech32Prefix (findAndConvertUintMaps value)

/-- A value is converted as it should be exactly when it is regular, and outside of objects only if
it is no byte data itself. -/
def Converted (bech32Prefix : String) (value : JsValue) : Prop :=
  (inField bech32Prefix value = hexed value ↔ regular value = true) ∧
    (inArray bech32Prefix value = hexed value ↔ isByteData value = false ∧ regular value = true)

/-- Numbers and other leaves are left alone. -/
theorem converted_leaf {bech32Prefix : String} {value : JsValue}
    (kept : findAndConvertUintMaps value = value) (noBytes : isByteData value = false)
    (unchanged : convert bech32Prefix value = value) (same : hexed value = value)
    (plain : regular value = true) : Converted bech32Prefix value := by
  have field : inField bech32Prefix value = value := by
    unfold inField
    rw [kept]
    split
    · cases noBytes
    · exact unchanged
  have item : inArray bech32Prefix value = value := by
    rw [inArray, kept, unchanged]
  exact ⟨iff_of_true (field.trans same.symm) plain,
    iff_of_true (item.trans same.symm) ⟨noBytes, plain⟩⟩

/-- A byte array is written only as a field of an object. -/
theorem converted_bytes (bech32Prefix : String) (data : List UInt8) :
    Converted bech32Prefix (bytes data) := by
  refine ⟨iff_of_true ?_ rfl, iff_of_false ?_ ?_⟩
  · rw [inField_bytes (findAndConvert_bytes data), hexed]
  · rw [inArray, findAndConvert_bytes]
    simp [convert, hexed]
  · simp [isByteData]

/-- A date is kept if it has nanoseconds, and replaced by an empty text otherwise. -/
theorem converted_date (bech32Prefix : String) (milliseconds : Int) (nanoseconds : Option ℕ) :
    Converted bech32Prefix (date milliseconds nanoseconds) := by
  cases nanoseconds with
  | none =>
    refine ⟨iff_of_false ?_ (by simp [regular]), iff_of_false ?_ (by simp [regular])⟩
    · simp [inField, findAndConvert_date, hexed]
    · simp [inArray, findAndConvert_date, convert, hexed]
  | some count =>
    exact converted_leaf (findAndConvert_nanoseconds milliseconds count) rfl (by simp [convert])
      (by simp [hexed]) rfl

/-- The fields of a map of bytes are regular. -/
theorem regularFields_of_indexBytes {start : ℕ} {fields : List (String × JsValue)}
    {data : List UInt8} (read : indexBytes start fields = some data) :
    regularFields fields = true := by
  induction fields generalizing start data with
  | nil => rfl
  | cons entry rest ih =>
    obtain ⟨key, value⟩ := entry
    rw [indexBytes] at read
    split at read
    · rename_i same
      simp only [Option.bind_eq_bind, Option.bind_eq_some_iff] at read
      obtain ⟨byte, is, others, later, -⟩ := read
      have number : regular value = true := by
        unfold byteOf at is
        split at is
        · rfl
        · cases is
      have apart : key ≠ "__proto__" := by
        rintro rfl
        have digit := (isDecimal_toString start).2 '_' (by rw [← same]; decide)
        exact absurd digit (by decide)
      simp [regularFields, number, apart, ih later]
    · cases read

/-- An object is converted as it should be if it is not empty and its fields are. -/
theorem converted_object {bech32Prefix : String} {fields : List (String × JsValue)}
    (enumerated : EnumeratedKeys (fields.map Prod.fst))
    (inner : convertFields bech32Prefix (findAndConvertFields fields) = hexedFields fields ↔
      regularFields fields = true) : Converted bech32Prefix (object fields) := by
  cases read : indexBytes 0 fields with
  | some data =>
    -- The object is taken for a map of bytes.
    have taken := (isUintMap_object enumerated).mpr ⟨data, read⟩
    have replaced : findAndConvertUintMaps (object fields) = bytes data := by
      unfold findAndConvertUintMaps
      rw [taken, if_pos rfl, uint8Array_object read]
    cases fields with
    | nil =>
      refine ⟨iff_of_false ?_ (by simp [regular]), iff_of_false ?_ (by simp [regular])⟩
      · simp [inField, replaced, hexed]
      · simp [inArray, replaced, convert, hexed]
    | cons entry rest =>
      have plain : regular (object (entry :: rest)) = true := by
        simp [regular, regularFields_of_indexBytes read]
      have written : hexed (object (entry :: rest)) = string (hexText data) := by
        simp [hexed, read]
      refine ⟨iff_of_true ?_ plain, iff_of_false ?_ ?_⟩
      · rw [inField_bytes replaced, written]
      · rw [inArray, replaced, written]
        simp [convert]
      · simp [isByteData, read]
  | none =>
    have untaken : isUintMap (object fields) = false := by
      rw [← Bool.not_eq_true, isUintMap_object enumerated]
      simp [read]
    have kept : findAndConvertUintMaps (object fields) = object (findAndConvertFields fields) := by
      unfold findAndConvertUintMaps
      rw [untaken]
      rfl
    have some : fields ≠ [] := by
      rintro rfl
      simp [indexBytes] at read
    have written : hexed (object fields) = object (hexedFields fields) := by
      obtain ⟨entry, rest, rfl⟩ := List.exists_cons_of_ne_nil some
      simp [hexed, read]
    have noBytes : isByteData (object fields) = false := by simp [isByteData, read]
    have field : inField bech32Prefix (object fields) = hexed (object fields) ↔
        regular (object fields) = true := by
      rw [inField, kept, written]
      simp [convert, regular, some, inner]
    have item : inArray bech32Prefix (object fields) = inField bech32Prefix (object fields) := by
      rw [inArray, inField, kept]
    refine ⟨field, ?_⟩
    rw [item, field]
    simp [noBytes]

/-- An array is converted as it should be if its items are. -/
theorem converted_array {bech32Prefix : String} {items : List JsValue}
    (inner : convertItems bech32Prefix (findAndConvertItems items) = hexedItems items ↔
      regularItems items = true) : Converted bech32Prefix (array items) := by
  have kept : findAndConvertUintMaps (array items) = array (findAndConvertItems items) := rfl
  constructor
  · rw [inField, kept]
    simp [convert, hexed, regular, inner]
  · rw [inArray, kept]
    simp [convert, hexed, regular, inner, isByteData]

/-- Converting fields adds none. -/
theorem length_convertFields (bech32Prefix : String) (fields : List (String × JsValue)) :
    (convertFields bech32Prefix (findAndConvertFields fields)).length ≤ fields.length := by
  induction fields with
  | nil => simp [findAndConvertFields, convertFields]
  | cons entry rest ih =>
    obtain ⟨key, value⟩ := entry
    simp only [findAndConvertFields, convertFields, assignField, List.length_cons]
    split
    · omega
    · rw [List.length_cons]
      omega

/-- Every field of an object keeps its place when byte data is written. -/
theorem length_hexedFields (fields : List (String × JsValue)) :
    (hexedFields fields).length = fields.length := by
  induction fields with
  | nil => rfl
  | cons entry rest ih => simp [hexedFields, ih]

mutual

/-- Every value of a tree is converted as it should be exactly when it is regular. -/
theorem converted (bech32Prefix : String) : ∀ {value : JsValue}, WellFormed value →
    Converted bech32Prefix value
  | undefined, _ => converted_leaf rfl rfl (by simp [convert]) (by simp [hexed]) rfl
  | null, _ => converted_leaf rfl rfl (by simp [convert]) (by simp [hexed]) rfl
  | bool _, _ => converted_leaf rfl rfl (by simp [convert]) (by simp [hexed]) rfl
  | number _, _ => converted_leaf rfl rfl (by simp [convert]) (by simp [hexed]) rfl
  | bigint _, _ => converted_leaf rfl rfl (by simp [convert]) (by simp [hexed]) rfl
  | string _, _ => converted_leaf rfl rfl (by simp [convert]) (by simp [hexed]) rfl
  | date milliseconds nanoseconds, _ => converted_date bech32Prefix milliseconds nanoseconds
  | bytes data, _ => converted_bytes bech32Prefix data
  | array items, formed => converted_array (convertedItems bech32Prefix formed)
  | object fields, formed => converted_object formed.1 (convertedFields bech32Prefix formed.2)

/-- The items of an array are converted as they should be exactly when they are regular. -/
theorem convertedItems (bech32Prefix : String) : ∀ {items : List JsValue}, WellFormedItems items →
    (convertItems bech32Prefix (findAndConvertItems items) = hexedItems items ↔
      regularItems items = true)
  | [], _ => iff_of_true rfl rfl
  | item :: rest, formed => by
    have first := (converted bech32Prefix formed.1).2
    have others := convertedItems bech32Prefix formed.2
    rw [inArray] at first
    simp only [findAndConvertItems, convertItems, hexedItems, List.cons.injEq, first, others,
      regularItems, Bool.and_eq_true, Bool.not_eq_true']

/-- The fields of an object are converted as they should be exactly when they are regular. -/
theorem convertedFields (bech32Prefix : String) : ∀ {fields : List (String × JsValue)},
    WellFormedFields fields →
    (convertFields bech32Prefix (findAndConvertFields fields) = hexedFields fields ↔
      regularFields fields = true)
  | [], _ => iff_of_true rfl rfl
  | (key, value) :: rest, formed => by
    have first := (converted bech32Prefix formed.1).1
    have others := convertedFields bech32Prefix formed.2
    by_cases prototype : key = "__proto__"
    · -- A field named like the prototype is lost.
      have fewer := length_convertFields bech32Prefix rest
      refine iff_of_false (fun same => ?_) (by simp [regularFields, prototype])
      have lengths := congrArg List.length same
      simp only [findAndConvertFields, convertFields, assignField, prototype, if_true, hexedFields,
        List.length_cons, length_hexedFields] at lengths
      omega
    · have assigned : convertFields bech32Prefix (findAndConvertFields ((key, value) :: rest)) =
          (key, inField bech32Prefix value) ::
            convertFields bech32Prefix (findAndConvertFields rest) := by
        simp only [findAndConvertFields, convertFields, assignField, prototype, if_false]
        rfl
      rw [assigned]
      simp only [hexedFields, List.cons.injEq, Prod.mk.injEq, true_and, first, others,
        regularFields, Bool.and_eq_true]
      simp [prototype]

end

/-- Writing byte data makes no new bytes. -/
theorem byteOf_hexed {value : JsValue} {byte : UInt8} (read : (hexed value).byteOf = some byte) :
    value.byteOf = some byte := by
  cases value with
  | object fields =>
    rw [hexed.eq_def] at read
    simp only at read
    split at read <;> simp [byteOf] at read
  | number value => simpa [hexed] using read
  | _ => simp [hexed, byteOf] at read

/-- Fields that map indexes to bytes after byte data was written did so before. -/
theorem indexBytes_hexed {start : ℕ} {fields : List (String × JsValue)} {data : List UInt8}
    (read : indexBytes start (hexedFields fields) = some data) :
    indexBytes start fields = some data := by
  induction fields generalizing start data with
  | nil => exact read
  | cons entry rest ih =>
    obtain ⟨key, value⟩ := entry
    rw [hexedFields, indexBytes] at read
    rw [indexBytes]
    split at read
    · rename_i same
      simp only [Option.bind_eq_bind, Option.bind_eq_some_iff] at read
      obtain ⟨byte, is, others, later, result⟩ := read
      rw [if_pos same, byteOf_hexed is, ih later]
      exact result
    · cases read

mutual

/-- No byte data is left at any depth of a tree in which it was written. -/
theorem hexed_byteFree : ∀ value : JsValue, byteFree (hexed value) = true
  | undefined => by simp [hexed, byteFree, isByteData]
  | null => by simp [hexed, byteFree, isByteData]
  | bool _ => by simp [hexed, byteFree, isByteData]
  | number _ => by simp [hexed, byteFree, isByteData]
  | bigint _ => by simp [hexed, byteFree, isByteData]
  | string _ => by simp [hexed, byteFree, isByteData]
  | date _ _ => by simp [hexed, byteFree, isByteData]
  | bytes _ => by simp [hexed, byteFree, isByteData]
  | array items => by
    rw [hexed, byteFree]
    exact hexedItems_byteFree items
  | object [] => by simp [hexed, hexedFields, byteFree, byteFreeFields, isByteData, indexBytes]
  | object (entry :: rest) => by
    have inner := hexedFields_byteFree (entry :: rest)
    cases read : indexBytes 0 (entry :: rest) with
    | some data => simp [hexed, read, byteFree, isByteData]
    | none =>
      -- The written fields are no map of bytes, since the fields were none.
      have still : indexBytes 0 (hexedFields (entry :: rest)) = none := by
        cases found : indexBytes 0 (hexedFields (entry :: rest)) with
        | none => rfl
        | some data =>
          have before := indexBytes_hexed found
          rw [read] at before
          cases before
      have written : hexed (object (entry :: rest)) = object (hexedFields (entry :: rest)) := by
        simp [hexed, read]
      rw [written, byteFree, isByteData, still, inner]
      simp

/-- None is left in the items of an array. -/
theorem hexedItems_byteFree : ∀ items : List JsValue, byteFreeItems (hexedItems items) = true
  | [] => rfl
  | item :: rest => by
    simp [hexedItems, byteFreeItems, hexed_byteFree item, hexedItems_byteFree rest]

/-- None is left in the fields of an object. -/
theorem hexedFields_byteFree : ∀ fields : List (String × JsValue),
    byteFreeFields (hexedFields fields) = true
  | [] => rfl
  | (_, value) :: rest => by
    simp [hexedFields, byteFreeFields, hexed_byteFree value, hexedFields_byteFree rest]

end

/-- The result of a conversion: all byte data is in hexadecimal, none is left, and nothing else
changed. -/
structure ConvertsBytes (tree result : JsValue) : Prop where
  exact : result = hexed tree
  free : byteFree result = true

/-- A tree is converted as it should be exactly if it is regular and no byte data itself. -/
theorem processBlockJson_converts_iff (bech32Prefix : String) {tree : JsValue}
    (formed : WellFormed tree) :
    ConvertsBytes tree (processBlockJson tree bech32Prefix) ↔
      isByteData tree = false ∧ regular tree = true := by
  rw [← (converted bech32Prefix formed).2]
  constructor
  · intro converts
    exact converts.exact
  · intro same
    refine ⟨same, ?_⟩
    -- What is left of byte data in the result would be left in the tree it equals.
    have result : processBlockJson tree bech32Prefix = hexed tree := same
    rw [result]
    exact hexed_byteFree tree

/-- A name with a character that is no digit is no index. -/
theorem ne_toString {name : String} {char : Char} (member : char ∈ name.toList)
    (noDigit : char.isDigit = false) (index : ℕ) : name ≠ toString index := by
  rintro rfl
  rw [(isDecimal_toString index).2 char member] at noDigit
  cases noDigit

/-- Names that are no indexes are enumerated in any order. -/
theorem enumeratedKeys_names {names : List String} (nodup : names.Nodup)
    (short : names.length < 2 ^ 32)
    (named : (names.all fun name => name.toList.any fun char => !char.isDigit) = true) :
    EnumeratedKeys names where
  nodup := nodup
  short := short
  ordered := ⟨[], names, rfl, List.Pairwise.nil, fun name member index _ => by
    obtain ⟨char, inside, noDigit⟩ := List.any_eq_true.mp (List.all_eq_true.mp named name member)
    exact ne_toString inside (by simpa using noDigit) index⟩

/-- A block with one header field and one transaction list. -/
def sampleBlock (hash : JsValue) (txs : JsValue) : JsValue :=
  object [("header", object [("appHash", hash)]), ("block", object [("txs", txs)])]

/-- Its keys are names. -/
theorem sampleBlock_formed {hash txs : JsValue} (hashFormed : WellFormed hash)
    (txsFormed : WellFormed txs) : WellFormed (sampleBlock hash txs) := by
  have outer : EnumeratedKeys ["header", "block"] :=
    enumeratedKeys_names (by decide) (by decide) (by decide)
  have header : EnumeratedKeys ["appHash"] :=
    enumeratedKeys_names (by decide) (by decide) (by decide)
  have block : EnumeratedKeys ["txs"] :=
    enumeratedKeys_names (by decide) (by decide) (by decide)
  simp only [sampleBlock, WellFormed, WellFormedFields]
  exact ⟨outer, ⟨header, hashFormed, trivial⟩, ⟨block, txsFormed, trivial⟩, trivial⟩

/-- A hash in a header is converted beside an empty list of transactions. -/
theorem processBlockJson_converts_iff_hash : WellFormed (sampleBlock (bytes [1, 171]) (array [])) ∧
    ConvertsBytes (sampleBlock (bytes [1, 171]) (array []))
      (processBlockJson (sampleBlock (bytes [1, 171]) (array [])) "pokt") := by
  have formed : WellFormed (sampleBlock (bytes [1, 171]) (array [])) :=
    sampleBlock_formed (by simp [WellFormed]) (by simp [WellFormed, WellFormedItems])
  exact ⟨formed, (processBlockJson_converts_iff "pokt" formed).mpr ⟨rfl, rfl⟩⟩

/-- The transactions of a block are byte arrays in an array, and are left as they are. -/
theorem processBlockJson_leaves_bytes : ¬∀ tree : JsValue, WellFormed tree →
    ConvertsBytes tree (processBlockJson tree "pokt") := by
  intro all
  have formed : WellFormed (sampleBlock (bytes [1, 171]) (array [bytes [10, 32]])) :=
    sampleBlock_formed (by simp [WellFormed]) (by simp [WellFormed, WellFormedItems])
  have regular := ((converted "pokt" formed).2.mp (all _ formed).exact).2
  cases regular

end JsValue

end Pocketdex
