import Pocketdex.Pocket.Validators
import Pocketdex.Utils.DoubleText
import Pocketdex.Utils.Texts

/-! Flat objects of scalars, and how a stored one is compared with an incoming one. -/

namespace Pocketdex

/-- A finite number: a value that is rounded to itself. -/
structure FiniteDouble where
  value : ℚ
  double : Double.ofRat value = .finite value

/-- A value of a flat object. -/
inductive Scalar where
  | undefined
  | null
  | bool (value : Bool)
  | number (double : FiniteDouble)
  | string (text : String)

namespace Scalar

/-- A value inside an array, where undefined is written as null. -/
def json : Scalar → Json
  | undefined => .null
  | null => .null
  | bool value => .bool value
  | number double => .number (String.ofList (Double.numberText double.value))
  | string text => .string text

/-- Whether a value is something else than null, undefined and the empty text. -/
def isFilled : Scalar → Bool
  | undefined => false
  | null => false
  | bool _ => true
  | number _ => true
  | string text => text ≠ ""

end Scalar

/-- Whether a text is a letter, an underscore or a dollar, and more of these and of digits. -/
def isIdentifier (text : String) : Bool :=
  match text.toList with
  | [] => false
  | first :: rest =>
    (isLatinLetter first || first = '_' || first = '$') &&
      rest.all fun char => isLatinLetter char || char.isDigit || char = '_' || char = '$'

/-- An object of scalars under identifiers, in insertion order. -/
structure FlatObject where
  fields : Dict String Scalar
  identifiers : ∀ key ∈ fields.keys, isIdentifier key = true

namespace FlatObject

/-- The entries that hold something. -/
def filledEntries (object : FlatObject) : List (String × Scalar) :=
  object.fields.entries.filter fun entry => entry.2.isFilled

/-- These entries in the order of their keys. -/
def sortedEntries (object : FlatObject) : List (String × Scalar) :=
  object.filledEntries.mergeSort fun one other => localeCompare one.1 other.1

/-- An object as a text that hides the order of its keys and its empty entries. -/
def canonical : Option FlatObject → String
  | none => "null"
  | some object =>
    stringify (.array (object.sortedEntries.map fun (key, value) =>
      .array [.string key, value.json]))

/-- Whether two objects differ at most in the order of their keys and in empty entries. -/
def jsonFieldEquals (first second : Option FlatObject) : Bool := canonical first = canonical second

/-- Whether an object holds something under a key. -/
def HasFilled (object : FlatObject) (key : String) : Prop :=
  ∃ value, object.fields.get key = some value ∧ value.isFilled = true

/-- Two objects hold something under the same keys, and the same values under these. -/
structure SameFilled (first second : FlatObject) : Prop where
  keys : ∀ key, first.HasFilled key ↔ second.HasFilled key
  values : ∀ key, first.HasFilled key → first.fields.get key = second.fields.get key

end FlatObject

end Pocketdex
