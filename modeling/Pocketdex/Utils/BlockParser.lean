import Pocketdex.Base.JsonText
import Pocketdex.Utils.Double

/-! Byte arrays of a block are written in hexadecimal. -/

namespace Pocketdex

/-- A value of the runtime, as far as blocks are made of them. A date may carry the nanoseconds the
node reports, as a property of its own. -/
inductive JsValue where
  | undefined
  | null
  | bool (value : Bool)
  | number (value : Double)
  | bigint (value : Int)
  | string (text : String)
  | date (milliseconds : Int) (nanoseconds : Option ℕ)
  | bytes (data : List UInt8)
  | array (items : List JsValue)
  | object (fields : List (String × JsValue))

namespace JsValue

/-- The properties a byte array has: its bytes under their indexes. -/
def indexed (bytes : List UInt8) : List (String × JsValue) :=
  bytes.zipIdx.map fun (byte, index) => (toString index, number (.finite byte.toNat))

/-- The own properties of a value that is an object but no array, as they are enumerated. -/
def ownEntries : JsValue → Option (List (String × JsValue))
  | date _ nanoseconds => some (nanoseconds.toList.map fun count =>
      ("nanoseconds", number (.finite count)))
  | bytes data => some (indexed data)
  | object fields => some fields
  | _ => none

/-- The byte a value is, if it is an integer from 0 to 255. -/
def byteOf : JsValue → Option UInt8
  | number (.finite value) =>
    if value.den = 1 ∧ 0 ≤ value.num ∧ value.num ≤ 255 then some (UInt8.ofNat value.num.toNat)
    else none
  | _ => none

end JsValue

/-- Whether one number is not sorted after another one. -/
def Double.notAfter : Double → Double → Bool
  | finite first, finite second => first ≤ second
  | infinity true, _ => true
  | _, infinity false => true
  | _, _ => false

/-- Whether the keys of an object are the indexes from zero on, with a byte under each of them. -/
def isUintMap (obj : JsValue) : Bool :=
  match obj.ownEntries with
  | none => false
  | some entries =>
    let keys := (entries.map fun (key, _) => Double.ofText key).mergeSort Double.notAfter
    !keys.any (· = .nan) && keys.zipIdx.all fun (key, index) =>
      key = .finite index &&
        ((entries.find? fun entry => entry.1 = toString index).any fun entry =>
          entry.2.byteOf.isSome)

/-- The byte array made of the values of an object. -/
def uint8Array (obj : JsValue) : JsValue :=
  .bytes ((obj.ownEntries.getD []).map fun entry => entry.2.byteOf.getD 0)

mutual

/-- Byte arrays stand in for the objects that map indexes to bytes. -/
def findAndConvertUintMaps (obj : JsValue) : JsValue :=
  if isUintMap obj then uint8Array obj
  else match obj with
    | .array items => .array (findAndConvertItems items)
    | .object fields => .object (findAndConvertFields fields)
    | other => other

/-- The same for the items of an array. -/
def findAndConvertItems : List JsValue → List JsValue
  | [] => []
  | item :: rest => findAndConvertUintMaps item :: findAndConvertItems rest

/-- And for the fields of an object. -/
def findAndConvertFields : List (String × JsValue) → List (String × JsValue)
  | [] => []
  | (key, value) :: rest => (key, findAndConvertUintMaps value) :: findAndConvertFields rest

end

/-- A text in capital letters. -/
def toUpperCase (text : String) : String := String.ofList (text.toList.map Char.toUpper)

/-- Assigning a field in front of others: the prototype of an object is no field of it. -/
def assignField (key : String) (value : JsValue) (fields : List (String × JsValue)) :
    List (String × JsValue) :=
  if key = "__proto__" then fields else (key, value) :: fields

mutual

/-- Byte arrays that are fields of an object are written in hexadecimal. -/
def convert (_bech32Prefix : String) : JsValue → JsValue
  | .array items => .array (convertItems _bech32Prefix items)
  | .object fields => .object (convertFields _bech32Prefix fields)
  | other => other

/-- The items of an array are converted one by one. -/
def convertItems (_bech32Prefix : String) : List JsValue → List JsValue
  | [] => []
  | item :: rest => convert _bech32Prefix item :: convertItems _bech32Prefix rest

/-- The fields of an object are converted one by one. -/
def convertFields (_bech32Prefix : String) : List (String × JsValue) → List (String × JsValue)
  | [] => []
  | (key, value) :: rest =>
    let converted := match value with
      | .bytes data => .string (toUpperCase (toHex data))
      | _ => convert _bech32Prefix value
    assignField key converted (convertFields _bech32Prefix rest)

end

/-- Both passes over a block, one after the other. -/
def processBlockJson (jsonObj : JsValue) (bech32Prefix : String) : JsValue :=
  convert bech32Prefix (findAndConvertUintMaps jsonObj)

end Pocketdex
