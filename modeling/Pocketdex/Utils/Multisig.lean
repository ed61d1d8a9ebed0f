import Pocketdex.Base.Except
import Mathlib.Data.Nat.Notation

/-! The signers of a multisig transaction, read from the bit array of its signature. -/

namespace Pocketdex

/-- A decoded public key of any type, with what a multisig key says of its members. -/
structure DecodedPubkey where
  type : String
  pubkeys : List String
  threshold : ℕ
  deriving DecidableEq, Repr

/-- What the encodings and keys of CosmJS give: keys are built, and turned into addresses. -/
structure CosmJs (Pubkey : Type) where
  fromBase64 : String → Except String (List UInt8)
  toBase64 : List UInt8 → String
  encodeSecp256k1Pubkey : List UInt8 → Except String Pubkey
  createMultisigThresholdPubkey : List Pubkey → ℕ → Except String Pubkey
  encodeAminoPubkey : Pubkey → List UInt8
  pubkeyToAddress : Pubkey → String → String
  decodePubkey : String → List UInt8 → Except String (Option DecodedPubkey)

/-- The signers of a multisig, with the key they share. -/
structure MultisigInfo where
  fromAddress : String
  allSignerAddresses : List String
  signedSignerAddresses : List (Option String)
  signerIndices : List ℕ
  threshold : ℕ
  multisigPubKey : String
  extraBitsStored : ℕ
  bitarrayElems : String
  deriving DecidableEq, Repr

/-- A bit of a byte array, where the first bit is the highest one of the first byte. A byte that is
missing has no bit set. -/
def bitAt (bitArray : List UInt8) (i : ℕ) : Bool :=
  let byteIndex := i / 8
  let bitIndex := i % 8
  let byte := bitArray.getD byteIndex 0
  (byte >>> UInt8.ofNat (7 - bitIndex)) &&& 1 = 1

section

variable {Pubkey : Type} (cosmJs : CosmJs Pubkey)

/-- The indices of the set bits among as many as are said to be stored. -/
def decodeBitArray (elemsBase64 : String) (extraBitsStored : ℕ) : Except String (List ℕ) := do
  let bitArray ← cosmJs.fromBase64 elemsBase64
  return (List.range extraBitsStored).filter (bitAt bitArray)

/-- The key of one member. -/
def singlePubkey (b64 : String) : Except String Pubkey := do
  let bytes ← cosmJs.fromBase64 b64
  cosmJs.encodeSecp256k1Pubkey bytes

/-- The address and the key of a multisig. -/
def getMultiSignPubKeyAddress (pubkeysBase64 : List String) (threshold : ℕ) (addressPrefix : String) :
    Except String (String × String) := do
  let pubkeyObjs ← pubkeysBase64.mapM (singlePubkey cosmJs)
  let multisigPubkey ← cosmJs.createMultisigThresholdPubkey pubkeyObjs threshold
  let aminoMultsigPubKey := cosmJs.encodeAminoPubkey multisigPubkey
  return (cosmJs.pubkeyToAddress multisigPubkey addressPrefix, cosmJs.toBase64 aminoMultsigPubKey)

/-- The signers among the members of a multisig, by the bits of its signature. -/
def parseMultisigSignerInfo (pubkeysBase64 : List String) (threshold : ℕ) (bitarrayElems : String)
    (extraBitsStored : ℕ) (addressPrefix : String) : Except String MultisigInfo := do
  let pubkeyObjs ← pubkeysBase64.mapM (singlePubkey cosmJs)
  let (fromAddress, multisigPubKey) ←
    getMultiSignPubKeyAddress cosmJs pubkeysBase64 threshold addressPrefix
  let allSignerAddresses := pubkeyObjs.map fun pk => cosmJs.pubkeyToAddress pk addressPrefix
  let signerIndices ← decodeBitArray cosmJs bitarrayElems extraBitsStored
  let signedSignerAddresses := signerIndices.map fun i => allSignerAddresses[i]?
  return {
    fromAddress, allSignerAddresses, signedSignerAddresses, signerIndices, threshold,
    multisigPubKey, bitarrayElems, extraBitsStored }

/-- The type of a multisig key. -/
def MultisigLegacyAminoPubKey : String := "/cosmos.crypto.multisig.LegacyAminoPubKey"

/-- The threshold and the members of a multisig key. -/
def extractThresholdAndPubkeysFromMultisig (pubkeyBytes : List UInt8) :
    Except String (ℕ × List String) := do
  match ← cosmJs.decodePubkey MultisigLegacyAminoPubKey pubkeyBytes with
  | some decoded =>
    if decoded.type = "tendermint/PubKeyMultisigThreshold" then
      return (decoded.threshold, decoded.pubkeys)
    else .error "Not a valid multisig pubkey"
  | none => .error "Not a valid multisig pubkey"

/-- A compact bit array: its bytes, and how many bits of the last byte are in use. -/
structure CompactBitArray where
  extraBitsStored : ℕ
  elems : List UInt8
  deriving DecidableEq, Repr

/-- A key as a transaction lists it, with the bytes of the key. -/
structure AnyPubkey where
  typeUrl : String
  value : List UInt8
  deriving DecidableEq, Repr

/-- The signer of a transaction, with the bit array of a multisig signature. -/
structure SignerInfo where
  publicKey : Option AnyPubkey
  bitarray : Option CompactBitArray
  deriving DecidableEq, Repr

/-- Whether a signer is a multisig. -/
def isMulti (signerInfo : SignerInfo) : Except String Bool :=
  match signerInfo.publicKey with
  | none => .error "missing signerInfos public key"
  | some publicKey => .ok (publicKey.typeUrl = MultisigLegacyAminoPubKey)

/-- The signers of a multisig transaction. -/
def getMultisigInfo (signerInfo : SignerInfo) : Except String MultisigInfo := do
  let multi ← isMulti signerInfo
  if multi then
    match signerInfo.publicKey with
    | none => .error "[getMultisigInfo] missing signerInfos public key"
    | some publicKey =>
      let (threshold, pubkeysBase64) ← extractThresholdAndPubkeysFromMultisig cosmJs publicKey.value
      match signerInfo.bitarray with
      | none => .error "Cannot read properties of undefined"
      | some bitarray =>
        parseMultisigSignerInfo cosmJs pubkeysBase64 threshold (cosmJs.toBase64 bitarray.elems)
          bitarray.extraBitsStored "pokt"
  else .error "[getMultisigInfo] signerInfo is not a multisig"

end

end Pocketdex
