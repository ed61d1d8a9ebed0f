import Pocketdex.Utils.Multisig
import Mathlib.Data.List.Basic
import Mathlib.Data.List.Range

/-! Which multisig signatures are read with all of their signers. -/

namespace Pocketdex

/-- The indices of the members that signed, in increasing order. -/
def memberIndices (members : List Bool) : List ℕ :=
  (List.range members.length).filter fun i => members.getD i false

/-- The byte of eight bits, the highest one first. -/
def packByte (bits : List Bool) : UInt8 :=
  bits.foldl (fun byte bit => 2 * byte + if bit then 1 else 0) 0

/-- The compact bit array of the members that signed: the last byte counts its bits only, and none
when it is full. -/
def compactBitArray (members : List Bool) : CompactBitArray where
  extraBitsStored := members.length % 8
  elems := (List.range ((members.length + 7) / 8)).map fun byteIndex =>
    packByte ((List.range 8).map fun bitIndex => members.getD (byteIndex * 8 + bitIndex) false)

/-- The address of a member key. -/
def memberAddress {Pubkey : Type} (cosmJs : CosmJs Pubkey) (addressPrefix b64 : String) :
    Except String String :=
  (singlePubkey cosmJs b64).map fun pk => cosmJs.pubkeyToAddress pk addressPrefix

/-- The addresses of the members that signed. -/
def memberAddresses {Pubkey : Type} (cosmJs : CosmJs Pubkey) (addressPrefix : String)
    (pubkeysBase64 : List String) (members : List Bool) : List (Option String) :=
  (memberIndices members).map fun i =>
    pubkeysBase64[i]?.bind fun b64 => (memberAddress cosmJs addressPrefix b64).toOption

/-- Each of the eight bits of a byte is read where it was put. -/
theorem packByte_bit (b0 b1 b2 b3 b4 b5 b6 b7 : Bool) (bitIndex : Fin 8) :
    decide ((packByte [b0, b1, b2, b3, b4, b5, b6, b7] >>> UInt8.ofNat (7 - bitIndex.val)) &&& 1 = 1) =
      [b0, b1, b2, b3, b4, b5, b6, b7].getD bitIndex.val false := by
  revert b0 b1 b2 b3 b4 b5 b6 b7 bitIndex
  decide +kernel

/-- Within the members, the bits of the compact array are those that signed. -/
theorem bitAt_compactBitArray (members : List Bool) {i : ℕ} (inside : i < members.length) :
    bitAt (compactBitArray members).elems i = members.getD i false := by
  have byteInside : i / 8 < (members.length + 7) / 8 := by omega
  have stored : (compactBitArray members).elems.getD (i / 8) 0 =
      packByte ((List.range 8).map fun bitIndex => members.getD (i / 8 * 8 + bitIndex) false) := by
    simp [compactBitArray, List.getD, byteInside]
  have eight : (List.range 8).map (fun bitIndex => members.getD (i / 8 * 8 + bitIndex) false) =
      [members.getD (i / 8 * 8 + 0) false, members.getD (i / 8 * 8 + 1) false,
        members.getD (i / 8 * 8 + 2) false, members.getD (i / 8 * 8 + 3) false,
        members.getD (i / 8 * 8 + 4) false, members.getD (i / 8 * 8 + 5) false,
        members.getD (i / 8 * 8 + 6) false, members.getD (i / 8 * 8 + 7) false] := rfl
  have small : i % 8 < 8 := Nat.mod_lt _ (by decide)
  unfold bitAt
  simp only
  rw [stored, eight, packByte_bit _ _ _ _ _ _ _ _ ⟨i % 8, small⟩, ← eight]
  -- The place of a bit is its byte and its index in it.
  have place : i / 8 * 8 + i % 8 = i := by omega
  simp [List.getD, small, place]

/-- As many bits as are said to be stored are read, and those are the first ones. -/
theorem decodeBitArray_compact {Pubkey : Type} {cosmJs : CosmJs Pubkey} {members : List Bool}
    {elemsBase64 : String}
    (encoded : cosmJs.fromBase64 elemsBase64 = .ok (compactBitArray members).elems) :
    decodeBitArray cosmJs elemsBase64 (compactBitArray members).extraBitsStored =
      .ok ((List.range (members.length % 8)).filter fun i => members.getD i false) := by
  have fewer : members.length % 8 ≤ members.length := Nat.mod_le _ _
  unfold decodeBitArray
  rw [encoded]
  show Except.ok _ = Except.ok _
  congr 1
  refine List.filter_congr fun i member => ?_
  exact bitAt_compactBitArray members (Nat.lt_of_lt_of_le (List.mem_range.mp member) fewer)

/-- The first indices are all of them just when no member after them signed. -/
theorem firstIndices_iff (members : List Bool) {count : ℕ} (fewer : count ≤ members.length) :
    (List.range count).filter (fun i => members.getD i false) = memberIndices members ↔
      ∀ i, members[i]? = some true → i < count := by
  have split : List.range members.length =
      List.range count ++ (List.range (members.length - count)).map (count + ·) := by
    rw [← List.range_add, Nat.add_sub_cancel' fewer]
  unfold memberIndices
  rw [split, List.filter_append, List.self_eq_append_right, List.filter_eq_nil_iff]
  constructor
  · intro none i signed
    by_contra after
    have inside : i < members.length := (List.getElem?_eq_some_iff.mp signed).1
    have listed : i ∈ (List.range (members.length - count)).map (count + ·) :=
      List.mem_map.mpr ⟨i - count, List.mem_range.mpr (by omega), by omega⟩
    exact none i listed (by simp [List.getD, signed])
  · intro all i listed signed
    obtain ⟨offset, -, rfl⟩ := List.mem_map.mp listed
    have found : members[count + offset]? = some true := by
      cases known : members[count + offset]? with
      | none => simp [List.getD, known] at signed
      | some flag => simpa [List.getD, known] using signed
    have := all _ found
    omega

/-- The addresses of a parsed multisig are those of its keys. -/
theorem allSignerAddresses_get {Pubkey : Type} {cosmJs : CosmJs Pubkey} {addressPrefix : String}
    {pubkeysBase64 : List String} {pubkeyObjs : List Pubkey}
    (built : pubkeysBase64.mapM (singlePubkey cosmJs) = .ok pubkeyObjs) (i : ℕ) :
    (pubkeyObjs.map fun pk => cosmJs.pubkeyToAddress pk addressPrefix)[i]? =
      pubkeysBase64[i]?.bind fun b64 => (memberAddress cosmJs addressPrefix b64).toOption := by
  have related := mapM_ok built
  clear built
  induction related generalizing i with
  | nil => rfl
  | cons one _ ih =>
    cases i with
    | zero => simp [memberAddress, one, Except.map, Except.toOption]
    | succ i => simpa using ih i

/-- A multisig signature is read with all of its signers just when every member that signed is among
the first ones, as many as there are bits in a last byte that is not full. -/
theorem multisigSigners_iff {Pubkey : Type} {cosmJs : CosmJs Pubkey}
    {pubkeysBase64 : List String} {members : List Bool} {threshold : ℕ} {addressPrefix : String}
    {info : MultisigInfo}
    (roundTrip : cosmJs.fromBase64 (cosmJs.toBase64 (compactBitArray members).elems) =
      .ok (compactBitArray members).elems)
    (parsed : parseMultisigSignerInfo cosmJs pubkeysBase64 threshold
      (cosmJs.toBase64 (compactBitArray members).elems) (compactBitArray members).extraBitsStored
      addressPrefix = .ok info) :
    (decodeBitArray cosmJs (cosmJs.toBase64 (compactBitArray members).elems)
        (compactBitArray members).extraBitsStored = .ok (memberIndices members) ∧
      info.signerIndices = memberIndices members ∧
      info.signedSignerAddresses =
        memberAddresses cosmJs addressPrefix pubkeysBase64 members) ↔
      ∀ i, members[i]? = some true → i < members.length % 8 := by
  have fewer : members.length % 8 ≤ members.length := Nat.mod_le _ _
  have decoded := decodeBitArray_compact roundTrip
  -- A parsed signature holds what is decoded.
  unfold parseMultisigSignerInfo at parsed
  obtain ⟨pubkeyObjs, built, parsed⟩ := exceptBind_ok parsed
  obtain ⟨⟨fromAddress, multisigPubKey⟩, -, parsed⟩ := exceptBind_ok parsed
  obtain ⟨indices, read, parsed⟩ := exceptBind_ok parsed
  rw [decoded] at read
  cases read
  cases parsed
  rw [decoded, Except.ok.injEq, ← firstIndices_iff members fewer]
  simp only
  constructor
  · exact fun exactly => exactly.1
  · intro same
    refine ⟨same, same, ?_⟩
    rw [same]
    exact List.map_congr_left fun i _ => allSignerAddresses_get built i

/-- The digits of base64. -/
def base64Digits : List Char :=
  "ABCDEFGHIJKLMNOPQRSTUVWXYZabcdefghijklmnopqrstuvwxyz0123456789+/".toList

/-- The digit of the six lowest bits. -/
def base64Digit (bits : ℕ) : Char := base64Digits.getD (bits % 64) 'A'

/-- Three bytes are four digits, and a shorter end is padded. -/
def base64Text : List UInt8 → List Char
  | first :: second :: third :: rest =>
    let bits := first.toNat * 65536 + second.toNat * 256 + third.toNat
    base64Digit (bits / 262144) :: base64Digit (bits / 4096) :: base64Digit (bits / 64) ::
      base64Digit bits :: base64Text rest
  | [first, second] =>
    let bits := first.toNat * 65536 + second.toNat * 256
    [base64Digit (bits / 262144), base64Digit (bits / 4096), base64Digit (bits / 64), '=']
  | [first] =>
    let bits := first.toNat * 65536
    [base64Digit (bits / 262144), base64Digit (bits / 4096), '=', '=']
  | [] => []

/-- The bytes of a padded text. -/
def base64Bytes : List Char → List UInt8
  | first :: second :: third :: fourth :: rest =>
    let bits := base64Digits.idxOf first * 262144 + base64Digits.idxOf second * 4096 +
      base64Digits.idxOf third % 64 * 64 + base64Digits.idxOf fourth % 64
    let bytes := [UInt8.ofNat (bits / 65536), UInt8.ofNat (bits / 256), UInt8.ofNat bits]
    bytes.take (if third = '=' then 1 else if fourth = '=' then 2 else 3) ++ base64Bytes rest
  | _ => []

/-- A compressed key whose bytes end in a number. -/
def plainPubkey (last : UInt8) : List UInt8 := 2 :: List.replicate 31 0 ++ [last]

/-- Keys as their amino bytes, with the addresses of three plain keys and of their multisig. -/
def plainCosmJs : CosmJs (List UInt8) where
  fromBase64 text := .ok (base64Bytes text.toList)
  toBase64 bytes := String.ofList (base64Text bytes)
  encodeSecp256k1Pubkey bytes :=
    if bytes.length = 33 ∧ bytes.head? ∈ [some 2, some 3] then
      .ok ([0xeb, 0x5a, 0xe9, 0x87, 0x21] ++ bytes)
    else .error "Public key must be compressed secp256k1"
  createMultisigThresholdPubkey pubkeys threshold :=
    if pubkeys.length < threshold then .error "Threshold exceeds the number of keys"
    else .ok ([0x22, 0xc1, 0xf7, 0xe2, 0x08, UInt8.ofNat threshold] ++
      pubkeys.flatMap fun pubkey => [0x12, UInt8.ofNat pubkey.length] ++ pubkey)
  encodeAminoPubkey pubkey := pubkey
  pubkeyToAddress pubkey _ :=
    if pubkey.length = 38 then
      match pubkey.getLast? with
      | some 0 => "pokt1xcjufgh2jarkp2qkx68azh08w9v5gah8lf63nl"
      | some 1 => "pokt1uqdsdwwuujcrk95ur6wf6kwhjpajkmjm95m994"
      | _ => "pokt1sn57m9drscflq5nl76z6ny52hck5w4x59uv6u7"
    else "pokt152765vpznm6rkz9enqp2ufeg59g80tdygn4vyz"
  decodePubkey _ _ := .ok none

/-- Of three keys the two that signed are read. -/
theorem multisigSigners_three : ∃ info,
    parseMultisigSignerInfo plainCosmJs
      ([0, 1, 2].map fun last => plainCosmJs.toBase64 (plainPubkey last)) 2
      (plainCosmJs.toBase64 (compactBitArray [true, false, true]).elems)
      (compactBitArray [true, false, true]).extraBitsStored "pokt" = .ok info ∧
    info.signerIndices = [0, 2] ∧
    info.signedSignerAddresses = [some "pokt1xcjufgh2jarkp2qkx68azh08w9v5gah8lf63nl",
      some "pokt1sn57m9drscflq5nl76z6ny52hck5w4x59uv6u7"] := by
  have succeeds : (parseMultisigSignerInfo plainCosmJs
      ([0, 1, 2].map fun last => plainCosmJs.toBase64 (plainPubkey last)) 2
      (plainCosmJs.toBase64 (compactBitArray [true, false, true]).elems)
      (compactBitArray [true, false, true]).extraBitsStored "pokt").toOption.isSome = true := by
    decide +kernel
  obtain ⟨info, parsed⟩ := Option.isSome_iff_exists.mp succeeds
  obtain ⟨-, indices, addresses⟩ := (multisigSigners_iff (ok_of_toOption (by decide +kernel))
    (ok_of_toOption parsed)).mpr fun i signed => (List.getElem?_eq_some_iff.mp signed).1
  refine ⟨info, ok_of_toOption parsed, indices.trans (by decide), addresses.trans ?_⟩
  decide +kernel

/-- Of eight keys none is read as a signer, although the first one signed. -/
theorem multisigSigners_eight :
    decodeBitArray plainCosmJs
        (plainCosmJs.toBase64 (compactBitArray (true :: List.replicate 7 false)).elems)
        (compactBitArray (true :: List.replicate 7 false)).extraBitsStored = .ok [] ∧
      memberIndices (true :: List.replicate 7 false) = [0] :=
  ⟨ok_of_toOption (by decide +kernel), by decide⟩

end Pocketdex
