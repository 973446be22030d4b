/- source: src/lib/messaging/mls.ts, crypto/crates/wasm-client/src/lib.rs,
     crypto/crates/client-core/src/lib.rs
   digest: Key-package lists split as they were framed, and a snapshot restores its client. -/

import Mathlib.Data.List.Sort
import Mathlib.Data.Prod.Lex
import Mathlib.Data.String.Basic
import JbChat.Delivery.ValueObjects
import JbChat.Foundation.HexBytes
import JbChat.Foundation.LengthPrefix
import JbChat.Foundation.Traversal

/-!
A buffer is a list of bytes; a write or a slice that leaves it is an outcome of its own. The
storage map lists its entries in some order, which nothing may depend on.
-/

set_option autoImplicit false

namespace JbChat.Client.MlsSnapshots

open Foundation Foundation.HashTrace
open Foundation.HexBytes (bigEndian hexChars nibble)
open Foundation.LengthPrefix Foundation.Transaction Foundation.Traversal Delivery.ValueObjects

section

/-- Bytes put into a buffer from an offset on; what does not fit throws. -/
def writeAt (buffer : Bytes) (offset : Nat) (bytes : Bytes) : Option Bytes :=
  if offset + bytes.length ≤ buffer.length then
    some (buffer.take offset ++ bytes ++ buffer.drop (offset + bytes.length))
  else none

def totalLength (keyPackages : List Bytes) : Nat :=
  keyPackages.foldl (fun total keyPackage => total + (4 + keyPackage.length)) 0

def writePackages : Bytes → Nat → List Bytes → Option Bytes
  | list, _, [] => some list
  | list, offset, keyPackage :: keyPackages => do
    let list ← writeAt list offset (u32be keyPackage.length)
    let list ← writeAt list (offset + 4) keyPackage
    writePackages list (offset + (4 + keyPackage.length)) keyPackages

/-- The list that `addMlsMembers` hands to the wasm client. -/
def addMlsMembersList (keyPackages : List Bytes) : Option Bytes :=
  writePackages (List.replicate (totalLength keyPackages) 0) 0 keyPackages

/-- How the loop of `add_members` ends. -/
inductive Split (ε κ : Type) where
  | decoded (keyPackages : List κ)
  | malformed
  | refused (error : ε)
  | outOfBounds

/-- A range that leaves the bytes panics. -/
def slice (bytes : Bytes) (start stop : Nat) : Option Bytes :=
  if start ≤ stop ∧ stop ≤ bytes.length then some ((bytes.drop start).take (stop - start))
  else none

variable {ε κ : Type} (decodeKeyPackage : Bytes → Except ε κ)

def splitFrom (keyPackages : Bytes) (offset : Nat) (decoded : List κ) : Split ε κ :=
  if offset < keyPackages.length then
    if keyPackages.length - offset < 4 then .malformed
    else
      match slice keyPackages offset (offset + 4) with
      | none => .outOfBounds
      | some header =>
        if keyPackages.length - (offset + 4) < bigEndian header then .malformed
        else
          match slice keyPackages (offset + 4) (offset + 4 + bigEndian header) with
          | none => .outOfBounds
          | some piece =>
            match decodeKeyPackage piece with
            | .error error => .refused error
            | .ok keyPackage =>
              splitFrom keyPackages (offset + 4 + bigEndian header) (decoded ++ [keyPackage])
  else .decoded decoded
termination_by keyPackages.length - offset

/-- The loop of `add_members`. -/
def splitKeyPackages (keyPackages : Bytes) : Split ε κ :=
  splitFrom decodeKeyPackage keyPackages 0 []

/-- The outcome of decoding given pieces one after another. -/
def Split.ofPieces (decoded : List κ) : Except ε (List κ) → Split ε κ
  | .ok keyPackages => .decoded (decoded ++ keyPackages)
  | .error error => .refused error

end

theorem length_u32be (n : Nat) : (u32be n).length = 4 := rfl

theorem bigEndian_u32be {n : Nat} (h : n < 2 ^ 32) : bigEndian (u32be n) = n := by
  simp only [bigEndian, u32be, List.foldl_cons, List.foldl_nil, UInt8.toNat_ofNat']
  omega

theorem u32be_bigEndian {header : Bytes} (h : header.length = 4) :
    u32be (bigEndian header) = header ∧ bigEndian header < 2 ^ 32 := by
  match header, h with
  | [a, b, c, d], _ =>
    have ha := a.toNat_lt
    have hb := b.toNat_lt
    have hc := c.toNat_lt
    have hd := d.toNat_lt
    have byte : ∀ (x : UInt8) (n : Nat), n % 256 = x.toNat → UInt8.ofNat n = x := by
      intro x n hn
      apply UInt8.toNat_inj.mp
      rw [UInt8.toNat_ofNat', hn]
    simp only [bigEndian, u32be, List.foldl_cons, List.foldl_nil]
    refine ⟨?_, by omega⟩
    rw [byte a _ (by omega), byte b _ (by omega), byte c _ (by omega), byte d _ (by omega)]

theorem length_lengthPrefix (bytes : Bytes) : (lengthPrefix bytes).length = 4 + bytes.length := by
  rw [lengthPrefix, List.length_append, length_u32be]

theorem totalLength_eq (keyPackages : List Bytes) :
    totalLength keyPackages = (lengthPrefixed keyPackages).length := by
  have shifted : ∀ total, keyPackages.foldl
      (fun total keyPackage => total + (4 + keyPackage.length)) total =
        total + (lengthPrefixed keyPackages).length := by
    induction keyPackages with
    | nil => exact fun _ => rfl
    | cons keyPackage keyPackages ih =>
      intro total
      rw [List.foldl_cons, ih, lengthPrefixed, lengthPrefixed, List.flatMap_cons,
        List.length_append, length_lengthPrefix]
      omega
  rw [totalLength, shifted, Nat.zero_add]

theorem writeAt_append (before bytes : Bytes) (room : Nat) :
    writeAt (before ++ List.replicate (bytes.length + room) 0) before.length bytes =
      some (before ++ bytes ++ List.replicate room 0) := by
  unfold writeAt
  rw [if_pos (by rw [List.length_append, List.length_replicate]; omega), List.take_left,
    List.drop_append, List.drop_of_length_le (Nat.le_add_right _ _), List.nil_append,
    Nat.add_sub_cancel_left, List.drop_replicate, Nat.add_sub_cancel_left]

theorem writePackages_append (before : Bytes) (keyPackages : List Bytes) :
    writePackages (before ++ List.replicate (lengthPrefixed keyPackages).length 0) before.length
      keyPackages = some (before ++ lengthPrefixed keyPackages) := by
  induction keyPackages generalizing before with
  | nil => rfl
  | cons keyPackage keyPackages ih =>
    have hlength : (lengthPrefixed (keyPackage :: keyPackages)).length =
        (u32be keyPackage.length).length +
          (keyPackage.length + (lengthPrefixed keyPackages).length) := by
      rw [lengthPrefixed, List.flatMap_cons, List.length_append, length_lengthPrefix,
        length_u32be, Nat.add_assoc, lengthPrefixed]
    have hheader : before.length + 4 = (before ++ u32be keyPackage.length).length := by
      rw [List.length_append, length_u32be]
    have hpiece : before.length + (4 + keyPackage.length) =
        (before ++ u32be keyPackage.length ++ keyPackage).length := by
      rw [List.length_append, List.length_append, length_u32be, Nat.add_assoc]
    rw [writePackages, hlength, writeAt_append, hheader, hpiece]
    change (do
      let list ← writeAt _ _ keyPackage
      writePackages list _ keyPackages) = _
    rw [writeAt_append]
    change writePackages _ _ keyPackages = _
    rw [ih, lengthPrefixed, lengthPrefixed, List.flatMap_cons, lengthPrefix]
    simp only [List.append_assoc]

theorem addMlsMembersList_eq (keyPackages : List Bytes) :
    addMlsMembersList keyPackages = some (lengthPrefixed keyPackages) := by
  rw [addMlsMembersList, totalLength_eq]
  exact writePackages_append [] keyPackages

section

variable {ε κ : Type} {decodeKeyPackage : Bytes → Except ε κ} {bytes piece : Bytes} {offset : Nat}

theorem slice_eq_some {start stop : Nat}
    (h : slice bytes start stop = some piece) : piece.length = stop - start ∧
      bytes.drop start = piece ++ bytes.drop stop ∧ start ≤ stop ∧ stop ≤ bytes.length := by
  unfold slice at h
  split_ifs at h with hrange
  cases h
  refine ⟨?_, ?_, hrange⟩
  · rw [List.length_take, List.length_drop]
    omega
  · conv_lhs => rw [← List.take_append_drop (stop - start) (bytes.drop start)]
    rw [List.drop_drop, Nat.add_sub_cancel' hrange.1]

theorem slice_of_drop {rest : Bytes} {start : Nat} (h : bytes.drop start = piece ++ rest)
    (inside : start ≤ bytes.length) :
    slice bytes start (start + piece.length) = some piece := by
  have hlength := congrArg List.length h
  rw [List.length_drop, List.length_append] at hlength
  unfold slice
  rw [if_pos ⟨Nat.le_add_right _ _, by omega⟩, Nat.add_sub_cancel_left, h, List.take_left]

theorem splitFrom_piece {rest : Bytes} (decoded : List κ) (sized : Sized piece)
    (h : bytes.drop offset = lengthPrefix piece ++ rest) (inside : offset ≤ bytes.length) :
    splitFrom decodeKeyPackage bytes offset decoded =
      match decodeKeyPackage piece with
      | .error error => .refused error
      | .ok keyPackage => splitFrom decodeKeyPackage bytes (offset + 4 + piece.length)
          (decoded ++ [keyPackage]) := by
  have hlength := congrArg List.length h
  rw [List.length_drop, List.length_append, length_lengthPrefix] at hlength
  rw [lengthPrefix, List.append_assoc] at h
  have hheader := slice_of_drop h inside
  rw [length_u32be] at hheader
  have hrest : bytes.drop (offset + 4) = piece ++ rest := by
    rw [← List.drop_drop, h]
    rfl
  have hpiece := slice_of_drop hrest (by omega)
  rw [splitFrom, if_pos (by omega), if_neg (by omega), hheader]
  simp only [bigEndian_u32be sized]
  rw [if_neg (by omega), hpiece]

theorem splitFrom_end (decoded : List κ) (h : bytes.length ≤ offset) :
    splitFrom decodeKeyPackage bytes offset decoded = .decoded decoded := by
  rw [splitFrom, if_neg (Nat.not_lt.mpr h)]

theorem splitFrom_framed (decoded : List κ) {pieces : List Bytes}
    (sized : ∀ piece ∈ pieces, Sized piece) (h : bytes.drop offset = lengthPrefixed pieces)
    (inside : offset ≤ bytes.length) :
    splitFrom decodeKeyPackage bytes offset decoded =
      Split.ofPieces decoded (pieces.mapM decodeKeyPackage) := by
  induction pieces generalizing offset decoded with
  | nil =>
    have hend : bytes.length ≤ offset := List.drop_eq_nil_iff.mp h
    rw [splitFrom_end decoded hend, List.mapM_nil]
    exact congrArg Split.decoded (List.append_nil decoded).symm
  | cons piece pieces ih =>
    rw [List.forall_mem_cons] at sized
    rw [lengthPrefixed, List.flatMap_cons] at h
    have hlength := congrArg List.length h
    rw [List.length_drop, List.length_append, length_lengthPrefix] at hlength
    rw [splitFrom_piece decoded sized.1 h inside, List.mapM_cons]
    cases hpiece : decodeKeyPackage piece with
    | error error => rfl
    | ok keyPackage =>
      have hrest : bytes.drop (offset + 4 + piece.length) = lengthPrefixed pieces := by
        rw [Nat.add_assoc, ← List.drop_drop, h, ← length_lengthPrefix, List.drop_left]
        rfl
      dsimp only
      rw [ih _ sized.2 hrest (by omega)]
      change _ = Split.ofPieces decoded
        ((pieces.mapM decodeKeyPackage).bind fun rest => .ok (keyPackage :: rest))
      cases pieces.mapM decodeKeyPackage with
      | error error => rfl
      | ok rest => exact congrArg Split.decoded (List.append_cons decoded keyPackage rest).symm

inductive Ended (decodeKeyPackage : Bytes → Except ε κ) (bytes : Bytes) (decoded : List κ) :
    Split ε κ → Prop
  | malformed : Ended decodeKeyPackage bytes decoded .malformed
  | refused {pieces : List Bytes} {piece rest : Bytes} {error : ε}
      (framed : bytes = lengthPrefixed pieces ++ lengthPrefix piece ++ rest)
      (refusal : decodeKeyPackage piece = .error error) :
      Ended decodeKeyPackage bytes decoded (.refused error)
  | decoded {pieces : List Bytes} {keyPackages : List κ} (framed : bytes = lengthPrefixed pieces)
      (sized : ∀ piece ∈ pieces, Sized piece)
      (each : pieces.mapM decodeKeyPackage = .ok keyPackages) :
      Ended decodeKeyPackage bytes decoded (.decoded (decoded ++ keyPackages))

theorem Ended.behind {decoded : List κ} {keyPackage : κ} {outcome : Split ε κ} (sized : Sized piece)
    (hpiece : decodeKeyPackage piece = .ok keyPackage)
    (h : Ended decodeKeyPackage bytes (decoded ++ [keyPackage]) outcome) :
    Ended decodeKeyPackage (lengthPrefix piece ++ bytes) decoded outcome := by
  cases h with
  | malformed => exact .malformed
  | @refused pieces other rest error framed refusal =>
    have behind : lengthPrefix piece ++ bytes =
        lengthPrefixed (piece :: pieces) ++ lengthPrefix other ++ rest := by
      rw [framed, lengthPrefixed, lengthPrefixed, List.flatMap_cons]
      simp only [List.append_assoc]
    exact .refused behind refusal
  | @decoded pieces keyPackages framed others each =>
    have behind : lengthPrefix piece ++ bytes = lengthPrefixed (piece :: pieces) := by
      rw [framed, lengthPrefixed, lengthPrefixed, List.flatMap_cons]
    rw [List.append_assoc]
    refine .decoded behind (List.forall_mem_cons.mpr ⟨sized, others⟩) ?_
    rw [List.mapM_cons, hpiece, each]
    rfl

theorem splitFrom_ended (bytes : Bytes) (offset : Nat) (decoded : List κ)
    (inside : offset ≤ bytes.length) : Ended decodeKeyPackage (bytes.drop offset) decoded
      (splitFrom decodeKeyPackage bytes offset decoded) := by
  induction hleft : bytes.length - offset using Nat.strong_induction_on
    generalizing offset decoded with
  | _ left ih =>
    by_cases hend : offset < bytes.length
    swap
    · have hnil : bytes.drop offset = lengthPrefixed [] :=
        List.drop_of_length_le (Nat.not_lt.mp hend)
      have ended : Ended decodeKeyPackage (bytes.drop offset) decoded (.decoded (decoded ++ [])) :=
        .decoded hnil (fun _ hmem => absurd hmem List.not_mem_nil) List.mapM_nil
      rw [List.append_nil] at ended
      rw [splitFrom_end decoded (Nat.not_lt.mp hend)]
      exact ended
    rw [splitFrom, if_pos hend]
    by_cases hshort : bytes.length - offset < 4
    · rw [if_pos hshort]
      exact .malformed
    have hheader : ∃ header, slice bytes offset (offset + 4) = some header :=
      ⟨_, if_pos ⟨Nat.le_add_right _ _, by omega⟩⟩
    obtain ⟨header, hheader⟩ := hheader
    obtain ⟨hfour, hdrop, -, -⟩ := slice_eq_some hheader
    have hbytes : header.length = 4 := by omega
    obtain ⟨hcode, hsized⟩ := u32be_bigEndian hbytes
    rw [if_neg hshort, hheader]
    dsimp only
    by_cases hlong : bytes.length - (offset + 4) < bigEndian header
    · rw [if_pos hlong]
      exact .malformed
    have hpiece : ∃ piece,
        slice bytes (offset + 4) (offset + 4 + bigEndian header) = some piece :=
      ⟨_, if_pos ⟨Nat.le_add_right _ _, by omega⟩⟩
    obtain ⟨piece, hpiece⟩ := hpiece
    obtain ⟨hlength, hrest, -, hinside⟩ := slice_eq_some hpiece
    rw [Nat.add_sub_cancel_left] at hlength
    have hframe : bytes.drop offset =
        lengthPrefix piece ++ bytes.drop (offset + 4 + bigEndian header) := by
      rw [hdrop, hrest, lengthPrefix, hlength, hcode, List.append_assoc]
    rw [if_neg hlong, hpiece, hframe]
    dsimp only
    cases hdecode : decodeKeyPackage piece with
    | error error =>
      have framed : lengthPrefix piece ++ bytes.drop (offset + 4 + bigEndian header) =
        lengthPrefixed [] ++ lengthPrefix piece ++ _ := rfl
      exact .refused framed hdecode
    | ok keyPackage =>
      have hfits : Sized piece := by
        rw [Sized, hlength]
        exact hsized
      refine Ended.behind hfits hdecode ?_
      exact ih _ (by omega) _ _ hinside rfl

end

structure Storage where
  entries : List (Bytes × Bytes)
  distinct : (entries.map Prod.fst).Nodup

def Storage.get (values : Storage) (key : Bytes) : Option Bytes := values.entries.lookup key

def Storage.empty : Storage := ⟨[], List.nodup_nil⟩

def Storage.insert (values : Storage) (key value : Bytes) : Storage where
  entries := (key, value) :: values.entries.filter fun entry => decide (entry.1 ≠ key)
  distinct := by
    rw [List.map_cons, List.nodup_cons]
    refine ⟨?_, values.distinct.sublist (List.filter_sublist.map Prod.fst)⟩
    intro hmem
    obtain ⟨entry, hentry, hkey⟩ := List.mem_map.mp hmem
    exact of_decide_eq_true (List.mem_filter.mp hentry).2 hkey

structure SignatureKeyPair where
  privateKey : Bytes
  publicKey : Bytes

structure SyntheticIdentity where
  credential : Bytes
  signatureKey : Bytes
  signer : SignatureKeyPair

structure MlsClient where
  storage : Storage
  identity : SyntheticIdentity
  label : String

/-- A value of `serde_json`: a number is what `as_u64` reads of it, the members of an object
stand in the order of their names. -/
inductive Value where
  | null
  | bool (value : Bool)
  | number (unsigned : Option Nat)
  | string (text : String)
  | array (values : List Value)
  | object (members : List (String × Value))

def Value.get (name : String) : Value → Option Value
  | .object members => members.lookup name
  | _ => none

def Value.asU64 : Value → Option Nat
  | .number unsigned => unsigned
  | _ => none

def Value.asStr : Value → Option String
  | .string text => some text
  | _ => none

def Value.asArray : Value → Option (List Value)
  | .array values => some values
  | _ => none

def stateVersion : Nat := 1

def hexEncode (bytes : Bytes) : String := String.ofList (hexChars bytes)

def hexPairs : Bytes → Option Bytes
  | high :: low :: rest => do
    let high ← nibble high.toNat
    let low ← nibble low.toNat
    let bytes ← hexPairs rest
    some (UInt8.ofNat (16 * high + low) :: bytes)
  | _ => some []

def hexDecode (text : String) : Option Bytes :=
  if (utf8 text).length % 2 ≠ 0 then none else hexPairs (utf8 text)

def isLabelByte (byte : UInt8) : Bool :=
  decide (97 ≤ byte.toNat ∧ byte.toNat ≤ 122) || decide (48 ≤ byte.toNat ∧ byte.toNat ≤ 57) ||
    decide (byte.toNat = 45)

def validateSyntheticLabel (label : Bytes) : Except String Unit :=
  if label = [] ∨ 24 < label.length ∨ label.all isLabelByte = false then
    .error "mls.invalid_synthetic_identity"
  else .ok ()

def syntheticIdentityPrefix : String := "jbm-pre-g1-synthetic:v1:"

def syntheticCredentialContent (label : String) : Except String Bytes := do
  validateSyntheticLabel (utf8 label)
  .ok (utf8 syntheticIdentityPrefix ++ utf8 label)

/-- `read` is `SignatureKeyPair::read`, which looks a key pair up in the storage. -/
def loadSyntheticIdentity (read : (Bytes → Option Bytes) → Bytes → Option SignatureKeyPair)
    (storage : Bytes → Option Bytes) (label : String) (signaturePublicKey : Bytes) :
    Except String SyntheticIdentity := do
  let identity ← syntheticCredentialContent label
  match read storage signaturePublicKey with
  | none => .error "mls.storage_operation_failed"
  | some signer =>
    if signer.publicKey ≠ signaturePublicKey then .error "mls.crypto_operation_failed"
    else .ok ⟨identity, signer.publicKey, signer⟩

/-- The two texts of an entry, compared one after the other. -/
def entryTexts (entry : Bytes × Bytes) : String ×ₗ String :=
  toLex (hexEncode entry.1, hexEncode entry.2)

def entryValue (texts : String ×ₗ String) : Value :=
  .array [.string (ofLex texts).1, .string (ofLex texts).2]

def exportValue (client : MlsClient) : Value :=
  .object [
    ("entries", .array (((client.storage.entries.map entryTexts).insertionSort (· ≤ ·)).map
      entryValue)),
    ("label", .string client.label),
    ("signaturePublicKey", .string (hexEncode client.identity.signer.publicKey)),
    ("version", .number (some stateVersion))]

def exportState (print : Value → String) (client : MlsClient) : String :=
  print (exportValue client)

def importEntry (values : Storage) (entry : Value) : Except String Storage :=
  match entry with
  | .array [key, value] =>
    match key.asStr.bind hexDecode with
    | none => .error "state entry key malformed"
    | some key =>
      match value.asStr.bind hexDecode with
      | none => .error "state entry value malformed"
      | some value => .ok (values.insert key value)
  | _ => .error "state entry malformed"

def required {α : Type} (message : String) : Option α → Except String α
  | none => .error message
  | some value => .ok value

def importState (parse : String → Option Value)
    (read : (Bytes → Option Bytes) → Bytes → Option SignatureKeyPair) (json : String) :
    Except String MlsClient := do
  let parsed ← required "state is not valid JSON" (parse json)
  if (parsed.get "version").bind Value.asU64 ≠ some stateVersion then
    .error "unsupported state version"
  else do
    let label ← required "state label missing" ((parsed.get "label").bind Value.asStr)
    let publicKey ← required "state public key missing"
      (((parsed.get "signaturePublicKey").bind Value.asStr).bind hexDecode)
    let entries ← required "state entries missing" ((parsed.get "entries").bind Value.asArray)
    let values ← entries.foldlM importEntry Storage.empty
    let identity ← loadSyntheticIdentity read values.get label publicKey
    .ok ⟨values, identity, label⟩

theorem utf8_hexEncode (bytes : Bytes) :
    utf8 (hexEncode bytes) = (hexChars bytes).map fun c => UInt8.ofNat c.toNat := by
  have hall : ∀ c ∈ hexChars bytes, String.utf8EncodeChar c = [UInt8.ofNat c.toNat] := by
    intro c hc
    have hbound := HexBytes.hexChars_bound hc
    have hsize : c.utf8Size = 1 := by
      rw [Char.utf8Size_eq_one_iff, UInt32.le_iff_toNat_le]
      change c.toNat ≤ 127
      omega
    exact (String.utf8EncodeChar_eq_singleton hsize).trans rfl
  have hbytes : utf8 (hexEncode bytes) = (hexChars bytes).flatMap String.utf8EncodeChar := by
    unfold utf8 hexEncode
    rw [String.toUTF8_eq_toByteArray, String.toByteArray_ofList, List.utf8Encode,
      List.data_toByteArray]
  rw [hbytes]
  generalize hexChars bytes = chars at hall
  induction chars with
  | nil => rfl
  | cons c chars ih =>
    rw [List.forall_mem_cons] at hall
    rw [List.flatMap_cons, hall.1, ih hall.2]
    rfl

theorem hexPairs_hexChars (bytes : Bytes) :
    hexPairs ((hexChars bytes).map fun c => UInt8.ofNat c.toNat) = some bytes := by
  induction bytes with
  | nil => rfl
  | cons byte bytes ih =>
    have hbyte := byte.toNat_lt
    have code : ∀ n < 16, nibble (UInt8.ofNat (HexBytes.hexDigit n).toNat).toNat = some n := by
      decide
    have hjoin : UInt8.ofNat (16 * (byte.toNat / 16) + byte.toNat % 16) = byte := by
      rw [Nat.div_add_mod, UInt8.ofNat_toNat]
    rw [HexBytes.hexChars_cons, List.map_cons, List.map_cons, hexPairs, code _ (by omega),
      code _ (by omega), ih]
    exact congrArg (fun first => some (first :: bytes)) hjoin

theorem hexDecode_hexEncode (bytes : Bytes) : hexDecode (hexEncode bytes) = some bytes := by
  unfold hexDecode
  rw [utf8_hexEncode, hexPairs_hexChars, List.length_map, HexBytes.hexChars_length,
    if_neg (by omega)]

section

variable {values other : Storage} {entries : List (Bytes × Bytes)}

theorem lookup_eq_some {key value : Bytes} (distinct : (entries.map Prod.fst).Nodup) :
    entries.lookup key = some value ↔ (key, value) ∈ entries := by
  induction entries with
  | nil => simp
  | cons entry entries ih =>
    obtain ⟨first, found⟩ := entry
    rw [List.map_cons, List.nodup_cons] at distinct
    rw [List.lookup_cons, List.mem_cons]
    by_cases hkey : key = first
    · subst hkey
      have habsent : (key, value) ∉ entries :=
        fun hmem => distinct.1 (List.mem_map.mpr ⟨_, hmem, rfl⟩)
      simp [habsent, eq_comm]
    · have hcompare : (key == first) = false := beq_false_of_ne hkey
      rw [hcompare, ih distinct.2]
      simp [hkey]

theorem entries_perm (same : ∀ key, values.get key = other.get key) :
    values.entries.Perm other.entries := by
  rw [List.perm_ext_iff_of_nodup (values.distinct.of_map _) (other.distinct.of_map _)]
  rintro ⟨key, value⟩
  rw [← lookup_eq_some values.distinct, ← lookup_eq_some other.distinct]
  exact Eq.congr_left (same key)

theorem get_of_perm (perm : values.entries.Perm other.entries) (key : Bytes) :
    values.get key = other.get key := by
  apply Option.ext
  intro value
  unfold Storage.get
  rw [lookup_eq_some values.distinct, lookup_eq_some other.distinct, perm.mem_iff]

theorem sorted_texts (same : ∀ key, values.get key = other.get key) :
    (values.entries.map entryTexts).insertionSort (· ≤ ·) =
      (other.entries.map entryTexts).insertionSort (· ≤ ·) := by
  refine List.Perm.eq_of_pairwise' (r := (· ≤ ·)) (List.pairwise_insertionSort _ _)
    (List.pairwise_insertionSort _ _) ?_
  calc (values.entries.map entryTexts).insertionSort (· ≤ ·)
      |>.Perm (values.entries.map entryTexts) := List.perm_insertionSort _ _
    _ |>.Perm (other.entries.map entryTexts) := (entries_perm same).map _
    _ |>.Perm ((other.entries.map entryTexts).insertionSort (· ≤ ·)) :=
      (List.perm_insertionSort _ _).symm

theorem importEntry_entryValue (values : Storage) (entry : Bytes × Bytes) :
    importEntry values (entryValue (entryTexts entry)) = .ok (values.insert entry.1 entry.2) := by
  simp only [importEntry, entryValue, entryTexts, ofLex_toLex, Value.asStr, Option.bind_some,
    hexDecode_hexEncode]

theorem importEntries_fresh (distinct : (entries.map Prod.fst).Nodup)
    (fresh : ∀ entry ∈ entries, entry.1 ∉ values.entries.map Prod.fst) :
    ∃ rebuilt : Storage, (entries.map fun entry => entryValue (entryTexts entry)).foldlM
      importEntry values = .ok rebuilt ∧ rebuilt.entries = entries.reverse ++ values.entries := by
  induction entries generalizing values with
  | nil => exact ⟨values, rfl, rfl⟩
  | cons entry entries ih =>
    rw [List.map_cons, List.nodup_cons] at distinct
    rw [List.forall_mem_cons] at fresh
    have hkept : (values.insert entry.1 entry.2).entries = entry :: values.entries := by
      change entry :: values.entries.filter _ = _
      congr 1
      rw [List.filter_eq_self]
      intro other hother
      exact decide_eq_true fun hkey => fresh.1 (hkey ▸ List.mem_map_of_mem (f := Prod.fst) hother)
    have hfresh : ∀ other ∈ entries,
        other.1 ∉ (values.insert entry.1 entry.2).entries.map Prod.fst := by
      intro other hother
      rw [hkept, List.map_cons, List.mem_cons, not_or]
      exact ⟨fun hkey => distinct.1 (hkey ▸ List.mem_map_of_mem (f := Prod.fst) hother),
        fresh.2 other hother⟩
    obtain ⟨rebuilt, hfold, hentries⟩ := ih distinct.2 hfresh
    refine ⟨rebuilt, ?_, ?_⟩
    · rw [List.map_cons, List.foldlM_cons, importEntry_entryValue]
      exact hfold
    · rw [hentries, hkept, List.reverse_cons, List.append_assoc]
      rfl

theorem importEntries_exported (values : Storage) :
    ∃ rebuilt : Storage,
      (((values.entries.map entryTexts).insertionSort (· ≤ ·)).map entryValue).foldlM importEntry
        Storage.empty = .ok rebuilt ∧ ∀ key, rebuilt.get key = values.get key := by
  let order : Bytes × Bytes → Bytes × Bytes → Prop := fun a b => entryTexts a ≤ entryTexts b
  have hsorted : (values.entries.map entryTexts).insertionSort (· ≤ ·) =
      (values.entries.insertionSort order).map entryTexts :=
    (List.map_insertionSort (r := order) (s := (· ≤ ·)) entryTexts values.entries
      fun _ _ _ _ => Iff.rfl).symm
  have hperm := List.perm_insertionSort order values.entries
  have hfresh : ∀ entry ∈ values.entries.insertionSort order,
      entry.1 ∉ Storage.empty.entries.map Prod.fst := fun _ _ => List.not_mem_nil
  obtain ⟨rebuilt, hfold, hentries⟩ :=
    importEntries_fresh ((hperm.map Prod.fst).nodup_iff.mpr values.distinct) hfresh
  refine ⟨rebuilt, ?_, get_of_perm ?_⟩
  · rw [hsorted, List.map_map]
    exact hfold
  · rw [hentries]
    change (_ ++ []).Perm _
    rw [List.append_nil]
    exact (List.reverse_perm _).trans hperm

end

section

variable {ε κ : Type} {print : Value → String} {parse : String → Option Value}
  {read : (Bytes → Option Bytes) → Bytes → Option SignatureKeyPair}

/-- Framed packages are decoded in their order; any other bytes are refused or are framed. -/
structure FramingRoundTrips (decodeKeyPackage : Bytes → Except ε κ) : Prop where
  framed : ∀ keyPackages : List Bytes, (∀ keyPackage ∈ keyPackages, Sized keyPackage) →
    ∃ list, addMlsMembersList keyPackages = some list ∧
      splitKeyPackages (Except.ok (ε := ε)) list = .decoded keyPackages ∧
      splitKeyPackages decodeKeyPackage list =
        Split.ofPieces [] (keyPackages.mapM decodeKeyPackage)
  ended : ∀ list : Bytes, Ended decodeKeyPackage list [] (splitKeyPackages decodeKeyPackage list)

/-- A snapshot is read back as the map, label and key it was written from; the client is
restored when its key pair can be loaded from them, and exports the same text again. -/
structure SnapshotRoundTrips (print : Value → String) (parse : String → Option Value)
    (read : (Bytes → Option Bytes) → Bytes → Option SignatureKeyPair) (client : MlsClient) :
    Prop where
  refused : ∀ error, loadSyntheticIdentity read client.storage.get client.label
    client.identity.signer.publicKey = .error error →
      importState parse read (exportState print client) = .error error
  restored : ∀ identity, loadSyntheticIdentity read client.storage.get client.label
    client.identity.signer.publicKey = .ok identity →
      ∃ again : MlsClient, importState parse read (exportState print client) = .ok again ∧
        (∀ key, again.storage.get key = client.storage.get key) ∧ again.label = client.label ∧
        again.identity = identity ∧
        again.identity.signer.publicKey = client.identity.signer.publicKey ∧
        ∀ storage : Storage, (∀ key, storage.get key = again.storage.get key) →
          exportState print { again with storage } = exportState print client

theorem framing_round_trips (decodeKeyPackage : Bytes → Except ε κ) :
    FramingRoundTrips decodeKeyPackage := by
  refine ⟨fun keyPackages sized => ⟨_, addMlsMembersList_eq keyPackages, ?_, ?_⟩, fun list => ?_⟩
  · have hsame : keyPackages.mapM (Except.ok (ε := ε)) = .ok keyPackages :=
      mapM_eq_ok.mpr (List.forall₂_same.mpr fun _ _ => rfl)
    have hsplit : splitFrom (Except.ok (ε := ε)) (lengthPrefixed keyPackages) 0 [] =
        Split.ofPieces [] (keyPackages.mapM (Except.ok (ε := ε))) :=
      splitFrom_framed [] sized rfl (Nat.zero_le _)
    rw [splitKeyPackages, hsplit, hsame]
    rfl
  · exact splitFrom_framed [] sized rfl (Nat.zero_le _)
  · exact splitFrom_ended list 0 [] (Nat.zero_le _)

theorem publicKey_of_load {storage : Bytes → Option Bytes} {label : String} {publicKey : Bytes}
    {identity : SyntheticIdentity}
    (h : loadSyntheticIdentity read storage label publicKey = .ok identity) :
    identity.signer.publicKey = publicKey := by
  obtain ⟨content, -, h⟩ := bind_ok.mp h
  cases hread : read storage publicKey with
  | none =>
    rw [hread] at h
    cases h
  | some signer =>
    rw [hread] at h
    dsimp only at h
    split_ifs at h with hkey
    cases h
    exact not_not.mp hkey

theorem importState_exported (read : (Bytes → Option Bytes) → Bytes → Option SignatureKeyPair)
    {client : MlsClient}
    (parses : parse (print (exportValue client)) = some (exportValue client)) :
    ∃ rebuilt : Storage, (∀ key, rebuilt.get key = client.storage.get key) ∧
      importState parse read (exportState print client) =
        (loadSyntheticIdentity read client.storage.get client.label
          client.identity.signer.publicKey).map fun identity =>
            ⟨rebuilt, identity, client.label⟩ := by
  obtain ⟨rebuilt, hfold, hget⟩ := importEntries_exported client.storage
  refine ⟨rebuilt, hget, ?_⟩
  have hversion : ((exportValue client).get "version").bind Value.asU64 = some stateVersion := rfl
  have hlabel : ((exportValue client).get "label").bind Value.asStr = some client.label := rfl
  have hkey : (((exportValue client).get "signaturePublicKey").bind Value.asStr).bind hexDecode =
      some client.identity.signer.publicKey := hexDecode_hexEncode _
  have hentries : ((exportValue client).get "entries").bind Value.asArray =
      some (((client.storage.entries.map entryTexts).insertionSort (· ≤ ·)).map entryValue) := rfl
  have hsame : rebuilt.get = client.storage.get := funext hget
  unfold importState exportState
  rw [parses]
  simp only [required, bind, Except.bind, hversion, hlabel, hkey, hentries, hfold, hsame, ne_eq,
    not_true_eq_false, if_false]
  cases loadSyntheticIdentity read client.storage.get client.label
      client.identity.signer.publicKey with
  | error error => rfl
  | ok identity => rfl

theorem snapshot_round_trips (client : MlsClient)
    (parses : parse (print (exportValue client)) = some (exportValue client)) :
    SnapshotRoundTrips print parse read client := by
  obtain ⟨rebuilt, hget, himport⟩ := importState_exported read parses
  constructor
  · intro error hload
    rw [himport, hload]
    rfl
  · intro identity hload
    have hkey := publicKey_of_load hload
    refine ⟨⟨rebuilt, identity, client.label⟩, ?_, hget, rfl, rfl, hkey, ?_⟩
    · rw [himport, hload]
      rfl
    · intro storage hstorage
      unfold exportState exportValue
      have hsame : ∀ key, storage.get key = client.storage.get key :=
        fun key => (hstorage key).trans (hget key)
      rw [sorted_texts hsame]
      change print (.object [_, _, ("signaturePublicKey",
        .string (hexEncode identity.signer.publicKey)), _]) = _
      rw [hkey]

/-- Lists of key packages and snapshots of clients both round trip. -/
theorem packages_and_snapshots_round_trip (decodeKeyPackage : Bytes → Except ε κ)
    (print : Value → String) (parse : String → Option Value)
    (read : (Bytes → Option Bytes) → Bytes → Option SignatureKeyPair) (client : MlsClient)
    (parses : parse (print (exportValue client)) = some (exportValue client)) :
    FramingRoundTrips decodeKeyPackage ∧ SnapshotRoundTrips print parse read client :=
  ⟨framing_round_trips decodeKeyPackage, snapshot_round_trips client parses⟩

end

def sampleKeyPair : SignatureKeyPair := ⟨[1], [2]⟩

def sampleClient (entries : Storage) : MlsClient :=
  ⟨entries, ⟨utf8 "jbm-pre-g1-synthetic:v1:lab", [2], sampleKeyPair⟩, "lab"⟩

def sampleRead (get : Bytes → Option Bytes) (publicKey : Bytes) : Option SignatureKeyPair :=
  (get publicKey).map fun privateKey => ⟨privateKey, publicKey⟩

/-- What is written behind the entries. -/
def textBehind : String :=
  ",\"label\":\"lab\",\"signaturePublicKey\":\"02\",\"version\":1\x7d"

def sampleText : String :=
  "\x7b\"entries\":[[\"01\",\"03\"],[\"02\",\"01\"]]" ++ textBehind

def emptyText : String := "\x7b\"entries\":[]" ++ textBehind

def sampleStorage : Storage := (Storage.empty.insert [2] [1]).insert [1] [3]

theorem packages_and_snapshots_round_trip_sample :
    FramingRoundTrips (Except.ok (ε := String) (α := Bytes)) ∧
      SnapshotRoundTrips (fun _ => sampleText)
        (fun _ => some (exportValue (sampleClient sampleStorage))) sampleRead
        (sampleClient sampleStorage) :=
  packages_and_snapshots_round_trip _ _ _ _ _ rfl

/-- A snapshot without the key pair of its client is written and is not restored. -/
theorem snapshot_without_key_pair :
    importState (fun _ => some (exportValue (sampleClient Storage.empty))) sampleRead
      (exportState (fun _ => emptyText) (sampleClient Storage.empty)) =
        .error "mls.storage_operation_failed" :=
  (snapshot_round_trips (sampleClient Storage.empty) rfl).refused _ rfl

end JbChat.Client.MlsSnapshots
