/- source: src/production/chain/purchaseVerifier.ts
   digest: The decoder of the Pay event, against the standard encoding and on arbitrary data. -/

import JbChat.Chain.QuorumReads
import JbChat.Foundation.CodeUnits
import JbChat.Foundation.HexBytes

/-!
The data of an event is a text of JavaScript, read as UTF-16 code units. Its offsets and lengths
are words of 256 bits that are turned to floating-point numbers before they are compared with
the length of the data. A text has fewer than `2 ^ 53` code units, and a rounded number that
does not exceed such a length was exact.
-/

set_option autoImplicit false

namespace JbChat.Chain.PayEvents

open Foundation Foundation.CodeUnits Foundation.HexBytes Foundation.NearestDouble
open Foundation.Transaction QuorumReads

/-- What a decoder throws. -/
inductive DecodeError where
  | typeError
  | syntaxError
  | malformed (message : String)
deriving DecidableEq

/-- `Buffer.from(text.slice(2), "hex")`, which reads the low eight bits of a code unit. -/
def bufferFromHex (text : String) : Bytes :=
  decodeCodes (((codeUnits text).drop 2).map (· % 256))

/-- The white space and line ends that `BigInt` trims. -/
def isWhiteSpace (c : Char) : Bool :=
  decide (c.toNat ∈ [0x9, 0xA, 0xB, 0xC, 0xD, 0x20, 0xA0, 0x1680, 0x2028, 0x2029, 0x202F, 0x205F,
    0x3000, 0xFEFF]) || decide (0x2000 ≤ c.toNat ∧ c.toNat ≤ 0x200A)

def trim (chars : List Char) : List Char :=
  ((chars.dropWhile isWhiteSpace).reverse.dropWhile isWhiteSpace).reverse

def numeral (radix : Nat) (digits : List Char) : Option Nat :=
  if digits.isEmpty then none else readDigits radix digits 0

/-- `StringToBigInt` -/
def stringToBigInt (text : String) : Option Int :=
  match trim text.toList with
  | [] => some 0
  | '0' :: 'x' :: digits | '0' :: 'X' :: digits => (numeral 16 digits).map Int.ofNat
  | '0' :: 'o' :: digits | '0' :: 'O' :: digits => (numeral 8 digits).map Int.ofNat
  | '0' :: 'b' :: digits | '0' :: 'B' :: digits => (numeral 2 digits).map Int.ofNat
  | '-' :: digits => (numeral 10 digits).map fun n => -Int.ofNat n
  | '+' :: digits => (numeral 10 digits).map Int.ofNat
  | digits => (numeral 10 digits).map Int.ofNat

/-- `BigInt(value)` of a text, or of `undefined`. -/
def bigInt : Option String → Except DecodeError Int
  | none => .error .typeError
  | some text =>
    match stringToBigInt text with
    | none => .error .syntaxError
    | some value => .ok value

/-- `0x` and the digits of the bytes. -/
def hexText (bytes : Bytes) : String := String.ofList ('0' :: 'x' :: hexChars bytes)

/-- `Number(value)` of an integer that is not negative. -/
def number (value : Int) : Double := ofNat value.toNat

/-- `data.subarray(start, stop)` -/
def subarray (data : Bytes) (start stop : Double) : Bytes :=
  (data.take (stop.position data.length)).drop (start.position data.length)

section

structure DecodedPayEvent where
  rulesetId : Int
  rulesetCycleNumber : Int
  projectId : Int
  payer : String
  beneficiary : String
  amount : Int
  newlyIssuedTokenCount : Int
  memo : Bytes
  metadata : Bytes
  caller : String

variable (data : Bytes)

def word (slot : Nat) : Bytes := (data.drop (slot * 32)).take 32

def uint (slot : Nat) : Except DecodeError Int := bigInt (some (hexText (word data slot)))

def address (slot : Nat) : Except DecodeError String :=
  if ((word data slot).take 12).all (· == 0) then .ok (hexText ((word data slot).drop 12))
  else .error (.malformed "Address slot has non-zero padding.")

def dynamic (slot : Nat) : Except DecodeError Bytes := do
  let value ← uint data slot
  let offset := number value
  if offset.isMultiple 32 = false ∨ (offset.add (.finite 32)).exceeds data.length = true then
    .error (.malformed "Dynamic field offset is out of bounds.")
  else do
    let value ← bigInt (some (hexText (subarray data offset (offset.add (.finite 32)))))
    let length := number value
    if ((offset.add (.finite 32)).add length).exceeds data.length = true then
      .error (.malformed "Dynamic field length is out of bounds.")
    else
      .ok (subarray data (offset.add (.finite 32)) ((offset.add (.finite 32)).add length))

def decodePayEvent (log : QuorumReceiptLog) : Except DecodeError DecodedPayEvent :=
  let data := bufferFromHex log.data
  if data.length < 7 * 32 then .error (.malformed "Pay data head is short.")
  else do
    let rulesetId ← bigInt log.topics[1]?
    let rulesetCycleNumber ← bigInt log.topics[2]?
    let projectId ← bigInt log.topics[3]?
    let payer ← address data 0
    let beneficiary ← address data 1
    let amount ← uint data 2
    let newlyIssuedTokenCount ← uint data 3
    let memo ← dynamic data 4
    let metadata ← dynamic data 5
    let caller ← address data 6
    .ok ⟨rulesetId, rulesetCycleNumber, projectId, payer, beneficiary, amount,
      newlyIssuedTokenCount, memo, metadata, caller⟩

end

/-- An account of 20 bytes. -/
structure Address where
  bytes : Bytes
  length_eq : bytes.length = 20

structure PayEvent where
  rulesetId : BitVec 256
  rulesetCycleNumber : BitVec 256
  projectId : BitVec 256
  payer : Address
  beneficiary : Address
  amount : BitVec 256
  newlyIssuedTokenCount : BitVec 256
  memo : Bytes
  metadata : Bytes
  caller : Address

def encodeUint (n : Nat) : Bytes := toBytes 32 n

def encodeAddress (account : Address) : Bytes := List.replicate 12 0 ++ account.bytes

/-- The length, and the bytes with zeros up to the next word. -/
def encodeBytes (bytes : Bytes) : Bytes :=
  encodeUint bytes.length ++ bytes ++ List.replicate ((32 - bytes.length % 32) % 32) 0

/-- The head of seven words, with the offsets of the two tails. -/
def encodeHead (event : PayEvent) : Bytes :=
  encodeAddress event.payer ++ encodeAddress event.beneficiary ++ encodeUint event.amount.toNat ++
    encodeUint event.newlyIssuedTokenCount.toNat ++ encodeUint 224 ++
    encodeUint (224 + (encodeBytes event.memo).length) ++ encodeAddress event.caller

/-- The standard encoding of the values that are not indexed. -/
def encodeData (event : PayEvent) : Bytes :=
  encodeHead event ++ encodeBytes event.memo ++ encodeBytes event.metadata

def encodeLog (signature address : String) (logIndex : Double) (event : PayEvent) :
    QuorumReceiptLog where
  logIndex := logIndex
  address := address
  topics := [signature, hexText (encodeUint event.rulesetId.toNat),
    hexText (encodeUint event.rulesetCycleNumber.toNat),
    hexText (encodeUint event.projectId.toNat)]
  data := hexText (encodeData event)

/-- The values of an event as they are returned. -/
def PayEvent.decoded (event : PayEvent) : DecodedPayEvent where
  rulesetId := event.rulesetId.toNat
  rulesetCycleNumber := event.rulesetCycleNumber.toNat
  projectId := event.projectId.toNat
  payer := hexText event.payer.bytes
  beneficiary := hexText event.beneficiary.bytes
  amount := event.amount.toNat
  newlyIssuedTokenCount := event.newlyIssuedTokenCount.toNat
  memo := event.memo
  metadata := event.metadata
  caller := hexText event.caller.bytes

theorem codeUnits_hexText (bytes : Bytes) :
    codeUnits (hexText bytes) = 48 :: 120 :: (hexChars bytes).map Char.toNat := by
  unfold codeUnits hexText
  rw [String.toList_ofList, flatMap_charUnits]
  · rfl
  · intro c hc
    rcases List.mem_cons.mp hc with rfl | hc
    · decide
    rcases List.mem_cons.mp hc with rfl | hc
    · decide
    exact (hexChars_bound hc).2.trans (by decide)

theorem bufferFromHex_hexText (bytes : Bytes) : bufferFromHex (hexText bytes) = bytes := by
  have low : ((hexChars bytes).map Char.toNat).map (· % 256) = (hexChars bytes).map Char.toNat := by
    rw [List.map_map]
    refine List.map_congr_left fun c hc => Nat.mod_eq_of_lt ?_
    exact (hexChars_bound hc).2.trans (by decide)
  unfold bufferFromHex
  rw [codeUnits_hexText, List.drop_succ_cons, List.drop_succ_cons, List.drop_zero, low]
  exact decodeCodes_hexChars bytes

theorem length_bufferFromHex (text : String) :
    (bufferFromHex text).length ≤ (codeUnits text).length := by
  have h := length_decodeCodes (((codeUnits text).drop 2).map (· % 256))
  rw [List.length_map, List.length_drop] at h
  unfold bufferFromHex
  omega

theorem trim_eq_self {chars : List Char} (h : ∀ c ∈ chars, isWhiteSpace c = false) :
    trim chars = chars := by
  have whole : ∀ cs : List Char, (∀ c ∈ cs, isWhiteSpace c = false) →
      cs.dropWhile isWhiteSpace = cs := by
    intro cs hcs
    cases cs with
    | nil => rfl
    | cons c cs => rw [List.dropWhile_cons_of_neg (Bool.eq_false_iff.mp (hcs c List.mem_cons_self))]
  unfold trim
  rw [whole chars h, whole chars.reverse fun c hc => h c (List.mem_reverse.mp hc),
    List.reverse_reverse]

theorem bigInt_hexText {bytes : Bytes} (h : bytes ≠ []) :
    bigInt (some (hexText bytes)) = .ok (bigEndian bytes : Int) := by
  have visible : ∀ c ∈ '0' :: 'x' :: hexChars bytes, isWhiteSpace c = false := by
    intro c hc
    have hrange : 48 ≤ c.toNat ∧ c.toNat < 128 := by
      rcases List.mem_cons.mp hc with rfl | hc
      · decide
      rcases List.mem_cons.mp hc with rfl | hc
      · decide
      exact hexChars_bound hc
    unfold isWhiteSpace
    rw [Bool.or_eq_false_iff, decide_eq_false_iff_not, decide_eq_false_iff_not]
    simp only [List.mem_cons, List.not_mem_nil, or_false, not_or]
    omega
  have hdigits : (hexChars bytes).isEmpty = false := by
    obtain ⟨byte, rest, rfl⟩ := List.exists_cons_of_ne_nil h
    rfl
  have hread : stringToBigInt (hexText bytes) = some (bigEndian bytes : Int) := by
    unfold stringToBigInt hexText
    rw [String.toList_ofList, trim_eq_self visible]
    change (numeral 16 (hexChars bytes)).map Int.ofNat = _
    unfold numeral
    rw [hdigits, readDigits_hexChars]
    rfl
  unfold bigInt
  dsimp only
  rw [hread]

section

/-- The longest text of the language has fewer code units. -/
def IsText (text : String) : Prop := (codeUnits text).length < 2 ^ significantBits

/-- The integer that is stored as the offset of a slot. -/
def offsetAt (data : Bytes) (slot : Nat) : Nat := bigEndian (word data slot)

def lengthAt (data : Bytes) (slot : Nat) : Nat :=
  bigEndian ((data.drop (offsetAt data slot)).take 32)

structure ExactSlice (data : Bytes) (slot : Nat) (bytes : Bytes) : Prop where
  aligned : offsetAt data slot % 32 = 0
  inBounds : offsetAt data slot + 32 + lengthAt data slot ≤ data.length
  slice : bytes = (data.drop (offsetAt data slot + 32)).take (lengthAt data slot)

variable {data bytes : Bytes} {slot : Nat}

theorem word_length (h : slot * 32 + 32 ≤ data.length) : (word data slot).length = 32 := by
  unfold word
  rw [List.length_take, List.length_drop]
  omega

theorem uint_eq (h : slot * 32 + 32 ≤ data.length) :
    uint data slot = .ok (offsetAt data slot : Int) := by
  refine bigInt_hexText fun hnil => ?_
  have hlength := word_length h
  rw [hnil] at hlength
  cases hlength

theorem subarray_finite {start stop : Nat} (h : start ≤ stop) (hstop : stop ≤ data.length) :
    subarray data (.finite start) (.finite stop) = (data.drop start).take (stop - start) := by
  unfold subarray Double.position
  dsimp only
  rw [Nat.min_eq_left hstop, Nat.min_eq_left (h.trans hstop), List.drop_take]

theorem dynamic_eq_ok (bounded : data.length < 2 ^ significantBits)
    (hslot : slot * 32 + 32 ≤ data.length) :
    dynamic data slot = .ok bytes ↔ ExactSlice data slot bytes := by
  have hoffset : number (offsetAt data slot : Int) = ofNat (offsetAt data slot) := rfl
  have hlength : number (lengthAt data slot : Int) = ofNat (lengthAt data slot) := rfl
  have hword : Double.finite 32 = ofNat 32 := (ofNat_of_lt (by decide)).symm
  unfold dynamic
  rw [uint_eq hslot]
  simp only [bind, Except.bind, hoffset, hword]
  by_cases hinside : offsetAt data slot + 32 ≤ data.length
  swap
  · have hout : ((ofNat (offsetAt data slot)).add (ofNat 32)).exceeds data.length = true :=
      Bool.not_eq_false _ ▸ mt (ofNat_add_not_exceeds bounded).mp hinside
    rw [if_pos (Or.inr hout)]
    refine ⟨fun h => (by cases h), fun exact => ?_⟩
    have hbound := exact.inBounds
    omega
  have hstart : (ofNat (offsetAt data slot)).add (ofNat 32) = ofNat (offsetAt data slot + 32) := by
    rw [ofNat_of_lt (by omega), ← hword, add_of_lt (hinside.trans_lt bounded),
      ofNat_of_lt (hinside.trans_lt bounded)]
  have hfits : (ofNat (offsetAt data slot + 32)).exceeds data.length = false :=
    (ofNat_not_exceeds bounded).mpr hinside
  have hstored : bigInt (some (hexText (subarray data (ofNat (offsetAt data slot))
      (ofNat (offsetAt data slot + 32))))) = .ok (lengthAt data slot : Int) := by
    rw [ofNat_of_lt (by omega), ofNat_of_lt (hinside.trans_lt bounded),
      subarray_finite (Nat.le_add_right _ _) hinside, Nat.add_sub_cancel_left]
    refine bigInt_hexText fun hnil => ?_
    have hcount := congrArg List.length hnil
    rw [List.length_take, List.length_drop, List.length_nil] at hcount
    omega
  rw [hstart, hfits, hstored]
  simp only [hlength]
  have hmultiple : (ofNat (offsetAt data slot)).isMultiple 32 =
      decide (offsetAt data slot % 32 = 0) := by
    rw [ofNat_of_lt (by omega)]
    rfl
  rw [hmultiple]
  by_cases haligned : offsetAt data slot % 32 = 0
  swap
  · rw [if_pos (Or.inl (decide_eq_false haligned))]
    exact ⟨fun h => (by cases h), fun exact => absurd exact.aligned haligned⟩
  rw [if_neg (by simp [haligned])]
  by_cases hbound : offsetAt data slot + 32 + lengthAt data slot ≤ data.length
  · have hsum : (ofNat (offsetAt data slot + 32)).add (ofNat (lengthAt data slot)) =
        .finite (offsetAt data slot + 32 + lengthAt data slot) := by
      rw [ofNat_of_lt (by omega), ofNat_of_lt (by omega), add_of_lt (hbound.trans_lt bounded)]
    rw [if_neg (Bool.eq_false_iff.mp ((ofNat_add_not_exceeds bounded).mpr hbound)), hsum,
      ofNat_of_lt (hinside.trans_lt bounded), subarray_finite (Nat.le_add_right _ _) hbound,
      Nat.add_sub_cancel_left, Except.ok.injEq, eq_comm]
    exact ⟨fun h => ⟨haligned, hbound, h⟩, fun exact => exact.slice⟩
  · rw [if_pos (Bool.not_eq_false _ ▸ mt (ofNat_add_not_exceeds bounded).mp hbound)]
    exact ⟨fun h => (by cases h), fun exact => absurd exact.inBounds hbound⟩

end

section

variable {data rest : Bytes} {slot : Nat}

theorem encodeUint_length (n : Nat) : (encodeUint n).length = 32 := toBytes_length 32 n

theorem encodeAddress_length (account : Address) : (encodeAddress account).length = 32 := by
  unfold encodeAddress
  rw [List.length_append, List.length_replicate, account.length_eq]

theorem bigEndian_encodeUint {n : Nat} (h : n < 2 ^ 256) : bigEndian (encodeUint n) = n :=
  bigEndian_toBytes (h.trans_eq (by norm_num))

theorem word_flatten {words : List Bytes} (sized : ∀ entry ∈ words, entry.length = 32)
    {entry : Bytes} (hslot : words[slot]? = some entry) :
    word (words.flatten ++ rest) slot = entry := by
  induction words generalizing slot with
  | nil => cases hslot
  | cons first words ih =>
    obtain ⟨hfirst, hwords⟩ := List.forall_mem_cons.mp sized
    rw [List.flatten_cons, List.append_assoc]
    unfold word
    cases slot with
    | zero =>
      rw [Nat.zero_mul, List.drop_zero, List.take_left' hfirst]
      exact Option.some.inj hslot
    | succ slot =>
      have hdrop : (first ++ (words.flatten ++ rest)).drop ((slot + 1) * 32) =
          (words.flatten ++ rest).drop (slot * 32) := by
        rw [Nat.succ_mul, Nat.add_comm, ← List.drop_drop, List.drop_left' hfirst]
      rw [hdrop]
      exact ih hwords hslot

theorem exactSlice_of_layout {front bytes : Bytes}
    (hdata : data = front ++ encodeBytes bytes ++ rest)
    (hoffset : offsetAt data slot = front.length) (aligned : front.length % 32 = 0)
    (small : bytes.length < 2 ^ 256) : ExactSlice data slot bytes := by
  have hfield : data.drop front.length = encodeBytes bytes ++ rest := by
    rw [hdata, List.append_assoc, List.drop_left]
  have hlength : lengthAt data slot = bytes.length := by
    unfold lengthAt
    rw [hoffset, hfield, encodeBytes, List.append_assoc, List.append_assoc,
      List.take_left' (encodeUint_length _), bigEndian_encodeUint small]
  refine ⟨hoffset ▸ aligned, ?_, ?_⟩
  · rw [hoffset, hlength, hdata, encodeBytes]
    simp only [List.length_append, encodeUint_length]
    omega
  · rw [hoffset, hlength, ← List.drop_drop, hfield, encodeBytes, List.append_assoc,
      List.append_assoc, List.drop_left' (encodeUint_length _), List.take_left]

theorem address_eq {account : Address} (h : word data slot = encodeAddress account) :
    address data slot = .ok (hexText account.bytes) := by
  unfold address
  rw [h, encodeAddress, List.take_left' List.length_replicate,
    List.drop_left' List.length_replicate]
  rfl

end

section

variable (event : PayEvent)

def headWords : List Bytes :=
  [encodeAddress event.payer, encodeAddress event.beneficiary, encodeUint event.amount.toNat,
    encodeUint event.newlyIssuedTokenCount.toNat, encodeUint 224,
    encodeUint (224 + (encodeBytes event.memo).length), encodeAddress event.caller]

theorem headWords_sized : ∀ entry ∈ headWords event, entry.length = 32 := by
  unfold headWords
  simp only [List.forall_mem_cons, encodeUint_length, encodeAddress_length, true_and]
  exact fun _ h => absurd h List.not_mem_nil

theorem encodeHead_eq : encodeHead event = (headWords event).flatten := by
  simp only [encodeHead, headWords, List.flatten_cons, List.flatten_nil, List.append_nil,
    List.append_assoc]

theorem encodeHead_length : (encodeHead event).length = 224 := by
  simp only [encodeHead, List.length_append, encodeUint_length, encodeAddress_length]

theorem encodeBytes_length (bytes : Bytes) : bytes.length ≤ (encodeBytes bytes).length ∧
    (encodeBytes bytes).length % 32 = 0 := by
  simp only [encodeBytes, List.length_append, encodeUint_length, List.length_replicate]
  omega

theorem encodeData_length : (encodeData event).length =
    224 + (encodeBytes event.memo).length + (encodeBytes event.metadata).length := by
  simp only [encodeData, List.length_append, encodeHead_length]

theorem word_encodeData {slot : Nat} {entry : Bytes} (h : (headWords event)[slot]? = some entry) :
    word (encodeData event) slot = entry := by
  rw [encodeData, encodeHead_eq, List.append_assoc]
  exact word_flatten (headWords_sized event) h

variable {event}

theorem decodePayEvent_encodeLog (signature address : String) (logIndex : Double)
    (isText : IsText (hexText (encodeData event))) :
    decodePayEvent (encodeLog signature address logIndex event) = .ok event.decoded := by
  have hsize := encodeData_length event
  have hbounded : (encodeData event).length < 2 ^ significantBits := by
    have h := length_bufferFromHex (hexText (encodeData event))
    rw [bufferFromHex_hexText] at h
    exact h.trans_lt isText
  have hwide : 2 ^ significantBits ≤ 2 ^ 256 := by decide
  have htopic : ∀ n : BitVec 256, bigInt (some (hexText (encodeUint n.toNat))) =
      .ok (n.toNat : Int) := by
    intro n
    rw [bigInt_hexText, bigEndian_encodeUint n.isLt]
    intro hnil
    have hlength := encodeUint_length n.toNat
    rw [hnil] at hlength
    cases hlength
  have hslot : ∀ slot < 7, ∀ n < 2 ^ 256, word (encodeData event) slot = encodeUint n →
      offsetAt (encodeData event) slot = n := by
    intro slot _ n hn hword
    unfold offsetAt
    rw [hword, bigEndian_encodeUint hn]
  have hamount : uint (encodeData event) 2 = .ok (event.amount.toNat : Int) := by
    rw [uint_eq (by omega), hslot 2 (by decide) _ event.amount.isLt
      (word_encodeData event rfl)]
  have hcount : uint (encodeData event) 3 = .ok (event.newlyIssuedTokenCount.toNat : Int) := by
    rw [uint_eq (by omega), hslot 3 (by decide) _ event.newlyIssuedTokenCount.isLt
      (word_encodeData event rfl)]
  have hmemoSize := encodeBytes_length event.memo
  have hmetadataSize := encodeBytes_length event.metadata
  have hmemo : dynamic (encodeData event) 4 = .ok event.memo := by
    refine (dynamic_eq_ok hbounded (by omega)).mpr ?_
    refine @exactSlice_of_layout _ (encodeBytes event.metadata) 4 (encodeHead event) _ rfl ?_ ?_
      (by omega)
    · rw [encodeHead_length]
      exact hslot 4 (by decide) 224 (by decide) (word_encodeData event rfl)
    · rw [encodeHead_length]
  have hmetadata : dynamic (encodeData event) 5 = .ok event.metadata := by
    refine (dynamic_eq_ok hbounded (by omega)).mpr ?_
    have hfront : (encodeHead event ++ encodeBytes event.memo).length =
        224 + (encodeBytes event.memo).length := by
      rw [List.length_append, encodeHead_length]
    refine @exactSlice_of_layout _ [] 5 (encodeHead event ++ encodeBytes event.memo) _
      (List.append_nil _).symm ?_ ?_ (by omega)
    · rw [hfront]
      exact hslot 5 (by decide) _ (by omega) (word_encodeData event rfl)
    · rw [hfront]
      omega
  have hpayer := address_eq (@word_encodeData event 0 _ rfl)
  have hbeneficiary := address_eq (@word_encodeData event 1 _ rfl)
  have hcaller := address_eq (@word_encodeData event 6 _ rfl)
  unfold decodePayEvent
  have hdata : bufferFromHex (encodeLog signature address logIndex event).data =
      encodeData event := bufferFromHex_hexText _
  simp only [hdata]
  rw [if_neg (by omega)]
  simp only [encodeLog, List.getElem?_cons_succ, List.getElem?_cons_zero, htopic, hamount, hcount,
    hmemo, hmetadata, hpayer, hbeneficiary, hcaller, bind, Except.bind]
  rfl

theorem slices_of_decoded {log : QuorumReceiptLog} {decoded : DecodedPayEvent}
    (isText : IsText log.data) (h : decodePayEvent log = .ok decoded) :
    ExactSlice (bufferFromHex log.data) 4 decoded.memo ∧
      ExactSlice (bufferFromHex log.data) 5 decoded.metadata := by
  have hbounded := (length_bufferFromHex log.data).trans_lt isText
  unfold decodePayEvent at h
  dsimp only at h
  split_ifs at h with hshort
  obtain ⟨rulesetId, -, h⟩ := bind_ok.mp h
  obtain ⟨cycle, -, h⟩ := bind_ok.mp h
  obtain ⟨projectId, -, h⟩ := bind_ok.mp h
  obtain ⟨payer, -, h⟩ := bind_ok.mp h
  obtain ⟨beneficiary, -, h⟩ := bind_ok.mp h
  obtain ⟨amount, -, h⟩ := bind_ok.mp h
  obtain ⟨count, -, h⟩ := bind_ok.mp h
  obtain ⟨memo, hmemo, h⟩ := bind_ok.mp h
  obtain ⟨metadata, hmetadata, h⟩ := bind_ok.mp h
  obtain ⟨caller, -, h⟩ := bind_ok.mp h
  cases h
  exact ⟨(dynamic_eq_ok hbounded (by omega)).mp hmemo,
    (dynamic_eq_ok hbounded (by omega)).mp hmetadata⟩

/-- Decoding inverts the standard encoding, and on any data returns exact slices only. -/
theorem pay_event_decoding :
    (∀ (signature address : String) (logIndex : Double) (event : PayEvent),
      IsText (hexText (encodeData event)) →
        decodePayEvent (encodeLog signature address logIndex event) = .ok event.decoded) ∧
    ∀ (log : QuorumReceiptLog) (decoded : DecodedPayEvent), IsText log.data →
      decodePayEvent log = .ok decoded →
        ExactSlice (bufferFromHex log.data) 4 decoded.memo ∧
          ExactSlice (bufferFromHex log.data) 5 decoded.metadata :=
  ⟨fun signature address logIndex _ isText =>
    decodePayEvent_encodeLog signature address logIndex isText,
    fun _ _ isText h => slices_of_decoded isText h⟩

theorem isText_hexText {bytes : Bytes} (h : bytes.length < 2 ^ 51) : IsText (hexText bytes) := by
  unfold IsText significantBits
  rw [codeUnits_hexText, List.length_cons, List.length_cons, List.length_map, hexChars_length]
  omega

def sampleAccount (byte : UInt8) : Address := ⟨List.replicate 20 byte, List.length_replicate⟩

def sampleEvent : PayEvent where
  rulesetId := 7
  rulesetCycleNumber := 1
  projectId := 3
  payer := sampleAccount 10
  beneficiary := sampleAccount 11
  amount := 1000
  newlyIssuedTokenCount := 500
  memo := [104, 105]
  metadata := []
  caller := sampleAccount 12

theorem pay_event_decoding_sample :
    decodePayEvent (encodeLog "0x" "0x" (.finite 0) sampleEvent) = .ok sampleEvent.decoded ∧
      ExactSlice (bufferFromHex (encodeLog "0x" "0x" (.finite 0) sampleEvent).data) 4
        sampleEvent.memo ∧
      ExactSlice (bufferFromHex (encodeLog "0x" "0x" (.finite 0) sampleEvent).data) 5
        sampleEvent.metadata := by
  have isText : IsText (hexText (encodeData sampleEvent)) := by
    refine isText_hexText ?_
    rw [encodeData_length]
    simp only [encodeBytes, List.length_append, encodeUint_length, List.length_replicate,
      sampleEvent, List.length_cons, List.length_nil]
    omega
  have decoded := pay_event_decoding.1 "0x" "0x" (.finite 0) sampleEvent isText
  exact ⟨decoded, pay_event_decoding.2 _ sampleEvent.decoded isText decoded⟩

end

end JbChat.Chain.PayEvents
