/- source: src/production/delivery/valueObjects.ts
   digest: The text parsers of the delivery protocol and the texts they accept. -/

import JbChat.Foundation.Base64Url
import JbChat.Foundation.Transaction

/-!
Every accepted text is ASCII, so the code units that the source counts are the
characters counted here. Counters are kept as the numbers their texts denote, raw
hashes as the bytes their texts decode to.
-/

set_option autoImplicit false

namespace JbChat.Delivery.ValueObjects

open Foundation.HashTrace Foundation Foundation.Transaction

/-- What aborts a call: a refused value, or an error of the database. -/
inductive Failure where
  | invalid (message : String)
  | sql (constraint : String)
deriving DecidableEq

/-- `UTF-8` bytes of a text. -/
def utf8 (text : String) : Bytes := text.toUTF8.data.toList

def uint63Max : Nat := 2 ^ 63 - 1

def uint63MaxString : String := "9223372036854775807"

def defaultMaxBase64UrlBytes : Nat := 8 * 1024 * 1024

def zeroHash32 : String := "AAAAAAAAAAAAAAAAAAAAAAAAAAAAAAAAAAAAAAAAAAA"

/-- `/^(0|[1-9][0-9]*)$/` -/
def isDecimal : List Char → Bool
  | [] => false
  | ['0'] => true
  | first :: rest => first ≠ '0' && first.isDigit && rest.all Char.isDigit

/-- One character test for each position. -/
def matchesEach : List (Char → Bool) → List Char → Bool
  | [], [] => true
  | test :: tests, c :: rest => test c && matchesEach tests rest
  | _, _ => false

def isLowerHex (c : Char) : Bool := c.isDigit || ('a' ≤ c && c ≤ 'f')

/-- `/^[0-9a-f]{8}-[0-9a-f]{4}-V[0-9a-f]{3}-[89ab][0-9a-f]{3}-[0-9a-f]{12}$/` -/
def uuidTests (version : Char) : List (Char → Bool) :=
  List.replicate 8 isLowerHex ++ [(· == '-')] ++ List.replicate 4 isLowerHex ++ [(· == '-')] ++
    [(· == version)] ++ List.replicate 3 isLowerHex ++ [(· == '-')] ++
    [fun c => c == '8' || c == '9' || c == 'a' || c == 'b'] ++ List.replicate 3 isLowerHex ++
    [(· == '-')] ++ List.replicate 12 isLowerHex

def isUuidV4 (text : String) : Bool := matchesEach (uuidTests '4') text.toList

def isKeyChar (c : Char) : Bool := c.isDigit || ('a' ≤ c && c ≤ 'z')

/-- `/^[a-z0-9][a-z0-9._-]{0,63}$/` -/
def isSigningKeyId (text : String) : Bool :=
  match text.toList with
  | [] => false
  | first :: rest => isKeyChar first && decide (rest.length ≤ 63) &&
      rest.all fun c => isKeyChar c || c == '.' || c == '_' || c == '-'

def parseUuidV4 (value label : String) : Except Failure String :=
  if isUuidV4 value then .ok value
  else .error (.invalid (label ++ " must be a lowercase canonical UUIDv4."))

theorem parseUuidV4_eq_ok {value label parsed : String} :
    parseUuidV4 value label = .ok parsed ↔ isUuidV4 value = true ∧ parsed = value := by
  unfold parseUuidV4
  split_ifs with h
  · rw [Except.ok.injEq]
    exact ⟨fun hsame => ⟨h, hsame.symm⟩, fun hsame => hsame.2.symm⟩
  · exact ⟨fun hsame => (by cases hsame), fun hsame => absurd hsame.1 h⟩

def parseConversationId (value : String) : Except Failure String :=
  parseUuidV4 value "conversationId"

def parseSigningKeyId (value : String) : Except Failure String :=
  if isSigningKeyId value then .ok value
  else .error (.invalid ("signingKeyId must be 1-64 lowercase ASCII letters, digits, dot, " ++
    "underscore, or hyphen."))

def parseUint63String (value label : String) : Except Failure Nat :=
  if ¬ isDecimal value.toList then
    .error (.invalid (label ++ " must be a canonical uint63 decimal string."))
  else if value.length > uint63MaxString.length ∨
      Nat.ofDigitChars 10 value.toList 0 > uint63Max then
    .error (.invalid (label ++ " exceeds the version 1 uint63 ceiling."))
  else .ok (Nat.ofDigitChars 10 value.toList 0)

def parsePositiveUint63String (value label : String) : Except Failure Nat := do
  let parsed ← parseUint63String value label
  if value = "0" then .error (.invalid (label ++ " must be greater than zero."))
  else .ok parsed

def validateByteBounds (minBytes maxBytes : Nat) (label : String) : Except Failure Unit :=
  if maxBytes < minBytes ∨ maxBytes > defaultMaxBase64UrlBytes then
    .error (.invalid (label ++ " byte bounds are invalid."))
  else .ok ()

def parseCanonicalBase64Url (value label : String) (minBytes maxBytes : Nat) :
    Except Failure String := do
  validateByteBounds minBytes maxBytes label
  let remainder := value.length % 4
  let lastValue := Base64Url.alphabet.idxOf (value.toList.getLastD ' ')
  let decoded := Base64Url.decode value
  if ¬ (value.toList ≠ [] ∧ ∀ c ∈ value.toList, c ∈ Base64Url.alphabet) then
    .error (.invalid (label ++ " must be unpadded canonical base64url."))
  else if remainder = 1 ∨ (remainder = 2 ∧ lastValue % 16 ≠ 0) ∨
      (remainder = 3 ∧ lastValue % 4 ≠ 0) then
    .error (.invalid (label ++ " has non-canonical base64url tail bits."))
  else if value.length > (maxBytes * 4 + 2) / 3 then
    .error (.invalid (label ++ " exceeds its decoded byte limit."))
  else if decoded.length < minBytes ∨ decoded.length > maxBytes ∨
      Base64Url.encode decoded ≠ value then
    .error (.invalid (label ++ " is not canonical base64url within the byte bounds."))
  else .ok value

def parseHash32 (value label : String) : Except Failure String :=
  parseCanonicalBase64Url value label 32 32

def decodeHash32 (value label : String) : Except Failure Bytes := do
  let parsed ← parseCanonicalBase64Url value label 32 32
  .ok (Base64Url.decode parsed)

section

variable {n : Nat}

private theorem digitChar_of_isDigit {c : Char} (hc : c.isDigit = true) :
    Nat.digitChar (c.toNat - '0'.toNat) = c ∧ c.toNat - '0'.toNat < 10 := by
  have hrange : 48 ≤ c.toNat ∧ c.toNat ≤ 57 := by
    simp only [Char.isDigit, Bool.and_eq_true, decide_eq_true_eq] at hc
    exact ⟨hc.1, hc.2⟩
  have hback : Char.ofNat c.toNat = c := Char.ofNat_toNat c
  obtain ⟨hlow, hhigh⟩ := hrange
  refine ⟨?_, by simp only [Char.reduceToNat]; omega⟩
  rw [← hback]
  generalize c.toNat = n at hlow hhigh
  interval_cases n <;> rfl

private theorem toDigits_of_digits {first : Char} {rest : List Char} (hzero : first ≠ '0')
    (hfirst : first.isDigit = true) (hrest : ∀ c ∈ rest, c.isDigit = true) :
    0 < Nat.ofDigitChars 10 (first :: rest) 0 ∧
      Nat.toDigits 10 (Nat.ofDigitChars 10 (first :: rest) 0) = first :: rest := by
  induction rest using List.reverseRecOn with
  | nil =>
    obtain ⟨hchar, hlt⟩ := digitChar_of_isDigit hfirst
    have hvalue : Nat.ofDigitChars 10 [first] 0 = first.toNat - '0'.toNat := by
      simp [Nat.ofDigitChars]
    rw [hvalue, Nat.toDigits_of_lt_base hlt, hchar]
    refine ⟨Nat.pos_of_ne_zero fun h => hzero ?_, rfl⟩
    rw [← hchar, h]
    rfl
  | append_singleton init last ih =>
    obtain ⟨hpos, hdigits⟩ := ih fun c hc => hrest c (List.mem_append_left _ hc)
    obtain ⟨hchar, hlt⟩ := digitChar_of_isDigit (hrest last (by simp))
    have hvalue : Nat.ofDigitChars 10 (first :: (init ++ [last])) 0 =
        10 * Nat.ofDigitChars 10 (first :: init) 0 + (last.toNat - '0'.toNat) := by
      simp [Nat.ofDigitChars]
    rw [hvalue, ← Nat.toDigits_append_toDigits (by decide) hpos hlt, hdigits,
      Nat.toDigits_of_lt_base hlt, hchar]
    exact ⟨by omega, rfl⟩

theorem repr_of_isDecimal {text : String} (h : isDecimal text.toList = true) :
    text = (Nat.ofDigitChars 10 text.toList 0).repr := by
  rw [← String.toList_inj, Nat.toList_repr]
  cases hchars : text.toList with
  | nil =>
    rw [hchars] at h
    cases h
  | cons first rest =>
    rw [hchars] at h
    by_cases hzero : first = '0'
    · cases rest with
      | nil =>
        subst hzero
        rfl
      | cons second rest =>
        subst hzero
        simp [isDecimal] at h
    · have hsplit : first.isDigit = true ∧ rest.all Char.isDigit = true := by
        cases rest <;> simp_all [isDecimal]
      exact (toDigits_of_digits hzero hsplit.1 (List.all_eq_true.mp hsplit.2)).2.symm

private theorem toDigits_head (hn : 0 < n) :
    ∃ first rest, Nat.toDigits 10 n = first :: rest ∧ first ≠ '0' := by
  induction n using Nat.strong_induction_on with
  | h n ih =>
    by_cases hsmall : n < 10
    · refine ⟨n.digitChar, [], Nat.toDigits_of_lt_base hsmall, fun h => ?_⟩
      have := Nat.digitChar_eq_zero.mp h
      omega
    · obtain ⟨first, rest, hdigits, hne⟩ := ih (n / 10) (by omega) (by omega)
      exact ⟨first, rest ++ [Nat.digitChar (n % 10)],
        by rw [Nat.toDigits_of_base_le (by decide) (by omega), hdigits]; rfl, hne⟩

theorem repr_injective {m : Nat} (h : m.repr = n.repr) : m = n := by
  have hdigits : Nat.toDigits 10 m = Nat.toDigits 10 n := by
    rw [← Nat.toList_repr, h, Nat.toList_repr]
  rw [← Nat.ofDigitChars_ten_toDigits (n := m), hdigits, Nat.ofDigitChars_ten_toDigits]

theorem isDecimal_repr (n : Nat) : isDecimal n.repr.toList = true := by
  rw [Nat.toList_repr]
  by_cases hn : n = 0
  · subst hn
    rfl
  · obtain ⟨first, rest, hdigits, hne⟩ := toDigits_head (Nat.pos_of_ne_zero hn)
    have hall : ∀ c ∈ Nat.toDigits 10 n, c.isDigit = true := fun c hc =>
      Nat.isDigit_of_mem_toDigits (by decide) (by decide) hc
    rw [hdigits] at hall ⊢
    have hfirst := hall first (by simp)
    have hrest : rest.all Char.isDigit = true :=
      List.all_eq_true.mpr fun c hc => hall c (List.mem_cons_of_mem _ hc)
    cases rest <;> simp_all [isDecimal]

theorem parseUint63String_repr (hn : n ≤ uint63Max) (label : String) :
    parseUint63String n.repr label = .ok n := by
  have hlen : n.repr.length ≤ 19 := by
    rw [Nat.length_repr_le_iff (by decide)]
    have : uint63Max < 10 ^ 19 := by decide
    omega
  have hvalue : Nat.ofDigitChars 10 n.repr.toList 0 = n := by
    rw [Nat.toList_repr, Nat.ofDigitChars_ten_toDigits]
  have hmax : uint63MaxString.length = 19 := by decide
  rw [parseUint63String, if_neg (not_not.mpr (isDecimal_repr n)), if_neg, hvalue]
  rw [hvalue, hmax]
  omega

theorem parseUint63String_eq_ok {value label : String}
    (h : parseUint63String value label = .ok n) : value = n.repr ∧ n ≤ uint63Max := by
  unfold parseUint63String at h
  split at h
  · cases h
  · split at h
    · cases h
    · rename_i hdecimal hbound
      obtain rfl : Nat.ofDigitChars 10 value.toList 0 = n := by simpa using h
      refine ⟨repr_of_isDecimal (not_not.mp hdecimal), ?_⟩
      omega

theorem parsePositiveUint63String_eq_ok {value label : String}
    (h : parsePositiveUint63String value label = .ok n) :
    value = n.repr ∧ 1 ≤ n ∧ n ≤ uint63Max := by
  obtain ⟨parsed, hparse, hcheck⟩ := bind_ok.mp h
  obtain ⟨hrepr, hmax⟩ := parseUint63String_eq_ok hparse
  split at hcheck
  · cases hcheck
  · rename_i hzero
    obtain rfl : parsed = n := Except.ok.inj hcheck
    refine ⟨hrepr, Nat.pos_of_ne_zero fun hn => hzero ?_, hmax⟩
    rw [hrepr, hn]
    rfl

theorem parsePositiveUint63String_repr (hpos : 1 ≤ n) (hn : n ≤ uint63Max)
    (label : String) : parsePositiveUint63String n.repr label = .ok n := by
  have hne : n.repr ≠ "0" := fun h => by
    have hdigits : Nat.toDigits 10 n = Nat.toDigits 10 0 := by
      rw [← Nat.toList_repr, h]
      rfl
    have hzero : n = 0 := by
      rw [← Nat.ofDigitChars_ten_toDigits (n := n), hdigits, Nat.ofDigitChars_ten_toDigits]
    omega
  rw [parsePositiveUint63String, parseUint63String_repr hn]
  change (if n.repr = "0" then _ else _) = _
  rw [if_neg hne]

end

section

variable {bytes : Bytes}

theorem parseHash32_encode (h : bytes.length = 32) (label : String) :
    parseHash32 (Base64Url.encode bytes) label = .ok (Base64Url.encode bytes) := by
  have hchars : (Base64Url.encode bytes).toList = Base64Url.encodeChars bytes :=
    String.toList_ofList
  have hcount : (Base64Url.encodeChars bytes).length = 43 := by
    rw [Base64Url.encodeChars_length, h]
  have hlength : (Base64Url.encode bytes).length = 43 := by
    rw [← String.length_toList, hchars, hcount]
  have hne : Base64Url.encodeChars bytes ≠ [] := by
    intro hnil
    rw [hnil] at hcount
    exact absurd hcount (by decide)
  have htail : Base64Url.alphabet.idxOf ((Base64Url.encodeChars bytes).getLastD ' ') % 4 = 0 := by
    have hlast := List.getLast?_eq_getLast_of_ne_nil hne
    rw [List.getLastD_eq_getLast?, hlast]
    exact (Base64Url.encodeChars_tail hlast).2 (by rw [hcount])
  unfold parseHash32 parseCanonicalBase64Url validateByteBounds
  rw [if_neg (by decide)]
  change (if _ then _ else _) = _
  rw [hchars, hlength, Base64Url.decode_encode, h]
  rw [if_neg (not_not.mpr ⟨hne, fun c hc => Base64Url.encodeChars_mem hc⟩), if_neg, if_neg, if_neg]
  · simp
  · decide
  · simpa using htail

theorem parseCanonicalBase64Url_eq_ok {value label parsed : String} {minBytes maxBytes : Nat}
    (h : parseCanonicalBase64Url value label minBytes maxBytes = .ok parsed) :
    parsed = value ∧ minBytes ≤ (Base64Url.decode value).length ∧
      (Base64Url.decode value).length ≤ maxBytes ∧
      Base64Url.encode (Base64Url.decode value) = value := by
  unfold parseCanonicalBase64Url validateByteBounds at h
  split at h
  · cases h
  · change (if _ then _ else _) = _ at h
    split_ifs at h with hchars htail hlong hbounds
    obtain rfl : value = parsed := by simpa using h
    push Not at hbounds
    exact ⟨rfl, hbounds⟩

theorem decodeHash32_eq_ok {value label : String} (h : decodeHash32 value label = .ok bytes) :
    bytes.length = 32 ∧ Base64Url.encode bytes = value := by
  obtain ⟨parsed, hparse, hdecode⟩ := bind_ok.mp h
  obtain rfl : Base64Url.decode parsed = bytes := Except.ok.inj hdecode
  obtain ⟨rfl, hlow, hhigh, hcanonical⟩ := parseCanonicalBase64Url_eq_ok hparse
  exact ⟨by omega, hcanonical⟩

end

section

variable {text : String}

theorem utf8_injective {a b : String} (h : utf8 a = utf8 b) : a = b :=
  String.toByteArray_inj.mp (ByteArray.ext (Array.toList_inj.mp h))

theorem utf8_length_le (text : String) : (utf8 text).length ≤ 4 * text.toList.length := by
  have hlist (chars : List Char) : (String.ofList chars).utf8ByteSize ≤ 4 * chars.length := by
    induction chars with
    | nil => exact Nat.le_refl 0
    | cons c chars ih =>
      rw [String.ofList_cons, String.utf8ByteSize_append, String.utf8ByteSize_singleton,
        List.length_cons]
      have hchar := Char.utf8Size_le_four c
      omega
  have hbytes : (utf8 text).length = text.utf8ByteSize := rfl
  rw [hbytes]
  simpa using hlist text.toList

theorem length_le_utf8 (text : String) : text.toList.length ≤ (utf8 text).length := by
  have hlist (chars : List Char) : chars.length ≤ (String.ofList chars).utf8ByteSize := by
    induction chars with
    | nil => exact Nat.le_refl 0
    | cons c chars ih =>
      rw [String.ofList_cons, String.utf8ByteSize_append, String.utf8ByteSize_singleton,
        List.length_cons]
      have hchar := Char.utf8Size_pos c
      omega
  have hbytes : (utf8 text).length = text.utf8ByteSize := rfl
  rw [hbytes]
  simpa using hlist text.toList

theorem matchesEach_length {tests : List (Char → Bool)} {chars : List Char}
    (h : matchesEach tests chars = true) : chars.length = tests.length := by
  induction tests generalizing chars with
  | nil =>
    cases chars with
    | nil => rfl
    | cons c rest => cases h
  | cons test tests ih =>
    cases chars with
    | nil => cases h
    | cons c rest =>
      simp only [matchesEach, Bool.and_eq_true] at h
      rw [List.length_cons, List.length_cons, ih h.2]

theorem isUuidV4_length (h : isUuidV4 text = true) : text.toList.length = 36 :=
  matchesEach_length h

theorem isSigningKeyId_length (h : isSigningKeyId text = true) :
    text.toList.length ≤ 64 := by
  unfold isSigningKeyId at h
  split at h
  · cases h
  · rename_i first rest heq
    simp only [Bool.and_eq_true, decide_eq_true_eq] at h
    rw [heq, List.length_cons]
    omega

theorem repr_length_of_uint63 {n : Nat} (h : n ≤ uint63Max) : n.repr.toList.length ≤ 19 := by
  rw [String.length_toList]
  exact (Nat.length_repr_le_iff (by decide)).mpr (Nat.lt_of_le_of_lt h (by decide))

end

end JbChat.Delivery.ValueObjects
