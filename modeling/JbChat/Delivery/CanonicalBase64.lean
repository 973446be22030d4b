/- source: src/production/delivery/valueObjects.ts
   digest: The accepted texts are the encodings of the byte strings within the bounds. -/

import JbChat.Delivery.ValueObjects
import JbChat.Foundation.CodeUnits

set_option autoImplicit false

namespace JbChat.Delivery.CanonicalBase64

open Foundation Foundation.CodeUnits Foundation.HashTrace Foundation.Transaction ValueObjects

/-- The code units that the expression `BASE64URL` admits. -/
def alphabetUnits : List Nat := Base64Url.alphabet.map Char.toNat

/-- The text of code units that are all characters of their own. -/
def textOf (value : List Nat) : String := String.ofList (value.map Char.ofNat)

/-- `parseCanonicalBase64Url` on any string: a unit outside the alphabet, such as an
unpaired surrogate, fails the expression, and the rest is read as a text. -/
def parseCanonicalBase64UrlUnits (value : List Nat) (label : String) (minBytes maxBytes : Nat) :
    Except Failure (List Nat) := do
  validateByteBounds minBytes maxBytes label
  if ¬ (value ≠ [] ∧ ∀ unit ∈ value, unit ∈ alphabetUnits) then
    .error (.invalid (label ++ " must be unpadded canonical base64url."))
  else do
    let _ ← parseCanonicalBase64Url (textOf value) label minBytes maxBytes
    .ok value

def Accepts (value : List Nat) (label : String) (minBytes maxBytes : Nat) : Prop :=
  parseCanonicalBase64UrlUnits value label minBytes maxBytes = .ok value

instance (value : List Nat) (label : String) (minBytes maxBytes : Nat) :
    Decidable (Accepts value label minBytes maxBytes) :=
  inferInstanceAs (Decidable (_ = _))

theorem ascii_of_mem {c : Char} (h : c ∈ Base64Url.alphabet) : c.toNat < 0x10000 := by
  have hall : (Base64Url.alphabet.all fun c => decide (c.toNat < 0x10000)) = true := by
    rw [Base64Url.alphabet_eq]
    rfl
  exact of_decide_eq_true (List.all_eq_true.mp hall c h)

theorem codeUnits_encode (bytes : Bytes) :
    codeUnits (Base64Url.encode bytes) = (Base64Url.encodeChars bytes).map Char.toNat := by
  rw [codeUnits, Base64Url.encode, String.toList_ofList]
  exact CodeUnits.flatMap_charUnits fun c hc => ascii_of_mem (Base64Url.encodeChars_mem hc)

theorem textOf_codeUnits (bytes : Bytes) :
    textOf (codeUnits (Base64Url.encode bytes)) = Base64Url.encode bytes := by
  rw [codeUnits_encode, textOf, List.map_map]
  have hsame : Char.ofNat ∘ Char.toNat = id := by
    funext c
    exact Char.ofNat_toNat c
  rw [hsame, List.map_id, Base64Url.encode]

theorem codeUnits_textOf {value : List Nat} (h : ∀ unit ∈ value, unit ∈ alphabetUnits) :
    codeUnits (textOf value) = value := by
  have hback : ∀ unit ∈ value, (Char.ofNat unit).toNat = unit ∧ unit < 0x10000 := by
    intro unit hunit
    obtain ⟨c, hc, rfl⟩ := List.mem_map.mp (h unit hunit)
    rw [Char.ofNat_toNat]
    exact ⟨rfl, ascii_of_mem hc⟩
  rw [codeUnits, textOf, String.toList_ofList, CodeUnits.flatMap_charUnits, List.map_map]
  · exact (List.map_congr_left fun unit hunit => (hback unit hunit).1).trans (List.map_id _)
  · intro c hc
    obtain ⟨unit, hunit, rfl⟩ := List.mem_map.mp hc
    rw [(hback unit hunit).1]
    exact (hback unit hunit).2

section

variable {value : List Nat} {label : String} {minBytes maxBytes : Nat}

theorem parse_encode {bytes : Bytes} (bounds : validateByteBounds minBytes maxBytes label = .ok ())
    (present : bytes ≠ []) (low : minBytes ≤ bytes.length) (high : bytes.length ≤ maxBytes) :
    parseCanonicalBase64Url (Base64Url.encode bytes) label minBytes maxBytes =
      .ok (Base64Url.encode bytes) := by
  have hchars : (Base64Url.encode bytes).toList = Base64Url.encodeChars bytes :=
    String.toList_ofList
  have hcount := Base64Url.encodeChars_length bytes
  have hlength : (Base64Url.encode bytes).length = (Base64Url.encodeChars bytes).length := by
    rw [← String.length_toList, hchars]
  have hpos : 0 < bytes.length := List.length_pos_iff.mpr present
  have hne : Base64Url.encodeChars bytes ≠ [] := by
    intro hnil
    rw [hnil, List.length_nil] at hcount
    omega
  have hlast := List.getLast?_eq_getLast_of_ne_nil hne
  have htail := Base64Url.encodeChars_tail hlast
  have hlastD : (Base64Url.encodeChars bytes).getLastD ' ' =
      (Base64Url.encodeChars bytes).getLast hne := by
    rw [List.getLastD_eq_getLast?, hlast]
    rfl
  unfold parseCanonicalBase64Url
  rw [bounds]
  simp only [bind, Except.bind]
  rw [hchars, hlength, hlastD, Base64Url.decode_encode,
    if_neg (not_not.mpr ⟨hne, fun c hc => Base64Url.encodeChars_mem hc⟩), if_neg, if_neg, if_neg]
  · rintro (hlow | hhigh | hother)
    · omega
    · omega
    · exact hother rfl
  · omega
  · rintro (hone | ⟨htwo, hbits⟩ | ⟨hthree, hbits⟩)
    · omega
    · exact hbits (htail.1 htwo)
    · exact hbits (htail.2 hthree)

theorem accepts_iff (bounds : validateByteBounds minBytes maxBytes label = .ok ()) :
    Accepts value label minBytes maxBytes ↔ value ≠ [] ∧ ∃ bytes : Bytes,
      minBytes ≤ bytes.length ∧ bytes.length ≤ maxBytes ∧
        value = codeUnits (Base64Url.encode bytes) := by
  unfold Accepts parseCanonicalBase64UrlUnits
  rw [bounds]
  change (if _ then _ else _) = _ ↔ _
  constructor
  · intro h
    split_ifs at h with hunits
    obtain ⟨parsed, hparse, -⟩ := bind_ok.mp h
    obtain ⟨-, hlow, hhigh, hsame⟩ := parseCanonicalBase64Url_eq_ok hparse
    obtain ⟨hne, hmem⟩ := hunits
    refine ⟨hne, Base64Url.decode (textOf value), hlow, hhigh, ?_⟩
    rw [hsame, codeUnits_textOf hmem]
  · rintro ⟨hne, bytes, hlow, hhigh, rfl⟩
    have hsome : bytes ≠ [] := by
      rintro rfl
      exact hne rfl
    have hmem : ∀ unit ∈ codeUnits (Base64Url.encode bytes), unit ∈ alphabetUnits := by
      intro unit hunit
      rw [codeUnits_encode] at hunit
      obtain ⟨c, hc, rfl⟩ := List.mem_map.mp hunit
      exact List.mem_map_of_mem (Base64Url.encodeChars_mem hc)
    rw [if_neg (not_not.mpr ⟨hne, hmem⟩), textOf_codeUnits, parse_encode bounds hsome hlow hhigh]
    rfl

/-- The accepted strings are the non-empty encodings within the bounds; each is the encoding of
what it decodes to, and no two of them decode alike. -/
theorem canonical_base64url_exact (label : String) (minBytes maxBytes : Nat)
    (bounds : validateByteBounds minBytes maxBytes label = .ok ()) :
    (∀ value : List Nat, Accepts value label minBytes maxBytes ↔ value ≠ [] ∧ ∃ bytes : Bytes,
      minBytes ≤ bytes.length ∧ bytes.length ≤ maxBytes ∧
        value = codeUnits (Base64Url.encode bytes)) ∧
      (∀ value : List Nat, Accepts value label minBytes maxBytes →
        codeUnits (Base64Url.encode (Base64Url.decode (textOf value))) = value) ∧
      ∀ first second : List Nat, Accepts first label minBytes maxBytes →
        Accepts second label minBytes maxBytes →
        Base64Url.decode (textOf first) = Base64Url.decode (textOf second) → first = second := by
  have round : ∀ value : List Nat, Accepts value label minBytes maxBytes →
      codeUnits (Base64Url.encode (Base64Url.decode (textOf value))) = value := by
    intro value h
    obtain ⟨-, bytes, -, -, rfl⟩ := (accepts_iff bounds).mp h
    rw [textOf_codeUnits, Base64Url.decode_encode]
  refine ⟨fun value => accepts_iff bounds, round, ?_⟩
  intro first second hfirst hsecond hsame
  rw [← round first hfirst, hsame, round second hsecond]

theorem canonical_base64url_exact_sample :
    (∀ value : List Nat, Accepts value "bytes" 1 3 ↔ value ≠ [] ∧ ∃ bytes : Bytes,
      1 ≤ bytes.length ∧ bytes.length ≤ 3 ∧ value = codeUnits (Base64Url.encode bytes)) ∧
      (∀ value : List Nat, Accepts value "bytes" 1 3 →
        codeUnits (Base64Url.encode (Base64Url.decode (textOf value))) = value) ∧
      ∀ first second : List Nat, Accepts first "bytes" 1 3 → Accepts second "bytes" 1 3 →
        Base64Url.decode (textOf first) = Base64Url.decode (textOf second) → first = second :=
  canonical_base64url_exact "bytes" 1 3 rfl

/-- The empty string encodes the empty byte string and is refused where that is in bounds. -/
theorem empty_encoding_refused :
    validateByteBounds 0 0 "bytes" = .ok () ∧ ¬ Accepts [] "bytes" 0 0 ∧
      ∃ bytes : Bytes, 0 ≤ bytes.length ∧ bytes.length ≤ 0 ∧
        ([] : List Nat) = codeUnits (Base64Url.encode bytes) := by
  refine ⟨rfl, ?_, [], Nat.le_refl _, Nat.le_refl _, rfl⟩
  intro h
  cases h

end

end JbChat.Delivery.CanonicalBase64
