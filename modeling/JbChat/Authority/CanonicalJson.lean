/- source: src/production/delivery/policyHeadIssuance.ts, src/production/authority/digests.ts
   digest: The two canonical JSON texts, over values with any code units. -/

import JbChat.Authority.Digests
import JbChat.Delivery.StrictJsonBytes
import JbChat.Foundation.CanonicalJson

/-!
A value is one that `JSON.parse` returns: a string is a list of UTF-16 code units, a number a
double. A text is given by its characters, since no text contains half of a surrogate pair.
-/

set_option autoImplicit false

namespace JbChat.Authority.CanonicalJson

open Foundation.HashTrace Foundation.JsonGrammar Foundation.CanonicalJson Delivery.ValueObjects
open Delivery.PolicyHeadBody Delivery.StrictJsonBytes ValueObjects

def policyHeadFormMessage : String :=
  "The policy-head canonical form admits only strings, arrays, and records."

def canonicalJcs : Json → Except String (List Char) :=
  canonicalText fun _ => .error policyHeadFormMessage

def integerOf : FloatValue → Option Int
  | .infinite _ => none
  | .finite negative significand exponent =>
    let sign : Int := if negative then -1 else 1
    if 0 ≤ exponent then some (sign * (significand * 2 ^ exponent.toNat : Nat))
    else if 2 ^ (-exponent).toNat ∣ significand then
      some (sign * (significand / 2 ^ (-exponent).toNat : Nat))
    else none

/-- `JSON.stringify` of a safe integer. -/
def integerText (value : Int) : List Char :=
  (if value < 0 then ['-'] else []) ++ Nat.toDigits 10 value.natAbs

def safeIntegerMessage : String := "Authority digest numbers must be safe integers."

def authorityScalar : Json → Except String (List Char)
  | .null => .ok ['n', 'u', 'l', 'l']
  | .boolean true => .ok ['t', 'r', 'u', 'e']
  | .boolean false => .ok ['f', 'a', 'l', 's', 'e']
  | .number number =>
    match integerOf number with
    | some value =>
      if value.natAbs ≤ maxSafeInteger then .ok (integerText value)
      else .error safeIntegerMessage
    | none => .error safeIntegerMessage
  | _ => .error "Authority digest input contains a non-JSON value."

def canonicalAuthorityJson : Json → Except String (List Char) := canonicalText authorityScalar

/-- The byte string that `computePolicyHeadHash` hashes for the text of a body. -/
def policyHeadInput (canonicalBody : List Char) : Bytes :=
  [utf8 policyHeadSignedBodyDomain, [0], utf8 (String.ofList canonicalBody)].flatten

theorem computePolicyHeadHash_eq (H : HashFunction) (canonicalBody : List Char) :
    computePolicyHeadHash H (utf8 (String.ofList canonicalBody)) =
      H.digest (policyHeadInput canonicalBody) := rfl

/-- The double of an integer; zero is the positive one. -/
def integerDouble (value : Int) : FloatValue :=
  nearestDouble (decide (value < 0)) value.natAbs 1

/-- Strings, arrays and records. -/
def IsJcsValue : Json → Prop := Admits fun _ => False

/-- The other values of an authority record. -/
def IsAuthorityScalar (value : Json) : Prop :=
  value = .null ∨ (∃ flag, value = .boolean flag) ∨
    ∃ number : Int, number.natAbs ≤ maxSafeInteger ∧ value = .number (integerDouble number)

def IsAuthorityValue : Json → Prop := Admits IsAuthorityScalar

theorem roundQuotient_one (n : Nat) : roundQuotient n 1 = n := by
  unfold roundQuotient
  rw [Nat.mod_one, Nat.div_one, if_pos (Or.inl (by decide))]

theorem leadingExponent_one {n : Nat} (h : 0 < n) : leadingExponent n 1 = n.log2 := by
  have hone : Nat.log2 1 = 0 := by decide
  have hpower : 2 ^ n.log2 ≤ n := Nat.log2_self_le (by omega)
  have hover : overPower n 1 (n.log2 : Int) = (n, 2 ^ n.log2) := by
    unfold overPower
    rw [if_pos (by omega), Int.toNat_natCast, one_mul]
  unfold leadingExponent
  simp only [hone, Nat.cast_zero, sub_zero, hover]
  rw [if_pos hpower]

theorem nearestDouble_small {n : Nat} (negative : Bool) (positive : 0 < n) (small : n < 2 ^ 53) :
    nearestDouble negative n 1 =
      .finite negative (n * 2 ^ (52 - n.log2)) (-((52 - n.log2 : Nat) : Int)) := by
  have hlog : n.log2 ≤ 52 := by
    have := (Nat.log2_lt (by omega)).mpr small
    omega
  have hexponent : max (leadingExponent n 1 - 52) (-1074) = -((52 - n.log2 : Nat) : Int) := by
    rw [leadingExponent_one positive]
    omega
  have hover : overPower n 1 (-((52 - n.log2 : Nat) : Int)) = (n * 2 ^ (52 - n.log2), 1) := by
    unfold overPower
    by_cases hzero : 52 - n.log2 = 0
    · rw [hzero]
      simp
    · rw [if_neg (by omega)]
      simp
  have hbound : n * 2 ^ (52 - n.log2) < 2 ^ 53 := by
    have hlt : n < 2 ^ (n.log2 + 1) := Nat.lt_log2_self
    calc n * 2 ^ (52 - n.log2) < 2 ^ (n.log2 + 1) * 2 ^ (52 - n.log2) :=
          Nat.mul_lt_mul_of_pos_right hlt (Nat.pow_pos (by decide))
      _ = 2 ^ 53 := by
          rw [← pow_add]
          congr 1
          omega
  have hpositive : n * 2 ^ (52 - n.log2) ≠ 0 :=
    Nat.ne_of_gt (Nat.mul_pos positive (Nat.pow_pos (by decide)))
  unfold nearestDouble
  rw [if_neg (by omega), hexponent]
  dsimp only
  rw [hover]
  simp only [roundQuotient_one]
  rw [if_neg hpositive, if_neg (Nat.ne_of_lt hbound)]
  dsimp only
  rw [if_neg (by omega)]

theorem integerOf_integerDouble {value : Int} (safe : value.natAbs ≤ maxSafeInteger) :
    integerOf (integerDouble value) = some value := by
  have small : value.natAbs < 2 ^ 53 := by
    unfold maxSafeInteger at safe
    omega
  unfold integerDouble
  by_cases hzero : value = 0
  · subst hzero
    decide
  · rw [nearestDouble_small _ (by omega) small]
    generalize 52 - value.natAbs.log2 = shift
    have hdvd : 2 ^ shift ∣ value.natAbs * 2 ^ shift := Dvd.intro_left _ rfl
    have hdiv : value.natAbs * 2 ^ shift / 2 ^ shift = value.natAbs :=
      Nat.mul_div_cancel _ (Nat.pow_pos (by decide))
    have hsign : (if decide (value < 0) then (-1 : Int) else 1) * (value.natAbs : Int) = value := by
      by_cases hneg : value < 0
      · rw [if_pos (decide_eq_true hneg)]
        omega
      · rw [if_neg (by simpa using hneg)]
        omega
    unfold integerOf
    by_cases hshift : shift = 0
    · subst hshift
      simp only [Nat.cast_zero, neg_zero, le_refl, if_true, Int.toNat_zero, pow_zero, mul_one]
      rw [hsign]
    · simp only [neg_neg, Int.toNat_natCast]
      rw [if_neg (by omega), if_pos hdvd, hdiv, hsign]

theorem digitsValue_toDigits (n : Nat) : digitsValue (Nat.toDigits 10 n) = n := by
  have hdigits : Nat.ofDigitChars 10 (Nat.toDigits 10 n) 0 = n := Nat.ofDigitChars_ten_toDigits
  rw [Nat.ofDigitChars_eq_foldl] at hdigits
  exact hdigits

theorem isDigit_of_core {c : Char} (h : c.isDigit = true) : isDigit c = true := by
  simp only [Char.isDigit, Bool.and_eq_true, decide_eq_true_eq] at h
  exact decide_eq_true h

theorem integerDigits_written (n : Nat) : IntegerText (Nat.toDigits 10 n) := by
  have canonical := Delivery.ValueObjects.isDecimal_repr n
  rw [Nat.toList_repr] at canonical
  cases hdigits : Nat.toDigits 10 n with
  | nil => exact absurd (hdigits ▸ canonical) (by decide)
  | cons first rest =>
    have hall : ∀ c ∈ first :: rest, c.isDigit = true := fun c hc =>
      Nat.isDigit_of_mem_toDigits (by decide) (by decide) (hdigits ▸ hc)
    rw [List.forall_mem_cons] at hall
    rw [hdigits] at canonical
    by_cases hzero : first = '0'
    · subst hzero
      cases rest with
      | nil => exact .zero
      | cons second rest => simp [Delivery.ValueObjects.isDecimal] at canonical
    · refine .digits ?_ fun c hc => isDigit_of_core (hall.2 c hc)
      have digit := of_decide_eq_true (isDigit_of_core hall.1)
      refine ⟨?_, digit.2⟩
      have hcode : first.toNat ≠ '0'.toNat := fun h => hzero (Char.toNat_inj.mp h)
      have hlow : '0'.toNat ≤ first.toNat := digit.1
      change '1'.toNat ≤ first.toNat
      simp only [Char.reduceToNat] at hcode hlow ⊢
      omega

theorem integerText_written (value : Int) :
    ValueText (integerText value) (.number (integerDouble value)) := by
  have parts : NumberText (integerText value)
      ⟨decide (value < 0), Nat.toDigits 10 value.natAbs, [], false, []⟩ := by
    have sign : SignText (if value < 0 then ['-'] else []) (decide (value < 0)) := by
      by_cases hneg : value < 0
      · rw [if_pos hneg, decide_eq_true hneg]
        exact .minus
      · rw [if_neg hneg, decide_eq_false hneg]
        exact .absent
    have written := @NumberText.mk _ [] []
      ⟨decide (value < 0), Nat.toDigits 10 value.natAbs, [], false, []⟩ sign
      (integerDigits_written value.natAbs) .absent .absent
    rw [List.append_nil, List.append_nil] at written
    exact written
  have double : NumberParts.value
      ⟨decide (value < 0), Nat.toDigits 10 value.natAbs, [], false, []⟩ = integerDouble value := by
    have none : digitsValue [] = 0 := rfl
    unfold NumberParts.value integerDouble
    simp [digitsValue_toDigits, none]
  have written := ValueText.number parts
  rw [double] at written
  exact written

theorem authorityScalar_integer {value : Int} (safe : value.natAbs ≤ maxSafeInteger) :
    authorityScalar (.number (integerDouble value)) = .ok (integerText value) := by
  rw [authorityScalar, integerOf_integerDouble safe]
  exact if_pos safe

theorem authorityScalar_readsBack : ReadsBack authorityScalar IsAuthorityScalar := by
  rintro value (rfl | ⟨flag, rfl⟩ | ⟨number, safe, rfl⟩)
  · exact ⟨_, rfl, .null⟩
  · cases flag with
    | true => exact ⟨_, rfl, .yes⟩
    | false => exact ⟨_, rfl, .no⟩
  · exact ⟨_, authorityScalar_integer safe, integerText_written number⟩

theorem refused_readsBack :
    ReadsBack (fun _ => (.error policyHeadFormMessage : Except String (List Char)))
      fun _ => False :=
  fun _ h => absurd h not_false

theorem jsonText_of_valueText {text : List Char} {value : Json} (written : ValueText text value) :
    JsonText text value :=
  ⟨bareElement text value, bareElement_blanks text value, written,
    (bareElement_text text value).symm, rfl⟩

theorem valueText_unique {text : List Char} {value other : Json} (written : ValueText text value)
    (written' : ValueText text other) : value = other :=
  jsonText_unique (jsonText_of_valueText written) (jsonText_of_valueText written')

/-- Texts are equal for values that are equal up to the order of members, and for no others, and
a text is the text of one value, which is the value written up to that order. -/
structure Canonical (writer : Json → Except String (List Char)) (domain : Json → Prop)
    (value other : Json) : Prop where
  same_iff : writer value = writer other ↔ SameValue value other
  reads_back : ∃ text parsed, writer value = .ok text ∧ JsonText text parsed ∧
    (∀ another, JsonText text another → another = parsed) ∧ domain parsed ∧
      SameValue value parsed

theorem canonical_of_readsBack {scalar : Json → Except String (List Char)}
    {admitted : Json → Prop} (readsBack : ReadsBack scalar admitted) {value other : Json}
    (hvalue : Admits admitted value) (hother : Admits admitted other) :
    Canonical (canonicalText scalar) (Admits admitted) value other := by
  refine ⟨canonicalText_eq_iff readsBack valueText_unique hvalue hother, ?_⟩
  obtain ⟨text, htext, written⟩ := canonicalText_written readsBack value hvalue
  have parsed := jsonText_of_valueText written
  exact ⟨text, ordered value, htext, parsed, fun _ h => jsonText_unique h parsed,
    admits_ordered value hvalue, same_ordered value⟩

theorem policyHeadInput_inj {text text' : List Char} :
    policyHeadInput text = policyHeadInput text' ↔ text = text' := by
  refine ⟨fun h => ?_, congrArg policyHeadInput⟩
  unfold policyHeadInput at h
  simp only [List.flatten_cons, List.flatten_nil, List.append_nil, List.append_cancel_left_eq] at h
  exact String.ofList_injective (utf8_injective h)

theorem authority_covers (value : Json) :
    Covers (canonicalJcs value) (canonicalAuthorityJson value) := by
  refine canonicalText_covers (fun _ _ h => ?_) value
  cases h

def sampleBody : Json := .object [([0x22, 0x3a], .string [0xD800]), ([0x61], .array [.string []])]

def turnedBody : Json := .object [([0x61], .array [.string []]), ([0x22, 0x3a], .string [0xD800])]

def sampleRecord : Json :=
  .object [([0x6e], .number (integerDouble (-7))), ([0x66], .array [.null, .boolean false])]

def turnedRecord : Json :=
  .object [([0x66], .array [.null, .boolean false]), ([0x6e], .number (integerDouble (-7)))]

theorem areUnits_of_all {units : List Nat} (h : units.all (decide <| · < 0x10000) = true) :
    AreUnits units := fun unit hunit => of_decide_eq_true (List.all_eq_true.mp h unit hunit)

theorem sampleBody_jcs : IsJcsValue sampleBody :=
  ⟨by decide, ⟨areUnits_of_all rfl, areUnits_of_all rfl⟩,
    ⟨areUnits_of_all rfl, areUnits_of_all rfl, trivial⟩, trivial⟩

theorem turnedBody_jcs : IsJcsValue turnedBody :=
  ⟨by decide, ⟨areUnits_of_all rfl, areUnits_of_all rfl, trivial⟩,
    ⟨areUnits_of_all rfl, areUnits_of_all rfl⟩, trivial⟩

theorem seven_scalar : IsAuthorityScalar (.number (integerDouble (-7))) :=
  .inr (.inr ⟨-7, by decide, rfl⟩)

theorem sampleList_authority : AdmitsAll IsAuthorityScalar [.null, .boolean false] :=
  ⟨.inl rfl, .inr (.inl ⟨false, rfl⟩), trivial⟩

theorem sampleRecord_authority : IsAuthorityValue sampleRecord :=
  ⟨by decide, ⟨areUnits_of_all rfl, seven_scalar⟩,
    ⟨areUnits_of_all rfl, sampleList_authority⟩, trivial⟩

theorem turnedRecord_authority : IsAuthorityValue turnedRecord :=
  ⟨by decide, ⟨areUnits_of_all rfl, sampleList_authority⟩,
    ⟨areUnits_of_all rfl, seven_scalar⟩, trivial⟩

/-- The two canonical texts are canonical, over any code units, and agree where both exist. -/
theorem canonical_json_exact (body other value another : Json) (hbody : IsJcsValue body)
    (hother : IsJcsValue other) (hvalue : IsAuthorityValue value)
    (hanother : IsAuthorityValue another) :
    Canonical canonicalJcs IsJcsValue body other ∧
      (∃ text text', canonicalJcs body = .ok text ∧ canonicalJcs other = .ok text' ∧
        (policyHeadInput text = policyHeadInput text' ↔ SameValue body other)) ∧
      Canonical canonicalAuthorityJson IsAuthorityValue value another ∧
      ∀ common, IsJcsValue common →
        ∃ text, canonicalJcs common = .ok text ∧ canonicalAuthorityJson common = .ok text := by
  have canonical := canonical_of_readsBack refused_readsBack hbody hother
  refine ⟨canonical, ?_, canonical_of_readsBack authorityScalar_readsBack hvalue hanother, ?_⟩
  · obtain ⟨text, htext, -⟩ := canonicalText_written refused_readsBack body hbody
    obtain ⟨text', htext', -⟩ := canonicalText_written refused_readsBack other hother
    refine ⟨text, text', htext, htext', policyHeadInput_inj.trans ?_⟩
    rw [← canonical.same_iff]
    refine ⟨fun same => ?_, fun same => ?_⟩
    · exact htext.trans (same ▸ htext'.symm)
    · exact Except.ok.inj (htext.symm.trans (same.trans htext'))
  · intro common hcommon
    obtain ⟨text, htext, -⟩ := canonicalText_written refused_readsBack common hcommon
    exact ⟨text, htext, authority_covers common text htext⟩

theorem canonical_json_exact_sample :
    canonicalJcs sampleBody = canonicalJcs turnedBody ∧
      canonicalAuthorityJson sampleRecord = canonicalAuthorityJson turnedRecord ∧
      canonicalAuthorityJson sampleRecord =
        .ok "\x7b\"f\":[null,false],\"n\":-7\x7d".toList := by
  obtain ⟨bodies, -, records, -⟩ := canonical_json_exact sampleBody turnedBody sampleRecord
    turnedRecord sampleBody_jcs turnedBody_jcs sampleRecord_authority turnedRecord_authority
  refine ⟨bodies.same_iff.mpr ?_, records.same_iff.mpr ?_, by decide⟩
  · exact ⟨rfl, ⟨_, .tail _ (.head _), rfl⟩, ⟨_, .head _, rfl, rfl⟩, trivial⟩
  · exact ⟨rfl, ⟨_, .tail _ (.head _), rfl⟩, ⟨_, .head _, rfl, rfl, rfl⟩, trivial⟩

end JbChat.Authority.CanonicalJson
