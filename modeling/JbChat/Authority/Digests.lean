/- source: src/production/authority/digests.ts
   digest: The key-sorted text of a value and the digests that commit to it. -/

import JbChat.Authority.ValueObjects
import JbChat.Delivery.PolicyHeadBody

set_option autoImplicit false

namespace JbChat.Authority.Digests

open Foundation.HashTrace Foundation.Transaction Delivery.ValueObjects Delivery.PolicyHeadBody
open ValueObjects

def memberText (key : String) (text : Checked String) : Checked String :=
  text.map fun value => jsonText key ++ ":" ++ value

/-- The members in the order of their keys, which are ASCII. -/
def sortMembers {α : Type} (members : List (String × α)) : List (String × α) :=
  members.insertionSort fun a b => a.1 ≤ b.1

/-- The first refusal among the texts, or all of them. -/
def allTexts (texts : List (Checked String)) : Checked (List String) := texts.mapM id

mutual

def serialize : JsonValue → Checked String
  | .null => .ok "null"
  | .text value => .ok (jsonText value)
  | .boolean value => .ok (if value then "true" else "false")
  | .integer value =>
    if maxSafeInteger < value.natAbs then
      invalid "Authority digest numbers must be safe integers."
    else .ok value.repr
  | .negativeZero => .ok "0"
  | .fraction _ => invalid "Authority digest numbers must be safe integers."
  | .array entries => do
    let texts ← allTexts (serializeEntries entries)
    .ok ("[" ++ String.intercalate "," texts ++ "]")
  | .record members => do
    let texts ← allTexts ((sortMembers (serializeMembers members)).map fun member =>
      memberText member.1 member.2)
    .ok ("\x7b" ++ String.intercalate "," texts ++ "\x7d")
  | .exotic => invalid "Authority digest objects must be plain records."
  | .undefined => invalid "Authority digest input contains a non-JSON value."
  | .foreign => invalid "Authority digest input contains a non-JSON value."

def serializeEntries : List JsonValue → List (Checked String)
  | [] => []
  | entry :: entries => serialize entry :: serializeEntries entries

def serializeMembers : List (String × JsonValue) → List (String × Checked String)
  | [] => []
  | (key, value) :: members => (key, serialize value) :: serializeMembers members

end

def canonicalAuthorityJson (value : JsonValue) : Checked String := serialize value

mutual

def isPlain : JsonValue → Bool
  | .null => true
  | .text _ => true
  | .boolean _ => true
  | .integer value => decide (value.natAbs ≤ maxSafeInteger)
  | .negativeZero => true
  | .fraction _ => false
  | .array entries => entriesPlain entries
  | .record members => membersPlain members
  | .exotic => false
  | .undefined => false
  | .foreign => false

def entriesPlain : List JsonValue → Bool
  | [] => true
  | entry :: entries => isPlain entry && entriesPlain entries

def membersPlain : List (String × JsonValue) → Bool
  | [] => true
  | (_, value) :: members => isPlain value && membersPlain members

end

@[simp] theorem isPlain_text (value : String) : isPlain (.text value) = true := rfl

@[simp] theorem isPlain_null : isPlain .null = true := rfl

@[simp] theorem isPlain_array (entries : List JsonValue) :
    isPlain (.array entries) = entriesPlain entries := rfl

@[simp] theorem isPlain_record (members : Members) :
    isPlain (.record members) = membersPlain members := rfl

@[simp] theorem membersPlain_nil : membersPlain [] = true := rfl

@[simp] theorem membersPlain_cons (key : String) (value : JsonValue) (members : Members) :
    membersPlain ((key, value) :: members) = (isPlain value && membersPlain members) := rfl

theorem isPlain_natural {number : Nat} (h : number ≤ maxSafeInteger) :
    isPlain (.integer number) = true := by
  unfold isPlain
  rw [Int.natAbs_natCast]
  exact decide_eq_true h

theorem isPlain_chainId (chainId : JuiceboxV6ChainId) :
    isPlain (.integer chainId.val) = true := by
  have hall : ∀ number ∈ chainIds, number ≤ maxSafeInteger := by decide
  exact isPlain_natural (hall chainId.val chainId.property)

theorem entriesPlain_map {α : Type} {render : α → JsonValue}
    (h : ∀ value, isPlain (render value) = true) (values : List α) :
    entriesPlain (values.map render) = true := by
  induction values with
  | nil => rfl
  | cons value values ih =>
    rw [List.map_cons, entriesPlain, h value, ih]
    rfl

theorem isPlain_nullable {α : Type} {render : α → JsonValue}
    (h : ∀ value, isPlain (render value) = true) (value : Option α) :
    isPlain (nullable render value) = true := by
  cases value with
  | none => rfl
  | some value => exact h value

@[simp] theorem isPlain_decimal (number : Uint256Decimal) : isPlain (decimal number) = true := rfl

@[simp] theorem isPlain_project (project : JuiceboxV6ProjectRef) :
    isPlain (projectJson project) = true := by
  have hversion : isPlain (.integer 6) = true := rfl
  unfold projectJson
  simp only [isPlain_record, membersPlain_cons, isPlain_text, isPlain_chainId,
    isPlain_natural project.projectId.property.2, hversion, membersPlain_nil, Bool.and_self]

theorem allTexts_eq_ok {texts : List (Checked String)} {values : List String} :
    allTexts texts = .ok values ↔ texts = values.map .ok := by
  unfold allTexts
  induction texts generalizing values with
  | nil =>
    rw [List.mapM_nil]
    constructor
    · intro h
      rw [← Except.ok.inj h]
      rfl
    · intro h
      rw [List.map_eq_nil_iff.mp h.symm]
      rfl
  | cons text texts ih =>
    rw [List.mapM_cons]
    constructor
    · intro h
      obtain ⟨value, hvalue, h⟩ := bind_ok.mp h
      obtain ⟨rest, hrest, h⟩ := bind_ok.mp h
      rw [← Except.ok.inj h, List.map_cons, ← ih.mp hrest]
      exact congrArg (· :: texts) hvalue
    · intro h
      obtain ⟨value, rest, rfl, rfl, hrest⟩ := List.map_eq_cons_iff.mp h.symm
      rw [ih.mpr hrest.symm]
      rfl

theorem exists_texts {texts : List (Checked String)}
    (h : ∀ text ∈ texts, ∃ value, text = .ok value) : ∃ values, allTexts texts = .ok values := by
  induction texts with
  | nil => exact ⟨[], rfl⟩
  | cons text texts ih =>
    obtain ⟨value, rfl⟩ := h text List.mem_cons_self
    obtain ⟨values, hvalues⟩ := ih fun other hother => h other (List.mem_cons_of_mem _ hother)
    exact ⟨value :: values, allTexts_eq_ok.mpr (by rw [allTexts_eq_ok.mp hvalues]; rfl)⟩

mutual

theorem serialize_of_isPlain : (value : JsonValue) → isPlain value = true →
    ∃ text, serialize value = .ok text
  | .null, _ => ⟨_, rfl⟩
  | .text _, _ => ⟨_, rfl⟩
  | .boolean _, _ => ⟨_, rfl⟩
  | .integer number, h => by
    unfold serialize
    exact ⟨_, if_neg (Nat.not_lt.mpr (of_decide_eq_true h))⟩
  | .negativeZero, _ => ⟨_, rfl⟩
  | .array entries, h => by
    obtain ⟨texts, htexts⟩ := exists_texts (serializeEntries_of_plain entries h)
    unfold serialize
    rw [htexts]
    exact ⟨_, rfl⟩
  | .record members, h => by
    have written : ∀ text ∈ (sortMembers (serializeMembers members)).map fun member =>
        memberText member.1 member.2, ∃ value, text = .ok value := by
      intro text htext
      obtain ⟨member, hmember, rfl⟩ := List.mem_map.mp htext
      obtain ⟨value, hvalue⟩ := serializeMembers_of_plain members h member
        ((List.mem_insertionSort _).mp hmember)
      exact ⟨_, by rw [hvalue]; rfl⟩
    obtain ⟨texts, htexts⟩ := exists_texts written
    unfold serialize
    rw [htexts]
    exact ⟨_, rfl⟩

theorem serializeEntries_of_plain : (entries : List JsonValue) → entriesPlain entries = true →
    ∀ text ∈ serializeEntries entries, ∃ value, text = .ok value
  | [], _ => fun _ h => absurd h List.not_mem_nil
  | entry :: entries, h => by
    obtain ⟨hentry, hentries⟩ := Bool.and_eq_true_iff.mp h
    intro text htext
    rcases List.mem_cons.mp htext with rfl | hlater
    · exact serialize_of_isPlain entry hentry
    · exact serializeEntries_of_plain entries hentries text hlater

theorem serializeMembers_of_plain : (members : List (String × JsonValue)) →
    membersPlain members = true → ∀ member ∈ serializeMembers members, ∃ value,
      member.2 = .ok value
  | [], _ => fun _ h => absurd h List.not_mem_nil
  | (key, value) :: members, h => by
    obtain ⟨hvalue, hmembers⟩ := Bool.and_eq_true_iff.mp h
    intro member hmember
    rcases List.mem_cons.mp hmember with rfl | hlater
    · exact serialize_of_isPlain value hvalue
    · exact serializeMembers_of_plain members hmembers member hlater

end

def hexText (bytes : Bytes) : List Char :=
  bytes.flatMap fun byte => [hexDigit (byte.toNat / 16), hexDigit (byte.toNat % 16)]

theorem isLowerHex_hexDigit {n : Nat} (h : n < 16) : isLowerHex (hexDigit n) = true := by
  interval_cases n <;> rfl

theorem hexText_length (bytes : Bytes) : (hexText bytes).length = 2 * bytes.length := by
  unfold hexText
  rw [List.length_flatMap]
  simp [Nat.mul_comm]

theorem isLowerHex_hexText (bytes : Bytes) : (hexText bytes).all isLowerHex = true := by
  rw [List.all_eq_true]
  intro c hc
  unfold hexText at hc
  obtain ⟨byte, -, hbyte⟩ := List.mem_flatMap.mp hc
  have hbound : byte.toNat < 256 := byte.toNat_lt
  rcases List.mem_cons.mp hbyte with rfl | hlow
  · exact isLowerHex_hexDigit (by omega)
  · obtain rfl := List.mem_singleton.mp hlow
    exact isLowerHex_hexDigit (by omega)

/-- `0x` and the digits of a hash. -/
def hashText (H : HashFunction) (input : Bytes) : Hash32 :=
  ⟨String.ofList ('0' :: 'x' :: hexText (H.digest input)), by
    unfold isCanonicalHex
    rw [String.toList_ofList]
    change (decide ((hexText (H.digest input)).length = 64) && _) = true
    rw [hexText_length, H.length_digest, isLowerHex_hexText]
    rfl⟩

def sha256AuthorityDigest (H : HashFunction) (value : JsonValue) : Checked Hash32 := do
  let text ← canonicalAuthorityJson value
  .ok (hashText H (utf8 text))

theorem digest_of_isPlain (H : HashFunction) {value : JsonValue} (plain : isPlain value = true) :
    ∃ text, serialize value = .ok text ∧
      sha256AuthorityDigest H value = .ok (hashText H (utf8 text)) := by
  obtain ⟨text, htext⟩ := serialize_of_isPlain value plain
  refine ⟨text, htext, ?_⟩
  unfold sha256AuthorityDigest canonicalAuthorityJson
  rw [htext]
  rfl

end JbChat.Authority.Digests
