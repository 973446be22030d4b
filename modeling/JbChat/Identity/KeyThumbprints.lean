/- source: src/production/identity/identityCrypto.ts, src/production/http/dpop.ts
   digest: The thumbprint of a device key against the point that the key spells. -/

import JbChat.Delivery.QuotedText
import JbChat.Http.Dpop

/-!
A coordinate is spelled by 43 characters of six bits, two more bits than its 32 bytes have. The
thumbprint is of the spelling, and signatures are checked under the decoded point.
-/

set_option autoImplicit false

namespace JbChat.Identity.KeyThumbprints

open Foundation.HashTrace Foundation.Base64Url Foundation.Transaction Delivery.ValueObjects
open Delivery.Hashes Delivery.PolicyHeadBody Delivery.QuotedText Http.Dpop

/-- The pattern of a coordinate at enrollment. -/
def isCoordinateText (text : String) : Bool :=
  decide (text.toList.length = 43) && text.toList.all fun c => decide (c ∈ alphabet)

/-- A strict key has six members; four of them are literals, so the key is its two coordinates. -/
def parseP256PublicJwk (value : JsonValue) : Except String ProofKey :=
  match value with
  | .record members =>
    match value.property "x", value.property "y" with
    | some (some (.text x)), some (some (.text y)) =>
      if members.length ≠ 6 ∨ ¬ (value.property "kty").any (JsonValue.isText "EC") ∨
          ¬ (value.property "crv").any (JsonValue.isText "P-256") ∨
          ¬ (value.property "use").any (JsonValue.isText "sig") ∨
          ¬ (value.property "alg").any (JsonValue.isText "ES256") ∨
          ¬ isCoordinateText x ∨ ¬ isCoordinateText y then
        .error "The installation auth key must be a strict P-256 JWK."
      else .ok ⟨x, y⟩
    | _, _ => .error "The installation auth key must be a strict P-256 JWK."
  | _ => .error "The installation auth key must be a strict P-256 JWK."

def Accepted (key : ProofKey) : Prop :=
  (∃ value, parseP256PublicJwk value = .ok key) ∨ ∃ jwk, proofKey jwk = some key

/-- The two keys are one point: their coordinates decode to the same bytes. -/
def SamePoint (key other : ProofKey) : Prop :=
  decode key.x = decode other.x ∧ decode key.y = decode other.y

/-- The bits of the spellings that no coordinate has agree. -/
def SameSpareBits (key other : ProofKey) : Prop :=
  spareBits key.x = spareBits other.x ∧ spareBits key.y = spareBits other.y

section

variable {text : String} {key other : ProofKey}

structure Spells (text : String) : Prop where
  length : text.toList.length = 43
  chars : ∀ c ∈ text.toList, c ∈ alphabet

theorem spells_of_pattern (h : isCoordinateText text = true) : Spells text := by
  unfold isCoordinateText at h
  obtain ⟨hlength, hchars⟩ := (Bool.and_eq_true _ _).mp h
  exact ⟨of_decide_eq_true hlength, fun c hc => of_decide_eq_true (List.all_eq_true.mp hchars c hc)⟩

theorem spells_of_coordinate {value : Option JsonValue} (h : coordinate value = some text) :
    Spells text := by
  unfold coordinate at h
  split at h
  · obtain ⟨⟨hsegment, hdecoded⟩, hvalue⟩ := Option.ite_none_right_eq_some.mp h
    cases hvalue
    unfold isBase64UrlSegment at hsegment
    obtain ⟨-, hchars⟩ := (Bool.and_eq_true _ _).mp hsegment
    have chars := fun c hc => of_decide_eq_true (List.all_eq_true.mp hchars c hc)
    rw [decode_length chars] at hdecoded
    exact ⟨by omega, chars⟩
  · cases h

theorem spells_of_accepted (h : Accepted key) : Spells key.x ∧ Spells key.y := by
  rcases h with ⟨value, h⟩ | ⟨jwk, h⟩
  · unfold parseP256PublicJwk at h
    split at h
    · split at h
      · obtain ⟨hchecks, h⟩ := guard_ok.mp h
        cases h
        push Not at hchecks
        obtain ⟨-, -, -, -, -, hx, hy⟩ := hchecks
        exact ⟨spells_of_pattern hx, spells_of_pattern hy⟩
      · cases h
    · cases h
  · unfold proofKey at h
    split at h
    · split at h
      · split at h
        · split at h
          next hx hy =>
            cases h
            exact ⟨spells_of_coordinate hx, spells_of_coordinate hy⟩
          next => cases h
        · cases h
      · cases h
    · cases h

theorem eq_of_spellings (hkey : Accepted key) (hother : Accepted other)
    (point : SamePoint key other) (spare : SameSpareBits key other) : key = other := by
  obtain ⟨hx, hy⟩ := spells_of_accepted hkey
  obtain ⟨hx', hy'⟩ := spells_of_accepted hother
  have sameX : key.x = other.x :=
    text_eq_of_decode hx.chars hx'.chars (hx.length.trans hx'.length.symm) point.1 spare.1
  have sameY : key.y = other.y :=
    text_eq_of_decode hy.chars hy'.chars (hy.length.trans hy'.length.symm) point.2 spare.2
  cases key
  cases other
  exact congrArg₂ ProofKey.mk sameX sameY

end

section

variable (P : DpopOperations) {key other : ProofKey}

/-- The text that the thumbprint is of. -/
def canonicalText (key : ProofKey) : String :=
  "\x7b\"crv\":\"P-256\",\"kty\":\"EC\",\"x\":" ++ jsonText key.x ++ ",\"y\":" ++
    jsonText key.y ++ "\x7d"

theorem computeJwkThumbprint_eq (key : ProofKey) :
    computeJwkThumbprint P key = P.hash.digest (utf8 (canonicalText key)) := by
  unfold computeJwkThumbprint sha256Bytes canonicalText
  rw [List.flatten_singleton]

theorem canonicalText_injective (h : canonicalText key = canonicalText other) : key = other := by
  have hchars := congrArg String.toList h
  unfold canonicalText at hchars
  simp only [String.toList_append, List.append_assoc] at hchars
  obtain ⟨hx, hrest⟩ := jsonText_append_inj (List.append_cancel_left hchars)
  obtain ⟨hy, -⟩ := jsonText_append_inj (List.append_cancel_left hrest)
  cases key
  cases other
  exact congrArg₂ ProofKey.mk hx hy

theorem key_eq_of_thumbprint
    (safe : ¬ Collision P.hash [utf8 (canonicalText key), utf8 (canonicalText other)])
    (h : computeJwkThumbprint P key = computeJwkThumbprint P other) : key = other := by
  rw [computeJwkThumbprint_eq, computeJwkThumbprint_eq] at h
  have hinput := input_eq_of_digest_eq safe List.mem_cons_self
    (List.mem_cons_of_mem _ List.mem_cons_self) h
  exact canonicalText_injective (utf8_injective hinput)

/-- Two accepted keys have one thumbprint only if they are one point, and keys of one point have
one thumbprint exactly when their spare bits agree, if the texts do not collide. -/
theorem one_thumbprint_iff (hkey : Accepted key) (hother : Accepted other)
    (safe : ¬ Collision P.hash [utf8 (canonicalText key), utf8 (canonicalText other)]) :
    (computeJwkThumbprint P key = computeJwkThumbprint P other → SamePoint key other) ∧
      (SamePoint key other → (computeJwkThumbprint P key = computeJwkThumbprint P other ↔
        SameSpareBits key other)) := by
  refine ⟨fun h => ?_, fun point => ⟨fun h => ?_, fun spare => ?_⟩⟩
  · rw [key_eq_of_thumbprint P safe h]
    exact ⟨rfl, rfl⟩
  · rw [key_eq_of_thumbprint P safe h]
    exact ⟨rfl, rfl⟩
  · rw [eq_of_spellings hkey hother point spare]

end

/-- The generator of the curve. -/
def generator : ProofKey :=
  ⟨"axfR8uEsQkf4vOblY6RA8ncDfYEt6zOg9KE5RdiYwpY", "T-NC4v4af5uO5-tKfA-eFivOM1drMV7Oy7ZAaDe_UfU"⟩

/-- The generator with one spare bit set in the spelling of its second coordinate. -/
def respelled : ProofKey :=
  ⟨"axfR8uEsQkf4vOblY6RA8ncDfYEt6zOg9KE5RdiYwpY", "T-NC4v4af5uO5-tKfA-eFivOM1drMV7Oy7ZAaDe_UfV"⟩

def jwkOf (key : ProofKey) : JsonValue :=
  .record [("kty", .text "EC"), ("crv", .text "P-256"), ("x", .text key.x), ("y", .text key.y),
    ("use", .text "sig"), ("alg", .text "ES256")]

theorem generator_accepted : Accepted generator := .inl ⟨jwkOf generator, rfl⟩

theorem respelled_accepted : Accepted respelled := .inl ⟨jwkOf respelled, rfl⟩

theorem generator_ne_respelled : generator ≠ respelled := by decide

def sampleOperations : DpopOperations where
  hash :=
    { digest := fun input =>
        if input = utf8 (canonicalText generator) then List.replicate 32 0
        else List.replicate 32 1
      length_digest := fun input => by
        split <;> exact List.length_replicate }
  parseJson := fun _ => none
  verifySignature := fun _ _ _ _ => none
  normalizeUrl := fun _ => none

theorem sample_safe : ¬ Collision sampleOperations.hash
    [utf8 (canonicalText generator), utf8 (canonicalText respelled)] := by
  have apart : utf8 (canonicalText respelled) ≠ utf8 (canonicalText generator) := fun h =>
    generator_ne_respelled (canonicalText_injective (utf8_injective h)).symm
  have differ : List.replicate 32 (0 : UInt8) ≠ List.replicate 32 1 := by decide
  rintro ⟨a, ha, b, hb, hne, heq⟩
  unfold sampleOperations at heq
  dsimp only at heq
  rcases List.mem_pair.mp ha with rfl | rfl <;> rcases List.mem_pair.mp hb with rfl | rfl
  · exact hne rfl
  · rw [if_pos rfl, if_neg apart] at heq
    exact differ heq
  · rw [if_pos rfl, if_neg apart] at heq
    exact differ heq.symm
  · exact hne rfl

/-- The two spellings of the generator have one thumbprint exactly when their spare bits agree. -/
theorem generator_thumbprint_iff :
    computeJwkThumbprint sampleOperations generator =
        computeJwkThumbprint sampleOperations respelled ↔ SameSpareBits generator respelled :=
  (one_thumbprint_iff sampleOperations generator_accepted respelled_accepted sample_safe).2
    ⟨rfl, by decide +kernel⟩

/-- One point is enrolled, and presented in a proof, under two thumbprints. -/
theorem generator_has_two_thumbprints :
    (parseP256PublicJwk (jwkOf generator) = .ok generator ∧
        parseP256PublicJwk (jwkOf respelled) = .ok respelled) ∧
      (proofKey (some (jwkOf generator)) = some generator ∧
        proofKey (some (jwkOf respelled)) = some respelled) ∧
      SamePoint generator respelled ∧
      computeJwkThumbprint sampleOperations generator ≠
        computeJwkThumbprint sampleOperations respelled := by
  refine ⟨⟨rfl, rfl⟩, ⟨?_, ?_⟩, ⟨rfl, by decide +kernel⟩, fun h => ?_⟩
  · rfl
  · rfl
  · exact generator_ne_respelled (key_eq_of_thumbprint sampleOperations sample_safe h)

end JbChat.Identity.KeyThumbprints
