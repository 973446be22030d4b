/- source: src/production/http/dpop.ts, src/production/identity/identityCrypto.ts
   digest: The check of a DPoP proof, and the guard against its replay. -/

import JbChat.Delivery.PolicyHeadBody
import JbChat.Foundation.CodeUnits
import JbChat.Foundation.ReplayCache

/-!
Signature verification, URL parsing and `JSON.parse` are operations that the check is given.
A clock reading is the argument of the call that takes it.
-/

set_option autoImplicit false

namespace JbChat.Http.Dpop

open Foundation.HashTrace Foundation.ReplayCache Delivery.ValueObjects Delivery.Hashes
open Delivery.PolicyHeadBody
open Foundation.CodeUnits (utf16Length)

/-- What `JSON.parse` returns, without unpaired surrogates. A number is told apart by
`Number.isInteger`. -/
inductive JsonValue where
  | null
  | boolean (value : Bool)
  | integer (value : Int)
  | fraction (text : String)
  | text (value : String)
  | array (entries : List JsonValue)
  | record (members : List (String × JsonValue))

/-- The property of a value; `null` has none, and asking throws. -/
def JsonValue.property (key : String) : JsonValue → Option (Option JsonValue)
  | .null => none
  | .record members => some ((members.find? fun member => decide (member.1 = key)).map Prod.snd)
  | _ => some none

def JsonValue.isText (expected : String) : Option JsonValue → Bool
  | some (.text value) => decide (value = expected)
  | _ => false

def iatWindowSeconds : Nat := 60

def maxProofBytes : Nat := 4096

def maxJtiLength : Nat := 128

def p256Order : Nat := 0xffffffff00000000ffffffffffffffffbce6faada7179e84f3b9cac2fc632551

/-- `replayHorizon` after the time of the call, in milliseconds. -/
def replayHorizonMilliseconds : Int := (iatWindowSeconds + 300) * 1000

/-- The guard drops expired entries when it holds more than this. -/
def guardCapacity : Nat := 10000

/-- The operations that the check uses. -/
structure DpopOperations where
  hash : HashFunction
  /-- `JSON.parse` of the UTF-8 text of the bytes; `none` when it throws. -/
  parseJson : Bytes → Option JsonValue
  /-- ES256 under the public key with the two coordinates; `none` when a call throws. -/
  verifySignature : String → String → Bytes → Bytes → Option Bool
  /-- The URL without its query and fragment; `none` when it is none. -/
  normalizeUrl : String → Option String

structure DpopVerificationInput where
  proof : Option String
  method : String
  url : String
  accessToken : String
  expectedJkt : Bytes
  nowEpochMilliseconds : Int

/-- A refusal; or the throw of a payload that is `null`, when a property of it is read. -/
inductive ProofRejection where
  | refused (reasonCode : String)
  | thrown

inductive DpopVerification where
  | valid
  | rejected (reason : ProofRejection)

/-- The coordinates of an embedded P-256 key. -/
structure ProofKey where
  x : String
  y : String
deriving DecidableEq

/-- What a proof presents, with an `iat` that is fresh at the time of the call. -/
structure FreshProof (nowEpochMilliseconds : Int) where
  jti : String
  iat : Int
  fresh : (nowEpochMilliseconds / 1000 - iat).natAbs ≤ iatWindowSeconds

section

variable (P : DpopOperations)

def isBase64UrlSegment (segment : String) : Bool :=
  !segment.isEmpty && segment.toList.all fun c => decide (c ∈ JbChat.Foundation.Base64Url.alphabet)

def proofSegments (proof : String) : Option (String × String × String) :=
  match (proof.toList.splitOn '.').map String.ofList with
  | [header, payload, signature] =>
    if [header, payload, signature].all isBase64UrlSegment then
      some (header, payload, signature)
    else none
  | _ => none

def decodeSegment (segment : String) : Option JsonValue :=
  P.parseJson (JbChat.Foundation.Base64Url.decode segment)

def coordinate : Option JsonValue → Option String
  | some (.text value) =>
    if isBase64UrlSegment value ∧ (JbChat.Foundation.Base64Url.decode value).length = 32 then
      some value
    else none
  | _ => none

/-- A `jwk` of the one key type that is accepted. -/
def proofKey : Option JsonValue → Option ProofKey
  | some jwk =>
    match jwk.property "kty", jwk.property "crv", jwk.property "x", jwk.property "y" with
    | some kty, some crv, some x, some y =>
      if JsonValue.isText "EC" kty ∧ JsonValue.isText "P-256" crv then
        match coordinate x, coordinate y with
        | some x, some y => some ⟨x, y⟩
        | _, _ => none
      else none
    | _, _, _, _ => none
  | none => none

def headerKey (header : JsonValue) : Option ProofKey :=
  match header.property "typ", header.property "alg", header.property "jwk" with
  | some typ, some alg, some jwk =>
    if JsonValue.isText "dpop+jwt" typ ∧ JsonValue.isText "ES256" alg then proofKey jwk else none
  | _, _, _ => none

def computeJwkThumbprint (key : ProofKey) : Bytes :=
  sha256Bytes P.hash [utf8 ("\x7b\"crv\":\"P-256\",\"kty\":\"EC\",\"x\":" ++ jsonText key.x ++
    ",\"y\":" ++ jsonText key.y ++ "\x7d")]

/-- A signature of 64 bytes whose second half is a low, positive scalar. -/
def isCanonicalSignature (signature : Bytes) : Bool :=
  let s := (signature.drop 32).foldl (fun value byte => value * 256 + byte.toNat) 0
  decide (signature.length = 64 ∧ s ≠ 0 ∧ s ≤ p256Order / 2)

/-- The low byte of each unit of a string. -/
def asciiBytes (text : String) : Bytes :=
  text.toList.flatMap fun c =>
    if c.toNat < 0x10000 then [UInt8.ofNat c.toNat]
    else [UInt8.ofNat ((c.toNat - 0x10000) / 1024), UInt8.ofNat (c.toNat - 0x10000)]

def accessTokenHash (accessToken : String) : String :=
  JbChat.Foundation.Base64Url.encode (sha256Bytes P.hash [asciiBytes accessToken])

/-- A single-use id of admissible length. -/
def proofId : Option JsonValue → Option String
  | some (.text jti) => if jti = "" ∨ maxJtiLength < utf16Length jti then none else some jti
  | _ => none

end

section

variable (P : DpopOperations)

/-- The header and the payload of a proof, and its key when the session's key signed it. -/
def verifySignedProof (input : DpopVerificationInput) : Except ProofRejection JsonValue :=
  match input.proof with
  | none => .error (.refused "dpop_proof_missing")
  | some proof =>
    if proof = "" then .error (.refused "dpop_proof_missing")
    else if maxProofBytes < proof.utf8ByteSize then .error (.refused "dpop_proof_invalid")
    else
      match proofSegments proof with
      | none => .error (.refused "dpop_proof_invalid")
      | some (headerSegment, payloadSegment, signatureSegment) =>
        match decodeSegment P headerSegment, decodeSegment P payloadSegment with
        | some header, some payload =>
          match headerKey header with
          | none => .error (.refused "dpop_proof_invalid")
          | some key =>
            let signature := JbChat.Foundation.Base64Url.decode signatureSegment
            if computeJwkThumbprint P key ≠ input.expectedJkt then
              .error (.refused "dpop_key_mismatch")
            else if ¬ isCanonicalSignature signature then
              .error (.refused "dpop_proof_invalid")
            else
              match P.verifySignature key.x key.y
                  (utf8 (headerSegment ++ "." ++ payloadSegment)) signature with
              | none => .error (.refused "dpop_proof_invalid")
              | some false => .error (.refused "dpop_signature_invalid")
              | some true => .ok payload
        | _, _ => .error (.refused "dpop_proof_invalid")

/-- The binding of a payload to the request, its freshness and its id. -/
def verifyPayload (input : DpopVerificationInput) (payload : JsonValue) :
    Except ProofRejection (FreshProof input.nowEpochMilliseconds) :=
  match payload.property "htm", payload.property "htu", payload.property "iat",
      payload.property "ath", payload.property "jti" with
  | some htm, some htu, some iat, some ath, some jti =>
    if ¬ JsonValue.isText input.method htm then .error (.refused "dpop_binding_mismatch")
    else
      match P.normalizeUrl input.url with
      | none => .error (.refused "dpop_proof_invalid")
      | some normalizedHtu =>
        if ¬ JsonValue.isText normalizedHtu htu then .error (.refused "dpop_binding_mismatch")
        else
          match iat with
          | some (.integer iat) =>
            if fresh : (input.nowEpochMilliseconds / 1000 - iat).natAbs ≤ iatWindowSeconds then
              if ¬ JsonValue.isText (accessTokenHash P input.accessToken) ath then
                .error (.refused "dpop_binding_mismatch")
              else
                match proofId jti with
                | none => .error (.refused "dpop_proof_invalid")
                | some jti => .ok ⟨jti, iat, fresh⟩
            else .error (.refused "dpop_proof_stale")
          | _ => .error (.refused "dpop_proof_invalid")
  | _, _, _, _, _ => .error .thrown

/-- Everything that is checked before the id is claimed. -/
def checkProof (input : DpopVerificationInput) :
    Except ProofRejection (FreshProof input.nowEpochMilliseconds) := do
  let payload ← verifySignedProof P input
  verifyPayload P input payload

/-- The answer, and the guard after the call. `guardNow` is the guard's own clock reading. -/
def verifyDpopProof (input : DpopVerificationInput) (guardNow : Int) (seen : Seen String Int) :
    DpopVerification × Seen String Int :=
  match checkProof P input with
  | .error reason => (.rejected reason, seen)
  | .ok proof =>
    match claim guardCapacity guardNow proof.jti
        (input.nowEpochMilliseconds + replayHorizonMilliseconds) seen with
    | (true, seen) => (.valid, seen)
    | (false, seen) => (.rejected (.refused "dpop_proof_replayed"), seen)

end

section

variable {P : DpopOperations} {input : DpopVerificationInput} {payload : JsonValue} {guardNow : Int}

def payloadOf (P : DpopOperations) (proof : String) : Option JsonValue :=
  (proofSegments proof).bind fun segments => decodeSegment P segments.2.1

theorem verifySignedProof_eq_ok (h : verifySignedProof P input = .ok payload) :
    ∃ proof, input.proof = some proof ∧ payloadOf P proof = some payload := by
  unfold verifySignedProof at h
  cases hproof : input.proof with
  | none => simp [hproof] at h
  | some proof =>
    refine ⟨proof, rfl, ?_⟩
    simp only [hproof] at h
    split at h
    · cases h
    split at h
    · cases h
    split at h
    · cases h
    · rename_i headerSegment payloadSegment signatureSegment hsegments
      unfold payloadOf
      rw [hsegments]
      split at h
      · rename_i header decoded hheader hpayload
        split at h
        · cases h
        split at h
        · cases h
        split at h
        · cases h
        split at h
        · cases h
        · cases h
        · cases h
          exact hpayload
      · cases h

theorem verifyPayload_eq_ok {proof : FreshProof input.nowEpochMilliseconds}
    (h : verifyPayload P input payload = .ok proof) :
    payload.property "iat" = some (some (.integer proof.iat)) ∧
      payload.property "jti" = some (some (.text proof.jti)) := by
  unfold verifyPayload at h
  split at h
  · rename_i htm htu iat ath jti hhtm hhtu hiat hath hjti
    split at h
    · cases h
    split at h
    · cases h
    split at h
    · cases h
    split at h
    · rename_i issued
      split at h
      · rename_i fresh
        split at h
        · cases h
        split at h
        · cases h
        · rename_i id hid
          cases h
          refine ⟨hiat, ?_⟩
          unfold proofId at hid
          split at hid
          · split at hid
            · cases hid
            · cases hid
              exact hjti
          · cases hid
      · cases h
    · cases h
  · cases h

theorem checkProof_eq_ok {checked : FreshProof input.nowEpochMilliseconds}
    (h : checkProof P input = .ok checked) :
    ∃ proof payload, input.proof = some proof ∧ payloadOf P proof = some payload ∧
      payload.property "iat" = some (some (.integer checked.iat)) ∧
      payload.property "jti" = some (some (.text checked.jti)) := by
  unfold checkProof at h
  cases hsigned : verifySignedProof P input with
  | error verification =>
    rw [hsigned] at h
    cases h
  | ok payload =>
    rw [hsigned] at h
    obtain ⟨proof, hproof, hpayload⟩ := verifySignedProof_eq_ok hsigned
    obtain ⟨hiat, hjti⟩ := verifyPayload_eq_ok h
    exact ⟨proof, payload, hproof, hpayload, hiat, hjti⟩

theorem verifyDpopProof_valid {seen written : Seen String Int}
    (h : verifyDpopProof P input guardNow seen = (.valid, written)) :
    ∃ checked, checkProof P input = .ok checked ∧
      claim guardCapacity guardNow checked.jti
        (input.nowEpochMilliseconds + replayHorizonMilliseconds) seen = (true, written) := by
  unfold verifyDpopProof at h
  split at h
  · cases h
  · rename_i checked hchecked
    split at h
    · rename_i after hclaim
      obtain rfl := (Prod.mk.inj h).2
      exact ⟨checked, hchecked, hclaim⟩
    · cases h

theorem verifyDpopProof_rejected {seen written : Seen String Int} {reason : ProofRejection}
    (h : verifyDpopProof P input guardNow seen = (.rejected reason, written)) :
    written = seen ∨ ∃ jti expiry,
      claim guardCapacity guardNow jti expiry seen = (false, written) := by
  unfold verifyDpopProof at h
  split at h
  · exact Or.inl (Prod.mk.inj h).2.symm
  · split at h
    · cases h
    · rename_i after hclaim
      obtain rfl := (Prod.mk.inj h).2
      exact Or.inr ⟨_, _, hclaim⟩

end

end JbChat.Http.Dpop
