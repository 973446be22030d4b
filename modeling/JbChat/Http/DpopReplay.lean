/- source: src/production/http/dpop.ts
   digest: A proof authorizes at most one of the calls that share a replay guard. -/

import JbChat.Http.Dpop

set_option autoImplicit false

namespace JbChat.Http.DpopReplay

open Foundation.HashTrace Foundation.ReplayCache Dpop

section

/-- A call of the check, with the reading of the clock that its guard takes. -/
structure DpopCall where
  input : DpopVerificationInput
  guardNow : Int

/-- The calls in their order share one clock: the guard's readings do not decrease, and a guard
reads the clock less than 119 seconds after its call did. -/
structure Clocked (calls : List DpopCall) : Prop where
  ordered : calls.Pairwise fun earlier later => earlier.guardNow ≤ later.guardNow
  prompt : ∀ call ∈ calls, call.guardNow < call.input.nowEpochMilliseconds + 119000

variable (P : DpopOperations)

/-- The calls that were accepted, in their order. -/
def accepted (seen : Seen String Int) : List DpopCall → List DpopCall
  | [] => []
  | call :: calls =>
    match verifyDpopProof P call.input call.guardNow seen with
    | (.valid, seen) => call :: accepted seen calls
    | (.rejected _, seen) => accepted seen calls

/-- The id and the issue time of a proof that passes the check. -/
def presented (call : DpopCall) : Option (String × Int) :=
  match checkProof P call.input with
  | .ok checked => some (checked.jti, checked.iat)
  | .error _ => none

/-- Some second lies in the validity windows of both issue times. -/
def Overlap (iat other : Int) : Prop :=
  ∃ second : Int, (second - iat).natAbs ≤ iatWindowSeconds ∧
    (second - other).natAbs ≤ iatWindowSeconds

end

section

variable {P : DpopOperations} {call other : DpopCall} {seen written : Seen String Int}

theorem presented_of_valid
    (h : verifyDpopProof P call.input call.guardNow seen = (.valid, written)) :
    ∃ jti iat, presented P call = some (jti, iat) ∧
      claim guardCapacity call.guardNow jti
        (call.input.nowEpochMilliseconds + replayHorizonMilliseconds) seen = (true, written) := by
  obtain ⟨checked, hchecked, hclaim⟩ := verifyDpopProof_valid h
  refine ⟨checked.jti, checked.iat, ?_, hclaim⟩
  unfold presented
  rw [hchecked]

theorem presented_eq_of_proof (same : call.input.proof = other.input.proof)
    {presents presentsOther : String × Int} (h : presented P call = some presents)
    (hother : presented P other = some presentsOther) : presents = presentsOther := by
  unfold presented at h hother
  split at h
  · rename_i checked hchecked
    split at hother
    · rename_i checkedOther hcheckedOther
      obtain ⟨proof, payload, hproof, hpayload, hiat, hjti⟩ := checkProof_eq_ok hchecked
      obtain ⟨proof', payload', hproof', hpayload', hiat', hjti'⟩ := checkProof_eq_ok hcheckedOther
      rw [hproof, hproof'] at same
      cases same
      cases hpayload.symm.trans hpayload'
      have iats : checked.iat = checkedOther.iat :=
        JsonValue.integer.inj (Option.some.inj (Option.some.inj (hiat.symm.trans hiat')))
      have jtis : checked.jti = checkedOther.jti :=
        JsonValue.text.inj (Option.some.inj (Option.some.inj (hjti.symm.trans hjti')))
      rw [← Option.some.inj h, ← Option.some.inj hother, iats, jtis]
    · cases hother
  · cases h

theorem presented_fresh {presents : String × Int} (h : presented P call = some presents) :
    (call.input.nowEpochMilliseconds / 1000 - presents.2).natAbs ≤ iatWindowSeconds := by
  unfold presented at h
  split at h
  · rename_i checked _
    rw [← Option.some.inj h]
    exact checked.fresh
  · cases h

theorem before_horizon {now next guardNow iat other : Int}
    (fresh : (now / 1000 - iat).natAbs ≤ iatWindowSeconds)
    (freshNext : (next / 1000 - other).natAbs ≤ iatWindowSeconds)
    (prompt : guardNow < next + 119000) (overlap : Overlap iat other) :
    guardNow < now + replayHorizonMilliseconds := by
  obtain ⟨second, hiat, hother⟩ := overlap
  unfold iatWindowSeconds at fresh freshNext hiat hother
  unfold replayHorizonMilliseconds iatWindowSeconds
  omega

end

section

variable {P : DpopOperations} {seen : Seen String Int} {calls : List DpopCall}

theorem accepted_after_expiry {past : List (Claimed String Int)} {now : Int}
    (remembered : Remembers past now seen)
    (ordered : calls.Pairwise fun earlier later => earlier.guardNow ≤ later.guardNow)
    (later : ∀ call ∈ calls, now ≤ call.guardNow) :
    ∀ call ∈ accepted P seen calls, ∀ presents, presented P call = some presents →
      ∀ entry ∈ past, entry.key = presents.1 → entry.expiry ≤ call.guardNow := by
  induction calls generalizing past now seen with
  | nil =>
    intro call hcall
    cases hcall
  | cons first rest ih =>
    obtain ⟨hfirst, hrest⟩ := List.pairwise_cons.mp ordered
    have advanced := remembered.later (later first List.mem_cons_self)
    unfold accepted
    split
    · rename_i written hvalid
      obtain ⟨jti, iat, hpresented, hclaim⟩ := presented_of_valid hvalid
      intro call hcall presents hpresents entry hentry same
      rcases List.mem_cons.mp hcall with rfl | hcall
      · rw [hpresented] at hpresents
        cases hpresents
        exact advanced.expired hclaim hentry same
      · exact ih (advanced.accept hclaim) hrest hfirst call hcall presents hpresents entry
          (List.mem_append_left _ hentry) same
    · rename_i reason written hrejected
      have kept : Remembers past first.guardNow written := by
        rcases verifyDpopProof_rejected hrejected with rfl | ⟨jti, expiry, hclaim⟩
        · exact advanced
        · exact advanced.refuse hclaim
      exact ih kept hrest hfirst

theorem presented_of_accepted :
    ∀ call ∈ accepted P seen calls, call ∈ calls ∧ ∃ presents, presented P call = some presents := by
  induction calls generalizing seen with
  | nil =>
    intro call hcall
    cases hcall
  | cons first rest ih =>
    unfold accepted
    split
    · rename_i written hvalid
      obtain ⟨jti, iat, hpresented, -⟩ := presented_of_valid hvalid
      intro call hcall
      rcases List.mem_cons.mp hcall with rfl | hcall
      · exact ⟨List.mem_cons_self, (jti, iat), hpresented⟩
      · exact ⟨List.mem_cons_of_mem _ (ih call hcall).1, (ih call hcall).2⟩
    · intro call hcall
      exact ⟨List.mem_cons_of_mem _ (ih call hcall).1, (ih call hcall).2⟩

/-- Two accepted calls have different proofs, and different ids while their windows overlap. -/
def Separated (P : DpopOperations) (earlier later : DpopCall) : Prop :=
  earlier.input.proof ≠ later.input.proof ∧
    ∃ presents presentsLater, presented P earlier = some presents ∧
      presented P later = some presentsLater ∧
      (Overlap presents.2 presentsLater.2 → presents.1 ≠ presentsLater.1)

/-- No proof is accepted twice, and no two accepted proofs with overlapping validity windows have
one id. -/
theorem accepted_at_most_once (P : DpopOperations) (calls : List DpopCall)
    (clocked : Clocked calls) : (accepted P [] calls).Pairwise (Separated P) := by
  suffices separated : ∀ seen : Seen String Int,
      (accepted P seen calls).Pairwise (Separated P) from separated []
  obtain ⟨ordered, prompt⟩ := clocked
  induction calls with
  | nil => exact fun _ => List.Pairwise.nil
  | cons first rest ih =>
    obtain ⟨hfirst, hrest⟩ := List.pairwise_cons.mp ordered
    have restPrompt := fun call hcall => prompt call (List.mem_cons_of_mem first hcall)
    intro seen
    unfold accepted
    split
    · rename_i written hvalid
      obtain ⟨jti, iat, hpresented, hclaim⟩ := presented_of_valid hvalid
      refine List.pairwise_cons.mpr ⟨fun later hlater => ?_, ih hrest restPrompt written⟩
      obtain ⟨hmember, presents, hpresents⟩ := presented_of_accepted later hlater
      -- an overlap and one id would put the later call before the horizon of the claim
      have distinct : Overlap iat presents.2 → jti ≠ presents.1 := by
        intro overlap same
        have expired := accepted_after_expiry (Remembers.nil.accept hclaim) hrest hfirst later
          hlater presents hpresents _ List.mem_cons_self same
        have early := before_horizon (presented_fresh hpresented) (presented_fresh hpresents)
          (restPrompt later hmember) overlap
        exact absurd expired (not_le.mpr early)
      refine ⟨fun sameProof => ?_, (jti, iat), presents, hpresented, hpresents, distinct⟩
      obtain rfl := presented_eq_of_proof sameProof hpresented hpresents
      exact distinct ⟨iat, by omega, by omega⟩ rfl
    · rename_i reason written _
      exact ih hrest restPrompt written

end

def sampleHeaderText : String :=
  "\x7b\"typ\":\"dpop+jwt\",\"alg\":\"ES256\",\"jwk\":\x7b\"kty\":\"EC\",\"crv\":\"P-256\"," ++
  "\"x\":\"QAQ5O9qfrdNnDSeDMXvV8kxtSFa4oovLKLLFdTeeV4o\"," ++
  "\"y\":\"uwEG9QFuWj_1a6ItCN85AOFhO9s_DuQS1OfXYdYhOgM\"\x7d\x7d"

def samplePayloadText : String :=
  "\x7b\"htm\":\"GET\",\"htu\":\"https://example.test/v1/keys\",\"iat\":1000," ++
  "\"ath\":\"PEaenWxYddN6Q_NT1PiOYfz4EsZu7jRXRlpAsNpBU-A\",\"jti\":\"one\"\x7d"

def sampleHeader : JsonValue :=
  .record [("typ", .text "dpop+jwt"), ("alg", .text "ES256"), ("jwk", .record
    [("kty", .text "EC"), ("crv", .text "P-256"),
      ("x", .text "QAQ5O9qfrdNnDSeDMXvV8kxtSFa4oovLKLLFdTeeV4o"),
      ("y", .text "uwEG9QFuWj_1a6ItCN85AOFhO9s_DuQS1OfXYdYhOgM")])]

def samplePayload : JsonValue :=
  .record [("htm", .text "GET"), ("htu", .text "https://example.test/v1/keys"),
    ("iat", .integer 1000), ("ath", .text "PEaenWxYddN6Q_NT1PiOYfz4EsZu7jRXRlpAsNpBU-A"),
    ("jti", .text "one")]

def sampleSignatureText : String :=
  "A7Fj9ww1VGOh577748zov8SdS45F2iCVFevjAEcsWflv8oFhT8nMJ6l0WiruNR6i3FPewmxBHbEjLaRPSQBd_g"

def sampleThumbprint : Bytes :=
  JbChat.Foundation.Base64Url.decode "B8rTXOVxTjx2LF1032yiJFV1QbVuBejpAHKZjSMRomE"

def sampleTokenHash : Bytes :=
  JbChat.Foundation.Base64Url.decode "PEaenWxYddN6Q_NT1PiOYfz4EsZu7jRXRlpAsNpBU-A"

def sampleHash : HashFunction where
  digest input := if input = asciiBytes "token" then sampleTokenHash else sampleThumbprint
  length_digest input := by
    split
    · decide +kernel
    · decide +kernel

def sampleOperations : DpopOperations where
  hash := sampleHash
  parseJson bytes :=
    if bytes = asciiBytes sampleHeaderText then some sampleHeader
    else if bytes = asciiBytes samplePayloadText then some samplePayload
    else none
  verifySignature _ _ _ signature :=
    some (decide (signature = JbChat.Foundation.Base64Url.decode sampleSignatureText))
  normalizeUrl url := some url

def sampleProof : String :=
  JbChat.Foundation.Base64Url.encode (asciiBytes sampleHeaderText) ++ "." ++
    JbChat.Foundation.Base64Url.encode (asciiBytes samplePayloadText) ++ "." ++ sampleSignatureText

def sampleCall (now : Int) : DpopCall :=
  ⟨⟨some sampleProof, "GET", "https://example.test/v1/keys", "token", sampleThumbprint, now⟩, now⟩

def sampleCalls : List DpopCall :=
  [sampleCall 1000000, sampleCall 1030000, sampleCall 1060000, sampleCall 1400000]

theorem sampleCalls_clocked : Clocked sampleCalls :=
  ⟨by decide, by decide⟩

theorem accepted_at_most_once_replayed :
    (accepted sampleOperations [] sampleCalls).Pairwise (Separated sampleOperations) :=
  accepted_at_most_once sampleOperations sampleCalls sampleCalls_clocked

end JbChat.Http.DpopReplay
