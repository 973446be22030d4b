/- source: src/production/delivery/state.ts
   digest: What an allowed decision reserves and prepares is accepted by the later validators. -/

import JbChat.Store.Preparation

set_option autoImplicit false

namespace JbChat.Store.DecisionCompletion

open Foundation.HashTrace
open Delivery.ValueObjects Delivery.Hashes Delivery.Instants Delivery.Snapshot Delivery.Quota
open Delivery.QuotaRules
open Delivery.QuotaConservation (LiveSet ZeroId idInput liveSet_reserved sampleHash)
open Delivery.SnapshotParse Delivery.SnapshotDigest Delivery.PendingExpiry Documents Intents
open Preparation

def chargedBytes (expectation : ApplicationAppendExpectation) : Nat :=
  expectation.envelopeByteLength + expectation.attachmentByteLength

/-- The conversation after an append has the next position and the next head. -/
def advancedConversation (conversation : LockedConversationState) (headHash : Bytes) :
    LockedConversationState :=
  { conversation with
    lastPosition := conversation.lastPosition + 1
    currentLogHeadHash := headHash }

/-- The usage after an append counts the envelope, its bytes and those of its attachments. -/
def countedUsage (usage : LockedConversationUsage) (expectation : ApplicationAppendExpectation) :
    LockedConversationUsage :=
  { usage with
    envelopeCount := usage.envelopeCount + 1
    envelopeBytes := usage.envelopeBytes + expectation.envelopeByteLength
    attachmentBytes := usage.attachmentBytes + expectation.attachmentByteLength }

/-- The state a decision leads to is the one before it, but for the position, the head, three
usage counters and the reserved counts and row versions of the quotas. -/
structure Advances (prior : LockedApplicationAppendSnapshot)
    (expectation : ApplicationAppendExpectation) (headHash : Bytes)
    (next : LockedApplicationAppendCommitProjection) (quotas : List LockedQuotaCounter) :
    Prop where
  conversation : next.conversation = advancedConversation prior.conversation headHash
  usage : next.usage = countedUsage prior.usage expectation
  quotas : quotas = prior.quotas.map (reservedBy (chargedBytes expectation))

/-- What a decision prepares is accepted, and returned as it is. -/
structure Completes (H : HashFunction) (prior : LockedApplicationAppendSnapshot)
    (expectation : ApplicationAppendExpectation) (receivedAt : String) (headHash : Bytes)
    (decision : AllowedAppend)
    (reservations : List ApplicationAppendQuotaCapacityReservation) : Prop where
  state : validateLockedApplicationAppendStateTransition H prior expectation receivedAt headHash
      (nextProjection prior decision headHash reservations) =
    .ok (nextProjection prior decision headHash reservations)
  quota : validateLockedApplicationAppendQuotaReservationTransition H prior expectation
      receivedAt reservations decision.postReservationQuotas =
    .ok decision.postReservationQuotas

section

variable {H : HashFunction} {prior : LockedApplicationAppendSnapshot}
  {expectation : ApplicationAppendExpectation} {receivedAt : String} {decision : AllowedAppend}
  {headHash digest tokenHash : Bytes} {totalChargedBytes generation : Nat}

theorem validDelta_of_room {quota : LockedQuotaCounter} (valid : ValidCounter quota)
    (room : HasRoom totalChargedBytes quota) : ValidDelta (deltaOf totalChargedBytes quota) where
  operations := rfl
  rowVersion := rfl
  rowVersionBound := room.rowVersion
  scopeHash := valid.scopeHash
  quotaName := valid.quotaName
  windowStartedAt := valid.windowStartedAt
  windowSeconds := valid.windowSeconds
  bytes := by
    have hbytes := room.bytes
    have hlimit := valid.byteLimit
    change totalChargedBytes ≤ uint63Max
    omega

theorem validDeltas_of_room {quotas : List LockedQuotaCounter} (counters : Counters quotas)
    (room : ∀ quota ∈ quotas, HasRoom totalChargedBytes quota) :
    ∀ delta ∈ quotas.map (deltaOf totalChargedBytes), ValidDelta delta := by
  intro delta hdelta
  obtain ⟨quota, hquota, rfl⟩ := List.mem_map.mp hdelta
  exact validDelta_of_room (counters.valid quota hquota) (room quota hquota)

theorem scopes_of_deltas {quotas : List LockedQuotaCounter} (counters : Counters quotas) :
    (quotas.map (deltaOf totalChargedBytes)).map ApplicationAppendQuotaCapacityDelta.scope =
      quotaScopes := by
  rw [List.map_map, ← counters.scopes]
  rfl

theorem bind_of_allowed (counters : Counters prior.quotas)
    (allowed : evaluateLockedApplicationAppend H prior expectation receivedAt = .allowed decision)
    (digestSize : digest.length = 32) (positive : 1 ≤ generation)
    (bounded : generation ≤ uint63Max) (tokenSize : tokenHash.length = 32)
    (tokenNonZero : tokenHash ≠ zeroHash) :
    bindApplicationAppendQuotaCapacityReservations H decision.quotaCapacityDeltas digest
        generation tokenHash =
      .ok (decision.quotaCapacityDeltas.map (bindReservation H digest generation tokenHash)) := by
  have passes := evaluate_eq_allowed_iff.mp allowed
  obtain ⟨hroom, hdeltas, -⟩ := reserveQuotas_eq_ok passes.quotas
  rw [hdeltas]
  refine (bindReservations_eq_ok (scopes_of_deltas counters)).mpr ?_
  exact ⟨validDeltas_of_room counters hroom, digestSize, ⟨positive, bounded⟩,
    ⟨tokenSize, tokenNonZero⟩, rfl⟩

theorem liveSet_of_bound (counters : Counters prior.quotas)
    (allowed : evaluateLockedApplicationAppend H prior expectation receivedAt = .allowed decision)
    {reservations : List ApplicationAppendQuotaCapacityReservation}
    (bound : bindApplicationAppendQuotaCapacityReservations H decision.quotaCapacityDeltas digest
      generation tokenHash = .ok reservations) :
    LiveSet H decision.postReservationQuotas reservations := by
  have passes := evaluate_eq_allowed_iff.mp allowed
  obtain ⟨-, hdeltas, hpost⟩ := reserveQuotas_eq_ok passes.quotas
  rw [hdeltas] at bound
  have hbound := bound_of_bindReservations (scopes_of_deltas counters) bound
  obtain ⟨-, -, -, -, hreservations⟩ :=
    (bindReservations_eq_ok (scopes_of_deltas counters)).mp bound
  rw [List.map_map] at hreservations
  rw [hpost]
  exact liveSet_reserved counters hreservations hbound

theorem advances_of_allowed
    (allowed : evaluateLockedApplicationAppend H prior expectation receivedAt = .allowed decision)
    (usage : parseLockedConversationUsage prior.usage = .ok prior.usage)
    (reservations : List ApplicationAppendQuotaCapacityReservation) :
    Advances prior expectation headHash (nextProjection prior decision headHash reservations)
      decision.postReservationQuotas := by
  have passes := evaluate_eq_allowed_iff.mp allowed
  obtain ⟨hposition, -, -⟩ := nextUsage_parses usage passes.usage
  obtain ⟨-, -, hpost⟩ := reserveQuotas_eq_ok passes.quotas
  refine ⟨?_, nextUsage_counts passes.usage, hpost⟩
  unfold nextProjection advancedConversation
  rw [hposition]

/-- An allowed decision always completes: its reservations are bound, the state it leads to
differs from the one before only in what an append counts, and both validators return that
state, unless an ID is the zero hash or two IDs are equal. -/
theorem allowed_decision_completes (H : HashFunction)
    {value prior : LockedApplicationAppendSnapshot}
    {sent expectation : ApplicationAppendExpectation} {receivedAt : String}
    {decision : AllowedAppend} {headHash digest tokenHash : Bytes} {generation : Nat}
    (parsed : parseLockedApplicationAppendSnapshot H value = .ok prior)
    (expected : parseApplicationAppendExpectation sent = .ok expectation)
    (received : isRfc3339Millis receivedAt = true)
    (allowed : evaluateLockedApplicationAppend H prior expectation receivedAt = .allowed decision)
    (headSize : headHash.length = 32) (headNonZero : headHash ≠ zeroHash)
    (digestSize : digest.length = 32) (positive : 1 ≤ generation)
    (bounded : generation ≤ uint63Max) (tokenSize : tokenHash.length = 32)
    (tokenNonZero : tokenHash ≠ zeroHash) :
    ∃ reservations,
      bindApplicationAppendQuotaCapacityReservations H decision.quotaCapacityDeltas digest
        generation tokenHash = .ok reservations ∧
      Advances prior expectation headHash (nextProjection prior decision headHash reservations)
        decision.postReservationQuotas ∧
      (Completes H prior expectation receivedAt headHash decision reservations ∨
        Collision H (reservations.map idInput) ∨ ZeroId H reservations) := by
  have again := parseSnapshot_idem parsed
  have checks := (parseSnapshot_eq_ok.mp again).1
  have counters := parseLockedQuotaCounters_eq_ok checks.quotaRows
  obtain rfl := (checked_eq_ok.mp expected).2
  have bound := bind_of_allowed counters allowed digestSize positive bounded tokenSize tokenNonZero
  refine ⟨_, bound, advances_of_allowed allowed checks.usage _, ?_⟩
  by_cases safe : Collision H ((decision.quotaCapacityDeltas.map
      (bindReservation H digest generation tokenHash)).map idInput)
  · exact Or.inr (Or.inl safe)
  by_cases nonZero : ZeroId H (decision.quotaCapacityDeltas.map
      (bindReservation H digest generation tokenHash))
  · exact Or.inr (Or.inr nonZero)
  · have usable := (liveSet_of_bound counters allowed bound).usable safe nonZero
    have isExact := @reservesExactly_of_bound H digest tokenHash generation
      decision.quotaCapacityDeltas
    exact Or.inl ⟨validateStateTransition_of_decision again expected received allowed headSize
      headNonZero usable isExact,
      validateQuotaTransition_of_decision again expected received allowed usable isExact⟩

end

/-- Rows whose versions can move once more. -/
def lastVersions (_ : QuotaScope) : Nat := uint63Max - 1

theorem sampleExpectation_parses :
    parseApplicationAppendExpectation (sampleExpectation sampleHash sampleSender) =
      .ok (sampleExpectation sampleHash sampleSender) := by
  have valid := sampleSender_valid
  have realm : isSigningKeyId sampleRealm = true := rfl
  have tenant : isScopeSubjectId sampleTenant = true := rfl
  have profile : isSigningKeyId "profile" = true := rfl
  have credential : isUuidV4 sampleCredential = true := rfl
  have head : isUuidV4 "66666666-6666-4666-8666-666666666666" = true := rfl
  have etag : pass (parseConversationEtag "\"e3-r2\"") = .ok () := rfl
  have policyHash : pass (parseNonZeroHash32 (sampleHash32 10) "policy head hash") = .ok () :=
    pass_eq_ok.mpr ⟨_, parseNonZeroHash32_eq_ok.mpr ⟨rfl, by decide, rfl⟩⟩
  refine checked_eq_ok.mpr ⟨?_, rfl⟩
  simp [sampleExpectation, pass_realm, pass_conversationId, pass_subject, pass_uuid, pass_keyText,
    pass_hash, pass_uint63, refuse_eq_ok, realm, tenant, profile, credential, head, etag,
    valid.conversationId, valid.accountId, valid.installationId, valid.projectScopeId,
    uint63Max, sampleHash32, sampleQuotaPolicyDigest, sha256Bytes, sampleHash.length_digest]
  exact policyHash

theorem lastVersions_lt (scope : QuotaScope) : lastVersions scope < uint63Max := by
  unfold lastVersions
  decide

/-- An append on rows in their last version but one. -/
theorem allowed_decision_completes_last :
    ∃ reservations,
      Advances (sampleSnapshot sampleHash sampleSender lastVersions)
        (sampleExpectation sampleHash sampleSender) (sampleHash32 23)
        (nextProjection (sampleSnapshot sampleHash sampleSender lastVersions)
          (sampleAppend sampleHash sampleSender lastVersions) (sampleHash32 23) reservations)
        (sampleAppend sampleHash sampleSender lastVersions).postReservationQuotas ∧
      Completes sampleHash (sampleSnapshot sampleHash sampleSender lastVersions)
        (sampleExpectation sampleHash sampleSender) "2024-03-01T12:00:30.000Z" (sampleHash32 23)
        (sampleAppend sampleHash sampleSender lastVersions) reservations := by
  have allowed : evaluateLockedApplicationAppend sampleHash
      (sampleSnapshot sampleHash sampleSender lastVersions)
      (sampleExpectation sampleHash sampleSender) "2024-03-01T12:00:30.000Z" = .allowed _ :=
    sample_allowed sampleSender_valid lastVersions_lt (by decide +kernel) (by decide +kernel)
      (by decide +kernel) (by decide +kernel) rfl
  have parsed := @sampleSnapshot_parses sampleHash sampleSender lastVersions sampleSender_valid
    fun scope => (lastVersions_lt scope).le
  have counters := parseLockedQuotaCounters_eq_ok (parseSnapshot_eq_ok.mp parsed).1.quotaRows
  obtain ⟨reservations, hbound, hadvances, hcompletes⟩ := @allowed_decision_completes sampleHash
    _ _ _ _ _ _ (sampleHash32 23) (sampleHash32 24) (sampleHash32 25) 1 parsed
    sampleExpectation_parses rfl allowed rfl (by decide) rfl (by decide) (by decide) rfl (by decide)
  refine ⟨reservations, hadvances, ?_⟩
  rw [bind_of_allowed counters allowed rfl (by decide) (by decide) rfl (by decide)] at hbound
  cases hbound
  rcases hcompletes with h | h | h
  · exact h
  · exact absurd h (by decide +kernel)
  · exact absurd h (by unfold ZeroId; decide +kernel)

end JbChat.Store.DecisionCompletion
