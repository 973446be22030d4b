/- source: src/production/delivery/service.ts
   digest: The callback that prepares a reservation, and the intents the parser accepts. -/

import JbChat.Store.AppendStore

/-!
The service prepares an intent inside the reserving transaction, from the rows that are
locked there. The store parses the intent once more.
-/

set_option autoImplicit false

namespace JbChat.Store.Preparation

open Foundation.HashTrace
open Foundation.Transaction Delivery.ValueObjects Delivery.Instants Delivery.Snapshot Delivery.Quota
open Delivery.QuotaRules Delivery.QuotaConservation
open Delivery.SnapshotParse Delivery.SnapshotDigest Delivery.EnvelopeLog Delivery.Fanout
open Delivery.PendingExpiry Commands Evidence Documents Intents Store.Authority AppendStore

section

variable (H : HashFunction)

/-- What the service holds when it asks for a reservation, with the time its callback reads. -/
structure PreparationRequest where
  reservation : AtomicApplicationAppendReservation
  persistedSnapshot : LockedApplicationAppendSnapshot
  deadline : String
  clockNow : Except UnavailableReason String

def timestampWasObservedDuringInvocation (value completedAt startedAt deadline : String) : Bool :=
  decide (startedAt ≤ value ∧ value ≤ completedAt ∧ completedAt < deadline)

def unsignedEnvelope (command : AtomicApplicationAppendCommand)
    (snapshot : LockedApplicationAppendSnapshot) (position : Nat) (receivedAt : String)
    (previousHeadHash : Bytes) (activeSigningKeyId : String) :
    Except Failure UnsignedStoredApplicationEnvelope := do
  let identity := command.semanticIdentity
  let append := identity.append
  let leafHash ← computeEnvelopeLeafHash H
    { conversationId := identity.conversationId
      position := position
      envelopeId := append.envelopeId
      envelopeClass := .application
      sender := identity.authenticatedSender.sender
      epoch := snapshot.conversation.epoch
      rosterVersion := snapshot.conversation.rosterVersion
      contentType := .privateMessage
      envelopeSha256 := append.envelopeSha256
      receivedAt := receivedAt }
  let headHash ← computeLogHeadHash H previousHeadHash leafHash
  let checkpointDigest ← logCheckpointDigest H identity.conversationId position previousHeadHash
    headHash activeSigningKeyId
  parseUnsignedStoredApplicationEnvelope H
    { conversationId := identity.conversationId
      position := position
      envelopeId := append.envelopeId
      envelopeBytes := append.ciphertext
      envelopeSha256 := append.envelopeSha256
      epoch := snapshot.conversation.epoch
      rosterVersion := snapshot.conversation.rosterVersion
      sender := identity.authenticatedSender
      receivedAt := receivedAt
      leafHash := leafHash
      previousHeadHash := previousHeadHash
      headHash := headHash
      logSigningKeyId := activeSigningKeyId
      logCheckpointDigest := checkpointDigest }

def createPendingIntentValue (pending : PendingApplicationAppendIntent) :
    Except Failure PendingApplicationAppendIntent := do
  let preparationDigest ← checkHash32 pending.preparationDigest "hash"
  let intentDigest ← computePendingIntentDigest H
    { pending with preparationDigest := preparationDigest }
  .ok { pending with
    preparationDigest := preparationDigest
    intentDigest := intentDigest }

/-- The rows of the context, each by its parser. -/
def parseReserveContext (command : AtomicApplicationAppendCommand)
    (context : ReserveTransactionContext) : Except Failure ReserveTransactionContext := do
  let snapshot ← parseLockedApplicationAppendSnapshot H context.lockedSnapshot
  let receivedAt ← parseRfc3339Millis context.authoritativeReceivedAt "authoritativeReceivedAt"
  let previousHeadHash ← checkHash32 context.previousHeadHash "previousHeadHash"
  let attachmentByteLength ← checkUint63 context.attachmentByteLength "attachmentByteLength"
  let activeSigningKeyId ← parseKeyText context.activeSigningKeyId "activeSigningKeyId"
  let activeSigningKeyValidUntil ← parseRfc3339Millis context.activeSigningKeyValidUntil
    "activeSigningKeyValidUntil"
  let reservationFence ← parseApplicationAppendReservationFence context.reservationFence
  let ceiling := command.deliveryLimits.conversationRecipientInstallationsMax
  let mlsRosterProjections ← parseApplicationAppendMlsRosterProjections
    context.mlsRosterProjections ceiling
  let recipientProjections ← parseApplicationAppendRecipientProjections
    context.recipientProjections ceiling
  .ok ⟨snapshot, receivedAt, previousHeadHash, attachmentByteLength, activeSigningKeyId,
    activeSigningKeyValidUntil, reservationFence, mlsRosterProjections, recipientProjections,
    context.transactionDeadline⟩

/-- The expiry and the routes of an append. A failure of either is an answer, not a throw. -/
def expiryAndPlan (request : PreparationRequest) (context : ReserveTransactionContext)
    (position : Nat) : Except Failure (String × ApplicationAppendFanoutPlan) := do
  let pendingExpiresAt ← computeApplicationAppendPendingExpiresAt H
    { snapshot := context.lockedSnapshot
      admissionStartedAt := request.reservation.admissionStartedAt
      authoritativeReceivedAt := context.authoritativeReceivedAt
      activeSigningKeyValidUntil := context.activeSigningKeyValidUntil }
  let fanoutPlan ← deriveApplicationAppendFanoutPlan H
    { conversation := context.lockedSnapshot.conversation
      senderMembership := context.lockedSnapshot.membership
      position := position
      authoritativeReceivedAt := context.authoritativeReceivedAt
      recipientInstallationsMax :=
        request.reservation.command.deliveryLimits.conversationRecipientInstallationsMax
      mlsRosterProjections := context.mlsRosterProjections
      recipientProjections := context.recipientProjections }
  .ok (pendingExpiresAt, fanoutPlan)

/-- The intent before its reservations are bound and its digests are known. -/
def draftIntent (request : PreparationRequest) (context : ReserveTransactionContext)
    (expectation : ApplicationAppendExpectation) (decision : AllowedAppend)
    (envelope : UnsignedStoredApplicationEnvelope) (pendingExpiresAt : String)
    (fanoutPlan : ApplicationAppendFanoutPlan) : PendingApplicationAppendIntent :=
  let command := request.reservation.command
  let draft : PendingApplicationAppendIntent :=
    { admissionCommand := command
      admissionCommandDigest := computeAtomicApplicationAppendCommandDigest H command
      semanticIdentityDigest := computeApplicationEnvelopeSemanticIdentityDigest H
        command.semanticIdentity
      expectedSnapshotDigest := request.reservation.expectedSnapshotDigest
      persistedSnapshot := request.persistedSnapshot
      expectedAuthorizationSnapshotDigest :=
        request.reservation.expectedAuthorizationSnapshotDigest
      priorSnapshot := context.lockedSnapshot
      expectation := expectation
      attachmentByteLength := context.attachmentByteLength
      admissionStartedAt := request.reservation.admissionStartedAt
      pendingExpiresAt := pendingExpiresAt
      activeSigningKeyValidUntil := context.activeSigningKeyValidUntil
      reservationFence := context.reservationFence
      mlsRosterProjections := context.mlsRosterProjections
      recipientProjections := context.recipientProjections
      fanoutPlan := fanoutPlan
      commitProjection := ⟨context.lockedSnapshot.conversation, decision.nextUsage, []⟩
      postReservationQuotas := decision.postReservationQuotas
      envelope := envelope
      wireInspectionEvidence := request.reservation.wireInspectionEvidence
      policyHeadProofEvidence := request.reservation.policyHeadProofEvidence
      preparationDigest := []
      intentDigest := [] }
  { draft with preparationDigest := computeApplicationAppendPreparationDigest H draft decision }

/-- The intent with its reservations and the state after it. -/
def completeIntent (draft : PendingApplicationAppendIntent) (decision : AllowedAppend) :
    Except Failure PendingApplicationAppendIntent := do
  let prior := draft.priorSnapshot
  let receivedAt := draft.envelope.receivedAt
  let reservations ← bindApplicationAppendQuotaCapacityReservations H decision.quotaCapacityDeltas
    draft.preparationDigest draft.reservationFence.generation
    (fenceTokenHashOf H draft.reservationFence)
  let commitProjection ← validateLockedApplicationAppendStateTransition H prior draft.expectation
    receivedAt draft.envelope.headHash
    ⟨{ prior.conversation with
        lastPosition := decision.nextPosition
        currentLogHeadHash := draft.envelope.headHash }, decision.nextUsage, reservations⟩
  let postReservationQuotas ← validateLockedApplicationAppendQuotaReservationTransition H prior
    draft.expectation receivedAt reservations decision.postReservationQuotas
  let pending ← createPendingIntentValue H { draft with
    commitProjection := commitProjection
    postReservationQuotas := postReservationQuotas }
  parsePendingApplicationAppendIntent H pending

/-- The callback once its context is parsed and the clock has answered. -/
def prepareIntent (request : PreparationRequest) (context : ReserveTransactionContext)
    (completedAt : String) : Except Failure PreparedApplicationAppend := do
  let input := request.reservation
  let command := input.command
  let snapshot := context.lockedSnapshot
  let receivedAt := context.authoritativeReceivedAt
  if timestampWasObservedDuringInvocation receivedAt completedAt input.admissionStartedAt
        request.deadline = false ∨ context.transactionDeadline ≤ dateParse receivedAt ∨
      context.transactionDeadline > dateParse request.deadline then
    return .unavailable .malformedDependencyResponse
  let authorizationDigest ← computeLockedApplicationAppendSnapshotDigest H snapshot
  let snapshotDigest ← computeLockedApplicationAppendSnapshotDigest H request.persistedSnapshot
  if authorizationDigest ≠ input.expectedAuthorizationSnapshotDigest ∨
      snapshotDigest ≠ input.expectedSnapshotDigest ∨
      snapshot.conversation.currentLogHeadHash ≠ context.previousHeadHash then
    return .rejected .conversationStateChanged
  if enforceApplicationAppendDeliveryLimits command.semanticIdentity.append
      command.deliveryLimits ≠ .ok () then
    return .rejected .conversationStateChanged
  let expectation ← parseApplicationAppendExpectation
    (buildApplicationAppendExpectation H command snapshot context.attachmentByteLength)
  match evaluateLockedApplicationAppend H snapshot expectation receivedAt with
  | .rejected reasonCode => return .rejected reasonCode
  | .allowed decision =>
    assertWireEvidenceMatches input.wireInspectionEvidence command snapshot
    let proof := input.policyHeadProofEvidence
    let _ ← parsePolicyHeadProofEvidence H proof (policyProofExpectation snapshot proof.verifiedAt)
    refuse (receivedAt < proof.verifiedAt)
      "Policy proof was verified after the reservation timestamp."
    let envelope ← unsignedEnvelope H command snapshot decision.nextPosition receivedAt
      context.previousHeadHash context.activeSigningKeyId
    match expiryAndPlan H request context decision.nextPosition with
    | .error _ => return .unavailable .malformedDependencyResponse
    | .ok (pendingExpiresAt, fanoutPlan) =>
      let pending ← completeIntent H (draftIntent H request context expectation decision
        envelope pendingExpiresAt fanoutPlan) decision
      return .ready pending

def prepareUnsignedApplicationAppend (request : PreparationRequest)
    (context : ReserveTransactionContext) : Except Failure PreparedApplicationAppend := do
  let parsed ← parseReserveContext H request.reservation.command context
  match request.clockNow with
  | .error reasonCode => .ok (.unavailable reasonCode)
  | .ok completedAt => prepareIntent H request parsed completedAt

/-- The callback that the service passes to the store. -/
def preparing (request : PreparationRequest) (context : ReserveTransactionContext) :
    PreparedValue :=
  match prepareUnsignedApplicationAppend H request context with
  | .ok prepared => .value prepared
  | .error failure => .thrown failure

end

section

variable {H : HashFunction} {prior : LockedApplicationAppendSnapshot}
  {expectation : ApplicationAppendExpectation} {receivedAt : String} {decision : AllowedAppend}
  {reservations : List ApplicationAppendQuotaCapacityReservation} {headHash : Bytes}
  {conversation : LockedConversationState} {position : Nat}

theorem parseConversation_advanced
    (h : parseLockedConversationState conversation = .ok conversation)
    (bounded : position ≤ uint63Max) (size : headHash.length = 32) :
    parseLockedConversationState { conversation with
      lastPosition := position
      currentLogHeadHash := headHash } = .ok { conversation with
      lastPosition := position
      currentLogHeadHash := headHash } := by
  have checks := (checked_eq_ok.mp h).1
  refine checked_eq_ok.mpr ⟨?_, rfl⟩
  simp only [List.forall_mem_cons, pass_uint63, pass_hash] at checks ⊢
  simp only [checks, bounded, size, true_and]
  exact fun _ h => absurd h List.not_mem_nil

theorem nextUsage_parses {usage next : LockedConversationUsage}
    {envelopeBytes attachmentBytes : Nat} (parsed : parseLockedConversationUsage usage = .ok usage)
    (h : nextPositionAndUsage conversation usage envelopeBytes attachmentBytes =
      .ok (position, next)) :
    position = conversation.lastPosition + 1 ∧ position ≤ uint63Max ∧
      parseLockedConversationUsage next = .ok next := by
  have checks := (checked_eq_ok.mp parsed).1
  unfold nextPositionAndUsage at h
  split at h
  · rename_i nextPosition envelopeCount nextEnvelopeBytes nextAttachmentBytes hposition hcount
      hbytes hattachments
    obtain ⟨hnext, hpositionMax⟩ := addUint63_eq_some.mp hposition
    obtain ⟨-, hcountMax⟩ := addUint63_eq_some.mp hcount
    obtain ⟨-, hbytesMax⟩ := addUint63_eq_some.mp hbytes
    obtain ⟨-, hattachmentsMax⟩ := addUint63_eq_some.mp hattachments
    split_ifs at h with hlimits
    cases h
    refine ⟨by omega, hpositionMax, checked_eq_ok.mpr ⟨?_, rfl⟩⟩
    simp only [List.forall_mem_cons, pass_uint63, refuse_eq_ok] at checks ⊢
    exact ⟨checks.1, hcountMax, hbytesMax, hattachmentsMax, checks.2.2.2.2.1, checks.2.2.2.2.2.1,
      checks.2.2.2.2.2.2.1, hlimits, fun _ h => absurd h List.not_mem_nil⟩
  · cases h

theorem nextUsage_counts {usage next : LockedConversationUsage}
    {envelopeBytes attachmentBytes : Nat}
    (h : nextPositionAndUsage conversation usage envelopeBytes attachmentBytes =
      .ok (position, next)) :
    next = { usage with
      envelopeCount := usage.envelopeCount + 1
      envelopeBytes := usage.envelopeBytes + envelopeBytes
      attachmentBytes := usage.attachmentBytes + attachmentBytes } := by
  unfold nextPositionAndUsage at h
  split at h
  · rename_i nextPosition envelopeCount nextEnvelopeBytes nextAttachmentBytes hposition hcount
      hbytes hattachments
    obtain ⟨hcount, -⟩ := addUint63_eq_some.mp hcount
    obtain ⟨hbytes, -⟩ := addUint63_eq_some.mp hbytes
    obtain ⟨hattachments, -⟩ := addUint63_eq_some.mp hattachments
    obtain rfl : envelopeCount = usage.envelopeCount + 1 := by omega
    obtain rfl : nextEnvelopeBytes = usage.envelopeBytes + envelopeBytes := by omega
    obtain rfl : nextAttachmentBytes = usage.attachmentBytes + attachmentBytes := by omega
    split_ifs at h
    cases h
    rfl
  · cases h

theorem reservesExactly_of_bound {digest tokenHash : Bytes} {generation : Nat}
    (deltas : List ApplicationAppendQuotaCapacityDelta) :
    reservesExactly (deltas.map (bindReservation H digest generation tokenHash)) deltas =
      true := by
  refine decide_eq_true ⟨?_, ?_⟩
  · intro reservation hreservation
    obtain ⟨delta, -, rfl⟩ := List.mem_map.mp hreservation
    rfl
  · rw [List.map_map]
    exact List.map_id _

/-- The state after an append, as it is prepared. -/
def nextProjection (prior : LockedApplicationAppendSnapshot) (decision : AllowedAppend)
    (headHash : Bytes) (reservations : List ApplicationAppendQuotaCapacityReservation) :
    LockedApplicationAppendCommitProjection :=
  ⟨{ prior.conversation with
      lastPosition := decision.nextPosition
      currentLogHeadHash := headHash }, decision.nextUsage, reservations⟩

theorem validateStateTransition_of_decision
    (parsed : parseLockedApplicationAppendSnapshot H prior = .ok prior)
    (sent : parseApplicationAppendExpectation expectation = .ok expectation)
    (received : isRfc3339Millis receivedAt = true)
    (allowed : evaluateLockedApplicationAppend H prior expectation receivedAt = .allowed decision)
    (size : headHash.length = 32) (nonZero : headHash ≠ zeroHash)
    (usable : Reservations H reservations)
    (isExact : reservesExactly reservations decision.quotaCapacityDeltas = true) :
    validateLockedApplicationAppendStateTransition H prior expectation receivedAt headHash
        (nextProjection prior decision headHash reservations) =
      .ok (nextProjection prior decision headHash reservations) := by
  have checks := (parseSnapshot_eq_ok.mp parsed).1
  obtain ⟨-, hbounded, husage⟩ :=
    nextUsage_parses checks.usage (evaluate_eq_allowed_iff.mp allowed).usage
  have hconversation := parseConversation_advanced checks.conversation hbounded size
  unfold validateLockedApplicationAppendStateTransition
  refine bind_ok.mpr ⟨prior, parsed, ?_⟩
  refine bind_ok.mpr ⟨expectation, sent, ?_⟩
  refine bind_ok.mpr ⟨receivedAt, parseRfc3339Millis_eq_ok.mpr ⟨received, rfl⟩, ?_⟩
  refine bind_ok.mpr ⟨headHash, checkHash32_eq_ok.mpr ⟨size, rfl⟩, ?_⟩
  rw [if_neg nonZero]
  refine bind_ok.mpr ⟨decision, allowedAppend_eq_ok.mpr allowed, ?_⟩
  refine bind_ok.mpr ⟨_, hconversation, ?_⟩
  refine bind_ok.mpr ⟨_, hconversation, ?_⟩
  refine bind_ok.mpr ⟨_, husage, ?_⟩
  refine bind_ok.mpr ⟨_, parseReservations_of_reservations usable, ?_⟩
  rw [if_neg]
  · rfl
  · rintro (h | h | h)
    · exact h rfl
    · exact h rfl
    · exact h isExact

theorem validateQuotaTransition_of_decision
    (parsed : parseLockedApplicationAppendSnapshot H prior = .ok prior)
    (sent : parseApplicationAppendExpectation expectation = .ok expectation)
    (received : isRfc3339Millis receivedAt = true)
    (allowed : evaluateLockedApplicationAppend H prior expectation receivedAt = .allowed decision)
    (usable : Reservations H reservations)
    (isExact : reservesExactly reservations decision.quotaCapacityDeltas = true) :
    validateLockedApplicationAppendQuotaReservationTransition H prior expectation receivedAt
      reservations decision.postReservationQuotas = .ok decision.postReservationQuotas := by
  have counters := parseLockedQuotaCounters_eq_ok (parseSnapshot_eq_ok.mp parsed).1.quotaRows
  obtain ⟨total, hroom, -, hpost⟩ := evaluate_eq_allowed allowed
  have hquotas : parseLockedQuotaCounters decision.postReservationQuotas =
      .ok decision.postReservationQuotas := by
    rw [hpost]
    exact parseLockedQuotaCounters_of_counters (counters_reservedBy counters hroom)
  unfold validateLockedApplicationAppendQuotaReservationTransition
  refine bind_ok.mpr ⟨prior, parsed, ?_⟩
  refine bind_ok.mpr ⟨expectation, sent, ?_⟩
  refine bind_ok.mpr ⟨receivedAt, parseRfc3339Millis_eq_ok.mpr ⟨received, rfl⟩, ?_⟩
  refine bind_ok.mpr ⟨decision, allowedAppend_eq_ok.mpr allowed, ?_⟩
  refine bind_ok.mpr ⟨_, parseReservations_of_reservations usable, ?_⟩
  refine bind_ok.mpr ⟨_, hquotas, ?_⟩
  rw [if_neg]
  rintro (h | h)
  · exact h isExact
  · exact h rfl

end

end JbChat.Store.Preparation
