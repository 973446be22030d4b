/- source: src/production/delivery/service.ts, state.ts
   digest: The parser of pending append intents and what an accepted intent reserves. -/

import JbChat.Store.Documents

set_option autoImplicit false

namespace JbChat.Store.Intents

open Foundation.HashTrace Foundation.LengthPrefix Foundation.Transaction
open Delivery.ValueObjects Delivery.Hashes Delivery.Instants Delivery.Snapshot Delivery.Quota
open Delivery.QuotaRules Delivery.QuotaLedger Delivery.QuotaConservation
open Delivery.SnapshotParse Delivery.EnvelopeLog Delivery.Fanout Delivery.PendingExpiry Commands
open Evidence Documents

def UnsignedStoredApplicationEnvelope.leafInput (envelope : UnsignedStoredApplicationEnvelope) :
    EnvelopeLeafInput where
  conversationId := envelope.conversationId
  position := envelope.position
  envelopeId := envelope.envelopeId
  envelopeClass := .application
  sender := envelope.sender.sender
  epoch := envelope.epoch
  rosterVersion := envelope.rosterVersion
  contentType := .privateMessage
  envelopeSha256 := envelope.envelopeSha256
  receivedAt := envelope.receivedAt

/-- The hashes of an envelope are those of its contents and its place in the log. -/
def envelopeHashesBound (H : HashFunction) (envelope : UnsignedStoredApplicationEnvelope) :
    Except Failure Bool := do
  let leafHash ← computeEnvelopeLeafHash H (UnsignedStoredApplicationEnvelope.leafInput envelope)
  let headHash ← computeLogHeadHash H envelope.previousHeadHash leafHash
  let checkpointDigest ← logCheckpointDigest H envelope.conversationId envelope.position
    envelope.previousHeadHash envelope.headHash envelope.logSigningKeyId
  .ok (decide (computeEnvelopeSha256 H envelope.envelopeBytes = envelope.envelopeSha256 ∧
    leafHash = envelope.leafHash ∧ headHash = envelope.headHash ∧
    (envelope.position = 1 → envelope.previousHeadHash = zeroHash) ∧
    envelope.logCheckpointDigest = checkpointDigest))

def parseUnsignedStoredApplicationEnvelope (H : HashFunction)
    (envelope : UnsignedStoredApplicationEnvelope) :
    Except Failure UnsignedStoredApplicationEnvelope := do
  let parsed ← checked envelope [
    checkByteLength envelope.envelopeBytes "unsigned envelope bytes" 1 maxApplicationEnvelopeBytes,
    pass (parseEnvelopeSender envelope.sender.sender "unsigned sender"),
    pass (parseConversationId envelope.conversationId),
    pass (parsePositiveUint63 envelope.position "counter"),
    pass (parseUuidV4 envelope.envelopeId "envelopeId"),
    pass (checkHash32 envelope.envelopeSha256 "hash"),
    pass (checkUint63 envelope.epoch "counter"),
    pass (checkUint63 envelope.rosterVersion "counter"),
    pass (parseRfc3339Millis envelope.receivedAt "timestamp"),
    pass (checkHash32 envelope.leafHash "hash"),
    pass (checkHash32 envelope.previousHeadHash "hash"),
    pass (checkHash32 envelope.headHash "hash"),
    pass (parseKeyText envelope.logSigningKeyId "signingKeyId"),
    pass (checkHash32 envelope.logCheckpointDigest "hash")]
  let bound ← envelopeHashesBound H parsed
  if bound = false then
    .error (.invalid "Unsigned envelope hash-chain or checkpoint binding is invalid.")
  else .ok parsed

def requireUnsignedEnvelopeMatchesCommand (envelope : UnsignedStoredApplicationEnvelope)
    (command : AtomicApplicationAppendCommand) (snapshot : LockedApplicationAppendSnapshot) :
    Except Failure Unit :=
  let identity := command.semanticIdentity
  refuse (envelope.conversationId ≠ identity.conversationId ∨
      envelope.envelopeId ≠ identity.append.envelopeId ∨
      envelope.envelopeBytes ≠ identity.append.ciphertext ∨
      envelope.envelopeSha256 ≠ identity.append.envelopeSha256 ∨
      envelope.epoch ≠ snapshot.conversation.epoch ∨
      envelope.rosterVersion ≠ snapshot.conversation.rosterVersion ∨
      envelope.sender.accountId ≠ identity.authenticatedSender.accountId ∨
      envelope.sender.installationId ≠ identity.authenticatedSender.installationId ∨
      envelope.previousHeadHash ≠ snapshot.conversation.currentLogHeadHash)
    "Pending envelope is detached from its command and state."

def parseApplicationAppendExpectation (expectation : ApplicationAppendExpectation) :
    Except Failure ApplicationAppendExpectation :=
  checked expectation [
    pass (checkUint63 expectation.envelopeByteLength "envelope byte length"),
    refuse (expectation.envelopeByteLength = 0) "Envelope byte length must be positive.",
    pass (parsePolicyRealmId expectation.realmId),
    pass (parseConversationId expectation.conversationId),
    pass (parseUuidV4 expectation.accountId "accountId"),
    pass (parseUuidV4 expectation.installationId "installationId"),
    pass (parseUuidV4 expectation.credentialId "credentialId"),
    pass (checkHash32 expectation.credentialFingerprint "fingerprint"),
    pass (checkUint63 expectation.credentialRevocationVersion "credential revocation version"),
    pass (parseKeyText expectation.releaseProfileId "releaseProfileId"),
    pass (checkHash32 expectation.expectedDeliveryLimitsDigest "expected delivery limits digest"),
    pass (checkHash32 expectation.expectedQuotaPolicyDigest
      "expected append quota policy digest"),
    pass (parseScopeSubjectId expectation.expectedProjectScopeId
      "expected project quota subject ID"),
    pass (parseScopeSubjectId expectation.expectedTenantScopeId
      "expected tenant quota subject ID"),
    pass (checkHash32 expectation.expectedGroupIdHash "expected MLS group ID hash"),
    pass (parseConversationEtag expectation.ifMatch),
    pass (checkUint63 expectation.expectedEpoch "expected epoch"),
    pass (checkUint63 expectation.expectedRosterVersion "expected roster version"),
    pass (checkHash32 expectation.expectedConfirmedTranscriptHash
      "expected confirmed transcript hash"),
    pass (parseUuidV4 expectation.policyHeadId "policyHeadId"),
    pass (checkUint63 expectation.policyHeadSequence "policy head sequence"),
    pass (parseNonZeroHash32 expectation.policyHeadHash "policy head hash"),
    pass (checkUint63 expectation.policyEvaluationLogPosition "policy evaluation-log position"),
    pass (checkHash32 expectation.policyEvaluationLogHeadHash "policy evaluation-log head hash"),
    pass (checkUint63 expectation.attachmentByteLength "attachment byte length")]

def buildApplicationAppendExpectation (H : HashFunction) (command : AtomicApplicationAppendCommand)
    (snapshot : LockedApplicationAppendSnapshot) (attachmentByteLength : Nat) :
    ApplicationAppendExpectation :=
  let identity := command.semanticIdentity
  let append := identity.append
  let conversation := snapshot.conversation
  { realmId := command.realmId
    conversationId := identity.conversationId
    accountId := identity.authenticatedSender.accountId
    installationId := identity.authenticatedSender.installationId
    credentialId := command.authenticatedCredentialId
    credentialFingerprint := command.authenticatedCredentialFingerprint
    credentialRevocationVersion := command.authenticatedCredentialRevocationVersion
    releaseProfileId := command.releaseProfileId
    expectedDeliveryLimitsDigest := computeDeliveryLimitsDigest H command.deliveryLimits
    expectedQuotaPolicyDigest := conversation.quotaPolicyDigest
    expectedProjectScopeId := conversation.projectScopeId
    expectedTenantScopeId := conversation.tenantScopeId
    expectedGroupIdHash := conversation.groupIdHash
    ifMatch := identity.ifMatch
    expectedEpoch := append.expectedEpoch
    expectedRosterVersion := append.expectedRosterVersion
    expectedConfirmedTranscriptHash := append.expectedConfirmedTranscriptHash
    policyHeadId := append.policyHeadId
    policyHeadSequence := append.policyHeadSequence
    policyHeadHash := append.policyHeadHash
    policyEvaluationLogPosition := conversation.lastPosition
    policyEvaluationLogHeadHash := conversation.currentLogHeadHash
    envelopeByteLength := append.ciphertext.length
    attachmentByteLength := attachmentByteLength }

def allowedAppend (H : HashFunction) (prior : LockedApplicationAppendSnapshot)
    (expectation : ApplicationAppendExpectation) (receivedAt message : String) :
    Except Failure AllowedAppend :=
  match evaluateLockedApplicationAppend H prior expectation receivedAt with
  | .allowed append => .ok append
  | .rejected _ => .error (.invalid message)

def reservesExactly (reservations : List ApplicationAppendQuotaCapacityReservation)
    (deltas : List ApplicationAppendQuotaCapacityDelta) : Bool :=
  decide ((∀ reservation ∈ reservations, reservation.state = .live) ∧
    reservations.map (·.toApplicationAppendQuotaCapacityDelta) = deltas)

def validateLockedApplicationAppendStateTransition (H : HashFunction)
    (priorSnapshot : LockedApplicationAppendSnapshot) (expectation : ApplicationAppendExpectation)
    (receivedAt : String) (nextHeadHash : Bytes)
    (prepared : LockedApplicationAppendCommitProjection) :
    Except Failure LockedApplicationAppendCommitProjection := do
  let prior ← parseLockedApplicationAppendSnapshot H priorSnapshot
  let expectation ← parseApplicationAppendExpectation expectation
  let receivedAt ← parseRfc3339Millis receivedAt "authoritative append time"
  let nextHeadHash ← checkHash32 nextHeadHash "next log head hash"
  if nextHeadHash = zeroHash then
    .error (.invalid "An appended envelope cannot produce the zero log head.")
  else
    let decision ← allowedAppend H prior expectation receivedAt
      "Rejected append cannot transition state."
    let expectedConversation ← parseLockedConversationState { prior.conversation with
      lastPosition := decision.nextPosition
      currentLogHeadHash := nextHeadHash }
    let conversation ← parseLockedConversationState prepared.conversation
    let usage ← parseLockedConversationUsage prepared.usage
    let reservations ← parseApplicationAppendQuotaCapacityReservations H
      prepared.quotaCapacityReservations
    if conversation ≠ expectedConversation ∨ usage ≠ decision.nextUsage ∨
        ¬ reservesExactly reservations decision.quotaCapacityDeltas then
      .error (.invalid "Prepared append state transition contains an unauthorized change.")
    else .ok ⟨conversation, usage, reservations⟩

def validateLockedApplicationAppendQuotaReservationTransition (H : HashFunction)
    (priorSnapshot : LockedApplicationAppendSnapshot) (expectation : ApplicationAppendExpectation)
    (receivedAt : String) (quotaCapacityReservations : List ApplicationAppendQuotaCapacityReservation)
    (preparedPostReservationQuotas : List LockedQuotaCounter) :
    Except Failure (List LockedQuotaCounter) := do
  let prior ← parseLockedApplicationAppendSnapshot H priorSnapshot
  let expectation ← parseApplicationAppendExpectation expectation
  let receivedAt ← parseRfc3339Millis receivedAt "timestamp"
  let decision ← allowedAppend H prior expectation receivedAt
    "Rejected append cannot reserve quota."
  let reservations ← parseApplicationAppendQuotaCapacityReservations H quotaCapacityReservations
  let prepared ← parseLockedQuotaCounters preparedPostReservationQuotas
  if ¬ reservesExactly reservations decision.quotaCapacityDeltas ∨
      prepared ≠ decision.postReservationQuotas then
    .error (.invalid "Prepared quota-capacity reservation transition is invalid.")
  else .ok prepared

def parseLockedApplicationAppendCommitProjection (H : HashFunction)
    (projection : LockedApplicationAppendCommitProjection) :
    Except Failure LockedApplicationAppendCommitProjection := do
  let conversation ← parseLockedConversationState projection.conversation
  let usage ← parseLockedConversationUsage projection.usage
  let reservations ← parseApplicationAppendQuotaCapacityReservations H
    projection.quotaCapacityReservations
  .ok ⟨conversation, usage, reservations⟩

def preparationDigestDomain : String := "jb-msg-application-append-preparation/v1"

def deltaDigestFields (delta : ApplicationAppendQuotaCapacityDelta) : List Bytes :=
  [utf8 delta.scope.text, delta.scopeHash, utf8 delta.quotaName, utf8 delta.windowStartedAt,
    utf8 delta.windowSeconds.repr, utf8 delta.reservationOperationCount.repr,
    utf8 delta.reservationByteCount.repr, utf8 delta.rowVersionBefore.repr,
    utf8 delta.rowVersionAfter.repr]

def computeApplicationAppendPreparationDigest (H : HashFunction)
    (pending : PendingApplicationAppendIntent) (decision : AllowedAppend) : Bytes :=
  let envelope := pending.envelope
  sha256Bytes H [utf8 preparationDigestDomain,
    lengthPrefixed [pending.admissionCommandDigest, pending.semanticIdentityDigest,
      pending.expectedSnapshotDigest, pending.expectedAuthorizationSnapshotDigest,
      utf8 pending.admissionStartedAt, utf8 pending.pendingExpiresAt,
      utf8 pending.activeSigningKeyValidUntil, utf8 pending.reservationFence.generation.repr,
      fenceTokenHashOf H pending.reservationFence, utf8 pending.attachmentByteLength.repr,
      utf8 envelope.conversationId, utf8 envelope.position.repr, utf8 envelope.envelopeId,
      envelope.envelopeSha256, utf8 envelope.epoch.repr, utf8 envelope.rosterVersion.repr,
      utf8 envelope.receivedAt, envelope.leafHash, envelope.previousHeadHash, envelope.headHash,
      utf8 envelope.logSigningKeyId, envelope.logCheckpointDigest,
      pending.wireInspectionEvidence.evidenceDigest,
      pending.policyHeadProofEvidence.evidenceDigest, pending.fanoutPlan.planDigest,
      lengthPrefixed (decision.quotaCapacityDeltas.flatMap deltaDigestFields),
      lengthPrefixed (decision.postReservationQuotas.flatMap quotaDigestFields)]]

def reservationSetDigestDomain : String := "jb-msg-application-append-quota-reservation-set/v1"

def reservationStateText : ReservationState → String
  | .live => "live"
  | .consumed => "consumed"
  | .released => "released"

def computeApplicationAppendQuotaReservationSetDigest (H : HashFunction)
    (value : List ApplicationAppendQuotaCapacityReservation) : Except Failure Bytes := do
  let reservations ← parseApplicationAppendQuotaCapacityReservations H value
  .ok (sha256Bytes H [utf8 reservationSetDigestDomain,
    lengthPrefixed (reservations.flatMap fun reservation =>
      [reservation.reservationId, utf8 reservation.scope.text,
        utf8 (reservationStateText reservation.state)])])

def pendingIntentDigestDomain : String := "jb-msg-application-append-pending-intent/v1"

def computePendingIntentDigest (H : HashFunction) (pending : PendingApplicationAppendIntent) :
    Except Failure Bytes := do
  let reservationSetDigest ← computeApplicationAppendQuotaReservationSetDigest H
    pending.commitProjection.quotaCapacityReservations
  .ok (sha256Bytes H [utf8 pendingIntentDigestDomain,
    lengthPrefixed [pending.admissionCommandDigest, pending.semanticIdentityDigest,
      pending.preparationDigest, reservationSetDigest, pending.fanoutPlan.planDigest,
      utf8 pending.reservationFence.generation.repr, fenceTokenHashOf H pending.reservationFence,
      utf8 pending.pendingExpiresAt]])

def checkCommandDigests (H : HashFunction) (value : PendingApplicationAppendIntent) :
    Except Failure Unit := do
  let command ← parseAtomicApplicationAppendCommand H value.admissionCommand
  let _ ← checkHash32 value.admissionCommandDigest "pending admission command digest"
  refuse (value.admissionCommandDigest ≠ computeAtomicApplicationAppendCommandDigest H command)
    "Pending admission command digest is inconsistent."
  let _ ← checkHash32 value.semanticIdentityDigest "pending semantic identity digest"
  refuse (value.semanticIdentityDigest ≠
      computeApplicationEnvelopeSemanticIdentityDigest H command.semanticIdentity)
    "Pending semantic identity digest is inconsistent."

def parseIntentSnapshot (H : HashFunction) (value : LockedApplicationAppendSnapshot)
    (expected : Bytes) (label message : String) :
    Except Failure LockedApplicationAppendSnapshot := do
  let snapshot ← parseLockedApplicationAppendSnapshot H value
  let _ ← checkHash32 expected label
  let digest ← computeLockedApplicationAppendSnapshotDigest H snapshot
  refuse (expected ≠ digest) message
  .ok snapshot

/-- The parts of an intent, each by its own parser, and the proof laid over its snapshot. -/
def parseIntentParts (H : HashFunction) (value : PendingApplicationAppendIntent) :
    Except Failure PendingApplicationAppendIntent := do
  checkCommandDigests H value
  let persistedSnapshot ← parseIntentSnapshot H value.persistedSnapshot
    value.expectedSnapshotDigest "pending snapshot digest"
    "Pending snapshot digest is inconsistent."
  let priorSnapshot ← parseIntentSnapshot H value.priorSnapshot
    value.expectedAuthorizationSnapshotDigest "pending authorization snapshot digest"
    "Pending authorization snapshot digest is inconsistent."
  let _ ← parseApplicationAppendExpectation value.expectation
  let _ ← checkUint63 value.attachmentByteLength "pending attachment byte length"
  let _ ← parseUnsignedStoredApplicationEnvelope H value.envelope
  let _ ← parseRfc3339Millis value.admissionStartedAt "timestamp"
  let _ ← parseRfc3339Millis value.pendingExpiresAt "timestamp"
  let _ ← parseRfc3339Millis value.activeSigningKeyValidUntil "timestamp"
  let _ ← parseApplicationAppendReservationFence value.reservationFence
  let ceiling := value.admissionCommand.deliveryLimits.conversationRecipientInstallationsMax
  let mlsRoster ← parseApplicationAppendMlsRosterProjections value.mlsRosterProjections ceiling
  let recipients ← parseApplicationAppendRecipientProjections value.recipientProjections ceiling
  let _ ← parseApplicationAppendFanoutPlan H value.fanoutPlan ceiling
  let projection ← parseLockedApplicationAppendCommitProjection H value.commitProjection
  let _ ← parseMlsApplicationWireInspectionEvidence H value.wireInspectionEvidence
  let proof ← parseStoredPolicyEvidence H value.policyHeadProofEvidence persistedSnapshot
  let overlaid ← refreshLockedApplicationAppendAuthorizationSnapshot H persistedSnapshot proof
  refuse (priorSnapshot ≠ overlaid) "Pending authorization snapshot overlay was substituted."
  .ok { value with
    persistedSnapshot := persistedSnapshot
    priorSnapshot := priorSnapshot
    mlsRosterProjections := mlsRoster
    recipientProjections := recipients
    commitProjection := projection }

/-- The parts of an intent belong together. -/
def checkIntentBindings (H : HashFunction) (pending : PendingApplicationAppendIntent) :
    Except Failure Unit := do
  let command := pending.admissionCommand
  let prior := pending.priorSnapshot
  refuse (enforceApplicationAppendDeliveryLimits command.semanticIdentity.append
      command.deliveryLimits ≠ .ok ())
    "Pending intent violates its historical admission limits."
  refuse (commandTrustMatchesSnapshot command prior = false)
    "Pending intent is detached from its generation profile."
  assertWireEvidenceMatches pending.wireInspectionEvidence command prior
  let _ ← parsePolicyHeadProofEvidence H pending.policyHeadProofEvidence
    (policyProofExpectation prior pending.policyHeadProofEvidence.verifiedAt)
  requireUnsignedEnvelopeMatchesCommand pending.envelope command prior
  refuse (pending.expectation ≠ buildApplicationAppendExpectation H command prior
      pending.attachmentByteLength)
    "Pending append expectation was substituted."
  let expiresAt ← computeApplicationAppendPendingExpiresAt H
    { snapshot := prior
      admissionStartedAt := pending.admissionStartedAt
      authoritativeReceivedAt := pending.envelope.receivedAt
      activeSigningKeyValidUntil := pending.activeSigningKeyValidUntil }
  refuse (pending.pendingExpiresAt ≠ expiresAt) "Pending expiry or fanout plan was substituted."
  let plan ← deriveApplicationAppendFanoutPlan H
    { conversation := prior.conversation
      senderMembership := prior.membership
      position := pending.envelope.position
      authoritativeReceivedAt := pending.envelope.receivedAt
      recipientInstallationsMax := command.deliveryLimits.conversationRecipientInstallationsMax
      mlsRosterProjections := pending.mlsRosterProjections
      recipientProjections := pending.recipientProjections }
  refuse (pending.fanoutPlan ≠ plan) "Pending expiry or fanout plan was substituted."

/-- The quota rows and the next state of an intent are those of the decision it was
admitted by. The result are its quota rows after the reservation. -/
def parseIntentTransition (H : HashFunction) (pending : PendingApplicationAppendIntent) :
    Except Failure (List LockedQuotaCounter) := do
  let prior := pending.priorSnapshot
  let receivedAt := pending.envelope.receivedAt
  let decision ← allowedAppend H prior pending.expectation receivedAt
    "Pending append is no longer a valid historical admission."
  let preparationDigest ← checkHash32 pending.preparationDigest "pending preparation digest"
  refuse (preparationDigest ≠ computeApplicationAppendPreparationDigest H pending decision)
    "Pending preparation digest is inconsistent."
  let expectedReservations ← bindApplicationAppendQuotaCapacityReservations H
    decision.quotaCapacityDeltas preparationDigest pending.reservationFence.generation
    (fenceTokenHashOf H pending.reservationFence)
  refuse (pending.commitProjection.quotaCapacityReservations ≠ expectedReservations)
    "Pending quota reservations were substituted."
  let projection ← validateLockedApplicationAppendStateTransition H prior pending.expectation
    receivedAt pending.envelope.headHash pending.commitProjection
  refuse (projection ≠ pending.commitProjection) "Pending commit projection was substituted."
  let postReservationQuotas ← validateLockedApplicationAppendQuotaReservationTransition H prior
    pending.expectation receivedAt pending.commitProjection.quotaCapacityReservations
    pending.postReservationQuotas
  let intentDigest ← checkHash32 pending.intentDigest "pending intent digest"
  let expectedDigest ← computePendingIntentDigest H pending
  refuse (intentDigest ≠ expectedDigest) "Pending intent digest is inconsistent."
  .ok postReservationQuotas

def parsePendingApplicationAppendIntent (H : HashFunction)
    (value : PendingApplicationAppendIntent) : Except Failure PendingApplicationAppendIntent := do
  let pending ← parseIntentParts H value
  checkIntentBindings H pending
  let postReservationQuotas ← parseIntentTransition H pending
  .ok { pending with postReservationQuotas := postReservationQuotas }

section

variable {H : HashFunction} {message : String} {prior value : LockedApplicationAppendSnapshot}
  {expectation : ApplicationAppendExpectation}

theorem refuse_bind_eq_ok {β : Type} {refusal : Prop} [Decidable refusal]
    {f : Unit → Except Failure β} {b : β} :
    (refuse refusal message >>= f) = .ok b ↔ ¬ refusal ∧ f () = .ok b := by
  rw [bind_ok]
  constructor
  · rintro ⟨⟨⟩, hrefuse, h⟩
    exact ⟨refuse_eq_ok.mp hrefuse, h⟩
  · rintro ⟨hrefuse, h⟩
    exact ⟨(), refuse_eq_ok.mpr hrefuse, h⟩

/-- An accepted intent reserves one operation and its bytes on every row it was judged on. -/
structure Reserving (H : HashFunction) (pending : PendingApplicationAppendIntent)
    (totalChargedBytes : Nat) : Prop where
  counters : Counters pending.priorSnapshot.quotas
  room : ∀ quota ∈ pending.priorSnapshot.quotas, HasRoom totalChargedBytes quota
  reservations : pending.commitProjection.quotaCapacityReservations =
    pending.priorSnapshot.quotas.map (reservationOf H pending.preparationDigest
      pending.reservationFence.generation (fenceTokenHashOf H pending.reservationFence)
      totalChargedBytes)
  post : pending.postReservationQuotas =
    pending.priorSnapshot.quotas.map (reservedBy totalChargedBytes)

theorem allowedAppend_eq_ok {receivedAt : String}
    {append : AllowedAppend} : allowedAppend H prior expectation receivedAt message = .ok append ↔
      evaluateLockedApplicationAppend H prior expectation receivedAt = .allowed append := by
  unfold allowedAppend
  cases evaluateLockedApplicationAppend H prior expectation receivedAt with
  | allowed other => simp
  | rejected reasonCode => simp

theorem quotas_of_reparse {parsed again : LockedApplicationAppendSnapshot}
    (hparsed : parseLockedApplicationAppendSnapshot H value = .ok parsed)
    (hagain : parseLockedApplicationAppendSnapshot H parsed = .ok again) :
    Counters parsed.quotas ∧ again.quotas = parsed.quotas := by
  have counters := parseLockedQuotaCounters_eq_ok (parseSnapshot_eq_ok.mp hparsed).1.quotaRows
  have hrows := (parseSnapshot_eq_ok.mp hagain).1.quotaRows
  rw [parseLockedQuotaCounters_of_counters counters] at hrows
  exact ⟨counters, (Except.ok.inj hrows).symm⟩

private theorem postQuotas_of_transition
    (hprior : parseLockedApplicationAppendSnapshot H value = .ok prior) {receivedAt : String}
    {reservations : List ApplicationAppendQuotaCapacityReservation}
    {prepared post : List LockedQuotaCounter} {totalChargedBytes : Nat}
    (hdeltas : reservations.map (·.toApplicationAppendQuotaCapacityDelta) =
      prior.quotas.map (deltaOf totalChargedBytes))
    (h : validateLockedApplicationAppendQuotaReservationTransition H prior expectation receivedAt
      reservations prepared = .ok post) :
    post = prior.quotas.map (reservedBy totalChargedBytes) := by
  obtain ⟨again, hagain, h⟩ := bind_ok.mp h
  obtain ⟨counters, hquotas⟩ := quotas_of_reparse hprior hagain
  obtain ⟨sent, -, h⟩ := bind_ok.mp h
  obtain ⟨at_, -, h⟩ := bind_ok.mp h
  obtain ⟨decision, hdecision, h⟩ := bind_ok.mp h
  obtain ⟨parsed, hparsed, h⟩ := bind_ok.mp h
  obtain ⟨quotas, -, h⟩ := bind_ok.mp h
  obtain ⟨hexact, h⟩ := guard_ok.mp h
  push Not at hexact
  cases h
  obtain ⟨other, -, hother, hpost⟩ := evaluate_eq_allowed (allowedAppend_eq_ok.mp hdecision)
  rw [hquotas] at hother hpost
  have hscopes : (reservations.map fun reservation => reservation.scope) = quotaScopes := by
    have := congrArg (List.map ApplicationAppendQuotaCapacityDelta.scope) hdeltas
    rw [List.map_map, List.map_map] at this
    rw [← counters.scopes]
    exact this
  obtain rfl := parseReservations_eq_ok hscopes hparsed
  have hsame := (of_decide_eq_true hexact.1).2
  rw [hdeltas, hother] at hsame
  -- Both decisions charge the same bytes, since there is a row to charge.
  obtain ⟨quota, hquota, -⟩ := exists_scope counters.scopes .tenant
  have hcharge := List.map_inj_left.mp hsame quota hquota
  have htotal : totalChargedBytes = other :=
    congrArg ApplicationAppendQuotaCapacityDelta.reservationByteCount hcharge
  rw [hexact.2, hpost, htotal]

theorem parseIntentSnapshot_eq_ok {snapshot : LockedApplicationAppendSnapshot} {expected : Bytes}
    {label : String} (h : parseIntentSnapshot H value expected label message = .ok snapshot) :
    parseLockedApplicationAppendSnapshot H value = .ok snapshot ∧
      computeLockedApplicationAppendSnapshotDigest H snapshot = .ok expected := by
  obtain ⟨parsed, hparsed, h1⟩ := bind_ok.mp h
  obtain ⟨size, hsize, h2⟩ := bind_ok.mp h1
  obtain ⟨digest, hdigest, h3⟩ := bind_ok.mp h2
  obtain ⟨hsame, h4⟩ := refuse_bind_eq_ok.mp h3
  cases h4
  rw [not_not] at hsame
  exact ⟨hparsed, hsame ▸ hdigest⟩

/-- What the parts of an intent have in common with the value they were parsed from. -/
structure IntentParts (H : HashFunction) (value parts : PendingApplicationAppendIntent) :
    Prop where
  envelope : parts.envelope = value.envelope
  command : parts.admissionCommand = value.admissionCommand
  digests : checkCommandDigests H value = .ok ()
  commandDigest : parts.admissionCommandDigest = value.admissionCommandDigest
  semanticIdentityDigest : parts.semanticIdentityDigest = value.semanticIdentityDigest
  intentDigest : parts.intentDigest = value.intentDigest
  persisted : parseLockedApplicationAppendSnapshot H value.persistedSnapshot =
    .ok parts.persistedSnapshot
  persistedDigest : computeLockedApplicationAppendSnapshotDigest H parts.persistedSnapshot =
    .ok parts.expectedSnapshotDigest
  prior : parseLockedApplicationAppendSnapshot H value.priorSnapshot = .ok parts.priorSnapshot
  overlay : refreshLockedApplicationAppendAuthorizationSnapshot H parts.persistedSnapshot
    parts.policyHeadProofEvidence = .ok parts.priorSnapshot
  parsedEnvelope : parseUnsignedStoredApplicationEnvelope H parts.envelope = .ok parts.envelope

theorem parseUnsignedEnvelope_eq_ok {envelope parsed : UnsignedStoredApplicationEnvelope}
    (h : parseUnsignedStoredApplicationEnvelope H envelope = .ok parsed) : parsed = envelope := by
  obtain ⟨row, hrow, hrest⟩ := bind_ok.mp h
  obtain ⟨bound, -, hbound⟩ := bind_ok.mp hrest
  obtain ⟨-, hsame⟩ := guard_ok.mp hbound
  exact (Except.ok.inj hsame).symm.trans (checked_eq_ok.mp hrow).2

theorem policyEvidenceFor_eq_ok {label : String} {proof parsed : PolicyHeadProofEvidence}
    {snapshot : LockedApplicationAppendSnapshot}
    (h : policyEvidenceFor H label proof snapshot = .ok parsed) : parsed = proof := by
  obtain ⟨verifiedAt, -, h1⟩ := bind_ok.mp h
  obtain ⟨realmId, -, h2⟩ := bind_ok.mp h1
  obtain ⟨expected, -, h3⟩ := bind_ok.mp h2
  exact (checked_eq_ok.mp h3).2

theorem parseIntentParts_eq_ok {value parts : PendingApplicationAppendIntent}
    (h : parseIntentParts H value = .ok parts) : IntentParts H value parts := by
  obtain ⟨⟨⟩, hdigests, h1⟩ := bind_ok.mp h
  obtain ⟨persisted, hpersisted, h2⟩ := bind_ok.mp h1
  obtain ⟨prior, hprior, h3⟩ := bind_ok.mp h2
  obtain ⟨-, -, h4⟩ := bind_ok.mp h3
  obtain ⟨-, -, h5⟩ := bind_ok.mp h4
  obtain ⟨envelope, henvelope, h6⟩ := bind_ok.mp h5
  obtain ⟨-, -, h7⟩ := bind_ok.mp h6
  obtain ⟨-, -, h8⟩ := bind_ok.mp h7
  obtain ⟨-, -, h9⟩ := bind_ok.mp h8
  obtain ⟨-, -, h10⟩ := bind_ok.mp h9
  obtain ⟨roster, -, h11⟩ := bind_ok.mp h10
  obtain ⟨recipients, -, h12⟩ := bind_ok.mp h11
  obtain ⟨-, -, h13⟩ := bind_ok.mp h12
  obtain ⟨projection, -, h14⟩ := bind_ok.mp h13
  obtain ⟨-, -, h15⟩ := bind_ok.mp h14
  obtain ⟨proof, hproof, h16⟩ := bind_ok.mp h15
  obtain ⟨overlaid, hoverlaid, h17⟩ := bind_ok.mp h16
  obtain ⟨hsame, h18⟩ := refuse_bind_eq_ok.mp h17
  cases h18
  rw [not_not] at hsame
  obtain ⟨hpersistedParse, hpersistedDigest⟩ := parseIntentSnapshot_eq_ok hpersisted
  obtain rfl := policyEvidenceFor_eq_ok hproof
  obtain rfl := parseUnsignedEnvelope_eq_ok henvelope
  exact
    { envelope := rfl
      command := rfl
      digests := hdigests
      commandDigest := rfl
      semanticIdentityDigest := rfl
      intentDigest := rfl
      persisted := hpersistedParse
      persistedDigest := hpersistedDigest
      prior := (parseIntentSnapshot_eq_ok hprior).1
      overlay := hsame ▸ hoverlaid
      parsedEnvelope := henvelope }

theorem parsePending_stages {value pending : PendingApplicationAppendIntent}
    (h : parsePendingApplicationAppendIntent H value = .ok pending) :
    ∃ parts post, IntentParts H value parts ∧ checkIntentBindings H parts = .ok () ∧
      parseIntentTransition H parts = .ok post ∧
      pending = { parts with postReservationQuotas := post } := by
  obtain ⟨parts, hparts, h1⟩ := bind_ok.mp h
  obtain ⟨⟨⟩, hbindings, h2⟩ := bind_ok.mp h1
  obtain ⟨post, htransition, h3⟩ := bind_ok.mp h2
  exact ⟨parts, post, parseIntentParts_eq_ok hparts, hbindings, htransition,
    (Except.ok.inj h3).symm⟩

/-- The transition of an intent is that of the decision it was admitted by. -/
structure IntentTransition (H : HashFunction) (parts : PendingApplicationAppendIntent)
    (post : List LockedQuotaCounter) : Prop where
  reserving : ∃ totalChargedBytes,
    Reserving H { parts with postReservationQuotas := post } totalChargedBytes
  projection : validateLockedApplicationAppendStateTransition H parts.priorSnapshot
    parts.expectation parts.envelope.receivedAt parts.envelope.headHash parts.commitProjection =
      .ok parts.commitProjection
  digest : computePendingIntentDigest H parts = .ok parts.intentDigest

theorem parseIntentTransition_eq_ok {value parts : PendingApplicationAppendIntent}
    {post : List LockedQuotaCounter} (hparts : IntentParts H value parts)
    (h : parseIntentTransition H parts = .ok post) : IntentTransition H parts post := by
  obtain ⟨decision, hdecision, h1⟩ := bind_ok.mp h
  obtain ⟨digest, hdigest, h2⟩ := bind_ok.mp h1
  obtain ⟨-, h3⟩ := refuse_bind_eq_ok.mp h2
  obtain ⟨expected, hexpected, h4⟩ := bind_ok.mp h3
  obtain ⟨hreservations, h5⟩ := refuse_bind_eq_ok.mp h4
  obtain ⟨projection, hprojection, h6⟩ := bind_ok.mp h5
  obtain ⟨hsame, h7⟩ := refuse_bind_eq_ok.mp h6
  obtain ⟨quotas, hquotas, h8⟩ := bind_ok.mp h7
  obtain ⟨intentDigest, hintent, h9⟩ := bind_ok.mp h8
  obtain ⟨expectedDigest, hexpectedDigest, h10⟩ := bind_ok.mp h9
  obtain ⟨hdigests, h11⟩ := refuse_bind_eq_ok.mp h10
  rw [not_not] at hreservations hsame hdigests
  have hpost : post = quotas := (Except.ok.inj h11).symm
  have hpreparation : digest = parts.preparationDigest := (checkHash32_eq_ok.mp hdigest).2
  have hintentDigest : intentDigest = parts.intentDigest := (checkHash32_eq_ok.mp hintent).2
  have counters := parseLockedQuotaCounters_eq_ok (parseSnapshot_eq_ok.mp hparts.prior).1.quotaRows
  obtain ⟨total, hroom, hdeltas, -⟩ := evaluate_eq_allowed (allowedAppend_eq_ok.mp hdecision)
  have hscopes : (parts.priorSnapshot.quotas.map (deltaOf total)).map
      ApplicationAppendQuotaCapacityDelta.scope = quotaScopes := by
    rw [List.map_map, ← counters.scopes]
    rfl
  rw [hdeltas] at hexpected
  obtain ⟨-, -, -, -, hbound⟩ := (bindReservations_eq_ok hscopes).mp hexpected
  rw [List.map_map, hpreparation] at hbound
  have hquotaRows : quotas = parts.priorSnapshot.quotas.map (reservedBy total) := by
    refine postQuotas_of_transition hparts.prior ?_ hquotas
    rw [hreservations, hbound, List.map_map]
    rfl
  refine ⟨⟨total, counters, hroom, hreservations.trans hbound, hpost.trans hquotaRows⟩, ?_, ?_⟩
  · rw [hprojection, hsame]
  · rw [hexpectedDigest, ← hdigests, hintentDigest]

end

end JbChat.Store.Intents
