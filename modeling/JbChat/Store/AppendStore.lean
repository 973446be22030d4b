/- source: src/production/storage/postgresDeliveryStore.ts
   digest: The reserve, finalize and retire transactions of the append lane. -/

import JbChat.Foundation.FencedLoop
import JbChat.Store.Authority
import JbChat.Store.Intents

/-!
Every transaction reads first and then writes. The reading part returns the result the call
stops with, or what the writing part needs; what it throws rolls the transaction back.
-/

set_option autoImplicit false

namespace JbChat.Store.AppendStore

open Foundation.HashTrace Foundation.Transaction Foundation.FencedLoop
open Delivery.ValueObjects Delivery.Hashes Delivery.Instants Delivery.Snapshot Delivery.Quota
open Delivery.SnapshotParse Delivery.Fanout Commands Evidence Documents Intents Tables
open Store.Authority

inductive ReplayKind where
  | none
  | http
  | envelope
  | blocked

inductive UnavailableReason where
  | notConfigured
  | dependencyUnavailable
  | timeout
  | malformedDependencyResponse

inductive StoreRejection where
  | conversationNotFound
  | conversationStateChanged
  | attachmentInvalid
  | deliveryLimitExceeded

inductive AppendResult where
  | pending (replay : ReplayKind) (invocationCommandDigest : Bytes)
      (pendingIntent : PendingApplicationAppendIntent) (reservedAt observedAt : String)
  | accepted (replay : ReplayKind) (invocationCommandDigest : Bytes)
      (acceptance : StoredAcceptance) (observedAt : String)
  | retired (invocationCommandDigest pendingIntentDigest : Bytes) (retiredAt observedAt : String)
  | blockedByPending (invocationCommandDigest : Bytes)
      (pendingIntent : PendingApplicationAppendIntent) (reservedAt observedAt : String)
  | retry
  | rejected (reasonCode : StoreRejection)
  | refused (reasonCode : RejectionReason)
  | conflict
  | unavailable (reasonCode : UnavailableReason)

/-- The result of a call, and whether its transaction ran to its end. -/
structure Outcome where
  result : AppendResult
  fresh : Bool

/-- The times and the random token of one call. -/
structure CallClock where
  now : String
  observedAt : String
  lookedUpAt : String
  token : Bytes

structure DeliveryInvocationContext where
  deadline : String
  aborted : Bool

def invocationIsLive (clock : CallClock) (invocation : DeliveryInvocationContext) : Bool :=
  !invocation.aborted && decide (clock.now < invocation.deadline)

section

variable (H : HashFunction)

def acceptedResultFor (command : AtomicApplicationAppendCommand) (acceptance : StoredAcceptance)
    (replay : ReplayKind) (observedAt : String) : AppendResult :=
  .accepted replay (computeAtomicApplicationAppendCommandDigest H command) acceptance observedAt

def pendingResultFor (command : AtomicApplicationAppendCommand)
    (pendingIntent : PendingApplicationAppendIntent) (replay : ReplayKind)
    (reservedAt observedAt : String) : AppendResult :=
  .pending replay (computeAtomicApplicationAppendCommandDigest H command) pendingIntent reservedAt
    observedAt

def blockedByPendingResultFor (command : AtomicApplicationAppendCommand)
    (pendingIntent : PendingApplicationAppendIntent) (reservedAt observedAt : String) :
    AppendResult :=
  .blockedByPending (computeAtomicApplicationAppendCommandDigest H command) pendingIntent reservedAt
    observedAt

def retiredResultFor (command : AtomicApplicationAppendCommand) (pendingIntentDigest : Bytes)
    (retiredAt observedAt : String) : AppendResult :=
  .retired (computeAtomicApplicationAppendCommandDigest H command) pendingIntentDigest retiredAt
    observedAt

def loadPending (db : DeliveryDb) (conversationId : String) :
    Except Failure (Option (PendingApplicationAppendIntent × String)) :=
  match db.pendings.find? fun row => decide (row.conversationId = conversationId) with
  | none => .ok none
  | some row => do
    let pending ← parsePendingApplicationAppendIntent H row.pendingCanonical
    .ok (some (pending, row.reservedAt))

def loadAcceptanceBySemanticIdentity (db : DeliveryDb) (realmId conversationId envelopeId : String) :
    Option StoredAcceptance :=
  (db.acceptances.find? fun row => decide (row.realmId = realmId ∧
    row.conversationId = conversationId ∧ row.envelopeId = envelopeId)).map
      fun row => row.acceptanceCanonical

def httpReplayRows (db : DeliveryDb) (command : AtomicApplicationAppendCommand)
    (lookedUpAt : String) : List (HttpIdempotencyRow × AcceptanceRow) :=
  (db.httpIdempotency.filter fun row => decide (row.httpScopeHash = httpScopeHash H command ∧
      row.expiresAt > dateParse lookedUpAt)).flatMap fun row =>
    (db.acceptances.filter fun acceptance => decide (acceptance.realmId = row.realmId ∧
        acceptance.conversationId = row.conversationId ∧
        acceptance.envelopeId = row.envelopeId)).map fun acceptance => (row, acceptance)

def lookupAcceptedReplay (db : DeliveryDb) (command : AtomicApplicationAppendCommand)
    (clock : CallClock) : Except Failure (Option AppendResult) :=
  match httpReplayRows H db command clock.lookedUpAt with
  | (row, acceptance) :: _ =>
    if row.requestCommitment ≠ command.requestCommitment then .ok (some .conflict)
    else .ok (some (acceptedResultFor H command acceptance.acceptanceCanonical .http
      clock.observedAt))
  | [] =>
    let identity := command.semanticIdentity
    match loadAcceptanceBySemanticIdentity db command.realmId identity.conversationId
        identity.append.envelopeId with
    | none => .ok none
    | some acceptance => do
      let same ← applicationEnvelopeSemanticallyEqual H
        acceptance.acceptedIntent.admissionCommand.semanticIdentity identity
      .ok (some (if same then acceptedResultFor H command acceptance .envelope clock.observedAt
        else .conflict))

def lookupPendingReplay (db : DeliveryDb) (command : AtomicApplicationAppendCommand)
    (observedAt : String) : Except Failure (Option AppendResult) := do
  match ← loadPending H db command.conversationId with
  | none => .ok none
  | some (pending, reservedAt) =>
    let admitted := pending.admissionCommand
    let identity := command.semanticIdentity
    if httpIdempotencyScopeKey admitted = httpIdempotencyScopeKey command then
      if admitted.requestCommitment ≠ command.requestCommitment then .ok (some .conflict)
      else .ok (some (pendingResultFor H command pending .http reservedAt observedAt))
    else if admitted.realmId = command.realmId ∧
        admitted.conversationId = command.conversationId ∧
        admitted.semanticIdentity.append.envelopeId = identity.append.envelopeId then do
      let same ← applicationEnvelopeSemanticallyEqual H admitted.semanticIdentity identity
      .ok (some (if same then pendingResultFor H command pending .envelope reservedAt observedAt
        else .conflict))
    else if admitted.realmId = command.realmId ∧
        admitted.conversationId = command.conversationId then
      .ok (some (blockedByPendingResultFor H command pending reservedAt observedAt))
    else .ok none

/-- The bytes of the ready, unbound attachments of the sender, if all are there. -/
def measureAttachments (db : DeliveryDb) (command : AtomicApplicationAppendCommand) : Option Nat :=
  let identity := command.semanticIdentity
  let total := identity.append.attachmentIds.foldlM (fun total attachmentId =>
    (db.attachments.find? fun row => decide (row.attachmentId = attachmentId ∧
      row.conversationId = identity.conversationId ∧
      row.ownerInstallationId = identity.authenticatedSender.installationId ∧
      row.state = .ready ∧ row.boundEnvelopePosition = none)).map
        fun row => total + row.ciphertextBytes) 0
  total.filter fun bytes => decide (bytes ≤ uint63Max)

end

def reservationKey (reservation : ApplicationAppendQuotaCapacityReservation) : QuotaKey :=
  ⟨reservation.scope, reservation.scopeHash, reservation.quotaName, reservation.windowStartedAt⟩

/-- One turn of the loop over the reservations: the counter update, unless its rows are
missing in the intent, and the reservation row it resolves. -/
structure QuotaTurn where
  write : Option CounterWrite
  reservationId : Bytes
  resolves : Option ReservationState

def reserveTurn (observedAt : String) (reservation : ApplicationAppendQuotaCapacityReservation) :
    QuotaTurn where
  write := some
    { key := reservationKey reservation
      rowVersion := reservation.rowVersionBefore
      operationCount := 0
      byteCount := 0
      reservedOperationCount := reservation.reservationOperationCount
      reservedByteCount := reservation.reservationByteCount
      nextRowVersion := reservation.rowVersionAfter
      updatedAt := observedAt }
  reservationId := reservation.reservationId
  resolves := none

def reserveTurns (pending : PendingApplicationAppendIntent) (observedAt : String) :
    List QuotaTurn :=
  pending.commitProjection.quotaCapacityReservations.map (reserveTurn observedAt)

def rowOfScope (scope : QuotaScope) (quotas : List LockedQuotaCounter) :
    Option LockedQuotaCounter :=
  quotas.find? fun quota => decide (quota.scope = scope)

/-- The update that consumes or releases a reservation. -/
def convertTurn (mode : ConversionMode) (pending : PendingApplicationAppendIntent)
    (quotas : List LockedQuotaCounter) (observedAt : String)
    (reservation : ApplicationAppendQuotaCapacityReservation) : QuotaTurn where
  write := do
    let post ← rowOfScope reservation.scope pending.postReservationQuotas
    let next ← rowOfScope reservation.scope quotas
    some
      { key := reservationKey reservation
        rowVersion := post.rowVersion
        operationCount := if mode = .finalize then reservation.reservationOperationCount else 0
        byteCount := if mode = .finalize then reservation.reservationByteCount else 0
        reservedOperationCount := -reservation.reservationOperationCount
        reservedByteCount := -reservation.reservationByteCount
        nextRowVersion := next.rowVersion
        updatedAt := observedAt }
  reservationId := reservation.reservationId
  resolves := some mode.terminalState

def convertTurns (mode : ConversionMode) (pending : PendingApplicationAppendIntent)
    (quotas : List LockedQuotaCounter) (observedAt : String) : List QuotaTurn :=
  pending.commitProjection.quotaCapacityReservations.map
    (convertTurn mode pending quotas observedAt)

def QuotaTurn.resolve (turn : QuotaTurn) (observedAt : String)
    (rows : List QuotaReservationRow) : List QuotaReservationRow :=
  match turn.resolves with
  | none => rows
  | some state => resolveReservation turn.reservationId state observedAt rows

/-- One turn: nothing when its update finds no row. -/
def takeTurn (observedAt : String) (turn : QuotaTurn) (db : DeliveryDb) :
    Except Failure (Option DeliveryDb) :=
  match turn.write with
  | none => .ok none
  | some write => do
    let counters ← updateCounter write db.quotaCounters
    .ok (counters.map fun counters => { db with
      quotaCounters := counters
      quotaReservations := turn.resolve observedAt db.quotaReservations })

/-- Whether all turns were taken. The call returns at the first turn that is not. -/
def quotaLoop (observedAt : String) (turns : List QuotaTurn) : Tx DeliveryDb Failure Bool :=
  fencedLoop (takeTurn observedAt) turns

/-- What the quota conversion reads of an intent. -/
def pendingQuota (H : HashFunction) (pending : PendingApplicationAppendIntent) : PendingQuota :=
  ⟨pending.postReservationQuotas, pending.commitProjection.quotaCapacityReservations,
    pending.preparationDigest, pending.reservationFence.generation,
    fenceTokenHashOf H pending.reservationFence⟩

section

variable (H : HashFunction)

structure AtomicApplicationAppendReservation where
  command : AtomicApplicationAppendCommand
  admissionStartedAt : String
  expectedSnapshotDigest : Bytes
  expectedAuthorizationSnapshotDigest : Bytes
  wireInspectionEvidence : MlsApplicationWireInspectionEvidence
  policyHeadProofEvidence : PolicyHeadProofEvidence

/-- What the reservation callback is called with. The deadline is in milliseconds. -/
structure ReserveTransactionContext where
  lockedSnapshot : LockedApplicationAppendSnapshot
  authoritativeReceivedAt : String
  previousHeadHash : Bytes
  attachmentByteLength : Nat
  activeSigningKeyId : String
  activeSigningKeyValidUntil : String
  reservationFence : ApplicationAppendReservationFence
  mlsRosterProjections : List ApplicationAppendMlsRosterProjection
  recipientProjections : List ApplicationAppendRecipientProjection
  transactionDeadline : Int

inductive PreparedApplicationAppend where
  | unavailable (reasonCode : UnavailableReason)
  | rejected (reasonCode : RejectionReason)
  | ready (pendingIntent : PendingApplicationAppendIntent)

/-- What the callback ends with: a failure it throws, a promise, or a value. -/
inductive PreparedValue where
  | thrown (failure : Failure)
  | thenable
  | value (prepared : PreparedApplicationAppend)

/-- `TRANSACTION_DEADLINE_MARGIN_MILLISECONDS` after now, or the deadline of the call. -/
def transactionDeadline (now invocationDeadline : String) : Int :=
  min (dateParse now + 250) (dateParse invocationDeadline)

/-- The rows and proofs that a reservation is prepared from. -/
structure ReserveContext where
  authority : AuthorityRow
  authorizationSnapshot : LockedApplicationAppendSnapshot
  attachmentByteLength : Nat

def readReservation (clock : CallClock) (input : AtomicApplicationAppendReservation)
    (invocation : DeliveryInvocationContext) (db : DeliveryDb) :
    Except Failure (AppendResult ⊕ ReserveContext) := do
  if ¬ invocationIsLive clock invocation then return .inl (.unavailable .timeout)
  let command := input.command
  let _ ← parseAtomicApplicationAppendCommand H command
  let _ ← parseRfc3339Millis input.admissionStartedAt "reservation admission start"
  let authority ← loadAuthority H db command.conversationId
    (some command.semanticIdentity.authenticatedSender.installationId)
  if let some accepted ← lookupAcceptedReplay H db command clock then
    return .inl accepted
  if let some replay ← lookupPendingReplay H db command clock.observedAt then
    return .inl replay
  let some authority := authority | return .inl (.rejected .conversationNotFound)
  if ¬ commandTrustMatchesSnapshot command authority.snapshot then
    return .inl (.rejected .conversationStateChanged)
  let expectedSnapshotDigest ← checkHash32 input.expectedSnapshotDigest "hash"
  if expectedSnapshotDigest ≠ authority.snapshotDigest then return .inl .retry
  if enforceApplicationAppendDeliveryLimits command.semanticIdentity.append
      command.deliveryLimits ≠ .ok () then
    return .inl (.rejected .deliveryLimitExceeded)
  let some attachmentByteLength := measureAttachments db command
    | return .inl (.rejected .attachmentInvalid)
  let _ ← parseMlsApplicationWireInspectionEvidence H input.wireInspectionEvidence
  let policyEvidence ← parsePolicyEvidenceForSnapshot H input.policyHeadProofEvidence
    authority.snapshot
  let authorizationSnapshot ← refreshLockedApplicationAppendAuthorizationSnapshot H
    authority.snapshot policyEvidence
  let expectedDigest ← checkHash32 input.expectedAuthorizationSnapshotDigest "hash"
  let authorizationDigest ← computeLockedApplicationAppendSnapshotDigest H authorizationSnapshot
  if expectedDigest ≠ authorizationDigest then return .inl .retry
  return .inr ⟨authority, authorizationSnapshot, attachmentByteLength⟩

def parsePreparedApplicationAppend (value : PreparedValue) :
    Except Failure PreparedApplicationAppend :=
  match value with
  | .thrown failure => .error failure
  | .thenable => .error (.invalid "Reservation callback must be synchronous and local-only.")
  | .value (.ready pendingIntent) => do
    let pending ← parsePendingApplicationAppendIntent H pendingIntent
    .ok (.ready pending)
  | .value prepared => .ok prepared

/-- The callback has kept the command, the snapshots, the fence and the proofs. -/
def keepsReservationFacts (input : AtomicApplicationAppendReservation) (context : ReserveContext)
    (fence : ApplicationAppendReservationFence) (pending : PendingApplicationAppendIntent) : Bool :=
  decide (
    pending.admissionCommandDigest = computeAtomicApplicationAppendCommandDigest H input.command ∧
    pending.expectedSnapshotDigest = context.authority.snapshotDigest ∧
    pending.expectedAuthorizationSnapshotDigest = input.expectedAuthorizationSnapshotDigest ∧
    pending.admissionStartedAt = input.admissionStartedAt ∧
    pending.reservationFence = fence ∧
    pending.wireInspectionEvidence.evidenceDigest = input.wireInspectionEvidence.evidenceDigest ∧
    pending.policyHeadProofEvidence.evidenceDigest = input.policyHeadProofEvidence.evidenceDigest)

/-- A reservation either stops with a result or goes on with an intent. The lane may have
advanced in both cases. -/
inductive ReserveAdmission where
  | stopped (result : AppendResult) (lanes : List SequenceRow)
  | admitted (pending : PendingApplicationAppendIntent) (lanes : List SequenceRow)

def prepareReservation (clock : CallClock) (input : AtomicApplicationAppendReservation)
    (invocation : DeliveryInvocationContext)
    (prepareUnsigned : ReserveTransactionContext → PreparedValue) (context : ReserveContext)
    (lanes : List SequenceRow) : Except Failure ReserveAdmission := do
  let (generation, advanced) ← advanceSequence "application_append_lanes_check"
    input.command.conversationId lanes
  let fence ← parseApplicationAppendReservationFence ⟨generation, clock.token⟩
  let authority := context.authority
  let prepared ← parsePreparedApplicationAppend H (prepareUnsigned
    { lockedSnapshot := context.authorizationSnapshot
      authoritativeReceivedAt := clock.observedAt
      previousHeadHash := authority.snapshot.conversation.currentLogHeadHash
      attachmentByteLength := context.attachmentByteLength
      activeSigningKeyId := authority.activeSigningKeyId
      activeSigningKeyValidUntil := authority.activeSigningKeyValidUntil
      reservationFence := fence
      mlsRosterProjections := authority.mlsRosterCanonical
      recipientProjections := authority.recipientProjectionsCanonical
      transactionDeadline := transactionDeadline clock.now invocation.deadline })
  match prepared with
  | .unavailable reasonCode => .ok (.stopped (.unavailable reasonCode) advanced)
  | .rejected reasonCode => .ok (.stopped (.refused reasonCode) advanced)
  | .ready pending =>
    if keepsReservationFacts H input context fence pending then .ok (.admitted pending advanced)
    else .error (.invalid "Reservation callback substituted command or proof facts.")

def admitReservation (clock : CallClock) (input : AtomicApplicationAppendReservation)
    (invocation : DeliveryInvocationContext)
    (prepareUnsigned : ReserveTransactionContext → PreparedValue) (db : DeliveryDb) :
    Except Failure ReserveAdmission := do
  match ← readReservation H clock input invocation db with
  | .inl result => .ok (.stopped result db.lanes)
  | .inr context =>
    prepareReservation H clock input invocation prepareUnsigned context db.lanes

def insertPending (command : AtomicApplicationAppendCommand)
    (pending : PendingApplicationAppendIntent) (observedAt : String) (db : DeliveryDb) :
    Except Failure DeliveryDb := do
  let row : PendingRow :=
    { conversationId := pending.envelope.conversationId
      realmId := command.realmId
      intentDigest := pending.intentDigest
      admissionCommandDigest := pending.admissionCommandDigest
      requestCommitment := command.requestCommitment
      httpScopeHash := httpScopeHash H command
      envelopeId := pending.envelope.envelopeId
      position := pending.envelope.position
      expectedSnapshotDigest := pending.expectedSnapshotDigest
      fenceGeneration := pending.reservationFence.generation
      fenceTokenHash := fenceTokenHashOf H pending.reservationFence
      pendingCanonical := pending
      reservedAt := observedAt
      pendingExpiresAt := pending.pendingExpiresAt }
  if row.pendingExpiresAt ≤ row.reservedAt then
    .error (.sql "application_append_pendings_check")
  else if db.pendings.any fun other => decide (other.intentDigest = row.intentDigest) then
    .error (.sql "application_append_pendings_intent_digest_key")
  else
    let pendings ← insertUnique "application_append_pendings_pkey" PendingRow.conversationId row
      db.pendings
    .ok { db with pendings := pendings }

def reservationRow (intentDigest : Bytes) (observedAt : String)
    (reservation : ApplicationAppendQuotaCapacityReservation) : QuotaReservationRow :=
  { reservationId := reservation.reservationId
    pendingIntentDigest := intentDigest
    key := reservationKey reservation
    reservationOperationCount := reservation.reservationOperationCount
    reservationByteCount := reservation.reservationByteCount
    fenceGeneration := reservation.fenceGeneration
    fenceTokenHash := reservation.fenceTokenHash
    state := .live
    rowVersionBefore := reservation.rowVersionBefore
    rowVersionAfter := reservation.rowVersionAfter
    createdAt := observedAt
    resolvedAt := none }

def insertReservations (intentDigest : Bytes) (observedAt : String) :
    List ApplicationAppendQuotaCapacityReservation → List QuotaReservationRow →
      Except Failure (List QuotaReservationRow)
  | [], rows => .ok rows
  | reservation :: reservations, rows => do
    let rows ← insertUnique "application_append_quota_reservations_pkey"
      QuotaReservationRow.reservationId (reservationRow intentDigest observedAt reservation) rows
    insertReservations intentDigest observedAt reservations rows

/-- The rows that a completed reservation adds. -/
def recordReservation (clock : CallClock) (input : AtomicApplicationAppendReservation)
    (pending : PendingApplicationAppendIntent) : Tx DeliveryDb Failure Outcome := do
  runStatement (insertPending H input.command pending clock.observedAt)
  runStatement fun db => do
    let rows ← insertReservations pending.intentDigest clock.observedAt
      pending.commitProjection.quotaCapacityReservations db.quotaReservations
    .ok { db with quotaReservations := rows }
  pure ⟨pendingResultFor H input.command pending .none clock.observedAt clock.observedAt, true⟩

def reserveApplicationAppendAtomically (clock : CallClock)
    (input : AtomicApplicationAppendReservation) (invocation : DeliveryInvocationContext)
    (prepareUnsigned : ReserveTransactionContext → PreparedValue) :
    Tx DeliveryDb Failure Outcome := do
  let db ← get
  match ← lift (admitReservation H clock input invocation prepareUnsigned db) with
  | .stopped result lanes => do
    modify fun db => { db with lanes := lanes }
    pure ⟨result, false⟩
  | .admitted pending lanes => do
    modify fun db => { db with lanes := lanes }
    if ← quotaLoop clock.observedAt (reserveTurns pending clock.observedAt) then
      recordReservation H clock input pending
    else pure ⟨.retry, false⟩

end

section

variable (H : HashFunction) (checks : DocumentChecks)

structure FinalizeApplicationAppendInput where
  command : AtomicApplicationAppendCommand
  pendingIntent : PendingApplicationAppendIntent
  pendingIntentDigest : Bytes
  reservationFence : ApplicationAppendReservationFence
  pendingExpiresAt : String
  fanoutPlan : ApplicationAppendFanoutPlan
  signature : Bytes
  verifiedSignatureEvidence : VerificationEvidence
  signedFenceResolution : DurableSignedResolution
  verifiedSignerFenceEvidence : VerificationEvidence

def replayClassification (command : AtomicApplicationAppendCommand)
    (pending : PendingApplicationAppendIntent) : Except Failure ReplayKind :=
  if computeAtomicApplicationAppendCommandDigest H command = pending.admissionCommandDigest then
    .ok .none
  else do
    let same ← applicationEnvelopeSemanticallyEqual H
      pending.admissionCommand.semanticIdentity command.semanticIdentity
    .ok (if same then .envelope else .blocked)

def parseEd25519Signature (signature : Bytes) : Except Failure Bytes :=
  if signature.length ≠ 64 then .error (.invalid "signature must be 64 bytes.") else .ok signature

/-- The installation that sent the admitted command. -/
def senderOf (pending : PendingApplicationAppendIntent) : String :=
  pending.admissionCommand.semanticIdentity.authenticatedSender.installationId

/-- The result for an intent that is not the one fencing the lane. -/
def detachedResult (db : DeliveryDb) (command : AtomicApplicationAppendCommand)
    (pending : PendingApplicationAppendIntent) (observedAt : String) :
    Except Failure AppendResult :=
  let admitted := pending.admissionCommand
  match loadAcceptanceBySemanticIdentity db admitted.realmId admitted.conversationId
      admitted.semanticIdentity.append.envelopeId with
  | some acceptance =>
    if acceptance.acceptedIntent.intentDigest = pending.intentDigest then do
      let replay ← replayClassification H command pending
      .ok (acceptedResultFor H command acceptance replay observedAt)
    else .ok .retry
  | none => .ok .retry

structure FinalizeContext where
  authority : AuthorityRow
  signedEnvelope : StoredApplicationEnvelope

def readFinalization (clock : CallClock) (input : FinalizeApplicationAppendInput)
    (pending : PendingApplicationAppendIntent) (db : DeliveryDb) :
    Except Failure (AppendResult ⊕ FinalizeContext) := do
  let conversationId := pending.envelope.conversationId
  let authority ← loadAuthority H db conversationId (some (senderOf pending))
  if let some accepted ← lookupAcceptedReplay H db input.command clock then
    return .inl accepted
  let located ← loadPending H db conversationId
  if located.map (fun found => found.1.intentDigest) ≠ some pending.intentDigest then
    return .inl (← detachedResult H db input.command pending clock.observedAt)
  let some authority := authority | return .inl .retry
  let inputFence ← parseApplicationAppendReservationFence input.reservationFence
  let _ ← parseApplicationAppendFanoutPlan H input.fanoutPlan
    pending.admissionCommand.deliveryLimits.conversationRecipientInstallationsMax
  let pendingIntentDigest ← checkHash32 input.pendingIntentDigest "hash"
  if pendingIntentDigest ≠ pending.intentDigest ∨ inputFence ≠ pending.reservationFence then
    return .inl (.unavailable .malformedDependencyResponse)
  let pendingExpiresAt ← parseRfc3339Millis input.pendingExpiresAt "timestamp"
  if pendingExpiresAt ≠ pending.pendingExpiresAt ∨
      input.fanoutPlan.planDigest ≠ pending.fanoutPlan.planDigest then
    return .inl (.unavailable .malformedDependencyResponse)
  let signature ← parseEd25519Signature input.signature
  checks.signedFenceResolution input.signedFenceResolution pending
  if input.signedFenceResolution.checkpointSignature ≠ signature then
    return .inl (.unavailable .malformedDependencyResponse)
  checks.signedFenceEvidence input.verifiedSignerFenceEvidence input.signedFenceResolution
  let signedEnvelope : StoredApplicationEnvelope := ⟨pending.envelope, signature⟩
  checks.storedEnvelope signedEnvelope pending.admissionCommand.deliveryLimits
  checks.signatureEvidence input.verifiedSignatureEvidence signedEnvelope
  if authority.snapshotDigest ≠ pending.expectedSnapshotDigest ∨
      authority.activeSigningKeyId ≠ signedEnvelope.logSigningKeyId then
    return .inl .retry
  if measureAttachments db pending.admissionCommand ≠ some pending.attachmentByteLength then
    return .inl (.rejected .attachmentInvalid)
  return .inr ⟨authority, signedEnvelope⟩

/-- What a finalization that reaches its quota loop has established. -/
structure FinalizeAdmission extends FinalizeContext where
  pending : PendingApplicationAppendIntent
  quotas : List LockedQuotaCounter

def admitFinalization (clock : CallClock) (input : FinalizeApplicationAppendInput)
    (invocation : DeliveryInvocationContext) (db : DeliveryDb) :
    Except Failure (AppendResult ⊕ FinalizeAdmission) :=
  if ¬ invocationIsLive clock invocation then .ok (.inl (.unavailable .timeout))
  else do
    let _ ← parseAtomicApplicationAppendCommand H input.command
    let pending ← parsePendingApplicationAppendIntent H input.pendingIntent
    match ← readFinalization H checks clock input pending db with
    | .inl result => .ok (.inl result)
    | .inr context => do
      let quotas ← convertQuotaCapacity H (pendingQuota H pending) .finalize
      .ok (.inr ⟨context, pending, quotas⟩)

/-- The rows of the sender's snapshot after the append. -/
def nextSnapshotOf (admission : FinalizeAdmission) : LockedApplicationAppendSnapshot :=
  { admission.authority.snapshot with
    conversation := admission.pending.commitProjection.conversation
    usage := admission.pending.commitProjection.usage
    quotas := admission.quotas }

def buildAcceptance (input : FinalizeApplicationAppendInput) (admission : FinalizeAdmission)
    (observedAt : String) : Except Failure StoredAcceptance := do
  let pending := admission.pending
  let unread ← checks.acceptedIntent pending input.signedFenceResolution
  let fanoutEvidence ← checks.fanoutEvidence pending.fanoutPlan admission.signedEnvelope
  .ok ⟨⟨pending.admissionCommand, pending.intentDigest, unread⟩, admission.signedEnvelope,
    input.verifiedSignatureEvidence, input.verifiedSignerFenceEvidence, fanoutEvidence, observedAt⟩

/-- `UPDATE conversations` -/
def advanceConversation (envelope : StoredApplicationEnvelope) (next : LockedConversationState)
    (observedAt : String) (db : DeliveryDb) : DeliveryDb :=
  { db with
    conversations := updateWhere
      (fun row => decide (row.conversationId = envelope.conversationId))
      (fun row => { row with
        lastPosition := envelope.position
        currentLogHeadHash := envelope.headHash
        lastActivityAt := observedAt
        etag := next.etag
        epoch := next.epoch
        rosterVersion := next.rosterVersion
        rosterHash := next.rosterHash
        recipientSetVersion := next.recipientSetVersion
        recipientSetHash := next.recipientSetHash
        confirmedTranscriptHash := next.confirmedTranscriptHash
        currentPolicyHeadSequence := next.currentPolicyHeadSequence
        currentPolicyHeadHash := next.currentPolicyHeadHash }) db.conversations }

/-- `ENVELOPE_RETENTION_MILLISECONDS` after the receipt. -/
def envelopeExpiry (receivedAt : String) : Int := dateParse receivedAt + 31536000000

def envelopeRow (envelope : StoredApplicationEnvelope) : EnvelopeRow where
  conversationId := envelope.conversationId
  position := envelope.position
  envelopeId := envelope.envelopeId
  envelopeClass := .application
  sender := envelope.sender.sender
  epoch := envelope.epoch
  rosterVersion := envelope.rosterVersion
  contentType := .privateMessage
  envelopeSha256 := envelope.envelopeSha256
  receivedAt := envelope.receivedAt
  transcript := none
  envelopeBytes := envelope.envelopeBytes
  previousHeadHash := envelope.previousHeadHash
  leafHash := envelope.leafHash
  headHash := envelope.headHash
  logSigningKeyId := envelope.logSigningKeyId
  logCheckpointDigest := envelope.logCheckpointDigest
  logHeadSignature := envelope.logHeadSignature
  expiresAt := envelopeExpiry envelope.receivedAt

def bindAttachments (conversationId : String) (position : Nat) :
    List String → Nat → DeliveryDb → Except Failure DeliveryDb
  | [], _, db => .ok db
  | attachmentId :: others, ordinal, db => do
    if ordinal > 9 ∨ db.envelopeAttachments.any (fun row =>
        decide (row.attachmentId = attachmentId)) then
      .error (.sql "envelope_attachments_check")
    else
      let rows ← insertUnique "envelope_attachments_pkey"
        (fun row => (row.conversationId, row.envelopePosition, row.ordinal))
        ⟨conversationId, position, ordinal, attachmentId⟩ db.envelopeAttachments
      bindAttachments conversationId position others (ordinal + 1)
        { db with
          attachments := updateWhere (fun row => decide (row.attachmentId = attachmentId))
            (fun row => { row with
              state := .bound
              boundEnvelopePosition := some position }) db.attachments
          envelopeAttachments := rows }

def fanOut (envelope : StoredApplicationEnvelope) (observedAt : String) :
    List String → DeliveryDb → Except Failure DeliveryDb
  | [], db => .ok db
  | installationId :: others, db => do
    let (position, counters) ← advanceSequence "mailbox_counters_check" installationId
      db.mailboxCounters
    let row : MailboxEntryRow :=
      { installationId := installationId
        mailboxPosition := position
        conversationId := envelope.conversationId
        envelopePosition := envelope.position
        envelopeId := envelope.envelopeId
        deliveryClass := .application
        createdAt := observedAt
        expiresAt := envelopeExpiry envelope.receivedAt }
    if db.mailboxEntries.any fun other => decide (other.installationId = installationId ∧
        other.conversationId = envelope.conversationId ∧
        other.envelopePosition = envelope.position) then
      .error (.sql "mailbox_entries_installation_id_key")
    else
      let entries ← insertUnique "mailbox_entries_pkey"
        (fun row => (row.installationId, row.mailboxPosition)) row db.mailboxEntries
      fanOut envelope observedAt others { db with
        mailboxCounters := counters
        mailboxEntries := entries }

/-- `UPDATE conversation_usage` -/
def advanceUsage (conversationId : String) (next : LockedConversationUsage) (db : DeliveryDb) :
    DeliveryDb :=
  { db with
    usage := updateWhere (fun row => decide (row.conversationId = conversationId))
      (fun row => { row with
        envelopeCount := next.envelopeCount
        envelopeBytes := next.envelopeBytes
        attachmentBytes := next.attachmentBytes }) db.usage }

def insertOutboxEvent (envelope : StoredApplicationEnvelope) (observedAt : String)
    (db : DeliveryDb) : DeliveryDb :=
  { db with
    outbox := db.outbox ++ [⟨sha256Bytes H [utf8 envelope.conversationId],
      "application-envelope-accepted",
      [("conversationId", envelope.conversationId), ("envelopeId", envelope.envelopeId),
        ("position", envelope.position.repr)], observedAt⟩] }

def insertAcceptance (pending : PendingApplicationAppendIntent) (acceptance : StoredAcceptance)
    (observedAt : String) (db : DeliveryDb) : Except Failure DeliveryDb := do
  let envelope := acceptance.envelope
  let row : AcceptanceRow :=
    { realmId := pending.admissionCommand.realmId
      conversationId := envelope.conversationId
      envelopeId := envelope.envelopeId
      position := envelope.position
      intentDigest := pending.intentDigest
      admissionCommandDigest := pending.admissionCommandDigest
      semanticIdentityDigest := pending.semanticIdentityDigest
      acceptanceCanonical := acceptance
      finalizedAt := observedAt }
  if db.acceptances.any fun other => decide (other.intentDigest = row.intentDigest ∨
      (other.conversationId = row.conversationId ∧ other.position = row.position)) then
    .error (.sql "application_append_acceptances_key")
  else
    let acceptances ← insertUnique "application_append_acceptances_pkey"
      (fun row => (row.realmId, row.conversationId, row.envelopeId)) row db.acceptances
    .ok { db with acceptances := acceptances }

def insertPageEnd (next : LockedApplicationAppendSnapshot) (position : Nat) (observedAt : String)
    (db : DeliveryDb) : Except Failure DeliveryDb := do
  let pageEnds ← insertUnique "conversation_page_end_projections_pkey"
    (fun row => (row.conversation.conversationId, row.position))
    ⟨next.conversation, position, next.policyHead, observedAt⟩ db.pageEnds
  .ok { db with pageEnds := pageEnds }

def insertPolicyTransition (next : LockedApplicationAppendSnapshot) (conversationId : String)
    (position : Nat) (observedAt : String) (db : DeliveryDb) : DeliveryDb :=
  { db with
    policyTransitions := insertMissing
      (fun row => (row.conversationId, row.policyHeadSequence))
      ⟨conversationId, next.policyHead.policyHeadSequence, next.policyHead.policyHeadId,
        next.policyHead.policyHeadHash, position, observedAt⟩ db.policyTransitions }

/-- `HTTP_IDEMPOTENCY_TTL_MILLISECONDS` after the observation. -/
def idempotencyExpiry (observedAt : String) : Int := dateParse observedAt + 604800000

def insertIdempotency (realmId : String) (envelope : StoredApplicationEnvelope)
    (observedAt : String) (commands : List AtomicApplicationAppendCommand) (db : DeliveryDb) :
    DeliveryDb :=
  { db with
    httpIdempotency := commands.foldl (fun rows command =>
      insertMissing HttpIdempotencyRow.httpScopeHash
        ⟨httpScopeHash H command, command.requestCommitment, realmId, envelope.conversationId,
          envelope.envelopeId, idempotencyExpiry observedAt⟩ rows) db.httpIdempotency }

def deletePending (conversationId : String) (db : DeliveryDb) : DeliveryDb :=
  { db with
    pendings := db.pendings.filter fun row =>
      decide (row.conversationId ≠ conversationId) }

/-- The writes of a finalization after its quota loop. -/
def recordAcceptance (clock : CallClock) (input : FinalizeApplicationAppendInput)
    (admission : FinalizeAdmission) : Tx DeliveryDb Failure Outcome := do
  let pending := admission.pending
  let envelope := admission.signedEnvelope
  let observedAt := clock.observedAt
  let next ← lift (parseLockedApplicationAppendSnapshot H (nextSnapshotOf admission))
  let acceptance ← lift (buildAcceptance checks input admission observedAt)
  modify (advanceConversation envelope next.conversation observedAt)
  runStatement (insertEnvelope (envelopeRow envelope))
  runStatement (bindAttachments envelope.conversationId envelope.position
    pending.admissionCommand.semanticIdentity.append.attachmentIds 0)
  runStatement (fanOut envelope observedAt pending.fanoutPlan.recipientInstallationIds)
  modify (advanceUsage envelope.conversationId next.usage)
  modify (insertOutboxEvent H envelope observedAt)
  runStatement (insertAcceptance pending acceptance observedAt)
  runStatement (insertPageEnd next envelope.position observedAt)
  modify (insertPolicyTransition next envelope.conversationId envelope.position observedAt)
  refreshCustodySnapshotDigest H envelope.conversationId
  let same ← lift (applicationEnvelopeSemanticallyEqual H
    pending.admissionCommand.semanticIdentity input.command.semanticIdentity)
  modify (insertIdempotency H pending.admissionCommand.realmId envelope observedAt
    (if same then [pending.admissionCommand, input.command] else [pending.admissionCommand]))
  modify (deletePending envelope.conversationId)
  let replay ← lift (replayClassification H input.command pending)
  pure ⟨acceptedResultFor H input.command acceptance replay observedAt, true⟩

def finalizeApplicationAppendAtomically (clock : CallClock)
    (input : FinalizeApplicationAppendInput) (invocation : DeliveryInvocationContext) :
    Tx DeliveryDb Failure Outcome := do
  let db ← get
  match ← lift (admitFinalization H checks clock input invocation db) with
  | .inl result => pure ⟨result, false⟩
  | .inr admission => do
    if ← quotaLoop clock.observedAt (convertTurns .finalize admission.pending admission.quotas
        clock.observedAt) then
      recordAcceptance H checks clock input admission
    else pure ⟨.retry, false⟩

end

section

variable (H : HashFunction) (checks : DocumentChecks)

structure RetireExpiredApplicationAppendInput where
  command : AtomicApplicationAppendCommand
  pendingIntent : PendingApplicationAppendIntent
  pendingIntentDigest : Bytes
  reservationFence : ApplicationAppendReservationFence
  pendingExpiresAt : String
  cancellationResolution : SignerFenceResolution
  verifiedCancellationEvidence : VerificationEvidence

def readRetirement (clock : CallClock) (input : RetireExpiredApplicationAppendInput)
    (pendingIntentDigest : Bytes) (pending : PendingApplicationAppendIntent) (db : DeliveryDb) :
    Except Failure (AppendResult ⊕ AuthorityRow) := do
  let conversationId := pending.envelope.conversationId
  let authority ← loadAuthority H db conversationId (some (senderOf pending))
  let some (located, reservedAt) ← loadPending H db conversationId
    | return .inl (.unavailable .malformedDependencyResponse)
  if located.intentDigest ≠ pendingIntentDigest then
    return .inl (blockedByPendingResultFor H input.command located reservedAt clock.observedAt)
  let some authority := authority | return .inl (.unavailable .malformedDependencyResponse)
  let inputFence ← parseApplicationAppendReservationFence input.reservationFence
  if pending.intentDigest ≠ located.intentDigest ∨ inputFence ≠ pending.reservationFence then
    return .inl (.unavailable .malformedDependencyResponse)
  let pendingExpiresAt ← parseRfc3339Millis input.pendingExpiresAt "timestamp"
  if pendingExpiresAt ≠ pending.pendingExpiresAt ∨
      clock.observedAt < pending.pendingExpiresAt then
    return .inl (.unavailable .malformedDependencyResponse)
  if checks.cancellationResolution input.cancellationResolution pending ≠ .ok () ∨
      input.cancellationResolution.status ≠ .cancelled ∨
      checks.cancellationEvidence input.verifiedCancellationEvidence
        input.cancellationResolution ≠ .ok () then
    return .inl (.unavailable .malformedDependencyResponse)
  return .inr authority

/-- What a retirement that reaches its quota loop has established. -/
structure RetireAdmission where
  pendingIntentDigest : Bytes
  pending : PendingApplicationAppendIntent
  authority : AuthorityRow
  quotas : List LockedQuotaCounter

def admitRetirement (clock : CallClock) (input : RetireExpiredApplicationAppendInput)
    (invocation : DeliveryInvocationContext) (db : DeliveryDb) :
    Except Failure (AppendResult ⊕ RetireAdmission) :=
  if ¬ invocationIsLive clock invocation then .ok (.inl (.unavailable .timeout))
  else do
    let _ ← parseAtomicApplicationAppendCommand H input.command
    let pendingIntentDigest ← checkHash32 input.pendingIntentDigest "hash"
    match db.retirements.find? fun row => decide (row.intentDigest = pendingIntentDigest) with
    | some tombstone =>
      .ok (.inl (retiredResultFor H input.command pendingIntentDigest tombstone.retiredAt
        clock.observedAt))
    | none => do
      let pending ← parsePendingApplicationAppendIntent H input.pendingIntent
      match ← readRetirement H checks clock input pendingIntentDigest pending db with
      | .inl result => .ok (.inl result)
      | .inr authority => do
        let quotas ← convertQuotaCapacity H (pendingQuota H pending) .release
        .ok (.inr ⟨pendingIntentDigest, pending, authority, quotas⟩)

def insertRetirement (admission : RetireAdmission) (observedAt : String) (db : DeliveryDb) :
    Except Failure DeliveryDb := do
  let pending := admission.pending
  let retirements ← insertUnique "application_append_retirements_pkey" RetirementRow.intentDigest
    ⟨admission.pendingIntentDigest, pending.envelope.conversationId,
      pending.reservationFence.generation, fenceTokenHashOf H pending.reservationFence, observedAt⟩
    db.retirements
  .ok { db with retirements := retirements }

/-- The writes of a retirement after its quota loop. -/
def recordRetirement (clock : CallClock) (input : RetireExpiredApplicationAppendInput)
    (admission : RetireAdmission) : Tx DeliveryDb Failure Outcome := do
  let conversationId := admission.pending.envelope.conversationId
  let _ ← lift (parseLockedApplicationAppendSnapshot H
    { admission.authority.snapshot with quotas := admission.quotas })
  modify (deletePending conversationId)
  runStatement (insertRetirement H admission clock.observedAt)
  refreshCustodySnapshotDigest H conversationId
  pure ⟨retiredResultFor H input.command admission.pendingIntentDigest clock.observedAt
    clock.observedAt, true⟩

def retireExpiredApplicationAppendAtomically (clock : CallClock)
    (input : RetireExpiredApplicationAppendInput) (invocation : DeliveryInvocationContext) :
    Tx DeliveryDb Failure Outcome := do
  let db ← get
  match ← lift (admitRetirement H checks clock input invocation db) with
  | .inl result => pure ⟨result, false⟩
  | .inr admission => do
    if ← quotaLoop clock.observedAt (convertTurns .release admission.pending admission.quotas
        clock.observedAt) then
      recordRetirement H clock input admission
    else pure ⟨.unavailable .malformedDependencyResponse, false⟩

end

section

variable (H : HashFunction) (checks : DocumentChecks)

/-- A call of the store, with the callback and the times it runs with. -/
inductive AppendCall where
  | reserve (clock : CallClock) (input : AtomicApplicationAppendReservation)
      (invocation : DeliveryInvocationContext)
      (prepareUnsigned : ReserveTransactionContext → PreparedValue)
  | finalize (clock : CallClock) (input : FinalizeApplicationAppendInput)
      (invocation : DeliveryInvocationContext)
  | retire (clock : CallClock) (input : RetireExpiredApplicationAppendInput)
      (invocation : DeliveryInvocationContext)

def AppendCall.transaction : AppendCall → Tx DeliveryDb Failure Outcome
  | .reserve clock input invocation prepareUnsigned =>
    reserveApplicationAppendAtomically H clock input invocation prepareUnsigned
  | .finalize clock input invocation =>
    finalizeApplicationAppendAtomically H checks clock input invocation
  | .retire clock input invocation =>
    retireExpiredApplicationAppendAtomically H checks clock input invocation

/-- What the call resolves to, and the database after it. -/
def AppendCall.run (call : AppendCall) (db : DeliveryDb) : Except Failure Outcome × DeliveryDb :=
  sqlBegin (call.transaction H checks) db

end

section

variable {H : HashFunction} {checks : DocumentChecks} {db final : DeliveryDb}

theorem runStatement_bind_eq_ok {statement : DeliveryDb → Except Failure DeliveryDb} {β : Type}
    {f : Unit → Tx DeliveryDb Failure β} {p : β × DeliveryDb} :
    (runStatement statement >>= f) db = .ok p ↔
      ∃ written, statement db = .ok written ∧ f () written = .ok p := by
  obtain ⟨b, last⟩ := p
  rw [Tx.bind_eq_ok]
  unfold runStatement
  constructor
  · rintro ⟨⟨⟩, written, hstatement, h⟩
    cases hresult : statement db with
    | error e => simp [hresult, Except.map] at hstatement
    | ok value =>
      obtain rfl : value = written := by simpa [hresult, Except.map] using hstatement
      exact ⟨value, rfl, h⟩
  · rintro ⟨written, hstatement, h⟩
    exact ⟨(), written, by simp [hstatement, Except.map], h⟩

/-- The statements of an acceptance, in order. -/
structure AcceptanceWrites (H : HashFunction) (checks : DocumentChecks) (clock : CallClock)
    (input : FinalizeApplicationAppendInput) (admission : FinalizeAdmission)
    (next : LockedApplicationAppendSnapshot) (acceptance : StoredAcceptance)
    (db logged bound delivered accepted paged fenced : DeliveryDb) : Prop where
  parsed : parseLockedApplicationAppendSnapshot H (nextSnapshotOf admission) = .ok next
  built : buildAcceptance checks input admission clock.observedAt = .ok acceptance
  envelope : insertEnvelope (envelopeRow admission.signedEnvelope)
    (advanceConversation admission.signedEnvelope next.conversation clock.observedAt db) =
      .ok logged
  attachments : bindAttachments admission.signedEnvelope.conversationId admission.signedEnvelope.position
    admission.pending.admissionCommand.semanticIdentity.append.attachmentIds 0 logged = .ok bound
  fanout : fanOut admission.signedEnvelope clock.observedAt
    admission.pending.fanoutPlan.recipientInstallationIds bound = .ok delivered
  acceptance : insertAcceptance admission.pending acceptance clock.observedAt
    (insertOutboxEvent H admission.signedEnvelope clock.observedAt
      (advanceUsage admission.signedEnvelope.conversationId next.usage delivered)) = .ok accepted
  pageEnd : insertPageEnd next admission.signedEnvelope.position clock.observedAt accepted = .ok paged
  fences : refreshCustodySnapshotDigest H admission.signedEnvelope.conversationId
    (insertPolicyTransition next admission.signedEnvelope.conversationId
      admission.signedEnvelope.position clock.observedAt paged) = .ok ((), fenced)

/-- The commands whose idempotency keys an acceptance is stored under. -/
def acceptedCommands (input : FinalizeApplicationAppendInput)
    (pending : PendingApplicationAppendIntent) (same : Bool) :
    List AtomicApplicationAppendCommand :=
  if same then [pending.admissionCommand, input.command] else [pending.admissionCommand]

theorem recordAcceptance_eq_ok {clock : CallClock} {input : FinalizeApplicationAppendInput}
    {admission : FinalizeAdmission} {outcome : Outcome}
    (h : recordAcceptance H checks clock input admission db = .ok (outcome, final)) :
    outcome.fresh = true ∧ ∃ next acceptance logged bound delivered accepted paged fenced same replay,
      AcceptanceWrites H checks clock input admission next acceptance db logged bound delivered
        accepted paged fenced ∧
      applicationEnvelopeSemanticallyEqual H admission.pending.admissionCommand.semanticIdentity
        input.command.semanticIdentity = .ok same ∧
      outcome.result = acceptedResultFor H input.command acceptance replay clock.observedAt ∧
      final = deletePending admission.signedEnvelope.conversationId
        (insertIdempotency H admission.pending.admissionCommand.realmId admission.signedEnvelope
          clock.observedAt (acceptedCommands input admission.pending same) fenced) := by
  obtain ⟨next, hnext, h1⟩ := Tx.lift_bind_eq_ok.mp h
  obtain ⟨acceptance, hbuilt, h2⟩ := Tx.lift_bind_eq_ok.mp h1
  rw [Tx.modify_bind] at h2
  obtain ⟨logged, hlogged, h3⟩ := runStatement_bind_eq_ok.mp h2
  obtain ⟨bound, hbound, h4⟩ := runStatement_bind_eq_ok.mp h3
  obtain ⟨delivered, hdelivered, h5⟩ := runStatement_bind_eq_ok.mp h4
  rw [Tx.modify_bind, Tx.modify_bind] at h5
  obtain ⟨accepted, haccepted, h6⟩ := runStatement_bind_eq_ok.mp h5
  obtain ⟨paged, hpaged, h7⟩ := runStatement_bind_eq_ok.mp h6
  rw [Tx.modify_bind] at h7
  obtain ⟨⟨⟩, fenced, hfenced, h8⟩ := Tx.bind_eq_ok.mp h7
  obtain ⟨same, hsame, h9⟩ := Tx.lift_bind_eq_ok.mp h8
  rw [Tx.modify_bind, Tx.modify_bind] at h9
  obtain ⟨replay, -, h10⟩ := Tx.lift_bind_eq_ok.mp h9
  obtain ⟨rfl, rfl⟩ := Tx.pure_eq_ok.mp h10
  exact ⟨rfl, next, acceptance, logged, bound, delivered, accepted, paged, fenced, same, replay,
    ⟨hnext, hbuilt, hlogged, hbound, hdelivered, haccepted, hpaged, hfenced⟩, hsame, rfl, rfl⟩

theorem recordReservation_eq_ok {clock : CallClock} {input : AtomicApplicationAppendReservation}
    {pending : PendingApplicationAppendIntent} {outcome : Outcome}
    (h : recordReservation H clock input pending db = .ok (outcome, final)) :
    outcome.fresh = true ∧
      outcome.result = pendingResultFor H input.command pending .none clock.observedAt
        clock.observedAt ∧
      ∃ inserted rows,
      insertPending H input.command pending clock.observedAt db = .ok inserted ∧
      insertReservations pending.intentDigest clock.observedAt
        pending.commitProjection.quotaCapacityReservations inserted.quotaReservations = .ok rows ∧
      final = { inserted with quotaReservations := rows } := by
  obtain ⟨inserted, hinserted, h1⟩ := runStatement_bind_eq_ok.mp h
  obtain ⟨reserved, hreserved, h2⟩ := runStatement_bind_eq_ok.mp h1
  obtain ⟨rows, hrows, h3⟩ := bind_ok.mp hreserved
  obtain ⟨rfl, rfl⟩ := Tx.pure_eq_ok.mp h2
  exact ⟨rfl, rfl, inserted, rows, hinserted, hrows, (Except.ok.inj h3).symm⟩

end

end JbChat.Store.AppendStore
