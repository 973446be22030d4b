/- source: storage/migrations/0001_spec_baseline.sql, 0009_application_append_state.sql,
     0012_policy_head_and_quota_anchors.sql, 0013_relational_authority_graph.sql,
     0018_staff_registrations_and_provisioning.sql, 0019_per_sender_custody_fences.sql,
     0020_policy_log_leaves.sql
   digest: The tables behind the conversation log and the statements the stores run on them. -/

import JbChat.Store.Documents

/-!
A table is the list of its rows. The quota counters are a function of their primary key.
A statement that breaks a constraint throws. Columns that no modelled statement reads back
and that no constraint concerns are left out.
-/

set_option autoImplicit false

namespace JbChat.Store.Tables

open Foundation.HashTrace
open Foundation.Transaction Delivery.ValueObjects Delivery.Snapshot Delivery.Quota
open Delivery.EnvelopeLog Delivery.Fanout Documents

/-- The primary key of `quota_counters`. -/
structure QuotaKey where
  scope : QuotaScope
  scopeHash : Bytes
  quotaName : String
  windowStartedAt : String
deriving DecidableEq

structure QuotaCounterRow where
  operationCount : Nat
  byteCount : Nat
  reservedOperationCount : Nat
  reservedByteCount : Nat
  rowVersion : Nat
  updatedAt : String

structure QuotaReservationRow where
  reservationId : Bytes
  pendingIntentDigest : Bytes
  key : QuotaKey
  reservationOperationCount : Nat
  reservationByteCount : Nat
  fenceGeneration : Nat
  fenceTokenHash : Bytes
  state : ReservationState
  rowVersionBefore : Nat
  rowVersionAfter : Nat
  createdAt : String
  resolvedAt : Option String

structure QuotaBindingRow where
  conversationId : String
  ordinal : Nat
  identity : ExpectedAppendQuotaIdentity

def QuotaBindingRow.key (binding : QuotaBindingRow) : QuotaKey :=
  ⟨binding.identity.scope, binding.identity.scopeHash, binding.identity.quotaName,
    binding.identity.windowStartedAt⟩

structure ConversationRow extends LockedConversationState where
  projectRefId : String
  lastActivityAt : String
deriving DecidableEq

inductive BootstrapMode where
  | creator
  | welcome

structure MembershipRow where
  conversationId : String
  accountId : String
  installationId : String
  credentialId : String
  role : SendRole
  deliveryPurpose : ConversationKind
  bootstrapMode : BootstrapMode
  joinedPosition : Nat
  joinedAt : String
  removedPosition : Option Nat
  removedAt : Option String

structure RoleCredentialRow where
  credentialId : String
  conversationId : String
  installationId : String
  accountId : String
  policyId : String
  role : SendRole
  credentialFingerprint : Bytes
  issuedAt : String
  expiresAt : String
  revocationVersion : Nat
  state : CredentialState

inductive InstallationStatus where
  | pendingVerification
  | active
  | suspended
  | revoked
  | superseded
  | deleted
deriving DecidableEq

structure InstallationRow where
  installationId : String
  accountId : String
  mlsCredentialFingerprint : Bytes
  status : InstallationStatus

inductive IntentOperation where
  | add
  | remove
  | replaceInstallation
deriving DecidableEq

inductive IntentState where
  | requested
  | authorized
  | proposed
  | committed
  | cancelled
  | expired
  | superseded
deriving DecidableEq

/-- The states of an intent that waits for its commit. -/
def IntentState.isLive : IntentState → Bool
  | .requested => true
  | .authorized => true
  | .proposed => true
  | _ => false

structure MembershipIntentRow where
  intentId : String
  conversationId : String
  operation : IntentOperation
  targetInstallationId : String
  requestedByInstallationId : Option String
  grantId : Option String
  keyPackageRef : Option Bytes
  baseEpoch : Nat
  baseRosterVersion : Nat
  baseConfirmedTranscriptHash : Bytes
  proposedRosterHash : Bytes
  state : IntentState
  createdAt : String
  expiresAt : String
  committedEnvelope : Option (String × Nat)

structure RosterProjectionRow extends ApplicationAppendMlsRosterProjection where
  ordinal : Nat

structure RecipientProjectionRow extends ApplicationAppendRecipientProjection where
  ordinal : Nat

inductive SigningKeyState where
  | active
  | retired
deriving DecidableEq

/-- `delivery_log_signing_keys` -/
structure SigningKeyRow where
  keyId : String
  state : SigningKeyState
  validFrom : String
  validUntil : String

/-- `delivery_conversation_authority`, the custody row. -/
structure CustodyRow where
  conversationId : String
  realmId : String
  snapshotDigest : Bytes
  activeSigningKeyId : String
  rowVersion : Nat

structure SenderFenceRow where
  conversationId : String
  installationId : String
  snapshotDigest : Bytes
  rowVersion : Nat

/-- A row that counts: a lane with its generation, a mailbox with its last position. -/
structure SequenceRow where
  id : String
  value : Nat

structure PendingRow where
  conversationId : String
  realmId : String
  intentDigest : Bytes
  admissionCommandDigest : Bytes
  requestCommitment : Bytes
  httpScopeHash : Bytes
  envelopeId : String
  position : Nat
  expectedSnapshotDigest : Bytes
  fenceGeneration : Nat
  fenceTokenHash : Bytes
  pendingCanonical : PendingApplicationAppendIntent
  reservedAt : String
  pendingExpiresAt : String

structure AcceptanceRow where
  realmId : String
  conversationId : String
  envelopeId : String
  position : Nat
  intentDigest : Bytes
  admissionCommandDigest : Bytes
  semanticIdentityDigest : Bytes
  acceptanceCanonical : StoredAcceptance
  finalizedAt : String

structure HttpIdempotencyRow where
  httpScopeHash : Bytes
  requestCommitment : Bytes
  realmId : String
  conversationId : String
  envelopeId : String
  expiresAt : Int

structure RetirementRow where
  intentDigest : Bytes
  conversationId : String
  fenceGeneration : Nat
  fenceTokenHash : Bytes
  retiredAt : String

/-- An envelope of any class. A commit carries the transcript hashes before and after it. The
row expires at a time in milliseconds. -/
structure EnvelopeRow extends EnvelopeLeafInput where
  transcript : Option (Bytes × Bytes)
  envelopeBytes : Bytes
  previousHeadHash : Bytes
  leafHash : Bytes
  headHash : Bytes
  logSigningKeyId : String
  logCheckpointDigest : Bytes
  logHeadSignature : Bytes
  expiresAt : Int
deriving DecidableEq

inductive AttachmentState where
  | uploading
  | ready
  | bound
  | purgePending
  | deleted
deriving DecidableEq

structure AttachmentRow where
  attachmentId : String
  conversationId : String
  ownerInstallationId : String
  ciphertextBytes : Nat
  state : AttachmentState
  boundEnvelopePosition : Option Nat

structure EnvelopeAttachmentRow where
  conversationId : String
  envelopePosition : Nat
  ordinal : Nat
  attachmentId : String

inductive DeliveryClass where
  | application
  | proposal
  | commit

structure MailboxEntryRow where
  installationId : String
  mailboxPosition : Nat
  conversationId : String
  envelopePosition : Nat
  envelopeId : String
  deliveryClass : DeliveryClass
  createdAt : String
  expiresAt : Int

/-- `outbox_events` of a conversation, with the entries of the payload. -/
structure OutboxRow where
  aggregateIdHash : Bytes
  eventType : String
  payload : List (String × String)
  createdAt : String

structure PageEndRow where
  conversation : LockedConversationState
  position : Nat
  policyHead : LockedWitnessedPolicyHead
  createdAt : String

structure PolicyTransitionRow where
  conversationId : String
  policyHeadSequence : Nat
  policyHeadId : String
  policyHeadHash : Bytes
  effectiveFromPosition : Nat
  createdAt : String

inductive KeyPackageState where
  | available
  | taken
  | used
  | destroyed
  | revoked
deriving DecidableEq

structure KeyPackageRow where
  keyPackageRef : Bytes
  installationId : String
  packageBytes : Bytes
  packageSha256 : Bytes
  state : KeyPackageState
  createdAt : String
  expiresAt : String
  takenAt : Option String
  takenByPlanId : Option String
  takenByIntentId : Option String
  usedAt : Option String

inductive GrantCapability where
  | purchaseSupport
  | projectStaff
  | tokenHolder
  | itemSetBuyer
  | channelRelay
deriving DecidableEq

structure EligibilityGrantRow where
  grantId : String
  accountId : String
  capability : GrantCapability
  state : GrantState
  validUntil : String

structure RelayInstallationRow where
  relayInstallationId : String
  servedAccountId : String
  active : Bool

structure ExternalProposalRow where
  proposalId : String
  proposalHash : Bytes
  intentId : String
  conversationId : String
  envelopeId : String
  envelopePosition : Nat
  baseEpoch : Nat
  publicMessage : Bytes
  publicMessageSha256 : Bytes
  authorizationRecordHash : Bytes
  signerExternalSenderCredentialId : String
  signerExternalSenderFingerprint : Bytes
  signerGeneration : Nat
  transparencyCheckpointId : String
  createdAt : String
  expiresAt : String
  committedAt : Option String

/-- `mls_welcomes`. The row expires at a time in milliseconds. -/
structure WelcomeRow where
  conversationId : String
  commitPosition : Nat
  commitEnvelopeId : String
  targetInstallationId : String
  welcomeBytes : Bytes
  welcomeSha256 : Bytes
  createdAt : String
  expiresAt : Int

structure PlanMember where
  accountId : String
  installationId : String
  role : SendRole
  bootstrapMode : BootstrapMode
  credentialFingerprint : Bytes

/-- `conversation_plans` with its canonical roster, and the rows of
`conversation_plan_members` in the order they are read. -/
structure PlanRow where
  planId : String
  conversationId : String
  projectRefId : String
  relationshipId : String
  relationshipScopeId : String
  creatorAccountId : String
  creatorInstallationId : String
  rosterHash : Bytes
  externalSendersHash : Bytes
  rosterCanonical : List PlanMember
  members : List PlanMember
  deliveryLimitsDigest : Bytes
  releaseTrustRootDigest : Bytes
  quotaPolicyDigest : Bytes
  createdAt : String
  expiresAt : String
  consumedAt : Option String

structure RelationshipRow where
  relationshipId : String
  activeConversationId : Option String

/-- The tables through which members and conversations are admitted. -/
structure AdmissionTables where
  keyPackages : List KeyPackageRow
  eligibilityGrants : List EligibilityGrantRow
  relayInstallations : List RelayInstallationRow
  externalProposals : List ExternalProposalRow
  welcomes : List WelcomeRow
  plans : List PlanRow
  relationships : List RelationshipRow

inductive CredentialLifecycle where
  | published
  | retired
  | revoked
deriving DecidableEq

/-- `external_sender_credentials`. The validity is a span of milliseconds. -/
structure ExternalSenderCredentialRow where
  credentialId : String
  projectRefId : String
  signerGeneration : Nat
  credentialPublic : Bytes
  credentialFingerprint : Bytes
  notBefore : Int
  expiresAt : Int
  lifecycleState : CredentialLifecycle
deriving DecidableEq

structure PolicyHeadRow where
  policyHeadId : String
  conversationId : String
  policyHeadSequence : Nat
  previousPolicyHeadHash : Bytes
  policyHeadHash : Bytes
  issuedAt : String
  expiresAt : String
  policyHeadSigningKeyId : String
  canonicalSignedBody : String
  canonicalSignedBodySha256 : Bytes
  signature : Bytes

structure MandatoryProposalRow where
  policyHeadId : String
  ordinal : Nat
  proposalId : String
  proposalHash : Bytes

structure SendGrantSetMemberRow where
  policyHeadId : String
  grantEvidenceDigest : Bytes
  grantInclusionEvidenceDigest : Bytes
  installationId : String
  credentialId : String
  role : SendRole

inductive PolicyKeyLifecycle where
  | active
  | retired
  | revoked
deriving DecidableEq

structure PolicyHeadSigningKeyRow where
  keyId : String
  projectRefId : String
  publicKey : Bytes
  keyFingerprint : Bytes
  notBefore : Int
  expiresAt : Int
  lifecycleState : PolicyKeyLifecycle

structure PolicyLogLeafRow where
  leafIndex : Nat
  policyHeadId : String
  headHash : Bytes

structure PolicyLogCheckpointRow where
  checkpointId : String
  treeSize : Nat
  rootHash : Bytes
  previousCheckpointId : Option String
  signerKeyId : String
  signature : Bytes

structure DirectoryCheckpointRow where
  checkpointId : String
  treeSize : Nat
  rootHash : Bytes
  signerKeyId : String
  signature : Bytes

structure PolicyRow where
  policyId : String
  policyRevision : Nat
  projectRefId : String
  canonicalDocument : String
  policyHash : Bytes

/-- `project_messaging_provisions` -/
structure ProvisionRow where
  projectRefId : String
  policyId : String
  policyRevision : Nat
  policyLogCheckpointId : String
  directoryCheckpointId : String
  currentExternalSenderCredentialId : String
  stagedExternalSenderCredentialId : String
  policyHeadSigningKeyId : String

structure ProjectRefRow where
  projectRefId : String
  chainId : String
  lastSignerGeneration : Nat

/-- The tables behind the signed policy heads of a project. -/
structure PolicyTables where
  externalSenderCredentials : List ExternalSenderCredentialRow
  policyHeads : List PolicyHeadRow
  mandatoryProposals : List MandatoryProposalRow
  sendGrantSetMembers : List SendGrantSetMemberRow
  policyHeadSigningKeys : List PolicyHeadSigningKeyRow
  policyLogLeaves : List PolicyLogLeafRow
  policyLogCheckpoints : List PolicyLogCheckpointRow
  directoryCheckpoints : List DirectoryCheckpointRow
  policies : List PolicyRow
  provisions : List ProvisionRow
  projectRefs : List ProjectRefRow

structure DeliveryDb where
  conversations : List ConversationRow
  sendGrants : List LockedConversationSendGrant
  memberships : List MembershipRow
  roleCredentials : List RoleCredentialRow
  installations : List InstallationRow
  policyHeadAnchors : List LockedWitnessedPolicyHead
  membershipIntents : List MembershipIntentRow
  usage : List LockedConversationUsage
  quotaBindings : List QuotaBindingRow
  quotaCounters : QuotaKey → Option QuotaCounterRow
  quotaReservations : List QuotaReservationRow
  rosterProjections : List RosterProjectionRow
  recipientProjections : List RecipientProjectionRow
  signingKeys : List SigningKeyRow
  custody : List CustodyRow
  senderFences : List SenderFenceRow
  lanes : List SequenceRow
  pendings : List PendingRow
  acceptances : List AcceptanceRow
  httpIdempotency : List HttpIdempotencyRow
  retirements : List RetirementRow
  envelopes : List EnvelopeRow
  attachments : List AttachmentRow
  envelopeAttachments : List EnvelopeAttachmentRow
  mailboxCounters : List SequenceRow
  mailboxEntries : List MailboxEntryRow
  outbox : List OutboxRow
  pageEnds : List PageEndRow
  policyTransitions : List PolicyTransitionRow
  admission : AdmissionTables
  policy : PolicyTables

section

variable {α κ : Type} [DecidableEq κ]

/-- `INSERT` under a uniqueness constraint. -/
def insertUnique (constraint : String) (key : α → κ) (row : α) (rows : List α) :
    Except Failure (List α) :=
  if rows.any fun other => decide (key other = key row) then .error (.sql constraint)
  else .ok (rows ++ [row])

/-- `INSERT ... ON CONFLICT DO NOTHING` -/
def insertMissing (key : α → κ) (row : α) (rows : List α) : List α :=
  if rows.any fun other => decide (key other = key row) then rows else rows ++ [row]

/-- `UPDATE ... WHERE` -/
def updateWhere (selected : α → Bool) (change : α → α) (rows : List α) : List α :=
  rows.map fun row => if selected row then change row else row

def nextInSequence (id : String) (rows : List SequenceRow) : Nat :=
  match rows.find? fun row => decide (row.id = id) with
  | none => 1
  | some row => row.value + 1

/-- `INSERT ... VALUES (id, 1) ON CONFLICT DO UPDATE SET value = value + 1 RETURNING value` -/
def advanceSequence (constraint id : String) (rows : List SequenceRow) :
    Except Failure (Nat × List SequenceRow) :=
  let next := nextInSequence id rows
  if next > uint63Max then .error (.sql constraint)
  else if rows.any fun row => decide (row.id = id) then
    .ok (next, updateWhere (fun row => decide (row.id = id)) (fun row => { row with value := next })
      rows)
  else .ok (next, rows ++ [⟨id, next⟩])

end

/-- What the store sends as one fenced update of a counter row. -/
structure CounterWrite where
  key : QuotaKey
  rowVersion : Nat
  operationCount : Nat
  byteCount : Nat
  reservedOperationCount : Int
  reservedByteCount : Int
  nextRowVersion : Nat
  updatedAt : String

/-- A column of type `bigint` with the check that it is not negative. -/
def counterColumn (value : Int) : Option Nat :=
  if value < 0 ∨ value > uint63Max then none else some value.toNat

/-- The row after the update, unless a column leaves its range. -/
def CounterWrite.apply (write : CounterWrite) (row : QuotaCounterRow) : Option QuotaCounterRow := do
  let operationCount ← counterColumn ((row.operationCount : Int) + write.operationCount)
  let byteCount ← counterColumn ((row.byteCount : Int) + write.byteCount)
  let reservedOperationCount ← counterColumn (row.reservedOperationCount +
    write.reservedOperationCount)
  let reservedByteCount ← counterColumn (row.reservedByteCount + write.reservedByteCount)
  let rowVersion ← counterColumn write.nextRowVersion
  some ⟨operationCount, byteCount, reservedOperationCount, reservedByteCount, rowVersion,
    write.updatedAt⟩

/-- The row that the update selects: the key and the version must match. -/
def CounterWrite.selects (write : CounterWrite)
    (counters : QuotaKey → Option QuotaCounterRow) : Option QuotaCounterRow :=
  (counters write.key).filter fun row => decide (row.rowVersion = write.rowVersion)

/-- `UPDATE quota_counters ... WHERE ... AND row_version = ... RETURNING`: the counters after
it, if it found its row. -/
def updateCounter (write : CounterWrite) (counters : QuotaKey → Option QuotaCounterRow) :
    Except Failure (Option (QuotaKey → Option QuotaCounterRow)) :=
  match write.selects counters with
  | none => .ok none
  | some row =>
    match write.apply row with
    | none => .error (.sql "quota_counters_check")
    | some updated => .ok (some (Function.update counters write.key (some updated)))

/-- `UPDATE application_append_quota_reservations SET state = ... WHERE reservation_id = ...
AND state = 'live'` -/
def resolveReservation (reservationId : Bytes) (state : ReservationState) (resolvedAt : String)
    (rows : List QuotaReservationRow) : List QuotaReservationRow :=
  updateWhere (fun row => decide (row.reservationId = reservationId ∧ row.state = .live))
    (fun row => { row with
      state := state
      resolvedAt := some resolvedAt }) rows

/-- A statement that may break a constraint. -/
def runStatement (statement : DeliveryDb → Except Failure DeliveryDb) :
    Tx DeliveryDb Failure Unit :=
  fun db => (statement db).map fun written => ((), written)

/-- The `octet_length` limit of each class. -/
def maxEnvelopeBytes : EnvelopeClass → Nat
  | .application => 65536
  | .externalProposal => 262144
  | .mlsCommit => 524288

/-- The `CHECK` constraints of `envelopes`. -/
def envelopeColumnsValid (row : EnvelopeRow) : Bool :=
  decide (1 ≤ row.position ∧ row.position ≤ uint63Max ∧ row.epoch ≤ uint63Max ∧
    row.rosterVersion ≤ uint63Max ∧ row.envelopeBytes.length ≤ maxEnvelopeBytes row.envelopeClass ∧
    row.envelopeSha256.length = 32 ∧ row.previousHeadHash.length = 32 ∧
    row.leafHash.length = 32 ∧ row.headHash.length = 32 ∧
    row.logCheckpointDigest.length = 32 ∧ row.logHeadSignature.length = 64 ∧
    isSigningKeyId row.logSigningKeyId = true ∧
    (row.sender.isInstallation = false ↔ row.envelopeClass = .externalProposal) ∧
    (row.contentType = .privateMessage ↔ row.envelopeClass = .application) ∧
    (row.transcript.isSome = true ↔ row.envelopeClass = .mlsCommit) ∧
    ∀ hashes ∈ row.transcript, hashes.1.length = 32 ∧ hashes.2.length = 32)

/-- `INSERT INTO envelopes`: the primary key, the two further keys of a conversation and the
reference to the signing key. -/
def insertEnvelope (row : EnvelopeRow) (db : DeliveryDb) : Except Failure DeliveryDb :=
  if ¬ envelopeColumnsValid row then .error (.sql "envelopes_check")
  else if db.envelopes.any fun other => decide (other.conversationId = row.conversationId ∧
      (other.position = row.position ∨ other.envelopeId = row.envelopeId ∨
        other.headHash = row.headHash)) then
    .error (.sql "envelopes_key")
  else if ¬ db.signingKeys.any fun key => decide (key.keyId = row.logSigningKeyId) then
    .error (.sql "envelopes_log_signing_key_fk")
  else .ok { db with envelopes := db.envelopes ++ [row] }

end JbChat.Store.Tables
