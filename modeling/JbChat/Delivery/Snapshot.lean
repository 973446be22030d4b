/- source: src/production/delivery/state.ts
   digest: The locked rows an append is judged on, and the judgement. -/

import JbChat.Delivery.Hashes
import JbChat.Delivery.Instants
import Mathlib.Data.String.Basic

/-!
Counters are the numbers their canonical texts denote, hashes and fingerprints the bytes.
Equality of canonical texts is equality of these values. Instants stay texts, which the
source compares as texts.
-/

set_option autoImplicit false

namespace JbChat.Delivery.Snapshot

open Foundation.HashTrace Foundation.LengthPrefix ValueObjects Hashes Instants

inductive QuotaScope where
  | installation
  | account
  | project
  | conversation
  | tenant
deriving DecidableEq

def QuotaScope.text : QuotaScope → String
  | .installation => "installation"
  | .account => "account"
  | .project => "project"
  | .conversation => "conversation"
  | .tenant => "tenant"

/-- `APPLICATION_APPEND_QUOTA_SCOPES` -/
def quotaScopes : List QuotaScope := [.installation, .account, .project, .conversation, .tenant]

inductive ConversationKind where
  | purchaseSupport
  | announcement
  | community
deriving DecidableEq

def ConversationKind.text : ConversationKind → String
  | .purchaseSupport => "purchase_support"
  | .announcement => "announcement"
  | .community => "community"

inductive ConversationState where
  | provisioning
  | active
  | membershipPending
  | suspended
  | closing
  | closed
  | retentionExpired
  | purged
deriving DecidableEq

def ConversationState.text : ConversationState → String
  | .provisioning => "provisioning"
  | .active => "active"
  | .membershipPending => "membership_pending"
  | .suspended => "suspended"
  | .closing => "closing"
  | .closed => "closed"
  | .retentionExpired => "retention_expired"
  | .purged => "purged"

inductive InstallationState where
  | active
  | suspended
  | revoked
deriving DecidableEq

def InstallationState.text : InstallationState → String
  | .active => "active"
  | .suspended => "suspended"
  | .revoked => "revoked"

inductive CredentialState where
  | active
  | suspended
  | revoked
  | superseded
deriving DecidableEq

def CredentialState.text : CredentialState → String
  | .active => "active"
  | .suspended => "suspended"
  | .revoked => "revoked"
  | .superseded => "superseded"

inductive SendRole where
  | customer
  | projectStaff
  | publisher
  | subscriber
  | member
  | moderator
deriving DecidableEq

def SendRole.text : SendRole → String
  | .customer => "customer"
  | .projectStaff => "project-staff"
  | .publisher => "publisher"
  | .subscriber => "subscriber"
  | .member => "member"
  | .moderator => "moderator"

inductive GrantState where
  | active
  | suspended
  | revoked
  | expired
deriving DecidableEq

def GrantState.text : GrantState → String
  | .active => "active"
  | .suspended => "suspended"
  | .revoked => "revoked"
  | .expired => "expired"

/-- `send_application` is the only capability a grant can carry. -/
def grantCapability : String := "send_application"

inductive HeadWitnessState where
  | verified
  | missing
  | inconsistent
  | stale
deriving DecidableEq

def HeadWitnessState.text : HeadWitnessState → String
  | .verified => "verified"
  | .missing => "missing"
  | .inconsistent => "inconsistent"
  | .stale => "stale"

structure LockedConversationState where
  realmId : String
  conversationId : String
  projectScopeId : String
  tenantScopeId : String
  kind : ConversationKind
  generation : Nat
  releaseProfileId : String
  deliveryLimitsDigest : Bytes
  releaseTrustRootDigest : Bytes
  quotaPolicyDigest : Bytes
  groupIdHash : Bytes
  state : ConversationState
  etag : String
  epoch : Nat
  rosterVersion : Nat
  rosterHash : Bytes
  recipientSetVersion : Nat
  recipientSetHash : Bytes
  confirmedTranscriptHash : Bytes
  lastPosition : Nat
  currentLogHeadHash : Bytes
  currentPolicyHeadSequence : Nat
  currentPolicyHeadHash : Bytes
deriving DecidableEq

structure LockedSenderMembership where
  conversationId : String
  accountId : String
  installationId : String
  credentialId : String
  credentialFingerprint : Bytes
  credentialRevocationVersion : Nat
  installationState : InstallationState
  credentialState : CredentialState
  credentialExpiresAt : String
  joinedPosition : Nat
  removedPosition : Option Nat
deriving DecidableEq

structure LockedConversationSendGrant where
  conversationId : String
  installationId : String
  credentialId : String
  conversationKind : ConversationKind
  conversationGeneration : Nat
  role : SendRole
  roleCredentialId : String
  roleCredentialFingerprint : Bytes
  roleCredentialSubjectAccountId : String
  roleCredentialSubjectInstallationId : String
  roleCredentialValidFrom : String
  roleCredentialValidUntil : String
  state : GrantState
  policyRevision : Nat
  policyHeadSequence : Nat
  policyHeadHash : Bytes
  expiresAt : String
  grantEvidenceDigest : Bytes
  grantInclusionEvidenceDigest : Bytes
deriving DecidableEq

structure LockedWitnessedPolicyHead where
  policyHeadId : String
  conversationId : String
  policyHeadSequence : Nat
  policyHeadHash : Bytes
  deliveryLogPosition : Nat
  deliveryLogHeadHash : Bytes
  evaluationLogPosition : Nat
  evaluationLogHeadHash : Bytes
  epoch : Nat
  rosterVersion : Nat
  confirmedTranscriptHash : Bytes
  policyRevision : Nat
  signedBodySha256 : Bytes
  signerKeyId : String
  signatureSha256 : Bytes
  witnessEvidenceDigest : Bytes
  proofEvidenceDigest : Bytes
  policyConsistencyEvidenceDigest : Bytes
  proofVerifiedAt : String
  issuedAt : String
  expiresAt : String
  witnessState : HeadWitnessState
  witnessCheckpointId : Option String
  witnessedPolicyHeadHash : Option Bytes
  mandatoryProposalCount : Nat
  mandatoryProposalSetHash : Bytes
  authorizedSendGrantSetHash : Bytes
  selectedSendGrantEvidenceDigest : Bytes
  selectedSendGrantInclusionEvidenceDigest : Bytes
  authorizedQuotaPolicyDigest : Bytes
  priorPolicyHeadSequence : Nat
  priorPolicyHeadHash : Bytes
  priorPolicyWitnessCheckpointId : String
  priorPolicyWitnessEvidenceDigest : Bytes
deriving DecidableEq

structure LockedConversationUsage where
  conversationId : String
  envelopeCount : Nat
  envelopeBytes : Nat
  attachmentBytes : Nat
  envelopeCountLimit : Nat
  envelopeBytesLimit : Nat
  attachmentBytesLimit : Nat
deriving DecidableEq

structure ExpectedAppendQuotaIdentity where
  scope : QuotaScope
  scopeHash : Bytes
  quotaName : String
  windowStartedAt : String
  windowSeconds : Nat
  operationLimit : Nat
  byteLimit : Nat
deriving DecidableEq

structure LockedQuotaCounter where
  scope : QuotaScope
  scopeHash : Bytes
  quotaName : String
  windowStartedAt : String
  windowSeconds : Nat
  operationCount : Nat
  byteCount : Nat
  reservedOperationCount : Nat
  reservedByteCount : Nat
  rowVersion : Nat
  operationLimit : Nat
  byteLimit : Nat
deriving DecidableEq

structure ApplicationAppendQuotaCapacityDelta where
  scope : QuotaScope
  scopeHash : Bytes
  quotaName : String
  windowStartedAt : String
  windowSeconds : Nat
  reservationOperationCount : Nat
  reservationByteCount : Nat
  rowVersionBefore : Nat
  rowVersionAfter : Nat
deriving DecidableEq

structure LockedApplicationAppendSnapshot where
  conversation : LockedConversationState
  membership : LockedSenderMembership
  policyHead : LockedWitnessedPolicyHead
  sendGrant : LockedConversationSendGrant
  pendingRemovalCount : Nat
  usage : LockedConversationUsage
  quotaBindings : List ExpectedAppendQuotaIdentity
  quotas : List LockedQuotaCounter
deriving DecidableEq

structure ApplicationAppendExpectation where
  realmId : String
  conversationId : String
  accountId : String
  installationId : String
  credentialId : String
  credentialFingerprint : Bytes
  credentialRevocationVersion : Nat
  releaseProfileId : String
  expectedDeliveryLimitsDigest : Bytes
  expectedQuotaPolicyDigest : Bytes
  expectedProjectScopeId : String
  expectedTenantScopeId : String
  expectedGroupIdHash : Bytes
  ifMatch : String
  expectedEpoch : Nat
  expectedRosterVersion : Nat
  expectedConfirmedTranscriptHash : Bytes
  policyHeadId : String
  policyHeadSequence : Nat
  policyHeadHash : Bytes
  policyEvaluationLogPosition : Nat
  policyEvaluationLogHeadHash : Bytes
  envelopeByteLength : Nat
  attachmentByteLength : Nat
deriving DecidableEq

/-- `APPLICATION_APPEND_REJECTION_REASONS` -/
inductive RejectionReason where
  | conversationNotActive
  | conversationStateInvalid
  | conversationStateChanged
  | senderMembershipInactive
  | senderCredentialMismatch
  | senderCredentialInactive
  | senderCredentialExpired
  | sendGrantInvalid
  | policyHeadNotCurrent
  | policyHeadNotWitnessed
  | policyHeadExpired
  | mandatoryProposalPending
  | removalPending
  | counterExhausted
  | quotaExceeded
deriving DecidableEq

structure AllowedAppend where
  nextPosition : Nat
  nextUsage : LockedConversationUsage
  quotaCapacityDeltas : List ApplicationAppendQuotaCapacityDelta
  postReservationQuotas : List LockedQuotaCounter
deriving DecidableEq

inductive LockedApplicationAppendDecision where
  | allowed (append : AllowedAppend)
  | rejected (reasonCode : RejectionReason)
deriving DecidableEq

def addUint63 (value : Nat) (increment : Int) : Option Nat :=
  let result := (value : Int) + increment
  if result < 0 ∨ result > uint63Max then none else some result.toNat

def subtractUint63 (value decrement : Nat) : Option Nat := addUint63 value (-decrement)

/-- The window is the aligned one that contains the instant. BigInt division truncates. -/
def isWithinQuotaWindow (windowStartedAt : String) (windowSeconds : Nat) (now : String) : Bool :=
  let nowMilliseconds := dateParse now
  let startsAt := dateParse windowStartedAt
  let duration : Int := (windowSeconds : Int) * 1000
  let expectedStart := nowMilliseconds.tdiv duration * duration
  decide (startsAt = expectedStart) && decide (nowMilliseconds < startsAt + duration)

def roleMaySend (kind : ConversationKind) (role : SendRole) : Bool :=
  match kind with
  | .purchaseSupport => role = .customer || role = .projectStaff
  | .announcement => role = .publisher
  | .community => role = .member || role = .moderator

def conversationSendGrantEvidenceDigestDomain : String :=
  "jb-msg-conversation-send-grant-evidence/v1"

def computeConversationSendGrantEvidenceDigest (H : HashFunction)
    (grant : LockedConversationSendGrant) : Bytes :=
  sha256Bytes H [utf8 conversationSendGrantEvidenceDigestDomain,
    lengthPrefixed [utf8 grant.conversationId, utf8 grant.installationId, utf8 grant.credentialId,
      utf8 grant.conversationKind.text, utf8 grant.conversationGeneration.repr,
      utf8 grant.role.text, utf8 grant.roleCredentialId, grant.roleCredentialFingerprint,
      utf8 grant.roleCredentialSubjectAccountId, utf8 grant.roleCredentialSubjectInstallationId,
      utf8 grant.roleCredentialValidFrom, utf8 grant.roleCredentialValidUntil,
      utf8 grantCapability, utf8 grant.state.text, utf8 grant.policyRevision.repr,
      utf8 grant.policyHeadSequence.repr, grant.policyHeadHash, utf8 grant.expiresAt]]

/-- The conversation row is live and is the one the sender has seen. -/
def conversationRefusal (conversation : LockedConversationState)
    (expectation : ApplicationAppendExpectation) : Option RejectionReason :=
  let canonicalEtag := "\"e" ++ conversation.epoch.repr ++ "-r" ++
    conversation.rosterVersion.repr ++ "\""
  if conversation.state ≠ .active then some .conversationNotActive
  else if conversation.etag ≠ canonicalEtag then some .conversationStateInvalid
  else if expectation.realmId ≠ conversation.realmId ∨
      expectation.conversationId ≠ conversation.conversationId ∨
      expectation.releaseProfileId ≠ conversation.releaseProfileId ∨
      expectation.expectedDeliveryLimitsDigest ≠ conversation.deliveryLimitsDigest ∨
      expectation.expectedQuotaPolicyDigest ≠ conversation.quotaPolicyDigest ∨
      expectation.expectedProjectScopeId ≠ conversation.projectScopeId ∨
      expectation.expectedTenantScopeId ≠ conversation.tenantScopeId ∨
      expectation.expectedGroupIdHash ≠ conversation.groupIdHash ∨
      expectation.ifMatch ≠ conversation.etag ∨
      expectation.expectedEpoch ≠ conversation.epoch ∨
      expectation.expectedRosterVersion ≠ conversation.rosterVersion ∨
      expectation.expectedConfirmedTranscriptHash ≠ conversation.confirmedTranscriptHash then
    some .conversationStateChanged
  else none

def membershipRefusal (conversation : LockedConversationState)
    (membership : LockedSenderMembership) (expectation : ApplicationAppendExpectation)
    (now : String) : Option RejectionReason :=
  if membership.conversationId ≠ conversation.conversationId ∨
      membership.removedPosition ≠ none ∨
      membership.joinedPosition > conversation.lastPosition then
    some .senderMembershipInactive
  else if expectation.accountId ≠ membership.accountId ∨
      expectation.installationId ≠ membership.installationId ∨
      expectation.credentialId ≠ membership.credentialId ∨
      expectation.credentialFingerprint ≠ membership.credentialFingerprint ∨
      expectation.credentialRevocationVersion ≠ membership.credentialRevocationVersion then
    some .senderCredentialMismatch
  else if membership.installationState ≠ .active ∨ membership.credentialState ≠ .active then
    some .senderCredentialInactive
  else if membership.credentialExpiresAt ≤ now then some .senderCredentialExpired
  else none

def sendGrantRefusal (H : HashFunction) (conversation : LockedConversationState)
    (membership : LockedSenderMembership) (sendGrant : LockedConversationSendGrant)
    (now : String) : Option RejectionReason :=
  if sendGrant.conversationId ≠ conversation.conversationId ∨
      sendGrant.installationId ≠ membership.installationId ∨
      sendGrant.credentialId ≠ membership.credentialId ∨
      sendGrant.roleCredentialSubjectAccountId ≠ membership.accountId ∨
      sendGrant.roleCredentialSubjectInstallationId ≠ membership.installationId ∨
      now < sendGrant.roleCredentialValidFrom ∨
      sendGrant.roleCredentialValidUntil ≤ now ∨
      sendGrant.roleCredentialValidUntil ≤ sendGrant.roleCredentialValidFrom ∨
      sendGrant.grantEvidenceDigest ≠ computeConversationSendGrantEvidenceDigest H sendGrant ∨
      sendGrant.conversationKind ≠ conversation.kind ∨
      sendGrant.conversationGeneration ≠ conversation.generation ∨
      sendGrant.state ≠ .active ∨
      sendGrant.expiresAt ≤ now ∨
      ¬ roleMaySend conversation.kind sendGrant.role then
    some .sendGrantInvalid
  else none

def policyHeadRefusal (snapshot : LockedApplicationAppendSnapshot)
    (expectation : ApplicationAppendExpectation) (now : String) : Option RejectionReason :=
  let conversation := snapshot.conversation
  let policyHead := snapshot.policyHead
  let sendGrant := snapshot.sendGrant
  if policyHead.conversationId ≠ conversation.conversationId ∨
      policyHead.policyHeadId ≠ expectation.policyHeadId ∨
      policyHead.policyHeadSequence ≠ expectation.policyHeadSequence ∨
      policyHead.policyHeadHash ≠ expectation.policyHeadHash ∨
      policyHead.policyHeadSequence ≠ conversation.currentPolicyHeadSequence ∨
      policyHead.policyHeadHash ≠ conversation.currentPolicyHeadHash ∨
      expectation.policyEvaluationLogPosition ≠ conversation.lastPosition ∨
      expectation.policyEvaluationLogHeadHash ≠ conversation.currentLogHeadHash ∨
      policyHead.evaluationLogPosition ≠ expectation.policyEvaluationLogPosition ∨
      policyHead.evaluationLogHeadHash ≠ expectation.policyEvaluationLogHeadHash ∨
      policyHead.epoch ≠ conversation.epoch ∨
      policyHead.rosterVersion ≠ conversation.rosterVersion ∨
      policyHead.confirmedTranscriptHash ≠ conversation.confirmedTranscriptHash then
    some .policyHeadNotCurrent
  else if policyHead.witnessState ≠ .verified ∨ policyHead.witnessCheckpointId = none ∨
      policyHead.witnessedPolicyHeadHash ≠ some policyHead.policyHeadHash then
    some .policyHeadNotWitnessed
  else if now < policyHead.issuedAt ∨ now < policyHead.proofVerifiedAt ∨
      policyHead.expiresAt ≤ now then
    some .policyHeadExpired
  else if sendGrant.policyRevision ≠ policyHead.policyRevision ∨
      sendGrant.policyHeadSequence ≠ policyHead.policyHeadSequence ∨
      sendGrant.policyHeadHash ≠ policyHead.policyHeadHash ∨
      policyHead.selectedSendGrantEvidenceDigest ≠ sendGrant.grantEvidenceDigest ∨
      policyHead.selectedSendGrantInclusionEvidenceDigest ≠
        sendGrant.grantInclusionEvidenceDigest ∨
      policyHead.authorizedQuotaPolicyDigest ≠ conversation.quotaPolicyDigest then
    some .sendGrantInvalid
  else if policyHead.mandatoryProposalCount ≠ 0 then some .mandatoryProposalPending
  else if snapshot.pendingRemovalCount ≠ 0 then some .removalPending
  else none

/-- The first refusal of the checks that come before the counters. -/
def authorityRefusal (H : HashFunction) (snapshot : LockedApplicationAppendSnapshot)
    (expectation : ApplicationAppendExpectation) (now : String) : Option RejectionReason :=
  conversationRefusal snapshot.conversation expectation <|>
    membershipRefusal snapshot.conversation snapshot.membership expectation now <|>
    sendGrantRefusal H snapshot.conversation snapshot.membership snapshot.sendGrant now <|>
    policyHeadRefusal snapshot expectation now

/-- The usage after one more envelope, with the next log position. -/
def nextPositionAndUsage (conversation : LockedConversationState) (usage : LockedConversationUsage)
    (envelopeBytes attachmentBytes : Nat) :
    Except RejectionReason (Nat × LockedConversationUsage) :=
  match addUint63 conversation.lastPosition 1, addUint63 usage.envelopeCount 1,
      addUint63 usage.envelopeBytes envelopeBytes,
      addUint63 usage.attachmentBytes attachmentBytes with
  | some nextPosition, some envelopeCount, some nextEnvelopeBytes, some nextAttachmentBytes =>
    if envelopeCount > usage.envelopeCountLimit ∨
        nextEnvelopeBytes > usage.envelopeBytesLimit ∨
        nextAttachmentBytes > usage.attachmentBytesLimit then
      .error .quotaExceeded
    else
      .ok (nextPosition, { usage with
        envelopeCount := envelopeCount
        envelopeBytes := nextEnvelopeBytes
        attachmentBytes := nextAttachmentBytes })
  | _, _, _, _ => .error .counterExhausted

/-- The counter row is the one the binding of its scope names, in its current window. -/
def quotaIsBound (bindings : List ExpectedAppendQuotaIdentity) (now : String)
    (quota : LockedQuotaCounter) : Bool :=
  match bindings.find? fun binding => decide (binding.scope = quota.scope) with
  | none => false
  | some expected =>
    decide (expected.scopeHash = quota.scopeHash ∧ expected.quotaName = quota.quotaName ∧
      expected.windowStartedAt = quota.windowStartedAt ∧
      expected.windowSeconds = quota.windowSeconds) &&
    isWithinQuotaWindow quota.windowStartedAt quota.windowSeconds now

/-- One iteration of the quota loop: the delta and the counter after it. -/
def reserveQuota (bindings : List ExpectedAppendQuotaIdentity) (totalChargedBytes : Nat)
    (now : String) (quota : LockedQuotaCounter) :
    Except RejectionReason (ApplicationAppendQuotaCapacityDelta × LockedQuotaCounter) :=
  if ¬ quotaIsBound bindings now quota then .error .quotaExceeded
  else
    match addUint63 quota.operationCount 1, addUint63 quota.byteCount totalChargedBytes,
        addUint63 quota.reservedOperationCount 1,
        addUint63 quota.reservedByteCount totalChargedBytes, addUint63 quota.rowVersion 1 with
    | some _, some _, some reservedOperationCount, some reservedByteCount,
        some rowVersionAfter =>
        if quota.operationCount + reservedOperationCount > quota.operationLimit ∨
            quota.byteCount + reservedByteCount > quota.byteLimit then
          .error .quotaExceeded
        else
          .ok (⟨quota.scope, quota.scopeHash, quota.quotaName, quota.windowStartedAt,
              quota.windowSeconds, 1, totalChargedBytes, quota.rowVersion, rowVersionAfter⟩,
            { quota with
              reservedOperationCount := reservedOperationCount
              reservedByteCount := reservedByteCount
              rowVersion := rowVersionAfter })
    | _, _, _, _, _ => .error .counterExhausted

/-- The quota loop. -/
def reserveQuotas (bindings : List ExpectedAppendQuotaIdentity) (totalChargedBytes : Nat)
    (now : String) : List LockedQuotaCounter →
      Except RejectionReason (List ApplicationAppendQuotaCapacityDelta × List LockedQuotaCounter)
  | [] => .ok ([], [])
  | quota :: quotas => do
    let (delta, reserved) ← reserveQuota bindings totalChargedBytes now quota
    let (deltas, others) ← reserveQuotas bindings totalChargedBytes now quotas
    .ok (delta :: deltas, reserved :: others)

def evaluateLockedApplicationAppend (H : HashFunction) (snapshot : LockedApplicationAppendSnapshot)
    (expectation : ApplicationAppendExpectation) (now : String) :
    LockedApplicationAppendDecision :=
  match authorityRefusal H snapshot expectation now with
  | some reasonCode => .rejected reasonCode
  | none =>
    let envelopeBytes := expectation.envelopeByteLength
    let attachmentBytes := expectation.attachmentByteLength
    match nextPositionAndUsage snapshot.conversation snapshot.usage envelopeBytes
        attachmentBytes with
    | .error reasonCode => .rejected reasonCode
    | .ok (nextPosition, nextUsage) =>
      match reserveQuotas snapshot.quotaBindings (envelopeBytes + attachmentBytes) now
          snapshot.quotas with
      | .error reasonCode => .rejected reasonCode
      | .ok (deltas, quotas) => .allowed ⟨nextPosition, nextUsage, deltas, quotas⟩

end JbChat.Delivery.Snapshot
