/- source: src/production/delivery/state.ts, service.ts, appendPersistence.ts
   digest: The wire and policy evidence an append is admitted on. -/

import JbChat.Store.Commands

set_option autoImplicit false

namespace JbChat.Store.Evidence

open Foundation.HashTrace Foundation.LengthPrefix
open Delivery.ValueObjects Delivery.Hashes Delivery.Instants Delivery.Snapshot Delivery.Quota
open Delivery.SnapshotParse Delivery.EnvelopeLog Commands

/-- The profile, the wire kind, the content type and the status have one value each. -/
structure MlsApplicationWireInspectionEvidence where
  releaseProfileId : String
  expectedGroupIdHash : Bytes
  expectedEpoch : Nat
  envelopeSha256 : Bytes
  evidenceDigest : Bytes

def wireEvidenceDigestDomain : String := "jb-msg-application-wire-inspection-evidence/v1"

def computeMlsApplicationWireInspectionEvidenceDigest (H : HashFunction)
    (evidence : MlsApplicationWireInspectionEvidence) : Bytes :=
  sha256Bytes H [utf8 wireEvidenceDigestDomain,
    lengthPrefixed [utf8 evidence.releaseProfileId, evidence.expectedGroupIdHash,
      utf8 evidence.expectedEpoch.repr, utf8 "private-application",
      utf8 EnvelopeContentType.privateMessage.text, evidence.envelopeSha256, utf8 "verified"]]

def parseMlsApplicationWireInspectionEvidence (H : HashFunction)
    (evidence : MlsApplicationWireInspectionEvidence) :
    Except Failure MlsApplicationWireInspectionEvidence :=
  checked evidence [
    pass (parseKeyText evidence.releaseProfileId "releaseProfileId"),
    pass (checkHash32 evidence.expectedGroupIdHash "hash"),
    pass (checkUint63 evidence.expectedEpoch "counter"),
    pass (checkHash32 evidence.envelopeSha256 "hash"),
    pass (checkHash32 evidence.evidenceDigest "hash"),
    refuse (evidence.evidenceDigest ≠ computeMlsApplicationWireInspectionEvidenceDigest H evidence)
      "MLS wire evidence digest is inconsistent."]

def assertWireEvidenceMatches (evidence : MlsApplicationWireInspectionEvidence)
    (command : AtomicApplicationAppendCommand) (snapshot : LockedApplicationAppendSnapshot) :
    Except Failure Unit :=
  refuse (evidence.releaseProfileId ≠ command.releaseProfileId ∨
      evidence.expectedGroupIdHash ≠ snapshot.conversation.groupIdHash ∨
      evidence.expectedEpoch ≠ snapshot.conversation.epoch ∨
      evidence.envelopeSha256 ≠ command.semanticIdentity.append.envelopeSha256)
    "MLS wire inspection evidence was substituted."

inductive PolicyProofPurpose where
  | appendAuthorization
  | historicalPage
deriving DecidableEq

def PolicyProofPurpose.text : PolicyProofPurpose → String
  | .appendAuthorization => "append-authorization"
  | .historicalPage => "historical-page"

inductive FreshnessStatus where
  | fresh
  | historical
deriving DecidableEq

def FreshnessStatus.text : FreshnessStatus → String
  | .fresh => "fresh"
  | .historical => "historical"

inductive CurrentStatus where
  | current
  | pageExact
deriving DecidableEq

def CurrentStatus.text : CurrentStatus → String
  | .current => "current"
  | .pageExact => "page-exact"

inductive SendGrantInclusionStatus where
  | verified
  | notRequested
deriving DecidableEq

def SendGrantInclusionStatus.text : SendGrantInclusionStatus → String
  | .verified => "verified"
  | .notRequested => "not-requested"

structure PolicyHeadProofExpectation where
  realmId : String
  conversationGeneration : Nat
  releaseTrustRootDigest : Bytes
  purpose : PolicyProofPurpose
  releaseProfileId : String
  deliveryLimitsDigest : Bytes
  conversationId : String
  policyHeadId : String
  policyHeadSequence : Nat
  policyHeadHash : Bytes
  deliveryLogPosition : Nat
  deliveryLogHeadHash : Bytes
  evaluationLogPosition : Nat
  evaluationLogHeadHash : Bytes
  epoch : Nat
  rosterVersion : Nat
  confirmedTranscriptHash : Bytes
  policyRevision : Nat
  mandatoryProposalCount : Nat
  mandatoryProposalSetHash : Bytes
  authorizedSendGrantSetHash : Bytes
  selectedSendGrantEvidenceDigest : Bytes
  selectedSendGrantInclusionEvidenceDigest : Bytes
  authorizedQuotaPolicyDigest : Bytes
  priorPolicyHeadSequence : Nat
  priorPolicyHeadHash : Bytes
  priorPolicyWitnessCheckpointId : String
  priorPolicyWitnessEvidenceDigest : Bytes
  verifiedAt : String
deriving DecidableEq

/-- The signature, key, witness and consistency statuses have one value each. -/
structure PolicyHeadProofEvidence extends PolicyHeadProofExpectation where
  signedBodySha256 : Bytes
  signerKeyId : String
  signatureSha256 : Bytes
  witnessCheckpointId : String
  witnessedPolicyHeadHash : Bytes
  witnessEvidenceDigest : Bytes
  issuedAt : String
  expiresAt : String
  freshnessStatus : FreshnessStatus
  currentStatus : CurrentStatus
  policyConsistencyEvidenceDigest : Bytes
  sendGrantInclusionStatus : SendGrantInclusionStatus
  evidenceDigest : Bytes

/-- `policyExpectation` and `policyProofExpectation`, which are the same. -/
def policyProofExpectation (snapshot : LockedApplicationAppendSnapshot) (verifiedAt : String) :
    PolicyHeadProofExpectation :=
  let conversation := snapshot.conversation
  let policy := snapshot.policyHead
  { realmId := conversation.realmId
    conversationGeneration := conversation.generation
    releaseTrustRootDigest := conversation.releaseTrustRootDigest
    purpose := .appendAuthorization
    releaseProfileId := conversation.releaseProfileId
    deliveryLimitsDigest := conversation.deliveryLimitsDigest
    conversationId := conversation.conversationId
    policyHeadId := policy.policyHeadId
    policyHeadSequence := policy.policyHeadSequence
    policyHeadHash := policy.policyHeadHash
    deliveryLogPosition := policy.deliveryLogPosition
    deliveryLogHeadHash := policy.deliveryLogHeadHash
    evaluationLogPosition := conversation.lastPosition
    evaluationLogHeadHash := conversation.currentLogHeadHash
    epoch := policy.epoch
    rosterVersion := policy.rosterVersion
    confirmedTranscriptHash := policy.confirmedTranscriptHash
    policyRevision := policy.policyRevision
    mandatoryProposalCount := policy.mandatoryProposalCount
    mandatoryProposalSetHash := policy.mandatoryProposalSetHash
    authorizedSendGrantSetHash := policy.authorizedSendGrantSetHash
    selectedSendGrantEvidenceDigest := policy.selectedSendGrantEvidenceDigest
    selectedSendGrantInclusionEvidenceDigest := policy.selectedSendGrantInclusionEvidenceDigest
    authorizedQuotaPolicyDigest := policy.authorizedQuotaPolicyDigest
    priorPolicyHeadSequence := policy.priorPolicyHeadSequence
    priorPolicyHeadHash := policy.priorPolicyHeadHash
    priorPolicyWitnessCheckpointId := policy.priorPolicyWitnessCheckpointId
    priorPolicyWitnessEvidenceDigest := policy.priorPolicyWitnessEvidenceDigest
    verifiedAt := verifiedAt }

/-- What the overlay expects of a proof: the head that the conversation row names. -/
def overlayExpectation (snapshot : LockedApplicationAppendSnapshot) (verifiedAt : String) :
    PolicyHeadProofExpectation :=
  let conversation := snapshot.conversation
  { policyProofExpectation snapshot verifiedAt with
    policyHeadSequence := conversation.currentPolicyHeadSequence
    policyHeadHash := conversation.currentPolicyHeadHash
    epoch := conversation.epoch
    rosterVersion := conversation.rosterVersion
    confirmedTranscriptHash := conversation.confirmedTranscriptHash
    selectedSendGrantEvidenceDigest := snapshot.sendGrant.grantEvidenceDigest
    selectedSendGrantInclusionEvidenceDigest := snapshot.sendGrant.grantInclusionEvidenceDigest
    authorizedQuotaPolicyDigest := conversation.quotaPolicyDigest }

/-- The words that the labels of an expectation and of a proof start with. -/
structure ProofLabels where
  policy : String
  head : String
  set : String
  prior : String

def expectedLabels : ProofLabels := ⟨"expected policy", "expected policy-head", "expected",
  "expected prior"⟩

def proofLabels : ProofLabels := ⟨"policy proof", "policy proof head", "policy proof", "prior"⟩

/-- The fields that an expectation and a proof share. -/
def expectationChecks (expected : PolicyHeadProofExpectation) (labels : ProofLabels) :
    List (Except Failure Unit) :=
  [pass (parsePolicyRealmId expected.realmId),
    pass (parsePositiveUint63 expected.conversationGeneration
      (labels.policy ++ " conversation generation")),
    pass (checkHash32 expected.releaseTrustRootDigest
      (labels.policy ++ " release trust-root digest")),
    pass (parseKeyText expected.releaseProfileId "releaseProfileId"),
    pass (checkHash32 expected.deliveryLimitsDigest (labels.policy ++ " delivery limits digest")),
    pass (parseConversationId expected.conversationId),
    pass (parseUuidV4 expected.policyHeadId "policyHeadId"),
    pass (parsePositiveUint63 expected.policyHeadSequence (labels.head ++ " sequence")),
    pass (parseNonZeroHash32 expected.policyHeadHash (labels.head ++ " hash")),
    pass (checkUint63 expected.deliveryLogPosition (labels.policy ++ " delivery-log position")),
    pass (checkHash32 expected.deliveryLogHeadHash (labels.policy ++ " delivery-log head hash")),
    pass (checkUint63 expected.evaluationLogPosition
      (labels.policy ++ " evaluation-log position")),
    pass (checkHash32 expected.evaluationLogHeadHash
      (labels.policy ++ " evaluation-log head hash")),
    pass (checkUint63 expected.epoch (labels.policy ++ " epoch")),
    pass (checkUint63 expected.rosterVersion (labels.policy ++ " roster version")),
    pass (checkHash32 expected.confirmedTranscriptHash
      (labels.policy ++ " confirmed transcript hash")),
    pass (parsePositiveUint63 expected.policyRevision (labels.policy ++ " revision")),
    pass (parseMandatoryProposalCount expected.mandatoryProposalCount
      (labels.set ++ " mandatory proposal count")),
    pass (checkHash32 expected.mandatoryProposalSetHash
      (labels.set ++ " mandatory proposal set hash")),
    pass (checkHash32 expected.authorizedSendGrantSetHash
      (labels.set ++ " authorized send-grant set hash")),
    pass (checkHash32 expected.selectedSendGrantEvidenceDigest
      (labels.set ++ " selected send-grant evidence digest")),
    pass (checkHash32 expected.selectedSendGrantInclusionEvidenceDigest
      (labels.set ++ " selected send-grant inclusion evidence digest")),
    pass (checkHash32 expected.authorizedQuotaPolicyDigest
      (labels.set ++ " authorized quota policy digest")),
    pass (checkUint63 expected.priorPolicyHeadSequence (labels.prior ++ " policy-head sequence")),
    pass (checkHash32 expected.priorPolicyHeadHash (labels.prior ++ " policy-head hash")),
    pass (parseUuidV4 expected.priorPolicyWitnessCheckpointId "witnessCheckpointId"),
    pass (checkHash32 expected.priorPolicyWitnessEvidenceDigest
      (labels.prior ++ " policy witness evidence digest"))]

def anchored (position : Nat) (hash : Bytes) : Prop := position = 0 ↔ hash = zeroHash

instance (position : Nat) (hash : Bytes) : Decidable (anchored position hash) :=
  inferInstanceAs (Decidable (_ ↔ _))

def parsePolicyHeadProofExpectation (expected : PolicyHeadProofExpectation) :
    Except Failure PolicyHeadProofExpectation :=
  checked expected (expectationChecks expected expectedLabels ++ [
    pass (parseRfc3339Millis expected.verifiedAt "expected proof time"),
    refuse (¬ anchored expected.priorPolicyHeadSequence expected.priorPolicyHeadHash ∨
        ¬ anchored expected.deliveryLogPosition expected.deliveryLogHeadHash ∨
        ¬ anchored expected.evaluationLogPosition expected.evaluationLogHeadHash ∨
        (expected.purpose = .appendAuthorization ∧
          (expected.selectedSendGrantEvidenceDigest = zeroHash ∨
            expected.selectedSendGrantInclusionEvidenceDigest = zeroHash)) ∨
        (expected.purpose = .historicalPage ∧
          (expected.selectedSendGrantEvidenceDigest ≠ zeroHash ∨
            expected.selectedSendGrantInclusionEvidenceDigest ≠ zeroHash)))
      "Policy proof expectation has an invalid anchor or grant sentinel."])

/-- `computePolicyHeadProofEvidenceDigest` on a proof. -/
def PolicyHeadProofEvidence.computeDigest (H : HashFunction) (proof : PolicyHeadProofEvidence) :
    Bytes :=
  sha256Bytes H [utf8 policyHeadProofEvidenceDigestDomain,
    lengthPrefixed [utf8 proof.realmId, utf8 proof.conversationGeneration.repr,
      proof.releaseTrustRootDigest, utf8 proof.releaseProfileId, proof.deliveryLimitsDigest,
      utf8 proof.purpose.text, utf8 proof.conversationId, utf8 proof.policyHeadId,
      utf8 proof.policyHeadSequence.repr, proof.policyHeadHash,
      utf8 proof.deliveryLogPosition.repr, proof.deliveryLogHeadHash,
      utf8 proof.evaluationLogPosition.repr, proof.evaluationLogHeadHash, utf8 proof.epoch.repr,
      utf8 proof.rosterVersion.repr, proof.confirmedTranscriptHash,
      utf8 proof.policyRevision.repr, utf8 proof.mandatoryProposalCount.repr,
      proof.mandatoryProposalSetHash, proof.authorizedSendGrantSetHash,
      proof.selectedSendGrantEvidenceDigest, proof.selectedSendGrantInclusionEvidenceDigest,
      proof.authorizedQuotaPolicyDigest, utf8 proof.priorPolicyHeadSequence.repr,
      proof.priorPolicyHeadHash, utf8 proof.priorPolicyWitnessCheckpointId,
      proof.priorPolicyWitnessEvidenceDigest, proof.signedBodySha256, utf8 proof.signerKeyId,
      proof.signatureSha256, utf8 proof.witnessCheckpointId, proof.witnessedPolicyHeadHash,
      proof.witnessEvidenceDigest, utf8 proof.issuedAt, utf8 proof.expiresAt,
      utf8 proof.verifiedAt, utf8 "verified", utf8 "valid-for-checkpoint", utf8 "verified",
      utf8 proof.freshnessStatus.text, utf8 proof.currentStatus.text, utf8 "verified",
      proof.policyConsistencyEvidenceDigest, utf8 proof.sendGrantInclusionStatus.text]]

def parsePolicyHeadProofEvidence (H : HashFunction) (proof : PolicyHeadProofEvidence)
    (expectedValue : PolicyHeadProofExpectation) : Except Failure PolicyHeadProofEvidence := do
  let expected ← parsePolicyHeadProofExpectation expectedValue
  checked proof (expectationChecks proof.toPolicyHeadProofExpectation proofLabels ++ [
    pass (checkHash32 proof.signedBodySha256 "policy proof signed-body SHA-256"),
    pass (parseKeyText proof.signerKeyId "policy signer key ID"),
    pass (checkHash32 proof.signatureSha256 "policy signature SHA-256"),
    pass (parseUuidV4 proof.witnessCheckpointId "witnessCheckpointId"),
    pass (checkHash32 proof.witnessedPolicyHeadHash "witnessed policy-head hash"),
    pass (checkHash32 proof.witnessEvidenceDigest "policy witness evidence digest"),
    pass (parseRfc3339Millis proof.issuedAt "policy proof issuedAt"),
    pass (parseRfc3339Millis proof.expiresAt "policy proof expiresAt"),
    pass (parseRfc3339Millis proof.verifiedAt "policy proof verifiedAt"),
    pass (checkHash32 proof.policyConsistencyEvidenceDigest "policy consistency evidence digest"),
    pass (checkHash32 proof.evidenceDigest "policy proof evidence digest"),
    refuse (proof.toPolicyHeadProofExpectation ≠ expected)
      "Policy-head proof evidence was substituted.",
    refuse (proof.witnessedPolicyHeadHash ≠ proof.policyHeadHash ∨
        (proof.purpose = .appendAuthorization ∧
          (proof.policyHeadSequence < proof.priorPolicyHeadSequence ∨
            (proof.policyHeadSequence = proof.priorPolicyHeadSequence ∧
              proof.policyHeadHash ≠ proof.priorPolicyHeadHash))) ∨
        proof.deliveryLogPosition > proof.evaluationLogPosition ∨
        ¬ anchored proof.deliveryLogPosition proof.deliveryLogHeadHash ∨
        ¬ anchored proof.evaluationLogPosition proof.evaluationLogHeadHash ∨
        proof.verifiedAt < proof.issuedAt ∨ proof.expiresAt ≤ proof.issuedAt ∨
        dateParse proof.expiresAt - dateParse proof.issuedAt > 300000)
      "Policy-head proof validity or witness binding is inconsistent.",
    refuse ((proof.purpose = .appendAuthorization ∧
          (proof.freshnessStatus ≠ .fresh ∨ proof.currentStatus ≠ .current ∨
            proof.sendGrantInclusionStatus ≠ .verified ∨
            proof.selectedSendGrantEvidenceDigest = zeroHash ∨
            proof.selectedSendGrantInclusionEvidenceDigest = zeroHash ∨
            proof.expiresAt ≤ proof.verifiedAt)) ∨
        (proof.purpose = .historicalPage ∧
          (proof.freshnessStatus ≠ .historical ∨ proof.currentStatus ≠ .pageExact ∨
            proof.sendGrantInclusionStatus ≠ .notRequested ∨
            proof.selectedSendGrantEvidenceDigest ≠ zeroHash ∨
            proof.selectedSendGrantInclusionEvidenceDigest ≠ zeroHash)))
      "Policy-head proof status is invalid for its purpose.",
    refuse (proof.evidenceDigest ≠ proof.computeDigest H)
      "Policy-head proof evidence digest is inconsistent."])

/-- The expectation is built from the snapshot, for the time that the proof names. -/
def policyEvidenceFor (H : HashFunction) (label : String) (proof : PolicyHeadProofEvidence)
    (snapshot : LockedApplicationAppendSnapshot) : Except Failure PolicyHeadProofEvidence := do
  let verifiedAt ← parseRfc3339Millis proof.verifiedAt label
  let _ ← parseDeliveryRealmId snapshot.conversation.realmId
  parsePolicyHeadProofEvidence H proof (policyProofExpectation snapshot verifiedAt)

def parsePolicyEvidenceForSnapshot (H : HashFunction) (proof : PolicyHeadProofEvidence)
    (snapshot : LockedApplicationAppendSnapshot) : Except Failure PolicyHeadProofEvidence :=
  policyEvidenceFor H "timestamp" proof snapshot

def parseStoredPolicyEvidence (H : HashFunction) (proof : PolicyHeadProofEvidence)
    (snapshot : LockedApplicationAppendSnapshot) : Except Failure PolicyHeadProofEvidence :=
  policyEvidenceFor H "stored policy evidence verification time" proof snapshot

/-- The policy head with the evaluation proof in place of the stored one. -/
def overlayProof (proof : PolicyHeadProofEvidence) (policyHead : LockedWitnessedPolicyHead) :
    LockedWitnessedPolicyHead :=
  { policyHead with
    deliveryLogPosition := proof.deliveryLogPosition
    deliveryLogHeadHash := proof.deliveryLogHeadHash
    evaluationLogPosition := proof.evaluationLogPosition
    evaluationLogHeadHash := proof.evaluationLogHeadHash
    signedBodySha256 := proof.signedBodySha256
    signerKeyId := proof.signerKeyId
    signatureSha256 := proof.signatureSha256
    witnessEvidenceDigest := proof.witnessEvidenceDigest
    proofEvidenceDigest := proof.evidenceDigest
    policyConsistencyEvidenceDigest := proof.policyConsistencyEvidenceDigest
    proofVerifiedAt := proof.verifiedAt
    issuedAt := proof.issuedAt
    expiresAt := proof.expiresAt
    witnessState := .verified
    witnessCheckpointId := some proof.witnessCheckpointId
    witnessedPolicyHeadHash := some proof.witnessedPolicyHeadHash
    selectedSendGrantEvidenceDigest := proof.selectedSendGrantEvidenceDigest
    selectedSendGrantInclusionEvidenceDigest := proof.selectedSendGrantInclusionEvidenceDigest
    authorizedQuotaPolicyDigest := proof.authorizedQuotaPolicyDigest }

def refreshLockedApplicationAppendAuthorizationSnapshot (H : HashFunction)
    (persistedSnapshot : LockedApplicationAppendSnapshot) (proof : PolicyHeadProofEvidence) :
    Except Failure LockedApplicationAppendSnapshot := do
  let snapshot ← parseLockedApplicationAppendSnapshot H persistedSnapshot
  let proof ← parsePolicyHeadProofEvidence H proof (overlayExpectation snapshot proof.verifiedAt)
  parseLockedApplicationAppendSnapshot H
    { snapshot with policyHead := overlayProof proof snapshot.policyHead }

end JbChat.Store.Evidence
