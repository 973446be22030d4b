/- source: src/production/delivery/ports.ts, service.ts, appendPersistence.ts
   digest: The pending and accepted intents of the append lane. -/

import JbChat.Delivery.Fanout
import JbChat.Delivery.PendingExpiry
import JbChat.Store.Evidence

/-!
The resolutions of the signer and the evidence of their verification are read by their
parsers only. What these decide on is carried as its JSON text, and the parsers are the
fields of `DocumentChecks`: each accepts a document or throws.
-/

set_option autoImplicit false

namespace JbChat.Store.Documents

open Foundation.HashTrace Foundation.LengthPrefix
open Delivery.ValueObjects Delivery.Hashes Delivery.Snapshot Delivery.Quota Delivery.SnapshotParse
open Delivery.Fanout Commands Evidence

structure ApplicationAppendReservationFence where
  generation : Nat
  token : Bytes
deriving DecidableEq

def parseApplicationAppendReservationFence (value : ApplicationAppendReservationFence) :
    Except Failure ApplicationAppendReservationFence := do
  let token ← checkHash32 value.token "application append fence token"
  if token = zeroHash then
    .error (.invalid "Application append fence token cannot be the reserved zero hash.")
  else
    let generation ← parsePositiveUint63 value.generation "application append fence generation"
    .ok ⟨generation, token⟩

def fenceTokenHashDomain : String := "jb-msg-application-append-fence-token-hash/v1"

def computeApplicationAppendFenceTokenHash (H : HashFunction) (token : Bytes) : Bytes :=
  sha256Bytes H [utf8 fenceTokenHashDomain, lengthPrefixed [token]]

def fenceTokenHashOf (H : HashFunction) (fence : ApplicationAppendReservationFence) : Bytes :=
  computeApplicationAppendFenceTokenHash H fence.token

structure DurableSignedResolution where
  checkpointSignature : Bytes
  unread : String

inductive SignerFenceStatus where
  | signed
  | cancelled
deriving DecidableEq

structure SignerFenceResolution where
  status : SignerFenceStatus
  unread : String

structure VerificationEvidence where
  verifiedAt : String
  unread : String

structure UnsignedStoredApplicationEnvelope where
  conversationId : String
  position : Nat
  envelopeId : String
  envelopeBytes : Bytes
  envelopeSha256 : Bytes
  epoch : Nat
  rosterVersion : Nat
  sender : InstallationEnvelopeSender
  receivedAt : String
  leafHash : Bytes
  previousHeadHash : Bytes
  headHash : Bytes
  logSigningKeyId : String
  logCheckpointDigest : Bytes

structure StoredApplicationEnvelope extends UnsignedStoredApplicationEnvelope where
  logHeadSignature : Bytes

structure LockedApplicationAppendCommitProjection where
  conversation : LockedConversationState
  usage : LockedConversationUsage
  quotaCapacityReservations : List ApplicationAppendQuotaCapacityReservation
deriving DecidableEq

structure PendingApplicationAppendIntent where
  admissionCommand : AtomicApplicationAppendCommand
  admissionCommandDigest : Bytes
  semanticIdentityDigest : Bytes
  expectedSnapshotDigest : Bytes
  persistedSnapshot : LockedApplicationAppendSnapshot
  expectedAuthorizationSnapshotDigest : Bytes
  priorSnapshot : LockedApplicationAppendSnapshot
  expectation : ApplicationAppendExpectation
  attachmentByteLength : Nat
  admissionStartedAt : String
  pendingExpiresAt : String
  activeSigningKeyValidUntil : String
  reservationFence : ApplicationAppendReservationFence
  mlsRosterProjections : List ApplicationAppendMlsRosterProjection
  recipientProjections : List ApplicationAppendRecipientProjection
  fanoutPlan : ApplicationAppendFanoutPlan
  commitProjection : LockedApplicationAppendCommitProjection
  postReservationQuotas : List LockedQuotaCounter
  envelope : UnsignedStoredApplicationEnvelope
  wireInspectionEvidence : MlsApplicationWireInspectionEvidence
  policyHeadProofEvidence : PolicyHeadProofEvidence
  preparationDigest : Bytes
  intentDigest : Bytes

structure AcceptedApplicationAppendIntent where
  admissionCommand : AtomicApplicationAppendCommand
  intentDigest : Bytes
  unread : String

structure StoredAcceptance where
  acceptedIntent : AcceptedApplicationAppendIntent
  envelope : StoredApplicationEnvelope
  signatureEvidence : VerificationEvidence
  signerFenceEvidence : VerificationEvidence
  fanoutEvidence : String
  finalizedAt : String

/-- The parsers that are not embedded. -/
structure DocumentChecks where
  signedFenceResolution : DurableSignedResolution → PendingApplicationAppendIntent →
    Except Failure Unit
  signedFenceEvidence : VerificationEvidence → DurableSignedResolution → Except Failure Unit
  storedEnvelope : StoredApplicationEnvelope → DeliveryLimits → Except Failure Unit
  signatureEvidence : VerificationEvidence → StoredApplicationEnvelope → Except Failure Unit
  cancellationResolution : SignerFenceResolution → PendingApplicationAppendIntent →
    Except Failure Unit
  cancellationEvidence : VerificationEvidence → SignerFenceResolution → Except Failure Unit
  acceptedIntent : PendingApplicationAppendIntent → DurableSignedResolution →
    Except Failure String
  fanoutEvidence : ApplicationAppendFanoutPlan → StoredApplicationEnvelope → Except Failure String

end JbChat.Store.Documents
