/- source: src/production/storage/externalProposalStore.ts, storage/migrations/0001_spec_baseline.sql
   digest: Recording the external proposal of a live membership intent. -/

import JbChat.Store.LogWriter
import JbChat.Store.MembershipIntents
import JbChat.Store.SenderRotation

set_option autoImplicit false

namespace JbChat.Store.ExternalProposals

open Foundation.HashTrace
open Foundation.Transaction Delivery.ValueObjects Delivery.Instants Delivery.EnvelopeLog Tables
open Store.Authority Provisioning LogWriter MembershipIntents SenderRotation

structure RecordProposalInput where
  intentId : String
  publicMessage : Bytes
  authorizationRecordHash : Bytes
  signerExternalSenderCredentialId : String
  transparencyCheckpointId : String

def RecordProposalInput.wellFormed (input : RecordProposalInput) : Bool :=
  isLowercaseUuid input.intentId &&
    decide (input.publicMessage ≠ [] ∧ input.publicMessage.length ≤ 262144) &&
    decide (input.authorizationRecordHash.length = 32) &&
    isLowercaseUuid input.signerExternalSenderCredentialId &&
    isLowercaseUuid input.transparencyCheckpointId

inductive ProposalRefusal where
  | intentNotLive
  | signerCredentialInvalid
  | checkpointUnknown
  | logAuthorityUnavailable
  | malformedRequest

structure RecordedProposal where
  proposalId : String
  intentId : String
  envelopeId : String
  envelopePosition : Nat
  proposalHash : Bytes
  headHash : Bytes
  expiresAt : String

inductive ExternalProposalRecording where
  | recorded (proposal : RecordedProposal)
  | conflict
  | refused (reason : ProposalRefusal)

/-- The reading of the clock and the random ids. -/
structure ProposalEntropy where
  now : String
  envelopeId : String
  proposalId : String

section

/-- The rows that a recording rests on. -/
structure AdmittedProposal where
  intent : MembershipIntentRow
  conversation : ConversationRow
  credential : ExternalSenderCredentialRow
  signingKeyId : String

variable (H : HashFunction)

/-- The intent is requested or authorized, is not over, and has no proposal yet. -/
def proposableIntent (db : DeliveryDb) (now intentId : String) :
    Except ExternalProposalRecording MembershipIntentRow :=
  match onlyRow (db.membershipIntents.filter fun row => decide (row.intentId = intentId)) with
  | none => .error (.refused .intentNotLive)
  | some intent =>
    if (intent.state ≠ .requested ∧ intent.state ≠ .authorized) ∨ intent.expiresAt ≤ now then
      .error (.refused .intentNotLive)
    else if db.admission.externalProposals.any fun row => decide (row.intentId = intentId) then
      .error .conflict
    else .ok intent

/-- Everything a recording checks before its first write. -/
def admitProposal (db : DeliveryDb) (now : String) (input : RecordProposalInput) :
    Except ExternalProposalRecording AdmittedProposal := do
  let intent ← proposableIntent db now input.intentId
  match onlyRow (db.conversations.filter (isConversation intent.conversationId)) with
  | none => .error (.refused .intentNotLive)
  | some conversation =>
    match onlyRow (signerCredentials conversation.projectRefId
        input.signerExternalSenderCredentialId (dateParse now) db.policy) with
    | none => .error (.refused .signerCredentialInvalid)
    | some credential =>
      if ¬ hasPolicyLogCheckpoint input.transparencyCheckpointId db.policy then
        .error (.refused .checkpointUnknown)
      else
        match onlyRow (activeLogKeys db intent.conversationId now) with
        | none => .error (.refused .logAuthorityUnavailable)
        | some signingKeyId => .ok ⟨intent, conversation, credential, signingKeyId⟩

/-- The leaf of the proposal's envelope, at the next position of the log. -/
def proposalLeaf (entropy : ProposalEntropy) (input : RecordProposalInput)
    (admitted : AdmittedProposal) : EnvelopeLeafInput where
  conversationId := admitted.intent.conversationId
  position := admitted.conversation.lastPosition + 1
  envelopeId := entropy.envelopeId
  envelopeClass := .externalProposal
  sender := .entitlementSigner input.signerExternalSenderCredentialId
    admitted.credential.credentialFingerprint admitted.credential.signerGeneration
  epoch := admitted.conversation.epoch
  rosterVersion := admitted.conversation.rosterVersion
  contentType := .publicMessage
  envelopeSha256 := computeEnvelopeSha256 H input.publicMessage
  receivedAt := entropy.now

/-- `INSERT INTO external_proposals`: its keys. -/
def insertExternalProposal (row : ExternalProposalRow) (db : DeliveryDb) :
    Except Failure DeliveryDb :=
  if db.admission.externalProposals.any fun other => decide (other.proposalId = row.proposalId ∨
      other.intentId = row.intentId ∨ (other.conversationId = row.conversationId ∧
        (other.proposalHash = row.proposalHash ∨ other.envelopeId = row.envelopeId ∨
          other.envelopePosition = row.envelopePosition))) then
    .error (.sql "external_proposals_key")
  else .ok { db with
    admission := { db.admission with
      externalProposals := db.admission.externalProposals ++ [row] } }

def proposalRow (entropy : ProposalEntropy) (input : RecordProposalInput)
    (admitted : AdmittedProposal) (proposalHash : Bytes) : ExternalProposalRow where
  proposalId := entropy.proposalId
  proposalHash := proposalHash
  intentId := input.intentId
  conversationId := admitted.intent.conversationId
  envelopeId := entropy.envelopeId
  envelopePosition := admitted.conversation.lastPosition + 1
  baseEpoch := admitted.intent.baseEpoch
  publicMessage := input.publicMessage
  publicMessageSha256 := computeEnvelopeSha256 H input.publicMessage
  authorizationRecordHash := input.authorizationRecordHash
  signerExternalSenderCredentialId := input.signerExternalSenderCredentialId
  signerExternalSenderFingerprint := admitted.credential.credentialFingerprint
  signerGeneration := admitted.credential.signerGeneration
  transparencyCheckpointId := input.transparencyCheckpointId
  createdAt := entropy.now
  expiresAt := admitted.intent.expiresAt
  committedAt := none

/-- The writes of a recording. -/
def storeProposal (signer : LogSigner) (entropy : ProposalEntropy) (input : RecordProposalInput)
    (admitted : AdmittedProposal) : Tx DeliveryDb Failure ExternalProposalRecording := fun db => do
  let conversationId := admitted.intent.conversationId
  let draft ← draftEnvelope H (proposalLeaf H entropy input admitted) none input.publicMessage
    admitted.conversation.currentLogHeadHash admitted.signingKeyId
  let signature ← signer admitted.signingKeyId draft.logCheckpointDigest
  let db ← insertEnvelope (draft.row signature) db
  let db := updateConversation conversationId (advanceLog draft entropy.now) db
  let proposalHash ← computeExternalProposalHash H input.publicMessage
    input.authorizationRecordHash
  let db ← insertExternalProposal (proposalRow H entropy input admitted proposalHash) db
  let db := setIntentState (fun row => decide (row.intentId = input.intentId)) .proposed db
  let db ← insertPageEndProjectionFromRows conversationId draft.position entropy.now db
  let ((), db) ← refreshCustodySnapshotDigest H conversationId db
  .ok (.recorded
    { proposalId := entropy.proposalId
      intentId := input.intentId
      envelopeId := entropy.envelopeId
      envelopePosition := draft.position
      proposalHash := proposalHash
      headHash := draft.headHash
      expiresAt := admitted.intent.expiresAt }, db)

def recordProposalTx (signer : LogSigner) (entropy : ProposalEntropy)
    (input : RecordProposalInput) : Tx DeliveryDb Failure ExternalProposalRecording := fun db =>
  match admitProposal db entropy.now input with
  | .error outcome => .ok (outcome, db)
  | .ok admitted => storeProposal H signer entropy input admitted db

def recordProposal (signer : LogSigner) (entropy : ProposalEntropy) (input : RecordProposalInput)
    (db : DeliveryDb) : Except Failure ExternalProposalRecording × DeliveryDb :=
  if input.wellFormed then sqlBegin (recordProposalTx H signer entropy input) db
  else (.ok (.refused .malformedRequest), db)

end

end JbChat.Store.ExternalProposals
