/- source: src/production/delivery/hashes.ts, valueObjects.ts
   digest: The hashes that chain the envelopes of a conversation. -/

import JbChat.Delivery.SnapshotDigest

set_option autoImplicit false

namespace JbChat.Delivery.EnvelopeLog

open Foundation Foundation.HashTrace Foundation.LengthPrefix Foundation.Transaction
open ValueObjects Hashes Instants Quota QuotaRules SnapshotParse

inductive EnvelopeClass where
  | externalProposal
  | mlsCommit
  | application
deriving DecidableEq

def EnvelopeClass.text : EnvelopeClass → String
  | .externalProposal => "external_proposal"
  | .mlsCommit => "mls_commit"
  | .application => "application"

inductive EnvelopeSender where
  | installation (accountId installationId : String)
  | entitlementSigner (credentialId : String) (fingerprint : Bytes) (signerGeneration : Nat)
deriving DecidableEq

def EnvelopeSender.type : EnvelopeSender → String
  | .installation _ _ => "installation"
  | .entitlementSigner _ _ _ => "entitlement_signer"

def EnvelopeSender.isInstallation : EnvelopeSender → Bool
  | .installation _ _ => true
  | .entitlementSigner _ _ _ => false

/-- `MLS_PUBLIC_MESSAGE_MEDIA_TYPE` and `MLS_PRIVATE_MESSAGE_MEDIA_TYPE` -/
inductive EnvelopeContentType where
  | publicMessage
  | privateMessage
deriving DecidableEq

def EnvelopeContentType.text : EnvelopeContentType → String
  | .publicMessage => "application/vnd.juicebox.messaging.mls-public-message"
  | .privateMessage => "application/vnd.juicebox.messaging.mls-private-message"

structure EnvelopeLeafInput where
  conversationId : String
  position : Nat
  envelopeId : String
  envelopeClass : EnvelopeClass
  sender : EnvelopeSender
  epoch : Nat
  rosterVersion : Nat
  contentType : EnvelopeContentType
  envelopeSha256 : Bytes
  receivedAt : String
deriving DecidableEq

def parseEnvelopeSender (sender : EnvelopeSender) (label : String) :
    Except Failure EnvelopeSender :=
  match sender with
  | .installation accountId installationId => checked sender [
      pass (parseUuidV4 accountId (label ++ ".accountId")),
      pass (parseUuidV4 installationId (label ++ ".installationId"))]
  | .entitlementSigner credentialId fingerprint signerGeneration => checked sender [
      pass (parsePositiveUint63 signerGeneration (label ++ ".signerGeneration")),
      pass (parseUuidV4 credentialId (label ++ ".credentialId")),
      pass (checkHash32 fingerprint (label ++ ".fingerprint"))]

def requireClassSenderAndMediaType (envelopeClass : EnvelopeClass) (sender : EnvelopeSender)
    (contentType : EnvelopeContentType) : Except Failure Unit :=
  match envelopeClass with
  | .externalProposal =>
    refuse (sender.isInstallation = true ∨ contentType ≠ .publicMessage)
      "external_proposal requires an entitlement signer and public MLS media type."
  | .mlsCommit =>
    refuse (sender.isInstallation = false ∨ contentType ≠ .publicMessage)
      "mls_commit requires an installation sender and public MLS media type."
  | .application =>
    refuse (sender.isInstallation = false ∨ contentType ≠ .privateMessage)
      "application requires an installation sender and private MLS media type."

def parseEnvelopeLeafInput (input : EnvelopeLeafInput) : Except Failure EnvelopeLeafInput :=
  checked input [
    pass (parseEnvelopeSender input.sender "sender"),
    requireClassSenderAndMediaType input.envelopeClass input.sender input.contentType,
    pass (parseConversationId input.conversationId),
    pass (parsePositiveUint63 input.position "position"),
    pass (parseUuidV4 input.envelopeId "envelopeId"),
    pass (checkUint63 input.epoch "epoch"),
    pass (checkUint63 input.rosterVersion "rosterVersion"),
    pass (checkHash32 input.envelopeSha256 "envelopeSha256"),
    pass (parseRfc3339Millis input.receivedAt "receivedAt")]

/-- The inner encoding of the variant, which the leaf frames once more. -/
def encodeEnvelopeSenderFields : EnvelopeSender → Bytes
  | .installation accountId installationId =>
    lengthPrefixed [utf8 accountId, utf8 installationId]
  | .entitlementSigner credentialId fingerprint signerGeneration =>
    lengthPrefixed [utf8 credentialId, fingerprint, utf8 signerGeneration.repr]

def envelopeLeafHashDomain : String := "jb-msg-envelope-leaf/v1"

def computeEnvelopeLeafHash (H : HashFunction) (input : EnvelopeLeafInput) :
    Except Failure Bytes := do
  let parsed ← parseEnvelopeLeafInput input
  .ok (sha256Bytes H [utf8 envelopeLeafHashDomain,
    lengthPrefixed [utf8 parsed.conversationId, utf8 parsed.position.repr, utf8 parsed.envelopeId,
      utf8 parsed.envelopeClass.text, utf8 parsed.sender.type,
      encodeEnvelopeSenderFields parsed.sender, utf8 parsed.epoch.repr,
      utf8 parsed.rosterVersion.repr, utf8 parsed.contentType.text, parsed.envelopeSha256,
      utf8 parsed.receivedAt]])

section

variable (H : HashFunction)

def computeEnvelopeSha256 (envelopeBytes : Bytes) : Bytes := sha256Bytes H [envelopeBytes]

def logHeadHashDomain : String := "jb-msg-log-head/v1"

def computeLogHeadHash (previousHeadHash leafHash : Bytes) : Except Failure Bytes := do
  let previous ← checkHash32 previousHeadHash "previousHeadHash"
  let leaf ← checkHash32 leafHash "leafHash"
  .ok (sha256Bytes H [utf8 logHeadHashDomain, previous, leaf])

def externalProposalHashDomain : String := "jb-msg-external-proposal/v1"

def computeExternalProposalHash (publicMessage authorizationRecordHash : Bytes) :
    Except Failure Bytes := do
  let recordHash ← checkHash32 authorizationRecordHash "authorizationRecordHash"
  .ok (sha256Bytes H [utf8 externalProposalHashDomain, lengthPrefixed [publicMessage], recordHash])

/-- The checkpoint of a row, whose hashes the store passes on as their texts. -/
def logCheckpointDigest (conversationId : String) (position : Nat) (previousHeadHash headHash : Bytes)
    (signingKeyId : String) : Except Failure Bytes :=
  computeDeliveryLogCheckpointDigest H
    ⟨conversationId, position.repr, Base64Url.encode previousHeadHash, Base64Url.encode headHash,
      signingKeyId⟩

end

section

variable {H : HashFunction}

end

end JbChat.Delivery.EnvelopeLog
