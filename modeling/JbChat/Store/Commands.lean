/- source: src/production/delivery/service.ts, envelopes.ts, limits.ts, idempotency.ts
   digest: The append command, its parsers and its digests. -/

import JbChat.Delivery.EnvelopeLog

set_option autoImplicit false

namespace JbChat.Store.Commands

open Foundation.HashTrace Foundation.LengthPrefix
open Delivery.ValueObjects Delivery.Hashes Delivery.Snapshot Delivery.Quota Delivery.SnapshotParse
open Delivery.SnapshotDigest Delivery.EnvelopeLog

structure DeliveryLimits where
  applicationCiphertextDecodedMaxBytes : Nat
  externalProposalDecodedMaxBytes : Nat
  mlsCommitDecodedMaxBytes : Nat
  welcomeDecodedMaxBytes : Nat
  pageDecodedArtifactsMaxBytes : Nat
  pageSerializedResponseMaxBytes : Nat
  conversationEventsMaxPerPage : Nat
  mailboxEntriesMaxPerPage : Nat
  conversationRecipientInstallationsMax : Nat
  cursorMaxCharacters : Nat
  attachmentsMaxPerEnvelope : Nat

/-- `DELIVERY_LIMIT_KEYS` with the values of the record. -/
def DeliveryLimits.entries (limits : DeliveryLimits) : List (String × Nat) :=
  [("applicationCiphertextDecodedMaxBytes", limits.applicationCiphertextDecodedMaxBytes),
    ("externalProposalDecodedMaxBytes", limits.externalProposalDecodedMaxBytes),
    ("mlsCommitDecodedMaxBytes", limits.mlsCommitDecodedMaxBytes),
    ("welcomeDecodedMaxBytes", limits.welcomeDecodedMaxBytes),
    ("pageDecodedArtifactsMaxBytes", limits.pageDecodedArtifactsMaxBytes),
    ("pageSerializedResponseMaxBytes", limits.pageSerializedResponseMaxBytes),
    ("conversationEventsMaxPerPage", limits.conversationEventsMaxPerPage),
    ("mailboxEntriesMaxPerPage", limits.mailboxEntriesMaxPerPage),
    ("conversationRecipientInstallationsMax", limits.conversationRecipientInstallationsMax),
    ("cursorMaxCharacters", limits.cursorMaxCharacters),
    ("attachmentsMaxPerEnvelope", limits.attachmentsMaxPerEnvelope)]

/-- `DELIVERY_TESTED_CEILINGS` -/
def deliveryTestedCeilings : DeliveryLimits where
  applicationCiphertextDecodedMaxBytes := 65536
  externalProposalDecodedMaxBytes := 262144
  mlsCommitDecodedMaxBytes := 524288
  welcomeDecodedMaxBytes := 262144
  pageDecodedArtifactsMaxBytes := 4194304
  pageSerializedResponseMaxBytes := 8388608
  conversationEventsMaxPerPage := 500
  mailboxEntriesMaxPerPage := 100
  conversationRecipientInstallationsMax := 2500
  cursorMaxCharacters := 1024
  attachmentsMaxPerEnvelope := 10

/-- The base64url text of a page with its fixed framing and an allowance for each item. -/
def minimumSerializedDeliveryPageBytes (decodedArtifactBytes maximumPageItems : Nat) : Nat :=
  (decodedArtifactBytes * 4 + 2) / 3 + 4096 + 4096 * maximumPageItems

/-- Every limit under its ceiling, in the order of the keys. -/
def limitChecks (limits : DeliveryLimits) : List (Except Failure Unit) :=
  (limits.entries.zip deliveryTestedCeilings.entries).flatMap fun (entry, ceiling) =>
    [pass (checkUint63 entry.2 ("deliveryLimits." ++ entry.1)),
      refuse (entry.2 > ceiling.2)
        ("deliveryLimits." ++ entry.1 ++ " exceeds its reviewed ceiling.")]

def requirePositive (value : Nat) (key : String) : Except Failure Unit :=
  refuse (value = 0) ("deliveryLimits." ++ key ++ " must be greater than zero.")

def parseDeliveryLimits (limits : DeliveryLimits) : Except Failure DeliveryLimits :=
  checked limits (limitChecks limits ++ [
    requirePositive limits.pageDecodedArtifactsMaxBytes "pageDecodedArtifactsMaxBytes",
    requirePositive limits.pageSerializedResponseMaxBytes "pageSerializedResponseMaxBytes",
    requirePositive limits.conversationEventsMaxPerPage "conversationEventsMaxPerPage",
    requirePositive limits.mailboxEntriesMaxPerPage "mailboxEntriesMaxPerPage",
    requirePositive limits.conversationRecipientInstallationsMax
      "conversationRecipientInstallationsMax",
    refuse (limits.cursorMaxCharacters < 43)
      "deliveryLimits.cursorMaxCharacters cannot hold a canonical cc1 cursor.",
    refuse (limits.pageDecodedArtifactsMaxBytes <
        max (max limits.applicationCiphertextDecodedMaxBytes limits.externalProposalDecodedMaxBytes)
          (limits.mlsCommitDecodedMaxBytes + limits.welcomeDecodedMaxBytes))
      "deliveryLimits.pageDecodedArtifactsMaxBytes cannot contain one accepted artifact.",
    refuse (limits.pageSerializedResponseMaxBytes < minimumSerializedDeliveryPageBytes
        limits.pageDecodedArtifactsMaxBytes
        (max limits.conversationEventsMaxPerPage limits.mailboxEntriesMaxPerPage))
      "deliveryLimits.pageSerializedResponseMaxBytes cannot encode a maximum bounded page."])

theorem deliveryTestedCeilings_parse :
    parseDeliveryLimits deliveryTestedCeilings = .ok deliveryTestedCeilings := by
  refine checked_eq_ok.mpr ⟨?_, rfl⟩
  simp [limitChecks, DeliveryLimits.entries, deliveryTestedCeilings, requirePositive, pass_uint63,
    refuse_eq_ok, uint63Max, minimumSerializedDeliveryPageBytes]

def deliveryLimitsDigestDomain : String := "jb-msg-delivery-limits/v1"

def computeDeliveryLimitsDigest (H : HashFunction) (limits : DeliveryLimits) : Bytes :=
  sha256Bytes H [utf8 deliveryLimitsDigestDomain,
    lengthPrefixed (limits.entries.flatMap fun entry => [utf8 entry.1, utf8 entry.2.repr])]

structure InstallationEnvelopeSender where
  accountId : String
  installationId : String
deriving DecidableEq

def InstallationEnvelopeSender.sender (sender : InstallationEnvelopeSender) : EnvelopeSender :=
  .installation sender.accountId sender.installationId

/-- The content type of an append is always that of a private message. -/
structure ApplicationAppendBody where
  envelopeId : String
  policyHeadId : String
  policyHeadSequence : Nat
  policyHeadHash : Bytes
  expectedEpoch : Nat
  expectedRosterVersion : Nat
  expectedConfirmedTranscriptHash : Bytes
  ciphertext : Bytes
  envelopeSha256 : Bytes
  attachmentIds : List String
deriving DecidableEq

structure ApplicationEnvelopeSemanticIdentity where
  conversationId : String
  ifMatch : String
  authenticatedSender : InstallationEnvelopeSender
  append : ApplicationAppendBody
deriving DecidableEq

def maxApplicationEnvelopeBytes : Nat := 64 * 1024

def maxApplicationAttachments : Nat := 10

def checkByteLength (bytes : Bytes) (label : String) (minBytes maxBytes : Nat) :
    Except Failure Unit :=
  refuse (bytes.length < minBytes ∨ bytes.length > maxBytes)
    (label ++ " is not canonical base64url within the byte bounds.")

def parseApplicationAppendBody (H : HashFunction) (body : ApplicationAppendBody) :
    Except Failure ApplicationAppendBody :=
  checked body [
    refuse (body.attachmentIds.length > maxApplicationAttachments)
      "attachmentIds exceeds its maximum length.",
    pass (parseEach (fun id index => parseUuidV4 id ("attachmentIds[" ++ index.repr ++ "]"))
      body.attachmentIds 0),
    refuse (¬ body.attachmentIds.Nodup) "attachmentIds must not contain duplicates.",
    checkByteLength body.ciphertext "ciphertext" 1 maxApplicationEnvelopeBytes,
    pass (checkHash32 body.envelopeSha256 "envelopeSha256"),
    refuse (computeEnvelopeSha256 H body.ciphertext ≠ body.envelopeSha256)
      "envelopeSha256 does not match the exact ciphertext bytes.",
    pass (parseUuidV4 body.envelopeId "envelopeId"),
    pass (parseUuidV4 body.policyHeadId "policyHeadId"),
    pass (parsePositiveUint63 body.policyHeadSequence "policyHeadSequence"),
    pass (checkHash32 body.policyHeadHash "policyHeadHash"),
    pass (checkUint63 body.expectedEpoch "expectedEpoch"),
    pass (checkUint63 body.expectedRosterVersion "expectedRosterVersion"),
    pass (checkHash32 body.expectedConfirmedTranscriptHash "expectedConfirmedTranscriptHash")]

def parseApplicationEnvelopeSemanticIdentity (H : HashFunction)
    (identity : ApplicationEnvelopeSemanticIdentity) :
    Except Failure ApplicationEnvelopeSemanticIdentity :=
  checked identity [
    pass (parseEnvelopeSender identity.authenticatedSender.sender "sender"),
    pass (parseConversationId identity.conversationId),
    pass (parseConversationEtag identity.ifMatch),
    pass (parseApplicationAppendBody H identity.append)]

def applicationEnvelopeSemanticallyEqual (H : HashFunction)
    (left right : ApplicationEnvelopeSemanticIdentity) : Except Failure Bool := do
  let left ← parseApplicationEnvelopeSemanticIdentity H left
  let right ← parseApplicationEnvelopeSemanticIdentity H right
  .ok (decide (left = right))

def applicationEnvelopeSemanticDigestDomain : String :=
  "jb-msg-application-envelope-semantic-identity/v1"

/-- The source parses the identity first; every caller has parsed it already. -/
def computeApplicationEnvelopeSemanticIdentityDigest (H : HashFunction)
    (identity : ApplicationEnvelopeSemanticIdentity) : Bytes :=
  let append := identity.append
  sha256Bytes H [utf8 applicationEnvelopeSemanticDigestDomain,
    lengthPrefixed [utf8 identity.conversationId, utf8 identity.ifMatch, utf8 "installation",
      utf8 identity.authenticatedSender.accountId, utf8 identity.authenticatedSender.installationId,
      utf8 append.envelopeId, utf8 append.policyHeadId, utf8 append.policyHeadSequence.repr,
      append.policyHeadHash, utf8 append.expectedEpoch.repr, utf8 append.expectedRosterVersion.repr,
      append.expectedConfirmedTranscriptHash, utf8 EnvelopeContentType.privateMessage.text,
      append.ciphertext, append.envelopeSha256,
      lengthPrefixed (utf8 append.attachmentIds.length.repr :: append.attachmentIds.map utf8)]]

def enforceApplicationAppendDeliveryLimits (append : ApplicationAppendBody)
    (limits : DeliveryLimits) : Except Failure Unit :=
  if append.ciphertext.length > limits.applicationCiphertextDecodedMaxBytes then
    .error (.invalid "Ciphertext exceeds the authenticated manifest limit.")
  else if append.attachmentIds.length > limits.attachmentsMaxPerEnvelope then
    .error (.invalid "Attachment count exceeds the authenticated manifest limit.")
  else .ok ()

structure AtomicApplicationAppendCommand where
  realmId : String
  idempotencyKey : String
  requestCommitment : Bytes
  semanticIdentity : ApplicationEnvelopeSemanticIdentity
  authenticatedCredentialId : String
  authenticatedCredentialFingerprint : Bytes
  authenticatedCredentialRevocationVersion : Nat
  releaseProfileId : String
  deliveryLimitsDigest : Bytes
  releaseTrustRootDigest : Bytes
  deliveryLimits : DeliveryLimits

def AtomicApplicationAppendCommand.conversationId (command : AtomicApplicationAppendCommand) :
    String :=
  command.semanticIdentity.conversationId

def parseDeliveryRealmId (value : String) : Except Failure String :=
  if isSigningKeyId value then .ok value
  else .error (.invalid "Delivery realm ID must be bounded canonical lowercase ASCII.")

def isUuidV7 (text : String) : Bool := matchesEach (uuidTests '7') text.toList

def isHex (c : Char) : Bool := isLowerHex c || ('A' ≤ c && c ≤ 'F')

/-- `UUID_SHAPED` -/
def isUuidShaped (text : String) : Bool :=
  matchesEach (List.replicate 8 isHex ++ [(· == '-')] ++ List.replicate 4 isHex ++ [(· == '-')] ++
    List.replicate 4 isHex ++ [(· == '-')] ++ List.replicate 4 isHex ++ [(· == '-')] ++
    List.replicate 12 isHex) text.toList

def parseIdempotencyKey (value label : String) : Except Failure String :=
  if isUuidV7 value then .ok value
  else if isUuidShaped value then
    .error (.invalid (label ++ " UUID form must be a lowercase canonical UUIDv7."))
  else parseCanonicalBase64Url value label 16 64

def parseAtomicApplicationAppendCommand (H : HashFunction)
    (command : AtomicApplicationAppendCommand) : Except Failure AtomicApplicationAppendCommand :=
  checked command [
    pass (parseDeliveryLimits command.deliveryLimits),
    pass (checkHash32 command.deliveryLimitsDigest "hash"),
    refuse (command.deliveryLimitsDigest ≠ computeDeliveryLimitsDigest H command.deliveryLimits)
      "Atomic command delivery limits digest is inconsistent.",
    pass (parseDeliveryRealmId command.realmId),
    pass (parseIdempotencyKey command.idempotencyKey "Idempotency-Key"),
    pass (checkHash32 command.requestCommitment "hash"),
    pass (parseApplicationEnvelopeSemanticIdentity H command.semanticIdentity),
    pass (parseUuidV4 command.authenticatedCredentialId "credentialId"),
    pass (checkHash32 command.authenticatedCredentialFingerprint "fingerprint"),
    pass (parsePositiveUint63 command.authenticatedCredentialRevocationVersion
      "authenticated credential revocation version"),
    pass (parseKeyText command.releaseProfileId "releaseProfileId"),
    pass (checkHash32 command.releaseTrustRootDigest "hash")]

def atomicApplicationAppendCommandDigestDomain : String :=
  "jb-msg-atomic-application-append-command/v1"

/-- The source parses the command first; every caller has parsed it already. -/
def computeAtomicApplicationAppendCommandDigest (H : HashFunction)
    (command : AtomicApplicationAppendCommand) : Bytes :=
  sha256Bytes H [utf8 atomicApplicationAppendCommandDigestDomain,
    lengthPrefixed [utf8 command.realmId, utf8 command.idempotencyKey, command.requestCommitment,
      computeApplicationEnvelopeSemanticIdentityDigest H command.semanticIdentity,
      utf8 command.authenticatedCredentialId, command.authenticatedCredentialFingerprint,
      utf8 command.authenticatedCredentialRevocationVersion.repr, utf8 command.releaseProfileId,
      command.deliveryLimitsDigest, command.releaseTrustRootDigest,
      lengthPrefixed (command.deliveryLimits.entries.flatMap fun entry =>
        [utf8 entry.1, utf8 entry.2.repr])]]

def httpIdempotencyScopeKey (command : AtomicApplicationAppendCommand) : String :=
  let identity := command.semanticIdentity
  "\x00".intercalate [command.realmId, identity.authenticatedSender.accountId,
    identity.authenticatedSender.installationId, "POST",
    "/v1/conversations/\x7bconversationId\x7d/envelopes", identity.conversationId,
    command.idempotencyKey]

def httpScopeHash (H : HashFunction) (command : AtomicApplicationAppendCommand) : Bytes :=
  sha256Bytes H [utf8 (httpIdempotencyScopeKey command)]

def commandTrustMatchesSnapshot (command : AtomicApplicationAppendCommand)
    (snapshot : LockedApplicationAppendSnapshot) : Bool :=
  let conversation := snapshot.conversation
  decide (command.realmId = conversation.realmId ∧
    command.releaseProfileId = conversation.releaseProfileId ∧
    command.deliveryLimitsDigest = conversation.deliveryLimitsDigest ∧
    command.releaseTrustRootDigest = conversation.releaseTrustRootDigest)

end JbChat.Store.Commands
