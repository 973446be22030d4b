/- source: src/production/delivery/policyHeadIssuance.ts
   digest: The canonical body of a policy head and the hashes over it and its sets. -/

import JbChat.Delivery.SnapshotParse

set_option autoImplicit false

namespace JbChat.Delivery.PolicyHeadBody

open Foundation.HashTrace Foundation.LengthPrefix ValueObjects Hashes Snapshot

mutual

/-- The values a body is built from. -/
inductive JcsValue where
  | text (value : String)
  | array (entries : List JcsValue)
  | record (members : List JcsMember)

inductive JcsMember where
  | member (key : String) (value : JcsValue)

end

/-- A hexadecimal digit in lower case. -/
def hexDigit (n : Nat) : Char :=
  if n < 10 then Char.ofNat (48 + n) else Char.ofNat (87 + n)

/-- The characters `JSON.stringify` writes for one character. -/
def jsonEscape (c : Char) : List Char :=
  if c = '"' then ['\\', '"']
  else if c = '\\' then ['\\', '\\']
  else if c.toNat = 8 then ['\\', 'b']
  else if c.toNat = 9 then ['\\', 't']
  else if c.toNat = 10 then ['\\', 'n']
  else if c.toNat = 12 then ['\\', 'f']
  else if c.toNat = 13 then ['\\', 'r']
  else if c.toNat < 32 then
    ['\\', 'u', '0', '0', hexDigit (c.toNat / 16), hexDigit (c.toNat % 16)]
  else [c]

def jsonText (text : String) : String :=
  String.ofList ('"' :: (text.toList.flatMap jsonEscape ++ ['"']))

mutual

/-- Members are ordered by their keys; the keys of a body are ASCII. -/
def canonicalJcs : JcsValue → String
  | .text value => jsonText value
  | .array entries => "[" ++ String.intercalate "," (canonicalEntries entries) ++ "]"
  | .record members =>
    "\x7b" ++ String.intercalate "," (((canonicalMembers members).insertionSort
      fun a b => a.1 ≤ b.1).map fun pair => jsonText pair.1 ++ ":" ++ pair.2) ++ "\x7d"

def canonicalEntries : List JcsValue → List String
  | [] => []
  | entry :: entries => canonicalJcs entry :: canonicalEntries entries

def canonicalMembers : List JcsMember → List (String × String)
  | [] => []
  | .member key value :: members => (key, canonicalJcs value) :: canonicalMembers members

end

section

variable (H : HashFunction)

structure MandatoryProposalEntry where
  proposalId : String
  proposalHash : Bytes
deriving DecidableEq

structure SendGrantSetMemberEntry where
  grantEvidenceDigest : Bytes
  grantInclusionEvidenceDigest : Bytes
  installationId : String
  credentialId : String
  role : SendRole

def computeMandatoryProposalSetHash (proposals : List MandatoryProposalEntry) : Bytes :=
  sha256Bytes H [utf8 "jb-msg-mandatory-proposal-set/v1",
    lengthPrefixed (proposals.flatMap fun proposal =>
      [utf8 proposal.proposalId, proposal.proposalHash])]

def computeSendGrantSetHash (members : List SendGrantSetMemberEntry) : Bytes :=
  sha256Bytes H [utf8 "jb-msg-send-grant-set/v1",
    lengthPrefixed (members.flatMap fun member =>
      [member.grantEvidenceDigest, member.grantInclusionEvidenceDigest,
        utf8 member.installationId, utf8 member.credentialId, utf8 member.role.text])]

def policyHeadSignedBodyDomain : String := "jb-msg-policy-head/v1"

def computePolicyHeadHash (canonicalBody : Bytes) : Bytes :=
  sha256Bytes H [utf8 policyHeadSignedBodyDomain, [0], canonicalBody]

end

structure UnsignedBody where
  policyHeadId : String
  policyHeadSequence : Nat
  previousPolicyHeadHash : Bytes
  conversationId : String
  epoch : Nat
  rosterVersion : Nat
  rosterHash : Bytes
  confirmedTranscriptHash : Bytes
  policyId : String
  policyRevision : Nat
  policyHash : Bytes
  authorizedSendGrantSetHash : Bytes
  authorizedQuotaPolicyDigest : Bytes
  evaluatedChainId : String
  evaluatedBlock : Nat
  evaluatedBlockHash : Bytes
  mandatoryProposalSetHash : Bytes
  mandatoryProposals : List MandatoryProposalEntry
  activeExternalSenderCredentialId : String
  activeExternalSenderFingerprint : Bytes
  activeSignerGeneration : Nat
  directoryCheckpointId : String
  policyLogCheckpointId : String
  deliveryLogPosition : Nat
  deliveryLogHeadHash : Bytes
  evaluationLogPosition : Nat
  evaluationLogHeadHash : Bytes
  issuedAt : String
  expiresAt : String
  signerKeyId : String

private def text (key value : String) : JcsMember := .member key (.text value)

private def hash (key : String) (bytes : Bytes) : JcsMember :=
  .member key (.text (JbChat.Foundation.Base64Url.encode bytes))

private def number (key : String) (value : Nat) : JcsMember := .member key (.text value.repr)

def UnsignedBody.members (body : UnsignedBody) : List JcsMember :=
  [text "policyHeadId" body.policyHeadId,
    number "policyHeadSequence" body.policyHeadSequence,
    hash "previousPolicyHeadHash" body.previousPolicyHeadHash,
    text "conversationId" body.conversationId,
    number "epoch" body.epoch,
    number "rosterVersion" body.rosterVersion,
    hash "rosterHash" body.rosterHash,
    hash "confirmedTranscriptHash" body.confirmedTranscriptHash,
    text "policyId" body.policyId,
    number "policyRevision" body.policyRevision,
    hash "policyHash" body.policyHash,
    hash "authorizedSendGrantSetHash" body.authorizedSendGrantSetHash,
    hash "authorizedQuotaPolicyDigest" body.authorizedQuotaPolicyDigest,
    text "evaluatedChainId" body.evaluatedChainId,
    number "evaluatedBlock" body.evaluatedBlock,
    hash "evaluatedBlockHash" body.evaluatedBlockHash,
    number "mandatoryProposalCount" body.mandatoryProposals.length,
    hash "mandatoryProposalSetHash" body.mandatoryProposalSetHash,
    .member "mandatoryProposals" (.array (body.mandatoryProposals.map fun proposal =>
      .record [text "proposalId" proposal.proposalId, hash "proposalHash" proposal.proposalHash])),
    text "activeExternalSenderCredentialId" body.activeExternalSenderCredentialId,
    hash "activeExternalSenderFingerprint" body.activeExternalSenderFingerprint,
    number "activeSignerGeneration" body.activeSignerGeneration,
    text "directoryCheckpointId" body.directoryCheckpointId,
    text "policyLogCheckpointId" body.policyLogCheckpointId,
    number "deliveryLogPosition" body.deliveryLogPosition,
    hash "deliveryLogHeadHash" body.deliveryLogHeadHash,
    number "evaluationLogPosition" body.evaluationLogPosition,
    hash "evaluationLogHeadHash" body.evaluationLogHeadHash,
    text "issuedAt" body.issuedAt,
    text "expiresAt" body.expiresAt,
    text "signerKeyId" body.signerKeyId]

def UnsignedBody.canonical (body : UnsignedBody) : String := canonicalJcs (.record body.members)

end JbChat.Delivery.PolicyHeadBody
