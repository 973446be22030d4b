/- source: src/production/delivery/sync.ts
   digest: The evidence of a verified prefix of a conversation, and the byte string it hashes. -/

import JbChat.Foundation.Traversal
import JbChat.Http.CursorTokens

set_option autoImplicit false

namespace JbChat.Http.VerifiedPrefix

open Foundation.HashTrace Foundation.LengthPrefix Foundation.Transaction Foundation.Traversal
open Delivery.ValueObjects Delivery.Hashes Delivery.Instants Delivery.Quota Delivery.QuotaRules
open Delivery.SnapshotParse Delivery.SnapshotDigest Store.Commands ConversationCursors CursorTokens

inductive MembershipBootstrapMode where
  | creator
  | welcome
deriving DecidableEq

def MembershipBootstrapMode.text : MembershipBootstrapMode → String
  | .creator => "creator"
  | .welcome => "welcome"

structure ConversationMembershipWindow where
  bootstrapMode : MembershipBootstrapMode
  credentialId : String
  credentialFingerprint : Bytes
  joinedPosition : Nat
  removedPosition : Option Nat

structure ConversationHeadAnchor where
  position : Nat
  previousHeadHash : Bytes
  headHash : Bytes
  checkpointReceivedAt : Option String

structure DeliveryWitnessConsistencyAnchor where
  witnessCheckpointId : String
  witnessTreeSize : Nat
  witnessRootHash : Bytes
  witnessedAt : String

structure ConversationPolicyConsistencyAnchor where
  policyHeadSequence : Nat
  policyHeadHash : Bytes
  witnessCheckpointId : String
  witnessEvidenceDigest : Bytes

structure ConversationMlsProjection where
  epoch : Nat
  rosterVersion : Nat
  confirmedTranscriptHash : Bytes

structure PolicyMandatoryProposalBinding where
  proposalId : String
  proposalHash : Bytes

structure ConversationPolicyProjection where
  etag : String
  policyHeadId : String
  policyRevision : Nat
  policyMandatoryProposalCount : Nat
  policyMandatoryProposalSetHash : Bytes
  policyMandatoryProposals : List PolicyMandatoryProposalBinding
  policyAuthorizedSendGrantSetHash : Bytes
  policyAuthorizedQuotaPolicyDigest : Bytes
  policyHeadSequence : Nat
  policyHeadHash : Bytes
  policyDeliveryLogPosition : Nat
  policyDeliveryLogHeadHash : Bytes
  policyWitnessCheckpointId : String
  policyWitnessEvidenceDigest : Bytes

structure ConversationMlsCommitSenderBinding where
  accountId : String
  installationId : String
  credentialId : String
  credentialFingerprint : Bytes
  credentialRevocationVersion : Nat
  senderGeneration : Nat
  activeFromPosition : Nat
  inactiveAtPosition : Option Nat

inductive ProposalType where
  | add
  | remove
deriving DecidableEq

def ProposalType.text : ProposalType → String
  | .add => "add"
  | .remove => "remove"

inductive ProposalRequirement where
  | mandatory
  | optional
deriving DecidableEq

def ProposalRequirement.text : ProposalRequirement → String
  | .mandatory => "mandatory"
  | .optional => "optional"

structure MlsStagedExternalProposalBinding where
  position : Nat
  envelopeId : String
  envelopeSha256 : Bytes
  epoch : Nat
  proposalId : String
  proposalHash : Bytes
  authorizationRecordHash : Bytes
  membershipIntentId : String
  membershipIntentHash : Bytes
  membershipIntentEvidenceDigest : Bytes
  proposalType : ProposalType
  proposalRequirement : ProposalRequirement
  authorizingPolicyHeadSequence : Nat
  authorizingPolicyHeadHash : Bytes

structure ConversationVerifiedPrefixEvidenceInput where
  cursorContext : ConversationCursorContext
  membership : ConversationMembershipWindow
  anchor : ConversationHeadAnchor
  trustedWitnessAnchor : DeliveryWitnessConsistencyAnchor
  trustedPolicyAnchor : ConversationPolicyConsistencyAnchor
  mlsProjectionAtAnchor : ConversationMlsProjection
  policyProjectionAtAnchor : ConversationPolicyProjection
  mlsCommitSenderBindings : List ConversationMlsCommitSenderBinding
  stagedProposalsAtAnchor : List MlsStagedExternalProposalBinding
  conversationGeneration : Nat
  releaseProfileId : String
  deliveryLimitsDigest : Bytes
  releaseTrustRootDigest : Bytes
  expectedGroupIdHash : Bytes

section

variable (H : HashFunction)

/-- `ZERO_HASH32` -/
def zeroHash32Bytes : Bytes := List.replicate 32 0

def conversationPageHardMaxEvents : Nat := 500

def parseUuidV7 (value label : String) : Except Failure String :=
  if isUuidV7 value then .ok value
  else .error (.invalid (label ++ " must be a lowercase canonical UUIDv7."))

/-- `expectDenseArray`; a list is dense. -/
def checkItemCount {α : Type} (value : List α) (maximum : Nat) (label : String) :
    Except Failure Unit :=
  refuse (value.length > maximum) (label ++ " exceeds the item-count bound.")

def parseMembershipWindow (membership : ConversationMembershipWindow) :
    Except Failure ConversationMembershipWindow :=
  checked membership [
    pass (parsePositiveUint63 membership.joinedPosition "joined position"),
    pass (parseNullable (fun position => parsePositiveUint63 position "removed position")
      membership.removedPosition),
    refuse (membership.removedPosition.any (· < membership.joinedPosition) = true)
      "Removal position cannot precede join position.",
    pass (parseUuidV4 membership.credentialId "credentialId"),
    pass (checkHash32 membership.credentialFingerprint "fingerprint")]

def parseHeadAnchor (anchor : ConversationHeadAnchor) : Except Failure ConversationHeadAnchor :=
  checked anchor [
    pass (checkUint63 anchor.position "anchor position"),
    pass (checkHash32 anchor.previousHeadHash "anchor previous hash"),
    pass (checkHash32 anchor.headHash "anchor head hash"),
    pass (parseNullable (fun time => parseRfc3339Millis time "anchor checkpoint receivedAt")
      anchor.checkpointReceivedAt)]

def parseWitnessConsistencyAnchor (anchor : DeliveryWitnessConsistencyAnchor) :
    Except Failure DeliveryWitnessConsistencyAnchor :=
  checked anchor [
    pass (parseUuidV4 anchor.witnessCheckpointId "witnessCheckpointId"),
    pass (checkUint63 anchor.witnessTreeSize "prior witness tree size"),
    pass (checkHash32 anchor.witnessRootHash "prior witness root hash"),
    pass (parseRfc3339Millis anchor.witnessedAt "prior witness time")]

def parsePolicyConsistencyAnchor (anchor : ConversationPolicyConsistencyAnchor) :
    Except Failure ConversationPolicyConsistencyAnchor :=
  checked anchor [
    pass (checkUint63 anchor.policyHeadSequence "trusted policy-head sequence"),
    pass (checkHash32 anchor.policyHeadHash "trusted policy-head hash"),
    pass (parseUuidV4 anchor.witnessCheckpointId "witnessCheckpointId"),
    pass (checkHash32 anchor.witnessEvidenceDigest "trusted policy witness evidence digest"),
    refuse (¬ (anchor.policyHeadSequence = 0 ↔ anchor.policyHeadHash = zeroHash32Bytes))
      "Trusted policy anchor has an invalid zero-sequence sentinel."]

def parseConversationMlsProjection (projection : ConversationMlsProjection) :
    Except Failure ConversationMlsProjection :=
  checked projection [
    pass (checkUint63 projection.epoch "projection anchor epoch"),
    pass (checkUint63 projection.rosterVersion "projection anchor roster version"),
    pass (checkHash32 projection.confirmedTranscriptHash
      "projection anchor confirmed transcript hash")]

def policyMandatoryProposalSetHashDomain : String := "jb-msg-policy-mandatory-proposal-set/v1"

def mandatoryProposalFields (proposal : PolicyMandatoryProposalBinding) : List Bytes :=
  [utf8 proposal.proposalId, proposal.proposalHash]

def computePolicyMandatoryProposalSetHash (proposals : List PolicyMandatoryProposalBinding) :
    Except Failure Bytes :=
  if proposals.length > mandatoryProposalsMax then
    .error (.invalid "Mandatory proposal queue exceeds its protocol bound.")
  else if proposals.length = 0 then .ok zeroHash32Bytes
  else .ok (sha256Bytes H [utf8 policyMandatoryProposalSetHashDomain,
    lengthPrefixed (proposals.flatMap mandatoryProposalFields)])

/-- The proposals in order, each against those in front of it. -/
def checkMandatoryProposals (label : String) (seen : List PolicyMandatoryProposalBinding) :
    List PolicyMandatoryProposalBinding → Except Failure Unit
  | [] => .ok ()
  | proposal :: proposals => do
    pass (parseUuidV7 proposal.proposalId "proposalId")
    pass (checkHash32 proposal.proposalHash (label ++ " hash"))
    refuse (proposal.proposalId ∈ seen.map (·.proposalId) ∨
      proposal.proposalHash ∈ seen.map (·.proposalHash))
      (label ++ " must contain unique ID/hash pairs.")
    checkMandatoryProposals label (proposal :: seen) proposals

def parsePolicyMandatoryProposals (proposals : List PolicyMandatoryProposalBinding)
    (label : String) : Except Failure (List PolicyMandatoryProposalBinding) :=
  checked proposals [
    checkItemCount proposals mandatoryProposalsMax label,
    checkMandatoryProposals label [] proposals]

def validatePolicyMandatoryProposalProjection (count : Nat) (setHash : Bytes)
    (proposals : List PolicyMandatoryProposalBinding) : Except Failure Unit := do
  if count ≠ proposals.length then
    .error (.invalid "Policy mandatory proposal projection is inconsistent.")
  else
    let expected ← computePolicyMandatoryProposalSetHash H proposals
    refuse (setHash ≠ expected) "Policy mandatory proposal projection is inconsistent."

def parseConversationPolicyProjection (projection : ConversationPolicyProjection) :
    Except Failure ConversationPolicyProjection :=
  checked projection [
    pass (checkUint63 projection.policyDeliveryLogPosition
      "policy projection delivery-log position"),
    pass (checkHash32 projection.policyDeliveryLogHeadHash
      "policy projection delivery-log head hash"),
    refuse (¬ (projection.policyDeliveryLogPosition = 0 ↔
        projection.policyDeliveryLogHeadHash = zeroHash32Bytes))
      "Policy projection has an invalid delivery-log sentinel.",
    pass (checkUint63 projection.policyMandatoryProposalCount "policy mandatory proposal count"),
    pass (checkHash32 projection.policyMandatoryProposalSetHash
      "policy mandatory proposal set hash"),
    pass (parsePolicyMandatoryProposals projection.policyMandatoryProposals
      "policy mandatory proposals"),
    validatePolicyMandatoryProposalProjection H projection.policyMandatoryProposalCount
      projection.policyMandatoryProposalSetHash projection.policyMandatoryProposals,
    pass (parseConversationEtag projection.etag),
    pass (parseUuidV4 projection.policyHeadId "policyHeadId"),
    pass (parsePositiveUint63 projection.policyRevision "policy revision"),
    pass (checkHash32 projection.policyAuthorizedSendGrantSetHash
      "policy authorized send-grant set hash"),
    pass (checkHash32 projection.policyAuthorizedQuotaPolicyDigest
      "policy authorized quota policy digest"),
    pass (parsePositiveUint63 projection.policyHeadSequence "policy projection head sequence"),
    pass (parseNonZeroHash32 projection.policyHeadHash "policy projection head hash"),
    pass (parseUuidV4 projection.policyWitnessCheckpointId "witnessCheckpointId"),
    pass (checkHash32 projection.policyWitnessEvidenceDigest
      "policy projection witness evidence digest")]

def parseMlsCommitSenderBinding (binding : ConversationMlsCommitSenderBinding) :
    Except Failure ConversationMlsCommitSenderBinding :=
  checked binding [
    pass (parsePositiveUint63 binding.activeFromPosition "MLS sender active-from position"),
    pass (parseNullable
      (fun position => parsePositiveUint63 position "MLS sender inactive-at position")
      binding.inactiveAtPosition),
    refuse (binding.inactiveAtPosition.any (· ≤ binding.activeFromPosition) = true)
      "MLS sender binding has an empty validity range.",
    pass (parseUuidV4 binding.accountId "accountId"),
    pass (parseUuidV4 binding.installationId "installationId"),
    pass (parseUuidV4 binding.credentialId "credentialId"),
    pass (checkHash32 binding.credentialFingerprint "fingerprint"),
    pass (checkUint63 binding.credentialRevocationVersion
      "MLS sender credential revocation version"),
    pass (parsePositiveUint63 binding.senderGeneration "MLS sender generation")]

/-- The end of a validity range; an open one ends behind every position. -/
def ConversationMlsCommitSenderBinding.rangeEnd (binding : ConversationMlsCommitSenderBinding) :
    Nat :=
  binding.inactiveAtPosition.getD 9223372036854775808

def Overlap (a b : ConversationMlsCommitSenderBinding) : Prop :=
  a.accountId = b.accountId ∧ a.installationId = b.installationId ∧
    a.activeFromPosition < b.rangeEnd ∧ b.activeFromPosition < a.rangeEnd

instance (a b : ConversationMlsCommitSenderBinding) : Decidable (Overlap a b) :=
  inferInstanceAs (Decidable (_ ∧ _ ∧ _ ∧ _))

def parseMlsCommitSenderBindings (bindings : List ConversationMlsCommitSenderBinding) :
    Except Failure (List ConversationMlsCommitSenderBinding) :=
  checked bindings [
    checkItemCount bindings conversationPageHardMaxEvents "MLS Commit sender bindings",
    pass (bindings.mapM parseMlsCommitSenderBinding),
    refuse (¬ bindings.Pairwise fun a b => ¬ Overlap a b)
      "MLS sender credential bindings overlap."]

def parseStagedProposalBinding (label : String) (proposal : MlsStagedExternalProposalBinding) :
    Except Failure MlsStagedExternalProposalBinding :=
  checked proposal [
    pass (parsePositiveUint63 proposal.position (label ++ " position")),
    pass (parseUuidV4 proposal.envelopeId "envelopeId"),
    pass (checkHash32 proposal.envelopeSha256 (label ++ " envelope SHA-256")),
    pass (checkUint63 proposal.epoch (label ++ " epoch")),
    pass (parseUuidV7 proposal.proposalId "proposalId"),
    pass (checkHash32 proposal.proposalHash (label ++ " proposal hash")),
    pass (checkHash32 proposal.authorizationRecordHash (label ++ " authorization-record hash")),
    pass (parseUuidV7 proposal.membershipIntentId "membershipIntentId"),
    pass (checkHash32 proposal.membershipIntentHash (label ++ " membership-intent hash")),
    pass (checkHash32 proposal.membershipIntentEvidenceDigest
      (label ++ " membership-intent evidence digest")),
    pass (parsePositiveUint63 proposal.authorizingPolicyHeadSequence
      (label ++ " policy sequence")),
    pass (checkHash32 proposal.authorizingPolicyHeadHash (label ++ " policy hash"))]

/-- The proposals in order, each against those in front of it, the last one first. -/
def checkStagedProposals (label : String) (seen : List MlsStagedExternalProposalBinding) :
    List MlsStagedExternalProposalBinding → Except Failure Unit
  | [] => .ok ()
  | proposal :: proposals => do
    pass (parseStagedProposalBinding label proposal)
    refuse (proposal.position ≤ (seen.map (·.position)).headD 0 ∨
      proposal.proposalId ∈ seen.map (·.proposalId) ∨
      proposal.proposalHash ∈ seen.map (·.proposalHash) ∨
      proposal.envelopeId ∈ seen.map (·.envelopeId) ∨
      proposal.membershipIntentHash = zeroHash32Bytes ∨
      proposal.membershipIntentEvidenceDigest = zeroHash32Bytes)
      (label ++ " must be ordered, unique, and intent-proved.")
    checkStagedProposals label (proposal :: seen) proposals

def parseStagedProposalBindings (proposals : List MlsStagedExternalProposalBinding)
    (label : String) : Except Failure (List MlsStagedExternalProposalBinding) :=
  checked proposals [
    checkItemCount proposals conversationPageHardMaxEvents label,
    checkStagedProposals label [] proposals]

end

section

variable (H : HashFunction)

def conversationVerifiedPrefixEvidenceDigestDomain : String :=
  "jb-msg-conversation-verified-prefix/v1"

def encodeNullableUtf8 (value : Option String) : Bytes := encodeNullable (value.map utf8)

def encodePolicyMandatoryProposals (proposals : List PolicyMandatoryProposalBinding) :
    List Bytes :=
  utf8 proposals.length.repr :: proposals.flatMap mandatoryProposalFields

def stagedProposalFields (proposal : MlsStagedExternalProposalBinding) : List Bytes :=
  [utf8 proposal.position.repr, utf8 proposal.envelopeId, proposal.envelopeSha256,
    utf8 proposal.epoch.repr, utf8 proposal.proposalId, proposal.proposalHash,
    proposal.authorizationRecordHash, utf8 proposal.membershipIntentId,
    proposal.membershipIntentHash, proposal.membershipIntentEvidenceDigest,
    utf8 proposal.proposalType.text, utf8 proposal.proposalRequirement.text,
    utf8 proposal.authorizingPolicyHeadSequence.repr, proposal.authorizingPolicyHeadHash]

def encodeStagedProposals (proposals : List MlsStagedExternalProposalBinding) : List Bytes :=
  utf8 proposals.length.repr :: proposals.flatMap stagedProposalFields

def senderBindingFields (binding : ConversationMlsCommitSenderBinding) : List Bytes :=
  [utf8 binding.accountId, utf8 binding.installationId, utf8 binding.credentialId,
    binding.credentialFingerprint, utf8 binding.credentialRevocationVersion.repr,
    utf8 binding.senderGeneration.repr, utf8 binding.activeFromPosition.repr,
    encodeNullableUtf8 (binding.inactiveAtPosition.map Nat.repr)]

/-- The inputs of the digest, parsed in the order of the source. -/
def parseVerifiedPrefixEvidenceInput (input : ConversationVerifiedPrefixEvidenceInput) :
    Except Failure ConversationVerifiedPrefixEvidenceInput :=
  checked input [
    pass (parseConversationCursorContext input.cursorContext),
    pass (parseMembershipWindow input.membership),
    pass (parseHeadAnchor input.anchor),
    pass (parseWitnessConsistencyAnchor input.trustedWitnessAnchor),
    pass (parsePolicyConsistencyAnchor input.trustedPolicyAnchor),
    pass (parseConversationMlsProjection input.mlsProjectionAtAnchor),
    pass (parseConversationPolicyProjection H input.policyProjectionAtAnchor),
    pass (parseMlsCommitSenderBindings input.mlsCommitSenderBindings),
    pass (parseStagedProposalBindings input.stagedProposalsAtAnchor
      "verified-prefix staged proposals"),
    pass (parsePositiveUint63 input.conversationGeneration "conversation generation"),
    pass (parseKeyText input.releaseProfileId "releaseProfileId"),
    pass (checkHash32 input.deliveryLimitsDigest "delivery limits digest"),
    pass (checkHash32 input.releaseTrustRootDigest "release trust-root digest"),
    pass (checkHash32 input.expectedGroupIdHash "expected MLS group ID hash")]

def contextFields (context : ConversationCursorContext) : List Bytes :=
  [utf8 context.realmId, utf8 context.accountId, utf8 context.installationId,
    utf8 context.conversationId, utf8 context.routeTemplate]

def releaseFields (input : ConversationVerifiedPrefixEvidenceInput) : List Bytes :=
  [utf8 input.conversationGeneration.repr, utf8 input.releaseProfileId,
    input.deliveryLimitsDigest, input.releaseTrustRootDigest, input.expectedGroupIdHash]

def membershipFields (membership : ConversationMembershipWindow) : List Bytes :=
  [utf8 membership.bootstrapMode.text, utf8 membership.credentialId,
    membership.credentialFingerprint, utf8 membership.joinedPosition.repr,
    encodeNullableUtf8 (membership.removedPosition.map Nat.repr)]

def anchorFields (anchor : ConversationHeadAnchor) : List Bytes :=
  [utf8 anchor.position.repr, anchor.previousHeadHash, anchor.headHash,
    encodeNullableUtf8 anchor.checkpointReceivedAt]

def projectionFields (projection : ConversationMlsProjection) : List Bytes :=
  [utf8 projection.epoch.repr, utf8 projection.rosterVersion.repr,
    projection.confirmedTranscriptHash]

def policyFields (projection : ConversationPolicyProjection) : List Bytes :=
  [utf8 projection.etag, utf8 projection.policyHeadId, utf8 projection.policyRevision.repr,
    utf8 projection.policyMandatoryProposalCount.repr, projection.policyMandatoryProposalSetHash]

def policyHeadFields (projection : ConversationPolicyProjection) : List Bytes :=
  [projection.policyAuthorizedSendGrantSetHash, projection.policyAuthorizedQuotaPolicyDigest,
    utf8 projection.policyHeadSequence.repr, projection.policyHeadHash,
    utf8 projection.policyDeliveryLogPosition.repr, projection.policyDeliveryLogHeadHash,
    utf8 projection.policyWitnessCheckpointId, projection.policyWitnessEvidenceDigest]

def witnessFields (witness : DeliveryWitnessConsistencyAnchor) : List Bytes :=
  [utf8 witness.witnessCheckpointId, utf8 witness.witnessTreeSize.repr, witness.witnessRootHash,
    utf8 witness.witnessedAt]

def policyAnchorFields (policy : ConversationPolicyConsistencyAnchor) : List Bytes :=
  [utf8 policy.policyHeadSequence.repr, policy.policyHeadHash, utf8 policy.witnessCheckpointId,
    policy.witnessEvidenceDigest]

def evidenceFields (parsed : ConversationVerifiedPrefixEvidenceInput) : List Bytes :=
  contextFields parsed.cursorContext ++ (releaseFields parsed ++
    (membershipFields parsed.membership ++ (anchorFields parsed.anchor ++
      (projectionFields parsed.mlsProjectionAtAnchor ++
        (policyFields parsed.policyProjectionAtAnchor ++
          (encodePolicyMandatoryProposals
              parsed.policyProjectionAtAnchor.policyMandatoryProposals ++
            (policyHeadFields parsed.policyProjectionAtAnchor ++
              (witnessFields parsed.trustedWitnessAnchor ++
                (policyAnchorFields parsed.trustedPolicyAnchor ++
                  (parsed.mlsCommitSenderBindings.flatMap senderBindingFields ++
                    encodeStagedProposals parsed.stagedProposalsAtAnchor))))))))))

def evidenceBytes (parsed : ConversationVerifiedPrefixEvidenceInput) : Bytes :=
  [utf8 conversationVerifiedPrefixEvidenceDigestDomain,
    lengthPrefixed (evidenceFields parsed)].flatten

def computeConversationVerifiedPrefixEvidenceDigest
    (input : ConversationVerifiedPrefixEvidenceInput) : Except Failure Bytes := do
  let parsed ← parseVerifiedPrefixEvidenceInput H input
  .ok (H.digest (evidenceBytes parsed))

end

section

variable {label : String} {value : Option String}

theorem pass_checked {α : Type} {row : α} {checks : List (Except Failure Unit)} :
    pass (checked row checks) = .ok () ↔ ∀ check ∈ checks, check = .ok () := by
  rw [pass_eq_ok]
  simp only [checked_eq_ok, exists_and_left, exists_eq, and_true]

theorem pass_uuidV7 {value : String} :
    pass (parseUuidV7 value label) = .ok () ↔ isUuidV7 value = true := by
  rw [pass_eq_ok]
  unfold parseUuidV7
  split_ifs with h <;> simp [h]

theorem sized_uuidV7 {value : String} (h : pass (parseUuidV7 value label) = .ok ()) :
    Sized (utf8 value) := by
  have hlength : value.toList.length = 36 := matchesEach_length (pass_uuidV7.mp h)
  exact sized_utf8 (by omega)

def ShortText (value : Option String) : Prop := ∀ text ∈ value, text.toList.length ≤ 64

theorem shortText_position {value : Option Nat}
    (h : pass (parseNullable (fun position => parsePositiveUint63 position label) value) = .ok ()) :
    ShortText (value.map Nat.repr) := by
  intro text htext
  obtain ⟨position, hposition, rfl⟩ := Option.mem_map.mp htext
  have bounded := pass_positive.mp (pass_parseNullable.mp h position hposition)
  have hdigits := repr_length_of_uint63 bounded.2
  omega

theorem shortText_instant
    (h : pass (parseNullable (fun time => parseRfc3339Millis time label) value) = .ok ()) :
    ShortText value := by
  intro text htext
  have hlength := isRfc3339Millis_length
    (pass_instant.mp (pass_parseNullable.mp h text htext))
  omega

theorem ShortText.bytes (short : ShortText value) :
    ∀ bytes ∈ value.map utf8, bytes.length ≤ 4096 := by
  intro bytes hbytes
  obtain ⟨text, htext, rfl⟩ := Option.mem_map.mp hbytes
  have hlength := utf8_length_le text
  have hshort := short text htext
  omega

theorem sized_nullable (short : ShortText value) :
    Sized (encodeNullableUtf8 value) :=
  encodeNullable_sized short.bytes

theorem nullable_injective {a b : Option String} (first : ShortText a) (second : ShortText b)
    (h : encodeNullableUtf8 a = encodeNullableUtf8 b) : a = b := by
  have sized : ∀ {value : Option String}, ShortText value →
      ∀ bytes ∈ value.map utf8, Sized bytes := by
    intro value short bytes hbytes
    have hlength := short.bytes bytes hbytes
    unfold Sized
    omega
  exact Option.map_injective (fun x y => utf8_injective)
    (encodeNullable_injective (sized first) (sized second) h)

theorem nullablePosition_injective {a b : Option Nat} (first : ShortText (a.map Nat.repr))
    (second : ShortText (b.map Nat.repr))
    (h : encodeNullableUtf8 (a.map Nat.repr) = encodeNullableUtf8 (b.map Nat.repr)) : a = b :=
  Option.map_injective (fun _ _ => repr_injective) (nullable_injective first second h)

end

theorem contextFields_sized {context : ConversationCursorContext}
    (h : pass (parseConversationCursorContext context) = .ok ()) :
    ∀ field ∈ contextFields context, Sized field := by
  obtain ⟨parsed, hparsed⟩ := pass_eq_ok.mp h
  have canonical := (parseContext_eq_ok.mp hparsed).1
  have ids : ∀ {text : String}, isUuidV4 text = true → Sized (utf8 text) := by
    intro text htext
    have hlength := isUuidV4_length htext
    exact sized_utf8 (by omega)
  have route : Sized (utf8 context.routeTemplate) := by
    rw [canonical.route]
    exact sized_utf8 (by decide)
  simp only [contextFields, List.forall_mem_cons]
  exact ⟨sized_keyId canonical.realm, ids canonical.account, ids canonical.installation,
    ids canonical.conversation, route, fun _ h => absurd h List.not_mem_nil⟩

theorem contextFields_injective {a b : ConversationCursorContext}
    (h : contextFields a = contextFields b) : a = b := by
  simp only [contextFields, List.cons.injEq, utf8_inj, and_true] at h
  rw [ConversationCursorContext.mk.injEq]
  exact h

theorem membershipFields_sized {membership : ConversationMembershipWindow}
    (h : pass (parseMembershipWindow membership) = .ok ()) :
    ∀ field ∈ membershipFields membership, Sized field := by
  have checks := pass_checked.mp h
  simp only [List.forall_mem_cons] at checks
  obtain ⟨joined, removed, -, credential, fingerprint, -⟩ := checks
  have mode : Sized (utf8 membership.bootstrapMode.text) :=
    sized_utf8 (by cases membership.bootstrapMode <;> decide)
  simp only [membershipFields, List.forall_mem_cons]
  exact ⟨mode, sized_uuid credential, sized_checkHash fingerprint, sized_positive joined,
    sized_nullable (shortText_position removed), fun _ h => absurd h List.not_mem_nil⟩

theorem mode_text_inj {a b : MembershipBootstrapMode} : a.text = b.text ↔ a = b := by
  cases a <;> cases b <;> decide

theorem membershipFields_injective {a b : ConversationMembershipWindow}
    (first : pass (parseMembershipWindow a) = .ok ())
    (second : pass (parseMembershipWindow b) = .ok ())
    (h : membershipFields a = membershipFields b) : a = b := by
  have checks := pass_checked.mp first
  have others := pass_checked.mp second
  simp only [List.forall_mem_cons] at checks others
  simp only [membershipFields, List.cons.injEq, utf8_inj, repr_inj, mode_text_inj, and_true] at h
  obtain ⟨mode, credential, fingerprint, joined, removed⟩ := h
  rw [ConversationMembershipWindow.mk.injEq]
  exact ⟨mode, credential, fingerprint, joined, nullablePosition_injective
    (shortText_position checks.2.1) (shortText_position others.2.1) removed⟩

theorem anchorFields_sized {anchor : ConversationHeadAnchor}
    (h : pass (parseHeadAnchor anchor) = .ok ()) : ∀ field ∈ anchorFields anchor, Sized field := by
  have checks := pass_checked.mp h
  simp only [List.forall_mem_cons] at checks
  obtain ⟨position, previous, head, received, -⟩ := checks
  simp only [anchorFields, List.forall_mem_cons]
  exact ⟨sized_uint63 position, sized_checkHash previous, sized_checkHash head,
    sized_nullable (shortText_instant received), fun _ h => absurd h List.not_mem_nil⟩

theorem anchorFields_injective {a b : ConversationHeadAnchor}
    (first : pass (parseHeadAnchor a) = .ok ()) (second : pass (parseHeadAnchor b) = .ok ())
    (h : anchorFields a = anchorFields b) : a = b := by
  have checks := pass_checked.mp first
  have others := pass_checked.mp second
  simp only [List.forall_mem_cons] at checks others
  simp only [anchorFields, List.cons.injEq, utf8_inj, repr_inj, and_true] at h
  obtain ⟨position, previous, head, received⟩ := h
  rw [ConversationHeadAnchor.mk.injEq]
  exact ⟨position, previous, head, nullable_injective (shortText_instant checks.2.2.2.1)
    (shortText_instant others.2.2.2.1) received⟩

theorem projectionFields_sized {projection : ConversationMlsProjection}
    (h : pass (parseConversationMlsProjection projection) = .ok ()) :
    ∀ field ∈ projectionFields projection, Sized field := by
  have checks := pass_checked.mp h
  simp only [List.forall_mem_cons] at checks
  obtain ⟨epoch, roster, transcript, -⟩ := checks
  simp only [projectionFields, List.forall_mem_cons]
  exact ⟨sized_uint63 epoch, sized_uint63 roster, sized_checkHash transcript,
    fun _ h => absurd h List.not_mem_nil⟩

theorem projectionFields_injective {a b : ConversationMlsProjection}
    (h : projectionFields a = projectionFields b) : a = b := by
  simp only [projectionFields, List.cons.injEq, utf8_inj, repr_inj, and_true] at h
  rw [ConversationMlsProjection.mk.injEq]
  exact h

theorem witnessFields_sized {witness : DeliveryWitnessConsistencyAnchor}
    (h : pass (parseWitnessConsistencyAnchor witness) = .ok ()) :
    ∀ field ∈ witnessFields witness, Sized field := by
  have checks := pass_checked.mp h
  simp only [List.forall_mem_cons] at checks
  obtain ⟨checkpoint, treeSize, root, time, -⟩ := checks
  simp only [witnessFields, List.forall_mem_cons]
  exact ⟨sized_uuid checkpoint, sized_uint63 treeSize, sized_checkHash root, sized_instant time,
    fun _ h => absurd h List.not_mem_nil⟩

theorem witnessFields_injective {a b : DeliveryWitnessConsistencyAnchor}
    (h : witnessFields a = witnessFields b) : a = b := by
  simp only [witnessFields, List.cons.injEq, utf8_inj, repr_inj, and_true] at h
  rw [DeliveryWitnessConsistencyAnchor.mk.injEq]
  exact h

theorem policyAnchorFields_sized {policy : ConversationPolicyConsistencyAnchor}
    (h : pass (parsePolicyConsistencyAnchor policy) = .ok ()) :
    ∀ field ∈ policyAnchorFields policy, Sized field := by
  have checks := pass_checked.mp h
  simp only [List.forall_mem_cons] at checks
  obtain ⟨sequence, hash, checkpoint, evidence, -⟩ := checks
  simp only [policyAnchorFields, List.forall_mem_cons]
  exact ⟨sized_uint63 sequence, sized_checkHash hash, sized_uuid checkpoint,
    sized_checkHash evidence, fun _ h => absurd h List.not_mem_nil⟩

theorem policyAnchorFields_injective {a b : ConversationPolicyConsistencyAnchor}
    (h : policyAnchorFields a = policyAnchorFields b) : a = b := by
  simp only [policyAnchorFields, List.cons.injEq, utf8_inj, repr_inj, and_true] at h
  rw [ConversationPolicyConsistencyAnchor.mk.injEq]
  exact h

section

variable {label : String} {binding : ConversationMlsCommitSenderBinding}

theorem mandatoryRows_sized {seen proposals : List PolicyMandatoryProposalBinding}
    (h : checkMandatoryProposals label seen proposals = .ok ()) :
    ∀ proposal ∈ proposals, ∀ field ∈ mandatoryProposalFields proposal, Sized field := by
  induction proposals generalizing seen with
  | nil => exact fun _ hmem => absurd hmem List.not_mem_nil
  | cons proposal proposals ih =>
    obtain ⟨_, hid, h1⟩ := bind_ok.mp h
    obtain ⟨_, hhash, h2⟩ := bind_ok.mp h1
    obtain ⟨_, -, hrest⟩ := bind_ok.mp h2
    rw [List.forall_mem_cons]
    refine ⟨?_, ih hrest⟩
    simp only [mandatoryProposalFields, List.forall_mem_cons]
    exact ⟨sized_uuidV7 hid, sized_checkHash hhash, fun _ hmem => absurd hmem List.not_mem_nil⟩

theorem mandatoryRow_injective {a b : PolicyMandatoryProposalBinding}
    (h : mandatoryProposalFields a = mandatoryProposalFields b) : a = b := by
  simp only [mandatoryProposalFields, List.cons.injEq, utf8_inj, and_true] at h
  rw [PolicyMandatoryProposalBinding.mk.injEq]
  exact h

theorem stagedRow_sized {proposal : MlsStagedExternalProposalBinding}
    (h : pass (parseStagedProposalBinding label proposal) = .ok ()) :
    ∀ field ∈ stagedProposalFields proposal, Sized field := by
  have checks := pass_checked.mp h
  simp only [List.forall_mem_cons] at checks
  obtain ⟨position, envelope, content, epoch, id, hash, record, intent, intentHash, evidence,
    sequence, headHash, -⟩ := checks
  have type : Sized (utf8 proposal.proposalType.text) :=
    sized_utf8 (by cases proposal.proposalType <;> decide)
  have requirement : Sized (utf8 proposal.proposalRequirement.text) :=
    sized_utf8 (by cases proposal.proposalRequirement <;> decide)
  simp only [stagedProposalFields, List.forall_mem_cons]
  exact ⟨sized_positive position, sized_uuid envelope, sized_checkHash content,
    sized_uint63 epoch, sized_uuidV7 id, sized_checkHash hash, sized_checkHash record,
    sized_uuidV7 intent, sized_checkHash intentHash, sized_checkHash evidence, type, requirement,
    sized_positive sequence, sized_checkHash headHash,
    fun _ hmem => absurd hmem List.not_mem_nil⟩

theorem stagedRows_sized {seen proposals : List MlsStagedExternalProposalBinding}
    (h : checkStagedProposals label seen proposals = .ok ()) :
    ∀ proposal ∈ proposals, ∀ field ∈ stagedProposalFields proposal, Sized field := by
  induction proposals generalizing seen with
  | nil => exact fun _ hmem => absurd hmem List.not_mem_nil
  | cons proposal proposals ih =>
    obtain ⟨_, hproposal, h1⟩ := bind_ok.mp h
    obtain ⟨_, -, hrest⟩ := bind_ok.mp h1
    rw [List.forall_mem_cons]
    exact ⟨stagedRow_sized hproposal, ih hrest⟩

theorem type_text_inj {a b : ProposalType} : a.text = b.text ↔ a = b := by
  cases a <;> cases b <;> decide

theorem requirement_text_inj {a b : ProposalRequirement} : a.text = b.text ↔ a = b := by
  cases a <;> cases b <;> decide

theorem stagedRow_injective {a b : MlsStagedExternalProposalBinding}
    (h : stagedProposalFields a = stagedProposalFields b) : a = b := by
  simp only [stagedProposalFields, List.cons.injEq, utf8_inj, repr_inj, type_text_inj,
    requirement_text_inj, and_true] at h
  rw [MlsStagedExternalProposalBinding.mk.injEq]
  exact h

theorem senderRow_sized (h : pass (parseMlsCommitSenderBinding binding) = .ok ()) :
    ∀ field ∈ senderBindingFields binding, Sized field := by
  have checks := pass_checked.mp h
  simp only [List.forall_mem_cons] at checks
  obtain ⟨active, inactive, -, account, installation, credential, fingerprint, revocation,
    generation, -⟩ := checks
  simp only [senderBindingFields, List.forall_mem_cons]
  exact ⟨sized_uuid account, sized_uuid installation, sized_uuid credential,
    sized_checkHash fingerprint, sized_uint63 revocation, sized_positive generation,
    sized_positive active, sized_nullable (shortText_position inactive),
    fun _ hmem => absurd hmem List.not_mem_nil⟩

theorem senderRow_injective {a b : ConversationMlsCommitSenderBinding}
    (first : pass (parseMlsCommitSenderBinding a) = .ok ())
    (second : pass (parseMlsCommitSenderBinding b) = .ok ())
    (h : senderBindingFields a = senderBindingFields b) : a = b := by
  have checks := pass_checked.mp first
  have others := pass_checked.mp second
  simp only [List.forall_mem_cons] at checks others
  simp only [senderBindingFields, List.cons.injEq, utf8_inj, repr_inj, and_true] at h
  obtain ⟨account, installation, credential, fingerprint, revocation, generation, active,
    inactive⟩ := h
  rw [ConversationMlsCommitSenderBinding.mk.injEq]
  exact ⟨account, installation, credential, fingerprint, revocation, generation, active,
    nullablePosition_injective (shortText_position checks.2.1) (shortText_position others.2.1)
      inactive⟩

theorem senderRow_of_parsed {bindings : List ConversationMlsCommitSenderBinding}
    (h : pass (parseMlsCommitSenderBindings bindings) = .ok ()) :
    ∀ binding ∈ bindings, pass (parseMlsCommitSenderBinding binding) = .ok () := by
  have checks := pass_checked.mp h
  simp only [List.forall_mem_cons] at checks
  intro binding hmem
  exact pass_eq_ok.mpr (exists_mapM.mp (pass_eq_ok.mp checks.2.1) binding hmem)

/-- A field that opens a sender binding: as long as an account ID. -/
def OpensBinding (field : Bytes) : Prop := 36 ≤ field.length

theorem senderRow_opens (h : pass (parseMlsCommitSenderBinding binding) = .ok ()) :
    ∃ first tail, senderBindingFields binding = first :: tail ∧ OpensBinding first := by
  have checks := pass_checked.mp h
  simp only [List.forall_mem_cons, pass_uuid] at checks
  refine ⟨_, _, rfl, ?_⟩
  have hbytes := length_le_utf8 binding.accountId
  rw [isUuidV4_length checks.2.2.2.1] at hbytes
  exact hbytes

theorem count_opens_no_binding {proposals : List MlsStagedExternalProposalBinding}
    (h : pass (parseStagedProposalBindings proposals label) = .ok ()) :
    ¬ OpensBinding (utf8 proposals.length.repr) := by
  have count := refuse_eq_ok.mp (pass_checked.mp h _ List.mem_cons_self)
  unfold conversationPageHardMaxEvents at count
  have hdigits : proposals.length.repr.length ≤ 3 := by
    rw [Nat.length_repr_le_iff (by decide)]
    omega
  have hbytes := utf8_length_le proposals.length.repr
  rw [String.length_toList] at hbytes
  unfold OpensBinding
  omega

end

section

variable {H : HashFunction} {projection : ConversationPolicyProjection}

theorem policyFields_sized (h : pass (parseConversationPolicyProjection H projection) = .ok ()) :
    ∀ field ∈ policyFields projection, Sized field := by
  have checks := pass_checked.mp h
  simp only [List.forall_mem_cons] at checks
  obtain ⟨-, -, -, count, setHash, -, -, etag, id, revision, -⟩ := checks
  simp only [policyFields, List.forall_mem_cons]
  exact ⟨sized_etag etag, sized_uuid id, sized_positive revision, sized_uint63 count,
    sized_checkHash setHash, fun _ hmem => absurd hmem List.not_mem_nil⟩

theorem policyHeadFields_sized
    (h : pass (parseConversationPolicyProjection H projection) = .ok ()) :
    ∀ field ∈ policyHeadFields projection, Sized field := by
  have checks := pass_checked.mp h
  simp only [List.forall_mem_cons] at checks
  obtain ⟨position, logHash, -, -, -, -, -, -, -, -, grants, quotas, sequence, headHash, checkpoint,
    evidence, -⟩ := checks
  obtain ⟨_, hhead⟩ := pass_eq_ok.mp headHash
  simp only [policyHeadFields, List.forall_mem_cons]
  exact ⟨sized_checkHash grants, sized_checkHash quotas, sized_positive sequence,
    sized_hash (parseNonZeroHash32_eq_ok.mp hhead).1, sized_uint63 position,
    sized_checkHash logHash, sized_uuid checkpoint, sized_checkHash evidence,
    fun _ hmem => absurd hmem List.not_mem_nil⟩

theorem mandatory_of_parsed (h : pass (parseConversationPolicyProjection H projection) = .ok ()) :
    ∀ proposal ∈ projection.policyMandatoryProposals,
      ∀ field ∈ mandatoryProposalFields proposal, Sized field := by
  have checks := pass_checked.mp h
  simp only [List.forall_mem_cons] at checks
  have proposals := pass_checked.mp checks.2.2.2.2.2.1
  simp only [List.forall_mem_cons] at proposals
  exact mandatoryRows_sized proposals.2.1

theorem mandatoryCount_sized (h : pass (parseConversationPolicyProjection H projection) = .ok ()) :
    Sized (utf8 projection.policyMandatoryProposals.length.repr) := by
  have checks := pass_checked.mp h
  simp only [List.forall_mem_cons] at checks
  have proposals := pass_checked.mp checks.2.2.2.2.2.1
  have count := refuse_eq_ok.mp (proposals _ List.mem_cons_self)
  unfold mandatoryProposalsMax at count
  refine sized_repr ?_
  unfold uint63Max
  omega

theorem policyProjection_injective {a b : ConversationPolicyProjection}
    (leading : policyFields a = policyFields b)
    (proposals : a.policyMandatoryProposals = b.policyMandatoryProposals)
    (trailing : policyHeadFields a = policyHeadFields b) : a = b := by
  simp only [policyFields, policyHeadFields, List.cons.injEq, utf8_inj, repr_inj, and_true]
    at leading trailing
  obtain ⟨etag, id, revision, count, setHash⟩ := leading
  obtain ⟨grants, quotas, sequence, headHash, position, logHash, checkpoint, evidence⟩ := trailing
  rw [ConversationPolicyProjection.mk.injEq]
  exact ⟨etag, id, revision, count, setHash, proposals, grants, quotas, sequence, headHash,
    position, logHash, checkpoint, evidence⟩

end

section

theorem count_injective (m n : Nat) (h : utf8 m.repr = utf8 n.repr) : m = n :=
  repr_injective (utf8_injective h)

theorem mandatoryRow_width (row : PolicyMandatoryProposalBinding) :
    (mandatoryProposalFields row).length = 2 := rfl

theorem senderRow_width (row : ConversationMlsCommitSenderBinding) :
    (senderBindingFields row).length = 8 := rfl

theorem stagedRow_width (row : MlsStagedExternalProposalBinding) :
    (stagedProposalFields row).length = 14 := rfl

variable {H : HashFunction} {input first second : ConversationVerifiedPrefixEvidenceInput}

/-- Inputs that the digest takes. -/
structure Taken (H : HashFunction) (input : ConversationVerifiedPrefixEvidenceInput) : Prop where
  context : pass (parseConversationCursorContext input.cursorContext) = .ok ()
  membership : pass (parseMembershipWindow input.membership) = .ok ()
  anchor : pass (parseHeadAnchor input.anchor) = .ok ()
  witness : pass (parseWitnessConsistencyAnchor input.trustedWitnessAnchor) = .ok ()
  policyAnchor : pass (parsePolicyConsistencyAnchor input.trustedPolicyAnchor) = .ok ()
  projection : pass (parseConversationMlsProjection input.mlsProjectionAtAnchor) = .ok ()
  policy : pass (parseConversationPolicyProjection H input.policyProjectionAtAnchor) = .ok ()
  senders : pass (parseMlsCommitSenderBindings input.mlsCommitSenderBindings) = .ok ()
  staged : pass (parseStagedProposalBindings input.stagedProposalsAtAnchor
    "verified-prefix staged proposals") = .ok ()
  generation : 1 ≤ input.conversationGeneration ∧ input.conversationGeneration ≤ uint63Max
  profile : isSigningKeyId input.releaseProfileId = true
  limits : input.deliveryLimitsDigest.length = 32
  trustRoot : input.releaseTrustRootDigest.length = 32
  group : input.expectedGroupIdHash.length = 32

theorem parseInput_eq_ok {parsed : ConversationVerifiedPrefixEvidenceInput} :
    parseVerifiedPrefixEvidenceInput H input = .ok parsed ↔ Taken H input ∧ parsed = input := by
  unfold parseVerifiedPrefixEvidenceInput
  rw [checked_eq_ok]
  simp only [List.forall_mem_cons, pass_positive, pass_keyText, pass_hash]
  constructor
  · rintro ⟨⟨context, membership, anchor, witness, policyAnchor, projection, policy, senders,
      staged, generation, profile, limits, trustRoot, group, -⟩, rfl⟩
    exact ⟨⟨context, membership, anchor, witness, policyAnchor, projection, policy, senders,
      staged, generation, profile, limits, trustRoot, group⟩, rfl⟩
  · rintro ⟨taken, rfl⟩
    exact ⟨⟨taken.context, taken.membership, taken.anchor, taken.witness, taken.policyAnchor,
      taken.projection, taken.policy, taken.senders, taken.staged, taken.generation, taken.profile,
      taken.limits, taken.trustRoot, taken.group, fun _ hmem => absurd hmem List.not_mem_nil⟩, rfl⟩

theorem releaseFields_sized (taken : Taken H input) :
    ∀ field ∈ releaseFields input, Sized field := by
  simp only [releaseFields, List.forall_mem_cons]
  exact ⟨sized_repr taken.generation.2, sized_keyId taken.profile, sized_hash taken.limits,
    sized_hash taken.trustRoot, sized_hash taken.group,
    fun _ hmem => absurd hmem List.not_mem_nil⟩

theorem flatMap_sized {ρ : Type} {fields : ρ → List Bytes} {rows : List ρ}
    (sized : ∀ row ∈ rows, ∀ field ∈ fields row, Sized field) :
    ∀ field ∈ rows.flatMap fields, Sized field := by
  intro field hfield
  obtain ⟨row, hrow, hmem⟩ := List.mem_flatMap.mp hfield
  exact sized row hrow field hmem

theorem evidenceFields_sized (taken : Taken H input) :
    ∀ field ∈ evidenceFields input, Sized field := by
  have proposals := pass_checked.mp taken.staged
  have count := refuse_eq_ok.mp (proposals _ List.mem_cons_self)
  have stagedCount : Sized (utf8 input.stagedProposalsAtAnchor.length.repr) := by
    unfold conversationPageHardMaxEvents at count
    refine sized_repr ?_
    unfold uint63Max
    omega
  have stagedRows := stagedRows_sized (proposals _ (List.mem_cons_of_mem _ List.mem_cons_self))
  simp only [evidenceFields, encodePolicyMandatoryProposals, encodeStagedProposals,
    List.forall_mem_append, List.forall_mem_cons]
  exact ⟨contextFields_sized taken.context, releaseFields_sized taken,
    membershipFields_sized taken.membership, anchorFields_sized taken.anchor,
    projectionFields_sized taken.projection, policyFields_sized taken.policy,
    ⟨mandatoryCount_sized taken.policy, flatMap_sized (mandatory_of_parsed taken.policy)⟩,
    policyHeadFields_sized taken.policy, witnessFields_sized taken.witness,
    policyAnchorFields_sized taken.policyAnchor,
    flatMap_sized fun binding hmem =>
      senderRow_sized (senderRow_of_parsed taken.senders binding hmem),
    stagedCount, flatMap_sized stagedRows⟩

theorem senders_and_staged_injective (taken : Taken H first) (others : Taken H second)
    (h : first.mlsCommitSenderBindings.flatMap senderBindingFields ++
        encodeStagedProposals first.stagedProposalsAtAnchor =
      second.mlsCommitSenderBindings.flatMap senderBindingFields ++
        encodeStagedProposals second.stagedProposalsAtAnchor) :
    first.mlsCommitSenderBindings = second.mlsCommitSenderBindings ∧
      first.stagedProposalsAtAnchor = second.stagedProposalsAtAnchor := by
  have senders := senderRow_of_parsed taken.senders
  have otherSenders := senderRow_of_parsed others.senders
  have opens : ∀ row ∈ first.mlsCommitSenderBindings ++ second.mlsCommitSenderBindings,
      ∃ field tail, senderBindingFields row = field :: tail ∧ OpensBinding field := by
    intro row hrow
    rcases List.mem_append.mp hrow with hrow | hrow
    · exact senderRow_opens (senders row hrow)
    · exact senderRow_opens (otherSenders row hrow)
  obtain ⟨hsenders, hstaged⟩ := opened_rows_injective senderRow_width opens
    (fun x hx y hy => senderRow_injective (senders x hx) (otherSenders y hy))
    (count_opens_no_binding taken.staged) (count_opens_no_binding others.staged) h
  refine ⟨hsenders, ?_⟩
  rw [← List.append_nil (first.stagedProposalsAtAnchor.flatMap stagedProposalFields),
    ← List.append_nil (second.stagedProposalsAtAnchor.flatMap stagedProposalFields)] at hstaged
  exact (counted_rows_injective stagedRow_width count_injective
    (fun x _ y _ => stagedRow_injective) hstaged).1

theorem evidenceFields_injective (taken : Taken H first) (others : Taken H second)
    (h : evidenceFields first = evidenceFields second) : first = second := by
  obtain ⟨context, h1⟩ := List.append_inj h rfl
  obtain ⟨release, h2⟩ := List.append_inj h1 rfl
  obtain ⟨membership, h3⟩ := List.append_inj h2 rfl
  obtain ⟨anchor, h4⟩ := List.append_inj h3 rfl
  obtain ⟨projection, h5⟩ := List.append_inj h4 rfl
  obtain ⟨policy, h6⟩ := List.append_inj h5 rfl
  obtain ⟨mandatory, h7⟩ := counted_rows_injective mandatoryRow_width count_injective
    (fun x _ y _ => mandatoryRow_injective) h6
  obtain ⟨policyHead, h8⟩ := List.append_inj h7 rfl
  obtain ⟨witness, h9⟩ := List.append_inj h8 rfl
  obtain ⟨policyAnchor, h10⟩ := List.append_inj h9 rfl
  obtain ⟨senders, staged⟩ := senders_and_staged_injective taken others h10
  simp only [releaseFields, List.cons.injEq, utf8_inj, repr_inj, and_true] at release
  obtain ⟨generation, profile, limits, trustRoot, group⟩ := release
  rw [ConversationVerifiedPrefixEvidenceInput.mk.injEq]
  exact ⟨contextFields_injective context,
    membershipFields_injective taken.membership others.membership membership,
    anchorFields_injective taken.anchor others.anchor anchor, witnessFields_injective witness,
    policyAnchorFields_injective policyAnchor, projectionFields_injective projection,
    policyProjection_injective policy mandatory policyHead, senders, staged, generation, profile,
    limits, trustRoot, group⟩

theorem computeDigest_eq_ok {digest : Bytes} :
    computeConversationVerifiedPrefixEvidenceDigest H input = .ok digest ↔
      Taken H input ∧ digest = H.digest (evidenceBytes input) := by
  unfold computeConversationVerifiedPrefixEvidenceDigest
  rw [bind_ok]
  constructor
  · rintro ⟨parsed, hparsed, hdigest⟩
    obtain ⟨taken, rfl⟩ := parseInput_eq_ok.mp hparsed
    exact ⟨taken, (Except.ok.inj hdigest).symm⟩
  · rintro ⟨taken, rfl⟩
    exact ⟨input, parseInput_eq_ok.mpr ⟨taken, rfl⟩, rfl⟩

end

def paddedBytes : HashFunction where
  digest input := (input ++ List.replicate 32 0).take 32
  length_digest input := by simp

def sampleSenderBinding : ConversationMlsCommitSenderBinding :=
  ⟨"00000000-0000-4000-8000-0000000000a1", "00000000-0000-4000-8000-0000000000b1",
    sampleCredential, sampleHash32 1, 0, 1, 1, none⟩

def sampleStagedProposal : MlsStagedExternalProposalBinding :=
  ⟨2, "00000000-0000-4000-8000-0000000000e1", sampleHash32 2, 1,
    "0190a0a0-0000-7000-8000-000000000001", sampleHash32 3, sampleHash32 4,
    "0190a0a0-0000-7000-8000-000000000002", sampleHash32 5, sampleHash32 6, .add, .optional, 1,
    sampleHash32 7⟩

def sampleInput (senders : List ConversationMlsCommitSenderBinding)
    (staged : List MlsStagedExternalProposalBinding) : ConversationVerifiedPrefixEvidenceInput where
  cursorContext := sampleContext
  membership := ⟨.creator, sampleCredential, sampleHash32 1, 1, none⟩
  anchor := ⟨1, sampleHash32 0, sampleHash32 8, some "2026-01-01T00:00:01.000Z"⟩
  trustedWitnessAnchor := ⟨sampleCheckpoint, 1, sampleHash32 9, "2026-01-01T00:00:02.000Z"⟩
  trustedPolicyAnchor := ⟨0, sampleHash32 0, sampleCheckpoint, sampleHash32 10⟩
  mlsProjectionAtAnchor := ⟨1, 1, sampleHash32 11⟩
  policyProjectionAtAnchor :=
    ⟨"\"e1-r1\"", "66666666-6666-4666-8666-666666666666", 1, 0, sampleHash32 0, [],
      sampleHash32 12, sampleHash32 13, 1, sampleHash32 14, 1, sampleHash32 8, sampleCheckpoint,
      sampleHash32 15⟩
  mlsCommitSenderBindings := senders
  stagedProposalsAtAnchor := staged
  conversationGeneration := 1
  releaseProfileId := "profile"
  deliveryLimitsDigest := sampleHash32 16
  releaseTrustRootDigest := sampleHash32 17
  expectedGroupIdHash := sampleHash32 18

private theorem sample_uuids : isUuidV4 sampleCredential = true ∧
    isUuidV4 sampleCheckpoint = true ∧ isUuidV4 "66666666-6666-4666-8666-666666666666" = true :=
  ⟨rfl, rfl, rfl⟩

private theorem sample_hash (byte : UInt8) (label : String) :
    pass (checkHash32 (sampleHash32 byte) label) = .ok () :=
  pass_hash.mpr List.length_replicate

theorem sampleSenders_parse :
    pass (parseMlsCommitSenderBindings [sampleSenderBinding]) = .ok () := by
  have account : isUuidV4 sampleSenderBinding.accountId = true := rfl
  have installation : isUuidV4 sampleSenderBinding.installationId = true := rfl
  have credential : isUuidV4 sampleSenderBinding.credentialId = true := rfl
  have binding : pass (parseMlsCommitSenderBinding sampleSenderBinding) = .ok () := by
    refine pass_checked.mpr ?_
    simp only [List.forall_mem_cons, pass_uuid, pass_positive, pass_uint63, pass_parseNullable,
      refuse_eq_ok]
    exact ⟨⟨by decide, by decide⟩, fun _ h => (by cases h), by decide, account, installation,
      credential, sample_hash 1 _, by decide, ⟨by decide, by decide⟩,
      fun _ h => absurd h List.not_mem_nil⟩
  refine pass_checked.mpr ?_
  simp only [List.forall_mem_cons, checkItemCount, refuse_eq_ok]
  refine ⟨by decide, ?_, by simp, fun _ h => absurd h List.not_mem_nil⟩
  refine pass_eq_ok.mpr (exists_mapM.mpr fun row hrow => ?_)
  obtain rfl := List.mem_singleton.mp hrow
  exact pass_eq_ok.mp binding

theorem sampleStaged_parse (label : String) :
    pass (parseStagedProposalBindings [sampleStagedProposal] label) = .ok () := by
  have envelope : isUuidV4 sampleStagedProposal.envelopeId = true := rfl
  have proposal : isUuidV7 sampleStagedProposal.proposalId = true := rfl
  have intent : isUuidV7 sampleStagedProposal.membershipIntentId = true := rfl
  have parsed : pass (parseStagedProposalBinding label sampleStagedProposal) = .ok () := by
    refine pass_checked.mpr ?_
    simp only [List.forall_mem_cons, pass_uuid, pass_uuidV7, pass_positive, pass_uint63]
    exact ⟨⟨by decide, by decide⟩, envelope, sample_hash 2 _, by decide, proposal, sample_hash 3 _,
      sample_hash 4 _, intent, sample_hash 5 _, sample_hash 6 _, ⟨by decide, by decide⟩,
      sample_hash 7 _, fun _ h => absurd h List.not_mem_nil⟩
  refine pass_checked.mpr ?_
  simp only [List.forall_mem_cons, checkItemCount, refuse_eq_ok]
  refine ⟨by decide, ?_, fun _ h => absurd h List.not_mem_nil⟩
  exact bind_ok.mpr ⟨(), parsed, bind_ok.mpr
    ⟨(), refuse_eq_ok.mpr (by decide), rfl⟩⟩

private theorem sample_zero : 0 ≤ uint63Max := Nat.zero_le _

private theorem sample_one : 1 ≤ 1 ∧ 1 ≤ uint63Max := by decide

private theorem sample_profile : isSigningKeyId "profile" = true := rfl

theorem sampleInput_taken {senders : List ConversationMlsCommitSenderBinding}
    {staged : List MlsStagedExternalProposalBinding}
    (hsenders : pass (parseMlsCommitSenderBindings senders) = .ok ())
    (hstaged : pass (parseStagedProposalBindings staged "verified-prefix staged proposals") =
      .ok ()) : Taken paddedBytes (sampleInput senders staged) where
  context := pass_eq_ok.mpr ⟨_, parseContext_eq_ok.mpr ⟨sampleCall_seals.canonical, rfl⟩⟩
  membership := by
    refine pass_checked.mpr ?_
    simp only [List.forall_mem_cons, pass_uuid, pass_positive, pass_parseNullable, refuse_eq_ok]
    exact ⟨sample_one, fun _ h => (by cases h), by simp [sampleInput],
      sample_uuids.1, sample_hash 1 _, fun _ h => absurd h List.not_mem_nil⟩
  anchor := by
    have time : isRfc3339Millis "2026-01-01T00:00:01.000Z" = true := rfl
    refine pass_checked.mpr ?_
    simp only [List.forall_mem_cons, pass_uint63, pass_parseNullable]
    refine ⟨sample_one.2, sample_hash 0 _, sample_hash 8 _, ?_,
      fun _ h => absurd h List.not_mem_nil⟩
    rintro text ⟨⟩
    exact pass_instant.mpr time
  witness := by
    have time : isRfc3339Millis "2026-01-01T00:00:02.000Z" = true := rfl
    refine pass_checked.mpr ?_
    simp only [List.forall_mem_cons, pass_uuid, pass_uint63, pass_instant]
    exact ⟨sample_uuids.2.1, sample_one.2, sample_hash 9 _, time,
      fun _ h => absurd h List.not_mem_nil⟩
  policyAnchor := by
    refine pass_checked.mpr ?_
    simp only [List.forall_mem_cons, pass_uuid, pass_uint63, refuse_eq_ok]
    exact ⟨sample_zero, sample_hash 0 _, sample_uuids.2.1, sample_hash 10 _,
      not_not.mpr ⟨fun _ => rfl, fun _ => rfl⟩, fun _ h => absurd h List.not_mem_nil⟩
  projection := by
    refine pass_checked.mpr ?_
    simp only [List.forall_mem_cons, pass_uint63]
    exact ⟨sample_one.2, sample_one.2, sample_hash 11 _, fun _ h => absurd h List.not_mem_nil⟩
  policy := by
    have sentinel : ¬ ¬ (1 = 0 ↔ sampleHash32 8 = zeroHash32Bytes) := by decide
    have head : sampleHash32 14 ≠ List.replicate 32 0 := by decide
    have etag : parseConversationEtag "\"e1-r1\"" = .ok "\"e1-r1\"" := rfl
    refine pass_checked.mpr ?_
    simp only [List.forall_mem_cons, pass_uuid, pass_uint63, pass_positive, refuse_eq_ok]
    exact ⟨sample_one.2, sample_hash 8 _, sentinel, sample_zero, sample_hash 0 _, rfl, rfl,
      pass_eq_ok.mpr ⟨_, etag⟩, sample_uuids.2.2, sample_one, sample_hash 12 _,
      sample_hash 13 _, sample_one,
      pass_eq_ok.mpr ⟨_, parseNonZeroHash32_eq_ok.mpr ⟨rfl, head, rfl⟩⟩, sample_uuids.2.1,
      sample_hash 15 _, fun _ h => absurd h List.not_mem_nil⟩
  senders := hsenders
  staged := hstaged
  generation := sample_one
  profile := sample_profile
  limits := List.length_replicate
  trustRoot := List.length_replicate
  group := List.length_replicate

/-- The digest hashes a byte string from which the parsed inputs can be told. -/
theorem evidence_bytes_unambiguous {H : HashFunction}
    {first second : ConversationVerifiedPrefixEvidenceInput} {digest other : Bytes}
    (hfirst : computeConversationVerifiedPrefixEvidenceDigest H first = .ok digest)
    (hsecond : computeConversationVerifiedPrefixEvidenceDigest H second = .ok other) :
    ∃ parsed another, parseVerifiedPrefixEvidenceInput H first = .ok parsed ∧
      parseVerifiedPrefixEvidenceInput H second = .ok another ∧
      digest = H.digest (evidenceBytes parsed) ∧ other = H.digest (evidenceBytes another) ∧
      (evidenceBytes parsed = evidenceBytes another → parsed = another) := by
  obtain ⟨taken, rfl⟩ := computeDigest_eq_ok.mp hfirst
  obtain ⟨others, rfl⟩ := computeDigest_eq_ok.mp hsecond
  refine ⟨first, second, parseInput_eq_ok.mpr ⟨taken, rfl⟩, parseInput_eq_ok.mpr ⟨others, rfl⟩, rfl,
    rfl, fun hbytes => ?_⟩
  exact evidenceFields_injective taken others
    (domain_fields_injective (evidenceFields_sized taken) (evidenceFields_sized others) hbytes)

/-- One sender binding and no staged proposal against the reverse. -/
theorem sample_evidence_unambiguous :
    ∃ parsed another,
      parseVerifiedPrefixEvidenceInput paddedBytes (sampleInput [sampleSenderBinding] []) =
        .ok parsed ∧
      parseVerifiedPrefixEvidenceInput paddedBytes (sampleInput [] [sampleStagedProposal]) =
        .ok another ∧
      paddedBytes.digest (evidenceBytes (sampleInput [sampleSenderBinding] [])) =
        paddedBytes.digest (evidenceBytes parsed) ∧
      paddedBytes.digest (evidenceBytes (sampleInput [] [sampleStagedProposal])) =
        paddedBytes.digest (evidenceBytes another) ∧
      (evidenceBytes parsed = evidenceBytes another → parsed = another) :=
  evidence_bytes_unambiguous
    (computeDigest_eq_ok.mpr ⟨sampleInput_taken sampleSenders_parse rfl, rfl⟩)
    (computeDigest_eq_ok.mpr ⟨sampleInput_taken rfl (sampleStaged_parse _), rfl⟩)

end JbChat.Http.VerifiedPrefix
