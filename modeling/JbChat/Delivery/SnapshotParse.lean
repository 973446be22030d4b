/- source: src/production/delivery/state.ts
   digest: The checks on locked rows, and the digest that fences an authority snapshot. -/

import JbChat.Delivery.QuotaRules

/-!
A parser of locked rows checks the fields one by one and returns them as they are, so each
one below is the list of its checks in order. Enumerations are checked by their type.
-/

set_option autoImplicit false

namespace JbChat.Delivery.SnapshotParse

open Foundation.HashTrace Foundation.LengthPrefix Foundation.Transaction
open ValueObjects Hashes Instants Snapshot Quota QuotaRules

/-- `/^[A-Za-z0-9][A-Za-z0-9:._-]{0,127}$/` -/
def isScopeSubjectId (text : String) : Bool :=
  match text.toList with
  | [] => false
  | first :: rest => first.isAlphanum && decide (rest.length ≤ 127) &&
      rest.all fun c => c.isAlphanum || c == ':' || c == '.' || c == '_' || c == '-'

def parseScopeSubjectId (value label : String) : Except Failure String :=
  if isScopeSubjectId value then .ok value
  else .error (.invalid (label ++ " must be bounded canonical ASCII."))

def parsePolicyRealmId (value : String) : Except Failure String :=
  if isSigningKeyId value then .ok value
  else .error (.invalid "Policy proof realm ID is not canonical.")

/-- The two decimals of `"e<epoch>-r<rosterVersion>"`. -/
def etagParts (text : String) : Option (List Char × List Char) :=
  match text.toList with
  | '"' :: 'e' :: rest =>
    let epoch := rest.takeWhile Char.isDigit
    match rest.dropWhile Char.isDigit with
    | '-' :: 'r' :: tail =>
      let rosterVersion := tail.takeWhile Char.isDigit
      if isDecimal epoch && isDecimal rosterVersion &&
          tail.dropWhile Char.isDigit == ['"'] then some (epoch, rosterVersion)
      else none
    | _ => none
  | _ => none

def parseConversationEtag (value : String) : Except Failure String :=
  match etagParts value with
  | none => .error (.invalid "ETag must be exactly \"e<epoch>-r<rosterVersion>\".")
  | some (epoch, rosterVersion) => do
    let _ ← parseUint63String (String.ofList epoch) "ETag epoch"
    let _ ← parseUint63String (String.ofList rosterVersion) "ETag roster version"
    .ok value

/-- `parseSigningKeyId` and `parseReleaseProfileId` with the label of the field. -/
def parseKeyText (value label : String) : Except Failure String :=
  if isSigningKeyId value then .ok value
  else .error (.invalid (label ++ " must be 1-64 lowercase ASCII letters, digits, dot, " ++
    "underscore, or hyphen."))

/-- `DELIVERY_MANDATORY_PROPOSALS_MAX` -/
def mandatoryProposalsMax : Nat := 100

def parseMandatoryProposalCount (value : Nat) (label : String) : Except Failure Nat := do
  let parsed ← checkUint63 value label
  if parsed > mandatoryProposalsMax then
    .error (.invalid (label ++ " exceeds the protocol queue bound."))
  else .ok parsed

section

variable {α β : Type}

/-- A field that its parser accepts. -/
def pass (parsed : Except Failure β) : Except Failure Unit := parsed.map fun _ => ()

def refuse (refusal : Prop) [Decidable refusal] (message : String) : Except Failure Unit :=
  if refusal then .error (.invalid message) else .ok ()

/-- The row, once all checks have passed in order. -/
def checked (row : α) : List (Except Failure Unit) → Except Failure α
  | [] => .ok row
  | check :: checks => do
    check
    checked row checks

theorem pass_eq_ok {parsed : Except Failure β} : pass parsed = .ok () ↔ ∃ b, parsed = .ok b := by
  cases parsed with
  | error e => simp [pass, Except.map]
  | ok b => simp [pass, Except.map]

theorem refuse_eq_ok {refusal : Prop} [Decidable refusal] {message : String} :
    refuse refusal message = .ok () ↔ ¬ refusal := by
  unfold refuse
  split_ifs with h <;> simp [h]

theorem checked_eq_ok {row result : α} {checks : List (Except Failure Unit)} :
    checked row checks = .ok result ↔ (∀ check ∈ checks, check = .ok ()) ∧ result = row := by
  induction checks with
  | nil => simp [checked, eq_comm]
  | cons check checks ih =>
    unfold checked
    rw [bind_ok, List.forall_mem_cons]
    constructor
    · rintro ⟨⟨⟩, hcheck, h⟩
      exact ⟨⟨hcheck, (ih.mp h).1⟩, (ih.mp h).2⟩
    · rintro ⟨⟨hcheck, hrest⟩, hresult⟩
      exact ⟨(), hcheck, ih.mpr ⟨hrest, hresult⟩⟩

end

def parseLockedConversationState (row : LockedConversationState) :
    Except Failure LockedConversationState :=
  checked row [
    pass (parsePolicyRealmId row.realmId),
    pass (parseConversationId row.conversationId),
    pass (parseScopeSubjectId row.projectScopeId "project quota subject ID"),
    pass (parseScopeSubjectId row.tenantScopeId "tenant quota subject ID"),
    pass (parsePositiveUint63 row.generation "conversation generation"),
    pass (parseKeyText row.releaseProfileId "releaseProfileId"),
    pass (checkHash32 row.deliveryLimitsDigest "delivery limits digest"),
    pass (checkHash32 row.releaseTrustRootDigest "release trust-root digest"),
    pass (checkHash32 row.quotaPolicyDigest "append quota policy digest"),
    pass (checkHash32 row.groupIdHash "MLS group ID hash"),
    pass (parseConversationEtag row.etag),
    pass (checkUint63 row.epoch "conversation epoch"),
    pass (checkUint63 row.rosterVersion "conversation roster version"),
    pass (checkHash32 row.rosterHash "conversation roster hash"),
    pass (checkUint63 row.recipientSetVersion "conversation recipient-set version"),
    pass (checkHash32 row.recipientSetHash "conversation recipient-set hash"),
    pass (checkHash32 row.confirmedTranscriptHash "conversation confirmed transcript hash"),
    pass (checkUint63 row.lastPosition "conversation last position"),
    pass (checkHash32 row.currentLogHeadHash "conversation current log head hash"),
    pass (checkUint63 row.currentPolicyHeadSequence "current policy head sequence"),
    pass (checkHash32 row.currentPolicyHeadHash "current policy head hash")]

/-- A nullable field is checked when it is present. -/
def parseNullable {α : Type} (parse : α → Except Failure α) (value : Option α) :
    Except Failure (Option α) :=
  match value with
  | none => .ok none
  | some value => (parse value).map some

def parseLockedSenderMembership (row : LockedSenderMembership) :
    Except Failure LockedSenderMembership :=
  checked row [
    pass (parseConversationId row.conversationId),
    pass (parseUuidV4 row.accountId "accountId"),
    pass (parseUuidV4 row.installationId "installationId"),
    pass (parseUuidV4 row.credentialId "credentialId"),
    pass (checkHash32 row.credentialFingerprint "fingerprint"),
    pass (checkUint63 row.credentialRevocationVersion "credential revocation version"),
    pass (parseRfc3339Millis row.credentialExpiresAt "credential expiry"),
    pass (parsePositiveUint63 row.joinedPosition "membership joined position"),
    pass (parseNullable (parsePositiveUint63 · "membership removed position") row.removedPosition)]

def parseLockedConversationSendGrant (row : LockedConversationSendGrant) :
    Except Failure LockedConversationSendGrant :=
  checked row [
    pass (parseConversationId row.conversationId),
    pass (parseUuidV4 row.installationId "installationId"),
    pass (parseUuidV4 row.credentialId "credentialId"),
    pass (parsePositiveUint63 row.conversationGeneration "send grant conversation generation"),
    pass (parseUuidV4 row.roleCredentialId "credentialId"),
    pass (checkHash32 row.roleCredentialFingerprint "fingerprint"),
    pass (parseUuidV4 row.roleCredentialSubjectAccountId "accountId"),
    pass (parseUuidV4 row.roleCredentialSubjectInstallationId "installationId"),
    pass (parseRfc3339Millis row.roleCredentialValidFrom "role credential validFrom"),
    pass (parseRfc3339Millis row.roleCredentialValidUntil "role credential validUntil"),
    pass (parsePositiveUint63 row.policyRevision "send grant policy revision"),
    pass (parsePositiveUint63 row.policyHeadSequence "send grant policy-head sequence"),
    pass (checkHash32 row.policyHeadHash "send grant policy-head hash"),
    pass (parseRfc3339Millis row.expiresAt "send grant expiry"),
    pass (checkHash32 row.grantEvidenceDigest "send-grant evidence digest"),
    pass (checkHash32 row.grantInclusionEvidenceDigest "send-grant inclusion evidence digest")]

def parseLockedWitnessedPolicyHead (row : LockedWitnessedPolicyHead) :
    Except Failure LockedWitnessedPolicyHead :=
  checked row [
    pass (parseNullable (parseUuidV4 · "witnessCheckpointId") row.witnessCheckpointId),
    pass (parseNullable (checkHash32 · "witnessed policy head hash") row.witnessedPolicyHeadHash),
    refuse (row.witnessState = .verified ∧
      (row.witnessCheckpointId = none ∨ row.witnessedPolicyHeadHash = none))
      "A verified policy head requires complete witness bindings.",
    refuse (row.witnessState ≠ .verified ∧
      (row.witnessCheckpointId ≠ none ∨ row.witnessedPolicyHeadHash ≠ none))
      "An unverified policy head cannot carry trusted witness bindings.",
    pass (parseRfc3339Millis row.issuedAt "policy head issuance"),
    pass (parseRfc3339Millis row.expiresAt "policy head expiry"),
    pass (parseRfc3339Millis row.proofVerifiedAt "policy proof verification time"),
    refuse (row.expiresAt ≤ row.issuedAt ∨
      dateParse row.expiresAt - dateParse row.issuedAt > 300000 ∨
      row.proofVerifiedAt < row.issuedAt ∨ row.expiresAt ≤ row.proofVerifiedAt)
      "Policy proof and validity interval are inconsistent.",
    pass (parseUuidV4 row.policyHeadId "policyHeadId"),
    pass (parseConversationId row.conversationId),
    pass (parsePositiveUint63 row.policyHeadSequence "policy head sequence"),
    pass (checkHash32 row.policyHeadHash "policy head hash"),
    pass (checkUint63 row.deliveryLogPosition "policy delivery-log position"),
    pass (checkHash32 row.deliveryLogHeadHash "policy delivery-log head hash"),
    pass (checkUint63 row.evaluationLogPosition "policy evaluation-log position"),
    pass (checkHash32 row.evaluationLogHeadHash "policy evaluation-log head hash"),
    pass (checkUint63 row.epoch "policy head epoch"),
    pass (checkUint63 row.rosterVersion "policy head roster version"),
    pass (checkHash32 row.confirmedTranscriptHash "policy head confirmed transcript hash"),
    pass (parsePositiveUint63 row.policyRevision "policy revision"),
    pass (checkHash32 row.signedBodySha256 "policy signed body SHA-256"),
    pass (parseKeyText row.signerKeyId "policy signer key ID"),
    pass (checkHash32 row.signatureSha256 "policy signature SHA-256"),
    pass (checkHash32 row.witnessEvidenceDigest "policy witness evidence digest"),
    pass (checkHash32 row.proofEvidenceDigest "policy proof evidence digest"),
    pass (checkHash32 row.policyConsistencyEvidenceDigest "policy consistency evidence digest"),
    pass (parseMandatoryProposalCount row.mandatoryProposalCount "mandatory proposal count"),
    pass (checkHash32 row.mandatoryProposalSetHash "mandatory proposal set hash"),
    pass (checkHash32 row.authorizedSendGrantSetHash "authorized send-grant set hash"),
    pass (checkHash32 row.selectedSendGrantEvidenceDigest "selected send-grant evidence digest"),
    pass (checkHash32 row.selectedSendGrantInclusionEvidenceDigest
      "selected send-grant inclusion evidence digest"),
    pass (checkHash32 row.authorizedQuotaPolicyDigest "authorized quota policy digest"),
    pass (checkUint63 row.priorPolicyHeadSequence "prior policy-head sequence"),
    pass (checkHash32 row.priorPolicyHeadHash "prior policy-head hash"),
    pass (parseUuidV4 row.priorPolicyWitnessCheckpointId "witnessCheckpointId"),
    pass (checkHash32 row.priorPolicyWitnessEvidenceDigest
      "prior policy witness evidence digest")]

def parseLockedConversationUsage (row : LockedConversationUsage) :
    Except Failure LockedConversationUsage :=
  checked row [
    pass (parseConversationId row.conversationId),
    pass (checkUint63 row.envelopeCount "envelope count"),
    pass (checkUint63 row.envelopeBytes "envelope bytes"),
    pass (checkUint63 row.attachmentBytes "attachment bytes"),
    pass (checkUint63 row.envelopeCountLimit "envelope count limit"),
    pass (checkUint63 row.envelopeBytesLimit "envelope bytes limit"),
    pass (checkUint63 row.attachmentBytesLimit "attachment bytes limit"),
    refuse (row.envelopeCount > row.envelopeCountLimit ∨ row.envelopeBytes > row.envelopeBytesLimit ∨
      row.attachmentBytes > row.attachmentBytesLimit)
      "Locked conversation usage already exceeds its hard limit."]

def parseExpectedQuotaIdentity (row : ExpectedAppendQuotaIdentity) (index : Nat) :
    Except Failure ExpectedAppendQuotaIdentity :=
  let label := "quota binding " ++ index.repr
  checked row [
    pass (checkHash32 row.scopeHash (label ++ " scope hash")),
    pass (parseQuotaName row.quotaName (label ++ " name")),
    pass (parseRfc3339Millis row.windowStartedAt (label ++ " window start")),
    pass (parsePositiveUint63 row.windowSeconds (label ++ " window seconds")),
    pass (checkUint63 row.operationLimit (label ++ " operation limit")),
    pass (checkUint63 row.byteLimit (label ++ " byte limit"))]

/-- With five entries, five distinct scopes are one entry for each scope. -/
def parseExpectedQuotaIdentities (value : List ExpectedAppendQuotaIdentity) :
    Except Failure (List ExpectedAppendQuotaIdentity) := do
  if value.length ≠ quotaScopes.length then
    .error (.invalid "Every authoritative append quota binding is required once.")
  else
    let parsed ← parseEach parseExpectedQuotaIdentity value 0
    orderByScope ExpectedAppendQuotaIdentity.scope parsed
      "Authoritative append quota bindings are missing or duplicated."

def quotaScopeHashDomain : String := "jb-msg-application-append-quota-scope/v1"

def computeApplicationAppendQuotaScopeHash (H : HashFunction) (realmId : String)
    (scope : QuotaScope) (subjectId : String) : Except Failure Bytes := do
  let realmId ← parsePolicyRealmId realmId
  let subjectId ← parseScopeSubjectId subjectId "quota subject ID"
  .ok (sha256Bytes H [utf8 quotaScopeHashDomain,
    lengthPrefixed [utf8 realmId, utf8 scope.text, utf8 subjectId]])

def quotaPolicyDigestDomain : String := "jb-msg-application-append-quota-policy/v1"

def computeApplicationAppendQuotaPolicyDigest (H : HashFunction)
    (value : List ExpectedAppendQuotaIdentity) : Except Failure Bytes := do
  let bindings ← parseExpectedQuotaIdentities value
  .ok (sha256Bytes H [utf8 quotaPolicyDigestDomain,
    lengthPrefixed (bindings.flatMap fun binding =>
      [utf8 binding.scope.text, utf8 binding.quotaName, utf8 binding.windowSeconds.repr,
        utf8 binding.operationLimit.repr, utf8 binding.byteLimit.repr])])

def policyHeadProofEvidenceDigestDomain : String := "jb-msg-policy-head-proof-evidence/v1"

/-- The digest of the append-authorization proof that a verified head carries. -/
def computePolicyHeadProofEvidenceDigest (H : HashFunction)
    (conversation : LockedConversationState) (policyHead : LockedWitnessedPolicyHead)
    (witnessCheckpointId : String) (witnessedPolicyHeadHash : Bytes) : Bytes :=
  sha256Bytes H [utf8 policyHeadProofEvidenceDigestDomain,
    lengthPrefixed [utf8 conversation.realmId, utf8 conversation.generation.repr,
      conversation.releaseTrustRootDigest, utf8 conversation.releaseProfileId,
      conversation.deliveryLimitsDigest, utf8 "append-authorization",
      utf8 policyHead.conversationId, utf8 policyHead.policyHeadId,
      utf8 policyHead.policyHeadSequence.repr, policyHead.policyHeadHash,
      utf8 policyHead.deliveryLogPosition.repr, policyHead.deliveryLogHeadHash,
      utf8 policyHead.evaluationLogPosition.repr, policyHead.evaluationLogHeadHash,
      utf8 policyHead.epoch.repr, utf8 policyHead.rosterVersion.repr,
      policyHead.confirmedTranscriptHash, utf8 policyHead.policyRevision.repr,
      utf8 policyHead.mandatoryProposalCount.repr, policyHead.mandatoryProposalSetHash,
      policyHead.authorizedSendGrantSetHash, policyHead.selectedSendGrantEvidenceDigest,
      policyHead.selectedSendGrantInclusionEvidenceDigest,
      policyHead.authorizedQuotaPolicyDigest, utf8 policyHead.priorPolicyHeadSequence.repr,
      policyHead.priorPolicyHeadHash, utf8 policyHead.priorPolicyWitnessCheckpointId,
      policyHead.priorPolicyWitnessEvidenceDigest, policyHead.signedBodySha256,
      utf8 policyHead.signerKeyId, policyHead.signatureSha256, utf8 witnessCheckpointId,
      witnessedPolicyHeadHash, policyHead.witnessEvidenceDigest, utf8 policyHead.issuedAt,
      utf8 policyHead.expiresAt, utf8 policyHead.proofVerifiedAt, utf8 "verified",
      utf8 "valid-for-checkpoint", utf8 "verified", utf8 "fresh", utf8 "current",
      utf8 "verified", policyHead.policyConsistencyEvidenceDigest, utf8 "verified"]]

def quotaBindingsMatchCounters (bindings : List ExpectedAppendQuotaIdentity)
    (counters : List LockedQuotaCounter) : Bool :=
  quotaScopes.all fun scope =>
    match bindings.find? (fun binding => decide (binding.scope = scope)),
        counters.find? (fun counter => decide (counter.scope = scope)) with
    | some binding, some counter =>
      decide (binding.scopeHash = counter.scopeHash ∧ binding.quotaName = counter.quotaName ∧
        binding.windowStartedAt = counter.windowStartedAt ∧
        binding.windowSeconds = counter.windowSeconds ∧
        binding.operationLimit = counter.operationLimit ∧
        binding.byteLimit = counter.byteLimit)
    | _, _ => false

def quotaSubjectId (conversation : LockedConversationState) (membership : LockedSenderMembership) :
    QuotaScope → String
  | .installation => membership.installationId
  | .account => membership.accountId
  | .project => conversation.projectScopeId
  | .conversation => conversation.conversationId
  | .tenant => conversation.tenantScopeId

/-- Each binding names the subject of its scope. -/
def checkQuotaScopeHashes (H : HashFunction) (conversation : LockedConversationState)
    (membership : LockedSenderMembership) :
    List ExpectedAppendQuotaIdentity → Except Failure Unit
  | [] => .ok ()
  | binding :: bindings => do
    let expected ← computeApplicationAppendQuotaScopeHash H conversation.realmId binding.scope
      (quotaSubjectId conversation membership binding.scope)
    if binding.scopeHash ≠ expected then
      .error (.invalid "Append quota scope hash is detached from its locked subject.")
    else checkQuotaScopeHashes H conversation membership bindings

def zeroHash : Bytes := List.replicate 32 0

/-- The checks across the rows of a snapshot that do not involve the quota rows. -/
def checkLockedAnchors (H : HashFunction) (snapshot : LockedApplicationAppendSnapshot) :
    Except Failure Unit :=
  let conversation := snapshot.conversation
  let policyHead := snapshot.policyHead
  if snapshot.membership.conversationId ≠ conversation.conversationId ∨
      policyHead.conversationId ≠ conversation.conversationId ∨
      snapshot.sendGrant.conversationId ≠ conversation.conversationId ∨
      snapshot.usage.conversationId ≠ conversation.conversationId then
    .error (.invalid "Locked rows do not belong to one conversation.")
  else if ¬ (conversation.lastPosition = 0 ↔ conversation.currentLogHeadHash = zeroHash) then
    .error (.invalid "Locked conversation position and log head are inconsistent.")
  else if policyHead.deliveryLogPosition > conversation.lastPosition ∨
      ¬ (policyHead.deliveryLogPosition = 0 ↔ policyHead.deliveryLogHeadHash = zeroHash) then
    .error (.invalid "Locked policy head has an invalid delivery-log anchor.")
  else if policyHead.evaluationLogPosition > conversation.lastPosition ∨
      policyHead.deliveryLogPosition > policyHead.evaluationLogPosition ∨
      ¬ (policyHead.evaluationLogPosition = 0 ↔ policyHead.evaluationLogHeadHash = zeroHash) then
    .error (.invalid "Locked policy proof has an invalid evaluation-log anchor.")
  else if policyHead.witnessState = .verified ∧
      policyHead.proofEvidenceDigest ≠ computePolicyHeadProofEvidenceDigest H conversation
        policyHead (policyHead.witnessCheckpointId.getD "")
        (policyHead.witnessedPolicyHeadHash.getD []) then
    .error (.invalid "Locked policy-head proof evidence digest is inconsistent.")
  else .ok ()

def parseLockedApplicationAppendSnapshot (H : HashFunction)
    (value : LockedApplicationAppendSnapshot) : Except Failure LockedApplicationAppendSnapshot := do
  let conversation ← parseLockedConversationState value.conversation
  let membership ← parseLockedSenderMembership value.membership
  let policyHead ← parseLockedWitnessedPolicyHead value.policyHead
  let sendGrant ← parseLockedConversationSendGrant value.sendGrant
  let pendingRemovalCount ← checkUint63 value.pendingRemovalCount "pending removal count"
  let usage ← parseLockedConversationUsage value.usage
  let quotaBindings ← parseExpectedQuotaIdentities value.quotaBindings
  let quotas ← parseLockedQuotaCounters value.quotas
  checkLockedAnchors H value
  if ¬ quotaBindingsMatchCounters quotaBindings quotas then
    .error (.invalid "Locked quota counter identity does not match its authoritative binding.")
  else
    checkQuotaScopeHashes H conversation membership quotaBindings
    let quotaPolicyDigest ← computeApplicationAppendQuotaPolicyDigest H quotaBindings
    if quotaPolicyDigest ≠ conversation.quotaPolicyDigest then
      .error (.invalid "Append quota configuration is detached from its signed policy.")
    else if sendGrant.grantEvidenceDigest ≠
          computeConversationSendGrantEvidenceDigest H sendGrant ∨
        policyHead.selectedSendGrantEvidenceDigest ≠ sendGrant.grantEvidenceDigest ∨
        policyHead.selectedSendGrantInclusionEvidenceDigest ≠
          sendGrant.grantInclusionEvidenceDigest ∨
        policyHead.authorizedQuotaPolicyDigest ≠ conversation.quotaPolicyDigest then
      .error (.invalid "Conversation send grant is detached from its policy proof.")
    else
      .ok ⟨conversation, membership, policyHead, sendGrant, pendingRemovalCount, usage,
        quotaBindings, quotas⟩

def lockedSnapshotDigestDomain : String := "jb-msg-locked-application-append-snapshot/v1"

def encodeNullable (value : Option Bytes) : Bytes :=
  match value with
  | none => lengthPrefixed [utf8 "absent"]
  | some value => lengthPrefixed [utf8 "present", value]

def quotaDigestFields (quota : LockedQuotaCounter) : List Bytes :=
  [utf8 quota.scope.text, quota.scopeHash, utf8 quota.quotaName, utf8 quota.windowStartedAt,
    utf8 quota.windowSeconds.repr, utf8 quota.operationCount.repr, utf8 quota.byteCount.repr,
    utf8 quota.reservedOperationCount.repr, utf8 quota.reservedByteCount.repr,
    utf8 quota.rowVersion.repr, utf8 quota.operationLimit.repr, utf8 quota.byteLimit.repr]

/-- The fields in front of the counter rows. -/
def lockedSnapshotDigestHeader (snapshot : LockedApplicationAppendSnapshot) : List Bytes :=
  let conversation := snapshot.conversation
  let membership := snapshot.membership
  let policyHead := snapshot.policyHead
  let sendGrant := snapshot.sendGrant
  let usage := snapshot.usage
  [utf8 conversation.realmId, utf8 conversation.conversationId, utf8 conversation.projectScopeId,
    utf8 conversation.tenantScopeId, utf8 conversation.kind.text, utf8 conversation.generation.repr,
    utf8 conversation.releaseProfileId, conversation.deliveryLimitsDigest,
    conversation.releaseTrustRootDigest, conversation.quotaPolicyDigest, conversation.groupIdHash,
    utf8 conversation.state.text, utf8 conversation.etag, utf8 conversation.epoch.repr,
    utf8 conversation.rosterVersion.repr, conversation.rosterHash,
    utf8 conversation.recipientSetVersion.repr, conversation.recipientSetHash,
    conversation.confirmedTranscriptHash, utf8 conversation.lastPosition.repr,
    conversation.currentLogHeadHash, utf8 conversation.currentPolicyHeadSequence.repr,
    conversation.currentPolicyHeadHash] ++
  [utf8 membership.conversationId, utf8 membership.accountId, utf8 membership.installationId,
    utf8 membership.credentialId, membership.credentialFingerprint,
    utf8 membership.credentialRevocationVersion.repr, utf8 membership.installationState.text,
    utf8 membership.credentialState.text, utf8 membership.credentialExpiresAt,
    utf8 membership.joinedPosition.repr,
    encodeNullable (membership.removedPosition.map fun position => utf8 position.repr)] ++
  [utf8 policyHead.policyHeadId, utf8 policyHead.conversationId,
    utf8 policyHead.policyHeadSequence.repr, policyHead.policyHeadHash,
    utf8 policyHead.deliveryLogPosition.repr, policyHead.deliveryLogHeadHash,
    utf8 policyHead.evaluationLogPosition.repr, policyHead.evaluationLogHeadHash,
    utf8 policyHead.epoch.repr, utf8 policyHead.rosterVersion.repr,
    policyHead.confirmedTranscriptHash, utf8 policyHead.policyRevision.repr,
    policyHead.signedBodySha256, utf8 policyHead.signerKeyId, policyHead.signatureSha256,
    policyHead.witnessEvidenceDigest, policyHead.proofEvidenceDigest,
    policyHead.policyConsistencyEvidenceDigest, utf8 policyHead.proofVerifiedAt,
    utf8 policyHead.issuedAt, utf8 policyHead.expiresAt, utf8 policyHead.witnessState.text,
    encodeNullable (policyHead.witnessCheckpointId.map utf8),
    encodeNullable policyHead.witnessedPolicyHeadHash,
    utf8 policyHead.mandatoryProposalCount.repr, policyHead.mandatoryProposalSetHash,
    policyHead.authorizedSendGrantSetHash, policyHead.selectedSendGrantEvidenceDigest,
    policyHead.selectedSendGrantInclusionEvidenceDigest, policyHead.authorizedQuotaPolicyDigest,
    utf8 policyHead.priorPolicyHeadSequence.repr, policyHead.priorPolicyHeadHash,
    utf8 policyHead.priorPolicyWitnessCheckpointId, policyHead.priorPolicyWitnessEvidenceDigest] ++
  [utf8 sendGrant.conversationId, utf8 sendGrant.installationId, utf8 sendGrant.credentialId,
    utf8 sendGrant.conversationKind.text, utf8 sendGrant.conversationGeneration.repr,
    utf8 sendGrant.role.text, utf8 sendGrant.roleCredentialId, sendGrant.roleCredentialFingerprint,
    utf8 sendGrant.roleCredentialSubjectAccountId,
    utf8 sendGrant.roleCredentialSubjectInstallationId, utf8 sendGrant.roleCredentialValidFrom,
    utf8 sendGrant.roleCredentialValidUntil, utf8 grantCapability, utf8 sendGrant.state.text,
    utf8 sendGrant.policyRevision.repr, utf8 sendGrant.policyHeadSequence.repr,
    sendGrant.policyHeadHash, utf8 sendGrant.expiresAt, sendGrant.grantEvidenceDigest,
    sendGrant.grantInclusionEvidenceDigest] ++
  [utf8 snapshot.pendingRemovalCount.repr, utf8 usage.conversationId,
    utf8 usage.envelopeCount.repr, utf8 usage.envelopeBytes.repr, utf8 usage.attachmentBytes.repr,
    utf8 usage.envelopeCountLimit.repr, utf8 usage.envelopeBytesLimit.repr,
    utf8 usage.attachmentBytesLimit.repr] ++
  snapshot.quotaBindings.flatMap fun binding =>
    [utf8 binding.scope.text, binding.scopeHash, utf8 binding.quotaName,
      utf8 binding.windowStartedAt, utf8 binding.windowSeconds.repr,
      utf8 binding.operationLimit.repr, utf8 binding.byteLimit.repr]

/-- The byte string hashed for a parsed snapshot. -/
def lockedSnapshotDigestInput (snapshot : LockedApplicationAppendSnapshot) : Bytes :=
  [utf8 lockedSnapshotDigestDomain, lengthPrefixed (lockedSnapshotDigestHeader snapshot ++
    snapshot.quotas.flatMap quotaDigestFields)].flatten

def computeLockedApplicationAppendSnapshotDigest (H : HashFunction)
    (value : LockedApplicationAppendSnapshot) : Except Failure Bytes := do
  let snapshot ← parseLockedApplicationAppendSnapshot H value
  .ok (H.digest (lockedSnapshotDigestInput snapshot))

section

variable {H : HashFunction}

/-- What an accepted snapshot has passed, with its bindings and counters in scope order. -/
structure SnapshotChecks (H : HashFunction) (value : LockedApplicationAppendSnapshot)
    (bindings : List ExpectedAppendQuotaIdentity) (quotas : List LockedQuotaCounter) : Prop where
  conversation : parseLockedConversationState value.conversation = .ok value.conversation
  membership : parseLockedSenderMembership value.membership = .ok value.membership
  policyHead : parseLockedWitnessedPolicyHead value.policyHead = .ok value.policyHead
  sendGrant : parseLockedConversationSendGrant value.sendGrant = .ok value.sendGrant
  removals : value.pendingRemovalCount ≤ uint63Max
  usage : parseLockedConversationUsage value.usage = .ok value.usage
  bindingRows : parseExpectedQuotaIdentities value.quotaBindings = .ok bindings
  quotaRows : parseLockedQuotaCounters value.quotas = .ok quotas
  anchors : checkLockedAnchors H value = .ok ()
  matched : quotaBindingsMatchCounters bindings quotas = true
  scopeHashes : checkQuotaScopeHashes H value.conversation value.membership bindings = .ok ()
  policy : computeApplicationAppendQuotaPolicyDigest H bindings =
    .ok value.conversation.quotaPolicyDigest
  grantDigest : value.sendGrant.grantEvidenceDigest =
    computeConversationSendGrantEvidenceDigest H value.sendGrant
  grantSelected : value.policyHead.selectedSendGrantEvidenceDigest =
    value.sendGrant.grantEvidenceDigest
  inclusionSelected : value.policyHead.selectedSendGrantInclusionEvidenceDigest =
    value.sendGrant.grantInclusionEvidenceDigest
  quotaAuthorized : value.policyHead.authorizedQuotaPolicyDigest =
    value.conversation.quotaPolicyDigest

theorem parseSnapshot_eq_ok {value parsed : LockedApplicationAppendSnapshot} :
    parseLockedApplicationAppendSnapshot H value = .ok parsed ↔
      SnapshotChecks H value parsed.quotaBindings parsed.quotas ∧
        parsed = { value with
          quotaBindings := parsed.quotaBindings
          quotas := parsed.quotas } := by
  unfold parseLockedApplicationAppendSnapshot
  simp only [bind_ok, checkUint63_eq_ok]
  constructor
  · rintro ⟨conversation, hconversation, membership, hmembership, policyHead, hpolicyHead,
      sendGrant, hsendGrant, _, ⟨hremovals, rfl⟩, usage, husage, bindings, hbindings, quotas,
      hquotas, ⟨⟩, hanchors, h⟩
    obtain rfl := (checked_eq_ok.mp hconversation).2
    obtain rfl := (checked_eq_ok.mp hmembership).2
    obtain rfl := (checked_eq_ok.mp hpolicyHead).2
    obtain rfl := (checked_eq_ok.mp hsendGrant).2
    obtain rfl := (checked_eq_ok.mp husage).2
    by_cases hmatched : quotaBindingsMatchCounters bindings quotas = true
    · rw [if_neg (not_not.mpr hmatched)] at h
      obtain ⟨⟨⟩, hscopes, h⟩ := bind_ok.mp h
      obtain ⟨digest, hdigest, h⟩ := bind_ok.mp h
      split_ifs at h with hpolicy hgrant
      cases h
      push Not at hpolicy hgrant
      subst hpolicy
      exact ⟨⟨hconversation, hmembership, hpolicyHead, hsendGrant, hremovals, husage, hbindings,
        hquotas, hanchors, hmatched, hscopes, hdigest, hgrant.1, hgrant.2.1, hgrant.2.2.1,
        hgrant.2.2.2⟩, rfl⟩
    · rw [if_pos hmatched] at h
      cases h
  · rintro ⟨checks, hparsed⟩
    refine ⟨_, checks.conversation, _, checks.membership, _, checks.policyHead, _,
      checks.sendGrant, _, ⟨checks.removals, rfl⟩, _, checks.usage, _, checks.bindingRows, _,
      checks.quotaRows, (), checks.anchors, ?_⟩
    rw [if_neg (not_not.mpr checks.matched)]
    simp only [bind_ok]
    refine ⟨(), checks.scopeHashes, _, checks.policy, ?_⟩
    rw [if_neg (not_not.mpr rfl), if_neg]
    · rw [hparsed]
    · push Not
      exact ⟨checks.grantDigest, checks.grantSelected, checks.inclusionSelected,
        checks.quotaAuthorized⟩

theorem parseSnapshot_of_checks {value : LockedApplicationAppendSnapshot}
    (checks : SnapshotChecks H value value.quotaBindings value.quotas) :
    parseLockedApplicationAppendSnapshot H value = .ok value :=
  parseSnapshot_eq_ok.mpr ⟨checks, rfl⟩

end

section

variable {H : HashFunction}

theorem scopeText_sized (scope : QuotaScope) : Sized (utf8 scope.text) := by
  refine sized_utf8 ?_
  cases scope <;> decide

theorem quotaDigestFields_sized {quota : LockedQuotaCounter} (valid : ValidCounter quota) :
    ∀ field ∈ quotaDigestFields quota, Sized field := by
  have hoperations := valid.operations
  have hbytes := valid.bytes
  have hoperationLimit := valid.operationLimit
  have hbyteLimit := valid.byteLimit
  have hstart := isRfc3339Millis_length valid.windowStartedAt
  simp only [quotaDigestFields, List.forall_mem_cons]
  exact ⟨scopeText_sized _, sized_hash valid.scopeHash, sized_keyId valid.quotaName,
    sized_utf8 (by omega), sized_repr valid.windowSeconds.2, sized_repr (by omega),
    sized_repr (by omega), sized_repr (by omega), sized_repr (by omega),
    sized_repr valid.rowVersion, sized_repr hoperationLimit, sized_repr hbyteLimit,
    fun _ h => absurd h List.not_mem_nil⟩

theorem computeSnapshotDigest_eq_ok {value : LockedApplicationAppendSnapshot} {digest : Bytes} :
    computeLockedApplicationAppendSnapshotDigest H value = .ok digest ↔
      ∃ snapshot, parseLockedApplicationAppendSnapshot H value = .ok snapshot ∧
        H.digest (lockedSnapshotDigestInput snapshot) = digest := by
  unfold computeLockedApplicationAppendSnapshotDigest
  rw [bind_ok]
  simp only [Except.ok.injEq]

end

end JbChat.Delivery.SnapshotParse
