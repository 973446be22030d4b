/- source: src/production/delivery/state.ts, hashes.ts
   digest: The byte string hashed for a locked snapshot determines every field of it. -/

import JbChat.Delivery.QuotaConservation
import JbChat.Delivery.SnapshotParse

set_option autoImplicit false

namespace JbChat.Delivery.SnapshotDigest

open Foundation.HashTrace Foundation.LengthPrefix Foundation.Transaction
open ValueObjects Hashes Instants Snapshot Quota QuotaRules QuotaConservation SnapshotParse

theorem utf8_inj {a b : String} : utf8 a = utf8 b ↔ a = b :=
  ⟨utf8_injective, congrArg utf8⟩

theorem repr_inj {m n : Nat} : m.repr = n.repr ↔ m = n :=
  ⟨repr_injective, congrArg Nat.repr⟩

theorem kind_text_inj {a b : ConversationKind} : a.text = b.text ↔ a = b := by
  cases a <;> cases b <;> decide

theorem state_text_inj {a b : ConversationState} : a.text = b.text ↔ a = b := by
  cases a <;> cases b <;> decide

theorem installation_text_inj {a b : InstallationState} : a.text = b.text ↔ a = b := by
  cases a <;> cases b <;> decide

theorem credential_text_inj {a b : CredentialState} : a.text = b.text ↔ a = b := by
  cases a <;> cases b <;> decide

theorem role_text_inj {a b : SendRole} : a.text = b.text ↔ a = b := by
  cases a <;> cases b <;> decide

theorem grant_text_inj {a b : GrantState} : a.text = b.text ↔ a = b := by
  cases a <;> cases b <;> decide

theorem witness_text_inj {a b : HeadWitnessState} : a.text = b.text ↔ a = b := by
  cases a <;> cases b <;> decide

theorem scope_text_inj {a b : QuotaScope} : a.text = b.text ↔ a = b := by
  cases a <;> cases b <;> decide

section

variable {value label : String} {n : Nat} {bytes : Bytes}

theorem pass_uuid : pass (parseUuidV4 value label) = .ok () ↔ isUuidV4 value = true := by
  rw [pass_eq_ok]
  unfold parseUuidV4
  split_ifs with h <;> simp [h]

theorem pass_conversationId :
    pass (parseConversationId value) = .ok () ↔ isUuidV4 value = true :=
  pass_uuid

theorem pass_hash : pass (checkHash32 bytes label) = .ok () ↔ bytes.length = 32 := by
  rw [pass_eq_ok]
  simp only [checkHash32_eq_ok, exists_and_left, exists_eq, and_true]

theorem pass_uint63 : pass (checkUint63 n label) = .ok () ↔ n ≤ uint63Max := by
  rw [pass_eq_ok]
  simp only [checkUint63_eq_ok, exists_and_left, exists_eq, and_true]

theorem pass_positive :
    pass (parsePositiveUint63 n label) = .ok () ↔ 1 ≤ n ∧ n ≤ uint63Max := by
  rw [pass_eq_ok]
  simp only [parsePositiveUint63_eq_ok, exists_and_left, exists_eq, and_true]

theorem pass_instant :
    pass (parseRfc3339Millis value label) = .ok () ↔ isRfc3339Millis value = true := by
  rw [pass_eq_ok]
  simp only [parseRfc3339Millis_eq_ok, exists_and_left, exists_eq, and_true]

theorem pass_keyText :
    pass (parseKeyText value label) = .ok () ↔ isSigningKeyId value = true := by
  rw [pass_eq_ok]
  unfold parseKeyText
  split_ifs with h <;> simp [h]

theorem pass_quotaName :
    pass (parseQuotaName value label) = .ok () ↔ isSigningKeyId value = true := by
  rw [pass_eq_ok]
  simp only [parseQuotaName_eq_ok, exists_and_left, exists_eq, and_true]

theorem pass_realm :
    pass (parsePolicyRealmId value) = .ok () ↔ isSigningKeyId value = true := by
  rw [pass_eq_ok]
  unfold parsePolicyRealmId
  split_ifs with h <;> simp [h]

theorem pass_subject :
    pass (parseScopeSubjectId value label) = .ok () ↔ isScopeSubjectId value = true := by
  rw [pass_eq_ok]
  unfold parseScopeSubjectId
  split_ifs with h <;> simp [h]

theorem sized_uuid (h : pass (parseUuidV4 value label) = .ok ()) : Sized (utf8 value) := by
  have hlength := isUuidV4_length (pass_uuid.mp h)
  exact sized_utf8 (by omega)

theorem sized_conversationId (h : pass (parseConversationId value) = .ok ()) :
    Sized (utf8 value) :=
  sized_uuid h

theorem sized_checkHash (h : pass (checkHash32 bytes label) = .ok ()) : Sized bytes :=
  sized_hash (pass_hash.mp h)

theorem sized_uint63 (h : pass (checkUint63 n label) = .ok ()) : Sized (utf8 n.repr) :=
  sized_repr (pass_uint63.mp h)

theorem sized_positive (h : pass (parsePositiveUint63 n label) = .ok ()) :
    Sized (utf8 n.repr) :=
  sized_repr (pass_positive.mp h).2

theorem sized_instant (h : pass (parseRfc3339Millis value label) = .ok ()) :
    Sized (utf8 value) := by
  have hlength := isRfc3339Millis_length (pass_instant.mp h)
  exact sized_utf8 (by omega)

theorem sized_keyText (h : pass (parseKeyText value label) = .ok ()) :
    Sized (utf8 value) :=
  sized_keyId (pass_keyText.mp h)

theorem sized_realm (h : pass (parsePolicyRealmId value) = .ok ()) :
    Sized (utf8 value) :=
  sized_keyId (pass_realm.mp h)

theorem sized_subject (h : pass (parseScopeSubjectId value label) = .ok ()) :
    Sized (utf8 value) := by
  have hsubject := pass_subject.mp h
  unfold isScopeSubjectId at hsubject
  refine sized_utf8 ?_
  split at hsubject
  · cases hsubject
  · rename_i first rest hchars
    simp only [Bool.and_eq_true, decide_eq_true_eq] at hsubject
    rw [hchars, List.length_cons]
    omega

theorem sized_count (h : pass (parseMandatoryProposalCount n label) = .ok ()) :
    Sized (utf8 n.repr) := by
  obtain ⟨_, h⟩ := pass_eq_ok.mp h
  obtain ⟨_, hparsed, -⟩ := bind_ok.mp h
  exact sized_repr (checkUint63_eq_ok.mp hparsed).1

private theorem decimal_length {digits : List Char} {parsed : Nat}
    (h : parseUint63String (String.ofList digits) label = .ok parsed) : digits.length ≤ 19 := by
  obtain ⟨htext, hmax⟩ := parseUint63String_eq_ok h
  have hdigits := repr_length_of_uint63 hmax
  rw [← htext, String.toList_ofList] at hdigits
  exact hdigits

theorem sized_etag (h : pass (parseConversationEtag value) = .ok ()) :
    Sized (utf8 value) := by
  obtain ⟨_, h⟩ := pass_eq_ok.mp h
  unfold parseConversationEtag at h
  refine sized_utf8 ?_
  split at h
  · cases h
  · rename_i epoch rosterVersion hparts
    obtain ⟨_, hepoch, h⟩ := bind_ok.mp h
    obtain ⟨_, hroster, -⟩ := bind_ok.mp h
    have hepochLength := decimal_length hepoch
    have hrosterLength := decimal_length hroster
    unfold etagParts at hparts
    split at hparts
    · rename_i rest htext
      dsimp only at hparts
      split at hparts
      · rename_i tail hrest
        split_ifs at hparts with hclosed
        cases hparts
        rw [Bool.and_eq_true, beq_iff_eq] at hclosed
        have hrestLength := congrArg List.length
          (List.takeWhile_append_dropWhile (p := Char.isDigit) (l := rest))
        have htailLength := congrArg List.length
          (List.takeWhile_append_dropWhile (p := Char.isDigit) (l := tail))
        rw [hrest] at hrestLength
        rw [hclosed.2] at htailLength
        simp only [List.length_append, List.length_cons, List.length_nil] at hrestLength htailLength
        rw [htext, List.length_cons, List.length_cons]
        omega
      · cases hparts
    · cases hparts

end

theorem encodeNullable_injective {a b : Option Bytes} (ha : ∀ bytes ∈ a, Sized bytes)
    (hb : ∀ bytes ∈ b, Sized bytes) (h : encodeNullable a = encodeNullable b) : a = b := by
  have tagged : ∀ text : String, text.toList.length ≤ 1024 → ∀ value : Option Bytes,
      (∀ bytes ∈ value, Sized bytes) → ∀ field ∈ utf8 text :: value.toList, Sized field := by
    intro text htext value hvalue field hfield
    rw [List.mem_cons, Option.mem_toList] at hfield
    rcases hfield with rfl | hfield
    · exact sized_utf8 htext
    · exact hvalue field hfield
  cases a with
  | none =>
    cases b with
    | none => rfl
    | some b =>
      have := lengthPrefixed_injective (tagged "absent" (by decide) none ha)
        (tagged "present" (by decide) (some b) hb) h
      cases this
  | some a =>
    cases b with
    | none =>
      have := lengthPrefixed_injective (tagged "present" (by decide) (some a) ha)
        (tagged "absent" (by decide) none hb) h
      cases this
    | some b =>
      have := lengthPrefixed_injective (tagged "present" (by decide) (some a) ha)
        (tagged "present" (by decide) (some b) hb) h
      cases this
      rfl

theorem encodeNullable_sized {value : Option Bytes}
    (short : ∀ bytes ∈ value, bytes.length ≤ 4096) : Sized (encodeNullable value) := by
  have habsent : (utf8 "absent").length = 6 := by decide
  have hpresent : (utf8 "present").length = 7 := by decide
  cases value with
  | none =>
    simp only [Sized, encodeNullable, lengthPrefixed, lengthPrefix, List.flatMap_cons,
      List.flatMap_nil, List.length_append, List.length_nil, habsent, u32be, List.length_cons]
    decide
  | some bytes =>
    have hbytes := short bytes rfl
    simp only [Sized, encodeNullable, lengthPrefixed, lengthPrefix, List.flatMap_cons,
      List.flatMap_nil, List.length_append, List.length_nil, hpresent, u32be, List.length_cons]
    omega

def conversationFields (row : LockedConversationState) : List Bytes :=
  [utf8 row.realmId, utf8 row.conversationId, utf8 row.projectScopeId, utf8 row.tenantScopeId,
    utf8 row.kind.text, utf8 row.generation.repr, utf8 row.releaseProfileId,
    row.deliveryLimitsDigest, row.releaseTrustRootDigest, row.quotaPolicyDigest, row.groupIdHash,
    utf8 row.state.text, utf8 row.etag, utf8 row.epoch.repr, utf8 row.rosterVersion.repr,
    row.rosterHash, utf8 row.recipientSetVersion.repr, row.recipientSetHash,
    row.confirmedTranscriptHash, utf8 row.lastPosition.repr, row.currentLogHeadHash,
    utf8 row.currentPolicyHeadSequence.repr, row.currentPolicyHeadHash]

def membershipFields (row : LockedSenderMembership) : List Bytes :=
  [utf8 row.conversationId, utf8 row.accountId, utf8 row.installationId, utf8 row.credentialId,
    row.credentialFingerprint, utf8 row.credentialRevocationVersion.repr,
    utf8 row.installationState.text, utf8 row.credentialState.text, utf8 row.credentialExpiresAt,
    utf8 row.joinedPosition.repr,
    encodeNullable (row.removedPosition.map fun position => utf8 position.repr)]

def policyHeadFields (row : LockedWitnessedPolicyHead) : List Bytes :=
  [utf8 row.policyHeadId, utf8 row.conversationId, utf8 row.policyHeadSequence.repr,
    row.policyHeadHash, utf8 row.deliveryLogPosition.repr, row.deliveryLogHeadHash,
    utf8 row.evaluationLogPosition.repr, row.evaluationLogHeadHash, utf8 row.epoch.repr,
    utf8 row.rosterVersion.repr, row.confirmedTranscriptHash, utf8 row.policyRevision.repr,
    row.signedBodySha256, utf8 row.signerKeyId, row.signatureSha256, row.witnessEvidenceDigest,
    row.proofEvidenceDigest, row.policyConsistencyEvidenceDigest, utf8 row.proofVerifiedAt,
    utf8 row.issuedAt, utf8 row.expiresAt, utf8 row.witnessState.text,
    encodeNullable (row.witnessCheckpointId.map utf8), encodeNullable row.witnessedPolicyHeadHash,
    utf8 row.mandatoryProposalCount.repr, row.mandatoryProposalSetHash,
    row.authorizedSendGrantSetHash, row.selectedSendGrantEvidenceDigest,
    row.selectedSendGrantInclusionEvidenceDigest, row.authorizedQuotaPolicyDigest,
    utf8 row.priorPolicyHeadSequence.repr, row.priorPolicyHeadHash,
    utf8 row.priorPolicyWitnessCheckpointId, row.priorPolicyWitnessEvidenceDigest]

def sendGrantFields (row : LockedConversationSendGrant) : List Bytes :=
  [utf8 row.conversationId, utf8 row.installationId, utf8 row.credentialId,
    utf8 row.conversationKind.text, utf8 row.conversationGeneration.repr, utf8 row.role.text,
    utf8 row.roleCredentialId, row.roleCredentialFingerprint,
    utf8 row.roleCredentialSubjectAccountId, utf8 row.roleCredentialSubjectInstallationId,
    utf8 row.roleCredentialValidFrom, utf8 row.roleCredentialValidUntil, utf8 grantCapability,
    utf8 row.state.text, utf8 row.policyRevision.repr, utf8 row.policyHeadSequence.repr,
    row.policyHeadHash, utf8 row.expiresAt, row.grantEvidenceDigest,
    row.grantInclusionEvidenceDigest]

def usageFields (pendingRemovalCount : Nat) (row : LockedConversationUsage) : List Bytes :=
  [utf8 pendingRemovalCount.repr, utf8 row.conversationId, utf8 row.envelopeCount.repr,
    utf8 row.envelopeBytes.repr, utf8 row.attachmentBytes.repr, utf8 row.envelopeCountLimit.repr,
    utf8 row.envelopeBytesLimit.repr, utf8 row.attachmentBytesLimit.repr]

def bindingFields (row : ExpectedAppendQuotaIdentity) : List Bytes :=
  [utf8 row.scope.text, row.scopeHash, utf8 row.quotaName, utf8 row.windowStartedAt,
    utf8 row.windowSeconds.repr, utf8 row.operationLimit.repr, utf8 row.byteLimit.repr]

/-- The fields of a whole snapshot, row after row. -/
def snapshotFields (snapshot : LockedApplicationAppendSnapshot) : List Bytes :=
  conversationFields snapshot.conversation ++ (membershipFields snapshot.membership ++
    (policyHeadFields snapshot.policyHead ++ (sendGrantFields snapshot.sendGrant ++
      (usageFields snapshot.pendingRemovalCount snapshot.usage ++
        (snapshot.quotaBindings.flatMap bindingFields ++
          snapshot.quotas.flatMap quotaDigestFields)))))

theorem digestInput_eq_fields (snapshot : LockedApplicationAppendSnapshot) :
    lockedSnapshotDigestInput snapshot =
      [utf8 lockedSnapshotDigestDomain, lengthPrefixed (snapshotFields snapshot)].flatten := rfl

theorem conversationFields_sized {row : LockedConversationState}
    (parsed : parseLockedConversationState row = .ok row) :
    ∀ field ∈ conversationFields row, Sized field := by
  have checks := (checked_eq_ok.mp parsed).1
  simp only [List.forall_mem_cons] at checks
  obtain ⟨realm, conversation, project, tenant, generation, profile, limits, trustRoot, policy,
    group, etag, epoch, roster, rosterHash, recipients, recipientsHash, transcript, position,
    logHead, headSequence, headHash, -⟩ := checks
  have kind : Sized (utf8 row.kind.text) := sized_utf8 (by cases row.kind <;> decide)
  have state : Sized (utf8 row.state.text) := sized_utf8 (by cases row.state <;> decide)
  simp only [conversationFields, List.forall_mem_cons]
  exact ⟨sized_realm realm, sized_conversationId conversation, sized_subject project,
    sized_subject tenant, kind, sized_positive generation, sized_keyText profile,
    sized_checkHash limits, sized_checkHash trustRoot, sized_checkHash policy,
    sized_checkHash group, state, sized_etag etag, sized_uint63 epoch, sized_uint63 roster,
    sized_checkHash rosterHash, sized_uint63 recipients, sized_checkHash recipientsHash,
    sized_checkHash transcript, sized_uint63 position, sized_checkHash logHead,
    sized_uint63 headSequence, sized_checkHash headHash, fun _ h => absurd h List.not_mem_nil⟩

theorem pass_parseNullable {α : Type} {parse : α → Except Failure α} {value : Option α} :
    pass (parseNullable parse value) = .ok () ↔ ∀ a ∈ value, pass (parse a) = .ok () := by
  cases value with
  | none =>
    refine ⟨?_, fun _ => rfl⟩
    rintro - a ⟨⟩
  | some a =>
    simp only [parseNullable, Option.mem_some_iff, forall_eq']
    cases parse a <;> rfl

theorem membershipFields_sized {row : LockedSenderMembership}
    (parsed : parseLockedSenderMembership row = .ok row) :
    (∀ field ∈ membershipFields row, Sized field) ∧
      ∀ bytes ∈ row.removedPosition.map fun position => utf8 position.repr, Sized bytes := by
  have checks := (checked_eq_ok.mp parsed).1
  simp only [List.forall_mem_cons] at checks
  obtain ⟨conversation, account, installation, credential, fingerprint, revocation, expiry,
    joined, removed, -⟩ := checks
  have position : ∀ bytes ∈ row.removedPosition.map fun position => utf8 position.repr,
      bytes.length ≤ 4096 := by
    intro bytes hbytes
    obtain ⟨position, hposition, rfl⟩ := Option.mem_map.mp hbytes
    have hpositive := pass_positive.mp (pass_parseNullable.mp removed position hposition)
    have hdigits := repr_length_of_uint63 hpositive.2
    have hbytes := utf8_length_le position.repr
    omega
  have installationState : Sized (utf8 row.installationState.text) :=
    sized_utf8 (by cases row.installationState <;> decide)
  have credentialState : Sized (utf8 row.credentialState.text) :=
    sized_utf8 (by cases row.credentialState <;> decide)
  simp only [membershipFields, List.forall_mem_cons]
  refine ⟨⟨sized_conversationId conversation, sized_uuid account, sized_uuid installation,
    sized_uuid credential, sized_checkHash fingerprint, sized_uint63 revocation,
    installationState, credentialState, sized_instant expiry, sized_positive joined,
    encodeNullable_sized position, fun _ h => absurd h List.not_mem_nil⟩, ?_⟩
  intro bytes hbytes
  have := position bytes hbytes
  unfold Sized
  omega

theorem policyHeadFields_sized {row : LockedWitnessedPolicyHead}
    (parsed : parseLockedWitnessedPolicyHead row = .ok row) :
    (∀ field ∈ policyHeadFields row, Sized field) ∧
      (∀ bytes ∈ row.witnessCheckpointId.map utf8, Sized bytes) ∧
      ∀ bytes ∈ row.witnessedPolicyHeadHash, Sized bytes := by
  have checks := (checked_eq_ok.mp parsed).1
  simp only [List.forall_mem_cons] at checks
  obtain ⟨checkpointId, witnessedHash, -, -, issued, expires, verified, -, headId, conversation,
    sequence, headHash, deliveryPosition, deliveryHead, evaluationPosition, evaluationHead, epoch,
    roster, transcript, revision, signedBody, signer, signature, witnessEvidence, proofEvidence,
    consistency, proposals, proposalSet, grantSet, selected, inclusion, quotaPolicy,
    priorSequence, priorHash, priorCheckpoint, priorEvidence, -⟩ := checks
  have checkpoint : ∀ bytes ∈ row.witnessCheckpointId.map utf8, bytes.length ≤ 4096 := by
    intro bytes hbytes
    obtain ⟨text, htext, rfl⟩ := Option.mem_map.mp hbytes
    have hlength := isUuidV4_length (pass_uuid.mp (pass_parseNullable.mp checkpointId text htext))
    have hbytes := utf8_length_le text
    omega
  have witnessed : ∀ bytes ∈ row.witnessedPolicyHeadHash, bytes.length = 32 := by
    intro bytes hbytes
    exact pass_hash.mp (pass_parseNullable.mp witnessedHash bytes hbytes)
  have witnessState : Sized (utf8 row.witnessState.text) :=
    sized_utf8 (by cases row.witnessState <;> decide)
  have witnessedShort : ∀ bytes ∈ row.witnessedPolicyHeadHash, bytes.length ≤ 4096 := by
    intro bytes hbytes
    rw [witnessed bytes hbytes]
    decide
  simp only [policyHeadFields, List.forall_mem_cons]
  refine ⟨⟨sized_uuid headId, sized_conversationId conversation, sized_positive sequence,
    sized_checkHash headHash, sized_uint63 deliveryPosition, sized_checkHash deliveryHead,
    sized_uint63 evaluationPosition, sized_checkHash evaluationHead, sized_uint63 epoch,
    sized_uint63 roster, sized_checkHash transcript, sized_positive revision,
    sized_checkHash signedBody, sized_keyText signer, sized_checkHash signature,
    sized_checkHash witnessEvidence, sized_checkHash proofEvidence, sized_checkHash consistency,
    sized_instant verified, sized_instant issued, sized_instant expires, witnessState,
    encodeNullable_sized checkpoint, encodeNullable_sized witnessedShort, sized_count proposals,
    sized_checkHash proposalSet, sized_checkHash grantSet, sized_checkHash selected,
    sized_checkHash inclusion, sized_checkHash quotaPolicy, sized_uint63 priorSequence,
    sized_checkHash priorHash, sized_uuid priorCheckpoint, sized_checkHash priorEvidence,
    fun _ h => absurd h List.not_mem_nil⟩, ?_, ?_⟩
  · intro bytes hbytes
    have := checkpoint bytes hbytes
    unfold Sized
    omega
  · intro bytes hbytes
    exact sized_hash (witnessed bytes hbytes)

theorem sendGrantFields_sized {row : LockedConversationSendGrant}
    (parsed : parseLockedConversationSendGrant row = .ok row) :
    ∀ field ∈ sendGrantFields row, Sized field := by
  have checks := (checked_eq_ok.mp parsed).1
  simp only [List.forall_mem_cons] at checks
  obtain ⟨conversation, installation, credential, generation, roleCredential, roleFingerprint,
    roleAccount, roleInstallation, validFrom, validUntil, revision, headSequence, headHash,
    expires, evidence, inclusion, -⟩ := checks
  have kind : Sized (utf8 row.conversationKind.text) :=
    sized_utf8 (by cases row.conversationKind <;> decide)
  have role : Sized (utf8 row.role.text) := sized_utf8 (by cases row.role <;> decide)
  have capability : Sized (utf8 grantCapability) := sized_utf8 (by decide)
  have state : Sized (utf8 row.state.text) := sized_utf8 (by cases row.state <;> decide)
  simp only [sendGrantFields, List.forall_mem_cons]
  exact ⟨sized_conversationId conversation, sized_uuid installation, sized_uuid credential, kind,
    sized_positive generation, role, sized_uuid roleCredential, sized_checkHash roleFingerprint,
    sized_uuid roleAccount, sized_uuid roleInstallation, sized_instant validFrom,
    sized_instant validUntil, capability, state, sized_positive revision,
    sized_positive headSequence, sized_checkHash headHash, sized_instant expires,
    sized_checkHash evidence, sized_checkHash inclusion, fun _ h => absurd h List.not_mem_nil⟩

theorem usageFields_sized {row : LockedConversationUsage} {pendingRemovalCount : Nat}
    (removals : pendingRemovalCount ≤ uint63Max)
    (parsed : parseLockedConversationUsage row = .ok row) :
    ∀ field ∈ usageFields pendingRemovalCount row, Sized field := by
  have checks := (checked_eq_ok.mp parsed).1
  simp only [List.forall_mem_cons] at checks
  obtain ⟨conversation, count, bytes, attachments, countLimit, bytesLimit, attachmentsLimit, -⟩ :=
    checks
  simp only [usageFields, List.forall_mem_cons]
  exact ⟨sized_repr removals, sized_conversationId conversation, sized_uint63 count,
    sized_uint63 bytes, sized_uint63 attachments, sized_uint63 countLimit,
    sized_uint63 bytesLimit, sized_uint63 attachmentsLimit, fun _ h => absurd h List.not_mem_nil⟩

/-- The facts that a parsed binding carries. -/
structure ValidBinding (row : ExpectedAppendQuotaIdentity) : Prop where
  scopeHash : row.scopeHash.length = 32
  quotaName : isSigningKeyId row.quotaName = true
  windowStartedAt : isRfc3339Millis row.windowStartedAt = true
  windowSeconds : 1 ≤ row.windowSeconds ∧ row.windowSeconds ≤ uint63Max
  operationLimit : row.operationLimit ≤ uint63Max
  byteLimit : row.byteLimit ≤ uint63Max

theorem parseExpectedQuotaIdentity_eq_ok (row : ExpectedAppendQuotaIdentity) (index : Nat)
    (parsed : ExpectedAppendQuotaIdentity) :
    parseExpectedQuotaIdentity row index = .ok parsed ↔ ValidBinding row ∧ parsed = row := by
  unfold parseExpectedQuotaIdentity
  rw [checked_eq_ok]
  refine and_congr_left fun _ => ?_
  simp only [List.forall_mem_cons, pass_hash, pass_quotaName, pass_instant, pass_positive,
    pass_uint63]
  constructor
  · rintro ⟨scopeHash, name, start, seconds, operations, bytes, -⟩
    exact ⟨scopeHash, name, start, seconds, operations, bytes⟩
  · rintro ⟨scopeHash, name, start, seconds, operations, bytes⟩
    exact ⟨scopeHash, name, start, seconds, operations, bytes,
      fun _ h => absurd h List.not_mem_nil⟩

theorem bindingFields_sized {row : ExpectedAppendQuotaIdentity} (valid : ValidBinding row) :
    ∀ field ∈ bindingFields row, Sized field := by
  have hstart := isRfc3339Millis_length valid.windowStartedAt
  simp only [bindingFields, List.forall_mem_cons]
  exact ⟨scopeText_sized _, sized_hash valid.scopeHash, sized_keyId valid.quotaName,
    sized_utf8 (by omega), sized_repr valid.windowSeconds.2, sized_repr valid.operationLimit,
    sized_repr valid.byteLimit, fun _ h => absurd h List.not_mem_nil⟩

structure Bindings (bindings : List ExpectedAppendQuotaIdentity) : Prop where
  valid : ∀ binding ∈ bindings, ValidBinding binding
  scopes : bindings.map ExpectedAppendQuotaIdentity.scope = quotaScopes

theorem parseExpectedQuotaIdentities_of_bindings {bindings : List ExpectedAppendQuotaIdentity}
    (ordered : Bindings bindings) : parseExpectedQuotaIdentities bindings = .ok bindings := by
  have hlength : bindings.length = quotaScopes.length := by
    rw [← ordered.scopes, List.length_map]
  unfold parseExpectedQuotaIdentities
  rw [if_neg (not_not.mpr hlength), bind_ok]
  exact ⟨bindings, (parseEach_eq_ok parseExpectedQuotaIdentity_eq_ok).mpr ⟨ordered.valid, rfl⟩,
    orderByScope_of_ordered ordered.scopes _⟩

theorem parseExpectedQuotaIdentities_eq_ok {value bindings : List ExpectedAppendQuotaIdentity}
    (parsed : parseExpectedQuotaIdentities value = .ok bindings) : Bindings bindings := by
  unfold parseExpectedQuotaIdentities at parsed
  split_ifs at parsed
  obtain ⟨rows, hrows, horder⟩ := bind_ok.mp parsed
  obtain ⟨hvalid, rfl⟩ := (parseEach_eq_ok parseExpectedQuotaIdentity_eq_ok).mp hrows
  obtain ⟨hscopes, hmem⟩ := orderByScope_eq_ok horder
  exact ⟨fun binding hbinding => hvalid binding ((hmem binding).mp hbinding), hscopes⟩

theorem conversationFields_injective {a b : LockedConversationState}
    (h : conversationFields a = conversationFields b) : a = b := by
  cases a
  cases b
  simp only [conversationFields, List.cons.injEq, utf8_inj, repr_inj, kind_text_inj,
    state_text_inj, and_true] at h
  simp only [LockedConversationState.mk.injEq]
  exact h

theorem membershipFields_injective {a b : LockedSenderMembership}
    (ha : parseLockedSenderMembership a = .ok a) (hb : parseLockedSenderMembership b = .ok b)
    (h : membershipFields a = membershipFields b) : a = b := by
  have removedA := (membershipFields_sized ha).2
  have removedB := (membershipFields_sized hb).2
  cases a
  cases b
  simp only [membershipFields, List.cons.injEq, utf8_inj, repr_inj, installation_text_inj,
    credential_text_inj, and_true] at h
  obtain ⟨conversation, account, installation, credential, fingerprint, revocation,
    installationState, credentialState, expires, joined, removed⟩ := h
  have injective : Function.Injective fun position : Nat => utf8 position.repr :=
    fun _ _ same => repr_injective (utf8_injective same)
  have removedPosition := Option.map_injective injective
    (encodeNullable_injective removedA removedB removed)
  simp only [LockedSenderMembership.mk.injEq]
  exact ⟨conversation, account, installation, credential, fingerprint, revocation,
    installationState, credentialState, expires, joined, removedPosition⟩

theorem policyHeadFields_injective {a b : LockedWitnessedPolicyHead}
    (ha : parseLockedWitnessedPolicyHead a = .ok a)
    (hb : parseLockedWitnessedPolicyHead b = .ok b)
    (h : policyHeadFields a = policyHeadFields b) : a = b := by
  obtain ⟨-, checkpointA, witnessedA⟩ := policyHeadFields_sized ha
  obtain ⟨-, checkpointB, witnessedB⟩ := policyHeadFields_sized hb
  cases a
  cases b
  simp only [policyHeadFields, List.cons.injEq, utf8_inj, repr_inj, witness_text_inj,
    and_true] at h
  obtain ⟨headId, conversation, sequence, headHash, deliveryPosition, deliveryHead,
    evaluationPosition, evaluationHead, epoch, roster, transcript, revision, signedBody, signer,
    signature, witnessEvidence, proofEvidence, consistency, verified, issued, expires,
    witnessState, checkpoint, witnessed, rest⟩ := h
  have checkpointId := Option.map_injective (fun _ _ => utf8_injective)
    (encodeNullable_injective checkpointA checkpointB checkpoint)
  have witnessedHash := encodeNullable_injective witnessedA witnessedB witnessed
  simp only [LockedWitnessedPolicyHead.mk.injEq]
  exact ⟨headId, conversation, sequence, headHash, deliveryPosition, deliveryHead,
    evaluationPosition, evaluationHead, epoch, roster, transcript, revision, signedBody, signer,
    signature, witnessEvidence, proofEvidence, consistency, verified, issued, expires,
    witnessState, checkpointId, witnessedHash, rest⟩

theorem sendGrantFields_injective {a b : LockedConversationSendGrant}
    (h : sendGrantFields a = sendGrantFields b) : a = b := by
  cases a
  cases b
  simp only [sendGrantFields, List.cons.injEq, utf8_inj, repr_inj, kind_text_inj, role_text_inj,
    grant_text_inj, and_true, true_and] at h
  simp only [LockedConversationSendGrant.mk.injEq]
  exact h

theorem usageFields_injective {m n : Nat} {a b : LockedConversationUsage}
    (h : usageFields m a = usageFields n b) : m = n ∧ a = b := by
  cases a
  cases b
  simp only [usageFields, List.cons.injEq, utf8_inj, repr_inj, and_true] at h
  simp only [LockedConversationUsage.mk.injEq]
  exact h

theorem bindingFields_injective {a b : ExpectedAppendQuotaIdentity}
    (h : bindingFields a = bindingFields b) : a = b := by
  cases a
  cases b
  simp only [bindingFields, List.cons.injEq, utf8_inj, repr_inj, scope_text_inj, and_true] at h
  simp only [ExpectedAppendQuotaIdentity.mk.injEq]
  exact h

theorem quotaDigestFields_injective {a b : LockedQuotaCounter}
    (h : quotaDigestFields a = quotaDigestFields b) : a = b := by
  cases a
  cases b
  simp only [quotaDigestFields, List.cons.injEq, utf8_inj, repr_inj, scope_text_inj,
    and_true] at h
  simp only [LockedQuotaCounter.mk.injEq]
  exact h

section

variable {H : HashFunction} {value other snapshot another : LockedApplicationAppendSnapshot}

theorem parsed_checks (parsed : parseLockedApplicationAppendSnapshot H value = .ok snapshot) :
    SnapshotChecks H value snapshot.quotaBindings snapshot.quotas ∧
      snapshot.conversation = value.conversation ∧ snapshot.membership = value.membership ∧
      snapshot.policyHead = value.policyHead ∧ snapshot.sendGrant = value.sendGrant ∧
      snapshot.pendingRemovalCount = value.pendingRemovalCount ∧
      snapshot.usage = value.usage := by
  obtain ⟨checks, hparsed⟩ := parseSnapshot_eq_ok.mp parsed
  rw [hparsed]
  exact ⟨checks, rfl, rfl, rfl, rfl, rfl, rfl⟩

theorem parseSnapshot_idem (parsed : parseLockedApplicationAppendSnapshot H value = .ok snapshot) :
    parseLockedApplicationAppendSnapshot H snapshot = .ok snapshot := by
  obtain ⟨checks, hparsed⟩ := parseSnapshot_eq_ok.mp parsed
  have bindings := parseExpectedQuotaIdentities_of_bindings
    (parseExpectedQuotaIdentities_eq_ok checks.bindingRows)
  have quotas := parseLockedQuotaCounters_of_counters
    (parseLockedQuotaCounters_eq_ok checks.quotaRows)
  refine parseSnapshot_of_checks ?_
  rw [hparsed]
  exact ⟨checks.conversation, checks.membership, checks.policyHead, checks.sendGrant,
    checks.removals, checks.usage, bindings, quotas, checks.anchors, checks.matched,
    checks.scopeHashes, checks.policy, checks.grantDigest, checks.grantSelected,
    checks.inclusionSelected, checks.quotaAuthorized⟩

theorem snapshotFields_sized (parsed : parseLockedApplicationAppendSnapshot H value = .ok snapshot) :
    ∀ field ∈ snapshotFields snapshot, Sized field := by
  obtain ⟨checks, hconversation, hmembership, hpolicyHead, hsendGrant, hremovals, husage⟩ :=
    parsed_checks parsed
  have bindings := parseExpectedQuotaIdentities_eq_ok checks.bindingRows
  have quotas := parseLockedQuotaCounters_eq_ok checks.quotaRows
  intro field hfield
  simp only [snapshotFields, List.mem_append, List.mem_flatMap] at hfield
  rw [hconversation, hmembership, hpolicyHead, hsendGrant, hremovals, husage] at hfield
  rcases hfield with h | h | h | h | h | ⟨binding, hbinding, h⟩ | ⟨quota, hquota, h⟩
  · exact conversationFields_sized checks.conversation field h
  · exact (membershipFields_sized checks.membership).1 field h
  · exact (policyHeadFields_sized checks.policyHead).1 field h
  · exact sendGrantFields_sized checks.sendGrant field h
  · exact usageFields_sized checks.removals checks.usage field h
  · exact bindingFields_sized (bindings.valid binding hbinding) field h
  · exact quotaDigestFields_sized (quotas.valid quota hquota) field h

theorem digestInput_injective (first : parseLockedApplicationAppendSnapshot H value = .ok snapshot)
    (second : parseLockedApplicationAppendSnapshot H other = .ok another)
    (same : lockedSnapshotDigestInput snapshot = lockedSnapshotDigestInput another) :
    snapshot = another := by
  rw [digestInput_eq_fields, digestInput_eq_fields] at same
  have fields := domain_fields_injective (snapshotFields_sized first)
    (snapshotFields_sized second) same
  obtain ⟨checks, -, hmembership, hpolicyHead, -, -, -⟩ := parsed_checks first
  obtain ⟨checks', -, hmembership', hpolicyHead', -, -, -⟩ := parsed_checks second
  obtain ⟨conversation, fields⟩ := List.append_inj fields rfl
  obtain ⟨membership, fields⟩ := List.append_inj fields rfl
  obtain ⟨policyHead, fields⟩ := List.append_inj fields rfl
  obtain ⟨sendGrant, fields⟩ := List.append_inj fields rfl
  obtain ⟨usage, fields⟩ := List.append_inj fields rfl
  have bindingScopes := (parseExpectedQuotaIdentities_eq_ok checks.bindingRows).scopes
  have bindingScopes' := (parseExpectedQuotaIdentities_eq_ok checks'.bindingRows).scopes
  have quotaScopes := (parseLockedQuotaCounters_eq_ok checks.quotaRows).scopes
  have quotaScopes' := (parseLockedQuotaCounters_eq_ok checks'.quotaRows).scopes
  have bindingCount : snapshot.quotaBindings.length = another.quotaBindings.length := by
    rw [← List.length_map (f := ExpectedAppendQuotaIdentity.scope), bindingScopes,
      ← bindingScopes', List.length_map]
  have quotaCount : snapshot.quotas.length = another.quotas.length := by
    rw [← List.length_map (f := LockedQuotaCounter.scope), quotaScopes, ← quotaScopes',
      List.length_map]
  have bindingWidth : (snapshot.quotaBindings.flatMap bindingFields).length =
      (another.quotaBindings.flatMap bindingFields).length := by
    simp [List.length_flatMap, bindingFields, bindingCount]
  obtain ⟨bindings, quotas⟩ := List.append_inj fields bindingWidth
  have hconversation := conversationFields_injective conversation
  have hmembershipEq := membershipFields_injective (hmembership ▸ checks.membership)
    (hmembership' ▸ checks'.membership) membership
  have hpolicyHeadEq := policyHeadFields_injective (hpolicyHead ▸ checks.policyHead)
    (hpolicyHead' ▸ checks'.policyHead) policyHead
  have hsendGrant := sendGrantFields_injective sendGrant
  obtain ⟨hremovals, husage⟩ := usageFields_injective usage
  have sevenFields : ∀ row, (bindingFields row).length = 7 := fun _ => rfl
  have twelveFields : ∀ row, (quotaDigestFields row).length = 12 := fun _ => rfl
  have hbindings := flatMap_fields_injective sevenFields
    (fun _ _ _ _ => bindingFields_injective) bindingCount bindings
  have hquotas := flatMap_fields_injective twelveFields
    (fun _ _ _ _ => quotaDigestFields_injective) quotaCount quotas
  cases snapshot
  cases another
  simp only [LockedApplicationAppendSnapshot.mk.injEq]
  exact ⟨hconversation, hmembershipEq, hpolicyHeadEq, hsendGrant, hremovals, husage, hbindings,
    hquotas⟩

/-- The digest commits to everything: equal hashed byte strings come from equal snapshots, and
equal digests come from equal snapshots or from two byte strings with one hash. -/
theorem snapshotDigest_commits
    (first : parseLockedApplicationAppendSnapshot H value = .ok snapshot)
    (second : parseLockedApplicationAppendSnapshot H other = .ok another) :
    (lockedSnapshotDigestInput snapshot = lockedSnapshotDigestInput another →
      snapshot = another) ∧
    (computeLockedApplicationAppendSnapshotDigest H value =
        computeLockedApplicationAppendSnapshotDigest H other →
      snapshot = another ∨
        (lockedSnapshotDigestInput snapshot ≠ lockedSnapshotDigestInput another ∧
          H.digest (lockedSnapshotDigestInput snapshot) =
            H.digest (lockedSnapshotDigestInput another))) := by
  refine ⟨digestInput_injective first second, ?_⟩
  intro sameDigest
  have hfirst := computeSnapshotDigest_eq_ok.mpr ⟨snapshot, first, rfl⟩
  have hsecond := computeSnapshotDigest_eq_ok.mpr ⟨another, second, rfl⟩
  rw [hfirst, hsecond] at sameDigest
  by_cases same : lockedSnapshotDigestInput snapshot = lockedSnapshotDigestInput another
  · exact .inl (digestInput_injective first second same)
  · exact .inr ⟨same, Except.ok.inj sameDigest⟩

end

section

/-- The sender of a sample snapshot, where it sends to, and the times of its rows. -/
structure SampleSender where
  conversationId : String
  projectScopeId : String
  accountId : String
  installationId : String
  windowStartedAt : String
  validFrom : String
  validUntil : String
  issuedAt : String
  expiresAt : String

structure SampleSender.Valid (sender : SampleSender) : Prop where
  conversationId : isUuidV4 sender.conversationId = true
  projectScopeId : isScopeSubjectId sender.projectScopeId = true
  accountId : isUuidV4 sender.accountId = true
  installationId : isUuidV4 sender.installationId = true
  conversationSubject : isScopeSubjectId sender.conversationId = true
  accountSubject : isScopeSubjectId sender.accountId = true
  installationSubject : isScopeSubjectId sender.installationId = true
  windowStartedAt : isRfc3339Millis sender.windowStartedAt = true
  validFrom : isRfc3339Millis sender.validFrom = true
  validUntil : isRfc3339Millis sender.validUntil = true
  issuedAt : isRfc3339Millis sender.issuedAt = true
  expiresAt : isRfc3339Millis sender.expiresAt = true
  fresh : ¬ (sender.expiresAt ≤ sender.issuedAt ∨
    dateParse sender.expiresAt - dateParse sender.issuedAt > 300000 ∨
    sender.issuedAt < sender.issuedAt ∨ sender.expiresAt ≤ sender.issuedAt)

def sampleRealm : String := "00000000-0000-4000-8000-00000000a002"
def sampleTenant : String := "tenant:00000000-0000-4000-8000-00000000a001"
def sampleCredential : String := "44444444-4444-4444-8444-444444444444"
def sampleCheckpoint : String := "77777777-7777-4777-8777-777777777777"

def sampleHash32 (byte : UInt8) : Bytes := List.replicate 32 byte

variable (H : HashFunction) (sender : SampleSender)

def sampleSubject : QuotaScope → String
  | .installation => sender.installationId
  | .account => sender.accountId
  | .project => sender.projectScopeId
  | .conversation => sender.conversationId
  | .tenant => sampleTenant

def sampleBinding (scope : QuotaScope) : ExpectedAppendQuotaIdentity :=
  ⟨scope, sha256Bytes H [utf8 quotaScopeHashDomain, lengthPrefixed [utf8 sampleRealm,
    utf8 scope.text, utf8 (sampleSubject sender scope)]], "application-append",
    sender.windowStartedAt, 86400, 1000, 1048576⟩

def sampleBindings : List ExpectedAppendQuotaIdentity := quotaScopes.map (sampleBinding H sender)

def sampleQuotas (version : QuotaScope → Nat) : List LockedQuotaCounter :=
  (sampleBindings H sender).map fun binding =>
    ⟨binding.scope, binding.scopeHash, binding.quotaName, binding.windowStartedAt,
      binding.windowSeconds, 0, 0, 0, 0, version binding.scope, binding.operationLimit,
      binding.byteLimit⟩

def sampleQuotaPolicyDigest : Bytes :=
  sha256Bytes H [utf8 quotaPolicyDigestDomain,
    lengthPrefixed ((sampleBindings H sender).flatMap fun binding =>
      [utf8 binding.scope.text, utf8 binding.quotaName, utf8 binding.windowSeconds.repr,
        utf8 binding.operationLimit.repr, utf8 binding.byteLimit.repr])]

def sampleConversation : LockedConversationState :=
  ⟨sampleRealm, sender.conversationId, sender.projectScopeId, sampleTenant, .community, 1,
    "profile", sampleHash32 2, sampleHash32 3, sampleQuotaPolicyDigest H sender, sampleHash32 5,
    .active, "\"e3-r2\"", 3, 2, sampleHash32 6, 2, sampleHash32 7, sampleHash32 8, 5,
    sampleHash32 9, 4, sampleHash32 10⟩

def sampleMembership : LockedSenderMembership :=
  ⟨sender.conversationId, sender.accountId, sender.installationId, sampleCredential,
    sampleHash32 11, 1, .active, .active, sender.validUntil, 1, none⟩

def sampleGrant : LockedConversationSendGrant :=
  let unsealed : LockedConversationSendGrant :=
    ⟨sender.conversationId, sender.installationId, sampleCredential, .community, 1, .member,
      "55555555-5555-4555-8555-555555555555", sampleHash32 12, sender.accountId,
      sender.installationId, sender.validFrom, sender.validUntil, .active, 1, 4, sampleHash32 10,
      sender.validUntil, [], sampleHash32 13⟩
  { unsealed with grantEvidenceDigest := computeConversationSendGrantEvidenceDigest H unsealed }

def samplePolicyHead : LockedWitnessedPolicyHead :=
  let unsealed : LockedWitnessedPolicyHead :=
    ⟨"66666666-6666-4666-8666-666666666666", sender.conversationId, 4, sampleHash32 10, 5,
      sampleHash32 9, 5, sampleHash32 9, 3, 2, sampleHash32 8, 1, sampleHash32 14, "signer",
      sampleHash32 15, sampleHash32 16, [], sampleHash32 18, sender.issuedAt, sender.issuedAt,
      sender.expiresAt, .verified, some sampleCheckpoint, some (sampleHash32 10), 0,
      sampleHash32 19, sampleHash32 20, (sampleGrant H sender).grantEvidenceDigest,
      sampleHash32 13, sampleQuotaPolicyDigest H sender, 3, sampleHash32 21,
      "88888888-8888-4888-8888-888888888888", sampleHash32 22⟩
  { unsealed with
    proofEvidenceDigest := computePolicyHeadProofEvidenceDigest H (sampleConversation H sender)
      unsealed sampleCheckpoint (sampleHash32 10) }

def sampleUsage : LockedConversationUsage :=
  ⟨sender.conversationId, 5, 500, 0, 100, 10000, 10000⟩

def sampleSnapshot (version : QuotaScope → Nat) : LockedApplicationAppendSnapshot :=
  ⟨sampleConversation H sender, sampleMembership sender, samplePolicyHead H sender,
    sampleGrant H sender, 0, sampleUsage sender, sampleBindings H sender,
    sampleQuotas H sender version⟩

variable {H sender} {version : QuotaScope → Nat}

theorem sampleConversation_parses (valid : sender.Valid) :
    parseLockedConversationState (sampleConversation H sender) =
      .ok (sampleConversation H sender) := by
  have realm : isSigningKeyId sampleRealm = true := rfl
  have tenant : isScopeSubjectId sampleTenant = true := rfl
  have profile : isSigningKeyId "profile" = true := rfl
  have etag : pass (parseConversationEtag "\"e3-r2\"") = .ok () := rfl
  refine checked_eq_ok.mpr ⟨?_, rfl⟩
  simp [sampleConversation, pass_realm, pass_conversationId, pass_subject, pass_positive,
    pass_keyText, pass_hash, pass_uint63, realm, tenant, profile, etag, valid.conversationId,
    valid.projectScopeId, uint63Max, sampleHash32, sampleQuotaPolicyDigest, sha256Bytes,
    H.length_digest]

theorem sampleMembership_parses (valid : sender.Valid) :
    parseLockedSenderMembership (sampleMembership sender) = .ok (sampleMembership sender) := by
  have credential : isUuidV4 sampleCredential = true := rfl
  refine checked_eq_ok.mpr ⟨?_, rfl⟩
  simp [sampleMembership, pass_conversationId, pass_uuid, pass_hash, pass_uint63, pass_instant,
    pass_positive, parseNullable, pass_eq_ok (β := Option Nat), valid.conversationId,
    valid.accountId, valid.installationId, credential, valid.validUntil, uint63Max, sampleHash32]

theorem sampleGrant_parses (valid : sender.Valid) :
    parseLockedConversationSendGrant (sampleGrant H sender) = .ok (sampleGrant H sender) := by
  have credential : isUuidV4 sampleCredential = true := rfl
  have role : isUuidV4 "55555555-5555-4555-8555-555555555555" = true := by decide +kernel
  refine checked_eq_ok.mpr ⟨?_, rfl⟩
  simp [sampleGrant, pass_conversationId, pass_uuid, pass_hash, pass_instant, pass_positive,
    valid.conversationId, valid.accountId, valid.installationId, credential, role,
    valid.validFrom, valid.validUntil, uint63Max, sampleHash32,
    computeConversationSendGrantEvidenceDigest, sha256Bytes,
    H.length_digest]

theorem samplePolicyHead_parses (valid : sender.Valid) :
    parseLockedWitnessedPolicyHead (samplePolicyHead H sender) =
      .ok (samplePolicyHead H sender) := by
  have head : isUuidV4 "66666666-6666-4666-8666-666666666666" = true := rfl
  have prior : isUuidV4 "88888888-8888-4888-8888-888888888888" = true := by decide +kernel
  have signer : isSigningKeyId "signer" = true := by decide +kernel
  have proposals : pass (parseMandatoryProposalCount 0 "mandatory proposal count") = .ok () :=
    rfl
  have checkpointId : pass (parseNullable (parseUuidV4 · "witnessCheckpointId")
      (some sampleCheckpoint)) = .ok () :=
    rfl
  have witnessed : pass (parseNullable (checkHash32 · "witnessed policy head hash")
      (some (sampleHash32 10))) = .ok () := by
    rw [pass_parseNullable]
    rintro bytes ⟨⟩
    exact pass_hash.mpr (by decide)
  refine checked_eq_ok.mpr ⟨?_, rfl⟩
  simp only [samplePolicyHead, List.forall_mem_cons, pass_conversationId, pass_uuid, pass_hash,
    pass_instant, pass_positive, pass_uint63, pass_keyText, refuse_eq_ok, checkpointId, witnessed,
    valid.issuedAt, valid.expiresAt, valid.fresh, head, prior, signer, proposals,
    valid.conversationId]
  simp [uint63Max, sampleHash32, sha256Bytes, H.length_digest, sampleGrant,
    computeConversationSendGrantEvidenceDigest, sampleQuotaPolicyDigest,
    computePolicyHeadProofEvidenceDigest, refuse]

theorem sampleUsage_parses (valid : sender.Valid) :
    parseLockedConversationUsage (sampleUsage sender) = .ok (sampleUsage sender) := by
  refine checked_eq_ok.mpr ⟨?_, rfl⟩
  simp [sampleUsage, pass_conversationId, pass_uint63, refuse_eq_ok, valid.conversationId,
    uint63Max]

theorem sampleBindings_parse (valid : sender.Valid) :
    parseExpectedQuotaIdentities (sampleBindings H sender) = .ok (sampleBindings H sender) := by
  refine parseExpectedQuotaIdentities_of_bindings ⟨?_, rfl⟩
  intro binding hbinding
  obtain ⟨scope, -, rfl⟩ := List.mem_map.mp hbinding
  have name : isSigningKeyId "application-append" = true := rfl
  constructor <;> simp [sampleBinding, sha256Bytes, H.length_digest, valid.windowStartedAt,
    name, uint63Max]

theorem sampleQuotas_counters (valid : sender.Valid) (small : ∀ scope, version scope ≤ uint63Max) :
    Counters (sampleQuotas H sender version) := by
  refine ⟨?_, rfl⟩
  intro quota hquota
  simp only [sampleQuotas, sampleBindings, List.map_map, List.mem_map] at hquota
  obtain ⟨scope, -, rfl⟩ := hquota
  have name : isSigningKeyId "application-append" = true := rfl
  constructor <;> simp [sampleBinding, sha256Bytes, H.length_digest, valid.windowStartedAt,
    name, small]
  all_goals simp [uint63Max]

theorem sampleSnapshot_checks (valid : sender.Valid) (small : ∀ scope, version scope ≤ uint63Max) :
    SnapshotChecks H (sampleSnapshot H sender version) (sampleBindings H sender)
      (sampleQuotas H sender version) where
  conversation := sampleConversation_parses valid
  membership := sampleMembership_parses valid
  policyHead := samplePolicyHead_parses valid
  sendGrant := sampleGrant_parses valid
  removals := Nat.zero_le uint63Max
  usage := sampleUsage_parses valid
  bindingRows := sampleBindings_parse valid
  quotaRows := parseLockedQuotaCounters_of_counters (sampleQuotas_counters valid small)
  anchors := by
    have head : sampleHash32 9 ≠ zeroHash := by decide
    simp [checkLockedAnchors, sampleSnapshot, sampleConversation, sampleMembership,
      samplePolicyHead, sampleGrant, sampleUsage, head, computePolicyHeadProofEvidenceDigest]
  matched := by
    simp [quotaBindingsMatchCounters, sampleQuotas, sampleBindings, quotaScopes, sampleBinding]
  scopeHashes := by
    have realm : isSigningKeyId sampleRealm = true := rfl
    have tenant : isScopeSubjectId sampleTenant = true := rfl
    have each : ∀ scope, computeApplicationAppendQuotaScopeHash H sampleRealm scope
        (quotaSubjectId (sampleConversation H sender) (sampleMembership sender) scope) =
          .ok (sampleBinding H sender scope).scopeHash := by
      intro scope
      have subject : isScopeSubjectId (quotaSubjectId (sampleConversation H sender)
          (sampleMembership sender) scope) = true := by
        cases scope with
        | installation => exact valid.installationSubject
        | account => exact valid.accountSubject
        | project => exact valid.projectScopeId
        | conversation => exact valid.conversationSubject
        | tenant => exact tenant
      have same : quotaSubjectId (sampleConversation H sender) (sampleMembership sender) scope =
          sampleSubject sender scope := by
        cases scope <;> rfl
      rw [same] at subject ⊢
      simp only [computeApplicationAppendQuotaScopeHash, parsePolicyRealmId, realm,
        parseScopeSubjectId, subject, if_true]
      rfl
    change checkQuotaScopeHashes H (sampleConversation H sender) (sampleMembership sender)
      (quotaScopes.map (sampleBinding H sender)) = .ok ()
    induction quotaScopes with
    | nil => rfl
    | cons scope scopes ih =>
      refine bind_ok.mpr ⟨_, each scope, ?_⟩
      rw [if_neg (not_not.mpr rfl)]
      exact ih
  policy := bind_ok.mpr ⟨_, sampleBindings_parse valid, rfl⟩
  grantDigest := rfl
  grantSelected := rfl
  inclusionSelected := rfl
  quotaAuthorized := rfl

theorem sampleSnapshot_parses (valid : sender.Valid) (small : ∀ scope, version scope ≤ uint63Max) :
    parseLockedApplicationAppendSnapshot H (sampleSnapshot H sender version) =
      .ok (sampleSnapshot H sender version) :=
  parseSnapshot_of_checks (sampleSnapshot_checks valid small)

def sampleSender : SampleSender :=
  ⟨"11111111-1111-4111-8111-111111111111", "project:1", "22222222-2222-4222-8222-222222222222",
    "33333333-3333-4333-8333-333333333333", "2024-03-01T00:00:00.000Z",
    "2024-01-01T00:00:00.000Z", "2024-12-31T23:59:59.999Z", "2024-03-01T12:00:00.000Z",
    "2024-03-01T12:05:00.000Z"⟩

theorem sampleSender_valid : sampleSender.Valid := by
  constructor <;> decide +kernel

/-- One row version apart, and hashed as different byte strings. -/
theorem sampleSnapshots_told_apart :
    lockedSnapshotDigestInput (sampleSnapshot sampleHash sampleSender fun _ => 8) ≠
      lockedSnapshotDigestInput (sampleSnapshot sampleHash sampleSender fun _ => 9) := by
  intro same
  have parsed (n : Nat) (h : n ≤ uint63Max) :
      parseLockedApplicationAppendSnapshot sampleHash
        (sampleSnapshot sampleHash sampleSender fun _ => n) = .ok _ :=
    sampleSnapshot_parses sampleSender_valid fun _ => h
  have equal := (snapshotDigest_commits (parsed 8 (by decide)) (parsed 9 (by decide))).1 same
  have versions := congrArg (fun snapshot => snapshot.quotas.map LockedQuotaCounter.rowVersion) equal
  revert versions
  decide

end

end JbChat.Delivery.SnapshotDigest
