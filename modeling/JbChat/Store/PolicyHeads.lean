/- source: src/production/storage/policyHeadIssuanceStore.ts, appendAuthority.ts
   digest: How a policy head is built, signed, anchored and put into the policy log. -/

import JbChat.Delivery.PolicyHeadBody
import JbChat.Store.Authority
import JbChat.Store.Provisioning
import JbChat.Witness.MerkleLog

/-!
Random ids and the readings of the clock are arguments. A savepoint inside a transaction that
throws is the throw of the whole transaction, since no caller catches it.
-/

set_option autoImplicit false

namespace JbChat.Store.PolicyHeads

open Foundation.HashTrace (Bytes HashFunction)
open Foundation.Transaction Delivery.ValueObjects Delivery.Instants
open Delivery.InstantOrder (toISOString)
open Delivery.Hashes Delivery.Snapshot
open Delivery.PolicyHeadBody hiding hexDigit
open Tables Store.Authority Provisioning
open Witness.MerkleLog (merkleRoot leafHash)

section

/-- `headValidityMilliseconds` after an instant. -/
def laterInstant (instant : String) (milliseconds : Int) : Except Failure String :=
  match toISOString (dateParse instant + milliseconds) with
  | none => .error (.invalid "Invalid time value")
  | some text => .ok text

def headValidityMilliseconds : Int := 300000

def maxCanonicalBodyBytes : Nat := 65536

/-- A head's signer: the key's id and the seed its signatures are made with. -/
structure PolicyHeadSigner where
  signerKeyId : String
  seed : Bytes

structure PolicyHeadIssuanceInput where
  conversationId : String
  policyId : String
  policyRevision : Nat
  policyHash : Bytes
  authorizedQuotaPolicyDigest : Bytes
  evaluatedChainId : String
  evaluatedBlock : Nat
  evaluatedBlockHash : Bytes
  activeExternalSenderCredentialId : String
  activeExternalSenderFingerprint : Bytes
  activeSignerGeneration : Nat
  directoryCheckpointId : String
  policyLogCheckpointId : String
  mandatoryProposals : List MandatoryProposalEntry
  sendGrantSetMembers : List SendGrantSetMemberEntry

structure IssuedPolicyHead where
  policyHeadId : String
  policyHeadSequence : Nat
  policyHeadHash : Bytes
  previousPolicyHeadHash : Bytes
  canonicalSignedBody : String
  issuedAt : String
  expiresAt : String

structure ServedPolicyHead extends IssuedPolicyHead where
  signerKeyId : String
  signature : Bytes

variable (keys : AuthorityDerivations) (H : HashFunction)

def unsignedBody (input : PolicyHeadIssuanceInput) (conversation : ConversationRow)
    (policyHeadId issuedAt expiresAt signerKeyId : String) : UnsignedBody where
  policyHeadId := policyHeadId
  policyHeadSequence := conversation.currentPolicyHeadSequence + 1
  previousPolicyHeadHash := if conversation.currentPolicyHeadSequence = 0 then zeroHash
    else conversation.currentPolicyHeadHash
  conversationId := input.conversationId
  epoch := conversation.epoch
  rosterVersion := conversation.rosterVersion
  rosterHash := conversation.rosterHash
  confirmedTranscriptHash := conversation.confirmedTranscriptHash
  policyId := input.policyId
  policyRevision := input.policyRevision
  policyHash := input.policyHash
  authorizedSendGrantSetHash := computeSendGrantSetHash H input.sendGrantSetMembers
  authorizedQuotaPolicyDigest := input.authorizedQuotaPolicyDigest
  evaluatedChainId := input.evaluatedChainId
  evaluatedBlock := input.evaluatedBlock
  evaluatedBlockHash := input.evaluatedBlockHash
  mandatoryProposalSetHash := computeMandatoryProposalSetHash H input.mandatoryProposals
  mandatoryProposals := input.mandatoryProposals
  activeExternalSenderCredentialId := input.activeExternalSenderCredentialId
  activeExternalSenderFingerprint := input.activeExternalSenderFingerprint
  activeSignerGeneration := input.activeSignerGeneration
  directoryCheckpointId := input.directoryCheckpointId
  policyLogCheckpointId := input.policyLogCheckpointId
  deliveryLogPosition := conversation.lastPosition
  deliveryLogHeadHash := conversation.currentLogHeadHash
  evaluationLogPosition := conversation.lastPosition
  evaluationLogHeadHash := conversation.currentLogHeadHash
  issuedAt := issuedAt
  expiresAt := expiresAt
  signerKeyId := signerKeyId

/-- `bytea`: every hash that is written must have 32 bytes. -/
def issuanceHashesValid (input : PolicyHeadIssuanceInput) : Bool :=
  ([input.policyHash, input.authorizedQuotaPolicyDigest, input.evaluatedBlockHash,
      input.activeExternalSenderFingerprint] ++
    input.mandatoryProposals.map MandatoryProposalEntry.proposalHash ++
    input.sendGrantSetMembers.flatMap fun member =>
      [member.grantEvidenceDigest, member.grantInclusionEvidenceDigest]).all
    fun hash => decide (hash.length = 32)

/-- The rows that `policy_heads` refers to. -/
def headReferencesExist (input : PolicyHeadIssuanceInput) (signerKeyId : String)
    (tables : PolicyTables) : Bool :=
  (tables.directoryCheckpoints.any fun row =>
      decide (row.checkpointId = input.directoryCheckpointId)) &&
    hasPolicyLogCheckpoint input.policyLogCheckpointId tables &&
    (tables.policyHeadSigningKeys.any fun row => decide (row.keyId = signerKeyId)) &&
    tables.externalSenderCredentials.any fun row => decide (
      row.credentialId = input.activeExternalSenderCredentialId ∧
      row.credentialFingerprint = input.activeExternalSenderFingerprint ∧
      row.signerGeneration = input.activeSignerGeneration)

/-- `INSERT INTO policy_heads` -/
def insertPolicyHead (row : PolicyHeadRow) (tables : PolicyTables) : Except Failure PolicyTables :=
  if tables.policyHeads.any fun other => decide (other.policyHeadId = row.policyHeadId ∨
      (other.conversationId = row.conversationId ∧
        (other.policyHeadSequence = row.policyHeadSequence ∨
          other.policyHeadHash = row.policyHeadHash))) then
    .error (.sql "policy_heads_key")
  else .ok { tables with policyHeads := tables.policyHeads ++ [row] }

/-- The rows of the two sets that the head binds. -/
def insertHeadSets (policyHeadId : String) (input : PolicyHeadIssuanceInput)
    (tables : PolicyTables) : PolicyTables :=
  { tables with
    mandatoryProposals := tables.mandatoryProposals ++
      input.mandatoryProposals.mapIdx fun ordinal proposal =>
        ⟨policyHeadId, ordinal, proposal.proposalId, proposal.proposalHash⟩
    sendGrantSetMembers := tables.sendGrantSetMembers ++
      input.sendGrantSetMembers.map fun member =>
        ⟨policyHeadId, member.grantEvidenceDigest, member.grantInclusionEvidenceDigest,
          member.installationId, member.credentialId, member.role⟩ }

/-- Sign the body and write the head with its sets; the conversation moves to it. -/
def storePolicyHead (signer : PolicyHeadSigner) (input : PolicyHeadIssuanceInput)
    (body : UnsignedBody) (db : DeliveryDb) : Except Failure (IssuedPolicyHead × DeliveryDb) :=
  let canonicalBody := utf8 body.canonical
  let policyHeadHash := computePolicyHeadHash H canonicalBody
  if canonicalBody.length > maxCanonicalBodyBytes then
    .error (.invalid "Policy-head canonical body exceeds its ceiling.")
  else if ¬ issuanceHashesValid input then
    .error (.invalid "Expected 32 base64url-encoded bytes.")
  else if ¬ headReferencesExist input signer.signerKeyId db.policy then
    .error (.sql "policy_heads_fkey")
  else if ¬ (input.sendGrantSetMembers.map SendGrantSetMemberEntry.grantEvidenceDigest).Nodup then
    .error (.sql "policy_head_send_grant_set_members_pkey")
  else do
    let policy ← insertPolicyHead
      { policyHeadId := body.policyHeadId
        conversationId := input.conversationId
        policyHeadSequence := body.policyHeadSequence
        previousPolicyHeadHash := body.previousPolicyHeadHash
        policyHeadHash := policyHeadHash
        issuedAt := body.issuedAt
        expiresAt := body.expiresAt
        policyHeadSigningKeyId := signer.signerKeyId
        canonicalSignedBody := body.canonical
        canonicalSignedBodySha256 := sha256Bytes H [canonicalBody]
        signature := keys.sign signer.seed policyHeadHash } db.policy
    .ok (⟨body.policyHeadId, body.policyHeadSequence, policyHeadHash, body.previousPolicyHeadHash,
        body.canonical, body.issuedAt, body.expiresAt⟩,
      { db with
        policy := insertHeadSets body.policyHeadId input policy
        conversations := updateWhere
          (fun row => decide (row.conversationId = input.conversationId))
          (fun row => { row with
            currentPolicyHeadSequence := body.policyHeadSequence
            currentPolicyHeadHash := policyHeadHash }) db.conversations })

def issuePolicyHead (signer : PolicyHeadSigner) (policyHeadId issuedAt : String)
    (input : PolicyHeadIssuanceInput) (db : DeliveryDb) :
    Except Failure (IssuedPolicyHead × DeliveryDb) :=
  match onlyRow (db.conversations.filter fun row =>
      decide (row.conversationId = input.conversationId)) with
  | none => .error (.invalid "Policy-head issuance requires a registered conversation.")
  | some conversation => do
    let expiresAt ← laterInstant issuedAt headValidityMilliseconds
    if conversation.currentPolicyHeadSequence + 1 > uint63Max then
      .error (.invalid "Policy-head sequence ceiling reached.")
    else
      storePolicyHead keys H signer input (unsignedBody H input conversation policyHeadId issuedAt
        expiresAt signer.signerKeyId) db

/-- The newest head of the conversation with its key: `ORDER BY policy_head_sequence DESC
LIMIT 1`. -/
def newestHead (conversationId : String) (tables : PolicyTables) :
    Option (PolicyHeadRow × PolicyHeadSigningKeyRow) :=
  let rows := (tables.policyHeads.filter fun head =>
      decide (head.conversationId = conversationId ∧ 0 < head.policyHeadSequence)).flatMap
    fun head => (tables.policyHeadSigningKeys.filter fun key =>
      decide (key.keyId = head.policyHeadSigningKeyId)).map fun key => (head, key)
  (rows.insertionSort fun a b => b.1.policyHeadSequence ≤ a.1.policyHeadSequence).head?

/-- A head is served only when it is derived again from its immutable body. -/
def readNewestPolicyHead (conversationId : String) (tables : PolicyTables) :
    Except Failure (Option ServedPolicyHead) :=
  match newestHead conversationId tables with
  | none => .ok none
  | some (head, key) =>
    let canonicalBody := utf8 head.canonicalSignedBody
    let derivedHash := computePolicyHeadHash H canonicalBody
    if derivedHash ≠ head.policyHeadHash ∨
        sha256Bytes H [canonicalBody] ≠ head.canonicalSignedBodySha256 then
      .error (.invalid "Served policy head does not re-derive from its immutable body.")
    else if key.lifecycleState ≠ .active ∨ dateParse head.issuedAt < key.notBefore ∨
        key.expiresAt ≤ dateParse head.issuedAt then
      .error (.invalid "Served policy head signer is outside its validity.")
    else if ¬ keys.verify key.publicKey derivedHash head.signature then
      .error (.invalid "Served policy head signature does not verify.")
    else .ok (some
      { policyHeadId := head.policyHeadId
        policyHeadSequence := head.policyHeadSequence
        policyHeadHash := head.policyHeadHash
        previousPolicyHeadHash := head.previousPolicyHeadHash
        canonicalSignedBody := head.canonicalSignedBody
        issuedAt := head.issuedAt
        expiresAt := head.expiresAt
        signerKeyId := head.policyHeadSigningKeyId
        signature := head.signature })

end

section

/-- The values of a send grant that its evidence digest covers and that no head decides. -/
structure GrantMaterial where
  installationId : String
  accountId : String
  credentialId : String
  role : SendRole
  credentialFingerprint : Bytes
  validFrom : String
  validUntil : String
  expiresAt : String

/-- Genesis inserts the anchor; a re-issue updates it. -/
inductive AnchorMode where
  | insert (confirmedTranscriptHash : Bytes)
  | update

structure IssueConversationPolicyHeadInput where
  conversationId : String
  projectRefId : String
  provision : ProvisionRow
  conversationKind : ConversationKind
  conversationGeneration : Nat
  quotaPolicyDigest : Bytes
  grants : List GrantMaterial
  selectedInstallationId : String
  anchor : AnchorMode
  now : String

inductive IssuedConversationPolicyHead where
  | issued (policyHeadId : String) (policyHeadSequence : Nat) (policyHeadHash : Bytes)
  | unavailable

/-- The random ids and the clock reading of one issuance. -/
structure HeadEntropy where
  policyHeadId : String
  issuedAt : String
  checkpointId : String

variable (keys : AuthorityDerivations) (H : HashFunction)

/-- The hash of a set without members. -/
def zeroSetHash (domain : String) : Bytes := sha256Bytes H [utf8 domain]

def anchorMandatoryProposalDomain : String := "jb-msg-policy-mandatory-proposal-set/v1"

def anchorSendGrantDomain : String := "jb-msg-send-grant-set/v1"

/-- A member's grant, anchored to the zero head. -/
def unanchoredGrant (input : IssueConversationPolicyHeadInput) (sequence : Nat)
    (member : GrantMaterial) : LockedConversationSendGrant where
  conversationId := input.conversationId
  installationId := member.installationId
  credentialId := member.credentialId
  conversationKind := input.conversationKind
  conversationGeneration := input.conversationGeneration
  role := member.role
  roleCredentialId := member.credentialId
  roleCredentialFingerprint := member.credentialFingerprint
  roleCredentialSubjectAccountId := member.accountId
  roleCredentialSubjectInstallationId := member.installationId
  roleCredentialValidFrom := member.validFrom
  roleCredentialValidUntil := member.validUntil
  state := .active
  policyRevision := input.provision.policyRevision
  policyHeadSequence := sequence
  policyHeadHash := zeroHash
  expiresAt := member.expiresAt
  grantEvidenceDigest := []
  grantInclusionEvidenceDigest := keys.deriveSeed "send-grant-inclusion"
    (input.conversationId ++ ":" ++ member.installationId)

/-- The grant with the digest over its own values. -/
def sealGrant (grant : LockedConversationSendGrant) : LockedConversationSendGrant :=
  { grant with grantEvidenceDigest := computeConversationSendGrantEvidenceDigest H grant }

/-- The grant moved to an issued head. -/
def anchoredGrant (policyHeadHash : Bytes) (grant : LockedConversationSendGrant) :
    LockedConversationSendGrant :=
  sealGrant H { grant with policyHeadHash := policyHeadHash }

/-- The leaf of a grant in the set that the body binds. -/
def setMember (grant : LockedConversationSendGrant) : SendGrantSetMemberEntry :=
  ⟨grant.grantEvidenceDigest, grant.grantInclusionEvidenceDigest, grant.installationId,
    grant.credentialId, grant.role⟩

def issuanceInput (input : IssueConversationPolicyHeadInput) (chainId : String)
    (sender : ExternalSenderCredentialRow) (grants : List LockedConversationSendGrant) :
    PolicyHeadIssuanceInput where
  conversationId := input.conversationId
  policyId := input.provision.policyId
  policyRevision := input.provision.policyRevision
  policyHash := keys.deriveSeed "policy-hash" input.projectRefId
  authorizedQuotaPolicyDigest := input.quotaPolicyDigest
  evaluatedChainId := chainId
  evaluatedBlock := 0
  evaluatedBlockHash := keys.deriveSeed "evaluated-block" input.conversationId
  activeExternalSenderCredentialId := input.provision.currentExternalSenderCredentialId
  activeExternalSenderFingerprint := sender.credentialFingerprint
  activeSignerGeneration := sender.signerGeneration
  directoryCheckpointId := input.provision.directoryCheckpointId
  policyLogCheckpointId := input.provision.policyLogCheckpointId
  mandatoryProposals := []
  sendGrantSetMembers := grants.map setMember

/-- The columns that the two ways to write the anchor share. The position, the head, the epoch
and the roster version are filled in by each of them. -/
def anchorRow (input : IssueConversationPolicyHeadInput) (issued : IssuedPolicyHead)
    (served : ServedPolicyHead) (selected : LockedConversationSendGrant) (scope : String) :
    LockedWitnessedPolicyHead where
  policyHeadId := issued.policyHeadId
  conversationId := input.conversationId
  policyHeadSequence := issued.policyHeadSequence
  policyHeadHash := issued.policyHeadHash
  deliveryLogPosition := 0
  deliveryLogHeadHash := zeroHash
  evaluationLogPosition := 0
  evaluationLogHeadHash := zeroHash
  epoch := 1
  rosterVersion := 0
  confirmedTranscriptHash := []
  policyRevision := input.provision.policyRevision
  signedBodySha256 := sha256Bytes H [JbChat.Foundation.Base64Url.decode served.canonicalSignedBody]
  signerKeyId := served.signerKeyId
  signatureSha256 := sha256Bytes H [served.signature]
  witnessEvidenceDigest := keys.deriveSeed "witness-evidence" scope
  proofEvidenceDigest := keys.deriveSeed "proof-evidence" scope
  policyConsistencyEvidenceDigest := keys.deriveSeed "policy-consistency" scope
  proofVerifiedAt := input.now
  issuedAt := issued.issuedAt
  expiresAt := served.expiresAt
  witnessState := .missing
  witnessCheckpointId := none
  witnessedPolicyHeadHash := none
  mandatoryProposalCount := 0
  mandatoryProposalSetHash := zeroSetHash H anchorMandatoryProposalDomain
  authorizedSendGrantSetHash := zeroSetHash H anchorSendGrantDomain
  selectedSendGrantEvidenceDigest := selected.grantEvidenceDigest
  selectedSendGrantInclusionEvidenceDigest := selected.grantInclusionEvidenceDigest
  authorizedQuotaPolicyDigest := input.quotaPolicyDigest
  priorPolicyHeadSequence := issued.policyHeadSequence - 1
  priorPolicyHeadHash := issued.previousPolicyHeadHash
  priorPolicyWitnessCheckpointId := keys.stableUuid "prior-witness-checkpoint" input.conversationId
  priorPolicyWitnessEvidenceDigest := keys.deriveSeed "prior-witness" input.conversationId

def genesisAnchor (input : IssueConversationPolicyHeadInput) (issued : IssuedPolicyHead)
    (served : ServedPolicyHead) (selected : LockedConversationSendGrant)
    (confirmedTranscriptHash : Bytes) : LockedWitnessedPolicyHead :=
  { anchorRow keys H input issued served selected input.conversationId with
    confirmedTranscriptHash := confirmedTranscriptHash }

/-- The head before this one is its prior evidence when it was cosigned, else its own prior
evidence is carried forward. -/
def reissuedAnchor (input : IssueConversationPolicyHeadInput) (issued : IssuedPolicyHead)
    (served : ServedPolicyHead) (selected : LockedConversationSendGrant)
    (conversation : ConversationRow) (previous : LockedWitnessedPolicyHead) :
    LockedWitnessedPolicyHead :=
  let row := { anchorRow keys H input issued served selected
      (input.conversationId ++ ":" ++ issued.policyHeadSequence.repr) with
    deliveryLogPosition := conversation.lastPosition
    deliveryLogHeadHash := conversation.currentLogHeadHash
    evaluationLogPosition := conversation.lastPosition
    evaluationLogHeadHash := conversation.currentLogHeadHash
    epoch := conversation.epoch
    rosterVersion := conversation.rosterVersion
    confirmedTranscriptHash := conversation.confirmedTranscriptHash }
  match previous.witnessState, previous.witnessCheckpointId with
  | .verified, some checkpointId => { row with
      priorPolicyWitnessCheckpointId := checkpointId
      priorPolicyWitnessEvidenceDigest := previous.witnessEvidenceDigest }
  | _, _ => { row with
      priorPolicyWitnessCheckpointId := previous.priorPolicyWitnessCheckpointId
      priorPolicyWitnessEvidenceDigest := previous.priorPolicyWitnessEvidenceDigest }

def anchorsOf (db : DeliveryDb) (conversationId : String) : List LockedWitnessedPolicyHead :=
  db.policyHeadAnchors.filter fun row => decide (row.conversationId = conversationId)

/-- Insert or update the anchor; `none` is the unavailable exit of a re-issue. -/
def writeAnchor (input : IssueConversationPolicyHeadInput) (issued : IssuedPolicyHead)
    (served : ServedPolicyHead) (selected : LockedConversationSendGrant) (db : DeliveryDb) :
    Except Failure (Option DeliveryDb) :=
  match input.anchor with
  | .insert confirmedTranscriptHash => do
    let anchors ← insertUnique "delivery_policy_head_anchors_pkey"
      LockedWitnessedPolicyHead.conversationId
      (genesisAnchor keys H input issued served selected confirmedTranscriptHash)
      db.policyHeadAnchors
    .ok (some { db with policyHeadAnchors := anchors })
  | .update =>
    match onlyRow (anchorsOf db input.conversationId) with
    | none => .ok none
    | some previous =>
      if previous.policyHeadSequence ≠ issued.policyHeadSequence - 1 then
        .error (.invalid "Policy head anchor is not at the previous sequence.")
      else
        match db.conversations.find? fun row =>
            decide (row.conversationId = input.conversationId) with
        | none => .error (.invalid "Cannot read properties of undefined")
        | some conversation => .ok (some { db with
            policyHeadAnchors := updateWhere
              (fun row => decide (row.conversationId = input.conversationId))
              (fun _ => reissuedAnchor keys H input issued served selected conversation previous)
              db.policyHeadAnchors })

def policyLogSignerKeyId : String := "jbm-policy-log-2026q3"

def previousLogCheckpoint (tables : PolicyTables) : Option String :=
  (((tables.policyLogCheckpoints.filter fun row =>
      decide (0 < row.treeSize ∧ row.signerKeyId = policyLogSignerKeyId)).insertionSort
    fun a b => b.treeSize ≤ a.treeSize).head?).map PolicyLogCheckpointRow.checkpointId

def appendPolicyLog (issued : IssuedPolicyHead) (checkpointId : String) (tables : PolicyTables) :
    Except Failure PolicyTables := do
  let leafIndex := tables.policyLogLeaves.length
  if tables.policyLogLeaves.any fun row => decide (row.leafIndex = leafIndex ∨
      row.policyHeadId = issued.policyHeadId) then
    .error (.sql "policy_log_leaves_key")
  else
    let leaves := tables.policyLogLeaves ++ [⟨leafIndex, issued.policyHeadId, issued.policyHeadHash⟩]
    let ordered := byOrdinal PolicyLogLeafRow.leafIndex leaves
    let root := (merkleRoot H (ordered.map fun row => (leafHash H row.headHash).value)).value
    let checkpoints ← insertUnique "policy_log_checkpoints_pkey" PolicyLogCheckpointRow.checkpointId
      ⟨checkpointId, leafIndex + 1, root, previousLogCheckpoint tables, policyLogSignerKeyId,
        keys.sign (keys.deriveSeed "policy-log-signer" "global") root⟩ tables.policyLogCheckpoints
    .ok { tables with
      policyLogLeaves := leaves
      policyLogCheckpoints := checkpoints }

/-- `INSERT INTO conversation_send_grants ... ON CONFLICT DO UPDATE` -/
def upsertGrant (grants : List LockedConversationSendGrant) (grant : LockedConversationSendGrant) :
    List LockedConversationSendGrant :=
  let selected (row : LockedConversationSendGrant) : Bool :=
    decide (row.conversationId = grant.conversationId ∧
      row.installationId = grant.installationId ∧ row.credentialId = grant.credentialId)
  if grants.any selected then updateWhere selected (fun _ => grant) grants else grants ++ [grant]

/-- What follows the signed head: its anchor, its leaf and the grants at it. -/
def anchorHead (input : IssueConversationPolicyHeadInput) (entropy : HeadEntropy)
    (issued : IssuedPolicyHead) (grants : List LockedConversationSendGrant)
    (selected : LockedConversationSendGrant) (db : DeliveryDb) :
    Except Failure (IssuedConversationPolicyHead × DeliveryDb) := do
  let served ← readNewestPolicyHead keys H input.conversationId db.policy
  match served with
  | none => .ok (.unavailable, db)
  | some served =>
    let anchored ← writeAnchor keys H input issued served selected db
    match anchored with
    | none => .ok (.unavailable, db)
    | some db =>
      let policy ← appendPolicyLog keys H issued entropy.checkpointId db.policy
      .ok (.issued issued.policyHeadId issued.policyHeadSequence issued.policyHeadHash,
        { db with
          policy := policy
          sendGrants := grants.foldl upsertGrant db.sendGrants })

/-- Sign a head over the zero-anchored grants, then anchor the grants at it. -/
def issueForSender (input : IssueConversationPolicyHeadInput) (entropy : HeadEntropy)
    (sender : ExternalSenderCredentialRow) (conversation : ConversationRow) (chainId : String)
    (db : DeliveryDb) : Except Failure (IssuedConversationPolicyHead × DeliveryDb) := do
  let sequence := conversation.currentPolicyHeadSequence + 1
  let unanchored := input.grants.map (unanchoredGrant keys input sequence)
  let signer : PolicyHeadSigner := ⟨input.provision.policyHeadSigningKeyId,
    keys.deriveSeed "policy-head-signer" input.projectRefId⟩
  match unanchored.find? fun grant => decide (
      grant.installationId = input.selectedInstallationId) with
  | none => .error (.invalid "Selected send grant is not among the issued grants.")
  | some selected =>
    let (issued, db) ← issuePolicyHead keys H signer entropy.policyHeadId entropy.issuedAt
      (issuanceInput keys input chainId sender (unanchored.map (sealGrant H))) db
    if issued.policyHeadSequence ≠ sequence then
      .error (.invalid "Policy head sequence diverged from the issued grants.")
    else
      anchorHead keys H input entropy issued
        (unanchored.map (anchoredGrant H issued.policyHeadHash))
        (anchoredGrant H issued.policyHeadHash selected) db

def issueConversationPolicyHead (input : IssueConversationPolicyHeadInput) (entropy : HeadEntropy)
    (db : DeliveryDb) : Except Failure (IssuedConversationPolicyHead × DeliveryDb) :=
  match onlyRow (db.policy.externalSenderCredentials.filter fun row =>
      decide (row.credentialId = input.provision.currentExternalSenderCredentialId)) with
  | none => .ok (.unavailable, db)
  | some sender =>
    match db.conversations.find? (fun row => decide (row.conversationId = input.conversationId)),
        db.policy.projectRefs.find? (fun row => decide (row.projectRefId = input.projectRefId)) with
    | some conversation, some projectRef =>
      issueForSender keys H input entropy sender conversation projectRef.chainId db
    | _, _ => .error (.invalid "Cannot read properties of undefined")

end

/-- `INSERT INTO quota_counters ... ON CONFLICT DO NOTHING`. The row of `quota_scopes` beside it
is never read. -/
def insertQuotaCounter (key : QuotaKey) (now : String) (db : DeliveryDb) : DeliveryDb :=
  match db.quotaCounters key with
  | some _ => db
  | none => { db with
      quotaCounters := Function.update db.quotaCounters key (some ⟨0, 0, 0, 0, 0, now⟩) }

def identityKey (identity : ExpectedAppendQuotaIdentity) : QuotaKey :=
  ⟨identity.scope, identity.scopeHash, identity.quotaName, identity.windowStartedAt⟩

def sameBinding (conversationId : String) (identity : ExpectedAppendQuotaIdentity)
    (row : QuotaBindingRow) : Bool :=
  decide (row.conversationId = conversationId ∧ row.identity.scope = identity.scope ∧
    row.identity.scopeHash = identity.scopeHash ∧ row.identity.quotaName = identity.quotaName)

/-- `COALESCE(MAX(ordinal), -1) + 1` -/
def nextOrdinal (ordinals : List Nat) : Nat := (ordinals.map (· + 1)).foldl max 0

/-- A binding that is there is kept as it is. -/
def ensureBinding (conversationId now : String) (db : DeliveryDb)
    (identity : ExpectedAppendQuotaIdentity) : DeliveryDb :=
  let db := insertQuotaCounter (identityKey identity) now db
  if db.quotaBindings.any (sameBinding conversationId identity) then db
  else { db with
    quotaBindings := db.quotaBindings ++ [⟨conversationId, nextOrdinal
      ((db.quotaBindings.filter fun row => decide (row.conversationId = conversationId)).map
        QuotaBindingRow.ordinal), identity⟩] }

/-- A member added after genesis gets its own installation and account bindings. -/
def ensureMemberQuotaBindings (H : HashFunction) (conversationId accountId installationId
    projectRefId realmId now : String) (db : DeliveryDb) : Except Failure DeliveryDb := do
  let identities ← quotaBindingsFor H conversationId accountId installationId projectRefId now
    realmId
  .ok ((identities.filter fun identity => decide (identity.scope = .installation ∨
    identity.scope = .account)).foldl (ensureBinding conversationId now) db)

section

variable {keys : AuthorityDerivations} {H : HashFunction} {db written : DeliveryDb}
  {signer : PolicyHeadSigner} {issued : IssuedPolicyHead} {input : IssueConversationPolicyHeadInput}
  {selected : LockedConversationSendGrant} {entropy : HeadEntropy}
  {grants : List LockedConversationSendGrant} {answer : IssuedConversationPolicyHead}

def atHead (sequence : Nat) (hash : Bytes) (row : ConversationRow) : ConversationRow :=
  { row with
    currentPolicyHeadSequence := sequence
    currentPolicyHeadHash := hash }

def HeadWrites (db written : DeliveryDb) : Prop :=
  ∃ selected sequence hash policy anchors grants, written = { db with
    conversations := updateWhere selected (atHead sequence hash) db.conversations
    policy := policy
    policyHeadAnchors := anchors
    sendGrants := grants }

theorem HeadWrites.refl (db : DeliveryDb) : HeadWrites db db := by
  refine ⟨fun _ => false, 0, [], db.policy, db.policyHeadAnchors, db.sendGrants, ?_⟩
  have same : updateWhere (fun _ => false) (atHead 0 []) db.conversations = db.conversations := by
    unfold updateWhere
    exact List.map_id' db.conversations
  rw [same]

theorem HeadWrites.after {moved : DeliveryDb} (writes : HeadWrites db moved)
    (policy : PolicyTables) (anchors : List LockedWitnessedPolicyHead)
    (grants : List LockedConversationSendGrant) :
    HeadWrites db { moved with
      policy := policy
      policyHeadAnchors := anchors
      sendGrants := grants } := by
  obtain ⟨selected, sequence, hash, -, -, -, rfl⟩ := writes
  exact ⟨selected, sequence, hash, policy, anchors, grants, rfl⟩

theorem storePolicyHead_eq_ok {input : PolicyHeadIssuanceInput} {body : UnsignedBody}
    (h : storePolicyHead keys H signer input body db = .ok (issued, written)) :
    ∃ row policy, insertPolicyHead row db.policy = .ok policy ∧
      row.policyHeadId = body.policyHeadId ∧ row.conversationId = input.conversationId ∧
      row.policyHeadSequence = body.policyHeadSequence ∧
      row.canonicalSignedBody = body.canonical ∧ issued.policyHeadId = body.policyHeadId ∧
      issued.policyHeadSequence = body.policyHeadSequence ∧
      issued.policyHeadHash = row.policyHeadHash ∧
      written = { db with
        policy := insertHeadSets body.policyHeadId input policy
        conversations := updateWhere
          (fun row => decide (row.conversationId = input.conversationId))
          (atHead body.policyHeadSequence row.policyHeadHash) db.conversations } := by
  unfold storePolicyHead at h
  dsimp only at h
  obtain ⟨-, h⟩ := guard_ok.mp h
  obtain ⟨-, h⟩ := guard_ok.mp h
  obtain ⟨-, h⟩ := guard_ok.mp h
  obtain ⟨-, h⟩ := guard_ok.mp h
  obtain ⟨policy, hpolicy, h⟩ := bind_ok.mp h
  cases h
  exact ⟨_, policy, hpolicy, rfl, rfl, rfl, rfl, rfl, rfl, rfl, rfl⟩

theorem issuePolicyHead_eq_ok {policyHeadId issuedAt : String} {input : PolicyHeadIssuanceInput}
    (h : issuePolicyHead keys H signer policyHeadId issuedAt input db = .ok (issued, written)) :
    ∃ conversation expiresAt, onlyRow (db.conversations.filter fun row =>
        decide (row.conversationId = input.conversationId)) = some conversation ∧
      storePolicyHead keys H signer input (unsignedBody H input conversation policyHeadId issuedAt
        expiresAt signer.signerKeyId) db = .ok (issued, written) := by
  unfold issuePolicyHead at h
  split at h
  · cases h
  · rename_i conversation hconversation
    obtain ⟨expiresAt, -, h⟩ := bind_ok.mp h
    obtain ⟨-, h⟩ := guard_ok.mp h
    exact ⟨conversation, expiresAt, hconversation, h⟩

theorem issuePolicyHead_writes {policyHeadId issuedAt : String} {input : PolicyHeadIssuanceInput}
    (h : issuePolicyHead keys H signer policyHeadId issuedAt input db = .ok (issued, written)) :
    HeadWrites db written := by
  obtain ⟨conversation, expiresAt, -, hstore⟩ := issuePolicyHead_eq_ok h
  obtain ⟨row, policy, -, -, -, -, -, -, -, -, rfl⟩ := storePolicyHead_eq_ok hstore
  exact ⟨_, _, _, _, db.policyHeadAnchors, db.sendGrants, rfl⟩

theorem writeAnchor_eq_some {served : ServedPolicyHead}
    (h : writeAnchor keys H input issued served selected db = .ok (some written)) :
    ∃ anchors, written = { db with policyHeadAnchors := anchors } := by
  unfold writeAnchor at h
  split at h
  · obtain ⟨anchors, -, h⟩ := bind_ok.mp h
    cases h
    exact ⟨anchors, rfl⟩
  · split at h
    · cases h
    · obtain ⟨-, h⟩ := guard_ok.mp h
      split at h
      · cases h
      · cases h
        exact ⟨_, rfl⟩

theorem anchorHead_eq_ok
    (h : anchorHead keys H input entropy issued grants selected db = .ok (answer, written)) :
    (answer = .unavailable ∧ written = db) ∨
      ∃ served anchored policy, writeAnchor keys H input issued served selected db =
          .ok (some anchored) ∧
        appendPolicyLog keys H issued entropy.checkpointId anchored.policy = .ok policy ∧
        answer = .issued issued.policyHeadId issued.policyHeadSequence issued.policyHeadHash ∧
        written = { anchored with
          policy := policy
          sendGrants := grants.foldl upsertGrant anchored.sendGrants } := by
  unfold anchorHead at h
  obtain ⟨served, -, h⟩ := bind_ok.mp h
  split at h
  · cases h
    exact Or.inl ⟨rfl, rfl⟩
  · obtain ⟨anchored, hanchored, h⟩ := bind_ok.mp h
    split at h
    · cases h
      exact Or.inl ⟨rfl, rfl⟩
    · obtain ⟨policy, hpolicy, h⟩ := bind_ok.mp h
      cases h
      exact Or.inr ⟨_, _, policy, hanchored, hpolicy, rfl, rfl⟩

theorem anchorHead_writes {start : DeliveryDb} (moved : HeadWrites start db)
    (h : anchorHead keys H input entropy issued grants selected db = .ok (answer, written)) :
    HeadWrites start written := by
  rcases anchorHead_eq_ok h with ⟨-, rfl⟩ | ⟨served, anchored, policy, hanchor, -, -, rfl⟩
  · exact moved
  · obtain ⟨anchors, rfl⟩ := writeAnchor_eq_some hanchor
    exact moved.after policy anchors _

theorem issueForSender_eq_ok {sender : ExternalSenderCredentialRow} {conversation : ConversationRow}
    {chainId : String} (h : issueForSender keys H input entropy sender conversation chainId db =
      .ok (answer, written)) :
    ∃ signer members issued moved grants selected,
      issuePolicyHead keys H signer entropy.policyHeadId entropy.issuedAt
        (issuanceInput keys input chainId sender members) db = .ok (issued, moved) ∧
      anchorHead keys H input entropy issued grants selected moved = .ok (answer, written) := by
  unfold issueForSender at h
  dsimp only at h
  split at h
  · cases h
  · obtain ⟨⟨issued, moved⟩, hissue, h⟩ := bind_ok.mp h
    obtain ⟨-, h⟩ := guard_ok.mp h
    exact ⟨_, _, issued, moved, _, _, hissue, h⟩

theorem issueConversationPolicyHead_eq_ok
    (h : issueConversationPolicyHead keys H input entropy db = .ok (answer, written)) :
    (answer = .unavailable ∧ written = db) ∨ ∃ sender conversation chainId,
      issueForSender keys H input entropy sender conversation chainId db =
        .ok (answer, written) := by
  unfold issueConversationPolicyHead at h
  split at h
  · cases h
    exact Or.inl ⟨rfl, rfl⟩
  · split at h
    · exact Or.inr ⟨_, _, _, h⟩
    · cases h

theorem issueConversationPolicyHead_writes
    (h : issueConversationPolicyHead keys H input entropy db = .ok (answer, written)) :
    HeadWrites db written := by
  rcases issueConversationPolicyHead_eq_ok h with ⟨-, rfl⟩ | ⟨sender, conversation, chainId, h⟩
  · exact HeadWrites.refl written
  · obtain ⟨signer, members, issued, moved, grants, selected, hissue, hanchor⟩ :=
      issueForSender_eq_ok h
    exact anchorHead_writes (issuePolicyHead_writes hissue) hanchor

end

end JbChat.Store.PolicyHeads
