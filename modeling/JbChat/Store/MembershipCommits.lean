/- source: src/production/storage/membershipCommitStore.ts
   digest: Consuming the MLS Commit of a proposed membership intent. -/

import JbChat.Store.ExternalProposals
import JbChat.Store.PolicyHeads

/-!
Hashes and counters of the request are values here. A text that is not the canonical one of its
value compares unequal with every stored hash and ends in the same error as another value.
-/

set_option autoImplicit false

namespace JbChat.Store.MembershipCommits

open Foundation.HashTrace
open Foundation.Transaction Delivery.ValueObjects Delivery.Snapshot Delivery.EnvelopeLog
open Delivery.Fanout Delivery.PolicyHeadBody
open Tables Store.Authority Provisioning PolicyHeads LogWriter MembershipIntents

structure ConsumeCommitInput where
  intentId : String
  committerInstallationId : String
  expectedEpoch : Nat
  expectedRosterVersion : Nat
  proposedRosterHash : Bytes
  mandatoryProposals : List MandatoryProposalEntry
  envelopeId : String
  commit : Bytes
  envelopeSha256 : Bytes
  baseConfirmedTranscriptHash : Bytes
  resultingConfirmedTranscriptHash : Bytes
  resultingEpoch : Nat
  welcomeByInstallation : List (String × Bytes)
  targetCredentialId : Option String

def ConsumeCommitInput.wellFormed (H : HashFunction) (input : ConsumeCommitInput) : Bool :=
  decide (input.commit ≠ [] ∧ input.commit.length ≤ 524288) && isUuidV4 input.envelopeId &&
    isLowercaseUuid input.intentId && isLowercaseUuid input.committerInstallationId &&
    (input.mandatoryProposals.all fun pair => isLowercaseUuid pair.proposalId &&
      decide (pair.proposalHash.length = 32)) &&
    ([input.proposedRosterHash, input.envelopeSha256, input.baseConfirmedTranscriptHash,
      input.resultingConfirmedTranscriptHash].all fun hash => decide (hash.length = 32)) &&
    (input.welcomeByInstallation.all fun entry => isLowercaseUuid entry.1 &&
      decide (entry.2 ≠ [] ∧ entry.2.length ≤ 262144)) &&
    input.targetCredentialId.all isLowercaseUuid &&
    decide (computeEnvelopeSha256 H input.commit = input.envelopeSha256 ∧
      input.resultingEpoch = input.expectedEpoch + 1)

/-- The reasons of a `CommitCasError`. -/
inductive CasReason where
  | intentUnknown
  | staleCounters
  | intentNotProposed
  | grantNotLive
  | proposalNotLive
  | mandatoryProposalSetMismatch
  | mandatoryProposalUnresolved
  | committerNotAuthorized
  | welcomeSetMismatch
  | keyPackageNotTaken
  | targetCredentialRequired
  | targetCredentialInvalid
  | removalTargetNotAMember
  | logAuthorityUnavailable
  | rosterHashMismatch
  | authorityProvisionMissing
  | policyHeadUnavailable
  | noRemainingSendGrants

/-- What a consumption throws: its own error, or one of the database. -/
inductive CommitError where
  | cas (reason : CasReason)
  | thrown (failure : Failure)

structure CommittedMembership where
  intentId : String
  envelopeId : String
  position : Nat
  headHash : Bytes
  resultingEpoch : Nat
  resultingRosterVersion : Nat
  consumedProposals : List MandatoryProposalEntry

inductive MembershipCommitResult where
  | committed (value : CommittedMembership)
  | casFailed (reason : CasReason)
  | malformedRequest

/-- The reading of the clock and the random values of the head it issues. -/
structure CommitEntropy where
  now : String
  head : HeadEntropy

/-- A statement of the database inside the transaction. -/
def thrown {α : Type} (x : Except Failure α) : Except CommitError α := x.mapError .thrown

section

/-- The rows that a consumption rests on. -/
structure AdmittedCommit where
  conversation : ConversationRow
  intent : MembershipIntentRow
  proposal : ExternalProposalRow
  committerAccountId : String
  target : Option RoleCredentialRow
  signingKeyId : String

variable (db : DeliveryDb) (now : String) (input : ConsumeCommitInput)

/-- The conversation waits for a membership change and stands where the committer saw it. -/
def commitConversation : Except CommitError (MembershipIntentRow × ConversationRow) :=
  match onlyRow (db.membershipIntents.filter fun row => decide (row.intentId = input.intentId)) with
  | none => .error (.cas .intentUnknown)
  | some intent =>
    match db.conversations.find? (isConversation intent.conversationId) with
    | none => .error (.thrown (.invalid "Cannot read properties of undefined"))
    | some conversation =>
      if conversation.state ≠ .membershipPending ∨ conversation.epoch ≠ input.expectedEpoch ∨
          conversation.rosterVersion ≠ input.expectedRosterVersion ∨
          conversation.confirmedTranscriptHash ≠ input.baseConfirmedTranscriptHash then
        .error (.cas .staleCounters)
      else .ok (intent, conversation)

def grantStillLive (intent : MembershipIntentRow) : Bool :=
  match onlyRow (db.admission.eligibilityGrants.filter fun row =>
      decide (some row.grantId = intent.grantId)) with
  | none => false
  | some grant => decide (grant.state = .active ∧ now < grant.validUntil)

/-- The proposals of the intent that are neither committed nor over. -/
def liveProposals : List ExternalProposalRow :=
  db.admission.externalProposals.filter fun row => decide (row.intentId = input.intentId ∧
    row.committedAt = none ∧ now < row.expiresAt)

def commitProposal (intent : MembershipIntentRow) : Except CommitError ExternalProposalRow :=
  if intent.state ≠ .proposed ∨ intent.expiresAt ≤ now ∨
      intent.proposedRosterHash ≠ input.proposedRosterHash then
    .error (.cas .intentNotProposed)
  else if intent.operation = .add ∧ grantStillLive db now intent = false then
    .error (.cas .grantNotLive)
  else
    match onlyRow (liveProposals db now input) with
    | none => .error (.cas .proposalNotLive)
    | some proposal => .ok proposal

def requiredPairs (conversationId : String) : List MandatoryProposalEntry :=
  match onlyRow (anchorsOf db conversationId) with
  | none => []
  | some anchor => (byOrdinal MandatoryProposalRow.ordinal (db.policy.mandatoryProposals.filter
      fun row => decide (row.policyHeadId = anchor.policyHeadId))).map
        fun row => ⟨row.proposalId, row.proposalHash⟩

def pairResolves (conversationId : String) (pair : MandatoryProposalEntry) : Bool :=
  decide ((db.admission.externalProposals.filter fun row => decide (
    row.proposalId = pair.proposalId ∧ row.proposalHash = pair.proposalHash ∧
    row.conversationId = conversationId ∧ now < row.expiresAt)).length = 1)

def checkPairs (conversationId : String) :
    List (MandatoryProposalEntry × MandatoryProposalEntry) → Except CommitError Unit
  | [] => .ok ()
  | (required, offered) :: others =>
    if required ≠ offered then .error (.cas .mandatoryProposalSetMismatch)
    else if ¬ pairResolves db now conversationId offered then
      .error (.cas .mandatoryProposalUnresolved)
    else checkPairs conversationId others

def mandatoryProposalsMet (conversationId : String) : Except CommitError Unit :=
  let required := requiredPairs db conversationId
  if required.length ≠ input.mandatoryProposals.length then
    .error (.cas .mandatoryProposalSetMismatch)
  else checkPairs db now conversationId (required.zip input.mandatoryProposals)

def authorizedCommitter (kind : ConversationKind) (intent : MembershipIntentRow) :
    Except CommitError String :=
  match onlyRow ((liveMembers db intent.conversationId).filter fun row =>
      decide (row.installationId = input.committerInstallationId) && roleMaySend kind row.role) with
  | none => .error (.cas .committerNotAuthorized)
  | some committer =>
    if intent.operation = .remove ∧
        input.committerInstallationId = intent.targetInstallationId then
      .error (.cas .committerNotAuthorized)
    else .ok committer.accountId

/-- Exactly one Welcome for the added target, none otherwise. -/
def welcomeSetMatches (intent : MembershipIntentRow) : Bool :=
  if intent.operation = .add then
    decide (input.welcomeByInstallation.map Prod.fst = [intent.targetInstallationId])
  else input.welcomeByInstallation.isEmpty

def addedTarget (intent : MembershipIntentRow) : Except CommitError RoleCredentialRow :=
  if (db.admission.keyPackages.filter fun row => decide (
      row.takenByIntentId = some input.intentId ∧ row.state = .taken)).length ≠ 1 then
    .error (.cas .keyPackageNotTaken)
  else
    match input.targetCredentialId with
    | none => .error (.cas .targetCredentialRequired)
    | some credentialId =>
      match onlyRow (db.roleCredentials.filter fun row => decide (
          row.credentialId = credentialId ∧ row.conversationId = intent.conversationId ∧
          row.installationId = intent.targetInstallationId ∧ row.state = .active ∧
          now < row.expiresAt)) with
      | none => .error (.cas .targetCredentialInvalid)
      | some credential => .ok credential

def commitTarget (intent : MembershipIntentRow) : Except CommitError (Option RoleCredentialRow) :=
  if intent.operation = .add then do
    let credential ← addedTarget db now input intent
    .ok (some credential)
  else if ((liveMembers db intent.conversationId).filter fun row =>
      decide (row.installationId = intent.targetInstallationId)).length ≠ 1 then
    .error (.cas .removalTargetNotAMember)
  else .ok none

/-- Everything a consumption checks before its first write. -/
def admitCommit : Except CommitError AdmittedCommit := do
  let (intent, conversation) ← commitConversation db input
  let proposal ← commitProposal db now input intent
  mandatoryProposalsMet db now input intent.conversationId
  let committerAccountId ← authorizedCommitter db input conversation.kind intent
  if ¬ welcomeSetMatches input intent then .error (.cas .welcomeSetMismatch)
  else
    let target ← commitTarget db now input intent
    match onlyRow (activeLogKeys db intent.conversationId now) with
    | none => .error (.cas .logAuthorityUnavailable)
    | some signingKeyId =>
      .ok ⟨conversation, intent, proposal, committerAccountId, target, signingKeyId⟩

end

section

variable (H : HashFunction)

def commitLeaf (now : String) (input : ConsumeCommitInput) (admitted : AdmittedCommit) :
    EnvelopeLeafInput where
  conversationId := admitted.intent.conversationId
  position := admitted.conversation.lastPosition + 1
  envelopeId := input.envelopeId
  envelopeClass := .mlsCommit
  sender := .installation admitted.committerAccountId input.committerInstallationId
  epoch := input.expectedEpoch
  rosterVersion := input.expectedRosterVersion
  contentType := .publicMessage
  envelopeSha256 := input.envelopeSha256
  receivedAt := now

/-- The intent's own proposal and the mandatory ones beside it. -/
def consumedProposals (input : ConsumeCommitInput) (proposal : ExternalProposalRow) :
    List MandatoryProposalEntry :=
  input.mandatoryProposals.foldl (fun consumed pair =>
    if consumed.any fun entry => decide (entry.proposalId = pair.proposalId) then consumed
    else consumed ++ [pair]) [⟨proposal.proposalId, proposal.proposalHash⟩]

def commitProposals (consumed : List MandatoryProposalEntry) (now : String) (db : DeliveryDb) :
    DeliveryDb :=
  { db with
    admission := { db.admission with
      externalProposals := updateWhere
        (fun row => consumed.any fun entry => decide (entry.proposalId = row.proposalId))
        (fun row => { row with committedAt := some now }) db.admission.externalProposals } }

def commitIntent (intentId envelopeId : String) (position : Nat) (db : DeliveryDb) : DeliveryDb :=
  { db with
    membershipIntents := updateWhere (fun row => decide (row.intentId = intentId))
      (fun row => { row with
        state := .committed
        committedEnvelope := some (envelopeId, position) }) db.membershipIntents }

def usePackage (intentId now : String) (db : DeliveryDb) : DeliveryDb :=
  { db with
    admission := { db.admission with
      keyPackages := updateWhere (fun row => decide (row.takenByIntentId = some intentId))
        (fun row => { row with
          state := .used
          usedAt := some now }) db.admission.keyPackages } }

def isMember (conversationId installationId : String) (row : MembershipRow) : Bool :=
  decide (row.conversationId = conversationId ∧ row.installationId = installationId)

/-- A member removed earlier gets a new window in place, and its old Welcome goes. -/
def rejoinMember (draft : EnvelopeDraft) (intent : MembershipIntentRow)
    (credential : RoleCredentialRow) (now : String) (db : DeliveryDb) : DeliveryDb :=
  { db with
    admission := { db.admission with
      welcomes := db.admission.welcomes.filter fun row => ¬ decide (
        row.conversationId = intent.conversationId ∧
        row.targetInstallationId = intent.targetInstallationId) }
    memberships := updateWhere (isMember intent.conversationId intent.targetInstallationId)
      (fun row => { row with
        accountId := credential.accountId
        credentialId := credential.credentialId
        role := credential.role
        bootstrapMode := .welcome
        joinedPosition := draft.position
        joinedAt := now
        removedPosition := none
        removedAt := none }) db.memberships }

def insertMember (draft : EnvelopeDraft) (kind : ConversationKind) (intent : MembershipIntentRow)
    (credential : RoleCredentialRow) (now : String) (db : DeliveryDb) :
    Except Failure DeliveryDb := do
  let members ← insertUnique "memberships_pkey"
    (fun row : MembershipRow => (row.conversationId, row.installationId))
    { conversationId := intent.conversationId
      accountId := credential.accountId
      installationId := intent.targetInstallationId
      credentialId := credential.credentialId
      role := credential.role
      deliveryPurpose := kind
      bootstrapMode := .welcome
      joinedPosition := draft.position
      joinedAt := now
      removedPosition := none
      removedAt := none } db.memberships
  .ok { db with memberships := members }

/-- A row of the target that was removed is reused, else one is inserted. -/
def seatMember (draft : EnvelopeDraft) (kind : ConversationKind) (intent : MembershipIntentRow)
    (credential : RoleCredentialRow) (now : String) (db : DeliveryDb) : Except Failure DeliveryDb :=
  if (db.memberships.filter fun row =>
      isMember intent.conversationId intent.targetInstallationId row &&
        decide (row.removedAt ≠ none)).length = 1 then
    .ok (rejoinMember draft intent credential now db)
  else insertMember draft kind intent credential now db

/-- The added target becomes a member at the Commit's position. -/
def admitMember (draft : EnvelopeDraft) (input : ConsumeCommitInput) (admitted : AdmittedCommit)
    (credential : RoleCredentialRow) (now : String) (db : DeliveryDb) :
    Except Failure DeliveryDb := do
  let intent := admitted.intent
  let db ← seatMember draft admitted.conversation.kind intent credential now
    (usePackage input.intentId now db)
  match input.welcomeByInstallation with
  | [] => .ok db
  | (_, welcome) :: _ => insertWelcome H draft intent.targetInstallationId welcome now db

def removeMember (draft : EnvelopeDraft) (intent : MembershipIntentRow) (now : String)
    (db : DeliveryDb) : DeliveryDb :=
  { db with
    memberships := updateWhere (isMember intent.conversationId intent.targetInstallationId)
      (fun row => { row with
        removedPosition := some draft.position
        removedAt := some now }) db.memberships }

def applyBoundary (draft : EnvelopeDraft) (input : ConsumeCommitInput) (admitted : AdmittedCommit)
    (now : String) (db : DeliveryDb) : Except Failure DeliveryDb :=
  match admitted.target with
  | some credential => admitMember H draft input admitted credential now db
  | none => .ok (removeMember draft admitted.intent now db)

end

section

variable (H : HashFunction)

/-- The roster rows after the change: a removed target leaves, an added one joins at the end. -/
def rewriteRoster (admitted : AdmittedCommit) (rosterVersion : Nat) (db : DeliveryDb) :
    DeliveryDb :=
  let conversationId := admitted.intent.conversationId
  let kept := db.rosterProjections.filter fun row => decide (admitted.intent.operation = .remove →
    ¬ (row.conversationId = conversationId ∧
      row.installationId = admitted.intent.targetInstallationId))
  let moved := updateWhere (fun row : RosterProjectionRow =>
    decide (row.conversationId = conversationId))
    (fun row => { row with rosterVersion := rosterVersion }) kept
  match admitted.target with
  | none => { db with rosterProjections := moved }
  | some credential => { db with
      rosterProjections := moved ++ [{
        conversationId := conversationId
        conversationGeneration := admitted.conversation.generation
        rosterVersion := rosterVersion
        accountId := credential.accountId
        installationId := admitted.intent.targetInstallationId
        credentialId := credential.credentialId
        credentialFingerprint := credential.credentialFingerprint
        ordinal := nextOrdinal ((moved.filter fun row =>
          decide (row.conversationId = conversationId)).map RosterProjectionRow.ordinal) }] }

def rewriteRecipients (draft : EnvelopeDraft) (admitted : AdmittedCommit)
    (recipientSetVersion : Nat) (db : DeliveryDb) : DeliveryDb :=
  let conversationId := admitted.intent.conversationId
  let kept := db.recipientProjections.filter fun row =>
    decide (admitted.intent.operation = .remove → ¬ (row.conversationId = conversationId ∧
      row.installationId = admitted.intent.targetInstallationId))
  let moved := updateWhere (fun row : RecipientProjectionRow =>
    decide (row.conversationId = conversationId))
    (fun row => { row with recipientSetVersion := recipientSetVersion }) kept
  match admitted.target with
  | none => { db with recipientProjections := moved }
  | some credential => { db with
      recipientProjections := moved ++ [{
        conversationId := conversationId
        conversationGeneration := admitted.conversation.generation
        recipientSetVersion := recipientSetVersion
        accountId := credential.accountId
        installationId := admitted.intent.targetInstallationId
        credentialId := credential.credentialId
        credentialFingerprint := credential.credentialFingerprint
        credentialRevocationVersion := credential.revocationVersion
        credentialState := credential.state
        credentialExpiresAt := credential.expiresAt
        joinedPosition := draft.position
        removedPosition := none
        installationState := .active
        ordinal := nextOrdinal ((moved.filter fun row =>
          decide (row.conversationId = conversationId)).map RecipientProjectionRow.ordinal) }] }

/-- The hash of the roster rows as they stand, read at the resulting version. -/
def currentRosterHash (conversation : ConversationRow) (rosterVersion : Nat) (db : DeliveryDb) :
    Except Failure Bytes :=
  computeApplicationAppendMlsRosterHash H ((byOrdinal RosterProjectionRow.ordinal
    (db.rosterProjections.filter fun row =>
      decide (row.conversationId = conversation.conversationId))).map fun row =>
        { row.toApplicationAppendMlsRosterProjection with
          conversationId := conversation.conversationId
          conversationGeneration := conversation.generation
          rosterVersion := rosterVersion })

def currentRecipientSetHash (conversation : ConversationRow) (recipientSetVersion : Nat)
    (db : DeliveryDb) : Except Failure Bytes :=
  computeApplicationAppendRecipientSetHash H ((byOrdinal RecipientProjectionRow.ordinal
    (db.recipientProjections.filter fun row =>
      decide (row.conversationId = conversation.conversationId))).map fun row =>
        { row.toApplicationAppendRecipientProjection with
          conversationId := conversation.conversationId
          conversationGeneration := conversation.generation
          recipientSetVersion := recipientSetVersion })

def commitRow (draft : EnvelopeDraft) (input : ConsumeCommitInput) (rosterVersion
    recipientSetVersion : Nat) (recipientSetHash : Bytes) (now : String) (row : ConversationRow) :
    ConversationRow :=
  { row with
    state := .active
    epoch := input.resultingEpoch
    rosterVersion := rosterVersion
    etag := "\"e" ++ input.resultingEpoch.repr ++ "-r" ++ rosterVersion.repr ++ "\""
    rosterHash := input.proposedRosterHash
    confirmedTranscriptHash := input.resultingConfirmedTranscriptHash
    recipientSetVersion := recipientSetVersion
    recipientSetHash := recipientSetHash
    lastPosition := draft.position
    currentLogHeadHash := draft.headHash
    lastActivityAt := now }

def countCommit (conversationId : String) (bytes : Nat) (db : DeliveryDb) : DeliveryDb :=
  { db with
    usage := updateWhere (fun row => decide (row.conversationId = conversationId))
      (fun row => { row with
        envelopeCount := row.envelopeCount + 1
        envelopeBytes := row.envelopeBytes + bytes }) db.usage }

/-- Roster, recipients and the conversation row move to the resulting versions. -/
def projectCommit (draft : EnvelopeDraft) (input : ConsumeCommitInput) (admitted : AdmittedCommit)
    (now : String) (db : DeliveryDb) : Except CommitError DeliveryDb := do
  let rosterVersion := input.expectedRosterVersion + 1
  let recipientSetVersion := admitted.conversation.recipientSetVersion + 1
  let db := rewriteRoster admitted rosterVersion db
  let rosterHash ← thrown (currentRosterHash H admitted.conversation rosterVersion db)
  if rosterHash ≠ input.proposedRosterHash then .error (.cas .rosterHashMismatch)
  else
    let db := rewriteRecipients draft admitted recipientSetVersion db
    let recipientSetHash ← thrown (currentRecipientSetHash H admitted.conversation
      recipientSetVersion db)
    let db := updateConversation admitted.intent.conversationId
      (commitRow draft input rosterVersion recipientSetVersion recipientSetHash now) db
    .ok (countCommit admitted.intent.conversationId input.commit.length db)

end

section

variable (keys : AuthorityDerivations) (H : HashFunction)

def materialOf (grant : LockedConversationSendGrant) : GrantMaterial where
  installationId := grant.installationId
  accountId := grant.roleCredentialSubjectAccountId
  credentialId := grant.credentialId
  role := grant.role
  credentialFingerprint := grant.roleCredentialFingerprint
  validFrom := grant.roleCredentialValidFrom
  validUntil := grant.roleCredentialValidUntil
  expiresAt := grant.expiresAt

/-- `ORDER BY installation_id` -/
def byInstallation (grants : List LockedConversationSendGrant) :
    List LockedConversationSendGrant :=
  grants.insertionSort fun a b => a.installationId ≤ b.installationId

/-- Every grant of another member, and the target's own. -/
def grantsWith (intent : MembershipIntentRow) (credential : RoleCredentialRow) (now : String)
    (db : DeliveryDb) : List GrantMaterial :=
  (byInstallation (db.sendGrants.filter fun grant => decide (
      grant.conversationId = intent.conversationId ∧
      grant.installationId ≠ intent.targetInstallationId))).map materialOf ++
    [⟨intent.targetInstallationId, credential.accountId, credential.credentialId, credential.role,
      credential.credentialFingerprint, now, credential.expiresAt, credential.expiresAt⟩]

def revokeGrant (intent : MembershipIntentRow) (db : DeliveryDb) : DeliveryDb :=
  { db with
    sendGrants := updateWhere (fun grant => decide (
      grant.conversationId = intent.conversationId ∧
      grant.installationId = intent.targetInstallationId))
      (fun grant => { grant with state := .revoked }) db.sendGrants }

def activeGrants (conversationId : String) (db : DeliveryDb) : List GrantMaterial :=
  (byInstallation (db.sendGrants.filter fun grant => decide (
    grant.conversationId = conversationId ∧ grant.state = .active))).map materialOf

/-- `INSERT INTO conversation_policy_transitions ... ON CONFLICT DO NOTHING` -/
def recordPolicyTransition (conversationId policyHeadId : String) (policyHeadSequence : Nat)
    (policyHeadHash : Bytes) (position : Nat) (now : String) (db : DeliveryDb) : DeliveryDb :=
  { db with
    policyTransitions := insertMissing
      (fun row : PolicyTransitionRow => (row.conversationId, row.policyHeadSequence))
      ⟨conversationId, policyHeadSequence, policyHeadId, policyHeadHash, position, now⟩
      db.policyTransitions }

def reissueInput (admitted : AdmittedCommit) (provision : ProvisionRow) (grants : List GrantMaterial)
    (selectedInstallationId now : String) : IssueConversationPolicyHeadInput where
  conversationId := admitted.intent.conversationId
  projectRefId := admitted.conversation.projectRefId
  provision := provision
  conversationKind := admitted.conversation.kind
  conversationGeneration := admitted.conversation.generation
  quotaPolicyDigest := admitted.conversation.quotaPolicyDigest
  grants := grants
  selectedInstallationId := selectedInstallationId
  anchor := .update
  now := now

/-- Issue the head over the grants and record where it takes effect. -/
def reissueHead (entropy : CommitEntropy) (admitted : AdmittedCommit) (provision : ProvisionRow)
    (grants : List GrantMaterial) (selectedInstallationId : String) (position : Nat)
    (db : DeliveryDb) : Except CommitError DeliveryDb := do
  let (issued, db) ← thrown (issueConversationPolicyHead keys H (reissueInput admitted provision
    grants selectedInstallationId entropy.now) entropy.head db)
  match issued with
  | .unavailable => .error (.cas .policyHeadUnavailable)
  | .issued policyHeadId sequence digest =>
    .ok (recordPolicyTransition admitted.intent.conversationId policyHeadId sequence digest position
      entropy.now db)

/-- The append authority after the change. -/
def reissueAuthority (entropy : CommitEntropy) (admitted : AdmittedCommit) (position : Nat)
    (db : DeliveryDb) : Except CommitError DeliveryDb :=
  let conversation := admitted.conversation
  let intent := admitted.intent
  match readProjectProvision db conversation.projectRefId with
  | none => .error (.cas .authorityProvisionMissing)
  | some provision =>
    match admitted.target with
    | some credential => do
      let db ← thrown (ensureMemberQuotaBindings H intent.conversationId credential.accountId
        intent.targetInstallationId conversation.projectRefId conversation.realmId entropy.now
        db)
      reissueHead keys H entropy admitted provision
        (grantsWith intent credential entropy.now db) intent.targetInstallationId position db
    | none =>
      let db := revokeGrant intent db
      match activeGrants intent.conversationId db with
      | [] => .error (.cas .noRemainingSendGrants)
      | first :: others => reissueHead keys H entropy admitted provision (first :: others)
          first.installationId position db

end

section

variable (keys : AuthorityDerivations) (H : HashFunction)

/-- The live members in order, who get one mailbox item each. -/
def fanoutInstallations (db : DeliveryDb) (conversationId : String) : List String :=
  ((liveMembers db conversationId).map MembershipRow.installationId).insertionSort (· ≤ ·)

/-- Mailboxes, the outbox event, the page end and the fence. -/
def announceCommit (draft : EnvelopeDraft) (input : ConsumeCommitInput) (now : String)
    (db : DeliveryDb) : Except Failure DeliveryDb := do
  let conversationId := draft.conversationId
  let db ← deliverCommit draft now (fanoutInstallations db conversationId) db
  let db := emitEvent H conversationId "membership-commit-accepted"
    [("conversationId", conversationId), ("intentId", input.intentId),
      ("position", draft.position.repr)] now db
  let db ← insertPageEndProjectionFromRows conversationId draft.position now db
  let ((), db) ← refreshCustodySnapshotDigest H conversationId db
  .ok db

/-- The writes of a consumption. -/
def storeCommit (signer : LogSigner) (entropy : CommitEntropy) (input : ConsumeCommitInput)
    (admitted : AdmittedCommit) : Tx DeliveryDb CommitError CommittedMembership := fun db => do
  let now := entropy.now
  let draft ← thrown (draftEnvelope H (commitLeaf now input admitted)
    (some (input.baseConfirmedTranscriptHash, input.resultingConfirmedTranscriptHash)) input.commit
    admitted.conversation.currentLogHeadHash admitted.signingKeyId)
  let signature ← thrown (signer admitted.signingKeyId draft.logCheckpointDigest)
  let db ← thrown (insertEnvelope (draft.row signature) db)
  let consumed := consumedProposals input admitted.proposal
  let db := commitIntent input.intentId input.envelopeId draft.position
    (commitProposals consumed now db)
  let db ← thrown (applyBoundary H draft input admitted now db)
  let db ← projectCommit H draft input admitted now db
  let db ← reissueAuthority keys H entropy admitted draft.position db
  let db ← thrown (announceCommit H draft input now db)
  .ok ({ intentId := input.intentId
         envelopeId := input.envelopeId
         position := draft.position
         headHash := draft.headHash
         resultingEpoch := input.resultingEpoch
         resultingRosterVersion := input.expectedRosterVersion + 1
         consumedProposals := consumed }, db)

def consumeCommitTx (signer : LogSigner) (entropy : CommitEntropy) (input : ConsumeCommitInput) :
    Tx DeliveryDb CommitError CommittedMembership := fun db => do
  let admitted ← admitCommit db entropy.now input
  storeCommit keys H signer entropy input admitted db

/-- A `CommitCasError` becomes an answer; any other error is passed on. -/
def consumeCommit (signer : LogSigner) (entropy : CommitEntropy) (input : ConsumeCommitInput)
    (db : DeliveryDb) : Except Failure MembershipCommitResult × DeliveryDb :=
  if input.wellFormed H then
    match sqlBegin (consumeCommitTx keys H signer entropy input) db with
    | (.ok committed, written) => (.ok (.committed committed), written)
    | (.error (.cas reason), kept) => (.ok (.casFailed reason), kept)
    | (.error (.thrown failure), kept) => (.error failure, kept)
  else (.ok .malformedRequest, db)

end

end JbChat.Store.MembershipCommits
