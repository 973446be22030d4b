/- source: src/production/storage/membershipIntentStore.ts, storage/migrations/0001_spec_baseline.sql
   digest: Membership intents: creation, cancellation and expiry. -/

import JbChat.Store.Authority
import JbChat.Store.Provisioning

/-!
A call that reads only until it refuses ends with its answer and the rows unchanged. What it
writes before a later refusal stays written, since the refusal is returned and not thrown.
-/

set_option autoImplicit false

namespace JbChat.Store.MembershipIntents

open Foundation.HashTrace Foundation.Transaction Delivery.ValueObjects Delivery.Instants
open Delivery.InstantOrder Delivery.Snapshot Delivery.Fanout Tables Store.Authority Provisioning

/-- `UUID_PATTERN` -/
def isLowercaseUuid (text : String) : Bool :=
  matchesEach (List.replicate 8 isLowerHex ++ [(· == '-')] ++ List.replicate 4 isLowerHex ++
    [(· == '-')] ++ List.replicate 4 isLowerHex ++ [(· == '-')] ++ List.replicate 4 isLowerHex ++
    [(· == '-')] ++ List.replicate 12 isLowerHex) text.toList

structure CreateIntentInput where
  operation : IntentOperation
  conversationId : String
  targetInstallationId : String
  requestedByInstallationId : Option String
  grantId : Option String

def CreateIntentInput.wellFormed (input : CreateIntentInput) : Bool :=
  decide (input.operation ≠ .replaceInstallation) && isLowercaseUuid input.conversationId &&
    isLowercaseUuid input.targetInstallationId &&
    input.requestedByInstallationId.all isLowercaseUuid && input.grantId.all isLowercaseUuid

inductive IntentRefusal where
  | conversationNotActive
  | grantRequired
  | grantInvalid
  | targetNotEnrolled
  | targetCredentialMissing
  | targetRoleUnresolvable
  | relayNotYours
  | projectNotProvisioned
  | targetNotAMember
  | keyPackageUnavailable
  | malformedRequest

structure CreatedIntent where
  intentId : String
  operation : IntentOperation
  baseEpoch : Nat
  baseRosterVersion : Nat
  proposedRosterHash : Bytes
  takenKeyPackage : Option (Bytes × Bytes × Bytes)
  authorizedCommitterInstallationIds : List String
  targetCredentialId : Option String
  expiresAt : String

inductive MembershipIntentCreation where
  | created (intent : CreatedIntent)
  | conflict
  | refused (reason : IntentRefusal)

/-- The reading of the clock, the random id, and the KeyPackages another transaction holds. -/
structure IntentEntropy where
  now : String
  intentId : String
  lockedPackages : List Bytes

def intentTtlMilliseconds : Int := 300000

def roleCredentialTtlMilliseconds : Int := 2592000000

/-- `new Date(Date.parse(instant) + milliseconds).toISOString()` -/
def instantAfter (instant : String) (milliseconds : Int) : Except Failure String :=
  match toISOString (dateParse instant + milliseconds) with
  | none => .error (.invalid "Invalid time value")
  | some text => .ok text

/-- `CAPABILITY_ROLES` -/
def capabilityRole : ConversationKind → GrantCapability → Option SendRole
  | .purchaseSupport, .purchaseSupport => some .customer
  | .purchaseSupport, .projectStaff => some .projectStaff
  | _, _ => none

def admittedCapabilities : ConversationKind → List GrantCapability
  | .purchaseSupport => [.purchaseSupport, .projectStaff, .channelRelay]
  | _ => [.purchaseSupport, .projectStaff, .tokenHolder, .itemSetBuyer]

inductive ResolvedRole where
  | unresolved
  | relayNotYours
  | role (role : SendRole)
deriving DecidableEq

def liveMembers (db : DeliveryDb) (conversationId : String) : List MembershipRow :=
  db.memberships.filter fun row => decide (row.conversationId = conversationId ∧
    row.removedAt = none)

/-- A relay joins with the role of the one member it serves. -/
def relayRoleFor (db : DeliveryDb) (conversationId targetInstallationId : String)
    (requestedByInstallationId : Option String) : ResolvedRole :=
  match requestedByInstallationId with
  | none => .unresolved
  | some requester =>
    let relays := (db.admission.relayInstallations.filter fun row =>
        decide (row.relayInstallationId = targetInstallationId) && row.active).flatMap fun relay =>
      (db.installations.filter fun row => decide (row.installationId = requester)).map
        fun installation => (relay.servedAccountId, installation.accountId)
    match onlyRow relays with
    | none => .unresolved
    | some (servedAccountId, requesterAccountId) =>
      if servedAccountId ≠ requesterAccountId then .relayNotYours
      else
        match onlyRow (((liveMembers db conversationId).filter fun row =>
            decide (row.accountId = servedAccountId)).map MembershipRow.role).dedup with
        | none => .unresolved
        | some role => .role role

/-- The live members who may commit, less the targets of live removals. -/
def authorizedCommitters (db : DeliveryDb) (conversationId : String) (kind : ConversationKind)
    (excluded : Option String) : List String :=
  let targets := (db.membershipIntents.filter fun intent => decide (
    intent.conversationId = conversationId ∧ intent.operation = .remove ∧
      intent.state.isLive = true)).map MembershipIntentRow.targetInstallationId
  ((((liveMembers db conversationId).filter fun row => roleMaySend kind row.role &&
      decide (row.installationId ∉ targets)).map
    MembershipRow.installationId).insertionSort (· ≤ ·)).filter fun id => decide (some id ≠ excluded)

def activeRoleCredentials (db : DeliveryDb) (conversationId installationId now : String) :
    List RoleCredentialRow :=
  db.roleCredentials.filter fun row => decide (row.conversationId = conversationId ∧
    row.installationId = installationId ∧ row.state = .active ∧ now < row.expiresAt)

/-- `INSERT INTO role_credentials` -/
def insertRoleCredential (row : RoleCredentialRow) (db : DeliveryDb) :
    Except Failure DeliveryDb := do
  let rows ← insertUnique "role_credentials_pkey" RoleCredentialRow.credentialId row
    db.roleCredentials
  .ok { db with roleCredentials := rows }

def readProjectProvision (db : DeliveryDb) (projectRefId : String) : Option ProvisionRow :=
  onlyRow (db.policy.provisions.filter fun row => decide (row.projectRefId = projectRefId))

/-- The target's conversation credential is issued when it has none. -/
def issueTargetRoleCredential (keys : AuthorityDerivations) (input : CreateIntentInput)
    (conversation : ConversationRow) (target : InstallationRow) (capability : GrantCapability)
    (now : String) (db : DeliveryDb) : Except Failure (Except IntentRefusal DeliveryDb) :=
  if activeRoleCredentials db input.conversationId input.targetInstallationId now ≠ [] then
    .ok (.ok db)
  else
    let resolved := match capability with
      | .channelRelay => relayRoleFor db input.conversationId input.targetInstallationId
          input.requestedByInstallationId
      | _ => match capabilityRole conversation.kind capability with
          | none => .unresolved
          | some role => .role role
    match resolved with
    | .unresolved => .ok (.error .targetRoleUnresolvable)
    | .relayNotYours => .ok (.error .relayNotYours)
    | .role role =>
      if target.mlsCredentialFingerprint.length ≠ 32 then .ok (.error .targetCredentialMissing)
      else
        match readProjectProvision db conversation.projectRefId with
        | none => .ok (.error .projectNotProvisioned)
        | some provision => do
          let expiresAt ← instantAfter now roleCredentialTtlMilliseconds
          let db ← insertRoleCredential
            { credentialId := keys.roleCredentialId input.targetInstallationId
                input.conversationId
              conversationId := input.conversationId
              installationId := input.targetInstallationId
              accountId := target.accountId
              policyId := provision.policyId
              role := role
              credentialFingerprint := target.mlsCredentialFingerprint
              issuedAt := now
              expiresAt := expiresAt
              revocationVersion := 1
              state := .active } db
          .ok (.ok db)

section

structure AdmittedIntent where
  conversation : ConversationRow
  target : InstallationRow
  capability : Option GrantCapability
  keyPackage : Option KeyPackageRow

variable (db : DeliveryDb) (now : String) (input : CreateIntentInput)

def liveIntentsFor (conversationId targetInstallationId : String) : List MembershipIntentRow :=
  db.membershipIntents.filter fun row => decide (row.conversationId = conversationId ∧
    row.targetInstallationId = targetInstallationId ∧ row.state.isLive = true)

/-- The conversation must be there, without a live intent for the target, and active. -/
def intentConversation : Except MembershipIntentCreation ConversationRow :=
  match onlyRow (db.conversations.filter fun row =>
      decide (row.conversationId = input.conversationId)) with
  | none => .error (.refused .conversationNotActive)
  | some conversation =>
    if liveIntentsFor db input.conversationId input.targetInstallationId ≠ [] then .error .conflict
    else if conversation.state ≠ .active then .error (.refused .conversationNotActive)
    else .ok conversation

def intentTarget : Except MembershipIntentCreation InstallationRow :=
  match onlyRow (db.installations.filter fun row =>
      decide (row.installationId = input.targetInstallationId)) with
  | none => .error (.refused .targetNotEnrolled)
  | some target =>
    if target.status ≠ .active then .error (.refused .targetNotEnrolled) else .ok target

/-- An addition needs a live grant of the target's account. -/
def additionGrant (kind : ConversationKind) (target : InstallationRow) :
    Except MembershipIntentCreation GrantCapability :=
  match input.grantId with
  | none => .error (.refused .grantRequired)
  | some grantId =>
    match onlyRow (db.admission.eligibilityGrants.filter fun row =>
        decide (row.grantId = grantId)) with
    | none => .error (.refused .grantInvalid)
    | some grant =>
      if grant.state ≠ .active ∨ grant.validUntil ≤ now ∨ grant.accountId ≠ target.accountId ∨
          grant.capability ∉ admittedCapabilities kind then
        .error (.refused .grantInvalid)
      else .ok grant.capability

/-- A removal needs a live member, and only the served member removes its relay. -/
def removalTarget : Except MembershipIntentCreation Unit :=
  if ((liveMembers db input.conversationId).filter fun row =>
      decide (row.installationId = input.targetInstallationId)).length ≠ 1 then
    .error (.refused .targetNotAMember)
  else if relayRoleFor db input.conversationId input.targetInstallationId
      input.requestedByInstallationId = .relayNotYours then
    .error (.refused .relayNotYours)
  else .ok ()

/-- The oldest available KeyPackage that no other transaction holds. -/
def availablePackage (lockedPackages : List Bytes) : Option KeyPackageRow :=
  ((db.admission.keyPackages.filter fun row => decide (
      row.installationId = input.targetInstallationId ∧ row.state = .available ∧
      row.takenAt = none ∧ now < row.expiresAt ∧ row.keyPackageRef ∉ lockedPackages)).insertionSort
    fun a b => a.createdAt ≤ b.createdAt).head?

/-- Everything a creation checks before its first write. -/
def admitIntent (lockedPackages : List Bytes) : Except MembershipIntentCreation AdmittedIntent := do
  let conversation ← intentConversation db input
  let target ← intentTarget db input
  match input.operation with
  | .add => do
    let capability ← additionGrant db now input conversation.kind target
    match availablePackage db now input lockedPackages with
    | none => .error (.refused .keyPackageUnavailable)
    | some package => .ok ⟨conversation, target, some capability, some package⟩
  | _ => do
    removalTarget db input
    .ok ⟨conversation, target, none, none⟩

end

section

variable (H : HashFunction)

/-- The roster after the intent: the target leaves it, or joins at its end. -/
def projectedRoster (db : DeliveryDb) (input : CreateIntentInput) (conversation : ConversationRow)
    (target : InstallationRow) (credential : Option RoleCredentialRow) :
    List ApplicationAppendMlsRosterProjection :=
  let rows := byOrdinal RosterProjectionRow.ordinal (db.rosterProjections.filter fun row =>
    decide (row.conversationId = input.conversationId))
  let kept := (rows.filter fun row => decide (input.operation ≠ .remove ∨
      row.installationId ≠ input.targetInstallationId)).map fun row =>
    { row.toApplicationAppendMlsRosterProjection with
      conversationId := input.conversationId
      rosterVersion := row.rosterVersion + 1 }
  match credential with
  | none => kept
  | some credential => kept ++ [⟨input.conversationId, conversation.generation,
      conversation.rosterVersion + 1, target.accountId, input.targetInstallationId,
      credential.credentialId, credential.credentialFingerprint⟩]

/-- `INSERT INTO membership_intents`: its primary key, the partial index and its references. The
caller answers the index's error with a conflict; after its own check the index is silent. -/
def insertIntent (row : MembershipIntentRow) (db : DeliveryDb) : Except Failure DeliveryDb :=
  if liveIntentsFor db row.conversationId row.targetInstallationId ≠ [] then
    .error (.sql "membership_one_pending_target_idx")
  else if ¬ (row.requestedByInstallationId.all fun id =>
      db.installations.any fun installation => decide (installation.installationId = id)) then
    .error (.sql "membership_intents_requested_by_installation_id_fkey")
  else if ¬ (row.grantId.all fun id =>
      db.admission.eligibilityGrants.any fun grant => decide (grant.grantId = id)) then
    .error (.sql "membership_intents_grant_id_fkey")
  else do
    let rows ← insertUnique "membership_intents_pkey" MembershipIntentRow.intentId row
      db.membershipIntents
    .ok { db with membershipIntents := rows }

def isAvailablePackage (keyPackageRef : Bytes) (row : KeyPackageRow) : Bool :=
  decide (row.keyPackageRef = keyPackageRef ∧ row.state = .available)

/-- The intent takes its KeyPackage for good. -/
def takeKeyPackage (keyPackageRef : Bytes) (intentId now : String) (db : DeliveryDb) :
    Except Failure DeliveryDb :=
  if (db.admission.keyPackages.filter (isAvailablePackage keyPackageRef)).length ≠ 1 then
    .error (.invalid "The locked KeyPackage vanished mid-take.")
  else .ok { db with
    admission := { db.admission with
      keyPackages := updateWhere (isAvailablePackage keyPackageRef) (fun row => { row with
        state := .taken
        takenAt := some now
        takenByIntentId := some intentId }) db.admission.keyPackages } }

def takeAdmittedPackage (package : Option KeyPackageRow) (intentId now : String)
    (db : DeliveryDb) : Except Failure DeliveryDb :=
  match package with
  | none => .ok db
  | some package => takeKeyPackage package.keyPackageRef intentId now db

/-- `UPDATE conversations SET state = ... WHERE conversation_id = ... AND state = ...` -/
def moveConversation (conversationId : String) (source target : ConversationState)
    (db : DeliveryDb) : DeliveryDb :=
  { db with
    conversations := updateWhere
      (fun row => decide (row.conversationId = conversationId ∧ row.state = source))
      (fun row => { row with state := target }) db.conversations }

/-- The writes of a creation. -/
def storeIntent (entropy : IntentEntropy) (input : CreateIntentInput) (admitted : AdmittedIntent)
    (credential : Option RoleCredentialRow) : Tx DeliveryDb Failure MembershipIntentCreation :=
  fun db => do
    let expiresAt ← instantAfter entropy.now intentTtlMilliseconds
    let proposedRosterHash ← computeApplicationAppendMlsRosterHash H
      (projectedRoster db input admitted.conversation admitted.target credential)
    let db ← insertIntent
      { intentId := entropy.intentId
        conversationId := input.conversationId
        operation := input.operation
        targetInstallationId := input.targetInstallationId
        requestedByInstallationId := input.requestedByInstallationId
        grantId := input.grantId
        keyPackageRef := admitted.keyPackage.map KeyPackageRow.keyPackageRef
        baseEpoch := admitted.conversation.epoch
        baseRosterVersion := admitted.conversation.rosterVersion
        baseConfirmedTranscriptHash := admitted.conversation.confirmedTranscriptHash
        proposedRosterHash := proposedRosterHash
        state := .requested
        createdAt := entropy.now
        expiresAt := expiresAt
        committedEnvelope := none } db
    let db ← takeAdmittedPackage admitted.keyPackage entropy.intentId entropy.now db
    let db := moveConversation input.conversationId .active .membershipPending db
    let ((), db) ← refreshCustodySnapshotDigest H input.conversationId db
    .ok (.created
      { intentId := entropy.intentId
        operation := input.operation
        baseEpoch := admitted.conversation.epoch
        baseRosterVersion := admitted.conversation.rosterVersion
        proposedRosterHash := proposedRosterHash
        takenKeyPackage := admitted.keyPackage.map fun package =>
          (package.keyPackageRef, package.packageSha256, package.packageBytes)
        authorizedCommitterInstallationIds := authorizedCommitters db input.conversationId
          admitted.conversation.kind
          (if input.operation = .remove then some input.targetInstallationId else none)
        targetCredentialId := credential.map RoleCredentialRow.credentialId
        expiresAt := expiresAt }, db)

def createAddition (keys : AuthorityDerivations) (entropy : IntentEntropy)
    (input : CreateIntentInput) (admitted : AdmittedIntent) (capability : GrantCapability) :
    Tx DeliveryDb Failure MembershipIntentCreation := fun db => do
  let issued ← issueTargetRoleCredential keys input admitted.conversation admitted.target capability
    entropy.now db
  match issued with
  | .error refusal => .ok (.refused refusal, db)
  | .ok db =>
    match onlyRow (activeRoleCredentials db input.conversationId input.targetInstallationId
        entropy.now) with
    | none => .ok (.refused .targetCredentialMissing, db)
    | some credential => storeIntent H entropy input admitted (some credential) db

def createIntentTx (keys : AuthorityDerivations) (entropy : IntentEntropy)
    (input : CreateIntentInput) : Tx DeliveryDb Failure MembershipIntentCreation := fun db =>
  match admitIntent db entropy.now input entropy.lockedPackages with
  | .error outcome => .ok (outcome, db)
  | .ok admitted =>
    match admitted.capability with
    | some capability => createAddition H keys entropy input admitted capability db
    | none => storeIntent H entropy input admitted none db

def createIntent (keys : AuthorityDerivations) (entropy : IntentEntropy)
    (input : CreateIntentInput) (db : DeliveryDb) :
    Except Failure MembershipIntentCreation × DeliveryDb :=
  if input.wellFormed then sqlBegin (createIntentTx H keys entropy input) db
  else (.ok (.refused .malformedRequest), db)

end

section

variable (H : HashFunction)

inductive MembershipIntentResolution where
  | resolved (intentId : String) (state : IntentState)
  | unknown

def hasLiveIntent (db : DeliveryDb) (conversationId : String) : Bool :=
  db.membershipIntents.any fun row => decide (row.conversationId = conversationId ∧
    row.state.isLive = true)

def returnConversationToActiveIfClear (conversationId : String) (db : DeliveryDb) : DeliveryDb :=
  if hasLiveIntent db conversationId then db
  else moveConversation conversationId .membershipPending .active db

def setIntentState (selected : MembershipIntentRow → Bool) (state : IntentState)
    (db : DeliveryDb) : DeliveryDb :=
  { db with
    membershipIntents := updateWhere selected (fun row => { row with state := state })
      db.membershipIntents }

/-- The live intent that a live member of its conversation asks to cancel. -/
def cancellableIntent (db : DeliveryDb) (intentId requestedByInstallationId : String) :
    Option MembershipIntentRow :=
  match onlyRow (db.membershipIntents.filter fun row => decide (row.intentId = intentId)) with
  | none => none
  | some intent =>
    if ¬ intent.state.isLive ∨ ((liveMembers db intent.conversationId).filter fun row =>
        decide (row.installationId = requestedByInstallationId)).length ≠ 1 then none
    else some intent

def cancelIntentTx (intentId requestedByInstallationId : String) :
    Tx DeliveryDb Failure MembershipIntentResolution := fun db =>
  match cancellableIntent db intentId requestedByInstallationId with
  | none => .ok (.unknown, db)
  | some intent => do
    let db := setIntentState (fun row => decide (row.intentId = intentId)) .cancelled db
    let db := if intent.operation = .remove then db
      else returnConversationToActiveIfClear intent.conversationId db
    let ((), db) ← refreshCustodySnapshotDigest H intent.conversationId db
    .ok (.resolved intentId .cancelled, db)

/-- Callers pass the installation of a session, which is canonical. -/
def cancelIntent (intentId requestedByInstallationId : String) (db : DeliveryDb) :
    Except Failure MembershipIntentResolution × DeliveryDb :=
  if isLowercaseUuid intentId then sqlBegin (cancelIntentTx H intentId requestedByInstallationId) db
  else (.ok .unknown, db)

/-- The live intents whose time is over. -/
def isOverdue (now : String) (row : MembershipIntentRow) : Bool :=
  decide (row.state.isLive = true ∧ row.expiresAt ≤ now)

def refreshEach : List String → Tx DeliveryDb Failure Unit
  | [] => pure ()
  | conversationId :: others => do
    refreshCustodySnapshotDigest H conversationId
    refreshEach others

/-- An expired removal leaves its conversation pending. -/
def returnEach (expired : List MembershipIntentRow) (db : DeliveryDb) : DeliveryDb :=
  expired.foldl (fun db row => if row.operation = .remove then db
    else returnConversationToActiveIfClear row.conversationId db) db

def expireIntentsTx (now : String) : Tx DeliveryDb Failure Nat := fun db => do
  let expired := db.membershipIntents.filter (isOverdue now)
  let db := returnEach expired (setIntentState (isOverdue now) .expired db)
  let ((), db) ← refreshEach H (expired.map MembershipIntentRow.conversationId).eraseDups db
  .ok (expired.length, db)

def expireIntents (now : String) (db : DeliveryDb) : Except Failure Nat × DeliveryDb :=
  sqlBegin (expireIntentsTx H now) db

end

end JbChat.Store.MembershipIntents
