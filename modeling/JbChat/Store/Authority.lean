/- source: src/production/storage/postgresDeliveryStore.ts, appendAuthority.ts
   digest: The append authority rebuilt from its rows, and the digest fence around it. -/

import JbChat.Store.Tables

set_option autoImplicit false

namespace JbChat.Store.Authority

open Foundation.HashTrace
open Foundation.Transaction Delivery.ValueObjects Delivery.Snapshot Delivery.SnapshotParse
open Delivery.Fanout Tables

/-- `SERVICE_TENANT_ID` -/
def serviceTenantId : String := "00000000-0000-4000-8000-00000000a001"

/-- The subject whose quota each scope of a sender counts. -/
def bindingSubject (conversationId accountId installationId projectRefId : String) :
    QuotaScope → String
  | .installation => installationId
  | .account => accountId
  | .project => "project:" ++ projectRefId
  | .conversation => conversationId
  | .tenant => "tenant:" ++ serviceTenantId

def dayStart (instant : String) : String :=
  String.ofList (instant.toList.take 10) ++ "T00:00:00.000Z"

/-- The binding of one scope, with the window that starts at `windowStart`. -/
def quotaBinding (H : HashFunction) (realmId windowStart : String) (scope : QuotaScope)
    (subjectId : String) : Except Failure ExpectedAppendQuotaIdentity := do
  let scopeHash ← computeApplicationAppendQuotaScopeHash H realmId scope subjectId
  .ok ⟨scope, scopeHash, "application-append", windowStart, 86400, 1000, 1048576⟩

def quotaBindingsFor (H : HashFunction) (conversationId accountId installationId projectRefId
    windowStartedAt realmId : String) : Except Failure (List ExpectedAppendQuotaIdentity) :=
  quotaScopes.mapM fun scope => quotaBinding H realmId (dayStart windowStartedAt) scope
    (bindingSubject conversationId accountId installationId projectRefId scope)

def graphError (component : String) : Failure :=
  .invalid ("The relational authority graph is incomplete or ambiguous (" ++ component ++ ").")

/-- The one row a query of the graph must return. -/
def graphRow {α : Type} (component : String) (rows : List α) : Except Failure α :=
  match onlyRow rows with
  | none => .error (graphError component)
  | some row => .ok row

/-- The grants a sender's snapshot is read for, all of them when no sender is named. -/
def grantRows (db : DeliveryDb) (conversationId : String) (sender : Option String) :
    List LockedConversationSendGrant :=
  db.sendGrants.filter fun grant => decide (grant.conversationId = conversationId) &&
    (match sender with
      | none => true
      | some installationId => decide (grant.installationId = installationId))

/-- `memberships` joined with the member's credential and installation. -/
def memberRows (db : DeliveryDb) (conversationId installationId : String) :
    List (MembershipRow × RoleCredentialRow × InstallationRow) :=
  (db.memberships.filter fun member => decide (member.conversationId = conversationId ∧
      member.installationId = installationId)).flatMap fun member =>
    (db.roleCredentials.filter fun credential =>
        decide (credential.credentialId = member.credentialId)).flatMap fun credential =>
      (db.installations.filter fun installation =>
          decide (installation.installationId = member.installationId)).map fun installation =>
        (member, credential, installation)

/-- A snapshot knows three of the states an installation can have. -/
def parseInstallationStatus : InstallationStatus → Except Failure InstallationState
  | .active => .ok .active
  | .suspended => .ok .suspended
  | .revoked => .ok .revoked
  | _ => .error (.invalid "installation state is unsupported.")

def senderMembership (row : MembershipRow × RoleCredentialRow × InstallationRow) :
    Except Failure LockedSenderMembership := do
  let (member, credential, installation) := row
  let installationState ← parseInstallationStatus installation.status
  .ok
    { conversationId := member.conversationId
      accountId := member.accountId
      installationId := member.installationId
      credentialId := member.credentialId
      credentialFingerprint := credential.credentialFingerprint
      credentialRevocationVersion := credential.revocationVersion
      installationState := installationState
      credentialState := credential.state
      credentialExpiresAt := credential.expiresAt
      joinedPosition := member.joinedPosition
      removedPosition := member.removedPosition }

def pendingRemovals (db : DeliveryDb) (conversationId : String) : Nat :=
  (db.membershipIntents.filter fun intent => decide (intent.conversationId = conversationId ∧
    intent.operation = .remove ∧ intent.state.isLive = true)).length

/-- `ORDER BY ordinal` -/
def byOrdinal {α : Type} (ordinal : α → Nat) (rows : List α) : List α :=
  rows.insertionSort fun a b => ordinal a ≤ ordinal b

/-- The shared binding rows and exactly the sender's own installation and account rows. -/
def selectsBinding (installationHash accountHash : Bytes) (binding : QuotaBindingRow) : Bool :=
  match binding.identity.scope with
  | .installation => decide (binding.identity.scopeHash = installationHash)
  | .account => decide (binding.identity.scopeHash = accountHash)
  | _ => true

def liveReservations (db : DeliveryDb) (key : QuotaKey) : List QuotaReservationRow :=
  db.quotaReservations.filter fun row => decide (row.state = .live ∧ row.key = key)

/-- The text of a difference is a counter only when the difference is not negative. -/
def countText (value : Int) : Except Failure Nat :=
  if value < 0 then .error (.invalid "counter must be a canonical uint63 decimal string.")
  else .ok value.toNat

/-- The counter row as it was before the reservations that are live on it. -/
def rebuildQuota (db : DeliveryDb) (binding : QuotaBindingRow) :
    Except Failure LockedQuotaCounter :=
  match db.quotaCounters binding.key with
  | none => .error (graphError "quota-counter")
  | some counter => do
    let live := liveReservations db binding.key
    let liveOperations := (live.map fun row => row.reservationOperationCount).sum
    let liveBytes := (live.map fun row => row.reservationByteCount).sum
    let reservedOperationCount ← countText
      ((counter.reservedOperationCount : Int) - liveOperations)
    let reservedByteCount ← countText ((counter.reservedByteCount : Int) - liveBytes)
    let rowVersion ← countText ((counter.rowVersion : Int) - live.length)
    let identity := binding.identity
    .ok ⟨identity.scope, identity.scopeHash, identity.quotaName, identity.windowStartedAt,
      identity.windowSeconds, counter.operationCount, counter.byteCount, reservedOperationCount,
      reservedByteCount, rowVersion, identity.operationLimit, identity.byteLimit⟩

/-- The rows of the graph around one sender, quota counters excepted. -/
structure AuthorityRows where
  conversation : LockedConversationState
  sendGrant : LockedConversationSendGrant
  membership : LockedSenderMembership
  policyHead : LockedWitnessedPolicyHead
  pendingRemovalCount : Nat
  usage : LockedConversationUsage
  bindings : List QuotaBindingRow

def readAuthorityRows (H : HashFunction) (db : DeliveryDb) (conversationId : String)
    (sender : Option String) : Except Failure AuthorityRows := do
  let conversation ← graphRow "conversation" (db.conversations.filter fun row =>
    decide (row.conversationId = conversationId))
  let sendGrant ← graphRow "send-grant" (grantRows db conversationId sender)
  let member ← graphRow "membership" (memberRows db conversationId sendGrant.installationId)
  let membership ← senderMembership member
  let policyHead ← graphRow "policy-head" (db.policyHeadAnchors.filter fun row =>
    decide (row.conversationId = conversationId))
  let usage ← graphRow "usage" (db.usage.filter fun row =>
    decide (row.conversationId = conversationId))
  let installationHash ← computeApplicationAppendQuotaScopeHash H conversation.realmId
    .installation sendGrant.installationId
  let accountHash ← computeApplicationAppendQuotaScopeHash H conversation.realmId .account
    membership.accountId
  let bindings := (byOrdinal QuotaBindingRow.ordinal (db.quotaBindings.filter fun binding =>
    decide (binding.conversationId = conversationId))).filter
      (selectsBinding installationHash accountHash)
  if bindings = [] then .error (graphError "quota-bindings")
  else .ok ⟨conversation.toLockedConversationState, sendGrant, membership, policyHead,
    pendingRemovals db conversationId, usage, bindings⟩

def rebuildQuotas (db : DeliveryDb) :
    List QuotaBindingRow → Except Failure (List LockedQuotaCounter)
  | [] => .ok []
  | binding :: bindings => do
    let quota ← rebuildQuota db binding
    let quotas ← rebuildQuotas db bindings
    .ok (quota :: quotas)

/-- The head attests the sender's grant, and once witnessed its proof digest is derived
from the locked rows. -/
def senderPolicyHead (H : HashFunction) (conversation : LockedConversationState)
    (sendGrant : LockedConversationSendGrant) (policyHead : LockedWitnessedPolicyHead) :
    LockedWitnessedPolicyHead :=
  let selected : LockedWitnessedPolicyHead := { policyHead with
    selectedSendGrantEvidenceDigest := sendGrant.grantEvidenceDigest
    selectedSendGrantInclusionEvidenceDigest := sendGrant.grantInclusionEvidenceDigest }
  if policyHead.witnessState = .verified then
    { selected with
      proofEvidenceDigest := computePolicyHeadProofEvidenceDigest H conversation selected
        (policyHead.witnessCheckpointId.getD "") (policyHead.witnessedPolicyHeadHash.getD []) }
  else selected

def AuthorityRows.snapshot (H : HashFunction) (rows : AuthorityRows)
    (quotas : List LockedQuotaCounter) : LockedApplicationAppendSnapshot :=
  ⟨rows.conversation, rows.membership,
    senderPolicyHead H rows.conversation rows.sendGrant rows.policyHead, rows.sendGrant,
    rows.pendingRemovalCount, rows.usage, rows.bindings.map QuotaBindingRow.identity, quotas⟩

def rosterRows (db : DeliveryDb) (conversationId : String) :
    Except Failure (List ApplicationAppendMlsRosterProjection) :=
  match byOrdinal RosterProjectionRow.ordinal (db.rosterProjections.filter fun row =>
      decide (row.conversationId = conversationId)) with
  | [] => .error (graphError "roster-projection")
  | rows => .ok (rows.map fun row => row.toApplicationAppendMlsRosterProjection)

def recipientRows (db : DeliveryDb) (conversationId : String) :
    Except Failure (List ApplicationAppendRecipientProjection) :=
  match byOrdinal RecipientProjectionRow.ordinal (db.recipientProjections.filter fun row =>
      decide (row.conversationId = conversationId)) with
  | [] => .error (graphError "recipient-projection")
  | rows => .ok (rows.map fun row => row.toApplicationAppendRecipientProjection)

structure RebuiltAuthority where
  snapshot : LockedApplicationAppendSnapshot
  snapshotDigest : Bytes
  roster : List ApplicationAppendMlsRosterProjection
  recipients : List ApplicationAppendRecipientProjection

def reconstructAuthoritySnapshot (H : HashFunction) (db : DeliveryDb) (conversationId : String)
    (sender : Option String) : Except Failure RebuiltAuthority := do
  let rows ← readAuthorityRows H db conversationId sender
  let quotas ← rebuildQuotas db rows.bindings
  let roster ← rosterRows db conversationId
  let recipients ← recipientRows db conversationId
  let snapshot ← parseLockedApplicationAppendSnapshot H (rows.snapshot H quotas)
  let snapshotDigest ← computeLockedApplicationAppendSnapshotDigest H snapshot
  .ok ⟨snapshot, snapshotDigest, roster, recipients⟩

structure AuthorityRow where
  snapshot : LockedApplicationAppendSnapshot
  snapshotDigest : Bytes
  realmId : String
  mlsRosterCanonical : List ApplicationAppendMlsRosterProjection
  recipientProjectionsCanonical : List ApplicationAppendRecipientProjection
  activeSigningKeyId : String
  activeSigningKeyValidUntil : String
  rowVersion : Nat

def custodyRows (db : DeliveryDb) (conversationId : String) : List (CustodyRow × SigningKeyRow) :=
  (db.custody.filter fun row => decide (row.conversationId = conversationId)).flatMap fun row =>
    (db.signingKeys.filter fun key => decide (key.keyId = row.activeSigningKeyId)).map fun key =>
      (row, key)

/-- The sender's own fence, or the conversation's when it has none. -/
def fenceDigest (db : DeliveryDb) (conversationId : String) (sender : Option String)
    (custody : CustodyRow) : Bytes :=
  match sender with
  | none => custody.snapshotDigest
  | some installationId =>
    match onlyRow (db.senderFences.filter fun fence =>
        decide (fence.conversationId = conversationId ∧ fence.installationId = installationId)) with
    | none => custody.snapshotDigest
    | some fence => fence.snapshotDigest

def loadAuthority (H : HashFunction) (db : DeliveryDb) (conversationId : String)
    (sender : Option String) : Except Failure (Option AuthorityRow) :=
  match custodyRows db conversationId with
  | [] => .ok none
  | (custody, key) :: _ => do
    let rebuilt ← reconstructAuthoritySnapshot H db conversationId sender
    if rebuilt.snapshotDigest ≠ fenceDigest db conversationId sender custody then
      .error (.invalid
        "Reconstructed authority snapshot does not match the custody digest fence.")
    else
      .ok (some ⟨rebuilt.snapshot, rebuilt.snapshotDigest, custody.realmId, rebuilt.roster,
        rebuilt.recipients, custody.activeSigningKeyId, key.validUntil, custody.rowVersion⟩)

/-- The installations with a live grant, in order. -/
def activeInstallations (db : DeliveryDb) (conversationId : String) : List String :=
  ((db.sendGrants.filter fun grant => decide (grant.conversationId = conversationId ∧
    grant.state = .active)).map fun grant => grant.installationId).insertionSort (· ≤ ·)

/-- `INSERT INTO delivery_sender_fences ... ON CONFLICT DO UPDATE` -/
def upsertFence (conversationId installationId : String) (snapshotDigest : Bytes)
    (rows : List SenderFenceRow) : List SenderFenceRow :=
  let selected (row : SenderFenceRow) : Bool :=
    decide (row.conversationId = conversationId ∧ row.installationId = installationId)
  if rows.any selected then
    updateWhere selected (fun row => { row with
      snapshotDigest := snapshotDigest
      rowVersion := row.rowVersion + 1 }) rows
  else rows ++ [⟨conversationId, installationId, snapshotDigest, 1⟩]

/-- Rewrite the fence of each installation; the digest of the first one is the legacy one.
The fences are not part of what is rebuilt. -/
def refreshFences (H : HashFunction) (db : DeliveryDb) (conversationId : String) :
    List String → List SenderFenceRow → Except Failure (Option Bytes × List SenderFenceRow)
  | [], fences => .ok (none, fences)
  | installationId :: others, fences => do
    let rebuilt ← reconstructAuthoritySnapshot H db conversationId (some installationId)
    let (_, rest) ← refreshFences H db conversationId others
      (upsertFence conversationId installationId rebuilt.snapshotDigest fences)
    .ok (some rebuilt.snapshotDigest, rest)

def refreshCustodySnapshotDigest (H : HashFunction) (conversationId : String) :
    Tx DeliveryDb Failure Unit := do
  let db ← get
  if db.custody.any fun row => decide (row.conversationId = conversationId) then
    let active := activeInstallations db conversationId
    let kept := db.senderFences.filter fun fence =>
      decide (fence.conversationId = conversationId → fence.installationId ∈ active)
    let (legacyDigest, fences) ← lift (refreshFences H db conversationId active kept)
    match legacyDigest with
    | none => set { db with senderFences := fences }
    | some digest =>
      set { db with
        senderFences := fences
        custody := updateWhere (fun row => decide (row.conversationId = conversationId))
          (fun row => { row with
            snapshotDigest := digest
            rowVersion := row.rowVersion + 1 }) db.custody }
  else pure ()

end JbChat.Store.Authority
