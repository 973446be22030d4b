/- source: src/production/storage/appendAuthority.ts, externalSenderRotation.ts,
     storage/migrations/0001_spec_baseline.sql, 0018_staff_registrations_and_provisioning.sql
   digest: The keys, credentials and checkpoints of a project, made on first use. -/

import JbChat.Store.Tables

set_option autoImplicit false

namespace JbChat.Store.Provisioning

open Foundation.HashTrace Foundation.Transaction Delivery.ValueObjects Delivery.Hashes Tables

/-- The keyed hash of the provisioning seed, and Ed25519: the public key of a seed, the
signature of a message under a seed, and whether a public key verifies it. -/
structure AuthorityDerivations where
  deriveSeed : String → String → Bytes
  publicRaw : Bytes → Bytes
  sign : Bytes → Bytes → Bytes
  verify : Bytes → Bytes → Bytes → Bool

def hexDigit (digit : Nat) : Char :=
  if digit < 10 then Char.ofNat (48 + digit) else Char.ofNat (87 + digit)

def hexText (bytes : Bytes) : String :=
  String.ofList (bytes.flatMap fun byte => [hexDigit (byte.toNat / 16), hexDigit (byte.toNat % 16)])

/-- The text of a UUID of version 4 whose other bits are the given bytes. -/
def uuidText (bytes : Bytes) : String :=
  let marked := bytes.mapIdx fun i byte =>
    if i = 6 then (byte &&& 0x0f) ||| 0x40 else if i = 8 then (byte &&& 0x3f) ||| 0x80 else byte
  String.intercalate "-" [hexText (marked.take 4), hexText ((marked.drop 4).take 2),
    hexText ((marked.drop 6).take 2), hexText ((marked.drop 8).take 2), hexText (marked.drop 10)]

namespace AuthorityDerivations

variable (keys : AuthorityDerivations)

def stableUuid (purpose scope : String) : String :=
  uuidText ((keys.deriveSeed ("uuid:" ++ purpose) scope).take 16)

def roleCredentialId (installationId conversationId : String) : String :=
  keys.stableUuid "role-credential" (conversationId ++ ":" ++ installationId)

def derivedPublic (purpose scope : String) : Bytes :=
  keys.publicRaw (keys.deriveSeed purpose scope)

end AuthorityDerivations

def dayMillis : Int := 86400000

def zeroHash : Bytes := List.replicate 32 0

def externalSenderFingerprint (H : HashFunction) (publicRaw : Bytes) : Bytes :=
  sha256Bytes H [utf8 "jb-msg-external-sender-fingerprint/v1", publicRaw]

/-- The `CHECK` constraints of `external_sender_credentials`. -/
def senderCredentialValid (row : ExternalSenderCredentialRow) : Bool :=
  decide (1 ≤ row.signerGeneration ∧ row.signerGeneration ≤ uint63Max ∧
    row.credentialFingerprint.length = 32 ∧ row.notBefore < row.expiresAt ∧
    row.expiresAt ≤ row.notBefore + 90 * dayMillis)

/-- Its unique keys: the id, the fingerprint, and the generation within the project. -/
def senderCredentialsConflict (row other : ExternalSenderCredentialRow) : Bool :=
  decide (other.credentialId = row.credentialId ∨
    other.credentialFingerprint = row.credentialFingerprint ∨
    (other.projectRefId = row.projectRefId ∧ other.signerGeneration = row.signerGeneration))

def hasProjectRef (projectRefId : String) (tables : PolicyTables) : Bool :=
  tables.projectRefs.any fun row => decide (row.projectRefId = projectRefId)

def hasPolicyLogCheckpoint (checkpointId : String) (tables : PolicyTables) : Bool :=
  tables.policyLogCheckpoints.any fun row => decide (row.checkpointId = checkpointId)

/-- `INSERT INTO external_sender_credentials ... ON CONFLICT DO NOTHING` -/
def insertSenderCredential (row : ExternalSenderCredentialRow) (createdCheckpointId : String)
    (tables : PolicyTables) : Except Failure PolicyTables :=
  if ¬ senderCredentialValid row then .error (.sql "external_sender_credentials_check")
  else if tables.externalSenderCredentials.any (senderCredentialsConflict row) then .ok tables
  else if ¬ (hasProjectRef row.projectRefId tables ∧
      hasPolicyLogCheckpoint createdCheckpointId tables) then
    .error (.sql "external_sender_credentials_fkey")
  else .ok { tables with
    externalSenderCredentials := tables.externalSenderCredentials ++ [row] }

def derivedCredential (keys : AuthorityDerivations) (H : HashFunction) (purpose projectRefId : String)
    (generation : Nat) (notBefore expiresAt : Int) : ExternalSenderCredentialRow :=
  let publicRaw := keys.derivedPublic purpose projectRefId
  { credentialId := keys.stableUuid purpose projectRefId
    projectRefId := projectRefId
    signerGeneration := generation
    credentialPublic := publicRaw
    credentialFingerprint := externalSenderFingerprint H publicRaw
    notBefore := notBefore
    expiresAt := expiresAt
    lifecycleState := .published }

/-- `INSERT INTO policies ... ON CONFLICT DO NOTHING` -/
def insertPolicy (row : PolicyRow) (tables : PolicyTables) : Except Failure PolicyTables :=
  if tables.policies.any fun other => decide (other.policyId = row.policyId ∧
      (other.policyRevision = row.policyRevision ∨ other.policyHash = row.policyHash)) then
    .ok tables
  else if ¬ hasProjectRef row.projectRefId tables then .error (.sql "policies_project_ref_id_fkey")
  else .ok { tables with policies := tables.policies ++ [row] }

/-- `INSERT INTO policy_head_signing_keys ... ON CONFLICT DO NOTHING` -/
def insertPolicyHeadSigningKey (row : PolicyHeadSigningKeyRow) (checkpointId : String)
    (tables : PolicyTables) : Except Failure PolicyTables :=
  if tables.policyHeadSigningKeys.any fun other => decide (other.keyId = row.keyId ∨
      other.keyFingerprint = row.keyFingerprint) then .ok tables
  else if ¬ (hasProjectRef row.projectRefId tables ∧
      hasPolicyLogCheckpoint checkpointId tables) then
    .error (.sql "policy_head_signing_keys_fkey")
  else .ok { tables with policyHeadSigningKeys := tables.policyHeadSigningKeys ++ [row] }

/-- `INSERT INTO project_messaging_provisions` -/
def insertProvision (row : ProvisionRow) (tables : PolicyTables) : Except Failure PolicyTables := do
  let provisions ← insertUnique "project_messaging_provisions_pkey" ProvisionRow.projectRefId row
    tables.provisions
  if ¬ (hasProjectRef row.projectRefId tables ∧ tables.policies.any fun policy =>
      decide (policy.policyId = row.policyId ∧ policy.policyRevision = row.policyRevision)) then
    .error (.sql "project_messaging_provisions_fkey")
  else .ok { tables with provisions := provisions }

section

variable (keys : AuthorityDerivations) (H : HashFunction) (projectRefId : String) (now : Int)

/-- The policy and the two bootstrap checkpoints. -/
def provisionPolicy (tables : PolicyTables) : Except Failure PolicyTables := do
  let tables ← insertPolicy
    { policyId := keys.stableUuid "policy" projectRefId
      policyRevision := 1
      projectRefId := projectRefId
      canonicalDocument := "\x7b\"profile\": \"project-support-standard-v1\"\x7d"
      policyHash := keys.deriveSeed "policy-hash" projectRefId } tables
  .ok { tables with
    policyLogCheckpoints := insertMissing PolicyLogCheckpointRow.checkpointId
      ⟨keys.stableUuid "policy-log-checkpoint" projectRefId, 0, zeroHash, none,
        "jbm-policy-log-unwitnessed", [0]⟩ tables.policyLogCheckpoints
    directoryCheckpoints := insertMissing DirectoryCheckpointRow.checkpointId
      ⟨keys.stableUuid "directory-checkpoint" projectRefId, 0, zeroHash,
        "jbm-directory-unwitnessed", [0]⟩ tables.directoryCheckpoints }

/-- Generations one and two, published together. -/
def provisionSenders (tables : PolicyTables) : Except Failure PolicyTables := do
  let checkpointId := keys.stableUuid "policy-log-checkpoint" projectRefId
  let tables ← insertSenderCredential (derivedCredential keys H "external-sender-current"
    projectRefId 1 now (now + 89 * dayMillis)) checkpointId tables
  insertSenderCredential (derivedCredential keys H "external-sender-staged" projectRefId 2 now
    (now + 89 * dayMillis)) checkpointId tables

def adoptedCredential (generation : Nat) (ownId : String) (tables : PolicyTables) : String :=
  match tables.externalSenderCredentials.find? fun row =>
      decide (row.projectRefId = projectRefId ∧ row.signerGeneration = generation) with
  | some row => row.credentialId
  | none => ownId

def provisionRow (tables : PolicyTables) : ProvisionRow where
  projectRefId := projectRefId
  policyId := keys.stableUuid "policy" projectRefId
  policyRevision := 1
  policyLogCheckpointId := keys.stableUuid "policy-log-checkpoint" projectRefId
  directoryCheckpointId := keys.stableUuid "directory-checkpoint" projectRefId
  currentExternalSenderCredentialId := adoptedCredential projectRefId 1
    (keys.stableUuid "external-sender-current" projectRefId) tables
  stagedExternalSenderCredentialId := adoptedCredential projectRefId 2
    (keys.stableUuid "external-sender-staged" projectRefId) tables
  policyHeadSigningKeyId := "jbm-policy-head-" ++ projectRefId

def provisionSigningKey (tables : PolicyTables) : Except Failure PolicyTables :=
  let publicRaw := keys.derivedPublic "policy-head-signer" projectRefId
  insertPolicyHeadSigningKey
    { keyId := "jbm-policy-head-" ++ projectRefId
      projectRefId := projectRefId
      publicKey := publicRaw
      keyFingerprint := sha256Bytes H [utf8 "jb-msg-policy-head-key-fingerprint/v1", publicRaw]
      notBefore := now
      expiresAt := now + 365 * dayMillis
      lifecycleState := .active } (keys.stableUuid "policy-log-checkpoint" projectRefId) tables

/-- Provisioning of a project that has no row yet. -/
def provisionFresh (tables : PolicyTables) : Except Failure (ProvisionRow × PolicyTables) := do
  let tables ← provisionPolicy keys projectRefId tables
  let tables ← provisionSenders keys H projectRefId now tables
  let row := provisionRow keys projectRefId tables
  let tables ← provisionSigningKey keys H projectRefId now tables
  let tables ← insertProvision row tables
  .ok (row, tables)

def provisionProjectMessaging : Tx PolicyTables Failure ProvisionRow := fun tables =>
  match onlyRow (tables.provisions.filter fun row => decide (row.projectRefId = projectRefId)) with
  | some row => .ok (row, tables)
  | none => provisionFresh keys H projectRefId now tables

end

section

variable {keys : AuthorityDerivations} {H : HashFunction} {projectRefId : String} {now : Int}
  {tables written : PolicyTables}

theorem insertPolicy_eq_ok {row : PolicyRow} (h : insertPolicy row tables = .ok written) :
    ∃ policies, written = { tables with policies := policies } := by
  unfold insertPolicy at h
  split at h
  · exact ⟨tables.policies, (Except.ok.inj h).symm⟩
  · obtain ⟨-, h⟩ := guard_ok.mp h
    exact ⟨_, (Except.ok.inj h).symm⟩

theorem provisionPolicy_eq_ok (h : provisionPolicy keys projectRefId tables = .ok written) :
    written.externalSenderCredentials = tables.externalSenderCredentials ∧
      written.provisions = tables.provisions := by
  obtain ⟨inserted, hinserted, h⟩ := bind_ok.mp h
  obtain ⟨policies, rfl⟩ := insertPolicy_eq_ok hinserted
  cases h
  exact ⟨rfl, rfl⟩

theorem insertPolicyHeadSigningKey_eq_ok {row : PolicyHeadSigningKeyRow} {checkpointId : String}
    (h : insertPolicyHeadSigningKey row checkpointId tables = .ok written) :
    ∃ signingKeys, written = { tables with policyHeadSigningKeys := signingKeys } := by
  unfold insertPolicyHeadSigningKey at h
  split at h
  · exact ⟨tables.policyHeadSigningKeys, (Except.ok.inj h).symm⟩
  · obtain ⟨-, h⟩ := guard_ok.mp h
    exact ⟨_, (Except.ok.inj h).symm⟩

theorem insertProvision_eq_ok {row : ProvisionRow} (h : insertProvision row tables = .ok written) :
    written.externalSenderCredentials = tables.externalSenderCredentials ∧
      written.provisions = tables.provisions ++ [row] ∧
      row.projectRefId ∉ tables.provisions.map ProvisionRow.projectRefId := by
  obtain ⟨provisions, hprovisions, h⟩ := bind_ok.mp h
  obtain ⟨-, h⟩ := guard_ok.mp h
  cases h
  unfold insertUnique at hprovisions
  obtain ⟨hfree, hrows⟩ := guard_ok.mp hprovisions
  cases hrows
  refine ⟨rfl, rfl, fun hmem => hfree ?_⟩
  obtain ⟨other, hother, hsame⟩ := List.mem_map.mp hmem
  exact List.any_eq_true.mpr ⟨other, hother, decide_eq_true hsame⟩

theorem provisionProjectMessaging_eq_ok {row : ProvisionRow}
    (h : provisionProjectMessaging keys H projectRefId now tables = .ok (row, written)) :
    (tables.provisions.filter (fun row => decide (row.projectRefId = projectRefId)) = [row] ∧
        written = tables) ∨
      ∃ prepared senders,
        prepared.externalSenderCredentials = tables.externalSenderCredentials ∧
        provisionSenders keys H projectRefId now prepared = .ok senders ∧
        row = provisionRow keys projectRefId senders ∧
        written.externalSenderCredentials = senders.externalSenderCredentials ∧
        written.provisions = senders.provisions ++ [row] ∧
        prepared.provisions = tables.provisions ∧
        projectRefId ∉ senders.provisions.map ProvisionRow.projectRefId := by
  unfold provisionProjectMessaging at h
  split at h
  · rename_i found hfound
    cases h
    exact Or.inl ⟨onlyRow_eq_some.mp hfound, rfl⟩
  · obtain ⟨prepared, hprepared, h⟩ := bind_ok.mp h
    obtain ⟨senders, hsenders, h⟩ := bind_ok.mp h
    obtain ⟨signed, hsigned, h⟩ := bind_ok.mp h
    obtain ⟨inserted, hinserted, h⟩ := bind_ok.mp h
    cases h
    obtain ⟨hcredentials, hprovisions⟩ := provisionPolicy_eq_ok hprepared
    obtain ⟨signingKeys, rfl⟩ := insertPolicyHeadSigningKey_eq_ok hsigned
    obtain ⟨hrowCredentials, hrowProvisions, hfree⟩ := insertProvision_eq_ok hinserted
    exact Or.inr ⟨prepared, senders, hcredentials, hsenders, rfl, hrowCredentials, hrowProvisions,
      hprovisions, hfree⟩

end

end JbChat.Store.Provisioning
