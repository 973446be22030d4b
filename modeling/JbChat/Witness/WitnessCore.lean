/- source: src/production/witness/witnessCore.ts, witness/migrations/0001_witness_baseline.sql
   digest: The witness database and the two calls that extend its logs. -/

import JbChat.Delivery.Hashes
import JbChat.Witness.MerkleLog
import Mathlib.Data.List.Sort

/-!
A call locks the row of its namespace until it commits and touches rows of its own
namespace only, so calls are atomic steps here. The clock of the database and the
random checkpoint ID are arguments of a call; signatures and the text casts of the
database are ports. Instants that are only stored are kept as their texts.
-/

set_option autoImplicit false

namespace JbChat.Witness.WitnessCore

open Foundation Foundation.HashTrace Foundation.LengthPrefix
open Foundation.Transaction Delivery.ValueObjects Delivery.Hashes

inductive Namespace where
  | delivery
  | policy
  | directory
deriving DecidableEq

def Namespace.text : Namespace → String
  | .delivery => "delivery"
  | .policy => "policy"
  | .directory => "directory"

/-- A row of `witness_leaves`. -/
structure LeafRow where
  ns : Namespace
  treeIndex : Nat
  leafPayload : Bytes
  leafHash : Bytes
  appendedAt : String

/-- A row of `witness_checkpoints`. -/
structure CheckpointRow where
  checkpointId : String
  ns : Namespace
  treeSize : Nat
  rootHash : Bytes
  witnessKeyId : String
  witnessSignature : Bytes
  witnessedAt : String

/-- A row of `witness_delivery_heads`. -/
structure DeliveryHeadRow where
  conversationId : String
  position : Nat
  headHash : Bytes
  treeIndex : Nat

/-- A row of `witness_chain_heads`; the migration inserts one for each namespace. -/
structure ChainHeadRow where
  lastUpstreamCheckpointId : Option String
  updatedAt : String

/-- A row of `witness_submitter_keys`. -/
structure SubmitterKeyRow where
  keyId : String
  publicKey : Bytes
  validFrom : Int
  validUntil : Int
deriving DecidableEq

structure WitnessDb where
  leaves : List LeafRow
  checkpoints : List CheckpointRow
  deliveryHeads : List DeliveryHeadRow
  chainHeads : Namespace → ChainHeadRow
  submitterKeys : List SubmitterKeyRow

/-- The database after its migration, with some registered submitters. -/
def WitnessDb.migrated (now : String) (submitterKeys : List SubmitterKeyRow) : WitnessDb where
  leaves := []
  checkpoints := []
  deliveryHeads := []
  chainHeads _ := ⟨none, now⟩
  submitterKeys := submitterKeys

/-- What the core takes from outside: SHA-256, its signer, Ed25519 verification and
the casts of the database. A cast of a stored uuid text is that text. -/
structure WitnessPorts where
  sha256 : HashFunction
  witnessKeyId : String
  sign : Bytes → Bytes
  verifyEd25519 : Bytes → Bytes → Bytes → Bool
  castTimestamptz : String → Option Int
  castUuid : String → Option String
  castUuid_idem : ∀ text stored, castUuid text = some stored → castUuid stored = some stored

def witnessCheckpointDomain : String := "jb-msg-witness-checkpoint/v1"

structure WitnessCheckpoint where
  checkpointId : String
  ns : Namespace
  treeSize : String
  rootHash : String
  witnessKeyId : String
  witnessSignature : String
  witnessedAt : String

inductive ReasonCode where
  | submitterKeyUnknown
  | submitterSignatureInvalid
  | alreadyWitnessed
  | notAnExtension

def ReasonCode.text : ReasonCode → String
  | .submitterKeyUnknown => "submitter-key-unknown"
  | .submitterSignatureInvalid => "submitter-signature-invalid"
  | .alreadyWitnessed => "already-witnessed"
  | .notAnExtension => "not-an-extension"

inductive DeliveryExtensionResult where
  | witnessed (receipt : WitnessCheckpoint)
  | equivocation (position witnessedHeadHash submittedHeadHash : String)
  | rejected (reasonCode : ReasonCode)

/-- The declared `rejected` variant carries any reason; `extendChain` never returns it. -/
inductive ChainExtensionResult where
  | witnessed (receipt : WitnessCheckpoint)
  | equivocation (expectedPreviousCheckpointId submittedPreviousCheckpointId : Option String)
  | rejected (reasonCode : String)

structure DeliverySubmission where
  conversationId : String
  position : String
  previousHeadHash : String
  headHash : String
  signingKeyId : String
  signature : String
  checkpointReceivedAt : String

structure ChainSubmission where
  checkpointId : String
  treeSize : String
  rootHash : String
  previousCheckpointId : Option String
  signerKeyId : String

abbrev WitnessTx := Tx WitnessDb Failure

/-- Leaf hashes of a namespace in tree order, below `limit` when one is given. -/
def loadLeafHashes (db : WitnessDb) (ns : Namespace) (limit : Option Nat) : List Bytes :=
  let rows := db.leaves.filter fun row =>
    decide (row.ns = ns) && limit.all fun bound => decide (row.treeIndex < bound)
  (rows.insertionSort fun a b => a.treeIndex ≤ b.treeIndex).map LeafRow.leafHash

def computeWitnessCheckpointDigest (H : HashFunction) (ns checkpointId treeSize : String)
    (rootHash : Bytes) (witnessKeyId witnessedAt : String) : Bytes :=
  H.digest (utf8 witnessCheckpointDomain ++ lengthPrefixed [utf8 ns, utf8 checkpointId,
    utf8 treeSize, rootHash, utf8 witnessKeyId, utf8 witnessedAt])

def insertLeaf (row : LeafRow) : WitnessTx Unit := do
  let db ← get
  require (row.treeIndex ≤ uint63Max) (.sql "witness_leaves_tree_index_check")
  require (row.leafPayload.length ≤ 4096) (.sql "witness_leaves_leaf_payload_check")
  require (row.leafHash.length = 32) (.sql "witness_leaves_leaf_hash_check")
  require (∀ other ∈ db.leaves, ¬ (other.ns = row.ns ∧ other.treeIndex = row.treeIndex))
    (.sql "witness_leaves_pkey")
  modify fun db => { db with leaves := db.leaves ++ [row] }

def insertCheckpoint (row : CheckpointRow) : WitnessTx Unit := do
  let db ← get
  require (1 ≤ row.treeSize ∧ row.treeSize ≤ uint63Max) (.sql "witness_checkpoints_tree_size_check")
  require (row.rootHash.length = 32) (.sql "witness_checkpoints_root_hash_check")
  require (1 ≤ (utf8 row.witnessKeyId).length ∧ (utf8 row.witnessKeyId).length ≤ 64)
    (.sql "witness_checkpoints_witness_key_id_check")
  require (row.witnessSignature.length = 64) (.sql "witness_checkpoints_witness_signature_check")
  require (∀ other ∈ db.checkpoints, other.checkpointId ≠ row.checkpointId)
    (.sql "witness_checkpoints_pkey")
  require (∀ other ∈ db.checkpoints, ¬ (other.ns = row.ns ∧ other.treeSize = row.treeSize))
    (.sql "witness_checkpoints_namespace_tree_size_key")
  modify fun db => { db with checkpoints := db.checkpoints ++ [row] }

def insertDeliveryHead (row : DeliveryHeadRow) : WitnessTx Unit := do
  let db ← get
  require (1 ≤ row.position ∧ row.position ≤ uint63Max) (.sql "witness_delivery_heads_position_check")
  require (row.headHash.length = 32) (.sql "witness_delivery_heads_head_hash_check")
  require (∀ other ∈ db.deliveryHeads,
      ¬ (other.conversationId = row.conversationId ∧ other.position = row.position))
    (.sql "witness_delivery_heads_pkey")
  modify fun db => { db with deliveryHeads := db.deliveryHeads ++ [row] }

/-- The stored checkpoint over the existing leaves and one more. -/
def signedCheckpoint (ports : WitnessPorts) (ns : Namespace) (existing : List Bytes)
    (hash : Bytes) (witnessedAt checkpointId : String) : CheckpointRow :=
  let treeSize := existing.length + 1
  let rootHash := (MerkleLog.merkleRoot ports.sha256 (existing ++ [hash])).value
  let digest := computeWitnessCheckpointDigest ports.sha256 ns.text checkpointId treeSize.repr
    rootHash ports.witnessKeyId witnessedAt
  { checkpointId, ns, treeSize, rootHash, witnessKeyId := ports.witnessKeyId,
    witnessSignature := ports.sign digest, witnessedAt }

def checkpointFromRow (row : CheckpointRow) : WitnessCheckpoint where
  checkpointId := row.checkpointId
  ns := row.ns
  treeSize := row.treeSize.repr
  rootHash := Base64Url.encode row.rootHash
  witnessKeyId := row.witnessKeyId
  witnessSignature := Base64Url.encode row.witnessSignature
  witnessedAt := row.witnessedAt

def appendAndCheckpoint (ports : WitnessPorts) (ns : Namespace) (leafPayload : Bytes)
    (witnessedAt checkpointId : String) : WitnessTx (WitnessCheckpoint × Nat) := do
  let db ← get
  let existing := loadLeafHashes db ns none
  let treeIndex := existing.length
  let hash := (MerkleLog.leafHash ports.sha256 leafPayload).value
  insertLeaf ⟨ns, treeIndex, leafPayload, hash, witnessedAt⟩
  let row := signedCheckpoint ports ns existing hash witnessedAt checkpointId
  insertCheckpoint row
  pure (checkpointFromRow row, treeIndex)

/-- The leaf recorded for a delivery extension, from the texts of the submission. -/
def deliveryLeafPayload (conversationId position : String) (previousHead head : Bytes)
    (signingKeyId : String) : Bytes :=
  lengthPrefixed [utf8 conversationId, utf8 position, previousHead, head, utf8 signingKeyId]

def deliveryHeadsAt (db : WitnessDb) (conversationId : String) (position : Nat) :
    List DeliveryHeadRow :=
  db.deliveryHeads.filter fun row =>
    decide (row.conversationId = conversationId ∧ row.position = position)

/-- The head that a submission at `position` must name as its predecessor. -/
def expectedPrevious (db : WitnessDb) (conversationId : String) (position : Nat) : Option Bytes :=
  if position = 1 then some (List.replicate 32 0)
  else
    (onlyRow (deliveryHeadsAt db conversationId (position - 1))).map DeliveryHeadRow.headHash

/-- The part of `extendDelivery` after the signature has been verified. -/
def extendVerifiedDelivery (ports : WitnessPorts) (now checkpointId : String)
    (input : DeliverySubmission) : WitnessTx DeliveryExtensionResult := do
  let db ← get
  let position := Nat.ofDigitChars 10 input.position.toList 0
  let headHash := Base64Url.decode input.headHash
  let previousHeadHash := Base64Url.decode input.previousHeadHash
  match onlyRow (deliveryHeadsAt db input.conversationId position) with
  | some row =>
    let witnessedHead := Base64Url.encode row.headHash
    if witnessedHead = input.headHash then pure (.rejected .alreadyWitnessed)
    else pure (.equivocation input.position witnessedHead input.headHash)
  | none =>
    if expectedPrevious db input.conversationId position ≠ some previousHeadHash then
      pure (.rejected .notAnExtension)
    else do
      let leafPayload := deliveryLeafPayload input.conversationId input.position
        previousHeadHash headHash input.signingKeyId
      let (receipt, treeIndex) ← appendAndCheckpoint ports .delivery leafPayload now checkpointId
      insertDeliveryHead ⟨input.conversationId, position, headHash, treeIndex⟩
      pure (.witnessed receipt)

def DeliverySubmission.checkpointInput (input : DeliverySubmission) :
    DeliveryLogCheckpointInput where
  conversationId := input.conversationId
  position := input.position
  previousHeadHash := input.previousHeadHash
  headHash := input.headHash
  signingKeyId := input.signingKeyId

def submitterKeysAt (db : WitnessDb) (keyId : String) (receivedAt : Int) : List SubmitterKeyRow :=
  db.submitterKeys.filter fun row =>
    decide (row.keyId = keyId ∧ row.validFrom ≤ receivedAt ∧ receivedAt < row.validUntil)

def castOr (cast : Option Int) : Except Failure Int :=
  match cast with
  | some instant => .ok instant
  | none => .error (.sql "invalid input syntax for type timestamp with time zone")

def extendDelivery (ports : WitnessPorts) (now checkpointId : String)
    (input : DeliverySubmission) : WitnessTx DeliveryExtensionResult := do
  let db ← get
  let receivedAt ← lift (castOr (ports.castTimestamptz input.checkpointReceivedAt))
  match onlyRow (submitterKeysAt db input.signingKeyId receivedAt) with
  | some key => do
    let digest ← lift (computeDeliveryLogCheckpointDigest ports.sha256 input.checkpointInput)
    if ports.verifyEd25519 key.publicKey digest (Base64Url.decode input.signature) then
      extendVerifiedDelivery ports now checkpointId input
    else pure (.rejected .submitterSignatureInvalid)
  | none => pure (.rejected .submitterKeyUnknown)

/-- The namespaces that `extendChain` serves. -/
inductive ChainNamespace where
  | policy
  | directory

def ChainNamespace.toNamespace : ChainNamespace → Namespace
  | .policy => .policy
  | .directory => .directory

def chainLeafPayload (input : ChainSubmission) : Bytes :=
  lengthPrefixed [utf8 input.checkpointId, utf8 input.treeSize, Base64Url.decode input.rootHash,
    utf8 (input.previousCheckpointId.getD ""), utf8 input.signerKeyId]

def castUuidOr (cast : Option String) : Except Failure String :=
  match cast with
  | some stored => .ok stored
  | none => .error (.sql "invalid input syntax for type uuid")

def extendChain (ports : WitnessPorts) (now checkpointId : String) (ns : ChainNamespace)
    (input : ChainSubmission) : WitnessTx ChainExtensionResult := do
  let db ← get
  let head := db.chainHeads ns.toNamespace
  if head.lastUpstreamCheckpointId ≠ input.previousCheckpointId then
    pure (.equivocation head.lastUpstreamCheckpointId input.previousCheckpointId)
  else do
    let (receipt, _) ← appendAndCheckpoint ports ns.toNamespace (chainLeafPayload input) now
      checkpointId
    let upstream ← lift (castUuidOr (ports.castUuid input.checkpointId))
    modify fun db =>
      { db with chainHeads := Function.update db.chainHeads ns.toNamespace ⟨some upstream, now⟩ }
    pure (.witnessed receipt)

end JbChat.Witness.WitnessCore
