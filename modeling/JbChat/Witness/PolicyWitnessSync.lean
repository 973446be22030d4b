/- source: src/production/witness/policyWitnessSync.ts, src/production/storage/appendAuthority.ts
   digest: The policy log, the sync pass that submits it, and the faults a pass can meet. -/

import JbChat.Witness.WitnessLog
import Mathlib.Data.List.MinMax

/-!
The policy log and the witness keep their rows in different databases. A pass submits
pending checkpoints one by one; after each receipt it marks the checkpoint in a local
transaction. A fault ends the pass where it happens: before the witness sees the
submission, after the witness has answered it, or in the local transaction (whose
custody refresh may throw). Other transactions may commit between two submissions.
-/

set_option autoImplicit false

namespace JbChat.Witness.PolicyWitnessSync

open Foundation Foundation.HashTrace
open Foundation.Transaction Delivery.ValueObjects WitnessCore WitnessLog

def policyLogSignerKeyId : String := "jbm-policy-log-2026q3"

def policyLogUnwitnessedKeyId : String := "jbm-policy-log-unwitnessed"

def witnessPendingKeyId : String := "jbm-witness-pending"

/-- A row of `policy_log_checkpoints`. -/
structure PolicyCheckpointRow where
  checkpointId : String
  treeSize : Nat
  rootHash : Bytes
  previousCheckpointId : Option String
  signerKeyId : String
  witnessKeyId : String
  witnessSignature : Bytes

/-- A row of `policy_log_leaves`. -/
structure PolicyLeafRow where
  leafIndex : Nat
  policyHeadId : String
  headHash : Bytes

inductive WitnessState where
  | missing
  | verified
deriving DecidableEq

/-- The witness columns of a row of `delivery_policy_head_anchors`. -/
structure PolicyHeadAnchorRow where
  conversationId : String
  policyHeadId : String
  witnessState : WitnessState
  witnessCheckpointId : Option String
  witnessedPolicyHeadHash : Option Bytes
  witnessEvidenceDigest : Bytes

structure PolicyDb where
  checkpoints : List PolicyCheckpointRow
  leaves : List PolicyLeafRow
  anchors : List PolicyHeadAnchorRow

def PolicyDb.empty : PolicyDb := ⟨[], [], []⟩

abbrev PolicyTx := Tx PolicyDb Failure

/-- A policy head issued for a conversation, with the evidence placeholder of its anchor. -/
structure IssuedHead where
  conversationId : String
  policyHeadId : String
  headHash : Bytes
  evidence : Bytes
  checkpointId : String

/-- The newest checkpoint of the policy log, `ORDER BY tree_size DESC LIMIT 1`. -/
def previousCheckpoint (db : PolicyDb) : Option PolicyCheckpointRow :=
  (db.checkpoints.filter fun row =>
    decide (0 < row.treeSize ∧ row.signerKeyId = policyLogSignerKeyId)).argmax
      PolicyCheckpointRow.treeSize

def policyRoot (H : HashFunction) (leaves : List PolicyLeafRow) : Bytes :=
  (MerkleLog.merkleRoot H ((leaves.insertionSort fun a b => a.leafIndex ≤ b.leafIndex).map
    fun row => (MerkleLog.leafHash H row.headHash).value)).value

def insertPolicyCheckpoint (row : PolicyCheckpointRow) : PolicyTx Unit := do
  let db ← get
  require (row.treeSize ≤ uint63Max) (.sql "policy_log_checkpoints_tree_size_check")
  require (row.rootHash.length = 32) (.sql "policy_log_checkpoints_root_hash_check")
  require (∀ other ∈ db.checkpoints, other.checkpointId ≠ row.checkpointId)
    (.sql "policy_log_checkpoints_pkey")
  modify fun db => { db with checkpoints := db.checkpoints ++ [row] }

/-- The pending checkpoint over all leaves, after the newest one. -/
def issuedCheckpoint (ports : WitnessPorts) (db : PolicyDb) (treeSize : Nat)
    (checkpointId : String) : PolicyCheckpointRow where
  checkpointId := checkpointId
  treeSize := treeSize
  rootHash := policyRoot ports.sha256 db.leaves
  previousCheckpointId := (previousCheckpoint db).map PolicyCheckpointRow.checkpointId
  signerKeyId := policyLogSignerKeyId
  witnessKeyId := witnessPendingKeyId
  witnessSignature := [0]

/-- The part of `issueConversationPolicyHead` that extends the global policy log: the
anchor of the conversation points to the new head, the head becomes a leaf, and a pending
checkpoint commits to the whole prefix. -/
def issuePolicyHead (ports : WitnessPorts) (head : IssuedHead) : PolicyTx Unit := do
  modify fun db => { db with
    anchors := db.anchors.filter (fun row => decide (row.conversationId ≠ head.conversationId)) ++
      [⟨head.conversationId, head.policyHeadId, .missing, none, none, head.evidence⟩] }
  let db ← get
  let leafIndex := db.leaves.length
  require (head.headHash.length = 32) (.sql "policy_log_leaves_head_hash_check")
  require (∀ other ∈ db.leaves, other.leafIndex ≠ leafIndex) (.sql "policy_log_leaves_pkey")
  require (∀ other ∈ db.leaves, other.policyHeadId ≠ head.policyHeadId)
    (.sql "policy_log_leaves_policy_head_id_key")
  modify fun db => { db with
    leaves := db.leaves ++ [⟨leafIndex, head.policyHeadId, head.headHash⟩] }
  let db ← get
  let checkpointId ← lift (castUuidOr (ports.castUuid head.checkpointId))
  insertPolicyCheckpoint (issuedCheckpoint ports db (leafIndex + 1) checkpointId)

/-- The bootstrap checkpoint of `provisionProjectMessaging`, `ON CONFLICT DO NOTHING`. -/
def provisionCheckpoint (checkpointId : String) : PolicyTx Unit := do
  let db ← get
  if ∀ other ∈ db.checkpoints, other.checkpointId ≠ checkpointId then
    modify fun db => { db with checkpoints := db.checkpoints ++
      [⟨checkpointId, 0, List.replicate 32 0, none, policyLogUnwitnessedKeyId,
        witnessPendingKeyId, [0]⟩] }
  else pure ()

/-- Unwitnessed checkpoints in tree-size order, at most a hundred. -/
def pendingCheckpoints (db : PolicyDb) : List PolicyCheckpointRow :=
  ((db.checkpoints.filter fun row => decide (row.signerKeyId = policyLogSignerKeyId ∧
      row.witnessKeyId = witnessPendingKeyId)).insertionSort
    fun a b => a.treeSize ≤ b.treeSize).take 100

def chainSubmission (row : PolicyCheckpointRow) : ChainSubmission where
  checkpointId := row.checkpointId
  treeSize := row.treeSize.repr
  rootHash := Base64Url.encode row.rootHash
  previousCheckpointId := row.previousCheckpointId
  signerKeyId := row.signerKeyId

def policyWitnessEvidenceDomain : String := "jb-msg-policy-witness-evidence/v1"

def coveredHeads (db : PolicyDb) (treeSize : Nat) : List (PolicyLeafRow × PolicyHeadAnchorRow) :=
  db.leaves.flatMap fun leaf => (db.anchors.filter fun anchor =>
    decide (anchor.policyHeadId = leaf.policyHeadId ∧ leaf.leafIndex < treeSize ∧
      anchor.witnessState = .missing)).map fun anchor => (leaf, anchor)

def verifyAnchor (H : HashFunction) (receipt : WitnessCheckpoint) (leaf : PolicyLeafRow)
    (anchor : PolicyHeadAnchorRow) : PolicyHeadAnchorRow :=
  { anchor with
    witnessState := .verified
    witnessCheckpointId := some receipt.checkpointId
    witnessedPolicyHeadHash := some leaf.headHash
    witnessEvidenceDigest := H.digest (utf8 policyWitnessEvidenceDomain ++
      (utf8 receipt.checkpointId ++ leaf.headHash)) }

/-- The local transaction after a receipt: mark the checkpoint, verify what it covers.
Returns the number of heads verified. -/
def recordReceipt (H : HashFunction) (row : PolicyCheckpointRow) (receipt : WitnessCheckpoint)
    (db : PolicyDb) : Nat × PolicyDb :=
  let covered := coveredHeads db row.treeSize
  (covered.length,
    { db with
      checkpoints := db.checkpoints.map fun other =>
        if other.checkpointId = row.checkpointId then
          { other with witnessKeyId := receipt.witnessKeyId
                       witnessSignature := Base64Url.decode receipt.witnessSignature }
        else other
      anchors := covered.foldl (fun anchors head => anchors.map fun anchor =>
        if anchor.policyHeadId = head.1.policyHeadId then verifyAnchor H receipt head.1 anchor
        else anchor) db.anchors })

/-- Where a submission can go wrong. -/
inductive Fault where
  | none
  | requestLost
  | responseLost
  | receiptLost
deriving DecidableEq

/-- Transactions of others: heads issued, projects provisioned, and witness calls that are
not the submission of a policy checkpoint. -/
inductive Meanwhile where
  | issue (head : IssuedHead)
  | provision (checkpointId : String)
  | deliveryCall (now checkpointId : String) (input : DeliverySubmission)
  | directoryCall (now checkpointId : String) (input : ChainSubmission)

/-- One iteration of the pass: what others committed before it, what the witness call
meets, and the fault if there is one. -/
structure Attempt where
  meanwhile : List Meanwhile
  now : String
  checkpointId : String
  fault : Fault

/-- Both databases, and every answer the witness gave to a policy submission. -/
structure SyncWorld where
  policy : PolicyDb
  witness : WitnessDb
  answers : List (Except Failure ChainExtensionResult)

def SyncWorld.initial (now : String) (submitterKeys : List SubmitterKeyRow) : SyncWorld :=
  ⟨PolicyDb.empty, WitnessDb.migrated now submitterKeys, []⟩

def meanwhileStep (ports : WitnessPorts) (world : SyncWorld) : Meanwhile → SyncWorld
  | .issue head => { world with policy := (sqlBegin (issuePolicyHead ports head) world.policy).2 }
  | .provision checkpointId =>
    { world with policy := (sqlBegin (provisionCheckpoint checkpointId) world.policy).2 }
  | .deliveryCall now checkpointId input =>
    { world with witness := (answerCall ports world.witness
        (.delivery now checkpointId input)).2 }
  | .directoryCall now checkpointId input =>
    { world with witness := (answerCall ports world.witness
        (.chain now checkpointId .directory input)).2 }

/-- The port: one `extendChain` call in its transaction at the witness. -/
def submitChain (ports : WitnessPorts) (world : SyncWorld) (now checkpointId : String)
    (row : PolicyCheckpointRow) : Except Failure ChainExtensionResult × SyncWorld :=
  let outcome := sqlBegin (extendChain ports now checkpointId .policy (chainSubmission row))
    world.witness
  (outcome.1, { world with witness := outcome.2, answers := world.answers ++ [outcome.1] })

inductive PassOutcome where
  | thrown
  | returned (witnessed headsVerified : Nat) (blocked : Option String)

/-- A template literal renders an absent value as `null`. -/
def nullable (value : Option String) : String := value.getD "null"

/-- The loop of the pass. Without a further attempt the process has died. -/
def syncRows (ports : WitnessPorts) : List PolicyCheckpointRow → List Attempt → SyncWorld → Nat →
    Nat → PassOutcome × SyncWorld
  | [], _, world, witnessed, headsVerified => (.returned witnessed headsVerified none, world)
  | _ :: _, [], world, _, _ => (.thrown, world)
  | row :: rows, attempt :: attempts, world, witnessed, headsVerified =>
    let world := attempt.meanwhile.foldl (meanwhileStep ports) world
    if attempt.fault = .requestLost then (.thrown, world)
    else
      let submitted := submitChain ports world attempt.now attempt.checkpointId row
      if attempt.fault = .responseLost then (.thrown, submitted.2)
      else
        match submitted.1 with
        | .ok (.witnessed receipt) =>
          if attempt.fault = .receiptLost then (.thrown, submitted.2)
          else
            let recorded := recordReceipt ports.sha256 row receipt submitted.2.policy
            syncRows ports rows attempts { submitted.2 with policy := recorded.2 }
              (witnessed + 1) (headsVerified + recorded.1)
        | .ok (.equivocation expected previous) =>
          (.returned witnessed headsVerified (some ("SEV-0 EQUIVOCATION expectedPrev=" ++
            nullable expected ++ " submittedPrev=" ++ nullable previous)), submitted.2)
        | .ok (.rejected reasonCode) =>
          (.returned witnessed headsVerified (some ("rejected:" ++ reasonCode)), submitted.2)
        | .error _ =>
          (.returned witnessed headsVerified (some "rejected:undefined"), submitted.2)

/-- One pass: renewed heads first, then every pending checkpoint in order. -/
def runPolicyWitnessSync (ports : WitnessPorts) (renewals : List IssuedHead)
    (attempts : List Attempt) (world : SyncWorld) : PassOutcome × SyncWorld :=
  let world := (renewals.map Meanwhile.issue).foldl (meanwhileStep ports) world
  syncRows ports (pendingCheckpoints world.policy) attempts world 0 0

/-- A run: transactions of others and passes, one after the other. -/
inductive SyncStep where
  | meanwhile (other : Meanwhile)
  | pass (renewals : List IssuedHead) (attempts : List Attempt)

def syncStep (ports : WitnessPorts) (world : SyncWorld) : SyncStep → SyncWorld
  | .meanwhile other => meanwhileStep ports world other
  | .pass renewals attempts => (runPolicyWitnessSync ports renewals attempts world).2

def runSync (ports : WitnessPorts) (world : SyncWorld) (steps : List SyncStep) : SyncWorld :=
  steps.foldl (syncStep ports) world

/-- Some call of a policy submission returned an equivocation. -/
def Accused (world : SyncWorld) : Prop :=
  ∃ expected previous, Except.ok (.equivocation expected previous) ∈ world.answers

end JbChat.Witness.PolicyWitnessSync
