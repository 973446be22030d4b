/- source: src/production/witness/submitter.ts, storage/migrations/0001_spec_baseline.sql,
     0004_envelope_and_witness_integrity.sql
   digest: The pass that submits delivery log heads to the witness and stores its receipts. -/

import JbChat.Witness.PolicyWitnessSync
import JbChat.Foundation.GapFree
import Mathlib.Data.String.Basic

/-!
The pass reads its batch once and then works row by row, each row against the witness
database first and the delivery database second. The port and the receipt insert may fail
at any row, and then the pass throws with everything before it kept. An append during a
pass adds a row that the pass has not read, so it is the same as an append after it.
-/

set_option autoImplicit false

namespace JbChat.Witness.Submitter

open Foundation Foundation.GapFree Foundation.HashTrace
open Foundation.Transaction Delivery.ValueObjects Delivery.Hashes WitnessCore PolicyWitnessSync

def maxBatch : Nat := 200

/-- The columns of a row of `envelopes` that the pass reads. -/
structure EnvelopeRow where
  conversationId : String
  position : Nat
  previousHeadHash : Bytes
  headHash : Bytes
  logSigningKeyId : String
  logHeadSignature : Bytes
  receivedAt : String
deriving DecidableEq

/-- A row of `log_witness_receipts`. -/
structure ReceiptRow where
  conversationId : String
  position : Nat
  headHash : Bytes
  witnessCheckpointId : String
  witnessTreeSize : Nat
  witnessRootHash : Bytes
  witnessKeyId : String
  witnessSignature : Bytes
  witnessedAt : String

structure DeliveryDb where
  envelopes : List EnvelopeRow
  receipts : List ReceiptRow

/-- The delivery database and the witness database. -/
structure JointDb where
  delivery : DeliveryDb
  witness : WitnessDb

def JointDb.initial (now : String) (submitterKeys : List SubmitterKeyRow) : JointDb :=
  ⟨⟨[], []⟩, WitnessDb.migrated now submitterKeys⟩

def Unreceipted (witnessKeyId : String) (db : DeliveryDb) (row : EnvelopeRow) : Prop :=
  ∀ receipt ∈ db.receipts, ¬ (receipt.conversationId = row.conversationId ∧
    receipt.position = row.position ∧ receipt.witnessKeyId = witnessKeyId)

instance (witnessKeyId : String) (db : DeliveryDb) (row : EnvelopeRow) :
    Decidable (Unreceipted witnessKeyId db row) :=
  inferInstanceAs (Decidable (∀ _ ∈ _, _))

/-- `ORDER BY e.conversation_id, e.position`. -/
def InOrder (a b : EnvelopeRow) : Prop :=
  a.conversationId < b.conversationId ∨
    a.conversationId = b.conversationId ∧ a.position ≤ b.position

instance (a b : EnvelopeRow) : Decidable (InOrder a b) :=
  inferInstanceAs (Decidable (_ ∨ _))

/-- All rows without a receipt, in order. -/
def pendingRows (witnessKeyId : String) (db : DeliveryDb) : List EnvelopeRow :=
  (db.envelopes.filter fun row => decide (Unreceipted witnessKeyId db row)).insertionSort InOrder

/-- The query of the pass. -/
def batchRows (witnessKeyId : String) (db : DeliveryDb) : List EnvelopeRow :=
  (pendingRows witnessKeyId db).take maxBatch

/-- What is submitted for a row. The hashes leave the database in base64 and are sent in
base64url. -/
def EnvelopeRow.submission (row : EnvelopeRow) : DeliverySubmission where
  conversationId := row.conversationId
  position := row.position.repr
  previousHeadHash := Base64Url.encode row.previousHeadHash
  headHash := Base64Url.encode row.headHash
  signingKeyId := row.logSigningKeyId
  signature := Base64Url.encode row.logHeadSignature
  checkpointReceivedAt := row.receivedAt

/-- The receipt stored for a row, from the texts of the submission and the answer. -/
def receiptRow (row : EnvelopeRow) (receipt : WitnessCheckpoint) : ReceiptRow where
  conversationId := row.conversationId
  position := Nat.ofDigitChars 10 row.submission.position.toList 0
  headHash := Base64Url.decode row.submission.headHash
  witnessCheckpointId := receipt.checkpointId
  witnessTreeSize := Nat.ofDigitChars 10 receipt.treeSize.toList 0
  witnessRootHash := Base64Url.decode receipt.rootHash
  witnessKeyId := receipt.witnessKeyId
  witnessSignature := Base64Url.decode receipt.witnessSignature
  witnessedAt := receipt.witnessedAt

/-- `INSERT … ON CONFLICT DO NOTHING`: the checks come before the conflict, the foreign
keys after it. -/
def insertReceipt (row : ReceiptRow) : Tx DeliveryDb Failure Unit := do
  let db ← get
  require (1 ≤ row.position ∧ row.position ≤ uint63Max)
    (.sql "log_witness_receipts_position_check")
  require (row.headHash.length = 32) (.sql "log_witness_receipts_head_hash_check")
  require (row.witnessTreeSize ≤ uint63Max) (.sql "log_witness_receipts_witness_tree_size_check")
  require (row.witnessRootHash.length = 32)
    (.sql "log_witness_receipts_witness_root_hash_check")
  require (row.witnessSignature.length = 64)
    (.sql "log_witness_receipts_ed25519_signature_check")
  if ∃ other ∈ db.receipts, other.conversationId = row.conversationId ∧
      other.position = row.position ∧ other.witnessKeyId = row.witnessKeyId then
    pure ()
  else do
    require (∃ envelope ∈ db.envelopes, envelope.conversationId = row.conversationId ∧
        envelope.position = row.position ∧ envelope.headHash = row.headHash)
      (.sql "log_witness_receipts_head_identity_fk")
    modify fun db => { db with receipts := db.receipts ++ [row] }

/-- What one submission meets: the witness clock, the random checkpoint ID and a fault. -/
structure Attempt where
  now : String
  checkpointId : String
  fault : Fault

inductive RowOutcome where
  | thrown
  | receipted
  | refused (outcome : String)

/-- One row: the witness call, and on a receipt the insert. -/
def submitRow (ports : WitnessPorts) (attempt : Attempt) (row : EnvelopeRow) (db : JointDb) :
    RowOutcome × JointDb :=
  if attempt.fault = .requestLost then (.thrown, db)
  else
    let answer := sqlBegin (extendDelivery ports attempt.now attempt.checkpointId row.submission)
      db.witness
    let answered : JointDb := { db with witness := answer.2 }
    if attempt.fault = .responseLost then (.thrown, answered)
    else
      match answer.1 with
      | .error _ => (.thrown, answered)
      | .ok (.equivocation _ witnessedHeadHash submittedHeadHash) =>
        (.refused ("EQUIVOCATION witnessed=" ++ witnessedHeadHash ++ " submitted=" ++
          submittedHeadHash), answered)
      | .ok (.rejected reasonCode) => (.refused ("rejected:" ++ reasonCode.text), answered)
      | .ok (.witnessed receipt) =>
        if attempt.fault = .receiptLost then (.thrown, answered)
        else
          let stored := sqlBegin (insertReceipt (receiptRow row receipt)) db.delivery
          match stored.1 with
          | .error _ => (.thrown, answered)
          | .ok _ => (.receipted, { answered with delivery := stored.2 })

structure BlockedRow where
  conversationId : String
  position : String
  outcome : String

structure SubmissionPassReport where
  considered : Nat
  witnessed : Nat
  blocked : List BlockedRow

/-- The local variables of the loop. -/
structure PassState where
  witnessed : Nat
  blocked : List BlockedRow
  blockedConversations : List String

/-- The loop of the pass. Without a further attempt the process has died. -/
def submitRows (ports : WitnessPorts) : List EnvelopeRow → List Attempt → PassState → JointDb →
    Option PassState × JointDb
  | [], _, pass, db => (some pass, db)
  | row :: rows, attempts, pass, db =>
    if row.conversationId ∈ pass.blockedConversations then submitRows ports rows attempts pass db
    else
      match attempts with
      | [] => (none, db)
      | attempt :: attempts =>
        match submitRow ports attempt row db with
        | (.thrown, db) => (none, db)
        | (.receipted, db) =>
          submitRows ports rows attempts { pass with witnessed := pass.witnessed + 1 } db
        | (.refused outcome, db) =>
          submitRows ports rows attempts
            { pass with
              blocked := pass.blocked ++ [⟨row.conversationId, row.position.repr, outcome⟩]
              blockedConversations := row.conversationId :: pass.blockedConversations } db

/-- One pass. It returns nothing when it throws. -/
def runDeliverySubmissionPass (ports : WitnessPorts) (witnessKeyId : String)
    (attempts : List Attempt) (db : JointDb) : Option SubmissionPassReport × JointDb :=
  let rows := batchRows witnessKeyId db.delivery
  let done := submitRows ports rows attempts ⟨0, [], []⟩ db
  (done.1.map fun pass => ⟨rows.length, pass.witnessed, pass.blocked⟩, done.2)

def envelopesOf (db : DeliveryDb) (conversationId : String) : List EnvelopeRow :=
  keyed EnvelopeRow.conversationId conversationId db.envelopes

/-- The hash that a row must name as its predecessor. -/
def FollowsHead (db : DeliveryDb) (row : EnvelopeRow) : Prop :=
  (row.position = 1 ∧ row.previousHeadHash = List.replicate 32 0) ∨
    ∃ before ∈ db.envelopes, before.conversationId = row.conversationId ∧
      before.position + 1 = row.position ∧ before.headHash = row.previousHeadHash

/-- A gap-free append: the row goes to the next position of its conversation, names the
head before it and carries values whose checkpoint digest exists. -/
structure HonestAppend (ports : WitnessPorts) (db : DeliveryDb) (row : EnvelopeRow) : Prop where
  next : row.position = (envelopesOf db row.conversationId).length + 1
  follows : FollowsHead db row
  values : CheckpointValues row.submission.checkpointInput row.position row.previousHeadHash
    row.headHash
  instant : (ports.castTimestamptz row.receivedAt).isSome = true

/-- A step of the joint system: an honest append, or a pass with any faults. -/
inductive SubmissionStep (ports : WitnessPorts) : JointDb → JointDb → Prop
  | append {db : JointDb} (row : EnvelopeRow) (honest : HonestAppend ports db.delivery row) :
      SubmissionStep ports db
        { db with delivery := { db.delivery with envelopes := db.delivery.envelopes ++ [row] } }
  | pass {db : JointDb} (attempts : List Attempt) :
      SubmissionStep ports db
        (runDeliverySubmissionPass ports ports.witnessKeyId attempts db).2

/-- The joint states of all runs from migrated databases. -/
def ReachableDb (ports : WitnessPorts) (db : JointDb) : Prop :=
  ∃ now submitterKeys, Relation.ReflTransGen (SubmissionStep ports)
    (JointDb.initial now submitterKeys) db

/-- A pass that meets no fault and returns. -/
def FailureFreePass (ports : WitnessPorts) (db after : JointDb) : Prop :=
  ∃ attempts report, (∀ attempt ∈ attempts, attempt.fault = .none) ∧
    runDeliverySubmissionPass ports ports.witnessKeyId attempts db = (some report, after)

/-- Some number of failure-free passes in a row. -/
def FailureFreePasses (ports : WitnessPorts) : Nat → JointDb → JointDb → Prop
  | 0, db, after => after = db
  | n + 1, db, after =>
    ∃ middle, FailureFreePass ports db middle ∧ FailureFreePasses ports n middle after

def Receipted (ports : WitnessPorts) (db : JointDb) (conversationId : String) : Prop :=
  ∀ row ∈ db.delivery.envelopes, row.conversationId = conversationId →
    ¬ Unreceipted ports.witnessKeyId db.delivery row

/-- Finitely many failure-free passes can be run, and however they go they store a receipt
for every row of the conversation. -/
def Recovers (ports : WitnessPorts) (db : JointDb) (conversationId : String) : Prop :=
  ∃ n, (∃ after, FailureFreePasses ports n db after) ∧
    ∀ after, FailureFreePasses ports n db after → Receipted ports after conversationId

end JbChat.Witness.Submitter
