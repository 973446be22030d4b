/- source: src/production/witness/submitter.ts
   digest: The invariant of both databases, and what the submission of one row can do. -/

import JbChat.Witness.Submitter
import JbChat.Witness.MerkleFold

set_option autoImplicit false

namespace JbChat.Witness.SubmitterRow

open Foundation Foundation.GapFree Foundation.HashTrace Foundation.LengthPrefix
open Foundation.Transaction Delivery.ValueObjects Delivery.Hashes WitnessCore WitnessCalls
open WitnessLog Submitter

/-- The number of witnessed positions of a conversation. -/
def headCount (db : JointDb) (conversationId : String) : Nat :=
  (headsOf db.witness conversationId).length

/-- The number of stored receipts of a conversation. -/
def receiptCount (db : JointDb) (conversationId : String) : Nat :=
  (keyed ReceiptRow.conversationId conversationId db.delivery.receipts).length

def Signed (ports : WitnessPorts) (db : JointDb) (row : EnvelopeRow) : Prop :=
  SignedBySubmitter ports db.witness row.submission

/-- Both logs are gap-free, the witness holds heads of stored rows only, and the receipts
of a conversation lag behind its heads by one at most. -/
structure JointInvariant (ports : WitnessPorts) (db : JointDb) : Prop where
  log : LogInvariant ports.sha256 db.witness
  leaves : (leavesOf db.witness .delivery).length = db.witness.deliveryHeads.length
  envelopes : NoGaps EnvelopeRow.conversationId EnvelopeRow.position db.delivery.envelopes
  receipts : NoGaps ReceiptRow.conversationId ReceiptRow.position db.delivery.receipts
  keys : ∀ receipt ∈ db.delivery.receipts, receipt.witnessKeyId = ports.witnessKeyId
  values : ∀ row ∈ db.delivery.envelopes, CheckpointValues row.submission.checkpointInput
    row.position row.previousHeadHash row.headHash
  instants : ∀ row ∈ db.delivery.envelopes, (ports.castTimestamptz row.receivedAt).isSome = true
  follows : ∀ row ∈ db.delivery.envelopes, FollowsHead db.delivery row
  heads : ∀ head ∈ db.witness.deliveryHeads, ∃ row ∈ db.delivery.envelopes,
    row.conversationId = head.conversationId ∧ row.position = head.position ∧
      row.headHash = head.headHash
  lag : ∀ conversationId, receiptCount db conversationId ≤ headCount db conversationId ∧
    headCount db conversationId ≤ receiptCount db conversationId + 1

variable {ports : WitnessPorts} {db : JointDb} {row : EnvelopeRow} {attempt : Attempt}

theorem initial_joint (now : String) (submitterKeys : List SubmitterKeyRow) :
    JointInvariant ports (JointDb.initial now submitterKeys) where
  log := migrated_log now submitterKeys
  leaves := rfl
  envelopes := NoGaps.nil
  receipts := NoGaps.nil
  keys _ h := by cases h
  values _ h := by cases h
  instants _ h := by cases h
  follows _ h := by cases h
  heads _ h := by cases h
  lag _ := ⟨Nat.le_refl 0, Nat.zero_le _⟩

theorem JointInvariant.headGaps (inv : JointInvariant ports db) :
    NoGaps DeliveryHeadRow.conversationId DeliveryHeadRow.position db.witness.deliveryHeads :=
  inv.log.positions

theorem JointInvariant.unreceipted_iff (inv : JointInvariant ports db)
    (hrow : row ∈ db.delivery.envelopes) :
    Unreceipted ports.witnessKeyId db.delivery row ↔
      receiptCount db row.conversationId < row.position := by
  have hpositive := (inv.envelopes.bounds hrow).1
  have hexists := inv.receipts.exists_iff row.conversationId row.position
  unfold Unreceipted
  constructor
  · intro hnone
    by_contra hstored
    obtain ⟨receipt, hreceipt, hconversation, hposition⟩ :=
      hexists.mpr ⟨hpositive, Nat.le_of_not_lt hstored⟩
    exact hnone receipt hreceipt ⟨hconversation, hposition, inv.keys receipt hreceipt⟩
  · rintro hlt receipt hreceipt ⟨hconversation, hposition, -⟩
    have hrange := hexists.mp ⟨receipt, hreceipt, hconversation, hposition⟩
    unfold receiptCount at hlt
    omega

theorem JointInvariant.heads_fresh (inv : JointInvariant ports db) (conversationId : String)
    {position : Nat} (hnext : headCount db conversationId < position) :
    deliveryHeadsAt db.witness conversationId position = [] := by
  rw [deliveryHeadsAt_eq_nil]
  rintro head hhead ⟨rfl, rfl⟩
  have hbound := (inv.headGaps.bounds hhead).2
  exact absurd hnext (Nat.not_lt.mpr hbound)

theorem JointInvariant.heads_stored (inv : JointInvariant ports db) (conversationId : String)
    {position : Nat} (hpositive : 1 ≤ position) (hbound : position ≤ headCount db conversationId) :
    ∃ head ∈ db.witness.deliveryHeads, head.conversationId = conversationId ∧
      head.position = position ∧ deliveryHeadsAt db.witness conversationId position = [head] := by
  obtain ⟨head, hhead, rfl, rfl⟩ :=
    (inv.headGaps.exists_iff conversationId position).mpr ⟨hpositive, hbound⟩
  exact ⟨head, hhead, rfl, rfl, inv.headGaps.filter_eq hhead⟩

theorem JointInvariant.expectedPrevious_next (inv : JointInvariant ports db)
    (hrow : row ∈ db.delivery.envelopes)
    (hnext : row.position = headCount db row.conversationId + 1) :
    expectedPrevious db.witness row.conversationId row.position = some row.previousHeadHash := by
  unfold expectedPrevious
  rcases inv.follows row hrow with ⟨hone, hzero⟩ | ⟨before, hbefore, hconversation, hposition, hhash⟩
  · rw [if_pos hone, hzero]
  · have hpositive := (inv.envelopes.bounds hbefore).1
    have hcount : row.position - 1 = before.position := by omega
    obtain ⟨head, hhead, hheadConversation, hheadPosition, hquery⟩ :=
      inv.heads_stored row.conversationId hpositive (by omega)
    obtain ⟨other, hother, hotherConversation, hotherPosition, hotherHash⟩ := inv.heads head hhead
    obtain rfl : other = before := by
      apply inv.envelopes.unique hbefore hother
      · rw [hotherConversation, hheadConversation, hconversation]
      · rw [hotherPosition, hheadPosition]
    rw [if_neg (by omega), hcount, hquery, onlyRow, Option.map_some, ← hotherHash, hhash]

private theorem lengthPrefixed_length (fields : List Bytes) :
    (lengthPrefixed fields).length = (fields.map fun bytes => 4 + bytes.length).sum := by
  unfold lengthPrefixed
  rw [List.length_flatMap]
  congr 1
  apply List.map_congr_left
  intro bytes hbytes
  rw [lengthPrefix, List.length_append]
  rfl

private theorem deliveryPayload_bound {input : DeliverySubmission} {position : Nat}
    {previousHead head : Bytes}
    (values : CheckpointValues input.checkpointInput position previousHead head) :
    (deliveryPayload input position previousHead head).length ≤ 4096 := by
  have hconversation := utf8_length_le input.conversationId
  have hposition := utf8_length_le position.repr
  have hkey := utf8_length_le input.signingKeyId
  have hconversationLength : input.conversationId.toList.length = 36 :=
    isUuidV4_length values.conversation
  have hpositionLength := repr_length_of_uint63 values.bounded
  have hkeyLength : input.signingKeyId.toList.length ≤ 64 :=
    isSigningKeyId_length values.signingKey
  have hprevious := values.previousSize
  have hhead := values.headSize
  unfold deliveryPayload deliveryLeafPayload
  rw [lengthPrefixed_length]
  simp only [List.map_cons, List.map_nil, List.sum_cons, List.sum_nil]
  omega

structure SaneSigner (ports : WitnessPorts) : Prop where
  keySize : 1 ≤ (utf8 ports.witnessKeyId).length ∧ (utf8 ports.witnessKeyId).length ≤ 64
  signatureSize : ∀ digest, (ports.sign digest).length = 64

theorem appendAllowed_of_room {witness : WitnessDb} {payload : Bytes} {now checkpointId : String}
    (log : LogInvariant ports.sha256 witness) (sane : SaneSigner ports)
    (room : (leavesOf witness .delivery).length + 1 ≤ uint63Max)
    (payloadBound : payload.length ≤ 4096)
    (fresh : ∀ other ∈ witness.checkpoints, other.checkpointId ≠ checkpointId) :
    AppendAllowed ports witness .delivery payload now checkpointId where
  sizeBound := by
    rw [log.loadLeafHashes_length]
    exact room
  payloadBound := payloadBound
  leafFree := by
    rintro leaf hleaf ⟨hns, hindex⟩
    have hmem : leaf.treeIndex ∈ (leavesOf witness .delivery).map LeafRow.treeIndex :=
      List.mem_map_of_mem (List.mem_filter.mpr ⟨hleaf, decide_eq_true hns⟩)
    rw [log.indices, List.mem_range, hindex, log.loadLeafHashes_length] at hmem
    exact Nat.lt_irrefl _ hmem
  rootSize := by
    apply MerkleFold.merkleRoot_length
    intro hash hhash
    rcases List.mem_append.mp hhash with hold | hnew
    · rw [log.loadLeafHashes_eq] at hold
      obtain ⟨leaf, hleaf, rfl⟩ := List.mem_map.mp hold
      rw [log.hashes leaf (List.mem_filter.mp hleaf).1]
      exact ports.sha256.length_digest _
    · rw [List.mem_singleton.mp hnew]
      exact ports.sha256.length_digest _
  keySize := sane.keySize
  signatureSize := sane.signatureSize _
  idFree := fresh
  sizeFree := by
    rintro checkpoint hcheckpoint ⟨hns, hsize⟩
    obtain ⟨-, hbound, -⟩ := log.checkpoints checkpoint hcheckpoint
    rw [hns, hsize, log.loadLeafHashes_length] at hbound
    omega

theorem JointInvariant.room (inv : JointInvariant ports db) (hrow : row ∈ db.delivery.envelopes)
    (hnext : headCount db row.conversationId < row.position) :
    (leavesOf db.witness .delivery).length + 1 ≤ db.delivery.envelopes.length := by
  have hnew : (row.conversationId, row.position) ∉
      db.witness.deliveryHeads.map fun head => (head.conversationId, head.position) := by
    intro hmem
    obtain ⟨head, hhead, hpair⟩ := List.mem_map.mp hmem
    obtain ⟨hconversation, hposition⟩ := Prod.mk.inj hpair
    have hbound := (inv.headGaps.bounds hhead).2
    rw [hconversation, hposition] at hbound
    exact absurd hnext (Nat.not_lt.mpr hbound)
  have hsub : (row.conversationId, row.position) ::
      (db.witness.deliveryHeads.map fun head => (head.conversationId, head.position)) ⊆
        db.delivery.envelopes.map fun other => (other.conversationId, other.position) := by
    intro pair hpair
    rcases List.mem_cons.mp hpair with rfl | hold
    · exact List.mem_map_of_mem hrow
    · obtain ⟨head, hhead, rfl⟩ := List.mem_map.mp hold
      obtain ⟨other, hother, hconversation, hposition, -⟩ := inv.heads head hhead
      exact List.mem_map.mpr ⟨other, hother, by rw [hconversation, hposition]⟩
  have hlength := ((List.nodup_cons.mpr ⟨hnew, inv.headGaps.nodup_pairs⟩).subperm hsub).length_le
  rw [List.length_cons, List.length_map, List.length_map] at hlength
  rw [inv.leaves]
  exact hlength

/-- Both databases after the witness has accepted a row. -/
def witnessedDb (ports : WitnessPorts) (attempt : Attempt) (row : EnvelopeRow) (db : JointDb) :
    JointDb :=
  { db with
    witness := deliveryExtended ports db.witness attempt.now attempt.checkpointId row.submission
      row.position row.previousHeadHash row.headHash }

def rowReceipt (ports : WitnessPorts) (attempt : Attempt) (row : EnvelopeRow) (db : JointDb) :
    ReceiptRow :=
  receiptRow row (deliveryReceipt ports db.witness attempt.now attempt.checkpointId row.submission
    row.position row.previousHeadHash row.headHash)

/-- Both databases with a receipt more. -/
def storedDb (receipt : ReceiptRow) (db : JointDb) : JointDb :=
  { db with delivery := { db.delivery with receipts := db.delivery.receipts ++ [receipt] } }

/-- Both databases after the receipt of an accepted row is stored as well. -/
def receiptedDb (ports : WitnessPorts) (attempt : Attempt) (row : EnvelopeRow) (db : JointDb) :
    JointDb :=
  storedDb (rowReceipt ports attempt row db) (witnessedDb ports attempt row db)

@[simp] theorem headCount_witnessedDb (conversationId : String) :
    headCount (witnessedDb ports attempt row db) conversationId =
      headCount db conversationId + if row.conversationId = conversationId then 1 else 0 := by
  unfold headCount witnessedDb
  rw [headsOf_deliveryExtended, List.length_append]
  have hconversation : row.submission.conversationId = row.conversationId := rfl
  rw [hconversation]
  split_ifs
  · rfl
  · rfl

@[simp] theorem receiptCount_witnessedDb (conversationId : String) :
    receiptCount (witnessedDb ports attempt row db) conversationId =
      receiptCount db conversationId := rfl

@[simp] theorem headCount_storedDb (receipt : ReceiptRow) (conversationId : String) :
    headCount (storedDb receipt db) conversationId = headCount db conversationId := rfl

@[simp] theorem receiptCount_storedDb (receipt : ReceiptRow) (conversationId : String) :
    receiptCount (storedDb receipt db) conversationId =
      receiptCount db conversationId +
        if receipt.conversationId = conversationId then 1 else 0 := by
  unfold receiptCount storedDb
  rw [keyed_append_singleton, List.length_append]
  split_ifs
  · rfl
  · rfl

theorem JointInvariant.witnessed (inv : JointInvariant ports db)
    (hrow : row ∈ db.delivery.envelopes)
    (extension : Extends ports db.witness attempt.now attempt.checkpointId row.submission
      row.position row.previousHeadHash row.headHash)
    (current : headCount db row.conversationId ≤ receiptCount db row.conversationId) :
    JointInvariant ports (witnessedDb ports attempt row db) where
  log := inv.log.extendDelivery extension
  leaves := by
    have hleaves : leavesOf (witnessedDb ports attempt row db).witness .delivery =
        leavesOf db.witness .delivery ++ [_] := leavesOf_appended .delivery .delivery
          (deliveryPayload row.submission row.position row.previousHeadHash row.headHash)
          attempt.now attempt.checkpointId
    have hheads : (witnessedDb ports attempt row db).witness.deliveryHeads =
        db.witness.deliveryHeads ++ [_] := rfl
    rw [hleaves, hheads, List.length_append, List.length_append, inv.leaves]
    rfl
  envelopes := inv.envelopes
  receipts := inv.receipts
  keys := inv.keys
  values := inv.values
  instants := inv.instants
  follows := inv.follows
  heads := by
    intro head hhead
    rcases List.mem_append.mp hhead with hold | hnew
    · exact inv.heads head hold
    · rw [List.mem_singleton.mp hnew]
      exact ⟨row, hrow, rfl, rfl, rfl⟩
  lag := by
    intro conversationId
    obtain ⟨hlow, hhigh⟩ := inv.lag conversationId
    rw [headCount_witnessedDb, receiptCount_witnessedDb]
    split_ifs with h
    · subst h
      omega
    · omega

theorem JointInvariant.stored {receipt : ReceiptRow} (inv : JointInvariant ports db)
    (next : receipt.position = receiptCount db receipt.conversationId + 1)
    (key : receipt.witnessKeyId = ports.witnessKeyId)
    (ahead : receiptCount db receipt.conversationId < headCount db receipt.conversationId) :
    JointInvariant ports (storedDb receipt db) where
  log := inv.log
  leaves := inv.leaves
  envelopes := inv.envelopes
  receipts := inv.receipts.append next
  keys := by
    intro other hother
    rcases List.mem_append.mp hother with hold | hnew
    · exact inv.keys other hold
    · rw [List.mem_singleton.mp hnew, key]
  values := inv.values
  instants := inv.instants
  follows := inv.follows
  heads := inv.heads
  lag := by
    intro conversationId
    obtain ⟨hlow, hhigh⟩ := inv.lag conversationId
    rw [headCount_storedDb, receiptCount_storedDb]
    split_ifs with h
    · subst h
      omega
    · omega

theorem rowReceipt_position : (rowReceipt ports attempt row db).position = row.position := by
  change Nat.ofDigitChars 10 row.position.repr.toList 0 = row.position
  rw [Nat.toList_repr, Nat.ofDigitChars_ten_toDigits]

theorem rowReceipt_headHash : (rowReceipt ports attempt row db).headHash = row.headHash :=
  Base64Url.decode_encode row.headHash

theorem insertReceipt_eq_ok {receipt : ReceiptRow} {delivery written : DeliveryDb} {u : Unit} :
    insertReceipt receipt delivery = .ok (u, written) ↔
      ((1 ≤ receipt.position ∧ receipt.position ≤ uint63Max) ∧ receipt.headHash.length = 32 ∧
        receipt.witnessTreeSize ≤ uint63Max ∧ receipt.witnessRootHash.length = 32 ∧
        receipt.witnessSignature.length = 64) ∧
      if ∃ other ∈ delivery.receipts, other.conversationId = receipt.conversationId ∧
          other.position = receipt.position ∧ other.witnessKeyId = receipt.witnessKeyId then
        written = delivery
      else
        (∃ envelope ∈ delivery.envelopes, envelope.conversationId = receipt.conversationId ∧
          envelope.position = receipt.position ∧ envelope.headHash = receipt.headHash) ∧
        written = { delivery with receipts := delivery.receipts ++ [receipt] } := by
  unfold insertReceipt
  simp only [Tx.get_bind, Tx.require_bind_eq_ok, and_assoc]
  split_ifs with h
  · simp only [Tx.pure_eq_ok, true_and]
  · simp only [Tx.require_bind_eq_ok, Tx.modify_eq_ok]

private theorem no_conflict (inv : JointInvariant ports db)
    (hnext : receiptCount db row.conversationId < row.position) :
    ¬ ∃ other ∈ db.delivery.receipts,
      other.conversationId = (rowReceipt ports attempt row db).conversationId ∧
      other.position = (rowReceipt ports attempt row db).position ∧
      other.witnessKeyId = (rowReceipt ports attempt row db).witnessKeyId := by
  rintro ⟨other, hother, hconversation, hposition, -⟩
  have hbound := (inv.receipts.bounds hother).2
  rw [hposition, rowReceipt_position, hconversation] at hbound
  exact absurd hnext (Nat.not_lt.mpr hbound)

theorem JointInvariant.insertReceipt_written {written : DeliveryDb}
    (inv : JointInvariant ports db)
    (hnext : receiptCount db row.conversationId < row.position)
    (h : insertReceipt (rowReceipt ports attempt row db) db.delivery = .ok ((), written)) :
    written = { db.delivery with
      receipts := db.delivery.receipts ++ [rowReceipt ports attempt row db] } := by
  obtain ⟨-, hwritten⟩ := insertReceipt_eq_ok.mp h
  rw [if_neg (no_conflict inv hnext)] at hwritten
  exact hwritten.2

theorem JointInvariant.insertReceipt_passes (inv : JointInvariant ports db)
    (hrow : row ∈ db.delivery.envelopes)
    (hnext : receiptCount db row.conversationId < row.position)
    (extension : Extends ports db.witness attempt.now attempt.checkpointId row.submission
      row.position row.previousHeadHash row.headHash) :
    insertReceipt (rowReceipt ports attempt row db) db.delivery = .ok ((), { db.delivery with
      receipts := db.delivery.receipts ++ [rowReceipt ports attempt row db] }) := by
  have hvalues := inv.values row hrow
  have hsize : (rowReceipt ports attempt row db).witnessTreeSize =
      (loadLeafHashes db.witness .delivery none).length + 1 := by
    change Nat.ofDigitChars 10 (Nat.repr _).toList 0 = _
    rw [Nat.toList_repr, Nat.ofDigitChars_ten_toDigits]
    rfl
  refine insertReceipt_eq_ok.mpr ⟨⟨?_, ?_, ?_, ?_, ?_⟩, ?_⟩
  · rw [rowReceipt_position]
    exact ⟨hvalues.positive, hvalues.bounded⟩
  · rw [rowReceipt_headHash]
    exact hvalues.headSize
  · rw [hsize]
    exact extension.append.sizeBound
  · change (Base64Url.decode (Base64Url.encode _)).length = 32
    rw [Base64Url.decode_encode]
    exact extension.append.rootSize
  · change (Base64Url.decode (Base64Url.encode _)).length = 64
    rw [Base64Url.decode_encode]
    exact extension.append.signatureSize
  · rw [if_neg (no_conflict inv hnext)]
    exact ⟨⟨row, hrow, rfl, rowReceipt_position.symm, rowReceipt_headHash.symm⟩, rfl⟩

structure Accepted (ports : WitnessPorts) (attempt : Attempt) (row : EnvelopeRow) (db : JointDb) :
    Prop where
  signed : Signed ports db row
  current : headCount db row.conversationId = receiptCount db row.conversationId
  extension : Extends ports db.witness attempt.now attempt.checkpointId row.submission
    row.position row.previousHeadHash row.headHash

theorem JointInvariant.answer_cases (inv : JointInvariant ports db)
    (hrow : row ∈ db.delivery.envelopes)
    (hnext : row.position = receiptCount db row.conversationId + 1)
    {result : DeliveryExtensionResult} {written : WitnessDb}
    (h : extendDelivery ports attempt.now attempt.checkpointId row.submission db.witness =
      .ok (result, written)) :
    (Accepted ports attempt row db ∧ written = (witnessedDb ports attempt row db).witness ∧
      result = .witnessed (deliveryReceipt ports db.witness attempt.now attempt.checkpointId
        row.submission row.position row.previousHeadHash row.headHash)) ∨
    ((∀ receipt, result ≠ .witnessed receipt) ∧ written = db.witness ∧
      ¬ (Signed ports db row ∧ headCount db row.conversationId =
        receiptCount db row.conversationId)) := by
  by_cases hrefused : ∀ receipt, result ≠ .witnessed receipt
  · refine Or.inr ⟨hrefused, extendDelivery_refused h hrefused, ?_⟩
    rintro ⟨signed, hcurrent⟩
    have hhead : row.position = headCount db row.conversationId + 1 := by rw [hnext, hcurrent]
    obtain ⟨receipt, hreceipt⟩ := extendDelivery_continues (inv.values row hrow) signed
      (inv.heads_fresh row.conversationId (by omega)) (inv.expectedPrevious_next hrow hhead) h
    exact hrefused receipt hreceipt
  · push Not at hrefused
    obtain ⟨receipt, rfl⟩ := hrefused
    obtain ⟨signed, position, previousHead, head, extension, rfl, rfl⟩ :=
      extendDelivery_witnessed_iff.mp h
    obtain ⟨rfl, rfl, rfl⟩ := (inv.values row hrow).unique extension.values
    have hhead : row.position = headCount db row.conversationId + 1 :=
      inv.log.next_position extension
    have hcurrent : headCount db row.conversationId = receiptCount db row.conversationId := by
      rw [hnext] at hhead
      exact (Nat.succ.inj hhead).symm
    exact Or.inl ⟨⟨signed, hcurrent, extension⟩, rfl, rfl⟩

theorem JointInvariant.submitRow_cases (inv : JointInvariant ports db) (attempt : Attempt)
    (hrow : row ∈ db.delivery.envelopes)
    (hnext : row.position = receiptCount db row.conversationId + 1) :
    submitRow ports attempt row db = (.thrown, db) ∨
    (Accepted ports attempt row db ∧
      (submitRow ports attempt row db = (.thrown, witnessedDb ports attempt row db) ∨
        submitRow ports attempt row db = (.receipted, receiptedDb ports attempt row db))) ∨
    (¬ (Signed ports db row ∧ headCount db row.conversationId =
        receiptCount db row.conversationId) ∧
      ∃ outcome, submitRow ports attempt row db = (.refused outcome, db)) := by
  unfold submitRow
  by_cases hrequest : attempt.fault = .requestLost
  · exact Or.inl (if_pos hrequest)
  rw [if_neg hrequest]
  rcases sqlBegin_cases (extendDelivery ports attempt.now attempt.checkpointId row.submission)
    db.witness with ⟨result, written, hcall, hrun⟩ | ⟨failure, -, hrun⟩
  · rw [hrun]
    rcases inv.answer_cases hrow hnext hcall with ⟨accepted, rfl, rfl⟩ | ⟨hrefused, rfl, hstale⟩
    · -- the witness has committed; only the answer or the insert can still be lost
      refine Or.inr (Or.inl ⟨accepted, ?_⟩)
      split_ifs with hresponse hinsert
      · exact Or.inl rfl
      · exact Or.inl rfl
      · dsimp only
        rcases sqlBegin_cases (insertReceipt (rowReceipt ports attempt row db)) db.delivery with
          ⟨⟨⟩, delivery, hstored, hstore⟩ | ⟨failure, -, hstore⟩
        · right
          rw [rowReceipt] at hstore
          rw [hstore]
          dsimp only
          rw [inv.insertReceipt_written (by omega) hstored]
          rfl
        · left
          rw [rowReceipt] at hstore
          rw [hstore]
          rfl
    · by_cases hresponse : attempt.fault = .responseLost
      · exact Or.inl (if_pos hresponse)
      · simp only [if_neg hresponse]
        cases result with
        | witnessed receipt => exact absurd rfl (hrefused receipt)
        | equivocation position witnessedHeadHash submittedHeadHash =>
          exact Or.inr (Or.inr ⟨hstale, _, rfl⟩)
        | rejected reasonCode => exact Or.inr (Or.inr ⟨hstale, _, rfl⟩)
  · rw [hrun]
    left
    exact ite_self _

theorem JointInvariant.extends_next (inv : JointInvariant ports db) (sane : SaneSigner ports)
    (attempt : Attempt) (room : db.delivery.envelopes.length ≤ uint63Max)
    (hrow : row ∈ db.delivery.envelopes)
    (hnext : row.position = headCount db row.conversationId + 1)
    (fresh : ∀ other ∈ db.witness.checkpoints, other.checkpointId ≠ attempt.checkpointId) :
    Extends ports db.witness attempt.now attempt.checkpointId row.submission row.position
      row.previousHeadHash row.headHash where
  values := inv.values row hrow
  fresh := inv.heads_fresh row.conversationId (by omega)
  previous := inv.expectedPrevious_next hrow hnext
  append := appendAllowed_of_room inv.log sane ((inv.room hrow (by omega)).trans room)
    (deliveryPayload_bound (inv.values row hrow)) fresh

theorem JointInvariant.submitRow_answers (inv : JointInvariant ports db) (sane : SaneSigner ports)
    (attempt : Attempt) (room : db.delivery.envelopes.length ≤ uint63Max)
    (hrow : row ∈ db.delivery.envelopes)
    (hnext : row.position = receiptCount db row.conversationId + 1)
    (fault : attempt.fault = .none)
    (fresh : ∀ other ∈ db.witness.checkpoints, other.checkpointId ≠ attempt.checkpointId) :
    (submitRow ports attempt row db).1 ≠ .thrown := by
  have hvalues := inv.values row hrow
  have hlag := inv.lag row.conversationId
  unfold submitRow
  simp only [fault, reduceCtorEq, if_false]
  by_cases hready : Signed ports db row ∧
      headCount db row.conversationId = receiptCount db row.conversationId
  · have extension := inv.extends_next sane attempt room hrow (by omega) fresh
    have hcall := extendDelivery_witnessed_iff.mpr
      ⟨hready.1, row.position, row.previousHeadHash, row.headHash, extension, rfl, rfl⟩
    have hstored := inv.insertReceipt_passes hrow (by omega) extension
    rw [rowReceipt] at hstored
    simp only [sqlBegin, hcall, hstored, ne_eq, reduceCtorEq, not_false_eq_true]
  · have hstale : ¬ SignedBySubmitter ports db.witness row.submission ∨
        ∃ head, deliveryHeadsAt db.witness row.submission.conversationId row.position = [head] := by
      by_cases hsigned : Signed ports db row
      · right
        have hahead : headCount db row.conversationId ≠ receiptCount db row.conversationId :=
          fun heq => hready ⟨hsigned, heq⟩
        obtain ⟨head, -, -, -, hquery⟩ := inv.heads_stored row.conversationId
          hvalues.positive (by omega)
        exact ⟨head, hquery⟩
      · exact Or.inl hsigned
    have hanswers : ∃ result, extendDelivery ports attempt.now attempt.checkpointId row.submission
        db.witness = .ok (result, db.witness) :=
      extendDelivery_answers hvalues (inv.instants row hrow) hstale
    obtain ⟨result, hcall⟩ := hanswers
    have hcases := inv.answer_cases hrow hnext hcall
    simp only [sqlBegin, hcall]
    cases result with
    | witnessed receipt =>
      rcases hcases with ⟨accepted, -⟩ | ⟨hrefused, -⟩
      · exact absurd ⟨accepted.signed, accepted.current⟩ hready
      · exact absurd rfl (hrefused receipt)
    | equivocation position witnessedHeadHash submittedHeadHash => simp
    | rejected reasonCode => simp

end JbChat.Witness.SubmitterRow
