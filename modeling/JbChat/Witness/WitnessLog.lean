/- source: src/production/witness/witnessCore.ts
   digest: The invariant that every sequence of witness calls keeps. -/

import JbChat.Witness.WitnessCalls

set_option autoImplicit false

namespace JbChat.Witness.WitnessLog

open Foundation.HashTrace Foundation.Transaction Delivery.ValueObjects WitnessCore WitnessCalls

def leavesOf (db : WitnessDb) (ns : Namespace) : List LeafRow :=
  db.leaves.filter fun row => decide (row.ns = ns)

def headsOf (db : WitnessDb) (conversationId : String) : List DeliveryHeadRow :=
  db.deliveryHeads.filter fun row => decide (row.conversationId = conversationId)

/-- The hash that a head's leaf must name as its predecessor: zero for position one,
else the head witnessed at the position before. -/
def PreviousHead (db : WitnessDb) (row : DeliveryHeadRow) (previousHead : Bytes) : Prop :=
  (row.position = 1 ∧ previousHead = List.replicate 32 0) ∨
    ∃ before ∈ db.deliveryHeads, before.conversationId = row.conversationId ∧
      before.position + 1 = row.position ∧ before.headHash = previousHead

/-- Leaves have gap-free indices, checkpoints carry roots of prefixes, the witnessed
positions of a conversation are gap-free from one, and leaves chain its heads. -/
structure LogInvariant (H : HashFunction) (db : WitnessDb) : Prop where
  indices : ∀ ns, (leavesOf db ns).map LeafRow.treeIndex = List.range (leavesOf db ns).length
  hashes : ∀ row ∈ db.leaves, row.leafHash = (MerkleLog.leafHash H row.leafPayload).value
  checkpoints : ∀ row ∈ db.checkpoints,
    1 ≤ row.treeSize ∧ row.treeSize ≤ (leavesOf db row.ns).length ∧
      row.rootHash = (MerkleLog.merkleRoot H
        (((leavesOf db row.ns).take row.treeSize).map LeafRow.leafHash)).value
  positions : ∀ conversationId, (headsOf db conversationId).map DeliveryHeadRow.position =
    List.range' 1 (headsOf db conversationId).length
  chained : ∀ row ∈ db.deliveryHeads, ∃ leaf ∈ leavesOf db .delivery,
    leaf.treeIndex = row.treeIndex ∧ ∃ previousHead signingKeyId,
      leaf.leafPayload = deliveryLeafPayload row.conversationId row.position.repr previousHead
        row.headHash signingKeyId ∧ PreviousHead db row previousHead

variable {H : HashFunction} {ports : WitnessPorts} {db : WitnessDb}

theorem migrated_log (now : String) (submitterKeys : List SubmitterKeyRow) :
    LogInvariant H (WitnessDb.migrated now submitterKeys) where
  indices _ := rfl
  hashes row h := by cases h
  checkpoints row h := by cases h
  positions _ := rfl
  chained row h := by cases h

theorem LogInvariant.loadLeafHashes_eq (log : LogInvariant H db) (ns : Namespace) :
    loadLeafHashes db ns none = (leavesOf db ns).map LeafRow.leafHash := by
  have hrows : (db.leaves.filter fun row =>
      decide (row.ns = ns) && (none : Option Nat).all fun bound => decide (row.treeIndex < bound)) =
        leavesOf db ns := by
    simp [leavesOf]
  have hsorted : (leavesOf db ns).Pairwise fun a b => a.treeIndex ≤ b.treeIndex := by
    rw [← List.pairwise_map (f := LeafRow.treeIndex) (R := (· ≤ ·)), log.indices ns]
    exact (List.pairwise_lt_range).imp Nat.le_of_lt
  simp only [loadLeafHashes]
  rw [hrows, hsorted.insertionSort_eq]

theorem LogInvariant.loadLeafHashes_length (log : LogInvariant H db) (ns : Namespace) :
    (loadLeafHashes db ns none).length = (leavesOf db ns).length := by
  rw [log.loadLeafHashes_eq, List.length_map]

theorem leavesOf_appended (ns other : Namespace) (payload : Bytes) (now checkpointId : String) :
    leavesOf (appended ports db ns payload now checkpointId) other =
      leavesOf db other ++ if ns = other then [leafRow ports db ns payload now] else [] := by
  unfold leavesOf appended
  rw [List.filter_append]
  by_cases h : ns = other
  · simp [h, leafRow]
  · simp [h, leafRow]

theorem mem_leavesOf_appended {ns other : Namespace} {payload : Bytes} {now checkpointId : String}
    {leaf : LeafRow} (h : leaf ∈ leavesOf db other) :
    leaf ∈ leavesOf (appended ports db ns payload now checkpointId) other := by
  rw [leavesOf_appended]
  exact List.mem_append_left _ h

private theorem indices_appended (log : LogInvariant ports.sha256 db) (ns : Namespace)
    (payload : Bytes) (now checkpointId : String) (other : Namespace) :
    (leavesOf (appended ports db ns payload now checkpointId) other).map LeafRow.treeIndex =
      List.range (leavesOf (appended ports db ns payload now checkpointId) other).length := by
  rw [leavesOf_appended]
  by_cases h : ns = other
  · subst h
    simp only [if_true, List.map_append, List.map_cons, List.map_nil, log.indices,
      List.length_append, List.length_singleton, leafRow, log.loadLeafHashes_length]
    exact List.range_succ.symm
  · simp only [h, if_false, List.append_nil, log.indices]

private theorem checkpoints_appended (log : LogInvariant ports.sha256 db) (ns : Namespace)
    (payload : Bytes) (now checkpointId : String) :
    ∀ row ∈ (appended ports db ns payload now checkpointId).checkpoints,
      1 ≤ row.treeSize ∧
      row.treeSize ≤ (leavesOf (appended ports db ns payload now checkpointId) row.ns).length ∧
      row.rootHash = (MerkleLog.merkleRoot ports.sha256
        (((leavesOf (appended ports db ns payload now checkpointId) row.ns).take
          row.treeSize).map LeafRow.leafHash)).value := by
  intro row hrow
  rcases List.mem_append.mp hrow with hold | hnew
  · obtain ⟨hpos, hsize, hroot⟩ := log.checkpoints row hold
    rw [leavesOf_appended, List.take_append_of_le_length hsize, List.length_append]
    exact ⟨hpos, by omega, hroot⟩
  · obtain rfl : row = checkpointRow ports db ns payload now checkpointId := by simpa using hnew
    have hns : (checkpointRow ports db ns payload now checkpointId).ns = ns := rfl
    have hsize : (checkpointRow ports db ns payload now checkpointId).treeSize =
        (leavesOf db ns).length + 1 := by
      rw [← log.loadLeafHashes_length]
      rfl
    rw [hns, hsize, leavesOf_appended, if_pos rfl]
    refine ⟨by omega, by simp, ?_⟩
    rw [List.take_of_length_le (by simp), List.map_append, ← log.loadLeafHashes_eq]
    rfl

theorem LogInvariant.append (log : LogInvariant ports.sha256 db) (ns : Namespace) (payload : Bytes)
    (now checkpointId : String) :
    LogInvariant ports.sha256 (appended ports db ns payload now checkpointId) where
  indices := indices_appended log ns payload now checkpointId
  hashes := by
    intro row hrow
    rcases List.mem_append.mp hrow with hold | hnew
    · exact log.hashes row hold
    · obtain rfl : row = leafRow ports db ns payload now := by simpa using hnew
      rfl
  checkpoints := checkpoints_appended log ns payload now checkpointId
  positions := log.positions
  chained := by
    intro row hrow
    obtain ⟨leaf, hleaf, hindex, hpayload⟩ := log.chained row hrow
    exact ⟨leaf, mem_leavesOf_appended hleaf, hindex, hpayload⟩

theorem LogInvariant.exists_head_iff (log : LogInvariant H db) (conversationId : String)
    (position : Nat) :
    (∃ row ∈ db.deliveryHeads, row.conversationId = conversationId ∧ row.position = position) ↔
      1 ≤ position ∧ position ≤ (headsOf db conversationId).length := by
  have hmem : position ∈ (headsOf db conversationId).map DeliveryHeadRow.position ↔
      1 ≤ position ∧ position ≤ (headsOf db conversationId).length := by
    rw [log.positions, List.mem_range'_1]
    omega
  rw [← hmem]
  simp only [headsOf, List.mem_map, List.mem_filter, decide_eq_true_eq]
  constructor
  · rintro ⟨row, hrow, hconversation, hposition⟩
    exact ⟨row, ⟨hrow, hconversation⟩, hposition⟩
  · rintro ⟨row, ⟨hrow, hconversation⟩, hposition⟩
    exact ⟨row, hrow, hconversation, hposition⟩

theorem expectedPrevious_eq_some {conversationId : String} {position : Nat} {head : Bytes}
    (h : expectedPrevious db conversationId position = some head) :
    (position = 1 ∧ head = List.replicate 32 0) ∨ (position ≠ 1 ∧ ∃ row ∈ db.deliveryHeads,
      row.conversationId = conversationId ∧ row.position = position - 1 ∧ row.headHash = head) := by
  unfold expectedPrevious at h
  split_ifs at h with hone
  · exact Or.inl ⟨hone, (Option.some.inj h).symm⟩
  · obtain ⟨row, hrow, hhead⟩ := Option.map_eq_some_iff.mp h
    have hrows := onlyRow_eq_some.mp hrow
    have hmem : row ∈ deliveryHeadsAt db conversationId (position - 1) := by
      rw [hrows]
      exact List.mem_singleton_self row
    simp only [deliveryHeadsAt, List.mem_filter, decide_eq_true_eq] at hmem
    exact Or.inr ⟨hone, row, hmem.1, hmem.2.1, hmem.2.2, hhead⟩

section

variable {now checkpointId : String} {input : DeliverySubmission} {position : Nat}
  {previousHead head : Bytes}

theorem LogInvariant.next_position (log : LogInvariant H db)
    (extension : Extends ports db now checkpointId input position previousHead head) :
    position = (headsOf db input.conversationId).length + 1 := by
  have hpositive := extension.values.positive
  have hfresh : ¬ (1 ≤ position ∧ position ≤ (headsOf db input.conversationId).length) := by
    rw [← log.exists_head_iff]
    rintro ⟨row, hrow, hkey⟩
    exact deliveryHeadsAt_eq_nil.mp extension.fresh row hrow hkey
  rcases expectedPrevious_eq_some extension.previous with ⟨hone, -⟩ | ⟨hone, hbefore⟩
  · omega
  · obtain ⟨row, hrow, hconversation, hposition, -⟩ := hbefore
    have hrange := (log.exists_head_iff input.conversationId (position - 1)).mp
      ⟨row, hrow, hconversation, hposition⟩
    omega

theorem headsOf_deliveryExtended (conversationId : String) :
    headsOf (deliveryExtended ports db now checkpointId input position previousHead head)
        conversationId =
      headsOf db conversationId ++ if input.conversationId = conversationId then
        [⟨input.conversationId, position, head, (loadLeafHashes db .delivery none).length⟩]
      else [] := by
  unfold headsOf deliveryExtended
  rw [List.filter_append]
  by_cases h : input.conversationId = conversationId
  · simp [h]
  · simp [h]

private theorem positions_deliveryExtended (log : LogInvariant ports.sha256 db)
    (extension : Extends ports db now checkpointId input position previousHead head)
    (conversationId : String) :
    (headsOf (deliveryExtended ports db now checkpointId input position previousHead head)
        conversationId).map DeliveryHeadRow.position =
      List.range' 1 (headsOf (deliveryExtended ports db now checkpointId input position
        previousHead head) conversationId).length := by
  rw [headsOf_deliveryExtended]
  by_cases h : input.conversationId = conversationId
  · subst h
    have hnext := log.next_position extension
    simp only [if_true, List.map_append, List.map_cons, List.map_nil, log.positions,
      List.length_append, List.length_singleton]
    rw [List.range'_concat, Nat.one_mul, hnext, Nat.add_comm 1]
  · simp only [h, if_false, List.append_nil, log.positions]

private theorem previousHead_mono {before after : WitnessDb} {row : DeliveryHeadRow}
    {previousHead : Bytes} (sub : before.deliveryHeads ⊆ after.deliveryHeads)
    (h : PreviousHead before row previousHead) : PreviousHead after row previousHead := by
  rcases h with hfirst | ⟨other, hother, hrest⟩
  · exact Or.inl hfirst
  · exact Or.inr ⟨other, sub hother, hrest⟩

theorem LogInvariant.extendDelivery (log : LogInvariant ports.sha256 db)
    (extension : Extends ports db now checkpointId input position previousHead head) :
    LogInvariant ports.sha256
      (deliveryExtended ports db now checkpointId input position previousHead head) := by
  have happended := log.append .delivery (deliveryPayload input position previousHead head) now
    checkpointId
  refine ⟨happended.indices, happended.hashes, happended.checkpoints,
    positions_deliveryExtended log extension, ?_⟩
  intro row hrow
  rcases List.mem_append.mp hrow with hold | hnew
  · obtain ⟨leaf, hleaf, hindex, previous, key, hpayload, hprevious⟩ := happended.chained row hold
    exact ⟨leaf, hleaf, hindex, previous, key, hpayload,
      previousHead_mono (List.subset_append_left _ _) hprevious⟩
  · obtain rfl := List.mem_singleton.mp hnew
    refine ⟨leafRow ports db .delivery (deliveryPayload input position previousHead head) now, ?_,
      rfl, previousHead, input.signingKeyId, rfl, ?_⟩
    · have hleaves : leavesOf (appended ports db .delivery _ now checkpointId) .delivery = _ :=
        leavesOf_appended .delivery .delivery (deliveryPayload input position previousHead head)
          now checkpointId
      rw [if_pos rfl] at hleaves
      change _ ∈ leavesOf (appended ports db .delivery _ now checkpointId) .delivery
      rw [hleaves]
      simp
    · rcases expectedPrevious_eq_some extension.previous with hfirst | ⟨hone, hbefore⟩
      · exact Or.inl hfirst
      · obtain ⟨other, hother, hconversation, hposition, hhead⟩ := hbefore
        have hpositive := extension.values.positive
        refine Or.inr ⟨other, List.mem_append_left _ hother, hconversation, ?_, hhead⟩
        rw [hposition]
        exact Nat.sub_add_cancel hpositive

end

/-- A call with the clock reading and the random ID it meets. -/
inductive WitnessCall where
  | delivery (now checkpointId : String) (input : DeliverySubmission)
  | chain (now checkpointId : String) (ns : ChainNamespace) (input : ChainSubmission)

inductive CallAnswer where
  | delivery (result : DeliveryExtensionResult)
  | chain (result : ChainExtensionResult)

/-- The answer is `rejected` or `equivocation`. -/
def CallAnswer.Refused : CallAnswer → Prop
  | .delivery result => ∀ receipt, result ≠ .witnessed receipt
  | .chain result => ∀ receipt, result ≠ .witnessed receipt

def callTx (ports : WitnessPorts) : WitnessCall → WitnessTx CallAnswer
  | .delivery now checkpointId input => CallAnswer.delivery <$>
      WitnessCore.extendDelivery ports now checkpointId input
  | .chain now checkpointId ns input => CallAnswer.chain <$>
      extendChain ports now checkpointId ns input

/-- One call in its transaction. -/
def answerCall (ports : WitnessPorts) (db : WitnessDb) (call : WitnessCall) :
    Except Failure CallAnswer × WitnessDb :=
  sqlBegin (callTx ports call) db

/-- The database after a sequence of calls. -/
def runCalls (ports : WitnessPorts) (db : WitnessDb) (calls : List WitnessCall) : WitnessDb :=
  calls.foldl (fun db call => (answerCall ports db call).2) db

theorem callTx_cases {call : WitnessCall} {answer : CallAnswer} {written : WitnessDb}
    (h : callTx ports call db = .ok (answer, written)) :
    (answer.Refused ∧ written = db) ∨
      (¬ answer.Refused ∧ ∃ now checkpointId input position previousHead head,
        Extends ports db now checkpointId input position previousHead head ∧
        written = deliveryExtended ports db now checkpointId input position previousHead head) ∨
      (¬ answer.Refused ∧ ∃ now checkpointId ns input upstream,
        written = chainExtended ports db now checkpointId ns input upstream) := by
  cases call with
  | delivery now checkpointId input =>
    obtain ⟨result, hcall, rfl⟩ := Tx.map_eq_ok.mp h
    by_cases hrefused : ∀ receipt, result ≠ .witnessed receipt
    · exact Or.inl ⟨hrefused, extendDelivery_refused hcall hrefused⟩
    · push Not at hrefused
      obtain ⟨receipt, rfl⟩ := hrefused
      obtain ⟨-, position, previousHead, head, extension, -, hwritten⟩ :=
        extendDelivery_witnessed_iff.mp hcall
      exact Or.inr (Or.inl ⟨fun hall => hall receipt rfl, now, checkpointId, input, position,
        previousHead, head, extension, hwritten⟩)
  | chain now checkpointId ns input =>
    obtain ⟨result, hcall, rfl⟩ := Tx.map_eq_ok.mp h
    cases result with
    | witnessed receipt =>
      obtain ⟨-, -, upstream, -, -, hwritten⟩ := extendChain_witnessed_iff.mp hcall
      exact Or.inr (Or.inr ⟨fun hall => hall receipt rfl, now, checkpointId, ns, input,
        upstream, hwritten⟩)
    | equivocation expected submitted =>
      obtain ⟨-, -, -, hwritten⟩ := extendChain_equivocation_iff.mp hcall
      refine Or.inl ⟨fun receipt heq => ?_, hwritten⟩
      cases heq
    | rejected reasonCode => exact absurd hcall extendChain_not_rejected

theorem LogInvariant.answerCall (log : LogInvariant ports.sha256 db) (call : WitnessCall) :
    LogInvariant ports.sha256 (answerCall ports db call).2 := by
  apply sqlBegin_keeps log
  intro answer written h
  rcases callTx_cases h with ⟨-, rfl⟩ | ⟨-, delivery⟩ | ⟨-, chain⟩
  · exact log
  · obtain ⟨now, checkpointId, input, position, previousHead, head, extension, rfl⟩ := delivery
    exact log.extendDelivery extension
  · obtain ⟨now, checkpointId, ns, input, upstream, rfl⟩ := chain
    have happended := log.append ns.toNamespace (chainLeafPayload input) now checkpointId
    exact ⟨happended.indices, happended.hashes, happended.checkpoints, happended.positions,
      happended.chained⟩

theorem LogInvariant.runCalls (log : LogInvariant ports.sha256 db) (calls : List WitnessCall) :
    LogInvariant ports.sha256 (runCalls ports db calls) := by
  induction calls generalizing db with
  | nil => exact log
  | cons call calls ih => exact ih (log.answerCall call)

/-- The older of two checkpoints is the root of a prefix of the leaves of the newer. -/
def ConsistentPrefixes (H : HashFunction) (db : WitnessDb) : Prop :=
  ∀ older ∈ db.checkpoints, ∀ newer ∈ db.checkpoints, older.ns = newer.ns →
    older.treeSize ≤ newer.treeSize → ∃ leafHashes : List Bytes,
      leafHashes.length = newer.treeSize ∧
      newer.rootHash = (MerkleLog.merkleRoot H leafHashes).value ∧
      older.rootHash = (MerkleLog.merkleRoot H (leafHashes.take older.treeSize)).value

theorem LogInvariant.consistentPrefixes (log : LogInvariant H db) : ConsistentPrefixes H db := by
  intro older holder newer hnewer hns hsize
  obtain ⟨-, -, holdRoot⟩ := log.checkpoints older holder
  obtain ⟨-, hbound, hnewRoot⟩ := log.checkpoints newer hnewer
  refine ⟨((leavesOf db newer.ns).take newer.treeSize).map LeafRow.leafHash, ?_, hnewRoot, ?_⟩
  · rw [List.length_map, List.length_take, Nat.min_eq_left hbound]
  · rw [holdRoot, hns, ← List.map_take, List.take_take, Nat.min_eq_left hsize]

/-- After every sequence of calls from the migrated database the log invariant holds,
checkpoints are consistent prefixes, and a refused or thrown call changes no row. -/
theorem witness_log_invariant (ports : WitnessPorts) (now : String)
    (submitterKeys : List SubmitterKeyRow) (calls : List WitnessCall) :
    let db := runCalls ports (WitnessDb.migrated now submitterKeys) calls
    LogInvariant ports.sha256 db ∧ ConsistentPrefixes ports.sha256 db ∧
      ∀ call, (∀ answer, (answerCall ports db call).1 = .ok answer → answer.Refused) →
        (answerCall ports db call).2 = db := by
  have log := (migrated_log (H := ports.sha256) now submitterKeys).runCalls calls
  refine ⟨log, log.consistentPrefixes, ?_⟩
  intro call hrefused
  rcases sqlBegin_cases (callTx ports call)
      (runCalls ports (WitnessDb.migrated now submitterKeys) calls) with
    ⟨answer, written, htx, hrun⟩ | ⟨failure, -, hrun⟩
  · have hanswer := hrefused answer (by rw [answerCall, hrun])
    rcases callTx_cases htx with ⟨-, hsame⟩ | ⟨hextended, -⟩ | ⟨hextended, -⟩
    · rw [answerCall, hrun]
      exact hsame
    · exact absurd hanswer hextended
    · exact absurd hanswer hextended
  · rw [answerCall, hrun]

end JbChat.Witness.WitnessLog
