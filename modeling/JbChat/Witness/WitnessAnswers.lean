/- source: src/production/witness/witnessCore.ts, witnessHttp.ts
   digest: What the witness answers from its log: proofs that verify, and that never change. -/

import JbChat.Witness.MerkleComplete
import JbChat.Witness.WitnessLog

set_option autoImplicit false

namespace JbChat.Witness.WitnessAnswers

open Foundation Foundation.HashTrace
open Foundation.Transaction MerkleLog MerkleFold MerkleComplete SplitPath WitnessCore WitnessCalls
open WitnessLog

/-- No answer where the cast of the id throws. -/
def readCheckpoint (ports : WitnessPorts) (db : WitnessDb) (checkpointId : String) :
    Option WitnessCheckpoint :=
  (ports.castUuid checkpointId).bind fun stored =>
    (onlyRow (db.checkpoints.filter fun row => decide (row.checkpointId = stored))).map
      checkpointFromRow

/-- A proof over the first leaves, if all of them are there. -/
def proofOver (db : WitnessDb) (ns : Namespace) (treeSize : Nat)
    (prove : List Bytes → Option (List Bytes)) : Option (List String) :=
  let hashes := loadLeafHashes db ns (some treeSize)
  if hashes.length ≠ treeSize then none
  else (prove hashes).map fun proof => proof.map Base64Url.encode

def proveConsistency (ports : WitnessPorts) (db : WitnessDb) (ns : Namespace)
    (fromTreeSize toTreeSize : Nat) : Option (List String) :=
  if fromTreeSize < 1 ∨ toTreeSize < fromTreeSize then none
  else proofOver db ns toTreeSize fun hashes => consistencyProof ports.sha256 hashes fromTreeSize

def proveInclusion (ports : WitnessPorts) (db : WitnessDb) (ns : Namespace)
    (treeIndex treeSize : Nat) : Option (List String) :=
  if treeSize ≤ treeIndex then none
  else proofOver db ns treeSize fun hashes => inclusionProof ports.sha256 hashes treeIndex

/-- The verdict of `reportGossip`. -/
def splitView (db : WitnessDb) (conversationId : String) (position : Nat) (headHash : String) :
    Bool :=
  match deliveryHeadsAt db conversationId position with
  | [] => true
  | row :: _ => decide (Base64Url.encode row.headHash ≠ headHash)

/-- Every checkpoint is proved to extend each smaller one and to include each leaf below it. The
verifier works on words, hence the bound. -/
def CheckpointsProve (ports : WitnessPorts) (db : WitnessDb) : Prop :=
  ∀ newer ∈ db.checkpoints, newer.treeSize ≤ 2 ^ 31 →
    (∀ older ∈ db.checkpoints, older.ns = newer.ns → older.treeSize ≤ newer.treeSize →
      ∃ proof, proveConsistency ports db newer.ns older.treeSize newer.treeSize =
          some (proof.map Base64Url.encode) ∧
        (verifyConsistency ports.sha256 older.treeSize older.rootHash newer.treeSize
          newer.rootHash proof).value = true) ∧
    ∀ leaf ∈ leavesOf db newer.ns, leaf.treeIndex < newer.treeSize →
      ∃ proof, proveInclusion ports db newer.ns leaf.treeIndex newer.treeSize =
          some (proof.map Base64Url.encode) ∧
        (verifyInclusion ports.sha256 leaf.leafHash leaf.treeIndex newer.treeSize proof
          newer.rootHash).value = true

/-- What was answered before is answered later. -/
structure AnswersKept (ports : WitnessPorts) (db later : WitnessDb) : Prop where
  checkpoints : ∀ checkpointId answer, readCheckpoint ports db checkpointId = some answer →
    readCheckpoint ports later checkpointId = some answer
  consistency : ∀ ns fromTreeSize toTreeSize proof,
    proveConsistency ports db ns fromTreeSize toTreeSize = some proof →
      proveConsistency ports later ns fromTreeSize toTreeSize = some proof
  inclusion : ∀ ns treeIndex treeSize proof,
    proveInclusion ports db ns treeIndex treeSize = some proof →
      proveInclusion ports later ns treeIndex treeSize = some proof
  verdicts : ∀ conversationId position headHash,
    deliveryHeadsAt db conversationId position ≠ [] →
      splitView later conversationId position headHash =
        splitView db conversationId position headHash

variable {ports : WitnessPorts} {db after later : WitnessDb}

section

variable {H : HashFunction} {ns : Namespace}

theorem treeIndex_getElem (log : LogInvariant H db) {i : Nat}
    (hi : i < (leavesOf db ns).length) : (leavesOf db ns)[i].treeIndex = i := by
  have h := List.getElem_of_eq (log.indices ns) (i := i) (by rw [List.length_map]; exact hi)
  rwa [List.getElem_map, List.getElem_range] at h

theorem loadLeafHashes_some (log : LogInvariant H db) (limit : Nat) :
    loadLeafHashes db ns (some limit) = ((leavesOf db ns).take limit).map LeafRow.leafHash := by
  have low : ∀ row ∈ (leavesOf db ns).take limit, decide (row.treeIndex < limit) = true := by
    intro row hrow
    obtain ⟨i, hi, rfl⟩ := List.mem_take_iff_getElem.mp hrow
    rw [treeIndex_getElem log (by omega), decide_eq_true_eq]
    omega
  have high : ∀ row ∈ (leavesOf db ns).drop limit, ¬ decide (row.treeIndex < limit) = true := by
    intro row hrow
    obtain ⟨i, hi, rfl⟩ := List.mem_drop_iff_getElem.mp hrow
    rw [treeIndex_getElem log (by omega), decide_eq_true_eq]
    omega
  have hrows : (leavesOf db ns).filter (fun row => decide (row.treeIndex < limit)) =
      (leavesOf db ns).take limit := by
    conv_lhs => rw [← List.take_append_drop limit (leavesOf db ns)]
    rw [List.filter_append, List.filter_eq_self.mpr low, List.filter_eq_nil_iff.mpr high,
      List.append_nil]
  have hsorted : ((leavesOf db ns).take limit).Pairwise fun a b => a.treeIndex ≤ b.treeIndex := by
    refine List.Pairwise.sublist (List.take_sublist limit _) ?_
    rw [← List.pairwise_map (f := LeafRow.treeIndex) (R := (· ≤ ·)), log.indices ns]
    exact List.pairwise_lt_range.imp Nat.le_of_lt
  have hread : (db.leaves.filter fun row => decide (row.ns = ns) &&
      (some limit).all fun bound => decide (row.treeIndex < bound)) =
        (leavesOf db ns).take limit := by
    rw [← hrows, leavesOf, List.filter_filter]
    simp only [Option.all_some, Bool.and_comm]
  simp only [loadLeafHashes]
  rw [hread, hsorted.insertionSort_eq]

theorem inclusion_proves {hashes : List Bytes} {size i : Nat} {leaf : Bytes}
    (hsize : hashes.length = size) (hbound : size ≤ 2 ^ 31) (hleaf : hashes[i]? = some leaf) :
    ∃ proof, inclusionProof H hashes i = some proof ∧
      (verifyInclusion H leaf i size proof (merkleRoot H hashes).value).value = true := by
  subst hsize
  obtain ⟨hi, -⟩ := List.getElem?_eq_some_iff.mp hleaf
  obtain ⟨path, hpath, hlen, hroot⟩ := inclusionProof_climbs H hleaf
  refine ⟨path, hpath, ?_⟩
  have hlast : (hashes.length : Int) - 1 = ((hashes.length - 1 : Nat) : Int) := by omega
  rw [verifyInclusion, if_neg (by omega), hlast]
  apply (inclusionLoop_spec H (merkleRoot H hashes).value path (by omega) (by omega) leaf).1.mpr
  rw [climb_eq_descent hi]
  exact ⟨hlen, hroot⟩

theorem consistency_proves {hashes : List Bytes} {size m : Nat} (hsize : hashes.length = size)
    (hbound : size ≤ 2 ^ 31) (hm : 1 ≤ m) (hle : m ≤ size) :
    ∃ proof, consistencyProof H hashes m = some proof ∧
      (verifyConsistency H m (merkleRoot H (hashes.take m)).value size
        (merkleRoot H hashes).value proof).value = true := by
  subst hsize
  unfold consistencyProof
  rw [if_neg (by omega)]
  by_cases hfull : m = hashes.length
  · refine ⟨[], if_pos (by omega), ?_⟩
    rw [verifyConsistency, if_neg (by omega), if_pos (by omega), hfull, List.take_length]
    simp
  · refine ⟨subProof H hashes m true, by rw [if_neg (by omega)]; rfl, ?_⟩
    exact verifyConsistency_subProof H hbound hm (by omega)

theorem proofOver_eq {treeSize : Nat} {prove : List Bytes → Option (List Bytes)}
    {proof : List Bytes} (stored : (loadLeafHashes db ns (some treeSize)).length = treeSize)
    (hproof : prove (loadLeafHashes db ns (some treeSize)) = some proof) :
    proofOver db ns treeSize prove = some (proof.map Base64Url.encode) := by
  unfold proofOver
  simp only [stored, ne_eq, not_true_eq_false, if_false, hproof, Option.map_some]

end

theorem LogInvariant.checkpointsProve (log : LogInvariant ports.sha256 db) :
    CheckpointsProve ports db := by
  intro newer hnewer hbound
  obtain ⟨hpositive, hstored, hroot⟩ := log.checkpoints newer hnewer
  have hload : loadLeafHashes db newer.ns (some newer.treeSize) = _ :=
    loadLeafHashes_some log newer.treeSize
  have hlength : (loadLeafHashes db newer.ns (some newer.treeSize)).length = newer.treeSize := by
    rw [hload, List.length_map, List.length_take, Nat.min_eq_left hstored]
  rw [← hload] at hroot
  constructor
  · intro older holder hns hle
    obtain ⟨hold, -, holdRoot⟩ := log.checkpoints older holder
    obtain ⟨proof, hproof, hverified⟩ := consistency_proves (H := ports.sha256) hlength hbound
      hold hle
    refine ⟨proof, ?_, ?_⟩
    · unfold proveConsistency
      rw [if_neg (by omega), proofOver_eq hlength hproof]
    · rw [← hroot, hload, ← List.map_take, List.take_take, Nat.min_eq_left hle, ← hns,
        ← holdRoot] at hverified
      exact hverified
  · intro leaf hleaf hindex
    obtain ⟨i, hi, rfl⟩ := List.mem_iff_getElem.mp hleaf
    rw [treeIndex_getElem log hi] at hindex ⊢
    have hat : (loadLeafHashes db newer.ns (some newer.treeSize))[i]? =
        some (leavesOf db newer.ns)[i].leafHash := by
      rw [hload, List.getElem?_map, List.getElem?_take_of_lt hindex, List.getElem?_eq_getElem hi]
      rfl
    obtain ⟨proof, hproof, hverified⟩ := inclusion_proves (H := ports.sha256) hlength hbound hat
    refine ⟨proof, ?_, hroot ▸ hverified⟩
    unfold proveInclusion
    rw [if_neg (Nat.not_le.mpr hindex), proofOver_eq hlength hproof]

section

/-- Rows are only added behind the others, and a checkpoint gets an id of its own. -/
structure Grows (db after : WitnessDb) : Prop where
  leaves : db.leaves <+: after.leaves
  checkpoints : db.checkpoints <+: after.checkpoints
  heads : db.deliveryHeads <+: after.deliveryHeads
  ids : (db.checkpoints.map CheckpointRow.checkpointId).Nodup →
    (after.checkpoints.map CheckpointRow.checkpointId).Nodup

theorem Grows.refl (db : WitnessDb) : Grows db db :=
  ⟨List.prefix_rfl, List.prefix_rfl, List.prefix_rfl, id⟩

theorem Grows.trans (first : Grows db after) (second : Grows after later) : Grows db later :=
  ⟨first.leaves.trans second.leaves, first.checkpoints.trans second.checkpoints,
    first.heads.trans second.heads, second.ids ∘ first.ids⟩

theorem ids_appended {ns : Namespace} {payload : Bytes} {now checkpointId : String}
    (allowed : AppendAllowed ports db ns payload now checkpointId)
    (ids : (db.checkpoints.map CheckpointRow.checkpointId).Nodup) :
    ((appended ports db ns payload now checkpointId).checkpoints.map
      CheckpointRow.checkpointId).Nodup := by
  unfold appended
  rw [List.map_append]
  refine List.nodup_append.mpr ⟨ids, List.nodup_singleton _, ?_⟩
  intro id hid other hother
  obtain ⟨row, hrow, rfl⟩ := List.mem_map.mp hid
  rw [List.mem_singleton.mp hother]
  exact allowed.idFree row hrow

theorem answerCall_grows (db : WitnessDb) (call : WitnessCall) :
    Grows db (answerCall ports db call).2 := by
  apply sqlBegin_keeps (Grows.refl db)
  intro answer written h
  cases call with
  | delivery now checkpointId input =>
    obtain ⟨result, hcall, rfl⟩ := Tx.map_eq_ok.mp h
    by_cases hrefused : ∀ receipt, result ≠ .witnessed receipt
    · rw [extendDelivery_refused hcall hrefused]
      exact Grows.refl db
    · push Not at hrefused
      obtain ⟨receipt, rfl⟩ := hrefused
      obtain ⟨-, position, previousHead, head, extension, -, rfl⟩ :=
        extendDelivery_witnessed_iff.mp hcall
      exact ⟨List.prefix_append _ _, List.prefix_append _ _, List.prefix_append _ _,
        ids_appended extension.append⟩
  | chain now checkpointId ns input =>
    obtain ⟨result, hcall, rfl⟩ := Tx.map_eq_ok.mp h
    cases result with
    | witnessed receipt =>
      obtain ⟨-, allowed, upstream, -, -, rfl⟩ := extendChain_witnessed_iff.mp hcall
      exact ⟨List.prefix_append _ _, List.prefix_append _ _, List.prefix_rfl,
        ids_appended allowed⟩
    | equivocation expected submitted =>
      obtain ⟨-, -, -, rfl⟩ := extendChain_equivocation_iff.mp hcall
      exact Grows.refl _
    | rejected reasonCode => exact absurd hcall extendChain_not_rejected

theorem runCalls_grows (ports : WitnessPorts) (db : WitnessDb) (calls : List WitnessCall) :
    Grows db (runCalls ports db calls) := by
  induction calls generalizing db with
  | nil => exact Grows.refl db
  | cons call calls ih => exact (answerCall_grows db call).trans (ih _)

variable {H : HashFunction}

theorem Grows.proofOver (grows : Grows db later) (log : LogInvariant H db)
    (logLater : LogInvariant H later) {ns : Namespace} {treeSize : Nat}
    {prove : List Bytes → Option (List Bytes)} {proof : List String}
    (h : proofOver db ns treeSize prove = some proof) :
    WitnessAnswers.proofOver later ns treeSize prove = some proof := by
  unfold WitnessAnswers.proofOver at h ⊢
  dsimp only at h ⊢
  split at h
  · cases h
  · rename_i stored
    have hlength := not_not.mp stored
    rw [loadLeafHashes_some log, List.length_map, List.length_take] at hlength
    obtain ⟨rest, hrest⟩ : leavesOf db ns <+: leavesOf later ns := grows.leaves.filter _
    have same : loadLeafHashes later ns (some treeSize) = loadLeafHashes db ns (some treeSize) := by
      rw [loadLeafHashes_some log, loadLeafHashes_some logLater, ← hrest,
        List.take_append_of_le_length (by omega)]
    rw [same, if_neg stored]
    exact h

theorem Grows.answersKept (grows : Grows db later) (log : LogInvariant ports.sha256 db)
    (logLater : LogInvariant ports.sha256 later)
    (ids : (db.checkpoints.map CheckpointRow.checkpointId).Nodup) :
    AnswersKept ports db later where
  checkpoints checkpointId answer h := by
    obtain ⟨stored, hcast, hread⟩ := Option.bind_eq_some_iff.mp h
    obtain ⟨row, hrow, rfl⟩ := Option.map_eq_some_iff.mp hread
    rw [onlyRow_eq_some] at hrow
    have unique := grows.ids ids
    obtain ⟨rest, hrest⟩ := grows.checkpoints
    rw [← hrest, List.map_append, List.nodup_append] at unique
    have hmem : row ∈ db.checkpoints.filter fun row => decide (row.checkpointId = stored) :=
      hrow ▸ List.mem_singleton_self row
    obtain ⟨hstored, hid⟩ := List.mem_filter.mp hmem
    have free : rest.filter (fun row => decide (row.checkpointId = stored)) = [] := by
      rw [List.filter_eq_nil_iff]
      intro other hother same
      refine unique.2.2 _ (List.mem_map_of_mem hstored) _ (List.mem_map_of_mem hother) ?_
      rw [of_decide_eq_true hid, of_decide_eq_true same]
    have only : later.checkpoints.filter (fun row => decide (row.checkpointId = stored)) =
        [row] := by
      rw [← hrest, List.filter_append, hrow, free, List.append_nil]
    unfold readCheckpoint
    rw [hcast, Option.bind_some, only]
    rfl
  consistency ns fromTreeSize toTreeSize proof h := by
    unfold proveConsistency at h ⊢
    split at h
    · cases h
    · rename_i hrange
      rw [if_neg hrange]
      exact grows.proofOver log logLater h
  inclusion ns treeIndex treeSize proof h := by
    unfold proveInclusion at h ⊢
    split at h
    · cases h
    · rename_i hrange
      rw [if_neg hrange]
      exact grows.proofOver log logLater h
  verdicts conversationId position headHash known := by
    obtain ⟨rest, hrest⟩ : deliveryHeadsAt db conversationId position <+:
      deliveryHeadsAt later conversationId position := grows.heads.filter _
    unfold splitView
    rw [← hrest]
    cases hrows : deliveryHeadsAt db conversationId position with
    | nil => exact absurd hrows known
    | cons row rows => rfl

end

/-- After every sequence of calls the witness proves its checkpoints, with proofs that the
verifiers accept. -/
theorem checkpoints_prove (ports : WitnessPorts) (now : String)
    (submitterKeys : List SubmitterKeyRow) (calls : List WitnessCall) :
    CheckpointsProve ports (runCalls ports (WitnessDb.migrated now submitterKeys) calls) :=
  LogInvariant.checkpointsProve ((migrated_log now submitterKeys).runCalls calls)

/-- No later call changes an answer that was given once. -/
theorem answers_never_change (ports : WitnessPorts) (now : String)
    (submitterKeys : List SubmitterKeyRow) (calls more : List WitnessCall) :
    let db := runCalls ports (WitnessDb.migrated now submitterKeys) calls
    AnswersKept ports db (runCalls ports db more) := by
  have log := (migrated_log (H := ports.sha256) now submitterKeys).runCalls calls
  refine (runCalls_grows ports _ more).answersKept log (log.runCalls more) ?_
  exact (runCalls_grows ports _ calls).ids List.nodup_nil

end JbChat.Witness.WitnessAnswers
