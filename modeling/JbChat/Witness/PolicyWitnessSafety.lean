/- source: src/production/witness/policyWitnessSync.ts
   digest: Runs that lose no answer are never accused; one lost answer leads to an accusation. -/

import JbChat.Witness.PolicyWitnessSync
import JbChat.Witness.MerkleInclusion

set_option autoImplicit false

namespace JbChat.Witness.PolicyWitnessSafety

open Foundation Foundation.HashTrace
open Foundation.Transaction Delivery.ValueObjects WitnessCore WitnessCalls WitnessLog
open PolicyWitnessSync MerkleFold MerkleInclusion

/-- The checkpoints of the policy log itself, without the bootstrap rows. -/
def policyRows (db : PolicyDb) : List PolicyCheckpointRow :=
  db.checkpoints.filter fun row => decide (row.signerKeyId = policyLogSignerKeyId)

/-- Each checkpoint names the one before it. -/
def LinearChain : Option String → List PolicyCheckpointRow → Prop
  | _, [] => True
  | previous, row :: rows =>
    row.previousCheckpointId = previous ∧ LinearChain (some row.checkpointId) rows

/-- The ID of the last checkpoint, or the given one before them. -/
def lastId : Option String → List PolicyCheckpointRow → Option String
  | previous, [] => previous
  | _, row :: rows => lastId (some row.checkpointId) rows

theorem linearChain_append {previous : Option String} {xs ys : List PolicyCheckpointRow} :
    LinearChain previous (xs ++ ys) ↔
      LinearChain previous xs ∧ LinearChain (lastId previous xs) ys := by
  induction xs generalizing previous with
  | nil => simp [LinearChain, lastId]
  | cons row rows ih => simp [LinearChain, lastId, ih, and_assoc]

theorem lastId_append_singleton {previous : Option String} {xs : List PolicyCheckpointRow}
    {row : PolicyCheckpointRow} : lastId previous (xs ++ [row]) = some row.checkpointId := by
  induction xs generalizing previous with
  | nil => rfl
  | cons first rest ih => exact ih

/-- The policy log as it is issued: sizes count the leaves, each checkpoint names its
predecessor, and IDs are stored uuid texts. -/
structure PolicyLog (ports : WitnessPorts) (db : PolicyDb) : Prop where
  sizes : (policyRows db).map PolicyCheckpointRow.treeSize = List.range' 1 db.leaves.length
  linear : LinearChain none (policyRows db)
  ids : (db.checkpoints.map PolicyCheckpointRow.checkpointId).Nodup
  stored : ∀ row ∈ policyRows db, ports.castUuid row.checkpointId = some row.checkpointId

private theorem argmax_of_sizes {rows : List PolicyCheckpointRow} {n : Nat}
    (sizes : rows.map PolicyCheckpointRow.treeSize = List.range' 1 n) :
    (rows.argmax PolicyCheckpointRow.treeSize).map PolicyCheckpointRow.checkpointId =
      lastId none rows := by
  induction rows using List.reverseRecOn generalizing n with
  | nil => rfl
  | append_singleton init row ih =>
    have hn : n = init.length + 1 := by
      have := congrArg List.length sizes
      simpa using this.symm
    subst hn
    rw [List.range'_concat, List.map_append, List.map_singleton] at sizes
    obtain ⟨hinit, hlast⟩ := List.append_inj' sizes rfl
    have hrow : row.treeSize = 1 + 1 * init.length := by simpa using hlast
    have hmax : (init ++ [row]).argmax PolicyCheckpointRow.treeSize = some row := by
      rw [List.argmax_concat]
      cases hprevious : init.argmax PolicyCheckpointRow.treeSize with
      | none => rfl
      | some other =>
        have hmem : other.treeSize ∈ init.map PolicyCheckpointRow.treeSize :=
          List.mem_map_of_mem (List.argmax_mem hprevious)
        rw [hinit, List.mem_range'_1] at hmem
        exact if_pos (by omega)
    rw [hmax, lastId_append_singleton]
    rfl

variable {ports : WitnessPorts}

theorem PolicyLog.previousCheckpoint {db : PolicyDb} (log : PolicyLog ports db) :
    (previousCheckpoint db).map PolicyCheckpointRow.checkpointId =
      lastId none (policyRows db) := by
  have hrows : (db.checkpoints.filter fun row =>
      decide (0 < row.treeSize ∧ row.signerKeyId = policyLogSignerKeyId)) = policyRows db := by
    apply List.filter_congr
    intro row hrow
    by_cases hsigner : row.signerKeyId = policyLogSignerKeyId
    · have hmem : row.treeSize ∈ (policyRows db).map PolicyCheckpointRow.treeSize :=
        List.mem_map_of_mem (List.mem_filter.mpr ⟨hrow, by simpa using hsigner⟩)
      rw [log.sizes, List.mem_range'_1] at hmem
      simp [hsigner]
      omega
    · simp [hsigner]
  rw [PolicyWitnessSync.previousCheckpoint, hrows]
  exact argmax_of_sizes log.sizes

private theorem PolicyLog.extend {db written : PolicyDb} (log : PolicyLog ports db)
    {row : PolicyCheckpointRow} (htable : written.checkpoints = db.checkpoints ++ [row])
    (hleaves : written.leaves.length = db.leaves.length + 1)
    (hsigner : row.signerKeyId = policyLogSignerKeyId)
    (hsize : row.treeSize = db.leaves.length + 1)
    (hprevious : row.previousCheckpointId = lastId none (policyRows db))
    (hfree : ∀ other ∈ db.checkpoints, other.checkpointId ≠ row.checkpointId)
    (hstored : ports.castUuid row.checkpointId = some row.checkpointId) :
    policyRows written = policyRows db ++ [row] ∧ PolicyLog ports written := by
  have hrows : policyRows written = policyRows db ++ [row] := by
    simp [policyRows, htable, hsigner]
  refine ⟨hrows, ?_, ?_, ?_, ?_⟩
  · rw [hrows, hleaves, List.map_append, log.sizes, List.range'_concat, List.map_singleton, hsize]
    simp [Nat.add_comm]
  · rw [hrows, linearChain_append]
    exact ⟨log.linear, hprevious, trivial⟩
  · rw [htable, List.map_append, List.map_singleton, List.nodup_append]
    refine ⟨log.ids, List.nodup_singleton _, ?_⟩
    intro id hid other hother
    obtain ⟨before, hbefore, rfl⟩ := List.mem_map.mp hid
    rw [List.mem_singleton.mp hother]
    exact hfree before hbefore
  · intro other hother
    rw [hrows] at hother
    rcases List.mem_append.mp hother with hold | hnew
    · exact log.stored other hold
    · rw [List.mem_singleton.mp hnew]
      exact hstored

theorem issuePolicyHead_eq_ok {head : IssuedHead} {db written : PolicyDb} {u : Unit}
    (log : PolicyLog ports db) (h : issuePolicyHead ports head db = .ok (u, written)) :
    ∃ row, policyRows written = policyRows db ++ [row] ∧
      row.witnessKeyId = witnessPendingKeyId ∧ PolicyLog ports written := by
  simp only [issuePolicyHead, insertPolicyCheckpoint, Tx.modify_bind, Tx.get_bind,
    Tx.require_bind_eq_ok, Tx.lift_bind_eq_ok, Tx.modify_eq_ok] at h
  obtain ⟨-, -, -, checkpointId, hcast, -, -, hfree, hwritten⟩ := h
  have hstored : ports.castUuid head.checkpointId = some checkpointId := by
    cases hid : ports.castUuid head.checkpointId with
    | none =>
      rw [hid] at hcast
      cases hcast
    | some text =>
      rw [hid] at hcast
      rw [Except.ok.inj hcast]
  have hids := ports.castUuid_idem _ _ hstored
  have hextend := log.extend (congrArg PolicyDb.checkpoints hwritten)
    (by rw [hwritten, List.length_append, List.length_singleton]) rfl rfl log.previousCheckpoint
    hfree hids
  exact ⟨_, hextend.1, rfl, hextend.2⟩

theorem provisionCheckpoint_eq_ok {checkpointId : String} {db written : PolicyDb} {u : Unit}
    (log : PolicyLog ports db) (h : provisionCheckpoint checkpointId db = .ok (u, written)) :
    policyRows written = policyRows db ∧ PolicyLog ports written := by
  unfold provisionCheckpoint at h
  rw [Tx.get_bind] at h
  split_ifs at h with hfree
  · rw [Tx.modify_eq_ok] at h
    have hrows : policyRows written = policyRows db := by
      rw [h]
      simp [policyRows, policyLogUnwitnessedKeyId, policyLogSignerKeyId]
    refine ⟨hrows, ?_, ?_, ?_, ?_⟩
    · rw [hrows, log.sizes, h]
    · rw [hrows]
      exact log.linear
    · rw [h, List.map_append, List.map_singleton, List.nodup_append]
      refine ⟨log.ids, List.nodup_singleton _, ?_⟩
      intro id hid other hother
      obtain ⟨before, hbefore, rfl⟩ := List.mem_map.mp hid
      rw [List.mem_singleton.mp hother]
      exact hfree before hbefore
    · rw [hrows]
      exact log.stored
  · obtain ⟨-, rfl⟩ := Tx.pure_eq_ok.mp h
    exact ⟨rfl, log⟩

def policyHead (db : WitnessDb) : Option String := (db.chainHeads .policy).lastUpstreamCheckpointId

/-- The policy log is a witnessed prefix up to the head of the witness, then the rows of
the running pass, then what was issued since; nobody has been accused. -/
structure Synced (ports : WitnessPorts) (batch : List PolicyCheckpointRow) (world : SyncWorld) :
    Prop where
  log : PolicyLog ports world.policy
  split : ∃ done rest, policyRows world.policy = done ++ (batch ++ rest) ∧
    (∀ row ∈ done, row.witnessKeyId ≠ witnessPendingKeyId) ∧
    (∀ row ∈ batch ++ rest, row.witnessKeyId = witnessPendingKeyId) ∧
    policyHead world.witness = lastId none done
  unaccused : ¬ Accused world

theorem Synced.release {batch : List PolicyCheckpointRow} {world : SyncWorld}
    (synced : Synced ports batch world) : Synced ports [] world := by
  obtain ⟨done, rest, hrows, hdone, hpending, hhead⟩ := synced.split
  exact ⟨synced.log, ⟨done, batch ++ rest, by simpa using hrows, hdone, by simpa using hpending,
    hhead⟩, synced.unaccused⟩

theorem policyHead_otherCall {db : WitnessDb} {call : WitnessCall}
    (other : ∀ now checkpointId input, call ≠ .chain now checkpointId .policy input) :
    policyHead (answerCall ports db call).2 = policyHead db := by
  refine @sqlBegin_keeps _ _ _ _ _ (fun written => policyHead written = policyHead db) rfl ?_
  intro answer written h
  cases call with
  | delivery now checkpointId input =>
    obtain ⟨result, hcall, rfl⟩ := Tx.map_eq_ok.mp h
    by_cases hrefused : ∀ receipt, result ≠ .witnessed receipt
    · rw [extendDelivery_refused hcall hrefused]
    · push Not at hrefused
      obtain ⟨receipt, rfl⟩ := hrefused
      obtain ⟨-, position, previousHead, head, -, -, rfl⟩ :=
        extendDelivery_witnessed_iff.mp hcall
      rfl
  | chain now checkpointId ns input =>
    cases ns with
    | policy => exact absurd rfl (other now checkpointId input)
    | directory =>
      obtain ⟨result, hcall, rfl⟩ := Tx.map_eq_ok.mp h
      cases result with
      | witnessed receipt =>
        obtain ⟨-, -, upstream, -, -, rfl⟩ := extendChain_witnessed_iff.mp hcall
        simp [policyHead, chainExtended, ChainNamespace.toNamespace]
      | equivocation expected submitted =>
        obtain ⟨-, -, -, rfl⟩ := extendChain_equivocation_iff.mp hcall
        rfl
      | rejected reasonCode => exact absurd hcall extendChain_not_rejected

theorem Synced.meanwhile {batch : List PolicyCheckpointRow} {world : SyncWorld}
    (synced : Synced ports batch world) (other : Meanwhile) :
    Synced ports batch (meanwhileStep ports world other) := by
  obtain ⟨done, rest, hrows, hdone, hpending, hhead⟩ := synced.split
  cases other with
  | issue head =>
    rcases sqlBegin_cases (issuePolicyHead ports head) world.policy with
      ⟨u, written, htx, hrun⟩ | ⟨failure, -, hrun⟩
    · obtain ⟨row, hissued, hrow, log⟩ := issuePolicyHead_eq_ok synced.log htx
      simp only [meanwhileStep, hrun]
      refine ⟨log, ⟨done, rest ++ [row], ?_, hdone, ?_, hhead⟩, synced.unaccused⟩
      · rw [hissued, hrows]
        simp
      · intro r hr
        rw [← List.append_assoc] at hr
        rcases List.mem_append.mp hr with hold | hnew
        · exact hpending r hold
        · rw [List.mem_singleton.mp hnew]
          exact hrow
    · simp only [meanwhileStep, hrun]
      exact synced
  | provision checkpointId =>
    rcases sqlBegin_cases (provisionCheckpoint checkpointId) world.policy with
      ⟨u, written, htx, hrun⟩ | ⟨failure, -, hrun⟩
    · obtain ⟨hsame, log⟩ := provisionCheckpoint_eq_ok synced.log htx
      simp only [meanwhileStep, hrun]
      exact ⟨log, ⟨done, rest, hsame.trans hrows, hdone, hpending, hhead⟩, synced.unaccused⟩
    · simp only [meanwhileStep, hrun]
      exact synced
  | deliveryCall now checkpointId input =>
    refine ⟨synced.log, ⟨done, rest, hrows, hdone, hpending, ?_⟩, synced.unaccused⟩
    exact (policyHead_otherCall (by simp)).trans hhead
  | directoryCall now checkpointId input =>
    refine ⟨synced.log, ⟨done, rest, hrows, hdone, hpending, ?_⟩, synced.unaccused⟩
    exact (policyHead_otherCall (by simp)).trans hhead

theorem Synced.meanwhiles {batch : List PolicyCheckpointRow} {world : SyncWorld}
    (synced : Synced ports batch world) (others : List Meanwhile) :
    Synced ports batch (others.foldl (meanwhileStep ports) world) := by
  induction others generalizing world with
  | nil => exact synced
  | cons other others ih => exact ih (synced.meanwhile other)

theorem Synced.previous_eq {row : PolicyCheckpointRow} {rows : List PolicyCheckpointRow}
    {world : SyncWorld} (synced : Synced ports (row :: rows) world) :
    policyHead world.witness = row.previousCheckpointId := by
  obtain ⟨done, rest, hrows, -, -, hhead⟩ := synced.split
  have hlinear := synced.log.linear
  rw [hrows, linearChain_append] at hlinear
  rw [hhead]
  exact hlinear.2.1.symm

theorem not_accused_append {world : SyncWorld} {answer : Except Failure ChainExtensionResult}
    (unaccused : ¬ Accused world)
    (honest : ∀ expected previous, answer ≠ .ok (.equivocation expected previous)) (w : WitnessDb)
    (p : PolicyDb) : ¬ Accused ⟨p, w, world.answers ++ [answer]⟩ := by
  rintro ⟨expected, previous, hmem⟩
  rcases List.mem_append.mp hmem with hold | hnew
  · exact unaccused ⟨expected, previous, hold⟩
  · exact honest expected previous (List.mem_singleton.mp hnew).symm

theorem Synced.submit {row : PolicyCheckpointRow} {rows : List PolicyCheckpointRow}
    {world : SyncWorld} (synced : Synced ports (row :: rows) world) (now checkpointId : String) :
    (∃ receipt, (submitChain ports world now checkpointId row).1 = .ok (.witnessed receipt) ∧
        receipt.witnessKeyId = ports.witnessKeyId ∧
        policyHead (submitChain ports world now checkpointId row).2.witness =
          some row.checkpointId) ∨
      (∃ failure, (submitChain ports world now checkpointId row).1 = .error failure ∧
        Synced ports (row :: rows) (submitChain ports world now checkpointId row).2) := by
  have hstored : ports.castUuid row.checkpointId = some row.checkpointId := by
    obtain ⟨done, rest, hrows, -⟩ := synced.split
    exact synced.log.stored row (by rw [hrows]; simp)
  unfold submitChain
  rcases sqlBegin_cases (extendChain ports now checkpointId .policy (chainSubmission row))
      world.witness with ⟨result, written, htx, hrun⟩ | ⟨failure, -, hrun⟩
  · rw [hrun]
    cases result with
    | witnessed receipt =>
      obtain ⟨-, -, upstream, hupstream, rfl, rfl⟩ := extendChain_witnessed_iff.mp htx
      refine Or.inl ⟨_, rfl, rfl, ?_⟩
      have hid : upstream = row.checkpointId := Option.some.inj (hupstream.symm.trans hstored)
      simp [policyHead, chainExtended, ChainNamespace.toNamespace, hid]
    | equivocation expected submitted =>
      obtain ⟨hne, -⟩ := extendChain_equivocation_iff.mp htx
      exact absurd synced.previous_eq hne
    | rejected reasonCode => exact absurd htx extendChain_not_rejected
  · rw [hrun]
    refine Or.inr ⟨failure, rfl, synced.log, synced.split, ?_⟩
    exact not_accused_append synced.unaccused (fun _ _ h => by cases h) _ _

def markRow (checkpointId : String) (receipt : WitnessCheckpoint) (row : PolicyCheckpointRow) :
    PolicyCheckpointRow :=
  if row.checkpointId = checkpointId then
    { row with witnessKeyId := receipt.witnessKeyId
               witnessSignature := Base64Url.decode receipt.witnessSignature }
  else row

section

variable (checkpointId : String) (receipt : WitnessCheckpoint) (row : PolicyCheckpointRow)

@[simp] theorem markRow_checkpointId :
    (markRow checkpointId receipt row).checkpointId = row.checkpointId := by
  unfold markRow
  split <;> rfl

@[simp] theorem markRow_treeSize :
    (markRow checkpointId receipt row).treeSize = row.treeSize := by
  unfold markRow
  split <;> rfl

@[simp] theorem markRow_previousCheckpointId :
    (markRow checkpointId receipt row).previousCheckpointId = row.previousCheckpointId := by
  unfold markRow
  split <;> rfl

@[simp] theorem markRow_signerKeyId :
    (markRow checkpointId receipt row).signerKeyId = row.signerKeyId := by
  unfold markRow
  split <;> rfl

end

theorem linearChain_map_markRow {checkpointId : String} {receipt : WitnessCheckpoint}
    {previous : Option String} {rows : List PolicyCheckpointRow} :
    LinearChain previous (rows.map (markRow checkpointId receipt)) ↔ LinearChain previous rows := by
  induction rows generalizing previous with
  | nil => rfl
  | cons row rows ih => simp [LinearChain, ih]

theorem policyRows_recordReceipt (H : HashFunction) (row : PolicyCheckpointRow)
    (receipt : WitnessCheckpoint) (db : PolicyDb) :
    policyRows (recordReceipt H row receipt db).2 =
      (policyRows db).map (markRow row.checkpointId receipt) := by
  change (db.checkpoints.map (markRow row.checkpointId receipt)).filter _ = _
  rw [List.filter_map]
  simp [policyRows, Function.comp_def]

theorem PolicyLog.recordReceipt {db : PolicyDb} (log : PolicyLog ports db)
    (row : PolicyCheckpointRow) (receipt : WitnessCheckpoint) :
    PolicyLog ports (recordReceipt ports.sha256 row receipt db).2 := by
  have hrows := policyRows_recordReceipt ports.sha256 row receipt db
  refine ⟨?_, ?_, ?_, ?_⟩
  · have hleaves : (PolicyWitnessSync.recordReceipt ports.sha256 row receipt db).2.leaves =
        db.leaves := rfl
    rw [hrows, List.map_map, hleaves, ← log.sizes]
    simp [Function.comp_def]
  · rw [hrows, linearChain_map_markRow]
    exact log.linear
  · change ((db.checkpoints.map (markRow row.checkpointId receipt)).map
      PolicyCheckpointRow.checkpointId).Nodup
    rw [List.map_map]
    simpa [Function.comp_def] using log.ids
  · intro other hother
    rw [hrows] at hother
    obtain ⟨before, hbefore, rfl⟩ := List.mem_map.mp hother
    simpa using log.stored before hbefore

theorem map_markRow_split {row : PolicyCheckpointRow} {receipt : WitnessCheckpoint}
    {done rest : List PolicyCheckpointRow}
    (ids : ((done ++ row :: rest).map PolicyCheckpointRow.checkpointId).Nodup) :
    (done ++ row :: rest).map (markRow row.checkpointId receipt) =
      done ++ markRow row.checkpointId receipt row :: rest := by
  have hsame : ∀ rows : List PolicyCheckpointRow,
      row.checkpointId ∉ rows.map PolicyCheckpointRow.checkpointId →
      rows.map (markRow row.checkpointId receipt) = rows := by
    intro rows hnot
    conv_rhs => rw [← List.map_id rows]
    apply List.map_congr_left
    intro other hother
    have hne : other.checkpointId ≠ row.checkpointId := by
      intro heq
      apply hnot
      rw [← heq]
      exact List.mem_map_of_mem hother
    exact if_neg hne
  rw [List.map_append, List.map_cons, List.nodup_append, List.nodup_cons] at ids
  obtain ⟨-, ⟨hrest, -⟩, hdone⟩ := ids
  rw [List.map_append, List.map_cons, hsame rest hrest, hsame done]
  intro hmem
  exact hdone _ hmem _ (List.mem_cons_self ..) rfl

theorem Synced.record {row : PolicyCheckpointRow} {rows : List PolicyCheckpointRow}
    {world : SyncWorld} (synced : Synced ports (row :: rows) world) {receipt : WitnessCheckpoint}
    (hkey : receipt.witnessKeyId ≠ witnessPendingKeyId) {witness : WitnessDb}
    (hhead : policyHead witness = some row.checkpointId) :
    Synced ports rows ⟨(recordReceipt ports.sha256 row receipt world.policy).2, witness,
      world.answers ++ [.ok (.witnessed receipt)]⟩ := by
  obtain ⟨done, rest, hrows, hdone, hpending, -⟩ := synced.split
  have hids : ((policyRows world.policy).map PolicyCheckpointRow.checkpointId).Nodup :=
    synced.log.ids.sublist (List.Sublist.map _ List.filter_sublist)
  rw [hrows, List.cons_append] at hids
  refine ⟨synced.log.recordReceipt row receipt,
    ⟨done ++ [markRow row.checkpointId receipt row], rest, ?_, ?_, ?_, ?_⟩, ?_⟩
  · rw [policyRows_recordReceipt, hrows, List.cons_append, map_markRow_split hids]
    simp
  · intro other hother
    rcases List.mem_append.mp hother with hold | hnew
    · exact hdone other hold
    · rw [List.mem_singleton.mp hnew]
      simpa [markRow] using hkey
  · exact fun other hother => hpending other (List.mem_cons_of_mem _ hother)
  · rw [lastId_append_singleton, hhead]
    simp
  · exact not_accused_append synced.unaccused (fun _ _ h => by simp at h) _ _

/-- No answer of the witness and no recording of a receipt is lost. -/
def Attempt.Kept (attempt : Attempt) : Prop :=
  attempt.fault = .none ∨ attempt.fault = .requestLost

theorem Synced.syncRows {rows : List PolicyCheckpointRow} {world : SyncWorld}
    (hkey : ports.witnessKeyId ≠ witnessPendingKeyId) (synced : Synced ports rows world)
    {attempts : List Attempt} (kept : ∀ attempt ∈ attempts, Attempt.Kept attempt)
    (witnessed headsVerified : Nat) :
    Synced ports [] (syncRows ports rows attempts world witnessed headsVerified).2 := by
  induction rows generalizing attempts world witnessed headsVerified with
  | nil =>
    rw [PolicyWitnessSync.syncRows]
    exact synced
  | cons row rows ih =>
    cases attempts with
    | nil =>
      rw [PolicyWitnessSync.syncRows]
      exact synced.release
    | cons attempt attempts =>
      have hothers := synced.meanwhiles attempt.meanwhile
      have hsubmit := hothers.submit attempt.now attempt.checkpointId
      rw [PolicyWitnessSync.syncRows]
      rcases kept attempt (List.mem_cons_self ..) with hnone | hlost
      · simp only [hnone, reduceCtorEq, if_false]
        rcases hsubmit with ⟨receipt, hanswer, hreceipt, hhead⟩ | ⟨failure, hanswer, hfailed⟩
        · simp only [hanswer]
          have hrecord := hothers.record (hreceipt ▸ hkey) hhead
          apply ih _ (fun other hother => kept other (List.mem_cons_of_mem _ hother))
          rw [← hanswer] at hrecord
          exact hrecord
        · simp only [hanswer]
          exact hfailed.release
      · simp only [hlost, if_true]
        exact hothers.release

private theorem insertionSort_of_sizes {rows : List PolicyCheckpointRow} {start n : Nat}
    (sizes : rows.map PolicyCheckpointRow.treeSize = List.range' start n) :
    (rows.insertionSort fun a b => a.treeSize ≤ b.treeSize) = rows := by
  apply List.Pairwise.insertionSort_eq
  rw [← List.pairwise_map (f := PolicyCheckpointRow.treeSize) (R := (· ≤ ·)), sizes]
  exact (List.pairwise_lt_range').imp Nat.le_of_lt

theorem Synced.start {world : SyncWorld} (synced : Synced ports [] world) :
    Synced ports (pendingCheckpoints world.policy) world := by
  obtain ⟨done, rest, hrows, hdone, hpending, hhead⟩ := synced.split
  rw [List.nil_append] at hrows hpending
  have hfilter : (world.policy.checkpoints.filter fun row =>
      decide (row.signerKeyId = policyLogSignerKeyId ∧
        row.witnessKeyId = witnessPendingKeyId)) = rest := by
    have hsplit : (policyRows world.policy).filter
        (fun row => decide (row.witnessKeyId = witnessPendingKeyId)) = rest := by
      rw [hrows, List.filter_append, List.filter_eq_nil_iff.mpr (by simpa using hdone),
        List.filter_eq_self.mpr (by simpa using hpending), List.nil_append]
    rw [← hsplit, policyRows, List.filter_filter]
    apply List.filter_congr
    intro row hrow
    simp [Bool.and_comm]
  have hsizes : rest.map PolicyCheckpointRow.treeSize =
      List.range' (1 + done.length) (world.policy.leaves.length - done.length) := by
    have hall := synced.log.sizes
    rw [hrows, List.map_append] at hall
    have hdrop := congrArg (List.drop done.length) hall
    rw [List.drop_left' (by simp), List.drop_range'] at hdrop
    simpa using hdrop
  have hbatch : pendingCheckpoints world.policy = rest.take 100 := by
    rw [pendingCheckpoints, hfilter, insertionSort_of_sizes hsizes]
  refine ⟨synced.log, ⟨done, rest.drop 100, ?_, hdone, ?_, hhead⟩, synced.unaccused⟩
  · rw [hbatch, List.take_append_drop, hrows]
  · rw [hbatch, List.take_append_drop]
    exact hpending

/-- Every attempt of every pass keeps the answers it gets. -/
def SyncStep.Kept : SyncStep → Prop
  | .meanwhile _ => True
  | .pass _ attempts => ∀ attempt ∈ attempts, Attempt.Kept attempt

theorem Synced.syncStep {world : SyncWorld} (hkey : ports.witnessKeyId ≠ witnessPendingKeyId)
    (synced : Synced ports [] world) {step : SyncStep} (kept : SyncStep.Kept step) :
    Synced ports [] (syncStep ports world step) := by
  cases step with
  | meanwhile other => exact synced.meanwhile other
  | pass renewals attempts =>
    exact (synced.meanwhiles (renewals.map Meanwhile.issue)).start.syncRows hkey kept 0 0

theorem Synced.initial (now : String) (submitterKeys : List SubmitterKeyRow) :
    Synced ports [] (SyncWorld.initial now submitterKeys) where
  log := ⟨rfl, trivial, List.nodup_nil, by simp [policyRows, SyncWorld.initial, PolicyDb.empty]⟩
  split := ⟨[], [], rfl, by simp, by simp, rfl⟩
  unaccused := by
    rintro ⟨expected, previous, hmem⟩
    cases hmem

theorem Synced.runSync {world : SyncWorld} (hkey : ports.witnessKeyId ≠ witnessPendingKeyId)
    (synced : Synced ports [] world) {steps : List SyncStep}
    (kept : ∀ step ∈ steps, SyncStep.Kept step) : Synced ports [] (runSync ports world steps) := by
  induction steps generalizing world with
  | nil => exact synced
  | cons step steps ih =>
    exact ih (synced.syncStep hkey (kept step (List.mem_cons_self ..)))
      (fun other hother => kept other (List.mem_cons_of_mem _ hother))

/-- In every run in which no answer of the witness and no recording of a receipt is lost,
no policy submission is ever answered by an equivocation. -/
theorem runSync_not_accused (ports : WitnessPorts)
    (hkey : ports.witnessKeyId ≠ witnessPendingKeyId) (now : String)
    (submitterKeys : List SubmitterKeyRow) (steps : List SyncStep)
    (kept : ∀ step ∈ steps, SyncStep.Kept step) :
    ¬ Accused (runSync ports (SyncWorld.initial now submitterKeys) steps) :=
  ((Synced.initial now submitterKeys).runSync hkey kept).unaccused

def samplePorts : WitnessPorts where
  sha256 := sampleHash
  witnessKeyId := "witness-1"
  sign _ := List.replicate 64 0
  verifyEd25519 _ _ _ := true
  castTimestamptz _ := some 0
  castUuid text := if isUuidV4 text then some text else none
  castUuid_idem := by
    intro text stored h
    split_ifs at h with hok
    rw [← Option.some.inj h, if_pos hok]

def sampleHead : IssuedHead where
  conversationId := "00000000-0000-4000-8000-000000000001"
  policyHeadId := "00000000-0000-4000-8000-000000000002"
  headHash := sampleLeaf 1
  evidence := sampleLeaf 2
  checkpointId := "00000000-0000-4000-8000-000000000003"

def sampleCheckpointId : String := "00000000-0000-4000-8000-000000000004"

def sampleAttempt (fault : Fault) : Attempt := ⟨[], "now", sampleCheckpointId, fault⟩

def lostAnswerRun : List SyncStep :=
  [.meanwhile (.issue sampleHead), .pass [] [sampleAttempt .responseLost],
    .pass [] [sampleAttempt .none]]

def isEquivocation : Except Failure ChainExtensionResult → Bool
  | .ok (.equivocation _ _) => true
  | _ => false

/-- Not every run is free of accusations: the honest submitter of `lostAnswerRun` is
accused by its own second pass. -/
theorem lostAnswerRun_accused :
    ¬ ∀ (ports : WitnessPorts) (now : String) (submitterKeys : List SubmitterKeyRow)
      (steps : List SyncStep),
      ¬ Accused (runSync ports (SyncWorld.initial now submitterKeys) steps) := by
  intro claim
  have hears : ((runSync samplePorts (SyncWorld.initial "now" []) lostAnswerRun).answers.any
      isEquivocation) = true := by
    decide +kernel
  obtain ⟨answer, hmem, h⟩ := List.any_eq_true.mp hears
  unfold isEquivocation at h
  split at h
  · exact claim samplePorts "now" [] lostAnswerRun ⟨_, _, hmem⟩
  · cases h

/-- The same run with the request lost instead of the answer. -/
theorem runSync_not_accused_lost_request :
    ¬ Accused (runSync samplePorts (SyncWorld.initial "now" [])
      [.meanwhile (.issue sampleHead), .pass [] [sampleAttempt .requestLost],
        .pass [] [sampleAttempt .none]]) := by
  apply runSync_not_accused samplePorts (by decide) "now" []
  intro step hstep
  simp only [List.mem_cons, List.not_mem_nil, or_false] at hstep
  rcases hstep with rfl | rfl | rfl
  · trivial
  · simp [SyncStep.Kept, Attempt.Kept, sampleAttempt]
  · simp [SyncStep.Kept, Attempt.Kept, sampleAttempt]

end JbChat.Witness.PolicyWitnessSafety
