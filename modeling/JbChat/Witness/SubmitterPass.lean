/- source: src/production/witness/submitter.ts
   digest: What a whole submission pass keeps, what it advances, and that it can be run. -/

import JbChat.Witness.SubmitterRow
import Mathlib.Data.Fintype.EquivFin

set_option autoImplicit false

namespace JbChat.Witness.SubmitterPass

open Foundation.GapFree Delivery.ValueObjects WitnessCore WitnessCalls Submitter SubmitterRow

variable {ports : WitnessPorts} {db after : JointDb} {row : EnvelopeRow} {rows : List EnvelopeRow}
  {attempts : List Attempt} {pass done : PassState}

/-- The rows still to come are stored, and those of a conversation that is not blocked
continue its receipts. -/
structure Ready (blocked : List String) (db : JointDb) (rows : List EnvelopeRow) : Prop where
  stored : ∀ row ∈ rows, row ∈ db.delivery.envelopes
  next : ∀ conversationId ∉ blocked,
    (keyed EnvelopeRow.conversationId conversationId rows).map EnvelopeRow.position =
      List.range' (receiptCount db conversationId + 1)
        (keyed EnvelopeRow.conversationId conversationId rows).length

theorem keyed_cons_self (row : EnvelopeRow) (rows : List EnvelopeRow) :
    keyed EnvelopeRow.conversationId row.conversationId (row :: rows) =
      row :: keyed EnvelopeRow.conversationId row.conversationId rows := by
  simp [keyed]

theorem keyed_cons_other {conversationId : String} (h : row.conversationId ≠ conversationId) :
    keyed EnvelopeRow.conversationId conversationId (row :: rows) =
      keyed EnvelopeRow.conversationId conversationId rows := by
  simp [keyed, h]

section

variable {blocked : List String}

theorem Ready.head_stored (ready : Ready blocked db (row :: rows)) :
    row ∈ db.delivery.envelopes :=
  ready.stored row (by simp)

theorem Ready.head_next (ready : Ready blocked db (row :: rows))
    (unblocked : row.conversationId ∉ blocked) :
    row.position = receiptCount db row.conversationId + 1 := by
  have hnext := ready.next row.conversationId unblocked
  rw [keyed_cons_self, List.map_cons, List.length_cons, List.range'_succ] at hnext
  exact (List.cons.inj hnext).1

theorem Ready.skip (ready : Ready blocked db (row :: rows)) {larger : List String}
    (sub : blocked ⊆ larger) (mem : row.conversationId ∈ larger) : Ready larger db rows where
  stored other hother := ready.stored other (List.mem_cons_of_mem _ hother)
  next := by
    intro conversationId hopen
    have hne : row.conversationId ≠ conversationId := by
      rintro rfl
      exact hopen mem
    have hnext := ready.next conversationId (fun h => hopen (sub h))
    rwa [keyed_cons_other hne] at hnext

theorem Ready.receipted (ready : Ready blocked db (row :: rows)) {attempt : Attempt} :
    Ready blocked (receiptedDb ports attempt row db) rows where
  stored other hother := ready.stored other (List.mem_cons_of_mem _ hother)
  next := by
    intro conversationId hopen
    have hnext := ready.next conversationId hopen
    have hconversation : (rowReceipt ports attempt row db).conversationId = row.conversationId :=
      rfl
    rw [receiptedDb, receiptCount_storedDb, receiptCount_witnessedDb, hconversation]
    by_cases h : row.conversationId = conversationId
    · subst h
      rw [keyed_cons_self, List.map_cons, List.length_cons, List.range'_succ] at hnext
      rw [if_pos rfl]
      exact (List.cons.inj hnext).2
    · rw [keyed_cons_other h] at hnext
      rw [if_neg h]
      exact hnext

end

theorem receipted_joint {attempt : Attempt} (inv : JointInvariant ports db)
    (hrow : row ∈ db.delivery.envelopes)
    (hnext : row.position = receiptCount db row.conversationId + 1)
    (accepted : Accepted ports attempt row db) :
    JointInvariant ports (receiptedDb ports attempt row db) := by
  have hconversation : (rowReceipt ports attempt row db).conversationId = row.conversationId := rfl
  refine (inv.witnessed hrow accepted.extension accepted.current.le).stored ?_ rfl ?_
  · rw [rowReceipt_position, hconversation, receiptCount_witnessedDb, hnext]
  · rw [hconversation, receiptCount_witnessedDb, headCount_witnessedDb, if_pos rfl,
      accepted.current]
    exact Nat.lt_succ_self _

theorem submitRows_keeps (inv : JointInvariant ports db)
    (ready : Ready pass.blockedConversations db rows) :
    JointInvariant ports (submitRows ports rows attempts pass db).2 ∧
      (submitRows ports rows attempts pass db).2.delivery.envelopes = db.delivery.envelopes := by
  induction rows generalizing attempts pass db with
  | nil => exact ⟨inv, rfl⟩
  | cons row rows ih =>
    unfold submitRows
    split_ifs with hblocked
    · exact ih inv (ready.skip (List.Subset.refl _) hblocked)
    · cases attempts with
      | nil => exact ⟨inv, rfl⟩
      | cons attempt attempts =>
        have hrow := ready.head_stored
        have hnext := ready.head_next hblocked
        rcases inv.submitRow_cases attempt hrow hnext with
          hthrown | ⟨accepted, hthrown | hreceipted⟩ | ⟨-, outcome, hrefused⟩
        · simp only [hthrown, and_true]
          exact inv
        · simp only [hthrown]
          exact ⟨inv.witnessed hrow accepted.extension accepted.current.le, rfl⟩
        · simp only [hreceipted]
          exact ih (receipted_joint inv hrow hnext accepted) ready.receipted
        · simp only [hrefused]
          exact ih inv (ready.skip (List.subset_cons_self _ _) List.mem_cons_self)

theorem signed_iff (keys : after.witness.submitterKeys = db.witness.submitterKeys)
    (row : EnvelopeRow) : Signed ports after row ↔ Signed ports db row := by
  unfold Signed SignedBySubmitter submitterKeysAt
  rw [keys]

/-- What a pass that returns has done: receipts and heads of a conversation advance
together, over signed rows and only when no receipt was outstanding. -/
structure Advance (ports : WitnessPorts) (db after : JointDb) : Prop where
  joint : JointInvariant ports after
  envelopes : after.delivery.envelopes = db.delivery.envelopes
  keys : after.witness.submitterKeys = db.witness.submitterKeys
  together : ∀ conversationId, ∃ steps,
    receiptCount after conversationId = receiptCount db conversationId + steps ∧
    headCount after conversationId = headCount db conversationId + steps ∧
    (0 < steps → headCount db conversationId = receiptCount db conversationId)
  signed : ∀ row ∈ db.delivery.envelopes, receiptCount db row.conversationId < row.position →
    row.position ≤ receiptCount after row.conversationId → Signed ports db row

theorem Advance.refl (inv : JointInvariant ports db) : Advance ports db db where
  joint := inv
  envelopes := rfl
  keys := rfl
  together _ := ⟨0, rfl, rfl, fun h => absurd h (Nat.lt_irrefl 0)⟩
  signed _ _ hlow hhigh := absurd hlow (Nat.not_lt.mpr hhigh)

theorem Advance.receipts_mono (advance : Advance ports db after) (conversationId : String) :
    receiptCount db conversationId ≤ receiptCount after conversationId := by
  obtain ⟨steps, hreceipts, -, -⟩ := advance.together conversationId
  omega

theorem Advance.trans {middle : JointDb} (first : Advance ports db middle)
    (second : Advance ports middle after) : Advance ports db after where
  joint := second.joint
  envelopes := second.envelopes.trans first.envelopes
  keys := second.keys.trans first.keys
  together := by
    intro conversationId
    obtain ⟨steps, hreceipts, hheads, hcurrent⟩ := first.together conversationId
    obtain ⟨more, hreceipts', hheads', hcurrent'⟩ := second.together conversationId
    refine ⟨steps + more, by omega, by omega, ?_⟩
    intro hpositive
    rcases Nat.eq_zero_or_pos steps with hzero | hsteps
    · have hmore := hcurrent' (by omega)
      omega
    · exact hcurrent hsteps
  signed := by
    intro row hrow hlow hhigh
    by_cases h : row.position ≤ receiptCount middle row.conversationId
    · exact first.signed row hrow hlow h
    · rw [← signed_iff first.keys]
      exact second.signed row (by rw [first.envelopes]; exact hrow) (Nat.lt_of_not_le h) hhigh

theorem Advance.receipted {attempt : Attempt} (inv : JointInvariant ports db)
    (hrow : row ∈ db.delivery.envelopes)
    (hnext : row.position = receiptCount db row.conversationId + 1)
    (accepted : Accepted ports attempt row db) :
    Advance ports db (receiptedDb ports attempt row db) where
  joint := receipted_joint inv hrow hnext accepted
  envelopes := rfl
  keys := rfl
  together := by
    intro conversationId
    have hconversation : (rowReceipt ports attempt row db).conversationId = row.conversationId :=
      rfl
    refine ⟨if row.conversationId = conversationId then 1 else 0, ?_, ?_, ?_⟩
    · rw [receiptedDb, receiptCount_storedDb, receiptCount_witnessedDb, hconversation]
    · rw [receiptedDb, headCount_storedDb, headCount_witnessedDb]
    · intro hpositive
      split_ifs at hpositive with h
      · rw [← h]
        exact accepted.current
      · cases hpositive
  signed := by
    intro other hother hlow hhigh
    have hconversation : (rowReceipt ports attempt row db).conversationId = row.conversationId :=
      rfl
    rw [receiptedDb, receiptCount_storedDb, receiptCount_witnessedDb, hconversation] at hhigh
    split_ifs at hhigh with h
    · obtain rfl : other = row := by
        apply inv.envelopes.unique hrow hother h.symm
        rw [← h] at hlow hhigh
        omega
      exact accepted.signed
    · omega

/-- Beyond the advance: a conversation without rows in the batch stays, and the first row
of a conversation that the witness can accept gets its receipt. -/
structure PassEffect (ports : WitnessPorts) (blocked : List String) (rows : List EnvelopeRow)
    (db after : JointDb) : Prop where
  advance : Advance ports db after
  idle : ∀ conversationId, (∀ row ∈ rows, row.conversationId ≠ conversationId) →
    receiptCount after conversationId = receiptCount db conversationId
  served : ∀ row rest, row.conversationId ∉ blocked →
    keyed EnvelopeRow.conversationId row.conversationId rows = row :: rest →
    Signed ports db row →
    headCount db row.conversationId = receiptCount db row.conversationId →
    receiptCount db row.conversationId < receiptCount after row.conversationId

theorem submitRows_effect (inv : JointInvariant ports db)
    (ready : Ready pass.blockedConversations db rows)
    (h : submitRows ports rows attempts pass db = (some done, after)) :
    PassEffect ports pass.blockedConversations rows db after := by
  induction rows generalizing attempts pass db with
  | nil =>
    cases h
    refine ⟨Advance.refl inv, fun _ _ => rfl, ?_⟩
    intro row rest hopen hrows
    cases hrows
  | cons row rows ih =>
    have hrow := ready.head_stored
    unfold submitRows at h
    split_ifs at h with hblocked
    · have effect := ih inv (ready.skip (List.Subset.refl _) hblocked) h
      refine ⟨effect.advance, ?_, ?_⟩
      · intro conversationId hrows
        exact effect.idle conversationId fun other hother =>
          hrows other (List.mem_cons_of_mem _ hother)
      · intro other rest hopen hrows
        have hne : row.conversationId ≠ other.conversationId := by
          intro heq
          rw [heq] at hblocked
          exact hopen hblocked
        rw [keyed_cons_other hne] at hrows
        exact effect.served other rest hopen hrows
    · cases attempts with
      | nil => cases h
      | cons attempt attempts =>
        have hnext := ready.head_next hblocked
        rcases inv.submitRow_cases attempt hrow hnext with
          hthrown | ⟨accepted, hthrown | hreceipted⟩ | ⟨hstale, outcome, hrefused⟩
        · simp only [hthrown] at h
          cases h
        · simp only [hthrown] at h
          cases h
        · -- a receipt: the rest of the loop starts one step further
          simp only [hreceipted] at h
          have step := Advance.receipted inv hrow hnext accepted
          have effect := ih step.joint (by exact ready.receipted) h
          have hmono := effect.advance.receipts_mono
          refine ⟨step.trans effect.advance, ?_, ?_⟩
          · intro conversationId hrows
            rw [effect.idle conversationId fun other hother =>
              hrows other (List.mem_cons_of_mem _ hother)]
            have hne : (rowReceipt ports attempt row db).conversationId ≠ conversationId :=
              hrows row List.mem_cons_self
            rw [receiptedDb, receiptCount_storedDb, receiptCount_witnessedDb, if_neg hne]
            rfl
          · intro other rest hopen hrows hsigned hcurrent
            by_cases heq : row.conversationId = other.conversationId
            · refine Nat.lt_of_lt_of_le ?_ (hmono other.conversationId)
              have hsame : (rowReceipt ports attempt row db).conversationId =
                  other.conversationId := heq
              rw [receiptedDb, receiptCount_storedDb, receiptCount_witnessedDb, if_pos hsame]
              exact Nat.lt_succ_self _
            · rw [keyed_cons_other heq] at hrows
              have hsame : (rowReceipt ports attempt row db).conversationId ≠
                  other.conversationId := heq
              have hreceipts : receiptCount (receiptedDb ports attempt row db)
                  other.conversationId = receiptCount db other.conversationId := by
                rw [receiptedDb, receiptCount_storedDb, receiptCount_witnessedDb, if_neg hsame]
                rfl
              have hheads : headCount (receiptedDb ports attempt row db) other.conversationId =
                  headCount db other.conversationId := by
                rw [receiptedDb, headCount_storedDb, headCount_witnessedDb, if_neg heq]
                rfl
              have hserved := effect.served other rest hopen hrows
                ((signed_iff step.keys other).mpr hsigned) (by rw [hreceipts, hheads, hcurrent])
              rwa [hreceipts] at hserved
        · -- a refusal: nothing changes but the conversation is blocked
          simp only [hrefused] at h
          have effect := ih inv (ready.skip (List.subset_cons_self _ _) List.mem_cons_self) h
          refine ⟨effect.advance, ?_, ?_⟩
          · intro conversationId hrows
            exact effect.idle conversationId fun other hother =>
              hrows other (List.mem_cons_of_mem _ hother)
          · intro other rest hopen hrows hsigned hcurrent
            by_cases heq : row.conversationId = other.conversationId
            · rw [← heq, keyed_cons_self] at hrows
              obtain rfl := (List.cons.inj hrows).1
              exact absurd ⟨hsigned, hcurrent⟩ hstale
            · rw [keyed_cons_other heq] at hrows
              refine effect.served other rest ?_ hrows hsigned hcurrent
              intro hmem
              rcases List.mem_cons.mp hmem with hself | hold
              · exact heq hself.symm
              · exact hopen hold

theorem submitRows_returns (inv : JointInvariant ports db) (sane : SaneSigner ports)
    (room : db.delivery.envelopes.length ≤ uint63Max)
    (ready : Ready pass.blockedConversations db rows) :
    ∃ attempts done after, (∀ attempt ∈ attempts, attempt.fault = .none) ∧
      submitRows ports rows attempts pass db = (some done, after) := by
  induction rows generalizing pass db with
  | nil => exact ⟨[], pass, db, by simp, rfl⟩
  | cons row rows ih =>
    by_cases hblocked : row.conversationId ∈ pass.blockedConversations
    · obtain ⟨attempts, done, after, hfaults, hrun⟩ :=
        ih inv room (ready.skip (List.Subset.refl _) hblocked)
      refine ⟨attempts, done, after, hfaults, ?_⟩
      unfold submitRows
      rw [if_pos hblocked, hrun]
    · have hrow := ready.head_stored
      have hnext := ready.head_next hblocked
      -- checkpoint IDs are random; one that is not stored yet always exists
      obtain ⟨fresh, hfresh⟩ := Infinite.exists_notMem_finset
        (db.witness.checkpoints.map CheckpointRow.checkpointId).toFinset
      have hunused : ∀ other ∈ db.witness.checkpoints, other.checkpointId ≠ fresh := by
        rintro other hother rfl
        exact hfresh (List.mem_toFinset.mpr (List.mem_map_of_mem hother))
      have hanswers := inv.submitRow_answers sane ⟨"", fresh, .none⟩ room hrow hnext rfl hunused
      rcases inv.submitRow_cases ⟨"", fresh, .none⟩ hrow hnext with
        hthrown | ⟨accepted, hthrown | hreceipted⟩ | ⟨-, outcome, hrefused⟩
      · rw [hthrown] at hanswers
        exact absurd rfl hanswers
      · rw [hthrown] at hanswers
        exact absurd rfl hanswers
      · obtain ⟨attempts, done, after, hfaults, hrun⟩ :=
          @ih _ { pass with witnessed := pass.witnessed + 1 }
            (receipted_joint inv hrow hnext accepted) room ready.receipted
        refine ⟨⟨"", fresh, .none⟩ :: attempts, done, after, by simpa using hfaults, ?_⟩
        simp only [submitRows, if_neg hblocked, hreceipted, hrun]
      · obtain ⟨attempts, done, after, hfaults, hrun⟩ :=
          @ih _ { pass with
              blocked := pass.blocked ++ [⟨row.conversationId, row.position.repr, outcome⟩]
              blockedConversations := row.conversationId :: pass.blockedConversations }
            inv room (ready.skip (List.subset_cons_self _ _) List.mem_cons_self)
        refine ⟨⟨"", fresh, .none⟩ :: attempts, done, after, by simpa using hfaults, ?_⟩
        simp only [submitRows, if_neg hblocked, hrefused, hrun]

instance : Std.Total InOrder where
  total a b := by
    unfold InOrder
    rcases lt_trichotomy a.conversationId b.conversationId with h | h | h
    · exact Or.inl (Or.inl h)
    · rcases Nat.le_total a.position b.position with hle | hle
      · exact Or.inl (Or.inr ⟨h, hle⟩)
      · exact Or.inr (Or.inr ⟨h.symm, hle⟩)
    · exact Or.inr (Or.inl h)

instance : IsTrans EnvelopeRow InOrder where
  trans a b c := by
    rintro (hab | ⟨hab, hle⟩) (hbc | ⟨hbc, hle'⟩)
    · exact Or.inl (hab.trans hbc)
    · exact Or.inl (hbc ▸ hab)
    · exact Or.inl (hab ▸ hbc)
    · exact Or.inr ⟨hab.trans hbc, hle.trans hle'⟩

theorem pendingRows_sorted (witnessKeyId : String) (delivery : DeliveryDb) :
    (pendingRows witnessKeyId delivery).Pairwise InOrder :=
  List.pairwise_insertionSort InOrder _

theorem pendingRows_perm (witnessKeyId : String) (delivery : DeliveryDb) :
    (pendingRows witnessKeyId delivery).Perm
      (delivery.envelopes.filter fun row => decide (Unreceipted witnessKeyId delivery row)) :=
  List.perm_insertionSort InOrder _

theorem mem_pendingRows {witnessKeyId : String} {delivery : DeliveryDb} :
    row ∈ pendingRows witnessKeyId delivery ↔
      row ∈ delivery.envelopes ∧ Unreceipted witnessKeyId delivery row := by
  rw [(pendingRows_perm witnessKeyId delivery).mem_iff, List.mem_filter, decide_eq_true_eq]

private theorem range'_sorted (start count : Nat) :
    (List.range' start count).Pairwise (· ≤ ·) :=
  (List.pairwise_lt_range').imp Nat.le_of_lt

private theorem filter_range' (low count : Nat) :
    ((List.range' 1 count).filter fun position => decide (low < position)) =
      List.range' (low + 1) (count - low) := by
  refine List.Perm.eq_of_pairwise' (r := (· ≤ ·)) ?_ ?_ ?_
  · exact (range'_sorted 1 count).filter _
  · exact range'_sorted _ _
  · rw [List.perm_ext_iff_of_nodup ((List.nodup_range').filter _) (List.nodup_range')]
    intro position
    rw [List.mem_filter, List.mem_range'_1, List.mem_range'_1, decide_eq_true_eq]
    omega

theorem JointInvariant.keyed_pendingRows (inv : JointInvariant ports db) (conversationId : String) :
    (keyed EnvelopeRow.conversationId conversationId
        (pendingRows ports.witnessKeyId db.delivery)).map EnvelopeRow.position =
      List.range' (receiptCount db conversationId + 1)
        ((envelopesOf db.delivery conversationId).length - receiptCount db conversationId) := by
  refine List.Perm.eq_of_pairwise' (r := (· ≤ ·)) ?_ ?_ ?_
  · rw [List.pairwise_map]
    refine ((pendingRows_sorted ports.witnessKeyId db.delivery).filter _).imp_of_mem ?_
    intro a b ha hb hab
    have hsame : a.conversationId = b.conversationId :=
      (mem_keyed.mp ha).2.trans (mem_keyed.mp hb).2.symm
    rcases hab with hlt | ⟨-, hle⟩
    · rw [hsame] at hlt
      exact absurd hlt (lt_irrefl _)
    · exact hle
  · exact range'_sorted _ _
  · have hperm := ((pendingRows_perm ports.witnessKeyId db.delivery).filter fun row =>
      decide (row.conversationId = conversationId)).map EnvelopeRow.position
    refine hperm.trans (List.Perm.of_eq ?_)
    have hpending : ((db.delivery.envelopes.filter fun row =>
        decide (Unreceipted ports.witnessKeyId db.delivery row)).filter fun row =>
          decide (row.conversationId = conversationId)) =
        (envelopesOf db.delivery conversationId).filter fun row =>
          decide (receiptCount db conversationId < row.position) := by
      unfold envelopesOf keyed
      rw [List.filter_filter, List.filter_filter]
      apply List.filter_congr
      intro row hrow
      rw [Bool.and_comm]
      by_cases h : row.conversationId = conversationId
      · subst h
        simp [inv.unreceipted_iff hrow]
      · simp [h]
    have hgaps := inv.envelopes conversationId
    rw [hpending, ← filter_range', envelopesOf, ← hgaps, List.filter_map]
    rfl

theorem batch_ready (inv : JointInvariant ports db) :
    Ready [] db (batchRows ports.witnessKeyId db.delivery) where
  stored row hrow := (mem_pendingRows.mp (List.mem_of_mem_take hrow)).1
  next := by
    intro conversationId _
    have hbatch : keyed EnvelopeRow.conversationId conversationId
        (batchRows ports.witnessKeyId db.delivery) <+: keyed EnvelopeRow.conversationId
          conversationId (pendingRows ports.witnessKeyId db.delivery) :=
      List.IsPrefix.filter _ (List.take_prefix _ _)
    have hpositions := hbatch.map EnvelopeRow.position
    rw [JointInvariant.keyed_pendingRows inv] at hpositions
    have hlength := hpositions.length_le
    rw [List.prefix_iff_eq_take] at hpositions
    rw [hpositions, List.take_range'_of_length_ge (by simpa using hlength), List.length_map]

theorem pass_keeps (inv : JointInvariant ports db) (attempts : List Attempt) :
    JointInvariant ports (runDeliverySubmissionPass ports ports.witnessKeyId attempts db).2 :=
  (submitRows_keeps inv (batch_ready inv)).1

theorem append_keeps (inv : JointInvariant ports db) (honest : HonestAppend ports db.delivery row) :
    JointInvariant ports { db with
      delivery := { db.delivery with envelopes := db.delivery.envelopes ++ [row] } } where
  log := inv.log
  leaves := inv.leaves
  envelopes := inv.envelopes.append honest.next
  receipts := inv.receipts
  keys := inv.keys
  values := by
    intro other hother
    rcases List.mem_append.mp hother with hold | hnew
    · exact inv.values other hold
    · rw [List.mem_singleton.mp hnew]
      exact honest.values
  instants := by
    intro other hother
    rcases List.mem_append.mp hother with hold | hnew
    · exact inv.instants other hold
    · rw [List.mem_singleton.mp hnew]
      exact honest.instant
  follows := by
    have hmono {other : EnvelopeRow} (h : FollowsHead db.delivery other) :
        FollowsHead { db.delivery with envelopes := db.delivery.envelopes ++ [row] } other := by
      rcases h with hfirst | ⟨before, hbefore, hrest⟩
      · exact Or.inl hfirst
      · exact Or.inr ⟨before, List.mem_append_left _ hbefore, hrest⟩
    intro other hother
    rcases List.mem_append.mp hother with hold | hnew
    · exact hmono (inv.follows other hold)
    · rw [List.mem_singleton.mp hnew]
      exact hmono honest.follows
  heads := by
    intro head hhead
    obtain ⟨other, hother, hrest⟩ := inv.heads head hhead
    exact ⟨other, List.mem_append_left _ hother, hrest⟩
  lag := inv.lag

theorem reachable_joint (reachable : ReachableDb ports db) : JointInvariant ports db := by
  obtain ⟨now, submitterKeys, run⟩ := reachable
  induction run with
  | refl => exact initial_joint now submitterKeys
  | tail _ step ih =>
    cases step with
    | append row honest => exact append_keeps ih honest
    | pass attempts => exact pass_keeps ih attempts

theorem failureFreePass_effect (inv : JointInvariant ports db)
    (run : FailureFreePass ports db after) :
    PassEffect ports [] (batchRows ports.witnessKeyId db.delivery) db after := by
  obtain ⟨attempts, report, -, hrun⟩ := run
  obtain ⟨hreport, rfl⟩ := Prod.mk.inj hrun
  obtain ⟨done, hdone, -⟩ := Option.map_eq_some_iff.mp hreport
  exact submitRows_effect inv (by exact batch_ready inv) (Prod.ext hdone rfl)

theorem failureFreePass_exists (inv : JointInvariant ports db) (sane : SaneSigner ports)
    (room : db.delivery.envelopes.length ≤ uint63Max) : ∃ after, FailureFreePass ports db after := by
  obtain ⟨attempts, done, after, hfaults, hrun⟩ :=
    @submitRows_returns ports db (batchRows ports.witnessKeyId db.delivery) ⟨0, [], []⟩ inv sane
      room (batch_ready inv)
  refine ⟨after, attempts, ⟨(batchRows ports.witnessKeyId db.delivery).length, done.witnessed,
    done.blocked⟩, hfaults, ?_⟩
  unfold runDeliverySubmissionPass
  simp only [hrun, Option.map_some]

end JbChat.Witness.SubmitterPass
