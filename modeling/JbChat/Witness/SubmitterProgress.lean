/- source: src/production/witness/submitter.ts, witnessCore.ts
   digest: Exactly which conversations further failure-free passes bring to full receipts. -/

import JbChat.Witness.SubmitterPass
import JbChat.Witness.PolicyWitnessSafety

set_option autoImplicit false

namespace JbChat.Witness.SubmitterProgress

open Foundation.GapFree Foundation.Transaction
open Delivery.ValueObjects Delivery.Hashes WitnessCore WitnessCalls Submitter SubmitterRow
open SubmitterPass

def AlreadyWitnessed (db : JointDb) (row : EnvelopeRow) : Prop :=
  ∃ head ∈ db.witness.deliveryHeads,
    head.conversationId = row.conversationId ∧ head.position = row.position

/-- A row that the witness will not accept: it is already witnessed, or no registered key
has signed it. -/
def Refused (ports : WitnessPorts) (db : JointDb) (row : EnvelopeRow) : Prop :=
  AlreadyWitnessed db row ∨ ¬ Signed ports db row

/-- A row without a receipt behind a refused row of its conversation, or refused itself. -/
def Stuck (ports : WitnessPorts) (db : JointDb) (row : EnvelopeRow) : Prop :=
  Unreceipted ports.witnessKeyId db.delivery row ∧ ∃ other ∈ db.delivery.envelopes,
    other.conversationId = row.conversationId ∧ other.position ≤ row.position ∧
      Unreceipted ports.witnessKeyId db.delivery other ∧ Refused ports db other

open Classical in
noncomputable def stuckBefore (ports : WitnessPorts) (db : JointDb) (conversationId : String) :
    Nat :=
  (db.delivery.envelopes.filter fun row =>
    decide (Stuck ports db row ∧ row.conversationId < conversationId)).length

variable {ports : WitnessPorts} {db after : JointDb} {row : EnvelopeRow} {conversationId : String}

theorem alreadyWitnessed_iff (inv : JointInvariant ports db) (hrow : row ∈ db.delivery.envelopes) :
    AlreadyWitnessed db row ↔ row.position ≤ headCount db row.conversationId := by
  have hexists := inv.headGaps.exists_iff row.conversationId row.position
  have hpositive := (inv.envelopes.bounds hrow).1
  exact ⟨fun h => (hexists.mp h).2, fun h => hexists.mpr ⟨hpositive, h⟩⟩

section

variable (inv : JointInvariant ports db) (advance : Advance ports db after)

include inv advance

theorem unreceipted_of_after (hrow : row ∈ db.delivery.envelopes)
    (h : Unreceipted ports.witnessKeyId after.delivery row) :
    Unreceipted ports.witnessKeyId db.delivery row := by
  have hafter : row ∈ after.delivery.envelopes := advance.envelopes ▸ hrow
  rw [advance.joint.unreceipted_iff hafter] at h
  rw [inv.unreceipted_iff hrow]
  exact Nat.lt_of_le_of_lt (advance.receipts_mono _) h

theorem refused_stays (hrow : row ∈ db.delivery.envelopes)
    (pending : Unreceipted ports.witnessKeyId db.delivery row) (refused : Refused ports db row) :
    Unreceipted ports.witnessKeyId after.delivery row ∧ Refused ports after row := by
  have hafter : row ∈ after.delivery.envelopes := advance.envelopes ▸ hrow
  rw [inv.unreceipted_iff hrow] at pending
  rw [advance.joint.unreceipted_iff hafter]
  unfold Refused at refused ⊢
  rw [alreadyWitnessed_iff inv hrow] at refused
  rw [alreadyWitnessed_iff advance.joint hafter, signed_iff advance.keys]
  obtain ⟨steps, hreceipts, hheads, hcurrent⟩ := advance.together row.conversationId
  rcases refused with hwitnessed | hunsigned
  · -- an outstanding receipt keeps the conversation from advancing
    rcases Nat.eq_zero_or_pos steps with hzero | hsteps
    · exact ⟨by omega, Or.inl (by omega)⟩
    · have := hcurrent hsteps
      omega
  · refine ⟨?_, Or.inr hunsigned⟩
    by_contra hreceipted
    exact hunsigned (advance.signed row hrow pending (Nat.le_of_not_lt hreceipted))

theorem refused_of_after (hrow : row ∈ db.delivery.envelopes)
    (pending : Unreceipted ports.witnessKeyId after.delivery row)
    (refused : Refused ports after row) : Refused ports db row := by
  have hafter : row ∈ after.delivery.envelopes := advance.envelopes ▸ hrow
  rw [advance.joint.unreceipted_iff hafter] at pending
  unfold Refused at refused ⊢
  rw [alreadyWitnessed_iff advance.joint hafter, signed_iff advance.keys] at refused
  rw [alreadyWitnessed_iff inv hrow]
  obtain ⟨steps, hreceipts, hheads, hcurrent⟩ := advance.together row.conversationId
  rcases refused with hwitnessed | hunsigned
  · left
    rcases Nat.eq_zero_or_pos steps with hzero | hsteps
    · omega
    · have := hcurrent hsteps
      omega
  · exact Or.inr hunsigned

theorem stuck_iff (hrow : row ∈ db.delivery.envelopes) :
    Stuck ports after row ↔ Stuck ports db row := by
  have hafter : row ∈ after.delivery.envelopes := advance.envelopes ▸ hrow
  constructor
  · rintro ⟨hpending, other, hother, hsame, hle, hwaits, hrefused⟩
    rw [advance.envelopes] at hother
    exact ⟨unreceipted_of_after inv advance hrow hpending, other, hother, hsame, hle,
      unreceipted_of_after inv advance hother hwaits,
      refused_of_after inv advance hother hwaits hrefused⟩
  · rintro ⟨hpending, other, hother, hsame, hle, hwaits, hrefused⟩
    obtain ⟨hwaits', hrefused'⟩ := refused_stays inv advance hother hwaits hrefused
    have hother' : other ∈ after.delivery.envelopes := advance.envelopes ▸ hother
    refine ⟨?_, other, hother', hsame, hle, hwaits', hrefused'⟩
    rw [advance.joint.unreceipted_iff hother', hsame] at hwaits'
    rw [advance.joint.unreceipted_iff hafter]
    exact Nat.lt_of_lt_of_le hwaits' hle

theorem stuckBefore_eq (conversationId : String) :
    stuckBefore ports after conversationId = stuckBefore ports db conversationId := by
  classical
  unfold stuckBefore
  rw [advance.envelopes]
  congr 1
  apply List.filter_congr
  intro row hrow
  rw [decide_eq_decide, stuck_iff inv advance hrow]

theorem receipted_stays (h : Receipted ports db conversationId) :
    Receipted ports after conversationId := by
  intro row hrow hconversation hpending
  rw [advance.envelopes] at hrow
  exact h row hrow hconversation (unreceipted_of_after inv advance hrow hpending)

end

theorem passes_advance {n : Nat} (inv : JointInvariant ports db)
    (run : FailureFreePasses ports n db after) : Advance ports db after := by
  induction n generalizing db with
  | zero =>
    obtain rfl : after = db := run
    exact Advance.refl inv
  | succ n ih =>
    obtain ⟨middle, hpass, hrest⟩ := run
    have effect := failureFreePass_effect inv hpass
    exact effect.advance.trans (ih effect.advance.joint hrest)

theorem passes_exist (n : Nat) (inv : JointInvariant ports db) (sane : SaneSigner ports)
    (room : db.delivery.envelopes.length ≤ uint63Max) :
    ∃ after, FailureFreePasses ports n db after := by
  induction n generalizing db with
  | zero => exact ⟨db, rfl⟩
  | succ n ih =>
    obtain ⟨middle, hpass⟩ := failureFreePass_exists inv sane room
    have advance := (failureFreePass_effect inv hpass).advance
    obtain ⟨after, hrest⟩ := ih advance.joint (by rw [advance.envelopes]; exact room)
    exact ⟨after, middle, hpass, hrest⟩

theorem batch_excludes (full : maxBatch ≤ stuckBefore ports db conversationId) :
    ∀ row ∈ batchRows ports.witnessKeyId db.delivery, row.conversationId ≠ conversationId := by
  classical
  rintro row hrow rfl
  let before (other : EnvelopeRow) : Bool := decide (other.conversationId < row.conversationId)
  have hsorted := pendingRows_sorted ports.witnessKeyId db.delivery
  have hsplit : batchRows ports.witnessKeyId db.delivery ++
      (pendingRows ports.witnessKeyId db.delivery).drop maxBatch =
        pendingRows ports.witnessKeyId db.delivery := List.take_append_drop _ _
  rw [← hsplit, List.pairwise_append] at hsorted
  -- rows of smaller conversations come before the row, so all of them are in the batch
  have hrest : ((pendingRows ports.witnessKeyId db.delivery).drop maxBatch).filter before = [] := by
    rw [List.filter_eq_nil_iff]
    intro other hother hbefore
    have hlt : other.conversationId < row.conversationId := of_decide_eq_true hbefore
    rcases hsorted.2.2 row hrow other hother with hgt | ⟨heq, -⟩
    · exact absurd (hlt.trans hgt) (lt_irrefl _)
    · rw [heq] at hlt
      exact absurd hlt (lt_irrefl _)
  have hbatch : ((batchRows ports.witnessKeyId db.delivery).filter before).length < maxBatch := by
    have hlt : ((batchRows ports.witnessKeyId db.delivery).filter before).length <
        (batchRows ports.witnessKeyId db.delivery).length := by
      rw [List.length_filter_lt_length_iff_exists]
      exact ⟨row, hrow, fun hself => lt_irrefl _ (of_decide_eq_true hself)⟩
    exact Nat.lt_of_lt_of_le hlt (List.length_take_le _ _)
  have hpending : ((pendingRows ports.witnessKeyId db.delivery).filter before).length <
      maxBatch := by
    rw [← hsplit, List.filter_append, hrest, List.append_nil]
    exact hbatch
  have hstuck : stuckBefore ports db row.conversationId ≤
      ((pendingRows ports.witnessKeyId db.delivery).filter before).length := by
    have hperm := (pendingRows_perm ports.witnessKeyId db.delivery).filter before
    rw [hperm.length_eq, List.filter_filter]
    unfold stuckBefore
    refine (List.monotone_filter_right _ ?_).length_le
    intro other hother
    obtain ⟨⟨hwaits, -⟩, hlt⟩ := of_decide_eq_true hother
    rw [Bool.and_eq_true]
    exact ⟨decide_eq_true hlt, decide_eq_true hwaits⟩
  omega

theorem passes_starve {n : Nat} (inv : JointInvariant ports db)
    (full : maxBatch ≤ stuckBefore ports db conversationId)
    (run : FailureFreePasses ports n db after) :
    receiptCount after conversationId = receiptCount db conversationId := by
  induction n generalizing db with
  | zero =>
    obtain rfl : after = db := run
    rfl
  | succ n ih =>
    obtain ⟨middle, hpass, hrest⟩ := run
    have effect := failureFreePass_effect inv hpass
    have hstuck := stuckBefore_eq inv effect.advance conversationId
    rw [ih effect.advance.joint (by omega) hrest]
    exact effect.idle conversationId (batch_excludes full)

/-- A row without a receipt that is not stuck. -/
def Open (ports : WitnessPorts) (db : JointDb) (row : EnvelopeRow) : Prop :=
  row ∈ db.delivery.envelopes ∧ Unreceipted ports.witnessKeyId db.delivery row ∧
    ¬ Stuck ports db row

theorem first_open_in_batch (few : stuckBefore ports db conversationId < maxBatch)
    (opened : Open ports db row) (hconversation : row.conversationId = conversationId) :
    ∃ first rest, Open ports db first ∧ keyed EnvelopeRow.conversationId first.conversationId
      (batchRows ports.witnessKeyId db.delivery) = first :: rest := by
  classical
  obtain ⟨hstored, hpending, hfree⟩ := opened
  have hrow : row ∈ pendingRows ports.witnessKeyId db.delivery :=
    mem_pendingRows.mpr ⟨hstored, hpending⟩
  have hfound : ∃ first, (pendingRows ports.witnessKeyId db.delivery).find?
      (fun other => decide (¬ Stuck ports db other)) = some first := by
    rw [← Option.isSome_iff_exists, List.find?_isSome]
    exact ⟨row, hrow, decide_eq_true hfree⟩
  obtain ⟨first, hfind⟩ := hfound
  obtain ⟨hfirst, pre, post, hlist, hpre⟩ := List.find?_eq_some_iff_append.mp hfind
  have hfirstFree : ¬ Stuck ports db first := of_decide_eq_true hfirst
  have hpreStuck : ∀ other ∈ pre, Stuck ports db other := by
    intro other hother
    simpa using hpre other hother
  have hmem : ∀ other ∈ pre ++ first :: post, other ∈ db.delivery.envelopes ∧
      Unreceipted ports.witnessKeyId db.delivery other := by
    intro other hother
    rw [← hlist] at hother
    exact mem_pendingRows.mp hother
  have hsorted := pendingRows_sorted ports.witnessKeyId db.delivery
  rw [hlist, List.pairwise_append, List.pairwise_cons] at hsorted
  -- the first open row is not after the given one
  have hle : first.conversationId ≤ conversationId := by
    rw [hlist] at hrow
    rcases List.mem_append.mp hrow with hbefore | hself
    · exact absurd (hpreStuck row hbefore) hfree
    · rcases List.mem_cons.mp hself with rfl | hafter
      · exact le_of_eq hconversation
      · rw [← hconversation]
        rcases hsorted.2.1.1 row hafter with hlt | ⟨heq, -⟩
        · exact le_of_lt hlt
        · exact le_of_eq heq
  -- a stuck row before it belongs to a smaller conversation
  have hsmaller : ∀ other ∈ pre, other.conversationId < first.conversationId := by
    intro other hother
    rcases hsorted.2.2 other hother first List.mem_cons_self with hlt | ⟨heq, hposition⟩
    · exact hlt
    · obtain ⟨-, cause, hcause, hsame, hbound, hwaits, hrefused⟩ := hpreStuck other hother
      exact absurd ⟨(hmem first (by simp)).2, cause, hcause, hsame.trans heq,
        hbound.trans hposition, hwaits, hrefused⟩ hfirstFree
  have hlength : pre.length < maxBatch := by
    refine Nat.lt_of_le_of_lt ?_ few
    have hall : pre = pre.filter fun other =>
        decide (Stuck ports db other ∧ other.conversationId < conversationId) := by
      refine (List.filter_eq_self.mpr ?_).symm
      intro other hother
      exact decide_eq_true ⟨hpreStuck other hother, lt_of_lt_of_le (hsmaller other hother) hle⟩
    have hperm := (pendingRows_perm ports.witnessKeyId db.delivery).filter fun other =>
      decide (Stuck ports db other ∧ other.conversationId < conversationId)
    have hsub : (pre.filter fun other =>
        decide (Stuck ports db other ∧ other.conversationId < conversationId)).length ≤
          stuckBefore ports db conversationId := by
      refine Nat.le_trans ((List.sublist_append_left pre (first :: post)).filter _).length_le ?_
      rw [← hlist, hperm.length_eq]
      exact ((List.filter_sublist).filter _).length_le
    rw [hall]
    exact hsub
  refine ⟨first, keyed EnvelopeRow.conversationId first.conversationId
    (post.take (maxBatch - pre.length - 1)), ⟨(hmem first (by simp)).1, (hmem first (by simp)).2,
      hfirstFree⟩, ?_⟩
  have hbatch : batchRows ports.witnessKeyId db.delivery =
      pre ++ first :: post.take (maxBatch - pre.length - 1) := by
    unfold batchRows
    rw [hlist, List.take_append, List.take_of_length_le hlength.le]
    congr 1
    obtain ⟨extra, hextra⟩ := Nat.exists_eq_add_of_lt hlength
    rw [show maxBatch - pre.length = extra + 1 by omega, List.take_succ_cons, Nat.add_sub_cancel]
  have hnone : keyed EnvelopeRow.conversationId first.conversationId pre = [] := by
    unfold keyed
    rw [List.filter_eq_nil_iff]
    intro other hother hsame
    have hlt := hsmaller other hother
    rw [of_decide_eq_true hsame] at hlt
    exact lt_irrefl _ hlt
  rw [hbatch, keyed, List.filter_append]
  change keyed EnvelopeRow.conversationId first.conversationId pre ++ _ = _
  rw [hnone, List.nil_append]
  exact keyed_cons_self first _

/-- The number of rows without a receipt. -/
def waiting (ports : WitnessPorts) (db : JointDb) : Nat :=
  (db.delivery.envelopes.filter fun row =>
    decide (Unreceipted ports.witnessKeyId db.delivery row)).length

theorem waiting_decreases (inv : JointInvariant ports db)
    (few : stuckBefore ports db conversationId < maxBatch) (opened : Open ports db row)
    (hconversation : row.conversationId = conversationId)
    (run : FailureFreePass ports db after) : waiting ports after < waiting ports db := by
  have effect := failureFreePass_effect inv run
  have advance := effect.advance
  obtain ⟨first, rest, ⟨hstored, hpending, hfree⟩, hbatch⟩ :=
    first_open_in_batch few opened hconversation
  have hready := (batch_ready inv).next first.conversationId List.not_mem_nil
  rw [hbatch, List.map_cons, List.length_cons, List.range'_succ] at hready
  have hnext : first.position = receiptCount db first.conversationId + 1 :=
    (List.cons.inj hready).1
  have haccepted : ¬ Refused ports db first := by
    intro hrefused
    exact hfree ⟨hpending, first, hstored, rfl, Nat.le_refl _, hpending, hrefused⟩
  unfold Refused at haccepted
  rw [alreadyWitnessed_iff inv hstored] at haccepted
  push Not at haccepted
  have hlag := inv.lag first.conversationId
  have hserved := effect.served first rest List.not_mem_nil hbatch haccepted.2 (by omega)
  have hsub : (after.delivery.envelopes.filter fun other =>
      decide (Unreceipted ports.witnessKeyId after.delivery other)).Sublist
        (db.delivery.envelopes.filter fun other =>
          decide (Unreceipted ports.witnessKeyId db.delivery other)) := by
    rw [advance.envelopes, show (db.delivery.envelopes.filter fun other =>
        decide (Unreceipted ports.witnessKeyId after.delivery other)) =
          (db.delivery.envelopes.filter fun other =>
            decide (Unreceipted ports.witnessKeyId db.delivery other)).filter fun other =>
              decide (Unreceipted ports.witnessKeyId after.delivery other) from ?_]
    · exact List.filter_sublist
    · rw [List.filter_filter]
      apply List.filter_congr
      intro other hother
      by_cases h : Unreceipted ports.witnessKeyId after.delivery other
      · simp [h, unreceipted_of_after inv advance hother h]
      · simp [h]
  refine Nat.lt_of_le_of_ne hsub.length_le ?_
  intro hequal
  have hsame := hsub.eq_of_length hequal
  have hfirst : first ∈ db.delivery.envelopes.filter fun other =>
      decide (Unreceipted ports.witnessKeyId db.delivery other) :=
    List.mem_filter.mpr ⟨hstored, decide_eq_true hpending⟩
  rw [← hsame] at hfirst
  obtain ⟨hafter, hwaits⟩ := List.mem_filter.mp hfirst
  have hposition := (advance.joint.unreceipted_iff hafter).mp (of_decide_eq_true hwaits)
  omega

theorem not_witnessed_iff (inv : JointInvariant ports db) (conversationId : String) :
    (∀ row ∈ db.delivery.envelopes, row.conversationId = conversationId →
        Unreceipted ports.witnessKeyId db.delivery row → ¬ AlreadyWitnessed db row) ↔
      headCount db conversationId ≤ receiptCount db conversationId := by
  constructor
  · intro hnone
    by_contra hahead
    obtain ⟨head, hhead, hconversation, hposition, -⟩ :=
      inv.heads_stored conversationId (by omega : 1 ≤ headCount db conversationId) (Nat.le_refl _)
    obtain ⟨row, hrow, hsame, hat, -⟩ := inv.heads head hhead
    have hkey : row.conversationId = conversationId := hsame.trans hconversation
    refine hnone row hrow hkey ?_ ⟨head, hhead, hsame.symm, hat.symm⟩
    rw [inv.unreceipted_iff hrow, hkey, hat, hposition]
    omega
  · rintro hcurrent row hrow rfl hpending hwitnessed
    rw [inv.unreceipted_iff hrow] at hpending
    rw [alreadyWitnessed_iff inv hrow] at hwitnessed
    omega

theorem open_of_signed (inv : JointInvariant ports db)
    (signed : ∀ row ∈ db.delivery.envelopes, row.conversationId = conversationId →
      Signed ports db row)
    (current : headCount db conversationId ≤ receiptCount db conversationId)
    (hrow : row ∈ db.delivery.envelopes) (hconversation : row.conversationId = conversationId)
    (pending : Unreceipted ports.witnessKeyId db.delivery row) : Open ports db row := by
  refine ⟨hrow, pending, ?_⟩
  rintro ⟨-, other, hother, hsame, -, hwaits, hwitnessed | hunsigned⟩
  · exact (not_witnessed_iff inv conversationId).mpr current other hother
      (hsame.trans hconversation) hwaits hwitnessed
  · exact hunsigned (signed other hother (hsame.trans hconversation))

theorem passes_receipt {n : Nat} (inv : JointInvariant ports db)
    (signed : ∀ row ∈ db.delivery.envelopes, row.conversationId = conversationId →
      Signed ports db row)
    (current : headCount db conversationId ≤ receiptCount db conversationId)
    (few : stuckBefore ports db conversationId < maxBatch) (enough : waiting ports db ≤ n)
    (run : FailureFreePasses ports n db after) : Receipted ports after conversationId := by
  induction n generalizing db with
  | zero =>
    obtain rfl : after = db := run
    intro row hrow hconversation hpending
    have hmem : row ∈ after.delivery.envelopes.filter fun other =>
        decide (Unreceipted ports.witnessKeyId after.delivery other) :=
      List.mem_filter.mpr ⟨hrow, decide_eq_true hpending⟩
    exact absurd (List.length_pos_of_mem hmem) (Nat.not_lt.mpr enough)
  | succ n ih =>
    by_cases hdone : Receipted ports db conversationId
    · exact receipted_stays inv (passes_advance inv run) hdone
    · obtain ⟨middle, hpass, hrest⟩ := run
      unfold Receipted at hdone
      push Not at hdone
      obtain ⟨row, hrow, hconversation, hpending⟩ := hdone
      have advance := (failureFreePass_effect inv hpass).advance
      have hless := waiting_decreases inv few
        (open_of_signed inv signed current hrow hconversation hpending) hconversation hpass
      refine ih advance.joint ?_ ?_ ?_ (by omega) hrest
      · intro other hother hsame
        rw [advance.envelopes] at hother
        exact (signed_iff advance.keys other).mpr (signed other hother hsame)
      · obtain ⟨steps, hreceipts, hheads, -⟩ := advance.together conversationId
        omega
      · rw [stuckBefore_eq inv advance]
        exact few

theorem lost_receipt_not_recovers (inv : JointInvariant ports db)
    (hrow : row ∈ db.delivery.envelopes)
    (pending : Unreceipted ports.witnessKeyId db.delivery row)
    (witnessed : AlreadyWitnessed db row) : ¬ Recovers ports db row.conversationId := by
  rintro ⟨n, ⟨after, hrun⟩, hall⟩
  have advance := passes_advance inv hrun
  have hstays := (refused_stays inv advance hrow pending (Or.inl witnessed)).1
  exact hall after hrun row (advance.envelopes ▸ hrow) rfl hstays

/-- A conversation whose rows are all signed gets its missing receipts in finitely many
failure-free passes exactly when none of its rows is witnessed without a receipt and the
conversations before it hold fewer stuck rows than a batch. -/
theorem recovers_iff (sane : SaneSigner ports) (reachable : ReachableDb ports db)
    (room : db.delivery.envelopes.length ≤ uint63Max) (conversationId : String)
    (signed : ∀ row ∈ db.delivery.envelopes, row.conversationId = conversationId →
      Signed ports db row) :
    Recovers ports db conversationId ↔
      Receipted ports db conversationId ∨
        ((∀ row ∈ db.delivery.envelopes, row.conversationId = conversationId →
            Unreceipted ports.witnessKeyId db.delivery row → ¬ AlreadyWitnessed db row) ∧
          stuckBefore ports db conversationId < maxBatch) := by
  have inv := reachable_joint reachable
  constructor
  · intro hrecovers
    by_cases hdone : Receipted ports db conversationId
    · exact Or.inl hdone
    refine Or.inr ⟨?_, ?_⟩
    · rintro row hrow rfl hpending hwitnessed
      exact lost_receipt_not_recovers inv hrow hpending hwitnessed hrecovers
    · by_contra hfull
      obtain ⟨n, ⟨after, hrun⟩, hall⟩ := hrecovers
      have advance := passes_advance inv hrun
      have hsame := passes_starve inv (Nat.le_of_not_lt hfull) hrun
      apply hdone
      intro row hrow hconversation hpending
      have hafter : row ∈ after.delivery.envelopes := advance.envelopes ▸ hrow
      refine hall after hrun row hafter hconversation ?_
      rw [inv.unreceipted_iff hrow, hconversation] at hpending
      rw [advance.joint.unreceipted_iff hafter, hconversation, hsame]
      exact hpending
  · rintro (hdone | ⟨hnone, few⟩)
    · refine ⟨0, ⟨db, rfl⟩, ?_⟩
      rintro after rfl
      exact hdone
    · have current := (not_witnessed_iff inv conversationId).mp hnone
      refine ⟨waiting ports db, passes_exist _ inv sane room, ?_⟩
      intro after hrun
      exact passes_receipt inv signed current few (Nat.le_refl _) hrun

/-- Each stored receipt is of an envelope whose head the witness holds with a leaf of its log, and
at most one head of a conversation waits for its receipt. -/
theorem receipts_are_witnessed (reachable : ReachableDb ports db) :
    (∀ receipt ∈ db.delivery.receipts, ∃ row ∈ db.delivery.envelopes,
      ∃ head ∈ db.witness.deliveryHeads, ∃ leaf ∈ WitnessLog.leavesOf db.witness .delivery,
        row.conversationId = receipt.conversationId ∧ row.position = receipt.position ∧
        head.conversationId = receipt.conversationId ∧ head.position = receipt.position ∧
        head.headHash = row.headHash ∧ leaf.treeIndex = head.treeIndex) ∧
    ∀ conversationId, receiptCount db conversationId ≤ headCount db conversationId ∧
      headCount db conversationId ≤ receiptCount db conversationId + 1 := by
  have inv := reachable_joint reachable
  refine ⟨fun receipt hreceipt => ?_, inv.lag⟩
  obtain ⟨hone, hle⟩ := inv.receipts.bounds hreceipt
  obtain ⟨head, hhead, hconversation, hposition⟩ := (inv.headGaps.exists_iff
    receipt.conversationId receipt.position).mpr ⟨hone, hle.trans (inv.lag _).1⟩
  obtain ⟨row, hrow, hsame, hat, hhash⟩ := inv.heads head hhead
  obtain ⟨leaf, hleaf, hindex, -⟩ := inv.log.chained head hhead
  exact ⟨row, hrow, head, hhead, leaf, hleaf, hsame.trans hconversation, hat.trans hposition,
    hconversation, hposition, hhash.symm, hindex⟩

section

open PolicyWitnessSafety MerkleInclusion

def sampleEnvelope : EnvelopeRow where
  conversationId := "00000000-0000-4000-8000-000000000001"
  position := 1
  previousHeadHash := List.replicate 32 0
  headHash := sampleLeaf 1
  logSigningKeyId := "log-key"
  logHeadSignature := List.replicate 64 0
  receivedAt := "2026-01-01T00:00:00.000Z"

def sampleKeys : List SubmitterKeyRow := [⟨"log-key", sampleLeaf 2, 0, 1⟩]

/-- One row has been appended. -/
def appendedDb : JointDb :=
  ⟨⟨[sampleEnvelope], []⟩, WitnessDb.migrated "now" sampleKeys⟩

def sampleAttempt : Attempt :=
  ⟨"now", "00000000-0000-4000-8000-000000000002", .responseLost⟩

def lostResponseDb : JointDb :=
  (runDeliverySubmissionPass samplePorts samplePorts.witnessKeyId [sampleAttempt] appendedDb).2

private theorem sampleEnvelope_values : CheckpointValues sampleEnvelope.submission.checkpointInput
    sampleEnvelope.position sampleEnvelope.previousHeadHash sampleEnvelope.headHash where
  conversation := by decide
  positionText := rfl
  positive := by decide
  bounded := by decide
  previousText := rfl
  previousSize := rfl
  headText := rfl
  headSize := rfl
  signingKey := by decide
  genesis := ⟨fun _ => rfl, fun _ => rfl⟩

private theorem appended_reachable : ReachableDb samplePorts appendedDb := by
  refine ⟨"now", sampleKeys, Relation.ReflTransGen.single ?_⟩
  exact .append sampleEnvelope ⟨rfl, Or.inl ⟨rfl, rfl⟩, sampleEnvelope_values, rfl⟩

private theorem samplePorts_sane : SaneSigner samplePorts :=
  ⟨by decide, fun _ => rfl⟩

private theorem sampleEnvelope_signed : Signed samplePorts appendedDb sampleEnvelope :=
  ⟨0, ⟨"log-key", sampleLeaf 2, 0, 1⟩, _, rfl, rfl,
    computeDeliveryLogCheckpointDigest_eq_ok.mpr ⟨_, _, _, sampleEnvelope_values, rfl⟩, rfl⟩

/-- A passing pass recovers the sample conversation after its append. -/
theorem recovers_after_append : Recovers samplePorts appendedDb sampleEnvelope.conversationId := by
  have hrows : ∀ row ∈ appendedDb.delivery.envelopes, row = sampleEnvelope :=
    fun row hrow => List.mem_singleton.mp hrow
  refine (recovers_iff samplePorts_sane appended_reachable (show 1 ≤ uint63Max by decide)
    sampleEnvelope.conversationId ?_).mpr (Or.inr ⟨?_, ?_⟩)
  · rintro row hrow -
    rw [hrows row hrow]
    exact sampleEnvelope_signed
  · rintro row - - - ⟨head, hhead, -⟩
    cases hhead
  · classical
    refine Nat.lt_of_le_of_lt (List.length_filter_le _ _) ?_
    exact show 1 < maxBatch by decide

/-- After a lost response no number of failure-free passes stores the receipt, although
the one row of the conversation is signed and extends it. -/
theorem lostResponse_not_recovers :
    ReachableDb samplePorts lostResponseDb ∧
      (∀ row ∈ lostResponseDb.delivery.envelopes, Signed samplePorts lostResponseDb row) ∧
      ¬ Recovers samplePorts lostResponseDb sampleEnvelope.conversationId := by
  have hreachable : ReachableDb samplePorts lostResponseDb := by
    obtain ⟨now, submitterKeys, run⟩ := appended_reachable
    exact ⟨now, submitterKeys, run.tail (.pass [sampleAttempt])⟩
  refine ⟨hreachable, ?_, ?_⟩
  · intro row hrow
    have hrows : ∀ row ∈ lostResponseDb.delivery.envelopes, row = sampleEnvelope := by
      decide +kernel
    have hkeys : lostResponseDb.witness.submitterKeys = appendedDb.witness.submitterKeys := by
      decide +kernel
    rw [hrows row hrow]
    exact (signed_iff hkeys sampleEnvelope).mpr sampleEnvelope_signed
  · have witnessed : AlreadyWitnessed lostResponseDb sampleEnvelope := by
      unfold AlreadyWitnessed
      decide +kernel
    exact lost_receipt_not_recovers (reachable_joint hreachable) (by decide +kernel)
      (by decide +kernel) witnessed

def servedAttempt : Attempt := { sampleAttempt with fault := .none }

def servedDb : JointDb :=
  (runDeliverySubmissionPass samplePorts samplePorts.witnessKeyId [servedAttempt] appendedDb).2

private theorem served_reachable : ReachableDb samplePorts servedDb := by
  obtain ⟨now, submitterKeys, run⟩ := appended_reachable
  exact ⟨now, submitterKeys, run.tail (.pass [servedAttempt])⟩

/-- A pass that meets no fault stores the receipt of the one row, and its head is witnessed. -/
theorem receipts_are_witnessed_after_pass :
    receiptCount servedDb sampleEnvelope.conversationId = 1 ∧
      headCount servedDb sampleEnvelope.conversationId ≤ 2 ∧
      ∃ receipt ∈ servedDb.delivery.receipts, receipt.position = 1 ∧
        ∃ head ∈ servedDb.witness.deliveryHeads,
          head.conversationId = receipt.conversationId ∧ head.position = receipt.position := by
  have hcount : receiptCount servedDb sampleEnvelope.conversationId = 1 := by decide +kernel
  obtain ⟨receipt, hstored, hposition⟩ : ∃ receipt ∈ servedDb.delivery.receipts,
      receipt.position = 1 := by decide +kernel
  obtain ⟨hwitnessed, hlag⟩ := receipts_are_witnessed served_reachable
  have hle := (hlag sampleEnvelope.conversationId).2
  rw [hcount] at hle
  obtain ⟨row, -, head, hhead, leaf, -, -, -, hsame, hat, -⟩ := hwitnessed _ hstored
  exact ⟨hcount, hle, receipt, hstored, hposition, head, hhead, hsame, hat⟩

end

end JbChat.Witness.SubmitterProgress
