/- source: src/production/storage/membershipCommitStore.ts, externalProposalStore.ts
   digest: When the usage counters of a conversation stay within their limits. -/

import JbChat.Store.MemberEffects

set_option autoImplicit false

namespace JbChat.Store.UsageLimits

open Foundation.HashTrace Foundation.Transaction Delivery.ValueObjects Delivery.Instants
open Delivery.InstantOrder
open Delivery.Snapshot Delivery.SnapshotParse Delivery.EnvelopeLog Delivery.Hashes
open Delivery.SnapshotDigest (pass_hash)
open Delivery.RosterHash Delivery.PolicyHeadBody
open Documents Tables Store.Authority Provisioning PolicyHeads LogWriter AppendStore AppendEffects
open MembershipIntents ExternalProposals MembershipCommits MembershipModel
open MembershipRefinement MembershipSafety MemberEffects LogOrder

section

variable (keys : AuthorityDerivations) (H : HashFunction)

/-- What an announcement writes before the fences are rebuilt. -/
def announceRows (draft : EnvelopeDraft) (input : ConsumeCommitInput) (now : String)
    (db : DeliveryDb) : Except Failure DeliveryDb := do
  let conversationId := draft.conversationId
  let db ← deliverCommit draft now (fanoutInstallations db conversationId) db
  let db := emitEvent H conversationId "membership-commit-accepted"
    [("conversationId", conversationId), ("intentId", input.intentId),
      ("position", draft.position.repr)] now db
  insertPageEndProjectionFromRows conversationId draft.position now db

/-- What a Commit writes before the fences are rebuilt. -/
def commitWrites (signer : LogSigner) (entropy : CommitEntropy) (input : ConsumeCommitInput)
    (admitted : AdmittedCommit) (db : DeliveryDb) :
    Except CommitError (EnvelopeDraft × DeliveryDb) := do
  let now := entropy.now
  let draft ← thrown (draftEnvelope H (commitLeaf now input admitted)
    (some (input.baseConfirmedTranscriptHash, input.resultingConfirmedTranscriptHash)) input.commit
    admitted.conversation.currentLogHeadHash admitted.signingKeyId)
  let signature ← thrown (signer admitted.signingKeyId draft.logCheckpointDigest)
  let db ← thrown (insertEnvelope (draft.row signature) db)
  let db := commitIntent input.intentId input.envelopeId draft.position
    (commitProposals (consumedProposals input admitted.proposal) now db)
  let db ← thrown (applyBoundary H draft input admitted now db)
  let db ← projectCommit H draft input admitted now db
  let db ← reissueAuthority keys H entropy admitted draft.position db
  let db ← thrown (announceRows H draft input now db)
  .ok (draft, db)

/-- What a recording writes before the fences are rebuilt. -/
def proposalWrites (signer : LogSigner) (entropy : ProposalEntropy) (input : RecordProposalInput)
    (admitted : AdmittedProposal) (db : DeliveryDb) : Except Failure DeliveryDb := do
  let conversationId := admitted.intent.conversationId
  let draft ← draftEnvelope H (proposalLeaf H entropy input admitted) none input.publicMessage
    admitted.conversation.currentLogHeadHash admitted.signingKeyId
  let signature ← signer admitted.signingKeyId draft.logCheckpointDigest
  let db ← insertEnvelope (draft.row signature) db
  let db := updateConversation conversationId (advanceLog draft entropy.now) db
  let proposalHash ← computeExternalProposalHash H input.publicMessage
    input.authorizationRecordHash
  let db ← insertExternalProposal (proposalRow H entropy input admitted proposalHash) db
  let db := setIntentState (fun row => decide (row.intentId = input.intentId)) .proposed db
  insertPageEndProjectionFromRows conversationId draft.position entropy.now db

/-- The tables from which a writer of the membership lane rebuilds its snapshots. -/
inductive Rebuilds (db : DeliveryDb) : LogCall → DeliveryDb → Prop where
  | proposal {signer : LogSigner} {entropy : ProposalEntropy} {input : RecordProposalInput}
      {admitted : AdmittedProposal} {rebuilt : DeliveryDb} (formed : input.wellFormed = true)
      (admits : admitProposal db entropy.now input = .ok admitted)
      (writes : proposalWrites H signer entropy input admitted db = .ok rebuilt) :
      Rebuilds db (.membership (.recordProposal signer entropy input)) rebuilt
  | commit {signer : LogSigner} {entropy : CommitEntropy} {input : ConsumeCommitInput}
      {admitted : AdmittedCommit} {draft : EnvelopeDraft} {rebuilt : DeliveryDb}
      (formed : input.wellFormed H = true)
      (admits : admitCommit db entropy.now input = .ok admitted)
      (writes : commitWrites keys H signer entropy input admitted db = .ok (draft, rebuilt)) :
      Rebuilds db (.membership (.consumeCommit signer entropy input)) rebuilt

/-- The counters of a row are within its limits. -/
def Limited (row : LockedConversationUsage) : Prop :=
  row.envelopeCount ≤ row.envelopeCountLimit ∧ row.envelopeBytes ≤ row.envelopeBytesLimit ∧
    row.attachmentBytes ≤ row.attachmentBytesLimit

def WithinLimits (db : DeliveryDb) : Prop := ∀ row ∈ db.usage, Limited row

/-- A Commit that passes its checks finds room for one more envelope with its bytes. -/
def FindsRoom (db : DeliveryDb) : LogCall → Prop
  | .membership (.consumeCommit _ entropy input) => input.wellFormed H = true →
      ∀ admitted, admitCommit db entropy.now input = .ok admitted → ∀ row ∈ db.usage,
        row.conversationId = admitted.intent.conversationId →
          row.envelopeCount + 1 ≤ row.envelopeCountLimit ∧
            row.envelopeBytes + input.commit.length ≤ row.envelopeBytesLimit
  | _ => True

end

section

variable {keys : AuthorityDerivations} {H : HashFunction} {db : DeliveryDb}
  {row : LockedConversationUsage}

theorem limited_of_parsed (h : parseLockedConversationUsage row = .ok row) : Limited row := by
  have passed := (checked_eq_ok.mp h).1
  simp only [List.forall_mem_cons, refuse_eq_ok] at passed
  obtain ⟨-, -, -, -, -, -, -, hlimits, -⟩ := passed
  push Not at hlimits
  exact hlimits

theorem thrown_bind {α β : Type} (x : Except Failure α) (f : α → Except Failure β) :
    thrown (x >>= f) = thrown x >>= fun a => thrown (f a) := by
  cases x with
  | error failure => rfl
  | ok a => rfl

theorem announceCommit_eq (draft : EnvelopeDraft) (input : ConsumeCommitInput) (now : String) :
    announceCommit H draft input now db = (do
      let rebuilt ← announceRows H draft input now db
      let ((), written) ← refreshCustodySnapshotDigest H draft.conversationId rebuilt
      .ok written) := by
  unfold announceCommit announceRows
  simp only [bind_assoc]

theorem storeCommit_eq (signer : LogSigner) (entropy : CommitEntropy) (input : ConsumeCommitInput)
    (admitted : AdmittedCommit) :
    storeCommit keys H signer entropy input admitted db = (do
      let (draft, rebuilt) ← commitWrites keys H signer entropy input admitted db
      let ((), written) ← thrown (refreshCustodySnapshotDigest H draft.conversationId rebuilt)
      .ok ({ intentId := input.intentId
             envelopeId := input.envelopeId
             position := draft.position
             headHash := draft.headHash
             resultingEpoch := input.resultingEpoch
             resultingRosterVersion := input.expectedRosterVersion + 1
             consumedProposals := consumedProposals input admitted.proposal }, written)) := by
  unfold storeCommit commitWrites
  simp only [announceCommit_eq, thrown_bind, bind_assoc]
  rfl

theorem storeProposal_eq (signer : LogSigner) (entropy : ProposalEntropy)
    (input : RecordProposalInput) (admitted : AdmittedProposal) :
    Prod.snd <$> storeProposal H signer entropy input admitted db = (do
      let rebuilt ← proposalWrites H signer entropy input admitted db
      let ((), written) ← refreshCustodySnapshotDigest H admitted.intent.conversationId rebuilt
      .ok written) := by
  unfold storeProposal proposalWrites
  simp only [map_bind, bind_assoc]
  rfl

theorem consumeCommit_of_unbuilt {signer : LogSigner} {entropy : CommitEntropy}
    {input : ConsumeCommitInput} {admitted : AdmittedCommit} {draft : EnvelopeDraft}
    {rebuilt : DeliveryDb} {failure : Failure} (formed : input.wellFormed H = true)
    (admits : admitCommit db entropy.now input = .ok admitted)
    (writes : commitWrites keys H signer entropy input admitted db = .ok (draft, rebuilt))
    (unbuilt : refreshCustodySnapshotDigest H draft.conversationId rebuilt = .error failure) :
    consumeCommit keys H signer entropy input db = (.error failure, db) := by
  have hstore : storeCommit keys H signer entropy input admitted db = .error (.thrown failure) := by
    rw [storeCommit_eq, writes]
    change (thrown (refreshCustodySnapshotDigest H draft.conversationId rebuilt) >>= _) = _
    rw [unbuilt]
    rfl
  have htx : consumeCommitTx keys H signer entropy input db = .error (.thrown failure) := by
    unfold consumeCommitTx
    rw [admits]
    exact hstore
  unfold consumeCommit sqlBegin
  rw [if_pos formed, htx]

theorem refresh_of_overdrawn {conversationId : String} (hrow : row ∈ db.usage)
    (hsame : row.conversationId = conversationId) (beyond : ¬ Limited row)
    (hcustody : (db.custody.any fun row => decide (row.conversationId = conversationId)) = true)
    (hactive : activeInstallations db conversationId ≠ []) :
    ∃ failure, refreshCustodySnapshotDigest H conversationId db = .error failure := by
  cases hresult : refreshCustodySnapshotDigest H conversationId db with
  | error failure => exact ⟨failure, rfl⟩
  | ok answer =>
    exfalso
    obtain ⟨u, written⟩ := answer
    unfold refreshCustodySnapshotDigest at hresult
    rw [Tx.get_bind, if_pos hcustody] at hresult
    obtain ⟨⟨digest, fences⟩, hfences, -⟩ := Tx.lift_bind_eq_ok.mp hresult
    obtain ⟨installationId, others, hothers⟩ := List.exists_cons_of_ne_nil hactive
    rw [hothers] at hfences
    unfold refreshFences at hfences
    obtain ⟨rebuilt, hrebuilt, -⟩ := bind_ok.mp hfences
    obtain ⟨-, husage, ⟨value, hvalue⟩, -⟩ := reconstruct_eq_ok hrebuilt
    have hmem : row ∈ db.usage.filter fun row => decide (row.conversationId = conversationId) :=
      List.mem_filter.mpr ⟨hrow, decide_eq_true hsame⟩
    rw [husage] at hmem
    obtain rfl := List.mem_singleton.mp hmem
    have checks := (parseSnapshot_eq_ok.mp hvalue)
    have parsed := checks.1.usage
    rw [checks.2] at beyond
    exact beyond (limited_of_parsed parsed)

end

section

variable {keys : AuthorityDerivations} {H : HashFunction} {db written : DeliveryDb}
  {draft : EnvelopeDraft} {input : ConsumeCommitInput} {admitted : AdmittedCommit} {now : String}
  {signer : LogSigner} {entropy : CommitEntropy}

theorem applyBoundary_usage
    (h : applyBoundary H draft input admitted now db = .ok written) : written.usage = db.usage := by
  unfold applyBoundary at h
  split at h
  · obtain ⟨members, welcomes, rfl⟩ := admitMember_eq_ok h
    rfl
  · cases h
    rfl

theorem projectCommit_usage (h : projectCommit H draft input admitted now db = .ok written) :
    written.usage =
      (countCommit admitted.intent.conversationId input.commit.length db).usage := by
  unfold projectCommit at h
  obtain ⟨rosterHash, -, h⟩ := thrown_bind_eq_ok h
  obtain ⟨-, h⟩ := guard_ok.mp h
  obtain ⟨recipientSetHash, -, h⟩ := thrown_bind_eq_ok h
  cases h
  obtain ⟨roster, hroster⟩ := rewriteRoster_eq admitted (input.expectedRosterVersion + 1) db
  obtain ⟨recipients, hrecipients⟩ := rewriteRecipients_eq draft admitted
    (admitted.conversation.recipientSetVersion + 1)
    (rewriteRoster admitted (input.expectedRosterVersion + 1) db)
  rw [hrecipients, hroster]
  rfl

theorem announceRows_usage
    (h : announceRows H draft input now db = .ok written) : written.usage = db.usage := by
  unfold announceRows at h
  obtain ⟨delivered, hdelivered, h⟩ := bind_ok.mp h
  obtain ⟨pageEnds, rfl⟩ := insertPageEnd_eq_ok h
  have hsame : delivered.usage = db.usage :=
    congrArg MemberTables.usage (deliverCommit_same hdelivered).1.2
  exact hsame

theorem commitWrites_usage
    (h : commitWrites keys H signer entropy input admitted db = .ok (draft, written)) :
    written.usage =
      (countCommit admitted.intent.conversationId input.commit.length db).usage := by
  unfold commitWrites at h
  obtain ⟨drafted, hdraft, h⟩ := thrown_bind_eq_ok h
  obtain ⟨signature, -, h⟩ := thrown_bind_eq_ok h
  obtain ⟨logged, hlogged, h⟩ := thrown_bind_eq_ok h
  obtain ⟨bounded, hbounded, h⟩ := thrown_bind_eq_ok h
  obtain ⟨projected, hprojected, h⟩ := bind_ok.mp h
  obtain ⟨reissued, hreissued, h⟩ := bind_ok.mp h
  obtain ⟨announced, hannounced, h⟩ := thrown_bind_eq_ok h
  cases h
  obtain rfl := insertEnvelope_eq_ok hlogged
  have hbounded := applyBoundary_usage hbounded
  have hreissued : reissued.usage = projected.usage :=
    congrArg MemberTables.usage (reissueAuthority_same hreissued).1.2
  rw [announceRows_usage hannounced, hreissued, projectCommit_usage hprojected]
  unfold countCommit
  dsimp only
  rw [hbounded]
  rfl

theorem proposalWrites_usage {entropy : ProposalEntropy} {input : RecordProposalInput}
    {admitted : AdmittedProposal}
    (h : proposalWrites H signer entropy input admitted db = .ok written) :
    written.usage = db.usage := by
  unfold proposalWrites at h
  obtain ⟨draft, -, h⟩ := bind_ok.mp h
  obtain ⟨signature, -, h⟩ := bind_ok.mp h
  obtain ⟨logged, hlogged, h⟩ := bind_ok.mp h
  obtain ⟨proposalHash, -, h⟩ := bind_ok.mp h
  obtain ⟨proposed, hproposed, h⟩ := bind_ok.mp h
  obtain rfl := insertEnvelope_eq_ok hlogged
  obtain ⟨proposals, rfl⟩ := insertExternalProposal_eq_ok hproposed
  obtain ⟨pageEnds, rfl⟩ := insertPageEnd_eq_ok h
  rfl

theorem storeCommit_usage {value : CommittedMembership}
    (h : storeCommit keys H signer entropy input admitted db = .ok (value, written)) :
    written.usage =
      (countCommit admitted.intent.conversationId input.commit.length db).usage := by
  rw [storeCommit_eq] at h
  obtain ⟨⟨draft, rebuilt⟩, hwrites, h⟩ := bind_ok.mp h
  obtain ⟨⟨u, refreshed⟩, hrefresh, h⟩ := thrown_bind_eq_ok h
  cases h
  obtain ⟨fences, custody, rfl⟩ := refreshCustodySnapshotDigest_writes hrefresh
  have hcounted := commitWrites_usage hwrites
  exact hcounted

end

section

variable {keys : AuthorityDerivations} {H : HashFunction} {checks : DocumentChecks}
  {db written : DeliveryDb}

theorem WithinLimits.of_usage (within : WithinLimits db) (h : written.usage = db.usage) :
    WithinLimits written := by
  intro row hrow
  rw [h] at hrow
  exact within row hrow

theorem countCommit_limited {conversationId : String} {bytes : Nat} (within : WithinLimits db)
    (room : ∀ row ∈ db.usage, row.conversationId = conversationId →
      row.envelopeCount + 1 ≤ row.envelopeCountLimit ∧
        row.envelopeBytes + bytes ≤ row.envelopeBytesLimit) :
    WithinLimits (countCommit conversationId bytes db) := by
  intro row hrow
  rcases mem_updateWhere.mp hrow with ⟨old, hold, hsame, rfl⟩ | ⟨hold, -⟩
  · obtain ⟨hcount, hbytes⟩ := room old hold (of_decide_eq_true hsame)
    exact ⟨hcount, hbytes, (within old hold).2.2⟩
  · exact within row hold

theorem Rebuilds.limited {call : LogCall} {rebuilt : DeliveryDb} (within : WithinLimits db)
    (room : FindsRoom H db call) (h : Rebuilds keys H db call rebuilt) : WithinLimits rebuilt := by
  cases h with
  | proposal formed admits writes => exact within.of_usage (proposalWrites_usage writes)
  | commit formed admits writes =>
    exact (countCommit_limited within (room formed _ admits)).of_usage (commitWrites_usage writes)

theorem finalize_limited {clock : CallClock} {input : FinalizeApplicationAppendInput}
    {admitted : FinalizeAdmission} {acceptance : StoredAcceptance} {same : Bool}
    (within : WithinLimits db) (finalizable : Finalizable H clock input db admitted)
    (safe : ¬ Collision H [lockedSnapshotDigestInput admitted.authority.snapshot,
      lockedSnapshotDigestInput admitted.pending.persistedSnapshot])
    (appended : Appended H checks clock input admitted acceptance same db written) :
    WithinLimits written := by
  have inPlace := inPlace_of_parsed finalizable.pending
  have hsnapshot := snapshot_of_fence finalizable safe
  have husage := finalizable.authority.usage
  obtain ⟨count, bytes, attachments, hnext⟩ := inPlace.counted
  have limited := limited_of_parsed appended.limited
  intro row hrow
  rw [appended.usage] at hrow
  rcases mem_updateWhere.mp hrow with ⟨old, hold, hsame, rfl⟩ | ⟨hold, -⟩
  · rw [finalizable.signed] at hsame
    have hmem : old ∈ db.usage.filter fun row =>
        decide (row.conversationId = admitted.pending.envelope.conversationId) :=
      List.mem_filter.mpr ⟨hold, hsame⟩
    rw [husage] at hmem
    -- the row is the one that the intent was prepared on
    obtain rfl := List.mem_singleton.mp hmem
    rw [hnext] at limited ⊢
    rw [hsnapshot]
    exact limited
  · exact within row hold

theorem append_limited (call : AppendCall) (within : WithinLimits db)
    (safe : ¬ Collision H ((LogCall.append call).compares H checks db)) :
    WithinLimits (call.run H checks db).2 := by
  have kept : ∀ {after : DeliveryDb}, LogKept db after → WithinLimits after :=
    fun kept => within.of_usage (congrArg MemberTables.usage kept.members)
  unfold AppendCall.run
  rcases sqlBegin_cases (call.transaction H checks) db with
    ⟨outcome, final, htx, hrun⟩ | ⟨failure, -, hrun⟩
  · rw [hrun]
    cases call with
    | reserve clock input invocation prepareUnsigned =>
      rcases reserve_eq_ok htx with ⟨lanes, -, beside⟩ | ⟨-, beside, -⟩ | ⟨-, -, -, -, stored, -⟩
      · exact kept beside.toLogKept
      · exact kept beside.toLogKept
      · exact kept stored
    | retire clock input invocation =>
      rcases retire_eq_ok htx with ⟨-, rfl⟩ | ⟨-, beside⟩ | ⟨-, -, stored, -⟩
      · exact within
      · exact kept beside.toLogKept
      · exact kept stored
    | finalize clock input invocation =>
      rcases finalize_eq_ok htx with ⟨-, rfl⟩ | ⟨-, beside, -⟩ |
        ⟨admitted, acceptance, same, replay, hadmitted, appended, -⟩
      · exact within
      · exact kept beside.toLogKept
      · unfold LogCall.compares at safe
        dsimp only at safe
        rw [hadmitted] at safe
        exact finalize_limited within (admitFinalization_eq_ok hadmitted) safe appended
  · rw [hrun]
    exact within

theorem membership_limited (call : MembershipCall) (within : WithinLimits db)
    (room : FindsRoom H db (.membership call)) : WithinLimits (call.run H keys db) := by
  cases call with
  | createIntent entropy input =>
    rcases createIntent_members H keys entropy input db with htables | ⟨row, -, htables⟩
    · exact within.of_usage (congrArg MemberTables.usage htables)
    · exact within.of_usage (congrArg MemberTables.usage htables)
  | cancelIntent intentId requester =>
    exact within.of_usage (congrArg MemberTables.usage (cancelIntent_members intentId requester db))
  | expireIntents now =>
    exact within.of_usage (congrArg MemberTables.usage (expireIntents_members now db))
  | recordProposal signer entropy input =>
    exact within.of_usage
      (congrArg MemberTables.usage (recordProposal_members signer entropy input db))
  | consumeCommit signer entropy input =>
    rcases consumeCommit_cases H keys signer entropy input db with ⟨hsame, -⟩ |
      ⟨admitted, value, -, formed, admits, stored⟩
    · change WithinLimits (consumeCommit keys H signer entropy input db).2
      rw [hsame]
      exact within
    · exact (countCommit_limited within (room formed admitted admits)).of_usage
        (storeCommit_usage stored)

theorem LogCall.limited (call : LogCall) (within : WithinLimits db) (room : FindsRoom H db call)
    (safe : ¬ Collision H (call.compares H checks db)) :
    WithinLimits (call.run H keys checks db) := by
  cases call with
  | membership call => exact membership_limited call within room
  | append call => exact append_limited call within safe

end

section

variable (H : HashFunction) (keys : AuthorityDerivations) (checks : DocumentChecks)

variable {H keys checks} in
theorem runLog_limited (calls : List LogCall) {db : DeliveryDb} (within : WithinLimits db)
    (room : ∀ before call after, calls = before ++ call :: after →
      FindsRoom H (runLog H keys checks before db) call)
    (safe : ∀ before call after, calls = before ++ call :: after →
      ¬ Collision H (call.compares H checks (runLog H keys checks before db))) :
    WithinLimits (runLog H keys checks calls db) := by
  induction calls generalizing db with
  | nil => exact within
  | cons call calls ih =>
    have next : WithinLimits (call.run H keys checks db) :=
      LogCall.limited call within (room [] call calls rfl) (safe [] call calls rfl)
    refine ih next ?_ ?_
    · intro before other after hcalls
      exact room (call :: before) other after (congrArg (call :: ·) hcalls)
    · intro before other after hcalls
      exact safe (call :: before) other after (congrArg (call :: ·) hcalls)

/-- In a run whose Commits find room, the counters stay within their limits, and so do those of
every snapshot that a proposal or a Commit has to rebuild. -/
theorem usage_never_blocks (start : DeliveryDb) (within : WithinLimits start)
    (calls : List LogCall)
    (room : ∀ before call after, calls = before ++ call :: after →
      FindsRoom H (runLog H keys checks before start) call)
    (safe : ∀ before call after, calls = before ++ call :: after →
      ¬ Collision H (call.compares H checks (runLog H keys checks before start))) :
    (∀ before after, calls = before ++ after →
        WithinLimits (runLog H keys checks before start)) ∧
      ∀ before call after rebuilt, calls = before ++ call :: after →
        Rebuilds keys H (runLog H keys checks before start) call rebuilt →
          WithinLimits rebuilt := by
  have reached : ∀ before after, calls = before ++ after →
      WithinLimits (runLog H keys checks before start) := by
    rintro before after rfl
    refine runLog_limited before within ?_ ?_
    · intro first call rest hbefore
      refine room first call (rest ++ after) ?_
      rw [hbefore, List.append_assoc, List.cons_append]
    · intro first call rest hbefore
      refine safe first call (rest ++ after) ?_
      rw [hbefore, List.append_assoc, List.cons_append]
  refine ⟨reached, ?_⟩
  intro before call after rebuilt hcalls hrebuilds
  exact hrebuilds.limited (reached before (call :: after) hcalls) (room before call after hcalls)

end

section

variable {keys : AuthorityDerivations} {H : HashFunction} {db : DeliveryDb}
  {admitted : AdmittedCommit}

theorem projectCommit_of_hashes {draft : EnvelopeDraft} {input : ConsumeCommitInput} {now : String}
    {recipientSetHash : Bytes}
    (hroster : currentRosterHash H admitted.conversation (input.expectedRosterVersion + 1)
      (rewriteRoster admitted (input.expectedRosterVersion + 1) db) = .ok input.proposedRosterHash)
    (hrecipients : currentRecipientSetHash H admitted.conversation
      (admitted.conversation.recipientSetVersion + 1)
      (rewriteRecipients draft admitted (admitted.conversation.recipientSetVersion + 1)
        (rewriteRoster admitted (input.expectedRosterVersion + 1) db)) = .ok recipientSetHash) :
    projectCommit H draft input admitted now db =
      .ok (countCommit admitted.intent.conversationId input.commit.length
        (updateConversation admitted.intent.conversationId
          (commitRow draft input (input.expectedRosterVersion + 1)
            (admitted.conversation.recipientSetVersion + 1) recipientSetHash now)
          (rewriteRecipients draft admitted (admitted.conversation.recipientSetVersion + 1)
            (rewriteRoster admitted (input.expectedRosterVersion + 1) db)))) := by
  unfold projectCommit
  dsimp only
  rw [hroster, hrecipients]
  exact if_neg (not_not.mpr rfl)

/-- The head that an issuance returns. -/
def issuedHead (H : HashFunction) (body : UnsignedBody) : IssuedPolicyHead where
  policyHeadId := body.policyHeadId
  policyHeadSequence := body.policyHeadSequence
  policyHeadHash := computePolicyHeadHash H (utf8 body.canonical)
  previousPolicyHeadHash := body.previousPolicyHeadHash
  canonicalSignedBody := body.canonical
  issuedAt := body.issuedAt
  expiresAt := body.expiresAt

/-- The tables behind the first stored head of a conversation. -/
def headDb (keys : AuthorityDerivations) (H : HashFunction) (signer : PolicyHeadSigner)
    (input : PolicyHeadIssuanceInput) (body : UnsignedBody) (db : DeliveryDb) : DeliveryDb :=
  let policyHeadHash := computePolicyHeadHash H (utf8 body.canonical)
  { db with
    policy := insertHeadSets body.policyHeadId input { db.policy with
      policyHeads := [{
        policyHeadId := body.policyHeadId
        conversationId := input.conversationId
        policyHeadSequence := body.policyHeadSequence
        previousPolicyHeadHash := body.previousPolicyHeadHash
        policyHeadHash := policyHeadHash
        issuedAt := body.issuedAt
        expiresAt := body.expiresAt
        policyHeadSigningKeyId := signer.signerKeyId
        canonicalSignedBody := body.canonical
        canonicalSignedBodySha256 := sha256Bytes H [utf8 body.canonical]
        signature := keys.sign signer.seed policyHeadHash }] }
    conversations := updateWhere (fun row => decide (row.conversationId = input.conversationId))
      (fun row => { row with
        currentPolicyHeadSequence := body.policyHeadSequence
        currentPolicyHeadHash := policyHeadHash }) db.conversations }

theorem storePolicyHead_of_checks {signer : PolicyHeadSigner} {input : PolicyHeadIssuanceInput}
    {body : UnsignedBody} (hsize : (utf8 body.canonical).length ≤ maxCanonicalBodyBytes)
    (hvalid : issuanceHashesValid input = true)
    (hexist : headReferencesExist input signer.signerKeyId db.policy = true)
    (hdistinct : (input.sendGrantSetMembers.map SendGrantSetMemberEntry.grantEvidenceDigest).Nodup)
    (hfirst : db.policy.policyHeads = []) :
    storePolicyHead keys H signer input body db =
      .ok (issuedHead H body, headDb keys H signer input body db) := by
  unfold storePolicyHead
  dsimp only
  rw [if_neg (Nat.not_lt.mpr hsize), if_neg (not_not.mpr hvalid), if_neg (not_not.mpr hexist),
    if_neg (not_not.mpr hdistinct)]
  unfold insertPolicyHead
  rw [hfirst]
  rfl

theorem reissueHead_of_head {entropy : CommitEntropy} {provision : ProvisionRow}
    {material : GrantMaterial} {position : Nat} {sender : ExternalSenderCredentialRow}
    {conversation : ConversationRow} {projectRef : ProjectRefRow} {issued : IssuedPolicyHead}
    {moved anchored : DeliveryDb} {policyHeadId : String} {sequence : Nat} {digest : Bytes}
    (hsender : onlyRow (db.policy.externalSenderCredentials.filter fun row =>
      decide (row.credentialId = provision.currentExternalSenderCredentialId)) = some sender)
    (hconversation : (db.conversations.find? fun row =>
      decide (row.conversationId = admitted.intent.conversationId)) = some conversation)
    (hproject : (db.policy.projectRefs.find? fun row =>
      decide (row.projectRefId = admitted.conversation.projectRefId)) = some projectRef)
    (hissued : issuePolicyHead keys H ⟨provision.policyHeadSigningKeyId,
        keys.deriveSeed "policy-head-signer" admitted.conversation.projectRefId⟩
      entropy.head.policyHeadId entropy.head.issuedAt
      (issuanceInput keys (reissueInput admitted provision [material] material.installationId
        entropy.now) projectRef.chainId sender [sealGrant H (unanchoredGrant keys
          (reissueInput admitted provision [material] material.installationId entropy.now)
          (conversation.currentPolicyHeadSequence + 1) material)]) db = .ok (issued, moved))
    (hsequence : issued.policyHeadSequence = conversation.currentPolicyHeadSequence + 1)
    (hanchored : anchorHead keys H (reissueInput admitted provision [material]
        material.installationId entropy.now) entropy.head issued
      [anchoredGrant H issued.policyHeadHash (unanchoredGrant keys (reissueInput admitted provision
        [material] material.installationId entropy.now)
          (conversation.currentPolicyHeadSequence + 1) material)]
      (anchoredGrant H issued.policyHeadHash (unanchoredGrant keys (reissueInput admitted provision
        [material] material.installationId entropy.now)
          (conversation.currentPolicyHeadSequence + 1) material)) moved =
        .ok (.issued policyHeadId sequence digest, anchored)) :
    reissueHead keys H entropy admitted provision [material] material.installationId position db =
      .ok (recordPolicyTransition admitted.intent.conversationId policyHeadId sequence digest position
        entropy.now anchored) := by
  have hselected : (((reissueInput admitted provision [material] material.installationId
      entropy.now).grants.map (unanchoredGrant keys (reissueInput admitted provision [material]
        material.installationId entropy.now) (conversation.currentPolicyHeadSequence + 1))).find?
          fun grant => decide (grant.installationId = (reissueInput admitted provision [material]
            material.installationId entropy.now).selectedInstallationId)) =
      some (unanchoredGrant keys (reissueInput admitted provision [material]
        material.installationId entropy.now) (conversation.currentPolicyHeadSequence + 1)
          material) :=
    List.find?_cons_of_pos (decide_eq_true rfl)
  have hsent : issueForSender keys H (reissueInput admitted provision [material]
      material.installationId entropy.now) entropy.head sender conversation projectRef.chainId db =
        .ok (.issued policyHeadId sequence digest, anchored) := by
    unfold issueForSender
    dsimp only
    rw [hselected]
    refine bind_ok.mpr ⟨_, hissued, ?_⟩
    dsimp only
    rw [if_neg (not_not.mpr hsequence)]
    exact hanchored
  have hhead : issueConversationPolicyHead keys H (reissueInput admitted provision [material]
      material.installationId entropy.now) entropy.head db =
        .ok (.issued policyHeadId sequence digest, anchored) := by
    unfold issueConversationPolicyHead reissueInput
    dsimp only
    rw [hsender, hconversation, hproject]
    exact hsent
  unfold reissueHead
  rw [hhead]
  rfl

end

section

open RotationSafety

def plainHash : HashFunction where
  digest _ := List.replicate 32 7
  length_digest _ := List.length_replicate

def plainKeys : AuthorityDerivations where
  deriveSeed _ _ := List.replicate 32 1
  publicRaw seed := seed
  sign seed message := seed ++ message
  verify _ _ _ := true

def plainSigner : LogSigner := fun _ _ => .ok (List.replicate 64 1)

def plainChecks : DocumentChecks :=
  ⟨fun _ _ => .ok (), fun _ _ => .ok (), fun _ _ => .ok (), fun _ _ => .ok (), fun _ _ => .ok (),
    fun _ _ => .ok (), fun _ _ => .ok "", fun _ _ => .ok ""⟩

/-- As many envelopes as the conversation may hold. -/
def fullUsage : LockedConversationUsage where
  conversationId := sampleConversationId
  envelopeCount := 10000
  envelopeBytes := 5000000
  attachmentBytes := 0
  envelopeCountLimit := 10000
  envelopeBytesLimit := 33554432
  attachmentBytesLimit := 134217728

def sampleProposal : ExternalProposalRow where
  proposalId := "00000000-0000-4000-8000-000000000101"
  proposalHash := List.replicate 32 20
  intentId := sampleEntropy.intentId
  conversationId := sampleConversationId
  envelopeId := "00000000-0000-4000-8000-000000000102"
  envelopePosition := 4
  baseEpoch := 2
  publicMessage := [1]
  publicMessageSha256 := List.replicate 32 7
  authorizationRecordHash := List.replicate 32 21
  signerExternalSenderCredentialId := "00000000-0000-4000-8000-000000000103"
  signerExternalSenderFingerprint := List.replicate 32 22
  signerGeneration := 1
  transparencyCheckpointId := "00000000-0000-4000-8000-000000000104"
  createdAt := "2026-08-14T16:21:00.000Z"
  expiresAt := "2026-08-14T16:25:00.000Z"
  committedAt := none

def sampleRecipient (accountId installationId credentialId : String) (ordinal : Nat) :
    RecipientProjectionRow where
  conversationId := sampleConversationId
  conversationGeneration := 1
  recipientSetVersion := 2
  accountId := accountId
  installationId := installationId
  credentialId := credentialId
  credentialFingerprint := List.replicate 32 ordinal.toUInt8
  credentialRevocationVersion := 1
  credentialState := .active
  credentialExpiresAt := "2026-09-14T16:00:00.000Z"
  joinedPosition := 1
  removedPosition := none
  installationState := .active
  ordinal := ordinal

def staffGrant : LockedConversationSendGrant where
  conversationId := sampleConversationId
  installationId := staffInstallationId
  credentialId := staffCredentialId
  conversationKind := .purchaseSupport
  conversationGeneration := 1
  role := .projectStaff
  roleCredentialId := staffCredentialId
  roleCredentialFingerprint := List.replicate 32 0
  roleCredentialSubjectAccountId := staffAccountId
  roleCredentialSubjectInstallationId := staffInstallationId
  roleCredentialValidFrom := "2026-08-14T15:00:00.000Z"
  roleCredentialValidUntil := "2026-09-14T16:00:00.000Z"
  state := .active
  policyRevision := 1
  policyHeadSequence := 2
  policyHeadHash := List.replicate 32 9
  expiresAt := "2026-09-14T16:00:00.000Z"
  grantEvidenceDigest := List.replicate 32 7
  grantInclusionEvidenceDigest := List.replicate 32 1

def staffRole : RoleCredentialRow :=
  ⟨staffCredentialId, sampleConversationId, staffInstallationId, staffAccountId, "p",
    .projectStaff, List.replicate 32 0, "2026-08-14T15:00:00.000Z", "2026-09-14T16:00:00.000Z", 1,
    .active⟩

def sampleAnchor : LockedWitnessedPolicyHead :=
  { JbChat.Delivery.QuotaConservation.samplePolicyHead with
    conversationId := sampleConversationId
    policyHeadSequence := 2
    witnessCheckpointId := some "00000000-0000-4000-8000-00000000010d" }

def fullSender : ExternalSenderCredentialRow :=
  ⟨"00000000-0000-4000-8000-000000000103", sampleConversation.projectRefId, 1, [1],
    List.replicate 32 22, 0, 4000000000000, .published⟩

def fullProvision : ProvisionRow :=
  ⟨sampleConversation.projectRefId, "00000000-0000-4000-8000-000000000108", 1,
    "00000000-0000-4000-8000-000000000106", "00000000-0000-4000-8000-000000000107",
    "00000000-0000-4000-8000-000000000103", "00000000-0000-4000-8000-000000000109",
    "00000000-0000-4000-8000-000000000105"⟩

def samplePolicy : PolicyTables :=
  { sampleStart with
    externalSenderCredentials := [fullSender]
    policyHeadSigningKeys := [⟨"00000000-0000-4000-8000-000000000105",
      sampleConversation.projectRefId, List.replicate 32 1, List.replicate 32 7, 0, 4000000000000,
      .active⟩]
    policyLogCheckpoints := [⟨"00000000-0000-4000-8000-000000000106", 1, List.replicate 32 7, none,
      "provision", []⟩]
    directoryCheckpoints := [⟨"00000000-0000-4000-8000-000000000107", 1, List.replicate 32 7,
      "provision", []⟩]
    provisions := [fullProvision]
    projectRefs := [⟨sampleConversation.projectRefId, "eip155:8453", 1⟩] }

/-- The customer's removal is proposed, and the conversation is full. -/
def fullDb : DeliveryDb :=
  { pendingDb with
    membershipIntents := [{ sampleIntent with
      state := .proposed
      proposedRosterHash := List.replicate 32 7 }]
    sendGrants := [staffGrant]
    roleCredentials := [staffRole]
    policyHeadAnchors := [sampleAnchor]
    usage := [fullUsage]
    quotaBindings := quotaScopes.mapIdx fun ordinal scope => ⟨sampleConversationId, ordinal,
      ⟨scope, List.replicate 32 7, "append", "2026-08-14T00:00:00.000Z", 86400, 10000, 1000000⟩⟩
    quotaCounters := fun _ => some ⟨0, 0, 0, 0, 0, "2026-08-14T00:00:00.000Z"⟩
    recipientProjections := [
      sampleRecipient staffAccountId staffInstallationId staffCredentialId 0,
      sampleRecipient customerAccountId customerInstallationId customerCredentialId 1]
    signingKeys := [⟨"log-1", .active, "2026-08-14T00:00:00.000Z", "2026-09-14T00:00:00.000Z"⟩]
    custody := [⟨sampleConversationId, sampleConversation.realmId, List.replicate 32 7, "log-1",
      1⟩]
    policy := samplePolicy
    admission := { pendingDb.admission with externalProposals := [sampleProposal] } }

def fullCommit : ConsumeCommitInput where
  intentId := sampleEntropy.intentId
  committerInstallationId := staffInstallationId
  expectedEpoch := 2
  expectedRosterVersion := 2
  proposedRosterHash := List.replicate 32 7
  mandatoryProposals := []
  envelopeId := "00000000-0000-4000-8000-00000000010a"
  commit := [1]
  envelopeSha256 := List.replicate 32 7
  baseConfirmedTranscriptHash := List.replicate 32 7
  resultingConfirmedTranscriptHash := List.replicate 32 8
  resultingEpoch := 3
  welcomeByInstallation := []
  targetCredentialId := none

def fullEntropy : CommitEntropy :=
  ⟨"2026-08-14T16:22:00.000Z", ⟨"00000000-0000-4000-8000-00000000010b",
    "2026-08-14T16:22:00.000Z", "00000000-0000-4000-8000-00000000010c"⟩⟩

def fullCall : LogCall := .membership (.consumeCommit plainSigner fullEntropy fullCommit)

def admittedFull : AdmittedCommit where
  conversation := { sampleConversation with state := .membershipPending }
  intent := { sampleIntent with
    state := .proposed
    proposedRosterHash := List.replicate 32 7 }
  proposal := sampleProposal
  committerAccountId := staffAccountId
  target := none
  signingKeyId := "log-1"

def fullDraft : EnvelopeDraft :=
  { commitLeaf fullEntropy.now fullCommit admittedFull with
    transcript := some (List.replicate 32 7, List.replicate 32 8)
    envelopeBytes := [1]
    previousHeadHash := List.replicate 32 8
    leafHash := List.replicate 32 7
    headHash := List.replicate 32 7
    logSigningKeyId := "log-1"
    logCheckpointDigest := List.replicate 32 7 }

theorem draftEnvelope_full : draftEnvelope plainHash
    (commitLeaf fullEntropy.now fullCommit admittedFull)
    (some (fullCommit.baseConfirmedTranscriptHash, fullCommit.resultingConfirmedTranscriptHash))
    fullCommit.commit admittedFull.conversation.currentLogHeadHash admittedFull.signingKeyId =
      .ok fullDraft := by
  have hleaf : computeEnvelopeLeafHash plainHash
      (commitLeaf fullEntropy.now fullCommit admittedFull) = .ok (List.replicate 32 7) := by
    decide +kernel
  have hhead : computeLogHeadHash plainHash (List.replicate 32 8) (List.replicate 32 7) =
      .ok (List.replicate 32 7) := by
    decide +kernel
  have hdigest : logCheckpointDigest plainHash sampleConversationId 5 (List.replicate 32 8)
      (List.replicate 32 7) "log-1" = .ok (List.replicate 32 7) := by
    decide +kernel
  exact bind_ok.mpr ⟨_, hleaf, bind_ok.mpr ⟨_, hhead, bind_ok.mpr ⟨_, hdigest, rfl⟩⟩⟩

def loggedDb : DeliveryDb := { fullDb with envelopes := [fullDraft.row (List.replicate 64 1)] }

/-- The tables behind the log row and the states of the removal. -/
def committedDb : DeliveryDb :=
  commitIntent fullCommit.intentId fullCommit.envelopeId fullDraft.position
    (commitProposals (consumedProposals fullCommit admittedFull.proposal) fullEntropy.now loggedDb)

def removedDb : DeliveryDb :=
  removeMember fullDraft admittedFull.intent fullEntropy.now committedDb

theorem currentRosterHash_removed : currentRosterHash plainHash admittedFull.conversation 3
    (rewriteRoster admittedFull 3 removedDb) = .ok (List.replicate 32 7) := by
  decide +kernel

theorem currentRecipientSetHash_removed : currentRecipientSetHash plainHash
    admittedFull.conversation 3 (rewriteRecipients fullDraft admittedFull 3
      (rewriteRoster admittedFull 3 removedDb)) = .ok (List.replicate 32 7) := by
  decide +kernel

/-- The tables behind the boundary, with the projections and the counters of the Commit. -/
def projectedDb : DeliveryDb :=
  countCommit sampleConversationId fullCommit.commit.length
    (updateConversation sampleConversationId
      (commitRow fullDraft fullCommit 3 3 (List.replicate 32 7) fullEntropy.now)
      (rewriteRecipients fullDraft admittedFull 3 (rewriteRoster admittedFull 3 removedDb)))

theorem projectCommit_removed :
    projectCommit plainHash fullDraft fullCommit admittedFull fullEntropy.now removedDb =
      .ok projectedDb :=
  projectCommit_of_hashes currentRosterHash_removed currentRecipientSetHash_removed

def revokedDb : DeliveryDb := revokeGrant admittedFull.intent projectedDb

def movedConversation : ConversationRow :=
  commitRow fullDraft fullCommit 3 3 (List.replicate 32 7) fullEntropy.now
    { sampleConversation with state := .membershipPending }

theorem readProjectProvision_projected :
    readProjectProvision projectedDb admittedFull.conversation.projectRefId =
      some fullProvision := by
  rfl

theorem activeGrants_revoked :
    activeGrants sampleConversationId revokedDb = [materialOf staffGrant] := by
  rfl

theorem conversations_revoked : revokedDb.conversations = [movedConversation] := rfl

def fullReissue : IssueConversationPolicyHeadInput :=
  reissueInput admittedFull fullProvision [materialOf staffGrant] staffInstallationId
    fullEntropy.now

def fullIssuance : PolicyHeadIssuanceInput :=
  issuanceInput plainKeys fullReissue "eip155:8453" fullSender
    [sealGrant plainHash (unanchoredGrant plainKeys fullReissue 3 (materialOf staffGrant))]

def fullHeadSigner : PolicyHeadSigner :=
  ⟨"00000000-0000-4000-8000-000000000105", List.replicate 32 1⟩

def fullBody : UnsignedBody :=
  unsignedBody plainHash fullIssuance movedConversation "00000000-0000-4000-8000-00000000010b"
    "2026-08-14T16:22:00.000Z" "2026-08-14T16:27:00.000Z" "00000000-0000-4000-8000-000000000105"

theorem fullBody_size : (utf8 fullBody.canonical).length ≤ maxCanonicalBodyBytes := by
  decide +kernel

def reissuedDb : DeliveryDb :=
  headDb plainKeys plainHash fullHeadSigner fullIssuance fullBody revokedDb

theorem issuePolicyHead_full : issuePolicyHead plainKeys plainHash fullHeadSigner
    fullEntropy.head.policyHeadId fullEntropy.head.issuedAt fullIssuance revokedDb =
      .ok (issuedHead plainHash fullBody, reissuedDb) := by
  have hrow : onlyRow (revokedDb.conversations.filter fun row =>
      decide (row.conversationId = fullIssuance.conversationId)) = some movedConversation := by
    rw [conversations_revoked]
    rfl
  have hlater : dateParse "2026-08-14T16:22:00.000Z" + headValidityMilliseconds =
      dateParse "2026-08-14T16:27:00.000Z" := rfl
  have hexpiry : laterInstant fullEntropy.head.issuedAt headValidityMilliseconds =
      .ok "2026-08-14T16:27:00.000Z" := by
    change laterInstant "2026-08-14T16:22:00.000Z" headValidityMilliseconds = _
    unfold laterInstant
    rw [hlater, toISOString_dateParse rfl]
  unfold issuePolicyHead
  rw [hrow]
  dsimp only
  rw [hexpiry]
  refine bind_ok.mpr ⟨_, rfl, ?_⟩
  rw [if_neg (by decide)]
  exact storePolicyHead_of_checks fullBody_size rfl rfl (by decide +kernel) rfl

/-- The anchored head of the one member who stays. -/
def fullAnchoring : Except Failure (IssuedConversationPolicyHead × DeliveryDb) :=
  anchorHead plainKeys plainHash fullReissue fullEntropy.head (issuedHead plainHash fullBody)
    [anchoredGrant plainHash (issuedHead plainHash fullBody).policyHeadHash
      (unanchoredGrant plainKeys fullReissue 3 (materialOf staffGrant))]
    (anchoredGrant plainHash (issuedHead plainHash fullBody).policyHeadHash
      (unanchoredGrant plainKeys fullReissue 3 (materialOf staffGrant))) reissuedDb

def rebuildable (rebuilt : DeliveryDb) : Bool :=
  decide (activeInstallations rebuilt sampleConversationId ≠ []) &&
    rebuilt.custody.any fun row => decide (row.conversationId = sampleConversationId)

/-- The head is anchored and announced, and there are fences to rebuild. -/
def announces (result : Except Failure (IssuedConversationPolicyHead × DeliveryDb)) : Bool :=
  match result with
  | .ok (.issued policyHeadId sequence digest, db) =>
    match announceRows plainHash fullDraft fullCommit fullEntropy.now
        (recordPolicyTransition sampleConversationId policyHeadId sequence digest 5
          fullEntropy.now db) with
    | .ok rebuilt => rebuildable rebuilt
    | .error _ => false
  | _ => false

theorem announces_full : announces fullAnchoring = true := by decide +kernel

theorem exists_of_announces {result : Except Failure (IssuedConversationPolicyHead × DeliveryDb)}
    (h : announces result = true) :
    ∃ policyHeadId sequence digest anchored rebuilt,
      result = .ok (.issued policyHeadId sequence digest, anchored) ∧
        announceRows plainHash fullDraft fullCommit fullEntropy.now
          (recordPolicyTransition sampleConversationId policyHeadId sequence digest 5
            fullEntropy.now anchored) = .ok rebuilt ∧ rebuildable rebuilt = true := by
  unfold announces at h
  split at h
  · next policyHeadId sequence digest anchored =>
      split at h
      · next rebuilt hrebuilt =>
          exact ⟨policyHeadId, sequence, digest, anchored, rebuilt, rfl, hrebuilt, h⟩
      · exact absurd h (by decide)
  · exact absurd h (by decide)

theorem commitWrites_full : ∃ rebuilt,
    commitWrites plainKeys plainHash plainSigner fullEntropy fullCommit admittedFull fullDb =
      .ok (fullDraft, rebuilt) ∧ rebuildable rebuilt = true := by
  obtain ⟨policyHeadId, sequence, digest, anchored, rebuilt, hanchored, hrebuilt, hready⟩ :=
    exists_of_announces announces_full
  have hhead : reissueHead plainKeys plainHash fullEntropy admittedFull fullProvision
      [materialOf staffGrant] (materialOf staffGrant).installationId 5 revokedDb =
        .ok (recordPolicyTransition sampleConversationId policyHeadId sequence digest 5
          fullEntropy.now anchored) := by
    have hconversation : (revokedDb.conversations.find? fun row =>
        decide (row.conversationId = admittedFull.intent.conversationId)) =
          some movedConversation := by
      rw [conversations_revoked]
      rfl
    have hsender : onlyRow (revokedDb.policy.externalSenderCredentials.filter fun row =>
        decide (row.credentialId = fullProvision.currentExternalSenderCredentialId)) =
          some fullSender := by
      rfl
    have hproject : (revokedDb.policy.projectRefs.find? fun row =>
        decide (row.projectRefId = admittedFull.conversation.projectRefId)) =
          some ⟨sampleConversation.projectRefId, "eip155:8453", 1⟩ := by
      rfl
    exact reissueHead_of_head hsender hconversation hproject issuePolicyHead_full rfl hanchored
  have hauthority : reissueAuthority plainKeys plainHash fullEntropy admittedFull 5 projectedDb =
      .ok (recordPolicyTransition sampleConversationId policyHeadId sequence digest 5
        fullEntropy.now anchored) := by
    unfold reissueAuthority
    dsimp only
    rw [readProjectProvision_projected]
    have hgrants : activeGrants admittedFull.intent.conversationId
        (revokeGrant admittedFull.intent projectedDb) = [materialOf staffGrant] :=
      activeGrants_revoked
    have htarget : admittedFull.target = none := rfl
    dsimp only
    rw [htarget]
    dsimp only
    rw [hgrants]
    exact hhead
  refine ⟨rebuilt, ?_, hready⟩
  have hsigned : (thrown (plainSigner "log-1" fullDraft.logCheckpointDigest)) =
      .ok (List.replicate 64 1) := rfl
  have hinserted : thrown (insertEnvelope (fullDraft.row (List.replicate 64 1)) fullDb) =
      .ok loggedDb := rfl
  have hboundary : thrown (applyBoundary plainHash fullDraft fullCommit admittedFull
      fullEntropy.now committedDb) = .ok removedDb := rfl
  refine bind_ok.mpr ⟨fullDraft, thrown_eq_ok.mpr draftEnvelope_full, ?_⟩
  refine bind_ok.mpr ⟨_, hsigned, ?_⟩
  refine bind_ok.mpr ⟨_, hinserted, ?_⟩
  refine bind_ok.mpr ⟨_, hboundary, ?_⟩
  refine bind_ok.mpr ⟨_, projectCommit_removed, ?_⟩
  refine bind_ok.mpr ⟨_, hauthority, ?_⟩
  exact bind_ok.mpr ⟨_, thrown_eq_ok.mpr hrebuilt, rfl⟩

theorem fullCommit_formed : fullCommit.wellFormed plainHash = true := by rfl

theorem admitCommit_full :
    admitCommit fullDb fullEntropy.now fullCommit = .ok admittedFull := by
  rfl

/-- The removal passes its checks, and is refused once its fences are rebuilt. -/
theorem full_conversation_blocks_removals :
    WithinLimits fullDb ∧ fullCommit.wellFormed plainHash = true ∧
      admitCommit fullDb fullEntropy.now fullCommit = .ok admittedFull ∧
      (∃ rebuilt, Rebuilds plainKeys plainHash fullDb fullCall rebuilt ∧ ¬ WithinLimits rebuilt) ∧
      ∃ failure, consumeCommit plainKeys plainHash plainSigner fullEntropy fullCommit fullDb =
        (.error failure, fullDb) := by
  obtain ⟨rebuilt, hwrites, hready⟩ := commitWrites_full
  have husage : rebuilt.usage =
      [{ fullUsage with envelopeCount := 10001, envelopeBytes := 5000001 }] := by
    rw [commitWrites_usage hwrites]
    rfl
  have hrow : { fullUsage with envelopeCount := 10001, envelopeBytes := 5000001 } ∈
      rebuilt.usage := by
    rw [husage]
    exact List.mem_singleton_self _
  have beyond : ¬ Limited { fullUsage with envelopeCount := 10001, envelopeBytes := 5000001 } := by
    intro limited
    exact absurd limited.1 (by decide)
  obtain ⟨hactive, hcustody⟩ := (Bool.and_eq_true _ _).mp hready
  obtain ⟨failure, unbuilt⟩ := refresh_of_overdrawn (H := plainHash) hrow rfl beyond hcustody
    (of_decide_eq_true hactive)
  refine ⟨?_, fullCommit_formed, admitCommit_full, ⟨rebuilt, ?_, fun within => ?_⟩, failure, ?_⟩
  · intro row hmem
    rw [List.mem_singleton.mp hmem]
    exact ⟨le_rfl, by decide, by decide⟩
  · exact .commit fullCommit_formed admitCommit_full hwrites
  · exact beyond (within _ hrow)
  · exact consumeCommit_of_unbuilt fullCommit_formed admitCommit_full hwrites unbuilt

/-- The same conversation after nine envelopes. -/
def roomDb : DeliveryDb := { fullDb with usage := [{ fullUsage with envelopeCount := 9 }] }

theorem usage_never_blocks_removal :
    WithinLimits (runLog plainHash plainKeys plainChecks [fullCall] roomDb) := by
  have within : WithinLimits roomDb := by
    intro row hmem
    rw [List.mem_singleton.mp hmem]
    exact ⟨by decide, by decide, by decide⟩
  have alone : ∀ {before call after}, [fullCall] = before ++ call :: after →
      before = [] ∧ call = fullCall := by
    intro before call after hcalls
    obtain ⟨hbefore, hcall⟩ | ⟨-, hcall⟩ := List.singleton_eq_append_iff.mp hcalls
    · exact ⟨hbefore, (List.cons.inj hcall).1⟩
    · exact absurd hcall (List.cons_ne_nil _ _)
  refine (usage_never_blocks plainHash plainKeys plainChecks roomDb within [fullCall] ?_ ?_).1
    [fullCall] [] rfl
  · intro before call after hcalls
    obtain ⟨rfl, rfl⟩ := alone hcalls
    intro formed admitted admits row hmem hsame
    rw [List.mem_singleton.mp hmem]
    exact ⟨by decide, by decide⟩
  · intro before call after hcalls
    obtain ⟨rfl, rfl⟩ := alone hcalls
    rintro ⟨input, hinput, -⟩
    exact List.not_mem_nil hinput

end

end JbChat.Store.UsageLimits
