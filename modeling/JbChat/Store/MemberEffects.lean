/- source: src/production/storage/membershipIntentStore.ts, externalProposalStore.ts,
     membershipCommitStore.ts, postgresDeliveryStore.ts
   digest: What each writer of a log does to the rows about members. -/

import JbChat.Store.LogOrder

set_option autoImplicit false

namespace JbChat.Store.MemberEffects

open Foundation.HashTrace
open Foundation.Transaction Documents Tables Provisioning LogWriter AppendStore AppendEffects
open MembershipIntents ExternalProposals MembershipCommits MembershipModel MembershipRefinement

section

variable {H : HashFunction} {keys : AuthorityDerivations} {db written : DeliveryDb}

theorem updateConversation_members (conversationId : String)
    (change : ConversationRow → ConversationRow)
    (same : ∀ row, versionOf (change row) = versionOf row) (db : DeliveryDb) :
    memberTables (updateConversation conversationId change db) = memberTables db := by
  have hversions : (updateWhere (isConversation conversationId) change db.conversations).map
      versionOf = db.conversations.map versionOf := map_updateWhere_of_same change same _ _
  unfold memberTables updateConversation
  dsimp only
  rw [hversions]

theorem returnEach_members (closed : List MembershipIntentRow) (db : DeliveryDb) :
    memberTables (returnEach closed db) = memberTables db := by
  have hfreed : (db.conversations.map (freedRow closed db.membershipIntents)).map versionOf =
      db.conversations.map versionOf := by
    rw [List.map_map]
    apply List.map_congr_left
    intro conversation _
    unfold freedRow versionOf
    simp only [Function.comp_apply]
    split <;> rfl
  rw [returnEach_eq]
  unfold memberTables
  dsimp only
  rw [hfreed]

theorem cancelIntent_members (intentId requester : String) (db : DeliveryDb) :
    memberTables (cancelIntent H intentId requester db).2 = memberTables db := by
  unfold cancelIntent
  split
  · rcases sqlBegin_cases (cancelIntentTx H intentId requester) db with
      ⟨answer, written, htx, hrun⟩ | ⟨failure, -, hrun⟩
    · rw [hrun]
      unfold cancelIntentTx at htx
      split at htx
      · cases htx
        rfl
      · rename_i intent hintent
        obtain ⟨⟨u, refreshed⟩, hrefresh, htx⟩ := bind_ok.mp htx
        cases htx
        obtain ⟨fences, custody, rfl⟩ := refreshCustodySnapshotDigest_writes hrefresh
        exact returnEach_members [intent] (setIntentState (fun row =>
          decide (row.intentId = intentId)) .cancelled db)
    · rw [hrun]
  · rfl

theorem expireIntents_members (now : String) (db : DeliveryDb) :
    memberTables (expireIntents H now db).2 = memberTables db := by
  unfold expireIntents
  rcases sqlBegin_cases (expireIntentsTx H now) db with
    ⟨answer, written, htx, hrun⟩ | ⟨failure, -, hrun⟩
  · rw [hrun]
    unfold expireIntentsTx at htx
    obtain ⟨⟨u, refreshed⟩, hrefresh, htx⟩ := bind_ok.mp htx
    cases htx
    obtain ⟨fences, custody, rfl⟩ := refreshEach_writes hrefresh
    exact returnEach_members _ (setIntentState (isOverdue now) .expired db)
  · rw [hrun]

theorem recordProposal_members (signer : LogSigner) (entropy : ProposalEntropy)
    (input : RecordProposalInput) (db : DeliveryDb) :
    memberTables (recordProposal H signer entropy input db).2 = memberTables db := by
  unfold recordProposal
  split
  · rcases sqlBegin_cases (recordProposalTx H signer entropy input) db with
      ⟨answer, written, htx, hrun⟩ | ⟨failure, -, hrun⟩
    · rw [hrun]
      unfold recordProposalTx at htx
      split at htx
      · cases htx
        rfl
      · rename_i admitted hadmitted
        unfold storeProposal at htx
        obtain ⟨draft, -, h⟩ := bind_ok.mp htx
        obtain ⟨signature, -, h⟩ := bind_ok.mp h
        obtain ⟨logged, hlogged, h⟩ := bind_ok.mp h
        obtain ⟨proposalHash, -, h⟩ := bind_ok.mp h
        obtain ⟨proposed, hproposed, h⟩ := bind_ok.mp h
        obtain ⟨paged, hpaged, h⟩ := bind_ok.mp h
        obtain ⟨⟨u, refreshed⟩, hrefresh, h⟩ := bind_ok.mp h
        cases h
        obtain rfl := insertEnvelope_eq_ok hlogged
        obtain ⟨proposals, rfl⟩ := insertExternalProposal_eq_ok hproposed
        obtain ⟨pageEnds, rfl⟩ := insertPageEnd_eq_ok hpaged
        obtain ⟨fences, custody, rfl⟩ := refreshCustodySnapshotDigest_writes hrefresh
        exact updateConversation_members admitted.intent.conversationId
          (advanceLog draft entropy.now) (fun _ => rfl)
          { db with envelopes := db.envelopes ++ [draft.row signature] }
    · rw [hrun]
  · rfl

end

section

variable {H : HashFunction} {keys : AuthorityDerivations} {db written : DeliveryDb}
  {input : CreateIntentInput} {target : InstallationRow} {now : String} {admitted : AdmittedIntent}

/-- A credential that a creation issues to its target. -/
structure Issued (keys : AuthorityDerivations) (db : DeliveryDb) (row : RoleCredentialRow) :
    Prop where
  credentialId : row.credentialId = keys.roleCredentialId row.installationId row.conversationId
  fresh : ∀ other ∈ db.roleCredentials, other.credentialId ≠ row.credentialId
  account : ∃ target ∈ db.installations, target.installationId = row.installationId ∧
    target.accountId = row.accountId

/-- The rows about members after a creation: at most a credential is new. -/
def CredentialIssued (keys : AuthorityDerivations) (db written : DeliveryDb) : Prop :=
  memberTables written = memberTables db ∨ ∃ row, Issued keys db row ∧
    memberTables written =
      { memberTables db with roleCredentials := db.roleCredentials ++ [row] }

theorem intentTarget_eq_ok (h : intentTarget db input = .ok target) :
    target ∈ db.installations ∧ target.installationId = input.targetInstallationId := by
  unfold intentTarget at h
  split at h
  · cases h
  · rename_i found hfound
    obtain ⟨-, h⟩ := guard_ok.mp h
    obtain rfl := Except.ok.inj h
    have hmem : found ∈ db.installations.filter fun row =>
        decide (row.installationId = input.targetInstallationId) := by
      rw [onlyRow_eq_some.mp hfound]
      exact List.mem_singleton.mpr rfl
    obtain ⟨hrow, hid⟩ := List.mem_filter.mp hmem
    exact ⟨hrow, of_decide_eq_true hid⟩

theorem admitIntent_target {locked : List Bytes}
    (h : admitIntent db now input locked = .ok admitted) :
    intentTarget db input = .ok admitted.target := by
  unfold admitIntent at h
  obtain ⟨conversation, -, h⟩ := bind_ok.mp h
  obtain ⟨target, htarget, h⟩ := bind_ok.mp h
  split at h
  · obtain ⟨capability, -, h⟩ := bind_ok.mp h
    split at h
    · cases h
    · cases h
      exact htarget
  · obtain ⟨-, -, h⟩ := bind_ok.mp h
    cases h
    exact htarget

theorem storeIntent_members {entropy : IntentEntropy} {credential : Option RoleCredentialRow}
    {answer : MembershipIntentCreation}
    (h : storeIntent H entropy input admitted credential db = .ok (answer, written)) :
    memberTables written = memberTables db := by
  unfold storeIntent at h
  obtain ⟨expiresAt, -, h⟩ := bind_ok.mp h
  obtain ⟨rosterHash, -, h⟩ := bind_ok.mp h
  obtain ⟨inserted, hinsert, h⟩ := bind_ok.mp h
  obtain ⟨taken, htake, h⟩ := bind_ok.mp h
  obtain ⟨⟨u, refreshed⟩, hrefresh, h⟩ := bind_ok.mp h
  cases h
  obtain ⟨-, rfl⟩ := insertIntent_eq_ok hinsert
  obtain ⟨fences, custody, rfl⟩ := refreshCustodySnapshotDigest_writes hrefresh
  obtain rfl := takeAdmittedPackage_eq_ok htake
  have hversions : ∀ conversations : List ConversationRow, (updateWhere (fun row => decide (
      row.conversationId = input.conversationId ∧ row.state = .active))
      (fun row : ConversationRow => { row with state := .membershipPending })
        conversations).map versionOf = conversations.map versionOf := by
    intro conversations
    exact map_updateWhere_of_same
      (fun row : ConversationRow => { row with state := .membershipPending }) (fun _ => rfl) _ _
  unfold memberTables moveConversation
  dsimp only
  rw [hversions]

theorem issueTargetRoleCredential_members {conversation : ConversationRow}
    {capability : GrantCapability} (htarget : intentTarget db input = .ok target)
    (h : issueTargetRoleCredential keys input conversation target capability now db =
      .ok (.ok written)) : CredentialIssued keys db written := by
  unfold issueTargetRoleCredential at h
  split at h
  · cases h
    exact Or.inl rfl
  · dsimp only at h
    split at h
    · cases h
    · cases h
    · split at h
      · cases h
      · split at h
        · cases h
        · obtain ⟨expiresAt, -, h⟩ := bind_ok.mp h
          obtain ⟨inserted, hinsert, h⟩ := bind_ok.mp h
          cases h
          obtain ⟨rows, hrows, hinsert⟩ := bind_ok.mp hinsert
          obtain ⟨hfresh, rfl⟩ := insertUnique_eq_ok hrows
          cases hinsert
          obtain ⟨hmem, hid⟩ := intentTarget_eq_ok htarget
          refine Or.inr ⟨_, { credentialId := ?_, fresh := hfresh, account := ?_ }, rfl⟩
          · rfl
          · exact ⟨target, hmem, hid, rfl⟩

variable (H keys) in
theorem createIntent_members (entropy : IntentEntropy) (input : CreateIntentInput)
    (db : DeliveryDb) : CredentialIssued keys db (createIntent H keys entropy input db).2 := by
  unfold createIntent
  split
  · rcases sqlBegin_cases (createIntentTx H keys entropy input) db with
      ⟨answer, written, htx, hrun⟩ | ⟨failure, -, hrun⟩
    · rw [hrun]
      unfold createIntentTx at htx
      split at htx
      · cases htx
        exact Or.inl rfl
      · rename_i admitted hadmitted
        have htarget := admitIntent_target hadmitted
        split at htx
        · unfold createAddition at htx
          obtain ⟨issued, hissued, h⟩ := bind_ok.mp htx
          split at h
          · cases h
            exact Or.inl rfl
          · have credentialed := issueTargetRoleCredential_members htarget hissued
            split at h
            · cases h
              exact credentialed
            · unfold CredentialIssued
              rw [storeIntent_members h]
              exact credentialed
        · exact Or.inl (storeIntent_members htx)
    · rw [hrun]
      exact Or.inl rfl
  · exact Or.inl rfl

end

section

variable (H : HashFunction) (keys : AuthorityDerivations)

theorem consumeCommit_cases (signer : LogSigner) (entropy : CommitEntropy)
    (input : ConsumeCommitInput) (db : DeliveryDb) :
    ((consumeCommit keys H signer entropy input db).2 = db ∧
        ∀ value, (consumeCommit keys H signer entropy input db).1 ≠ .ok (.committed value)) ∨
      ∃ admitted value, (consumeCommit keys H signer entropy input db).1 =
          .ok (.committed value) ∧ input.wellFormed H = true ∧
        admitCommit db entropy.now input = .ok admitted ∧
        storeCommit keys H signer entropy input admitted db =
          .ok (value, (consumeCommit keys H signer entropy input db).2) := by
  unfold consumeCommit
  split
  · rename_i hformed
    rcases sqlBegin_cases (consumeCommitTx keys H signer entropy input) db with
      ⟨value, written, htx, hrun⟩ | ⟨failure, -, hrun⟩
    · rw [hrun]
      unfold consumeCommitTx at htx
      obtain ⟨admitted, hadmitted, hstore⟩ := bind_ok.mp htx
      exact Or.inr ⟨admitted, value, rfl, hformed, hadmitted, hstore⟩
    · rw [hrun]
      left
      cases failure with
      | cas reason => exact ⟨rfl, fun _ h => (by cases h)⟩
      | thrown failure => exact ⟨rfl, fun _ h => (by cases h)⟩
  · exact Or.inl ⟨rfl, fun _ h => (by cases h)⟩

theorem admitCommit_intent {db : DeliveryDb} {now : String} {input : ConsumeCommitInput}
    {admitted : AdmittedCommit} (h : admitCommit db now input = .ok admitted) :
    onlyRow (db.membershipIntents.filter fun row => decide (row.intentId = input.intentId)) =
      some admitted.intent := by
  unfold admitCommit at h
  obtain ⟨⟨intent, conversation⟩, hfound, h⟩ := bind_ok.mp h
  dsimp only at h
  obtain ⟨proposal, -, h⟩ := bind_ok.mp h
  obtain ⟨-, -, h⟩ := bind_ok.mp h
  obtain ⟨account, -, h⟩ := bind_ok.mp h
  obtain ⟨-, h⟩ := guard_ok.mp h
  obtain ⟨target, -, h⟩ := bind_ok.mp h
  split at h
  · cases h
  · cases h
    unfold commitConversation at hfound
    split at hfound
    · cases hfound
    · rename_i found hintent
      split at hfound
      · cases hfound
      · obtain ⟨-, hfound⟩ := guard_ok.mp hfound
        cases hfound
        exact hintent

end

section

variable {H : HashFunction} {checks : DocumentChecks}

theorem appendCall_memberships (call : AppendCall) (db : DeliveryDb) :
    (call.run H checks db).2.memberships = db.memberships := by
  have kept : ∀ {after : DeliveryDb}, LogKept db after → after.memberships = db.memberships :=
    fun log => congrArg MemberTables.memberships log.members
  unfold AppendCall.run
  rcases sqlBegin_cases (call.transaction H checks) db with
    ⟨outcome, final, htx, hrun⟩ | ⟨failure, -, hrun⟩
  · rw [hrun]
    cases call with
    | reserve clock input invocation prepareUnsigned =>
      rcases reserve_eq_ok htx with ⟨lanes, -, beside⟩ | ⟨-, beside, -⟩ | ⟨-, -, -, -, log, -⟩
      · exact kept beside.toLogKept
      · exact kept beside.toLogKept
      · exact kept log
    | retire clock input invocation =>
      rcases retire_eq_ok htx with ⟨-, rfl⟩ | ⟨-, beside⟩ | ⟨-, -, log, -⟩
      · rfl
      · exact kept beside.toLogKept
      · exact kept log
    | finalize clock input invocation =>
      rcases finalize_eq_ok htx with ⟨-, rfl⟩ | ⟨-, beside, -⟩ |
        ⟨admitted, acceptance, same, replay, -, appended, -⟩
      · rfl
      · exact kept beside.toLogKept
      · exact appended.memberships
  · rw [hrun]

end

end JbChat.Store.MemberEffects
