/- source: src/production/storage/membershipCommitStore.ts
   digest: The periods for which installations were members, and the rows that remember them. -/

import JbChat.Store.MemberEffects

set_option autoImplicit false

namespace JbChat.Store.MembershipPeriods

open Foundation.HashTrace
open Foundation.Transaction Delivery.Snapshot Documents Tables Provisioning LogWriter AppendEffects
open MembershipIntents MembershipCommits MembershipModel MembershipRefinement MemberEffects LogOrder

section

structure Seat where
  conversationId : String
  installationId : String
deriving DecidableEq

/-- A membership from the Commit that added the installation to the one that removed it. -/
structure Period where
  seat : Seat
  joined : Nat
  removed : Option Nat

def Period.covers (period : Period) (position : Nat) : Prop :=
  period.joined ≤ position ∧ ∀ removed ∈ period.removed, position ≤ removed

instance (period : Period) (position : Nat) : Decidable (period.covers position) :=
  inferInstanceAs (Decidable (_ ∧ _))

def seatOf (row : MembershipRow) : Seat := ⟨row.conversationId, row.installationId⟩

def periodOf (row : MembershipRow) : Period := ⟨seatOf row, row.joinedPosition, row.removedPosition⟩

/-- What an accepted Commit did to its target. -/
structure Change where
  seat : Seat
  added : Bool
  position : Nat

/-- An addition opens a period, a removal ends the one that is open. -/
def Change.record (change : Change) (periods : List Period) : List Period :=
  if change.added then periods ++ [⟨change.seat, change.position, none⟩]
  else updateWhere (fun period => decide (period.seat = change.seat ∧ period.removed = none))
    (fun period => { period with removed := some change.position }) periods

variable (H : HashFunction) (keys : AuthorityDerivations) (checks : DocumentChecks)

def changeOf (db : DeliveryDb) : LogCall → Option Change
  | .membership (.consumeCommit signer entropy input) =>
    match (consumeCommit keys H signer entropy input db).1,
        onlyRow (db.membershipIntents.filter fun row => decide (row.intentId = input.intentId)) with
    | .ok (.committed value), some intent =>
      some ⟨⟨intent.conversationId, intent.targetInstallationId⟩,
        decide (intent.operation = .add), value.position⟩
    | _, _ => none
  | _ => none

/-- The tables of a run and the periods that its Commits made. -/
structure Ledger where
  db : DeliveryDb
  periods : List Period

def Ledger.call (ledger : Ledger) (call : LogCall) : Ledger where
  db := call.run H keys checks ledger.db
  periods := match changeOf H keys ledger.db call with
    | none => ledger.periods
    | some change => change.record ledger.periods

end

section

/-- The rows are those of distinct seats, and each has a period that there was. The second field is
the check constraint of the table. -/
structure Remembered (memberships : List MembershipRow) (periods : List Period) : Prop where
  distinct : (memberships.map seatOf).Nodup
  ended : ∀ row ∈ memberships, row.removedPosition = none ↔ row.removedAt = none
  had : ∀ row ∈ memberships, periodOf row ∈ periods

variable {memberships : List MembershipRow} {periods : List Period} {seat : Seat} {position : Nat}

theorem Remembered.join (remembered : Remembered memberships periods) {row : MembershipRow}
    (opened : row.joinedPosition = position ∧ row.removedPosition = none ∧ row.removedAt = none)
    (fresh : ∀ other ∈ memberships, seatOf other ≠ seatOf row) :
    Remembered (memberships ++ [row]) (Change.record ⟨seatOf row, true, position⟩ periods) := by
  obtain ⟨hjoined, hremoved, hat⟩ := opened
  refine ⟨nodup_map_append_singleton remembered.distinct fresh, ?_, ?_⟩
  · intro other hother
    rcases List.mem_append.mp hother with hold | hnew
    · exact remembered.ended other hold
    · rw [List.mem_singleton.mp hnew, hremoved, hat]
      exact ⟨fun _ => rfl, fun _ => rfl⟩
  · intro other hother
    unfold Change.record
    rw [if_pos rfl]
    rcases List.mem_append.mp hother with hold | hnew
    · exact List.mem_append_left _ (remembered.had other hold)
    · apply List.mem_append_right
      rw [List.mem_singleton, List.mem_singleton.mp hnew, periodOf, hjoined, hremoved]

theorem Remembered.rejoin (remembered : Remembered memberships periods)
    {change : MembershipRow → MembershipRow} (same : ∀ row, seatOf (change row) = seatOf row)
    (opened : ∀ row, (change row).joinedPosition = position ∧ (change row).removedPosition = none ∧
      (change row).removedAt = none) :
    Remembered (updateWhere (fun row => decide (seatOf row = seat)) change memberships)
      (Change.record ⟨seat, true, position⟩ periods) := by
  refine ⟨nodup_updateWhere change same _ remembered.distinct, ?_, ?_⟩
  · intro row hrow
    rcases mem_updateWhere.mp hrow with ⟨old, -, -, rfl⟩ | ⟨hold, -⟩
    · obtain ⟨-, hremoved, hat⟩ := opened old
      rw [hremoved, hat]
      exact ⟨fun _ => rfl, fun _ => rfl⟩
    · exact remembered.ended row hold
  · intro row hrow
    unfold Change.record
    rw [if_pos rfl]
    rcases mem_updateWhere.mp hrow with ⟨old, -, hseat, rfl⟩ | ⟨hold, -⟩
    · obtain ⟨hjoined, hremoved, -⟩ := opened old
      apply List.mem_append_right
      rw [List.mem_singleton, periodOf, same, hjoined, hremoved, of_decide_eq_true hseat]
    · exact List.mem_append_left _ (remembered.had row hold)

theorem Remembered.leave (remembered : Remembered memberships periods)
    {change : MembershipRow → MembershipRow} (same : ∀ row, seatOf (change row) = seatOf row)
    (closed : ∀ row, (change row).joinedPosition = row.joinedPosition ∧
      (change row).removedPosition = some position ∧ (change row).removedAt ≠ none)
    (live : ∀ row ∈ memberships, seatOf row = seat → row.removedAt = none) :
    Remembered (updateWhere (fun row => decide (seatOf row = seat)) change memberships)
      (Change.record ⟨seat, false, position⟩ periods) := by
  refine ⟨nodup_updateWhere change same _ remembered.distinct, ?_, ?_⟩
  · intro row hrow
    rcases mem_updateWhere.mp hrow with ⟨old, -, -, rfl⟩ | ⟨hold, -⟩
    · obtain ⟨-, hremoved, hat⟩ := closed old
      rw [hremoved]
      exact ⟨fun h => (by cases h), fun h => absurd h hat⟩
    · exact remembered.ended row hold
  · intro row hrow
    unfold Change.record
    rw [if_neg Bool.false_ne_true]
    rcases mem_updateWhere.mp hrow with ⟨old, hmem, hseat, rfl⟩ | ⟨hold, hother⟩
    · obtain ⟨hjoined, hremoved, -⟩ := closed old
      have hseat := of_decide_eq_true hseat
      have hopen : old.removedPosition = none :=
        (remembered.ended old hmem).mpr (live old hmem hseat)
      refine mem_updateWhere.mpr (Or.inl ⟨periodOf old, remembered.had old hmem, ?_, ?_⟩)
      · exact decide_eq_true ⟨hseat, hopen⟩
      · unfold periodOf
        rw [same, hjoined, hremoved]
    · refine mem_updateWhere.mpr (Or.inr ⟨remembered.had row hold, decide_eq_false ?_⟩)
      rintro ⟨hseat, -⟩
      exact of_decide_eq_false hother hseat

end

section

variable {H : HashFunction} {keys : AuthorityDerivations} {db written : DeliveryDb}
  {periods : List Period} {draft : EnvelopeDraft} {input : ConsumeCommitInput}
  {admitted : AdmittedCommit} {now : String}

def targetSeat (intent : MembershipIntentRow) : Seat :=
  ⟨intent.conversationId, intent.targetInstallationId⟩

theorem isMember_seat (conversationId installationId : String) :
    isMember conversationId installationId =
      fun row => decide (seatOf row = ⟨conversationId, installationId⟩) := by
  funext row
  unfold isMember seatOf
  simp only [Seat.mk.injEq]

theorem seatMember_remembered {credential : RoleCredentialRow} {kind : ConversationKind}
    {intent : MembershipIntentRow} (remembered : Remembered db.memberships periods)
    (h : seatMember draft kind intent credential now db = .ok written) :
    Remembered written.memberships
      (Change.record ⟨targetSeat intent, true, draft.position⟩ periods) := by
  unfold seatMember at h
  split at h
  · cases h
    unfold rejoinMember
    rw [isMember_seat]
    exact remembered.rejoin (fun _ => rfl) fun _ => ⟨rfl, rfl, rfl⟩
  · unfold insertMember at h
    obtain ⟨members, hmembers, h⟩ := bind_ok.mp h
    obtain ⟨hfresh, rfl⟩ := insertUnique_eq_ok hmembers
    cases h
    refine remembered.join ⟨rfl, rfl, rfl⟩ ?_
    intro other hother same
    obtain ⟨hconversation, hinstallation⟩ := Seat.mk.inj same
    exact hfresh other hother (Prod.mk.injEq _ _ _ _ ▸ ⟨hconversation, hinstallation⟩)

theorem applyBoundary_remembered (remembered : Remembered db.memberships periods)
    (live : admitted.target = none → ∀ row ∈ db.memberships,
      seatOf row = targetSeat admitted.intent → row.removedAt = none)
    (h : applyBoundary H draft input admitted now db = .ok written) :
    Remembered written.memberships
      (Change.record ⟨targetSeat admitted.intent, admitted.target.isSome, draft.position⟩
        periods) := by
  unfold applyBoundary at h
  split at h
  · rename_i credential htarget
    unfold admitMember at h
    obtain ⟨seated, hseated, h⟩ := bind_ok.mp h
    have used : Remembered (usePackage input.intentId now db).memberships periods := remembered
    have joined := seatMember_remembered used hseated
    rw [htarget, Option.isSome_some]
    split at h
    · cases h
      exact joined
    · obtain ⟨welcomes, rfl⟩ := insertWelcome_eq_ok h
      exact joined
  · rename_i htarget
    cases h
    unfold removeMember
    rw [htarget, isMember_seat]
    exact remembered.leave (fun _ => rfl) (fun _ => ⟨rfl, rfl, fun hnone => by cases hnone⟩)
      (live htarget)

theorem live_of_admitCommit (remembered : Remembered db.memberships periods)
    (h : admitCommit db now input = .ok admitted) (removal : admitted.intent.operation ≠ .add) :
    ∀ row ∈ db.memberships, seatOf row = targetSeat admitted.intent → row.removedAt = none := by
  unfold admitCommit at h
  obtain ⟨⟨intent, conversation⟩, -, h⟩ := bind_ok.mp h
  dsimp only at h
  obtain ⟨proposal, -, h⟩ := bind_ok.mp h
  obtain ⟨-, -, h⟩ := bind_ok.mp h
  obtain ⟨account, -, h⟩ := bind_ok.mp h
  obtain ⟨-, h⟩ := guard_ok.mp h
  obtain ⟨target, htarget, h⟩ := bind_ok.mp h
  split at h
  · cases h
  · cases h
    unfold commitTarget at htarget
    rw [if_neg removal] at htarget
    obtain ⟨hsingle, -⟩ := guard_ok.mp htarget
    obtain ⟨member, hmember⟩ := List.length_eq_one_iff.mp (not_not.mp hsingle)
    have hmem := List.mem_filter.mp (hmember ▸ List.mem_singleton_self member)
    obtain ⟨hlive, hinstallation⟩ := hmem
    obtain ⟨hrow, hselected⟩ := List.mem_filter.mp hlive
    obtain ⟨hconversation, hat⟩ := of_decide_eq_true hselected
    intro row hother hseat
    have hseats : seatOf member = seatOf row := by
      rw [hseat]
      unfold seatOf targetSeat
      rw [hconversation, of_decide_eq_true hinstallation]
    rw [← eq_of_column_eq remembered.distinct hrow hother hseats]
    exact hat

theorem storeCommit_remembered {signer : LogSigner} {entropy : CommitEntropy}
    {value : CommittedMembership} (remembered : Remembered db.memberships periods)
    (hadmitted : admitCommit db entropy.now input = .ok admitted)
    (h : storeCommit keys H signer entropy input admitted db = .ok (value, written)) :
    Remembered written.memberships (Change.record ⟨targetSeat admitted.intent,
      decide (admitted.intent.operation = .add), value.position⟩ periods) := by
  obtain ⟨draft, signature, bounded, projected, -, hbounded, hprojected, ⟨⟨-, htables⟩, -⟩,
    hposition⟩ := storeCommit_stages h
  obtain ⟨roster, recipients, usage, rosterVersion, recipientSetVersion, recipientSetHash, rfl⟩ :=
    projectCommit_eq_ok hprojected
  have hmembers : written.memberships = bounded.memberships :=
    congrArg MemberTables.memberships htables
  have admits := admitCommit_eq_ok hadmitted
  have hadded : admitted.target.isSome = decide (admitted.intent.operation = .add) := by
    by_cases hadd : admitted.intent.operation = .add
    · obtain ⟨credential, hcredential⟩ := admits.added hadd
      rw [hcredential, decide_eq_true hadd, Option.isSome_some]
    · rw [admits.notAdded hadd, decide_eq_false hadd, Option.isSome_none]
  have live : admitted.target = none → ∀ row ∈ db.memberships,
      seatOf row = targetSeat admitted.intent → row.removedAt = none := by
    intro hnone
    apply live_of_admitCommit remembered hadmitted
    intro hadd
    obtain ⟨credential, hcredential⟩ := admits.added hadd
    rw [hnone] at hcredential
    cases hcredential
  have before : Remembered (boundaryDb draft signature entropy input admitted db).memberships
      periods := remembered
  rw [hmembers, ← hadded, hposition]
  exact applyBoundary_remembered before live hbounded

end

section

variable {H : HashFunction} {keys : AuthorityDerivations} {checks : DocumentChecks}

theorem Remembered.call {ledger : Ledger} (call : LogCall)
    (remembered : Remembered ledger.db.memberships ledger.periods) :
    Remembered (ledger.call H keys checks call).db.memberships
      (ledger.call H keys checks call).periods := by
  have quiet : changeOf H keys ledger.db call = none →
      memberTables (call.run H keys checks ledger.db) = memberTables ledger.db →
        Remembered (ledger.call H keys checks call).db.memberships
          (ledger.call H keys checks call).periods := by
    intro hnone htables
    unfold Ledger.call
    dsimp only
    rw [hnone, show (call.run H keys checks ledger.db).memberships = ledger.db.memberships from
      congrArg MemberTables.memberships htables]
    exact remembered
  cases call with
  | append call =>
    unfold Ledger.call LogCall.run
    dsimp only
    rw [appendCall_memberships]
    exact remembered
  | membership call =>
    cases call with
    | createIntent entropy input =>
      have hsame : (createIntent H keys entropy input ledger.db).2.memberships =
          ledger.db.memberships := by
        rcases createIntent_members H keys entropy input ledger.db with
          htables | ⟨row, -, htables⟩
        · exact congrArg MemberTables.memberships htables
        · exact congrArg MemberTables.memberships htables
      change Remembered (createIntent H keys entropy input ledger.db).2.memberships ledger.periods
      rw [hsame]
      exact remembered
    | cancelIntent intentId requester => exact quiet rfl (cancelIntent_members _ _ _)
    | expireIntents now => exact quiet rfl (expireIntents_members _ _)
    | recordProposal signer entropy input => exact quiet rfl (recordProposal_members _ _ _ _)
    | consumeCommit signer entropy input =>
      rcases consumeCommit_cases H keys signer entropy input ledger.db with
        ⟨hsame, hrefused⟩ | ⟨admitted, value, hanswer, -, hadmitted, hstored⟩
      · refine quiet ?_ (congrArg memberTables hsame)
        unfold changeOf
        dsimp only
        split
        · rename_i value intent hanswer _
          exact absurd hanswer (hrefused value)
        · rfl
      · have hintent : onlyRow (ledger.db.membershipIntents.filter fun row =>
            decide (row.intentId = input.intentId)) = some admitted.intent :=
          admitCommit_intent hadmitted
        have hchange : changeOf H keys ledger.db (.membership (.consumeCommit signer entropy
            input)) = some ⟨targetSeat admitted.intent,
              decide (admitted.intent.operation = .add), value.position⟩ := by
          unfold changeOf
          dsimp only
          rw [hanswer, hintent]
          rfl
        unfold Ledger.call
        rw [hchange]
        exact storeCommit_remembered remembered hadmitted hstored

end

end JbChat.Store.MembershipPeriods
