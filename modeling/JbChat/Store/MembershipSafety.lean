/- source: src/production/storage/membershipIntentStore.ts, externalProposalStore.ts,
     membershipCommitStore.ts
   digest: What membership transactions keep along every run, and where they can end up stuck. -/

import JbChat.Delivery.RosterHash
import JbChat.Store.MembershipRefinement
import JbChat.Store.RotationSafety

set_option autoImplicit false

namespace JbChat.Store.MembershipSafety

open Foundation.HashTrace Foundation.Transaction Delivery.Instants Delivery.InstantOrder
open Delivery.Snapshot Foundation.LengthPrefix Delivery.Fanout Delivery.RosterHash Tables
open Store.Authority
open Provisioning LogWriter MembershipIntents ExternalProposals MembershipCommits MembershipModel
open MembershipRefinement RotationSafety

section

variable {db : DeliveryDb}

/-- The five transactions on membership intents. -/
inductive MembershipCall where
  | createIntent (entropy : IntentEntropy) (input : CreateIntentInput)
  | cancelIntent (intentId requestedByInstallationId : String)
  | expireIntents (now : String)
  | recordProposal (signer : LogSigner) (entropy : ProposalEntropy) (input : RecordProposalInput)
  | consumeCommit (signer : LogSigner) (entropy : CommitEntropy) (input : ConsumeCommitInput)

variable (H : HashFunction) (keys : AuthorityDerivations)

/-- The rows after a call, whatever it answers. -/
def MembershipCall.run (db : DeliveryDb) : MembershipCall → DeliveryDb
  | .createIntent entropy input => (MembershipIntents.createIntent H keys entropy input db).2
  | .cancelIntent intentId requester => (MembershipIntents.cancelIntent H intentId requester db).2
  | .expireIntents now => (MembershipIntents.expireIntents H now db).2
  | .recordProposal signer entropy input =>
    (ExternalProposals.recordProposal H signer entropy input db).2
  | .consumeCommit signer entropy input =>
    (MembershipCommits.consumeCommit keys H signer entropy input db).2

def runAll (calls : List MembershipCall) (db : DeliveryDb) : DeliveryDb :=
  calls.foldl (MembershipCall.run H keys) db

theorem runAll_append (first second : List MembershipCall) (db : DeliveryDb) :
    runAll H keys (first ++ second) db = runAll H keys second (runAll H keys first db) :=
  List.foldl_append

/-- The primary keys and the check of `key_packages`, before the first intent. -/
structure Fresh (db : DeliveryDb) : Prop where
  conversations : (db.conversations.map fun row => row.conversationId).Nodup
  keyPackages : (db.admission.keyPackages.map KeyPackageRow.keyPackageRef).Nodup
  untaken : ∀ row ∈ db.admission.keyPackages, row.takenAt = none → row.takenByIntentId = none
  noIntents : db.membershipIntents = []

theorem Fresh.orderly (fresh : Fresh db) : Orderly (membershipView db) := by
  have none : (membershipView db).intents = [] := fresh.noIntents
  refine ⟨?_, ?_, fresh.keyPackages, fresh.untaken, ?_, ?_, ?_, ?_⟩
  · have hcolumn : (membershipView db).slots.map Slot.conversationId =
        db.conversations.map fun row => row.conversationId := List.map_map
    rw [hcolumn]
    exact fresh.conversations
  all_goals rw [none]
  · exact List.nodup_nil
  · exact fun _ h => (by cases h)
  · exact fun _ _ _ _ h => (by cases h)
  · exact fun _ h => (by cases h)
  · exact fun _ h => (by cases h)

/-- The intents that a call gives up without a Commit although they are removals. -/
def MembershipCall.abandonsRemoval (db : DeliveryDb) : MembershipCall → Prop
  | .cancelIntent intentId requester => isLowercaseUuid intentId = true ∧
      ∃ intent, cancellableIntent db intentId requester = some intent ∧ intent.operation = .remove
  | .expireIntents now => ∃ intent ∈ db.membershipIntents, isOverdue now intent = true ∧
      intent.operation = .remove
  | _ => False

/-- The intent ends by the call without a Commit. -/
def MembershipCall.closes (db : DeliveryDb) (intent : MembershipIntentRow) :
    MembershipCall → Prop
  | .cancelIntent intentId requester => isLowercaseUuid intentId = true ∧
      cancellableIntent db intentId requester = some intent
  | .expireIntents now => intent ∈ db.membershipIntents ∧ isOverdue now intent = true
  | _ => False

theorem MembershipCall.abandonsRemoval_of_closes {call : MembershipCall}
    {intent : MembershipIntentRow} (closes : call.closes db intent)
    (removal : intent.operation = .remove) : call.abandonsRemoval db := by
  cases call with
  | cancelIntent intentId requester => exact ⟨closes.1, intent, closes.2, removal⟩
  | expireIntents now => exact ⟨intent, closes.1, closes.2, removal⟩
  | createIntent entropy input | recordProposal signer entropy input
  | consumeCommit signer entropy input => exact closes

def MembershipCall.commits (db : DeliveryDb) (intent : MembershipIntentRow)
    (call : MembershipCall) : Prop :=
  ∃ signer entropy input value position, call = .consumeCommit signer entropy input ∧
    input.intentId = intent.intentId ∧
    (MembershipCommits.consumeCommit keys H signer entropy input db).1 = .ok (.committed value) ∧
    (intent.operation ≠ .add → (call.run H keys db).memberships =
      updateWhere (isMember intent.conversationId intent.targetInstallationId)
        (fun row => { row with
          removedPosition := some position
          removedAt := some entropy.now }) db.memberships)

theorem MembershipCall.step (call : MembershipCall) (db : DeliveryDb) :
    ∃ move, Step (membershipView db) move (membershipView (call.run H keys db)) ∧
      (∀ closed, move = .close closed → ∀ intent ∈ closed, call.closes db intent) ∧
      ∀ intent, move = .commit intent → call.commits H keys db intent := by
  have quiet : membershipView (call.run H keys db) = membershipView db →
      ∃ move, Step (membershipView db) move (membershipView (call.run H keys db)) ∧
        (∀ closed, move = .close closed → ∀ intent ∈ closed, call.closes db intent) ∧
        ∀ intent, move = .commit intent → call.commits H keys db intent := by
    intro h
    rw [h]
    exact ⟨.quiet, Step.quiet, fun _ h => (by cases h), fun _ h => (by cases h)⟩
  cases call with
  | createIntent entropy input =>
    rcases createIntent_step entropy input db with ⟨-, h⟩ | ⟨intent, -, -, -, -, -, -, hstep⟩
    · exact quiet h
    · exact ⟨_, hstep, fun _ h => (by cases h), fun _ h => (by cases h)⟩
  | cancelIntent intentId requester =>
    rcases cancelIntent_step intentId requester db with h | ⟨intent, hid, hintent, hstep⟩
    · exact quiet h
    · refine ⟨_, hstep, ?_, fun _ h => (by cases h)⟩
      rintro closed h row hrow
      obtain rfl := Move.close.inj h
      rw [List.mem_singleton.mp hrow]
      exact ⟨hid, hintent⟩
  | expireIntents now =>
    rcases expireIntents_step now db with h | hstep
    · exact quiet h
    · refine ⟨_, hstep, ?_, fun _ h => (by cases h)⟩
      rintro closed h row hrow
      obtain rfl := Move.close.inj h
      exact List.mem_filter.mp hrow
  | recordProposal signer entropy input =>
    rcases recordProposal_step signer entropy input db with h | ⟨intent, -, hstep⟩
    · exact quiet h
    · exact ⟨_, hstep, fun _ h => (by cases h), fun _ h => (by cases h)⟩
  | consumeCommit signer entropy input =>
    rcases consumeCommit_step signer entropy input db with
      h | ⟨value, intent, position, hanswer, hid, hstep, hremoved⟩
    · exact quiet h
    · refine ⟨_, hstep, fun _ h => (by cases h), ?_⟩
      rintro other h
      obtain rfl := Move.commit.inj h
      exact ⟨signer, entropy, input, value, position, rfl, hid.symm, hanswer, hremoved⟩

theorem runAll_orderly (calls : List MembershipCall) (orderly : Orderly (membershipView db)) :
    Orderly (membershipView (runAll H keys calls db)) := by
  induction calls generalizing db with
  | nil => exact orderly
  | cons call calls ih =>
    obtain ⟨move, hstep, -⟩ := call.step H keys db
    exact ih (hstep.orderly orderly)

end

section

variable (H : HashFunction) (keys : AuthorityDerivations) {db : DeliveryDb}

def liveIntents (db : DeliveryDb) (conversationId : String) : List MembershipIntentRow :=
  db.membershipIntents.filter fun row => decide (row.conversationId = conversationId ∧
    row.state.isLive = true)

theorem liveIntents_length (orderly : Orderly (membershipView db))
    (conversationId : String) : (liveIntents db conversationId).length ≤ 1 := by
  have distinct : (liveIntents db conversationId).Nodup :=
    List.Nodup.filter _ (List.Nodup.of_map _ orderly.intentsDistinct)
  match hrows : liveIntents db conversationId with
  | [] => exact Nat.zero_le 1
  | [_] => exact le_rfl
  | a :: b :: _ =>
    have live : ∀ row ∈ liveIntents db conversationId, row ∈ db.membershipIntents ∧
        row.conversationId = conversationId ∧ row.state.isLive = true := by
      intro row hrow
      obtain ⟨hmem, hselected⟩ := List.mem_filter.mp hrow
      exact ⟨hmem, of_decide_eq_true hselected⟩
    rw [hrows] at live distinct
    obtain ⟨ha, hconva, hlivea⟩ := live a List.mem_cons_self
    obtain ⟨hb, hconvb, hliveb⟩ := live b (List.mem_cons_of_mem _ List.mem_cons_self)
    have hsame := orderly.oneLive a ha b hb hlivea hliveb (hconva.trans hconvb.symm)
    exact absurd (hsame ▸ List.mem_cons_self) (List.nodup_cons.mp distinct).1

theorem runAll_packages (calls : List MembershipCall) (orderly : Orderly (membershipView db)) :
    ∀ row ∈ (runAll H keys calls db).admission.keyPackages,
      ∃ old ∈ db.admission.keyPackages, KeepsReservation old row := by
  induction calls generalizing db with
  | nil => exact fun row hrow => ⟨row, hrow, KeepsReservation.refl row⟩
  | cons call calls ih =>
    obtain ⟨move, hstep, -⟩ := call.step H keys db
    intro row hrow
    obtain ⟨middle, hmiddle, later⟩ := ih (hstep.orderly orderly) row hrow
    obtain ⟨old, hold, earlier⟩ := hstep.packages orderly middle hmiddle
    exact ⟨old, hold, earlier.trans later⟩

theorem Fresh.reserving (fresh : Fresh db) : Reserving (membershipView db) := by
  intro intent hintent
  change intent ∈ db.membershipIntents at hintent
  rw [fresh.noIntents] at hintent
  cases hintent

theorem runAll_reserving (calls : List MembershipCall)
    (reserving : Reserving (membershipView db)) :
    Reserving (membershipView (runAll H keys calls db)) := by
  induction calls generalizing db with
  | nil => exact reserving
  | cons call calls ih =>
    obtain ⟨move, hstep, -⟩ := call.step H keys db
    exact ih (hstep.reserving reserving)

theorem reservation_kept (calls : List MembershipCall) (orderly : Orderly (membershipView db))
    {old row : KeyPackageRow} (hold : old ∈ db.admission.keyPackages)
    (hrow : row ∈ (runAll H keys calls db).admission.keyPackages)
    (same : old.keyPackageRef = row.keyPackageRef) : KeepsReservation old row := by
  obtain ⟨origin, horigin, kept⟩ := runAll_packages H keys calls orderly row hrow
  obtain rfl := eq_of_column_eq orderly.packagesDistinct horigin hold (kept.ref.trans same.symm)
  exact kept

def RemovalConsumed (calls : List MembershipCall) (start : DeliveryDb)
    (intentId conversationId target : String) : Prop :=
  ∃ before signer entropy input after value,
    calls = before ++ .consumeCommit signer entropy input :: after ∧ input.intentId = intentId ∧
    (consumeCommit keys H signer entropy input (runAll H keys before start)).1 =
      .ok (.committed value) ∧
    ∀ row ∈ (consumeCommit keys H signer entropy input (runAll H keys before start)).2.memberships,
      row.conversationId = conversationId → row.installationId = target → row.removedAt ≠ none

theorem owed_run (calls : List MembershipCall) {intentId conversationId target : String}
    (orderly : Orderly (membershipView db))
    (owed : Owed (membershipView db) intentId conversationId target) {row : ConversationRow}
    (hrow : row ∈ (runAll H keys calls db).conversations)
    (same : row.conversationId = conversationId) (active : row.state = .active) :
    RemovalConsumed H keys calls db intentId conversationId target := by
  induction calls generalizing db with
  | nil =>
    have hslot : slotOf row ∈ (membershipView db).slots := List.mem_map_of_mem hrow
    exact absurd active (owed.not_active orderly _ hslot same)
  | cons call calls ih =>
    obtain ⟨move, hstep, -, hcommits⟩ := call.step H keys db
    rcases owed.step hstep with hstill | ⟨intent, hintent, hmove, hid⟩
    · obtain ⟨before, signer, entropy, input, after, value, hcalls, rest⟩ :=
        ih (hstep.orderly orderly) hstill hrow
      exact ⟨call :: before, signer, entropy, input, after, value,
        congrArg (call :: ·) hcalls, rest⟩
    · obtain ⟨signer, entropy, input, value, position, rfl, hinput, hanswer, hremoved⟩ :=
        hcommits intent hmove
      refine ⟨[], signer, entropy, input, calls, value, rfl, hinput.trans hid, hanswer, ?_⟩
      -- the committed intent is the owed one, so it was a removal of the target
      obtain ⟨owner, howner, howned, hconv, htarget, hremove, -⟩ := owed
      obtain rfl := eq_of_column_eq orderly.intentsDistinct hintent howner (hid.trans howned.symm)
      have hkind : intent.operation ≠ .add := by
        rw [hremove]
        decide
      intro member hmember hmemberConv hmemberTarget
      have hmember : member ∈ updateWhere (isMember intent.conversationId
          intent.targetInstallationId) _ db.memberships := hremoved hkind ▸ hmember
      rcases mem_updateWhere.mp hmember with ⟨old, -, -, rfl⟩ | ⟨-, hother⟩
      · exact Option.some_ne_none _
      · exact absurd ⟨hmemberConv.trans hconv.symm, hmemberTarget.trans htarget.symm⟩
          (of_decide_eq_false hother)

/-- The KeyPackage of an intent is out of the pool, in the name of that intent, and no intent of any
later state has it. -/
def ReservedForGood (db after : DeliveryDb) : Prop :=
  ∀ intent ∈ db.membershipIntents, ∀ ref ∈ intent.keyPackageRef,
    (∃ row ∈ db.admission.keyPackages, row.keyPackageRef = ref ∧ row.state ≠ .available ∧
      row.takenByIntentId = some intent.intentId) ∧
    ∀ other ∈ after.membershipIntents, other.keyPackageRef = some ref →
      other.intentId = intent.intentId

theorem reserved_for_good (calls : List MembershipCall) (orderly : Orderly (membershipView db))
    (reserving : Reserving (membershipView db)) :
    ReservedForGood db (runAll H keys calls db) := by
  intro intent hintent ref href
  have taken := reserving intent hintent ref href
  refine ⟨taken, fun other hother hsame => ?_⟩
  obtain ⟨old, hold, holdRef, -, holdTaken⟩ := taken
  obtain ⟨row, hrow, hrowRef, -, hrowTaken⟩ :=
    runAll_reserving H keys calls reserving other hother ref hsame
  have kept := reservation_kept H keys calls orderly hold hrow (holdRef.trans hrowRef.symm)
  have hreserved := kept.reserved _ holdTaken
  rw [hrowTaken] at hreserved
  exact Option.some.inj hreserved

/-- In every reachable state: one live intent for a conversation at most, none for an active one,
one reservation for a KeyPackage, and no way around a removal but its own Commit. -/
theorem membership_intents_stay_orderly (start : DeliveryDb) (fresh : Fresh start)
    (calls later : List MembershipCall) :
    (∀ conversationId,
      (liveIntents (runAll H keys calls start) conversationId).length ≤ 1) ∧
    (∀ row ∈ (runAll H keys calls start).conversations, row.state = .active →
      liveIntents (runAll H keys calls start) row.conversationId = []) ∧
    (∀ old ∈ (runAll H keys calls start).admission.keyPackages,
      ∀ row ∈ (runAll H keys (calls ++ later) start).admission.keyPackages,
        old.keyPackageRef = row.keyPackageRef →
          (old.state ≠ .available → row.state ≠ .available) ∧
          ∀ first second, old.takenByIntentId = some first →
            row.takenByIntentId = some second → first = second) ∧
    ReservedForGood (runAll H keys calls start) (runAll H keys (calls ++ later) start) ∧
    (∀ entropy input made,
      (createIntent H keys entropy input (runAll H keys calls start)).1 = .ok (.created made) →
      ∀ package ∈ made.takenKeyPackage, ∃ intent ∈
        (runAll H keys (calls ++ [.createIntent entropy input]) start).membershipIntents,
          intent.intentId = entropy.intentId ∧ intent.keyPackageRef = some package.1) ∧
    (∀ entropy input made,
      (createIntent H keys entropy input (runAll H keys calls start)).1 = .ok (.created made) →
      input.operation = .remove →
      ∀ row ∈ (runAll H keys (calls ++ .createIntent entropy input :: later) start).conversations,
        row.conversationId = input.conversationId → row.state = .active →
          RemovalConsumed H keys later
            (runAll H keys (calls ++ [.createIntent entropy input]) start)
            entropy.intentId input.conversationId input.targetInstallationId) := by
  have orderly := runAll_orderly H keys calls fresh.orderly
  have reserving := runAll_reserving H keys calls fresh.reserving
  refine ⟨liveIntents_length orderly, ?_, ?_, ?_, ?_, ?_⟩
  · intro row hrow hactive
    have hslot : slotOf row ∈ (membershipView (runAll H keys calls start)).slots :=
      List.mem_map_of_mem hrow
    apply List.filter_eq_nil_iff.mpr
    intro intent hintent hselected
    obtain ⟨hsame, hlive⟩ := of_decide_eq_true hselected
    rw [orderly.activeClear _ hslot hactive intent hintent hsame] at hlive
    cases hlive
  · intro old hold row hrow hsame
    rw [runAll_append] at hrow
    have kept := reservation_kept H keys later orderly hold hrow hsame
    refine ⟨kept.spent, ?_⟩
    intro first second hfirst hsecond
    rw [kept.reserved first hfirst] at hsecond
    exact Option.some.inj hsecond
  · rw [runAll_append]
    exact reserved_for_good H keys later orderly reserving
  · intro entropy input made hmade package hpackage
    rw [runAll_append]
    set seen := runAll H keys calls start
    rcases createIntent_step entropy input seen with ⟨hnone, -⟩ |
      ⟨intent, hid, -, -, -, -, htaken, hstep⟩
    · exact absurd hmade (hnone made)
    · refine ⟨intent, hstep.creates, hid, ?_⟩
      rw [← htaken made hmade, Option.mem_def.mp hpackage]
      rfl
  · intro entropy input made hmade hremove row hrow hsame hactive
    rw [runAll_append] at hrow ⊢
    set seen := runAll H keys calls start
    rcases createIntent_step entropy input seen with ⟨hnone, -⟩ |
      ⟨intent, hid, hconv, hop, htarget, hstate, -, hstep⟩
    · exact absurd hmade (hnone made)
    · have owed : Owed (membershipView (createIntent H keys entropy input seen).2)
          entropy.intentId input.conversationId input.targetInstallationId := by
        rw [← hid, ← hconv, ← htarget]
        exact hstep.owes (hop.trans hremove)
      exact owed_run H keys later (hstep.orderly orderly) owed hrow hsame hactive

end

section

variable (H : HashFunction) (keys : AuthorityDerivations) {db : DeliveryDb}
  {conversationId : String}

/-- A live intent, or a creation for a live member that the conversation's state does not
refuse. -/
def HasExit (db : DeliveryDb) (conversationId : String) : Prop :=
  liveIntents db conversationId ≠ [] ∨
    ∃ entropy input, input.wellFormed = true ∧ input.conversationId = conversationId ∧
      (∃ member ∈ liveMembers db conversationId,
        member.installationId = input.targetInstallationId) ∧
      (createIntent H keys entropy input db).1 ≠ .ok (.refused .conversationNotActive)

def NoDeadEnd (db : DeliveryDb) : Prop :=
  ∀ row ∈ db.conversations, row.state = .membershipPending → HasExit H keys db row.conversationId

theorem runAll_awaited (calls : List MembershipCall) (orderly : Orderly (membershipView db))
    (awaited : Awaited (membershipView db))
    (kept : ∀ before call after, calls = before ++ call :: after →
      ¬ call.abandonsRemoval (runAll H keys before db)) :
    Awaited (membershipView (runAll H keys calls db)) := by
  induction calls generalizing db with
  | nil => exact awaited
  | cons call calls ih =>
    obtain ⟨move, hstep, hcloses, -⟩ := call.step H keys db
    refine ih (hstep.orderly orderly) (awaited.step orderly hstep ?_) ?_
    · intro habandons
      cases move with
      | close closed =>
        obtain ⟨row, hrow, hremove⟩ := habandons
        exact kept [] call calls rfl
          (MembershipCall.abandonsRemoval_of_closes (hcloses closed rfl row hrow) hremove)
      | _ => exact habandons
    · intro before other after hcalls
      exact kept (call :: before) other after (congrArg (call :: ·) hcalls)

theorem noDeadEnd_of_awaited (awaited : Awaited (membershipView db)) :
    NoDeadEnd H keys db := by
  intro row hrow hpending
  have hslot : slotOf row ∈ (membershipView db).slots := List.mem_map_of_mem hrow
  obtain ⟨intent, hintent, hsame, hlive⟩ := awaited _ hslot hpending
  left
  intro hnone
  exact List.filter_eq_nil_iff.mp hnone intent hintent (decide_eq_true ⟨hsame, hlive⟩)

/-- While no removal is cancelled and none runs out of time, no conversation is stuck. -/
theorem pending_conversations_keep_an_exit (start : DeliveryDb) (fresh : Fresh start)
    (settled : ∀ row ∈ start.conversations, row.state ≠ .membershipPending)
    (calls : List MembershipCall)
    (kept : ∀ before call after, calls = before ++ call :: after →
      ¬ call.abandonsRemoval (runAll H keys before start)) :
    ∀ before after, calls = before ++ after → NoDeadEnd H keys (runAll H keys before start) := by
  rintro before after rfl
  apply noDeadEnd_of_awaited
  refine runAll_awaited H keys before fresh.orderly ?_ ?_
  · intro slot hslot hpending
    obtain ⟨row, hrow, rfl⟩ := List.mem_map.mp hslot
    exact absurd hpending (settled row hrow)
  · intro first call rest hbefore
    refine kept first call (rest ++ after) ?_
    rw [hbefore, List.append_assoc, List.cons_append]

theorem stuck_refuses {entropy : IntentEntropy} {input : CreateIntentInput}
    (stuck : Stuck (membershipView db) input.conversationId) (formed : input.wellFormed = true) :
    (createIntent H keys entropy input db).1 = .ok (.refused .conversationNotActive) := by
  have hrefused : intentConversation db input = .error (.refused .conversationNotActive) := by
    unfold intentConversation
    split
    · rfl
    · rename_i conversation hfound
      have hmem : conversation ∈ db.conversations.filter fun row =>
          decide (row.conversationId = input.conversationId) := by
        rw [onlyRow_eq_some.mp hfound]
        exact List.mem_singleton.mpr rfl
      obtain ⟨hrow, hid⟩ := List.mem_filter.mp hmem
      have hslot : slotOf conversation ∈ (membershipView db).slots := List.mem_map_of_mem hrow
      have hpending := stuck.pending _ hslot (of_decide_eq_true hid)
      have hclear : liveIntentsFor db input.conversationId input.targetInstallationId = [] := by
        apply List.filter_eq_nil_iff.mpr
        intro intent hintent hselected
        obtain ⟨hsame, -, hlive⟩ := of_decide_eq_true hselected
        rw [stuck.clear intent hintent hsame] at hlive
        cases hlive
      have hstate : conversation.state ≠ .active := by
        intro h
        have hpending : conversation.state = .membershipPending := hpending
        rw [h] at hpending
        cases hpending
      rw [if_neg (not_not.mpr hclear), if_pos hstate]
  unfold createIntent
  rw [if_pos formed]
  unfold sqlBegin createIntentTx admitIntent
  rw [hrefused]
  rfl

theorem stuck_noExit
    (stuck : Stuck (membershipView db) conversationId) : ¬ HasExit H keys db conversationId := by
  rintro (hlive | ⟨entropy, input, hformed, rfl, -, hanswer⟩)
  · apply hlive
    apply List.filter_eq_nil_iff.mpr
    intro intent hintent hselected
    obtain ⟨hsame, hlive⟩ := of_decide_eq_true hselected
    rw [stuck.clear intent hintent hsame] at hlive
    cases hlive
  · exact hanswer (stuck_refuses H keys stuck hformed)

theorem stuck_run (calls : List MembershipCall) (orderly : Orderly (membershipView db))
    (stuck : Stuck (membershipView db) conversationId) :
    Stuck (membershipView (runAll H keys calls db)) conversationId := by
  induction calls generalizing db with
  | nil => exact stuck
  | cons call calls ih =>
    obtain ⟨move, hstep, -⟩ := call.step H keys db
    exact ih (hstep.orderly orderly) (stuck.step orderly hstep)

end

section

variable {H : HashFunction} {db : DeliveryDb} {keys : AuthorityDerivations}
  {entropy : IntentEntropy} {input : CreateIntentInput}

def sampleConversationId : String := "00000000-0000-4000-8000-0000000000c1"
def staffInstallationId : String := "00000000-0000-4000-8000-0000000000b1"
def customerInstallationId : String := "00000000-0000-4000-8000-0000000000b2"

def sampleConversation : ConversationRow where
  realmId := "00000000-0000-4000-8000-00000000a002"
  conversationId := sampleConversationId
  projectScopeId := "00000000-0000-4000-8000-0000000000d1"
  tenantScopeId := "00000000-0000-4000-8000-00000000a001"
  kind := .purchaseSupport
  generation := 1
  releaseProfileId := "production"
  deliveryLimitsDigest := List.replicate 32 1
  releaseTrustRootDigest := List.replicate 32 2
  quotaPolicyDigest := List.replicate 32 3
  groupIdHash := List.replicate 32 4
  state := .active
  etag := "\"e2-r2\""
  epoch := 2
  rosterVersion := 2
  rosterHash := List.replicate 32 5
  recipientSetVersion := 2
  recipientSetHash := List.replicate 32 6
  confirmedTranscriptHash := List.replicate 32 7
  lastPosition := 4
  currentLogHeadHash := List.replicate 32 8
  currentPolicyHeadSequence := 2
  currentPolicyHeadHash := List.replicate 32 9
  projectRefId := "00000000-0000-4000-8000-0000000000d2"
  lastActivityAt := "2026-08-14T16:00:00.000Z"

def sampleMember (accountId installationId credentialId : String) (role : SendRole) :
    MembershipRow where
  conversationId := sampleConversationId
  accountId := accountId
  installationId := installationId
  credentialId := credentialId
  role := role
  deliveryPurpose := .purchaseSupport
  bootstrapMode := .creator
  joinedPosition := 1
  joinedAt := "2026-08-14T15:00:00.000Z"
  removedPosition := none
  removedAt := none

def sampleRosterRow (accountId installationId credentialId : String) (ordinal : Nat) :
    RosterProjectionRow where
  conversationId := sampleConversationId
  conversationGeneration := 1
  rosterVersion := 2
  accountId := accountId
  installationId := installationId
  credentialId := credentialId
  credentialFingerprint := List.replicate 32 ordinal.toUInt8
  ordinal := ordinal

def staffAccountId : String := "00000000-0000-4000-8000-0000000000a1"
def customerAccountId : String := "00000000-0000-4000-8000-0000000000a2"
def staffCredentialId : String := "00000000-0000-4000-8000-0000000000e1"
def customerCredentialId : String := "00000000-0000-4000-8000-0000000000e2"

def sampleDb : DeliveryDb where
  conversations := [sampleConversation]
  sendGrants := []
  memberships := [sampleMember staffAccountId staffInstallationId staffCredentialId .projectStaff,
    sampleMember customerAccountId customerInstallationId customerCredentialId .customer]
  roleCredentials := []
  installations := [⟨staffInstallationId, staffAccountId, List.replicate 32 0, .active⟩,
    ⟨customerInstallationId, customerAccountId, List.replicate 32 1, .active⟩]
  policyHeadAnchors := []
  membershipIntents := []
  usage := []
  quotaBindings := []
  quotaCounters := fun _ => none
  quotaReservations := []
  rosterProjections := [sampleRosterRow staffAccountId staffInstallationId staffCredentialId 0,
    sampleRosterRow customerAccountId customerInstallationId customerCredentialId 1]
  recipientProjections := []
  signingKeys := []
  custody := []
  senderFences := []
  lanes := []
  pendings := []
  acceptances := []
  httpIdempotency := []
  retirements := []
  envelopes := []
  attachments := []
  envelopeAttachments := []
  mailboxCounters := []
  mailboxEntries := []
  outbox := []
  pageEnds := []
  policyTransitions := []
  admission := ⟨[], [], [], [], [], [], []⟩
  policy := sampleStart

def sampleRemoval : CreateIntentInput where
  operation := .remove
  conversationId := sampleConversationId
  targetInstallationId := customerInstallationId
  requestedByInstallationId := none
  grantId := none

def sampleEntropy : IntentEntropy where
  now := "2026-08-14T16:20:00.000Z"
  intentId := "00000000-0000-4000-8000-0000000000f1"
  lockedPackages := []

def sampleIntent : MembershipIntentRow where
  intentId := sampleEntropy.intentId
  conversationId := sampleConversationId
  operation := .remove
  targetInstallationId := customerInstallationId
  requestedByInstallationId := none
  grantId := none
  keyPackageRef := none
  baseEpoch := 2
  baseRosterVersion := 2
  baseConfirmedTranscriptHash := List.replicate 32 7
  proposedRosterHash := List.replicate 32 0
  state := .requested
  createdAt := sampleEntropy.now
  expiresAt := "2026-08-14T16:25:00.000Z"
  committedEnvelope := none

def pendingDb : DeliveryDb :=
  { sampleDb with
    conversations := [{ sampleConversation with state := .membershipPending }]
    membershipIntents := [sampleIntent] }

theorem sampleExpiry : instantAfter sampleEntropy.now intentTtlMilliseconds =
    .ok "2026-08-14T16:25:00.000Z" := by
  have hlater : dateParse sampleEntropy.now + intentTtlMilliseconds =
      dateParse "2026-08-14T16:25:00.000Z" := rfl
  unfold instantAfter
  rw [hlater, toISOString_dateParse rfl]

def sampleRoster : List ApplicationAppendMlsRosterProjection :=
  [{ (sampleRosterRow staffAccountId staffInstallationId staffCredentialId
      0).toApplicationAppendMlsRosterProjection with rosterVersion := 3 }]

theorem sampleRoster_hash :
    computeApplicationAppendMlsRosterHash lastBytes sampleRoster = .ok (List.replicate 32 0) := by
  have hashable : Hashable sampleRoster := by
    refine ⟨⟨le_rfl, by decide⟩, by decide, ⟨le_rfl, by decide⟩, ?_, List.nodup_singleton _,
      List.nodup_singleton _⟩
    intro row hrow
    rw [List.mem_singleton.mp hrow]
    refine ⟨?_, ⟨le_rfl, by decide⟩, by decide, ?_, ?_, ?_, List.length_replicate⟩ <;>
      rfl
  exact rosterHash_eq_ok.mpr ⟨hashable, by decide +kernel⟩

theorem refreshCustodySnapshotDigest_of_no_custody {conversationId : String} (h : db.custody = []) :
    refreshCustodySnapshotDigest H conversationId db = .ok ((), db) := by
  unfold refreshCustodySnapshotDigest
  rw [Tx.get_bind, h]
  rfl

def sampleAdmitted : AdmittedIntent where
  conversation := sampleConversation
  target := ⟨customerInstallationId, customerAccountId, List.replicate 32 1, .active⟩
  keyPackage := none
  capability := none

def sampleCreated : CreatedIntent where
  intentId := sampleEntropy.intentId
  operation := .remove
  baseEpoch := 2
  baseRosterVersion := 2
  proposedRosterHash := List.replicate 32 0
  takenKeyPackage := none
  authorizedCommitterInstallationIds := authorizedCommitters pendingDb sampleConversationId
    .purchaseSupport (some customerInstallationId)
  targetCredentialId := none
  expiresAt := "2026-08-14T16:25:00.000Z"

theorem createIntent_of_stored {written : DeliveryDb} {admitted : AdmittedIntent}
    {answer : MembershipIntentCreation} (formed : input.wellFormed = true)
    (hadmitted : admitIntent db entropy.now input entropy.lockedPackages = .ok admitted)
    (incapable : admitted.capability = none)
    (stored : storeIntent H entropy input admitted none db = .ok (answer, written)) :
    createIntent H keys entropy input db = (.ok answer, written) := by
  unfold createIntent sqlBegin createIntentTx
  rw [if_pos formed, hadmitted]
  dsimp only
  rw [incapable, stored]

def sampleRun : List MembershipCall :=
  [.createIntent sampleEntropy sampleRemoval, .cancelIntent sampleEntropy.intentId
    staffInstallationId]

theorem sampleRun_stuck :
    Stuck (membershipView (runAll lastBytes sampleKeys sampleRun sampleDb)) sampleConversationId :=
  ⟨by decide +kernel, by decide +kernel⟩

theorem sampleDb_fresh : Fresh sampleDb :=
  ⟨List.nodup_singleton _, List.nodup_nil, fun _ h => (by cases h), rfl⟩

def sampleGrantId : String := "00000000-0000-4000-8000-0000000000a9"

def samplePackage : KeyPackageRow where
  keyPackageRef := [7]
  installationId := staffInstallationId
  packageBytes := [1]
  packageSha256 := [2]
  state := .available
  createdAt := "2026-08-14T15:00:00.000Z"
  expiresAt := "2026-09-14T15:00:00.000Z"
  takenAt := none
  takenByPlanId := none
  takenByIntentId := none
  usedAt := none

def sampleCredential : RoleCredentialRow where
  credentialId := staffCredentialId
  conversationId := sampleConversationId
  installationId := staffInstallationId
  accountId := staffAccountId
  policyId := "policy"
  role := .projectStaff
  credentialFingerprint := List.replicate 32 0
  issuedAt := "2026-08-14T15:00:00.000Z"
  expiresAt := "2026-09-14T15:00:00.000Z"
  revocationVersion := 0
  state := .active

/-- The staff member can be added: it has a grant, a credential and a KeyPackage. -/
def additionDb : DeliveryDb :=
  { sampleDb with
    memberships := [sampleMember customerAccountId customerInstallationId customerCredentialId
      .customer]
    rosterProjections := []
    roleCredentials := [sampleCredential]
    admission := ⟨[samplePackage], [⟨sampleGrantId, staffAccountId, .projectStaff, .active,
      "2026-09-14T15:00:00.000Z"⟩], [], [], [], [], []⟩ }

def sampleAddition : CreateIntentInput :=
  { sampleRemoval with
    operation := .add
    targetInstallationId := staffInstallationId
    grantId := some sampleGrantId }

def takes {ε : Type} (result : Except ε MembershipIntentCreation) : Bool :=
  match result with
  | .ok (.created made) => decide (made.takenKeyPackage = some ([7], [2], [1]))
  | _ => false

theorem exists_of_takes {ε : Type} {result : Except ε MembershipIntentCreation}
    (h : takes result = true) :
    ∃ made, result = .ok (.created made) ∧ made.takenKeyPackage = some ([7], [2], [1]) := by
  unfold takes at h
  split at h
  · next made => exact ⟨made, rfl, of_decide_eq_true h⟩
  · cases h

theorem createIntent_addition : takes (createIntent lastBytes sampleKeys sampleEntropy
    sampleAddition additionDb).1 = true := by
  decide +kernel

theorem additionDb_fresh : Fresh additionDb where
  conversations := List.nodup_singleton _
  keyPackages := List.nodup_singleton _
  untaken row hrow _ := by
    rw [List.mem_singleton.mp hrow]
    rfl
  noIntents := rfl

/-- The staff member's KeyPackage is reserved for the intent of its addition, whatever is called
afterwards. -/
theorem membership_intents_stay_orderly_added : ∃ intent ∈ (runAll lastBytes sampleKeys
    [.createIntent sampleEntropy sampleAddition] additionDb).membershipIntents,
      intent.intentId = sampleEntropy.intentId ∧
      (∃ row ∈ (runAll lastBytes sampleKeys [.createIntent sampleEntropy sampleAddition]
        additionDb).admission.keyPackages, row.keyPackageRef = [7] ∧ row.state ≠ .available ∧
          row.takenByIntentId = some intent.intentId) ∧
      ∀ later, ∀ other ∈ (runAll lastBytes sampleKeys
        ([.createIntent sampleEntropy sampleAddition] ++ later) additionDb).membershipIntents,
          other.keyPackageRef = some [7] → other.intentId = intent.intentId := by
  obtain ⟨made, hmade, htaken⟩ := exists_of_takes createIntent_addition
  obtain ⟨-, -, -, -, answered, -⟩ :=
    membership_intents_stay_orderly lastBytes sampleKeys additionDb additionDb_fresh [] []
  obtain ⟨intent, hintent, hid, href⟩ := answered sampleEntropy sampleAddition made hmade _ htaken
  have reserved := fun later => (membership_intents_stay_orderly lastBytes sampleKeys additionDb
    additionDb_fresh [.createIntent sampleEntropy sampleAddition] later).2.2.2.1 intent hintent [7]
      href
  exact ⟨intent, hintent, hid, (reserved []).1, fun later => (reserved later).2⟩

/-- A run without withdrawal: the removal is created and stays live. -/
theorem pending_conversations_keep_an_exit_requested :
    NoDeadEnd lastBytes sampleKeys (runAll lastBytes sampleKeys
      [.createIntent sampleEntropy sampleRemoval] sampleDb) := by
  refine pending_conversations_keep_an_exit lastBytes sampleKeys sampleDb sampleDb_fresh ?_
    [.createIntent sampleEntropy sampleRemoval] ?_ _ [] rfl
  · intro row hrow
    rw [List.mem_singleton.mp hrow]
    decide
  · intro before call after hcalls
    cases before with
    | nil =>
      obtain ⟨rfl, -⟩ := List.cons.inj hcalls
      exact not_false
    | cons first rest =>
      have hlength := congrArg List.length hcalls
      simp only [List.length_append, List.length_cons, List.length_nil] at hlength
      omega

/-- The customer's removal is withdrawn by the staff member: the conversation stays pending for
good, whatever is called afterwards. -/
theorem withdrawn_removal_leaves_no_exit :
    Fresh sampleDb ∧ (∀ row ∈ sampleDb.conversations, row.state ≠ .membershipPending) ∧
      ¬ NoDeadEnd lastBytes sampleKeys (runAll lastBytes sampleKeys sampleRun sampleDb) ∧
      ∀ calls, ∀ row ∈ (runAll lastBytes sampleKeys (sampleRun ++ calls) sampleDb).conversations,
        row.conversationId = sampleConversationId → row.state = .membershipPending := by
  refine ⟨sampleDb_fresh, ?_, ?_, ?_⟩
  · intro row hrow
    rw [List.mem_singleton.mp hrow]
    decide
  · obtain ⟨row, hrow, hid, hstate⟩ : ∃ row ∈ (runAll lastBytes sampleKeys sampleRun
        sampleDb).conversations, row.conversationId = sampleConversationId ∧
          row.state = .membershipPending := by
      decide +kernel
    intro h
    exact stuck_noExit lastBytes sampleKeys sampleRun_stuck (hid ▸ h row hrow hstate)
  · intro calls row hrow hid
    rw [runAll_append] at hrow
    have stuck := stuck_run lastBytes sampleKeys calls (runAll_orderly lastBytes sampleKeys
      sampleRun sampleDb_fresh.orderly) sampleRun_stuck
    exact stuck.pending (slotOf row) (List.mem_map_of_mem hrow) hid

end

end JbChat.Store.MembershipSafety
