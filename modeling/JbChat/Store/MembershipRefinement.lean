/- source: src/production/storage/membershipIntentStore.ts, externalProposalStore.ts,
     membershipCommitStore.ts
   digest: Every membership transaction is one move of the membership model. -/

import JbChat.Store.MembershipCommits
import JbChat.Store.MembershipModel

set_option autoImplicit false

namespace JbChat.Store.MembershipRefinement

open Foundation.HashTrace Foundation.Transaction Delivery.ValueObjects
open Delivery.Snapshot Delivery.EnvelopeLog Tables Store.Authority Provisioning PolicyHeads
open LogWriter MembershipIntents ExternalProposals MembershipCommits MembershipModel

def slotOf (row : ConversationRow) : Slot :=
  ⟨row.conversationId, row.state, row.epoch, row.lastPosition⟩

def entryOf (row : EnvelopeRow) : LogEntry :=
  ⟨row.conversationId, row.position, row.envelopeClass, row.epoch⟩

/-- The rows that the membership model speaks about. -/
def membershipView (db : DeliveryDb) : MembershipView where
  slots := db.conversations.map slotOf
  intents := db.membershipIntents
  packages := db.admission.keyPackages
  log := db.envelopes.map entryOf

/-- The rows about members: their windows, credentials and installations, and their rosters with
the generations and versions that the conversations have them at; and what they have used. -/
structure MemberTables where
  memberships : List MembershipRow
  roleCredentials : List RoleCredentialRow
  installations : List InstallationRow
  rosterProjections : List RosterProjectionRow
  versions : List (String × Nat × Nat)
  usage : List LockedConversationUsage

def versionOf (row : ConversationRow) : String × Nat × Nat :=
  (row.conversationId, row.generation, row.rosterVersion)

def memberTables (db : DeliveryDb) : MemberTables where
  memberships := db.memberships
  roleCredentials := db.roleCredentials
  installations := db.installations
  rosterProjections := db.rosterProjections
  versions := db.conversations.map versionOf
  usage := db.usage

theorem refreshCustodySnapshotDigest_writes {H : HashFunction} {conversationId : String}
    {db written : DeliveryDb} {u : Unit}
    (h : refreshCustodySnapshotDigest H conversationId db = .ok (u, written)) :
    ∃ fences custody, written = { db with
      senderFences := fences
      custody := custody } := by
  unfold refreshCustodySnapshotDigest at h
  rw [Tx.get_bind] at h
  split at h
  · obtain ⟨⟨digest, fences⟩, -, h⟩ := Tx.lift_bind_eq_ok.mp h
    dsimp only at h
    split at h
    · cases h
      exact ⟨fences, db.custody, rfl⟩
    · cases h
      exact ⟨fences, _, rfl⟩
  · obtain ⟨-, rfl⟩ := Tx.pure_eq_ok.mp h
    exact ⟨written.senderFences, written.custody, rfl⟩

theorem headWrites_membershipView {db written : DeliveryDb} (writes : HeadWrites db written) :
    membershipView written = membershipView db := by
  obtain ⟨selected, sequence, hash, policy, anchors, grants, rfl⟩ := writes
  unfold membershipView
  dsimp only
  rw [map_updateWhere_of_same (atHead sequence hash) (fun _ => rfl)]

theorem headWrites_memberTables {db written : DeliveryDb} (writes : HeadWrites db written) :
    memberTables written = memberTables db := by
  obtain ⟨selected, sequence, hash, policy, anchors, grants, rfl⟩ := writes
  unfold memberTables
  dsimp only
  rw [map_updateWhere_of_same (atHead sequence hash) (fun _ => rfl)]

section

variable {H : HashFunction} {keys : AuthorityDerivations} {db written : DeliveryDb} {now : String}
  {entropy : IntentEntropy} {input : CreateIntentInput} {admitted : AdmittedIntent}
  {credential : Option RoleCredentialRow} {answer : MembershipIntentCreation}
  {conversation : ConversationRow} {locked : List Bytes}

theorem moveConversation_slots (conversationId : String) (source target : ConversationState)
    (db : DeliveryDb) :
    (moveConversation conversationId source target db).conversations.map slotOf =
      updateWhere (fun slot => decide (slot.conversationId = conversationId ∧ slot.state = source))
        (inState target) (db.conversations.map slotOf) := by
  unfold moveConversation
  apply map_updateWhere
  · intro row
    rfl
  · intro row
    rfl

theorem insertIntent_eq_ok {row : MembershipIntentRow} (h : insertIntent row db = .ok written) :
    (∀ other ∈ db.membershipIntents, other.intentId ≠ row.intentId) ∧
      written = { db with membershipIntents := db.membershipIntents ++ [row] } := by
  unfold insertIntent at h
  obtain ⟨-, h⟩ := guard_ok.mp h
  obtain ⟨-, h⟩ := guard_ok.mp h
  obtain ⟨-, h⟩ := guard_ok.mp h
  obtain ⟨rows, hrows, h⟩ := bind_ok.mp h
  unfold insertUnique at hrows
  obtain ⟨hfresh, hrows⟩ := guard_ok.mp hrows
  cases hrows
  refine ⟨?_, (Except.ok.inj h).symm⟩
  intro other hother hsame
  exact hfresh (List.any_eq_true.mpr ⟨other, hother, decide_eq_true hsame⟩)

theorem takeAdmittedPackage_eq_ok {package : Option KeyPackageRow} {intentId : String}
    (h : takeAdmittedPackage package intentId now db = .ok written) :
    written = { db with
      admission := { db.admission with
        keyPackages := MembershipView.takePackage (package.map KeyPackageRow.keyPackageRef) intentId
          now db.admission.keyPackages } } := by
  cases package with
  | none => exact (Except.ok.inj h).symm
  | some package =>
    unfold takeAdmittedPackage takeKeyPackage at h
    exact (Except.ok.inj (guard_ok.mp h).2).symm

structure Stores (entropy : IntentEntropy) (input : CreateIntentInput) (admitted : AdmittedIntent)
    (intent : MembershipIntentRow) : Prop where
  intentId : intent.intentId = entropy.intentId
  conversationId : intent.conversationId = input.conversationId
  operation : intent.operation = input.operation
  target : intent.targetInstallationId = input.targetInstallationId
  state : intent.state = .requested
  keyPackageRef : intent.keyPackageRef = admitted.keyPackage.map KeyPackageRow.keyPackageRef

theorem storeIntent_eq_ok
    (h : storeIntent H entropy input admitted credential db = .ok (answer, written)) :
    ∃ made intent, answer = .created made ∧
      made.takenKeyPackage.map Prod.fst = intent.keyPackageRef ∧
      Stores entropy input admitted intent ∧
      (∀ other ∈ db.membershipIntents, other.intentId ≠ intent.intentId) ∧
      membershipView written = (membershipView db).create entropy.now intent ∧
      written.memberships = db.memberships := by
  unfold storeIntent at h
  obtain ⟨expiresAt, -, h⟩ := bind_ok.mp h
  obtain ⟨rosterHash, -, h⟩ := bind_ok.mp h
  obtain ⟨inserted, hinsert, h⟩ := bind_ok.mp h
  obtain ⟨taken, htake, h⟩ := bind_ok.mp h
  obtain ⟨⟨u, refreshed⟩, hrefresh, h⟩ := bind_ok.mp h
  cases h
  obtain ⟨hfresh, rfl⟩ := insertIntent_eq_ok hinsert
  obtain ⟨fences, custody, rfl⟩ := refreshCustodySnapshotDigest_writes hrefresh
  obtain rfl := takeAdmittedPackage_eq_ok htake
  refine ⟨_, _, rfl, Option.map_map .., ⟨rfl, rfl, rfl, rfl, rfl, rfl⟩, hfresh, ?_, rfl⟩
  unfold MembershipView.create
  rw [MembershipView.mk.injEq]
  exact ⟨moveConversation_slots _ _ _ _, rfl, rfl, rfl⟩

theorem intentConversation_eq_ok (h : intentConversation db input = .ok conversation) :
    conversation ∈ db.conversations ∧ conversation.conversationId = input.conversationId ∧
      conversation.state = .active := by
  unfold intentConversation at h
  split at h
  · cases h
  · rename_i found hfound
    obtain ⟨-, h⟩ := guard_ok.mp h
    obtain ⟨hactive, h⟩ := guard_ok.mp h
    obtain rfl := Except.ok.inj h
    have hmem : found ∈ db.conversations.filter fun row =>
        decide (row.conversationId = input.conversationId) := by
      rw [onlyRow_eq_some.mp hfound]
      exact List.mem_singleton.mpr rfl
    obtain ⟨hrow, hid⟩ := List.mem_filter.mp hmem
    exact ⟨hrow, of_decide_eq_true hid, not_not.mp hactive⟩

theorem availablePackage_eq_some {package : KeyPackageRow}
    (h : availablePackage db now input locked = some package) :
    package ∈ db.admission.keyPackages ∧ package.state = .available ∧ package.takenAt = none := by
  obtain ⟨hrow, hselected⟩ := List.mem_filter.mp
    ((List.mem_insertionSort _).mp (List.mem_of_head? h))
  obtain ⟨-, hstate, huntaken, -⟩ := of_decide_eq_true hselected
  exact ⟨hrow, hstate, huntaken⟩

/-- What was checked before the first write. -/
structure Admits (db : DeliveryDb) (input : CreateIntentInput) (admitted : AdmittedIntent) :
    Prop where
  found : admitted.conversation ∈ db.conversations
  conversationId : admitted.conversation.conversationId = input.conversationId
  active : admitted.conversation.state = .active
  available : ∀ package ∈ admitted.keyPackage, package ∈ db.admission.keyPackages ∧
    package.state = .available ∧ package.takenAt = none

theorem admitIntent_eq_ok (h : admitIntent db now input locked = .ok admitted) :
    Admits db input admitted := by
  unfold admitIntent at h
  obtain ⟨conversation, hconversation, h⟩ := bind_ok.mp h
  obtain ⟨target, -, h⟩ := bind_ok.mp h
  obtain ⟨hmem, hid, hactive⟩ := intentConversation_eq_ok hconversation
  have without : ∀ capability, Admits db input ⟨conversation, target, capability, none⟩ :=
    fun _ => ⟨hmem, hid, hactive, fun _ hnone => by cases hnone⟩
  split at h
  · obtain ⟨capability, -, h⟩ := bind_ok.mp h
    split at h
    · cases h
    · rename_i package hpackage
      cases h
      refine ⟨hmem, hid, hactive, ?_⟩
      rintro found hfound
      cases hfound
      exact availablePackage_eq_some hpackage
  · obtain ⟨-, -, h⟩ := bind_ok.mp h
    cases h
    exact without none

theorem issueTargetRoleCredential_eq_ok {target : InstallationRow} {capability : GrantCapability}
    (h : issueTargetRoleCredential keys input conversation target capability now db =
      .ok (.ok written)) :
    ∃ credentials, written = { db with roleCredentials := credentials } := by
  unfold issueTargetRoleCredential at h
  split at h
  · cases h
    exact ⟨db.roleCredentials, rfl⟩
  · dsimp only at h
    split at h
    · cases h
    · cases h
    · split at h
      · cases h
      · split at h
        · cases h
        · obtain ⟨expiresAt, -, h⟩ := bind_ok.mp h
          obtain ⟨inserted, hinsert, h⟩ := bind_ok.mp h
          cases h
          obtain ⟨rows, -, hinsert⟩ := bind_ok.mp hinsert
          exact ⟨rows, (Except.ok.inj hinsert).symm⟩

def CreatesOrKeeps (entropy : IntentEntropy) (input : CreateIntentInput)
    (answer : MembershipIntentCreation) (db written : DeliveryDb) : Prop :=
  ((∀ made, answer ≠ .created made) ∧ membershipView written = membershipView db) ∨
    ∃ intent, intent.intentId = entropy.intentId ∧ intent.conversationId = input.conversationId ∧
      intent.operation = input.operation ∧
      intent.targetInstallationId = input.targetInstallationId ∧ intent.state = .requested ∧
      (∀ made, answer = .created made →
        made.takenKeyPackage.map Prod.fst = intent.keyPackageRef) ∧
      Step (membershipView db) (.create intent) (membershipView written)

theorem storeIntent_step {start : DeliveryDb} (admits : Admits start input admitted)
    (same : membershipView db = membershipView start)
    (h : storeIntent H entropy input admitted credential db = .ok (answer, written)) :
    CreatesOrKeeps entropy input answer start written := by
  obtain ⟨made, intent, rfl, htaken, stores, hfresh, hview, -⟩ := storeIntent_eq_ok h
  right
  refine ⟨intent, stores.intentId, stores.conversationId, stores.operation, stores.target,
    stores.state, ?_, ?_⟩
  · intro other hmade
    obtain rfl := MembershipIntentCreation.created.inj hmade
    exact htaken
  rw [hview, same]
  have hintents : db.membershipIntents = start.membershipIntents :=
    congrArg MembershipView.intents same
  have hslot : slotOf admitted.conversation ∈ (membershipView start).slots :=
    List.mem_map_of_mem admits.found
  refine Step.create entropy.now hslot ?_ admits.active stores.state ?_ ?_
  · exact admits.conversationId.trans stores.conversationId.symm
  · intro other hother
    exact hfresh other (hintents ▸ hother)
  · intro ref href
    rw [stores.keyPackageRef] at href
    obtain ⟨package, hpackage, rfl⟩ := Option.mem_map.mp href
    obtain ⟨hrow, hstate, huntaken⟩ := admits.available package hpackage
    exact ⟨package, hrow, rfl, hstate, huntaken⟩

theorem admitIntent_refuses {outcome : MembershipIntentCreation}
    (h : admitIntent db now input locked = .error outcome) :
    ∀ made, outcome ≠ .created made := by
  rintro made rfl
  unfold admitIntent at h
  rcases except_bind_eq_error.mp h with h | ⟨conversation, -, h⟩
  · unfold intentConversation at h
    split at h
    · cases h
    · split at h
      · cases h
      · split at h <;> cases h
  rcases except_bind_eq_error.mp h with h | ⟨target, -, h⟩
  · unfold intentTarget at h
    split at h
    · cases h
    · split at h <;> cases h
  split at h
  · rcases except_bind_eq_error.mp h with h | ⟨capability, -, h⟩
    · unfold additionGrant at h
      split at h
      · cases h
      · split at h
        · cases h
        · split at h <;> cases h
    · split at h <;> cases h
  · rcases except_bind_eq_error.mp h with h | ⟨-, -, h⟩
    · unfold removalTarget at h
      split at h
      · cases h
      · split at h <;> cases h
    · cases h

theorem createIntentTx_step (h : createIntentTx H keys entropy input db = .ok (answer, written)) :
    CreatesOrKeeps entropy input answer db written := by
  unfold createIntentTx at h
  split at h
  · rename_i outcome houtcome
    cases h
    exact Or.inl ⟨admitIntent_refuses houtcome, rfl⟩
  · rename_i admitted hadmitted
    have admits := admitIntent_eq_ok hadmitted
    split at h
    · unfold createAddition at h
      obtain ⟨issued, hissued, h⟩ := bind_ok.mp h
      split at h
      · cases h
        exact Or.inl ⟨fun _ hmade => (by cases hmade), rfl⟩
      · obtain ⟨credentials, rfl⟩ := issueTargetRoleCredential_eq_ok hissued
        have same : membershipView { db with roleCredentials := credentials } =
            membershipView db := rfl
        split at h
        · cases h
          exact Or.inl ⟨fun _ hmade => (by cases hmade), same⟩
        · exact storeIntent_step admits same h
    · exact storeIntent_step admits rfl h

theorem createIntent_step (entropy : IntentEntropy) (input : CreateIntentInput)
    (db : DeliveryDb) :
    ((∀ made, (createIntent H keys entropy input db).1 ≠ .ok (.created made)) ∧
        membershipView (createIntent H keys entropy input db).2 = membershipView db) ∨
      ∃ intent, intent.intentId = entropy.intentId ∧
        intent.conversationId = input.conversationId ∧ intent.operation = input.operation ∧
        intent.targetInstallationId = input.targetInstallationId ∧ intent.state = .requested ∧
        (∀ made, (createIntent H keys entropy input db).1 = .ok (.created made) →
          made.takenKeyPackage.map Prod.fst = intent.keyPackageRef) ∧
        Step (membershipView db) (.create intent)
          (membershipView (createIntent H keys entropy input db).2) := by
  unfold createIntent
  split
  · rcases sqlBegin_cases (createIntentTx H keys entropy input) db with
      ⟨answer, written, htx, hrun⟩ | ⟨failure, -, hrun⟩
    · rw [hrun]
      rcases createIntentTx_step htx with ⟨hanswer, hview⟩ |
        ⟨intent, hid, hconversation, hoperation, htarget, hstate, htaken, hstep⟩
      · exact Or.inl ⟨fun made h => hanswer made (Except.ok.inj h), hview⟩
      · exact Or.inr ⟨intent, hid, hconversation, hoperation, htarget, hstate,
          fun made h => htaken made (Except.ok.inj h), hstep⟩
    · rw [hrun]
      exact Or.inl ⟨fun _ h => (by cases h), rfl⟩
  · exact Or.inl ⟨fun _ h => (by cases h), rfl⟩

end

section

variable {H : HashFunction} {db written : DeliveryDb} {slot : Slot}

theorem hasLiveIntent_eq_false {conversationId : String} :
    hasLiveIntent db conversationId = false ↔ ∀ row ∈ db.membershipIntents,
      row.conversationId = conversationId → row.state.isLive = false := by
  unfold hasLiveIntent
  rw [List.any_eq_false]
  constructor
  · intro h row hrow hsame
    exact Bool.eq_false_iff.mpr fun hlive => h row hrow (decide_eq_true ⟨hsame, hlive⟩)
  · intro h row hrow hlive
    obtain ⟨hsame, hlive⟩ := of_decide_eq_true hlive
    rw [h row hrow hsame] at hlive
    cases hlive

theorem isFreed_nil {intents : List MembershipIntentRow} :
    ¬ MembershipView.isFreed [] intents slot := by
  rintro ⟨-, ⟨row, hrow, -⟩, -⟩
  cases hrow

theorem isFreed_cons {row : MembershipIntentRow}
    {closed intents : List MembershipIntentRow} :
    MembershipView.isFreed (row :: closed) intents slot ↔
      MembershipView.isFreed [row] intents slot ∨ MembershipView.isFreed closed intents slot := by
  unfold MembershipView.isFreed
  constructor
  · rintro ⟨hpending, ⟨other, hother, hkind⟩, hclear⟩
    rcases List.mem_cons.mp hother with rfl | hother
    · exact Or.inl ⟨hpending, ⟨other, List.mem_singleton.mpr rfl, hkind⟩, hclear⟩
    · exact Or.inr ⟨hpending, ⟨other, hother, hkind⟩, hclear⟩
  · rintro (⟨hpending, ⟨other, hother, hkind⟩, hclear⟩ | ⟨hpending, ⟨other, hother, hkind⟩, hclear⟩)
    · obtain rfl := List.mem_singleton.mp hother
      exact ⟨hpending, ⟨other, List.mem_cons_self, hkind⟩, hclear⟩
    · exact ⟨hpending, ⟨other, List.mem_cons_of_mem _ hother, hkind⟩, hclear⟩

def freedRow (closed intents : List MembershipIntentRow) (row : ConversationRow) :
    ConversationRow :=
  if MembershipView.isFreed closed intents (slotOf row) then { row with state := .active } else row

theorem freedRow_cons (row : MembershipIntentRow) (closed intents : List MembershipIntentRow)
    (conversation : ConversationRow) :
    freedRow closed intents (freedRow [row] intents conversation) =
      freedRow (row :: closed) intents conversation := by
  unfold freedRow
  by_cases hfirst : MembershipView.isFreed [row] intents (slotOf conversation)
  · rw [if_pos hfirst, if_pos (isFreed_cons.mpr (Or.inl hfirst)), if_neg]
    rintro ⟨hpending, -⟩
    cases hpending
  · rw [if_neg hfirst]
    by_cases hrest : MembershipView.isFreed closed intents (slotOf conversation)
    · rw [if_pos hrest, if_pos (isFreed_cons.mpr (Or.inr hrest))]
    · rw [if_neg hrest, if_neg (fun h => (isFreed_cons.mp h).elim hfirst hrest)]

theorem returnOne_eq (row : MembershipIntentRow) (db : DeliveryDb) :
    (if row.operation = .remove then db
      else returnConversationToActiveIfClear row.conversationId db) =
      { db with
        conversations := db.conversations.map (freedRow [row] db.membershipIntents) } := by
  have kept : (∀ conversation, ¬ MembershipView.isFreed [row] db.membershipIntents
      (slotOf conversation)) → db.conversations.map (freedRow [row] db.membershipIntents) =
      db.conversations := by
    intro h
    have same : freedRow [row] db.membershipIntents = id := funext fun conversation =>
      if_neg (h conversation)
    rw [same, List.map_id]
  by_cases hremove : row.operation = .remove
  · rw [if_pos hremove, kept]
    rintro conversation ⟨-, ⟨other, hother, hkind, -⟩, -⟩
    rw [List.mem_singleton.mp hother] at hkind
    exact hkind hremove
  · rw [if_neg hremove]
    unfold returnConversationToActiveIfClear
    cases hlive : hasLiveIntent db row.conversationId with
    | true =>
      rw [if_pos rfl, kept]
      rintro conversation ⟨-, ⟨other, hother, -, hconv⟩, hclear⟩
      rw [List.mem_singleton.mp hother] at hconv
      rw [hasLiveIntent_eq_false.mpr (fun row hrow h => hclear row hrow (h.trans hconv))] at hlive
      cases hlive
    | false =>
      rw [if_neg (by decide)]
      unfold moveConversation updateWhere
      congr 1
      apply List.map_congr_left
      intro conversation _
      unfold freedRow
      by_cases hid : conversation.conversationId = row.conversationId ∧
          conversation.state = .membershipPending
      · rw [if_pos (decide_eq_true hid), if_pos]
        refine ⟨hid.2, ⟨row, List.mem_singleton.mpr rfl, hremove, hid.1.symm⟩, ?_⟩
        intro other hother hsame
        exact hasLiveIntent_eq_false.mp hlive other hother (hsame.trans hid.1)
      · rw [if_neg (fun h => hid (of_decide_eq_true h)), if_neg]
        rintro ⟨hpending, ⟨other, hother, -, hconv⟩, -⟩
        rw [List.mem_singleton.mp hother] at hconv
        exact hid ⟨hconv.symm, hpending⟩

theorem returnEach_eq (closed : List MembershipIntentRow) (db : DeliveryDb) :
    returnEach closed db = { db with
      conversations := db.conversations.map (freedRow closed db.membershipIntents) } := by
  induction closed generalizing db with
  | nil =>
    have same : freedRow [] db.membershipIntents = id := funext fun conversation =>
      if_neg isFreed_nil
    rw [same, List.map_id]
    rfl
  | cons row closed ih =>
    have hstep : returnEach (row :: closed) db = returnEach closed (if row.operation = .remove
        then db else returnConversationToActiveIfClear row.conversationId db) := rfl
    rw [hstep, ih, returnOne_eq]
    dsimp only
    rw [List.map_map]
    congr 1
    apply List.map_congr_left
    intro conversation _
    exact freedRow_cons row closed db.membershipIntents conversation

theorem returnEach_view (selected : MembershipIntentRow → Bool) (final : IntentState)
    (db : DeliveryDb) :
    membershipView (returnEach (db.membershipIntents.filter selected)
      (setIntentState selected final db)) = (membershipView db).close selected final := by
  rw [returnEach_eq]
  unfold membershipView MembershipView.close
  rw [MembershipView.mk.injEq]
  refine ⟨?_, rfl, rfl, rfl⟩
  dsimp only [setIntentState]
  rw [List.map_map]
  unfold updateWhere
  rw [List.map_map]
  apply List.map_congr_left
  intro conversation _
  simp only [Function.comp_apply, freedRow, decide_eq_true_eq]
  split
  · rename_i hfreed
    exact (if_pos hfreed).symm
  · rename_i hfreed
    exact (if_neg hfreed).symm

theorem refreshEach_writes {conversationIds : List String} {u : Unit}
    (h : refreshEach H conversationIds db = .ok (u, written)) :
    ∃ fences custody, written = { db with
      senderFences := fences
      custody := custody } := by
  induction conversationIds generalizing db with
  | nil =>
    obtain ⟨-, rfl⟩ := Tx.pure_eq_ok.mp h
    exact ⟨written.senderFences, written.custody, rfl⟩
  | cons conversationId others ih =>
    obtain ⟨u, refreshed, hfirst, hrest⟩ := Tx.bind_eq_ok.mp h
    obtain ⟨fences, custody, rfl⟩ := refreshCustodySnapshotDigest_writes hfirst
    obtain ⟨fences, custody, rfl⟩ := ih hrest
    exact ⟨fences, custody, rfl⟩

theorem cancellableIntent_eq_some {intentId requester : String} {intent : MembershipIntentRow}
    (h : cancellableIntent db intentId requester = some intent) :
    db.membershipIntents.filter (isIntent intentId) = [intent] ∧ intent.state.isLive = true := by
  unfold cancellableIntent at h
  split at h
  · cases h
  · rename_i found hfound
    split at h
    · cases h
    · rename_i hlive
      cases h
      push Not at hlive
      exact ⟨onlyRow_eq_some.mp hfound, hlive.1⟩

theorem cancelIntent_step (intentId requester : String) (db : DeliveryDb) :
    membershipView (cancelIntent H intentId requester db).2 = membershipView db ∨
      ∃ intent, isLowercaseUuid intentId = true ∧
        cancellableIntent db intentId requester = some intent ∧
        Step (membershipView db) (.close [intent])
          (membershipView (cancelIntent H intentId requester db).2) := by
  unfold cancelIntent
  split
  · rename_i hid
    rcases sqlBegin_cases (cancelIntentTx H intentId requester) db with
      ⟨answer, written, htx, hrun⟩ | ⟨failure, -, hrun⟩
    · rw [hrun]
      unfold cancelIntentTx at htx
      split at htx
      · cases htx
        exact Or.inl rfl
      · rename_i intent hintent
        right
        refine ⟨intent, hid, hintent, ?_⟩
        obtain ⟨hrows, hlive⟩ := cancellableIntent_eq_some hintent
        obtain ⟨⟨u, refreshed⟩, hrefresh, htx⟩ := bind_ok.mp htx
        cases htx
        obtain ⟨fences, custody, rfl⟩ := refreshCustodySnapshotDigest_writes hrefresh
        have hview := returnEach_view (isIntent intentId) .cancelled db
        rw [hrows] at hview
        have hstep : Step (membershipView db) (.close (db.membershipIntents.filter
            (isIntent intentId))) ((membershipView db).close (isIntent intentId) .cancelled) := by
          refine Step.close (Or.inl rfl) ?_
          intro row hrow hselected
          have hmem : row ∈ db.membershipIntents.filter (isIntent intentId) :=
            List.mem_filter.mpr ⟨hrow, hselected⟩
          rw [hrows] at hmem
          rw [List.mem_singleton.mp hmem]
          exact hlive
        rw [hrows] at hstep
        exact hview ▸ hstep
    · rw [hrun]
      exact Or.inl rfl
  · exact Or.inl rfl

theorem expireIntents_step (now : String) (db : DeliveryDb) :
    membershipView (expireIntents H now db).2 = membershipView db ∨
      Step (membershipView db) (.close (db.membershipIntents.filter (isOverdue now)))
        (membershipView (expireIntents H now db).2) := by
  unfold expireIntents
  rcases sqlBegin_cases (expireIntentsTx H now) db with
    ⟨answer, written, htx, hrun⟩ | ⟨failure, -, hrun⟩
  · right
    rw [hrun]
    unfold expireIntentsTx at htx
    obtain ⟨⟨u, refreshed⟩, hrefresh, htx⟩ := bind_ok.mp htx
    cases htx
    obtain ⟨fences, custody, rfl⟩ := refreshEach_writes hrefresh
    have hview := returnEach_view (isOverdue now) .expired db
    have hstep : Step (membershipView db) (.close (db.membershipIntents.filter (isOverdue now)))
        ((membershipView db).close (isOverdue now) .expired) :=
      Step.close (Or.inr rfl) fun row _ hselected => (of_decide_eq_true hselected).1
    exact hview ▸ hstep
  · rw [hrun]
    exact Or.inl rfl

end

section

variable {H : HashFunction} {db written : DeliveryDb} {input : RecordProposalInput}
  {admitted : AdmittedProposal}

theorem insertEnvelope_eq_ok {row : EnvelopeRow} (h : insertEnvelope row db = .ok written) :
    written = { db with envelopes := db.envelopes ++ [row] } := by
  unfold insertEnvelope at h
  obtain ⟨-, h⟩ := guard_ok.mp h
  obtain ⟨-, h⟩ := guard_ok.mp h
  obtain ⟨-, h⟩ := guard_ok.mp h
  exact (Except.ok.inj h).symm

theorem insertPageEnd_eq_ok {conversationId observedAt : String} {position : Nat}
    (h : insertPageEndProjectionFromRows conversationId position observedAt db = .ok written) :
    ∃ pageEnds, written = { db with pageEnds := pageEnds } := by
  unfold insertPageEndProjectionFromRows at h
  split at h
  · obtain ⟨pageEnds, -, h⟩ := bind_ok.mp h
    exact ⟨pageEnds, (Except.ok.inj h).symm⟩
  · cases h

theorem insertExternalProposal_eq_ok {row : ExternalProposalRow}
    (h : insertExternalProposal row db = .ok written) :
    ∃ proposals, written = { db with
      admission := { db.admission with externalProposals := proposals } } := by
  unfold insertExternalProposal at h
  exact ⟨_, (Except.ok.inj (guard_ok.mp h).2).symm⟩

theorem proposableIntent_eq_ok {now intentId : String} {intent : MembershipIntentRow}
    (h : proposableIntent db now intentId = .ok intent) :
    intent ∈ db.membershipIntents ∧ intent.intentId = intentId ∧
      (intent.state = .requested ∨ intent.state = .authorized) := by
  unfold proposableIntent at h
  split at h
  · cases h
  · rename_i found hfound
    obtain ⟨hopen, h⟩ := guard_ok.mp h
    obtain ⟨-, h⟩ := guard_ok.mp h
    obtain rfl := Except.ok.inj h
    have hmem : found ∈ db.membershipIntents.filter fun row =>
        decide (row.intentId = intentId) := by
      rw [onlyRow_eq_some.mp hfound]
      exact List.mem_singleton.mpr rfl
    obtain ⟨hrow, hid⟩ := List.mem_filter.mp hmem
    refine ⟨hrow, of_decide_eq_true hid, ?_⟩
    by_contra hclosed
    push Not at hclosed
    exact hopen (Or.inl hclosed)

theorem admitProposal_eq_ok {now : String} (h : admitProposal db now input = .ok admitted) :
    admitted.intent ∈ db.membershipIntents ∧ admitted.intent.intentId = input.intentId ∧
      (admitted.intent.state = .requested ∨ admitted.intent.state = .authorized) ∧
      admitted.conversation ∈ db.conversations ∧
      admitted.conversation.conversationId = admitted.intent.conversationId := by
  unfold admitProposal at h
  obtain ⟨intent, hintent, h⟩ := bind_ok.mp h
  obtain ⟨hrow, hid, hopen⟩ := proposableIntent_eq_ok hintent
  split at h
  · cases h
  · rename_i conversation hconversation
    split at h
    · cases h
    · obtain ⟨-, h⟩ := guard_ok.mp h
      split at h
      · cases h
      · cases h
        have hmem : conversation ∈ db.conversations.filter (isConversation intent.conversationId) := by
          rw [onlyRow_eq_some.mp hconversation]
          exact List.mem_singleton.mpr rfl
        obtain ⟨hrow', hid'⟩ := List.mem_filter.mp hmem
        exact ⟨hrow, hid, hopen, hrow', of_decide_eq_true hid'⟩

theorem storeProposal_view {signer : LogSigner} {entropy : ProposalEntropy}
    {answer : ExternalProposalRecording} (hid : admitted.intent.intentId = input.intentId)
    (h : storeProposal H signer entropy input admitted db = .ok (answer, written)) :
    membershipView written =
      (membershipView db).propose admitted.intent (slotOf admitted.conversation) := by
  unfold storeProposal at h
  obtain ⟨draft, hdraft, h⟩ := bind_ok.mp h
  obtain ⟨signature, -, h⟩ := bind_ok.mp h
  obtain ⟨logged, hlogged, h⟩ := bind_ok.mp h
  obtain ⟨proposalHash, -, h⟩ := bind_ok.mp h
  obtain ⟨proposed, hproposed, h⟩ := bind_ok.mp h
  obtain ⟨paged, hpaged, h⟩ := bind_ok.mp h
  obtain ⟨⟨u, refreshed⟩, hrefresh, h⟩ := bind_ok.mp h
  cases h
  obtain rfl := insertEnvelope_eq_ok hlogged
  obtain ⟨proposals, rfl⟩ := insertExternalProposal_eq_ok hproposed
  obtain ⟨pageEnds, rfl⟩ := insertPageEnd_eq_ok hpaged
  obtain ⟨fences, custody, rfl⟩ := refreshCustodySnapshotDigest_writes hrefresh
  obtain ⟨hleaf, -⟩ := draftEnvelope_eq_ok hdraft
  have hposition : draft.position = admitted.conversation.lastPosition + 1 :=
    congrArg EnvelopeLeafInput.position hleaf
  have hentry : entryOf (draft.row signature) = ⟨admitted.intent.conversationId,
      admitted.conversation.lastPosition + 1, .externalProposal, admitted.conversation.epoch⟩ := by
    unfold entryOf EnvelopeDraft.row
    dsimp only
    rw [hleaf]
    rfl
  unfold membershipView MembershipView.propose
  rw [MembershipView.mk.injEq]
  refine ⟨?_, ?_, rfl, ?_⟩
  · apply map_updateWhere
    · intro row
      rfl
    · intro row
      dsimp only [slotOf, advanceLog]
      rw [hposition]
  · rw [hid]
    rfl
  · dsimp only [setIntentState, updateConversation]
    rw [List.map_append, List.map_singleton, hentry]
    rfl

theorem recordProposal_step (signer : LogSigner) (entropy : ProposalEntropy)
    (input : RecordProposalInput) (db : DeliveryDb) :
    membershipView (recordProposal H signer entropy input db).2 = membershipView db ∨
      ∃ intent, intent.intentId = input.intentId ∧ Step (membershipView db) (.propose intent)
        (membershipView (recordProposal H signer entropy input db).2) := by
  unfold recordProposal
  split
  · rcases sqlBegin_cases (recordProposalTx H signer entropy input) db with
      ⟨answer, written, htx, hrun⟩ | ⟨failure, -, hrun⟩
    · rw [hrun]
      unfold recordProposalTx at htx
      split at htx
      · cases htx
        exact Or.inl rfl
      · rename_i admitted hadmitted
        obtain ⟨hintent, hid, hopen, hconversation, hsame⟩ := admitProposal_eq_ok hadmitted
        have hslot : slotOf admitted.conversation ∈ (membershipView db).slots :=
          List.mem_map_of_mem hconversation
        refine Or.inr ⟨admitted.intent, hid, ?_⟩
        rw [storeProposal_view hid htx]
        exact Step.propose hintent hopen hslot hsame
    · rw [hrun]
      exact Or.inl rfl
  · exact Or.inl rfl

end

section

variable {H : HashFunction} {keys : AuthorityDerivations} {db written : DeliveryDb}
  {input : ConsumeCommitInput} {now : String} {intent : MembershipIntentRow}
  {admitted : AdmittedCommit} {draft : EnvelopeDraft} {credential : RoleCredentialRow}
  {entropy : CommitEntropy} {position : Nat} {signer : LogSigner} {value : CommittedMembership}

theorem thrown_eq_ok {α : Type} {x : Except Failure α} {a : α} : thrown x = .ok a ↔ x = .ok a := by
  unfold thrown
  cases x with
  | error e => exact ⟨fun h => (by cases h), fun h => (by cases h)⟩
  | ok b => exact ⟨fun h => congrArg Except.ok (Except.ok.inj h), fun h => h ▸ rfl⟩

theorem thrown_bind_eq_ok {α β : Type} {x : Except Failure α} {f : α → Except CommitError β}
    {b : β} (h : (thrown x >>= f) = .ok b) : ∃ a, x = .ok a ∧ f a = .ok b := by
  obtain ⟨a, hx, hf⟩ := bind_ok.mp h
  exact ⟨a, thrown_eq_ok.mp hx, hf⟩

/-- What was checked before a Commit is written. -/
structure AdmitsCommit (db : DeliveryDb) (input : ConsumeCommitInput) (admitted : AdmittedCommit) :
    Prop where
  intent : admitted.intent ∈ db.membershipIntents
  intentId : admitted.intent.intentId = input.intentId
  proposed : admitted.intent.state = .proposed
  conversation : admitted.conversation ∈ db.conversations
  conversationId : admitted.conversation.conversationId = admitted.intent.conversationId
  pending : admitted.conversation.state = .membershipPending
  epoch : admitted.conversation.epoch = input.expectedEpoch
  added : admitted.intent.operation = .add → ∃ credential, admitted.target = some credential
  notAdded : admitted.intent.operation ≠ .add → admitted.target = none

theorem commitConversation_eq_ok {found : MembershipIntentRow × ConversationRow}
    (h : commitConversation db input = .ok found) :
    found.1 ∈ db.membershipIntents ∧ found.1.intentId = input.intentId ∧
      found.2 ∈ db.conversations ∧ found.2.conversationId = found.1.conversationId ∧
      found.2.state = .membershipPending ∧ found.2.epoch = input.expectedEpoch := by
  unfold commitConversation at h
  split at h
  · cases h
  · rename_i intent hintent
    split at h
    · cases h
    · rename_i conversation hconversation
      obtain ⟨hcounters, h⟩ := guard_ok.mp h
      cases h
      push Not at hcounters
      have hmem : intent ∈ db.membershipIntents.filter fun row =>
          decide (row.intentId = input.intentId) := by
        rw [onlyRow_eq_some.mp hintent]
        exact List.mem_singleton.mpr rfl
      obtain ⟨hrow, hid⟩ := List.mem_filter.mp hmem
      have hsame : isConversation intent.conversationId conversation = true :=
        List.find?_some hconversation
      exact ⟨hrow, of_decide_eq_true hid, List.mem_of_find?_eq_some hconversation,
        of_decide_eq_true hsame, hcounters.1, hcounters.2.1⟩

theorem commitTarget_eq_ok {target : Option RoleCredentialRow}
    (h : commitTarget db now input intent = .ok target) :
    (intent.operation = .add → ∃ credential, target = some credential) ∧
      (intent.operation ≠ .add → target = none) := by
  unfold commitTarget at h
  split at h
  · rename_i hadd
    obtain ⟨credential, -, h⟩ := bind_ok.mp h
    cases h
    exact ⟨fun _ => ⟨credential, rfl⟩, fun hne => absurd hadd hne⟩
  · rename_i hadd
    obtain ⟨-, h⟩ := guard_ok.mp h
    cases h
    exact ⟨fun h => absurd h hadd, fun _ => rfl⟩

theorem admitCommit_eq_ok
    (h : admitCommit db now input = .ok admitted) : AdmitsCommit db input admitted := by
  unfold admitCommit at h
  obtain ⟨⟨intent, conversation⟩, hfound, h⟩ := bind_ok.mp h
  dsimp only at h
  obtain ⟨proposal, hproposal, h⟩ := bind_ok.mp h
  obtain ⟨-, -, h⟩ := bind_ok.mp h
  obtain ⟨account, -, h⟩ := bind_ok.mp h
  obtain ⟨-, h⟩ := guard_ok.mp h
  obtain ⟨target, htarget, h⟩ := bind_ok.mp h
  split at h
  · cases h
  · cases h
    obtain ⟨hintent, hid, hconversation, hsame, hpending, hepoch⟩ := commitConversation_eq_ok hfound
    obtain ⟨hadded, hnotAdded⟩ := commitTarget_eq_ok htarget
    unfold commitProposal at hproposal
    obtain ⟨hproposed, -⟩ := guard_ok.mp hproposal
    push Not at hproposed
    exact ⟨hintent, hid, hproposed.1, hconversation, hsame, hpending, hepoch, hadded, hnotAdded⟩

/-- Neither the view nor the rows about members changed. -/
def SameMembership (db written : DeliveryDb) : Prop :=
  membershipView written = membershipView db ∧ memberTables written = memberTables db

/-- Neither these nor the tables of admission changed. -/
def SameAdmission (db written : DeliveryDb) : Prop :=
  SameMembership db written ∧ written.admission = db.admission

theorem SameAdmission.trans {first second third : DeliveryDb}
    (h : SameAdmission first second) (h' : SameAdmission second third) :
    SameAdmission first third :=
  ⟨⟨h'.1.1.trans h.1.1, h'.1.2.trans h.1.2⟩, h'.2.trans h.2⟩

theorem insertMember_eq_ok {kind : ConversationKind}
    (h : insertMember draft kind intent credential now db = .ok written) :
    ∃ members, written = { db with memberships := members } := by
  unfold insertMember at h
  obtain ⟨members, -, h⟩ := bind_ok.mp h
  exact ⟨members, (Except.ok.inj h).symm⟩

theorem insertWelcome_eq_ok {targetInstallationId : String} {welcome : Bytes}
    (h : insertWelcome H draft targetInstallationId welcome now db = .ok written) :
    ∃ welcomes, written = { db with
      admission := { db.admission with welcomes := welcomes } } := by
  unfold insertWelcome at h
  obtain ⟨-, h⟩ := guard_ok.mp h
  obtain ⟨welcomes, -, h⟩ := bind_ok.mp h
  exact ⟨welcomes, (Except.ok.inj h).symm⟩

theorem admitMember_eq_ok (h : admitMember H draft input admitted credential now db = .ok written) :
    ∃ members welcomes, written = { db with
      memberships := members
      admission := { (usePackage input.intentId now db).admission with welcomes := welcomes } } := by
  unfold admitMember at h
  obtain ⟨joined, hjoined, h⟩ := bind_ok.mp h
  obtain ⟨members, welcomes, rfl⟩ : ∃ members welcomes, joined = { db with
      memberships := members
      admission := { (usePackage input.intentId now db).admission with
        welcomes := welcomes } } := by
    unfold seatMember at hjoined
    split at hjoined
    · cases hjoined
      exact ⟨_, _, rfl⟩
    · obtain ⟨members, rfl⟩ := insertMember_eq_ok hjoined
      exact ⟨members, db.admission.welcomes, rfl⟩
  split at h
  · exact ⟨members, welcomes, (Except.ok.inj h).symm⟩
  · obtain ⟨welcomes, rfl⟩ := insertWelcome_eq_ok h
    exact ⟨members, welcomes, rfl⟩

theorem applyBoundary_eq_ok (admits : AdmitsCommit db input admitted) {start : DeliveryDb}
    (h : applyBoundary H draft input admitted now start = .ok written) :
    written.conversations = start.conversations ∧
      written.membershipIntents = start.membershipIntents ∧
      written.envelopes = start.envelopes ∧
      written.admission.keyPackages = (if admitted.intent.operation = .add then
        updateWhere (fun row => decide (row.takenByIntentId = some admitted.intent.intentId))
          (MembershipModel.usedAt now) start.admission.keyPackages
        else start.admission.keyPackages) ∧
      (admitted.intent.operation ≠ .add →
        written.memberships = (removeMember draft admitted.intent now start).memberships) := by
  unfold applyBoundary at h
  by_cases hadd : admitted.intent.operation = .add
  · obtain ⟨credential, hcredential⟩ := admits.added hadd
    rw [hcredential] at h
    obtain ⟨members, welcomes, rfl⟩ := admitMember_eq_ok h
    refine ⟨rfl, rfl, rfl, ?_, fun hne => absurd hadd hne⟩
    rw [if_pos hadd, admits.intentId]
    rfl
  · rw [admits.notAdded hadd] at h
    cases h
    exact ⟨rfl, rfl, rfl, (if_neg hadd).symm, fun _ => rfl⟩

theorem rewriteRoster_eq (admitted : AdmittedCommit) (rosterVersion : Nat) (db : DeliveryDb) :
    ∃ rows, rewriteRoster admitted rosterVersion db = { db with rosterProjections := rows } := by
  unfold rewriteRoster
  split <;> exact ⟨_, rfl⟩

theorem rewriteRecipients_eq (draft : EnvelopeDraft) (admitted : AdmittedCommit)
    (recipientSetVersion : Nat) (db : DeliveryDb) :
    ∃ rows, rewriteRecipients draft admitted recipientSetVersion db =
      { db with recipientProjections := rows } := by
  unfold rewriteRecipients
  split <;> exact ⟨_, rfl⟩

theorem projectCommit_eq_ok (h : projectCommit H draft input admitted now db = .ok written) :
    ∃ roster recipients usage rosterVersion recipientSetVersion recipientSetHash,
      written = { db with
        rosterProjections := roster
        recipientProjections := recipients
        usage := usage
        conversations := updateWhere (isConversation admitted.intent.conversationId)
          (commitRow draft input rosterVersion recipientSetVersion recipientSetHash now)
          db.conversations } := by
  unfold projectCommit at h
  obtain ⟨rosterHash, -, h⟩ := thrown_bind_eq_ok h
  obtain ⟨-, h⟩ := guard_ok.mp h
  obtain ⟨recipientSetHash, -, h⟩ := thrown_bind_eq_ok h
  cases h
  obtain ⟨roster, hroster⟩ := rewriteRoster_eq admitted (input.expectedRosterVersion + 1) db
  obtain ⟨recipients, hrecipients⟩ := rewriteRecipients_eq draft admitted
    (admitted.conversation.recipientSetVersion + 1)
    (rewriteRoster admitted (input.expectedRosterVersion + 1) db)
  rw [hrecipients, hroster]
  exact ⟨roster, recipients, _, _, _, _, rfl⟩

theorem ensureBinding_same (conversationId now : String) (db : DeliveryDb)
    (identity : ExpectedAppendQuotaIdentity) :
    SameAdmission db (ensureBinding conversationId now db identity) := by
  have inserted : SameAdmission db (insertQuotaCounter (identityKey identity) now db) := by
    unfold insertQuotaCounter
    split <;> exact ⟨⟨rfl, rfl⟩, rfl⟩
  unfold ensureBinding
  dsimp only
  split
  · exact inserted
  · exact inserted.trans ⟨⟨rfl, rfl⟩, rfl⟩

theorem ensureBindings_same (conversationId now : String)
    (identities : List ExpectedAppendQuotaIdentity) (db : DeliveryDb) :
    SameAdmission db (identities.foldl (ensureBinding conversationId now) db) := by
  induction identities generalizing db with
  | nil => exact ⟨⟨rfl, rfl⟩, rfl⟩
  | cons identity identities ih =>
    rw [List.foldl_cons]
    exact (ensureBinding_same conversationId now db identity).trans (ih _)

theorem headWrites_same (writes : HeadWrites db written) : SameAdmission db written := by
  refine ⟨⟨headWrites_membershipView writes, headWrites_memberTables writes⟩, ?_⟩
  obtain ⟨-, -, -, -, -, -, rfl⟩ := writes
  rfl

theorem reissueHead_same {provision : ProvisionRow} {grants : List GrantMaterial}
    {selected : String}
    (h : reissueHead keys H entropy admitted provision grants selected position db = .ok written) :
    SameAdmission db written := by
  unfold reissueHead at h
  obtain ⟨⟨issued, moved⟩, hissue, h⟩ := thrown_bind_eq_ok h
  have hmoved := headWrites_same (issueConversationPolicyHead_writes hissue)
  dsimp only at h
  split at h
  · cases h
  · cases h
    exact hmoved.trans ⟨⟨rfl, rfl⟩, rfl⟩

theorem reissueAuthority_same
    (h : reissueAuthority keys H entropy admitted position db = .ok written) :
    SameAdmission db written := by
  unfold reissueAuthority at h
  dsimp only at h
  split at h
  · cases h
  · split at h
    · obtain ⟨bound, hbound, h⟩ := thrown_bind_eq_ok h
      unfold ensureMemberQuotaBindings at hbound
      obtain ⟨identities, -, hbound⟩ := bind_ok.mp hbound
      cases hbound
      exact (ensureBindings_same _ _ _ db).trans (reissueHead_same h)
    · split at h
      · cases h
      · have revoked : SameAdmission db (revokeGrant admitted.intent db) := ⟨⟨rfl, rfl⟩, rfl⟩
        exact revoked.trans (reissueHead_same h)

theorem deliverCommit_same {installations : List String}
    (h : deliverCommit draft now installations db = .ok written) : SameAdmission db written := by
  induction installations generalizing db with
  | nil =>
    cases h
    exact ⟨⟨rfl, rfl⟩, rfl⟩
  | cons installation others ih =>
    unfold deliverCommit at h
    obtain ⟨⟨position, counters⟩, -, h⟩ := bind_ok.mp h
    dsimp only at h
    obtain ⟨-, h⟩ := guard_ok.mp h
    obtain ⟨entries, -, h⟩ := bind_ok.mp h
    have delivered : SameAdmission db { db with
        mailboxCounters := counters
        mailboxEntries := entries } := ⟨⟨rfl, rfl⟩, rfl⟩
    exact delivered.trans (ih h)

theorem announceCommit_same
    (h : announceCommit H draft input now db = .ok written) : SameAdmission db written := by
  unfold announceCommit at h
  obtain ⟨delivered, hdelivered, h⟩ := bind_ok.mp h
  obtain ⟨paged, hpaged, h⟩ := bind_ok.mp h
  obtain ⟨⟨u, refreshed⟩, hrefresh, h⟩ := bind_ok.mp h
  cases h
  obtain ⟨pageEnds, rfl⟩ := insertPageEnd_eq_ok hpaged
  obtain ⟨fences, custody, rfl⟩ := refreshCustodySnapshotDigest_writes hrefresh
  exact (deliverCommit_same hdelivered).trans ⟨⟨rfl, rfl⟩, rfl⟩

def boundaryDb (draft : EnvelopeDraft) (signature : Bytes) (entropy : CommitEntropy)
    (input : ConsumeCommitInput) (admitted : AdmittedCommit) (db : DeliveryDb) : DeliveryDb :=
  commitIntent input.intentId input.envelopeId draft.position
    (commitProposals (consumedProposals input admitted.proposal) entropy.now
      { db with envelopes := db.envelopes ++ [draft.row signature] })

theorem storeCommit_stages
    (h : storeCommit keys H signer entropy input admitted db = .ok (value, written)) :
    ∃ draft signature bounded projected,
      draft.toEnvelopeLeafInput = commitLeaf entropy.now input admitted ∧
      applyBoundary H draft input admitted entropy.now
        (boundaryDb draft signature entropy input admitted db) = .ok bounded ∧
      projectCommit H draft input admitted entropy.now bounded = .ok projected ∧
      SameAdmission projected written ∧ value.position = draft.position := by
  unfold storeCommit at h
  obtain ⟨draft, hdraft, h⟩ := thrown_bind_eq_ok h
  obtain ⟨signature, -, h⟩ := thrown_bind_eq_ok h
  obtain ⟨logged, hlogged, h⟩ := thrown_bind_eq_ok h
  obtain ⟨bounded, hbounded, h⟩ := thrown_bind_eq_ok h
  obtain ⟨projected, hprojected, h⟩ := bind_ok.mp h
  obtain ⟨reissued, hreissued, h⟩ := bind_ok.mp h
  obtain ⟨announced, hannounced, h⟩ := thrown_bind_eq_ok h
  cases h
  obtain rfl := insertEnvelope_eq_ok hlogged
  exact ⟨draft, signature, bounded, projected, (draftEnvelope_eq_ok hdraft).1, hbounded,
    hprojected, (reissueAuthority_same hreissued).trans (announceCommit_same hannounced), rfl⟩

theorem storeCommit_eq_ok (admits : AdmitsCommit db input admitted)
    (resulting : input.resultingEpoch = input.expectedEpoch + 1)
    (h : storeCommit keys H signer entropy input admitted db = .ok (value, written)) :
    membershipView written = (membershipView db).commit admitted.intent
        (slotOf admitted.conversation) (input.envelopeId, admitted.conversation.lastPosition + 1)
        entropy.now ∧
      (admitted.intent.operation ≠ .add → written.memberships =
        updateWhere (isMember admitted.intent.conversationId admitted.intent.targetInstallationId)
          (fun row => { row with
            removedPosition := some (admitted.conversation.lastPosition + 1)
            removedAt := some entropy.now }) db.memberships) := by
  obtain ⟨draft, signature, bounded, projected, hleaf, hbounded, hprojected, hsame, -⟩ :=
    storeCommit_stages h
  have hposition : draft.position = admitted.conversation.lastPosition + 1 :=
    congrArg EnvelopeLeafInput.position hleaf
  have hentry : entryOf (draft.row signature) = ⟨admitted.intent.conversationId,
      admitted.conversation.lastPosition + 1, .mlsCommit, admitted.conversation.epoch⟩ := by
    unfold entryOf EnvelopeDraft.row
    dsimp only
    rw [hleaf, admits.epoch]
    rfl
  obtain ⟨hconversations, hintents, henvelopes, hpackages, hremoved⟩ :=
    applyBoundary_eq_ok admits hbounded
  obtain ⟨roster, recipients, usage, rosterVersion, recipientSetVersion, recipientSetHash, rfl⟩ :=
    projectCommit_eq_ok hprojected
  obtain ⟨⟨hview, htables⟩, -⟩ := hsame
  have hmembers := congrArg MemberTables.memberships htables
  dsimp only [memberTables] at hmembers
  constructor
  · rw [hview]
    unfold membershipView MembershipView.commit
    rw [MembershipView.mk.injEq]
    dsimp only
    rw [hconversations, hintents, henvelopes, hpackages]
    refine ⟨?_, ?_, rfl, ?_⟩
    · apply map_updateWhere
      · intro row
        rfl
      · intro row
        dsimp only [slotOf, commitRow]
        rw [hposition, resulting, admits.epoch]
    · dsimp only [boundaryDb, commitIntent, commitProposals]
      rw [admits.intentId, hposition]
      rfl
    · dsimp only [boundaryDb, commitIntent, commitProposals]
      rw [List.map_append, List.map_singleton, hentry]
      rfl
  · intro hne
    rw [hmembers]
    rw [hremoved hne]
    dsimp only [removeMember, boundaryDb, commitIntent, commitProposals]
    rw [hposition]

theorem consumeCommit_step (signer : LogSigner) (entropy : CommitEntropy)
    (input : ConsumeCommitInput) (db : DeliveryDb) :
    membershipView (consumeCommit keys H signer entropy input db).2 = membershipView db ∨
      ∃ value intent position, (consumeCommit keys H signer entropy input db).1 =
          .ok (.committed value) ∧
        intent.intentId = input.intentId ∧
        Step (membershipView db) (.commit intent)
          (membershipView (consumeCommit keys H signer entropy input db).2) ∧
        (intent.operation ≠ .add → (consumeCommit keys H signer entropy input db).2.memberships =
          updateWhere (isMember intent.conversationId intent.targetInstallationId)
            (fun row => { row with
              removedPosition := some position
              removedAt := some entropy.now }) db.memberships) := by
  unfold consumeCommit
  split
  · rename_i hformed
    have resulting : input.resultingEpoch = input.expectedEpoch + 1 := by
      unfold ConsumeCommitInput.wellFormed at hformed
      exact (of_decide_eq_true (Bool.and_eq_true_iff.mp hformed).2).2
    rcases sqlBegin_cases (consumeCommitTx keys H signer entropy input) db with
      ⟨value, written, htx, hrun⟩ | ⟨failure, -, hrun⟩
    · rw [hrun]
      right
      unfold consumeCommitTx at htx
      obtain ⟨admitted, hadmitted, hstore⟩ := bind_ok.mp htx
      have admits := admitCommit_eq_ok hadmitted
      obtain ⟨hview, hremoved⟩ := storeCommit_eq_ok admits resulting hstore
      have hslot : slotOf admitted.conversation ∈ (membershipView db).slots :=
        List.mem_map_of_mem admits.conversation
      refine ⟨value, admitted.intent, admitted.conversation.lastPosition + 1, rfl, admits.intentId,
        ?_, hremoved⟩
      dsimp only
      rw [hview]
      exact Step.commit _ _ admits.intent admits.proposed hslot admits.conversationId admits.pending
    · rw [hrun]
      left
      cases failure with
      | cas reason => rfl
      | thrown failure => rfl
  · exact Or.inl rfl

end

end JbChat.Store.MembershipRefinement
