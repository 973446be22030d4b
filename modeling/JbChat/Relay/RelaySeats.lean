/- source: src/production/storage/membershipCommitStore.ts
   digest: What a Commit does to the members of a conversation and their Welcomes. -/

import JbChat.Store.AppendEffects

set_option autoImplicit false

namespace JbChat.Relay.RelaySeats

open Foundation.HashTrace
open Foundation.Transaction Store.Tables Store.LogWriter Store.AppendEffects Store.MembershipCommits
open Store.MembershipRefinement Store.Provisioning Delivery.EnvelopeLog

section

variable {change : MembershipRow → MembershipRow} {rows : List MembershipRow} {row : MembershipRow}

/-- The members of all conversations and the Welcomes that wait for them. -/
structure Seats where
  memberships : List MembershipRow
  welcomes : List WelcomeRow

def seatsOf (db : DeliveryDb) : Seats := ⟨db.memberships, db.admission.welcomes⟩

def memberKey (row : MembershipRow) : String × String := (row.conversationId, row.installationId)

def welcomeKey (row : WelcomeRow) : String × String := (row.conversationId, row.targetInstallationId)

/-- The window of the installation in the conversation starts at the position. -/
def JoinedAt (s : Seats) (key : String × String) (position : Nat) : Prop :=
  ∃ row ∈ s.memberships, memberKey row = key ∧ row.joinedPosition = position

/-- A member has one row, and at most one Welcome, which is for its window. -/
structure Coherent (s : Seats) : Prop where
  members : (s.memberships.map memberKey).Nodup
  single : (s.welcomes.map welcomeKey).Nodup
  welcomed : ∀ welcome ∈ s.welcomes, JoinedAt s (welcomeKey welcome) welcome.commitPosition

/-- What the boundary of a Commit does to the seats, by whether it adds the member. -/
inductive Seating (key : String × String) (s : Seats) : Bool → Seats → Prop where
  | join (row : MembershipRow) (welcome : WelcomeRow) (isMember : memberKey row = key)
      (isWelcome : welcomeKey welcome = key) (window : row.joinedPosition = welcome.commitPosition)
      (absent : ∀ other ∈ s.memberships, memberKey other ≠ key) :
      Seating key s true ⟨s.memberships ++ [row], s.welcomes ++ [welcome]⟩
  | rejoin (change : MembershipRow → MembershipRow) (welcome : WelcomeRow)
      (keeps : ∀ row, memberKey (change row) = memberKey row)
      (isWelcome : welcomeKey welcome = key)
      (window : ∀ row, (change row).joinedPosition = welcome.commitPosition)
      (present : ∃ row ∈ s.memberships, memberKey row = key ∧ row.removedAt ≠ none) :
      Seating key s true ⟨updateWhere (fun row => decide (memberKey row = key)) change s.memberships,
        (s.welcomes.filter fun row => ¬ decide (welcomeKey row = key)) ++ [welcome]⟩
  | leave (change : MembershipRow → MembershipRow)
      (keeps : ∀ row, memberKey (change row) = memberKey row)
      (window : ∀ row, (change row).joinedPosition = row.joinedPosition) :
      Seating key s false ⟨updateWhere (fun row => decide (memberKey row = key)) change
        s.memberships, s.welcomes⟩

variable {key other : String × String} {s s' : Seats} {position : Nat} {added : Bool}

/-- The member was removed, so an addition takes its row up again. -/
def Removed (s : Seats) (key : String × String) : Prop :=
  ∃ row ∈ s.memberships, memberKey row = key ∧ row.removedAt ≠ none

theorem mem_updateWhere_of_ne (hrow : row ∈ rows) (distinct : memberKey row ≠ key) :
    row ∈ updateWhere (fun row => decide (memberKey row = key)) change rows := by
  refine List.mem_map.mpr ⟨row, hrow, ?_⟩
  simp only [distinct, decide_false, Bool.false_eq_true, if_false]

theorem mem_updateWhere_of_eq (hrow : row ∈ rows) (same : memberKey row = key) :
    change row ∈ updateWhere (fun row => decide (memberKey row = key)) change rows := by
  refine List.mem_map.mpr ⟨row, hrow, ?_⟩
  simp only [same, decide_true, if_true]

theorem Seating.joinedAt (seating : Seating key s added s') (h : JoinedAt s other position)
    (notRejoined : added = true → Removed s key → other ≠ key) : JoinedAt s' other position := by
  obtain ⟨row, hrow, hkey, hposition⟩ := h
  cases seating with
  | join joined welcome isMember isWelcome window absent =>
    exact ⟨row, List.mem_append_left _ hrow, hkey, hposition⟩
  | rejoin change welcome keeps isWelcome window present =>
    have distinct : memberKey row ≠ key := by
      rw [hkey]
      exact notRejoined rfl present
    exact ⟨row, mem_updateWhere_of_ne hrow distinct, hkey, hposition⟩
  | leave change keeps window =>
    by_cases same : memberKey row = key
    · exact ⟨change row, mem_updateWhere_of_eq hrow same, (keeps row).trans hkey,
        (window row).trans hposition⟩
    · exact ⟨row, mem_updateWhere_of_ne hrow same, hkey, hposition⟩

theorem map_memberKey_updateWhere {selected : MembershipRow → Bool}
    (keeps : ∀ row, memberKey (change row) = memberKey row) :
    (updateWhere selected change rows).map memberKey = rows.map memberKey := by
  unfold updateWhere
  rw [List.map_map]
  refine List.map_congr_left fun row _ => ?_
  simp only [Function.comp]
  split
  · exact keeps row
  · rfl

theorem Coherent.joinedAt_unique (coherent : Coherent s) {first second : Nat}
    (h : JoinedAt s key first) (h' : JoinedAt s key second) : first = second := by
  obtain ⟨row, hrow, hkey, rfl⟩ := h
  obtain ⟨row', hrow', hkey', rfl⟩ := h'
  rw [List.inj_on_of_nodup_map coherent.members hrow hrow' (hkey.trans hkey'.symm)]

theorem Coherent.seating (coherent : Coherent s) (seating : Seating key s added s') : Coherent s' := by
  have kept : ∀ welcome ∈ s.welcomes, (added = true → Removed s key → welcomeKey welcome ≠ key) →
      JoinedAt s' (welcomeKey welcome) welcome.commitPosition := fun welcome hwelcome apart =>
    seating.joinedAt (coherent.welcomed welcome hwelcome) apart
  cases seating with
  | join row welcome isMember isWelcome window absent =>
    have notRemoved : ¬ Removed s key := fun ⟨row, hrow, hkey, _⟩ => absent row hrow hkey
    refine ⟨?_, ?_, ?_⟩
    · rw [List.map_append, List.map_singleton]
      refine List.nodup_append.mpr ⟨coherent.members, List.nodup_singleton _, ?_⟩
      intro a ha b hb same
      obtain ⟨old, hold, rfl⟩ := List.mem_map.mp ha
      rw [List.mem_singleton.mp hb, isMember] at same
      exact absent old hold same
    · rw [List.map_append, List.map_singleton]
      refine List.nodup_append.mpr ⟨coherent.single, List.nodup_singleton _, ?_⟩
      intro a ha b hb same
      obtain ⟨old, hold, rfl⟩ := List.mem_map.mp ha
      obtain ⟨member, hmember, hkey, -⟩ := coherent.welcomed old hold
      rw [List.mem_singleton.mp hb, isWelcome] at same
      exact absent member hmember (hkey.trans same)
    · intro other hother
      rcases List.mem_append.mp hother with hother | hother
      · exact kept other hother fun _ h => absurd h notRemoved
      · obtain rfl := List.mem_singleton.mp hother
        exact ⟨row, List.mem_append_right _ (List.mem_singleton_self _),
          isMember.trans isWelcome.symm, window⟩
  | rejoin change welcome keeps isWelcome window present =>
    refine ⟨?_, ?_, ?_⟩
    · rw [map_memberKey_updateWhere keeps]
      exact coherent.members
    · rw [List.map_append, List.map_singleton]
      refine List.nodup_append.mpr ⟨(List.filter_sublist.map welcomeKey).nodup coherent.single,
        List.nodup_singleton _, ?_⟩
      intro a ha b hb same
      obtain ⟨old, hold, rfl⟩ := List.mem_map.mp ha
      rw [List.mem_singleton.mp hb, isWelcome] at same
      simpa [same] using (List.mem_filter.mp hold).2
    · intro other hother
      rcases List.mem_append.mp hother with hother | hother
      · obtain ⟨hold, hapart⟩ := List.mem_filter.mp hother
        exact kept other hold fun _ _ same => by simp [same] at hapart
      · obtain rfl := List.mem_singleton.mp hother
        obtain ⟨row, hrow, hkey, -⟩ := present
        exact ⟨change row, mem_updateWhere_of_eq hrow hkey,
          (keeps row).trans (hkey.trans isWelcome.symm), window row⟩
  | leave change keeps window =>
    refine ⟨?_, coherent.single, fun welcome hwelcome => ?_⟩
    · rw [map_memberKey_updateWhere keeps]
      exact coherent.members
    · obtain ⟨row, hrow, hkey, hposition⟩ := coherent.welcomed welcome hwelcome
      by_cases same : memberKey row = key
      · exact ⟨change row, mem_updateWhere_of_eq hrow same, (keeps row).trans hkey,
          (window row).trans hposition⟩
      · exact ⟨row, mem_updateWhere_of_ne hrow same, hkey, hposition⟩

end

section

variable {H : HashFunction} {db written : DeliveryDb} {draft : EnvelopeDraft}
  {input : ConsumeCommitInput} {admitted : AdmittedCommit} {now : String}

/-- The member that a Commit is about. -/
def targetKey (admitted : AdmittedCommit) : String × String :=
  (admitted.intent.conversationId, admitted.intent.targetInstallationId)

/-- An added target comes with its one Welcome. -/
def Welcomed (input : ConsumeCommitInput) (admitted : AdmittedCommit) : Prop :=
  admitted.target.isSome = true →
    ∃ welcome, input.welcomeByInstallation = [(admitted.intent.targetInstallationId, welcome)]

theorem isMember_eq (conversationId installationId : String) :
    isMember conversationId installationId =
      fun row => decide (memberKey row = (conversationId, installationId)) := by
  funext row
  unfold isMember memberKey
  simp only [Prod.mk.injEq]

theorem insertWelcome_seats {targetInstallationId : String} {welcome : Bytes}
    (h : insertWelcome H draft targetInstallationId welcome now db = .ok written) :
    ∃ row, welcomeKey row = (draft.conversationId, targetInstallationId) ∧
      row.commitPosition = draft.position ∧
      seatsOf written = ⟨db.memberships, db.admission.welcomes ++ [row]⟩ := by
  unfold insertWelcome at h
  obtain ⟨-, h⟩ := guard_ok.mp h
  obtain ⟨welcomes, hwelcomes, h⟩ := bind_ok.mp h
  obtain ⟨-, rfl⟩ := insertUnique_eq_ok hwelcomes
  cases h
  exact ⟨_, rfl, rfl, rfl⟩

theorem applyBoundary_seating (welcomed : Welcomed input admitted)
    (conversation : draft.conversationId = admitted.intent.conversationId)
    (h : applyBoundary H draft input admitted now db = .ok written) :
    Seating (targetKey admitted) (seatsOf db) admitted.target.isSome (seatsOf written) := by
  unfold applyBoundary at h
  split at h
  · rename_i credential htarget
    obtain ⟨welcome, hwelcome⟩ := welcomed (by rw [htarget]; rfl)
    unfold admitMember at h
    obtain ⟨seated, hseated, h⟩ := bind_ok.mp h
    rw [hwelcome] at h
    rw [htarget]
    obtain ⟨row, hkey, hposition, hseats⟩ := insertWelcome_seats h
    rw [conversation] at hkey
    rw [hseats]
    unfold seatMember at hseated
    split at hseated
    · rename_i hremoved
      cases hseated
      have present : Removed (seatsOf db) (targetKey admitted) := by
        obtain ⟨member, hmember⟩ := List.length_eq_one_iff.mp hremoved
        have hmem := List.mem_filter.mp (hmember ▸ List.mem_singleton_self member)
        obtain ⟨hrow, hselected⟩ := hmem
        rw [Bool.and_eq_true, isMember_eq] at hselected
        exact ⟨member, hrow, of_decide_eq_true hselected.1, of_decide_eq_true hselected.2⟩
      unfold rejoinMember usePackage
      rw [isMember_eq]
      have rejoined := Seating.rejoin (fun member : MembershipRow => { member with
        accountId := credential.accountId
        credentialId := credential.credentialId
        role := credential.role
        bootstrapMode := .welcome
        joinedPosition := draft.position
        joinedAt := now
        removedPosition := none
        removedAt := none }) row (fun _ => rfl) hkey (fun _ => hposition.symm) present
      simpa only [welcomeKey, targetKey, seatsOf, Prod.mk.injEq, Option.isSome_some] using rejoined
    · unfold insertMember at hseated
      obtain ⟨members, hmembers, hseated⟩ := bind_ok.mp hseated
      obtain ⟨habsent, rfl⟩ := insertUnique_eq_ok hmembers
      cases hseated
      exact Seating.join _ row rfl hkey hposition.symm habsent
  · rename_i htarget
    cases h
    unfold removeMember
    rw [isMember_eq, htarget]
    exact Seating.leave (fun member : MembershipRow => { member with
      removedPosition := some draft.position
      removedAt := some now }) (fun _ => rfl) fun _ => rfl

theorem admitCommit_welcomed (h : admitCommit db now input = .ok admitted) :
    Welcomed input admitted := by
  unfold admitCommit at h
  obtain ⟨⟨intent, conversation⟩, -, h⟩ := bind_ok.mp h
  dsimp only at h
  obtain ⟨proposal, -, h⟩ := bind_ok.mp h
  obtain ⟨-, -, h⟩ := bind_ok.mp h
  obtain ⟨account, -, h⟩ := bind_ok.mp h
  obtain ⟨hwelcomes, h⟩ := guard_ok.mp h
  obtain ⟨target, htarget, h⟩ := bind_ok.mp h
  split at h
  · cases h
  · obtain rfl := Except.ok.inj h
    intro hsome
    have hadd : intent.operation = .add := by
      by_contra hne
      rw [(commitTarget_eq_ok htarget).2 hne] at hsome
      cases hsome
    unfold welcomeSetMatches at hwelcomes
    rw [if_pos hadd] at hwelcomes
    have hkeys := of_decide_eq_true (not_not.mp hwelcomes)
    obtain ⟨entry, hentry, hkey⟩ := List.map_eq_singleton_iff.mp hkeys
    exact ⟨entry.2, by rw [hentry, ← hkey]⟩

/-- A consumption seats or unseats the target of its intent, or leaves the seats alone. -/
theorem consumeCommit_seating (keys : AuthorityDerivations) (signer : LogSigner)
    (entropy : CommitEntropy) (input : ConsumeCommitInput) (db : DeliveryDb) :
    seatsOf (consumeCommit keys H signer entropy input db).2 = seatsOf db ∨
      ∃ before draft admitted applied, Welcomed input admitted ∧
        draft.conversationId = admitted.intent.conversationId ∧
        admitted.intent.intentId = input.intentId ∧
        applyBoundary H draft input admitted entropy.now before = .ok applied ∧
        seatsOf before = seatsOf db ∧
        seatsOf (consumeCommit keys H signer entropy input db).2 = seatsOf applied := by
  unfold consumeCommit
  split
  · rcases sqlBegin_cases (consumeCommitTx keys H signer entropy input) db with
      ⟨value, written, htx, hrun⟩ | ⟨failure, -, hrun⟩
    · rw [hrun]
      right
      unfold consumeCommitTx at htx
      obtain ⟨admitted, hadmitted, hstore⟩ := bind_ok.mp htx
      obtain ⟨draft, signature, bounded, projected, hleaf, hbounded, hprojected, hsame, -⟩ :=
        storeCommit_stages hstore
      refine ⟨_, draft, admitted, bounded, admitCommit_welcomed hadmitted,
        congrArg EnvelopeLeafInput.conversationId hleaf, (admitCommit_eq_ok hadmitted).intentId,
        hbounded, rfl, ?_⟩
      obtain ⟨roster, recipients, usage, rosterVersion, recipientSetVersion, recipientSetHash,
        rfl⟩ := projectCommit_eq_ok hprojected
      obtain ⟨⟨-, htables⟩, hadmission⟩ := hsame
      have hmembers := congrArg MemberTables.memberships htables
      dsimp only [memberTables] at hmembers
      dsimp only [seatsOf]
      rw [hmembers, hadmission]
    · rw [hrun]
      left
      cases failure <;> rfl
  · exact Or.inl rfl

end

end JbChat.Relay.RelaySeats
