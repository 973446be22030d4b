/- source: src/production/delivery/state.ts
   digest: Which installations a fan-out plan names, whatever the order of its rows. -/

import JbChat.Delivery.InstantOrder
import JbChat.Delivery.RosterHash

set_option autoImplicit false

namespace JbChat.Delivery.FanoutPlans

open Foundation.HashTrace Foundation.Transaction
open ValueObjects Instants InstantOrder Snapshot Quota QuotaRules SnapshotParse SnapshotDigest
open Fanout RosterHash QuotaConservation

section

/-- The routing rows in the order of their installations. -/
def sortedRoutes (input : FanoutInput) : List ApplicationAppendRecipientProjection :=
  input.recipientProjections.insertionSort fun left right =>
    left.installationId ≤ right.installationId

def sortedRoster (input : FanoutInput) : List ApplicationAppendMlsRosterProjection :=
  input.mlsRosterProjections.insertionSort fun left right =>
    left.installationId ≤ right.installationId

def recipientsOf (input : FanoutInput) : List String :=
  (((sortedRoutes input).filter (receives (sortedRoster input) input.position
    input.authoritativeReceivedAt)).map fun route => route.installationId).insertionSort (· ≤ ·)

/-- The plan of an input, before its digest. -/
def undigestedPlan (input : FanoutInput) : ApplicationAppendFanoutPlan where
  conversationId := input.conversation.conversationId
  conversationGeneration := input.conversation.generation
  rosterVersion := input.conversation.rosterVersion
  rosterHash := input.conversation.rosterHash
  recipientSetVersion := input.conversation.recipientSetVersion
  recipientSetHash := input.conversation.recipientSetHash
  position := input.position
  recipientInstallationIds := recipientsOf input
  recipientCount := (recipientsOf input).length
  planDigest := []

structure Derived (H : HashFunction) (input : FanoutInput) (plan : ApplicationAppendFanoutPlan) :
    Prop where
  conversation : parseLockedConversationState input.conversation = .ok input.conversation
  membership : parseLockedSenderMembership input.senderMembership = .ok input.senderMembership
  position : 1 ≤ input.position ∧ input.position ≤ uint63Max
  receivedAt : isRfc3339Millis input.authoritativeReceivedAt = true
  ceiling : input.recipientInstallationsMax ≤ recipientInstallationsHardMax
  routes : Projected RecipientRowValid (·.installationId) (·.credentialId)
    input.recipientInstallationsMax input.recipientProjections
  roster : Projected RosterRowValid (·.installationId) (·.credentialId)
    input.recipientInstallationsMax input.mlsRosterProjections
  rows : checkFanoutRows H input.conversation input.senderMembership input.position
    (sortedRoutes input) (sortedRoster input) = .ok input.conversation.recipientSetHash
  digest : computeApplicationAppendFanoutPlanDigest H (undigestedPlan input) = .ok plan.planDigest
  plan : plan = { undigestedPlan input with planDigest := plan.planDigest }

/-- What the checks across the rows say of the conversation. -/
structure RowsFit (H : HashFunction) (conversation : LockedConversationState)
    (membership : LockedSenderMembership) (position : Nat)
    (routes : List ApplicationAppendRecipientProjection)
    (roster : List ApplicationAppendMlsRosterProjection) : Prop where
  position : position = conversation.lastPosition + 1
  rosterHash : computeApplicationAppendMlsRosterHash H roster = .ok conversation.rosterHash
  recipientSetHash : computeApplicationAppendRecipientSetHash H routes =
    .ok conversation.recipientSetHash

variable {H : HashFunction} {input : FanoutInput} {plan : ApplicationAppendFanoutPlan}

theorem checkFanoutRows_eq_ok {conversation : LockedConversationState}
    {membership : LockedSenderMembership} {position : Nat}
    {routes : List ApplicationAppendRecipientProjection}
    {roster : List ApplicationAppendMlsRosterProjection} {hash : Bytes}
    (h : checkFanoutRows H conversation membership position routes roster = .ok hash) :
    hash = conversation.recipientSetHash ∧
      RowsFit H conversation membership position routes roster := by
  unfold checkFanoutRows at h
  obtain ⟨hattached, h1⟩ := guard_ok.mp h
  obtain ⟨-, h2⟩ := guard_ok.mp h1
  obtain ⟨-, h3⟩ := guard_ok.mp h2
  obtain ⟨rosterHash, hroster, h4⟩ := bind_ok.mp h3
  obtain ⟨hrosterSame, h5⟩ := guard_ok.mp h4
  obtain ⟨routesHash, hroutes, h6⟩ := bind_ok.mp h5
  obtain ⟨hroutesSame, h7⟩ := guard_ok.mp h6
  obtain ⟨-, h8⟩ := guard_ok.mp h7
  obtain ⟨-, h9⟩ := guard_ok.mp h8
  push Not at hattached
  rw [not_not] at hrosterSame hroutesSame
  cases h9
  refine ⟨hroutesSame, hattached.2, ?_, ?_⟩
  · rw [hroster, hrosterSame]
  · rw [hroutes, hroutesSame]

theorem length_recipientsOf_le (input : FanoutInput) :
    (recipientsOf input).length ≤ input.recipientProjections.length := by
  unfold recipientsOf
  rw [List.length_insertionSort, List.length_map]
  refine (List.length_filter_le _ _).trans_eq ?_
  exact List.length_insertionSort _ _

theorem derive_eq_ok :
    deriveApplicationAppendFanoutPlan H input = .ok plan ↔ Derived H input plan := by
  constructor
  · intro h
    obtain ⟨conversation, hconversation, h1⟩ := bind_ok.mp h
    obtain ⟨membership, hmembership, h2⟩ := bind_ok.mp h1
    obtain ⟨position, hposition, h3⟩ := bind_ok.mp h2
    obtain ⟨receivedAt, hreceived, h4⟩ := bind_ok.mp h3
    obtain ⟨ceiling, hceiling, h5⟩ := bind_ok.mp h4
    obtain ⟨hcap, h6⟩ := guard_ok.mp h5
    obtain ⟨routes, hroutes, h7⟩ := bind_ok.mp h6
    obtain ⟨roster, hroster, h8⟩ := bind_ok.mp h7
    obtain ⟨hash, hrows, h9⟩ := bind_ok.mp h8
    obtain ⟨count, hcount, h10⟩ := bind_ok.mp h9
    obtain ⟨digest, hdigest, h11⟩ := bind_ok.mp h10
    cases h11
    obtain rfl := (checked_eq_ok.mp hconversation).2
    obtain rfl := (checked_eq_ok.mp hmembership).2
    obtain ⟨hpositive, hbound, rfl⟩ := parsePositiveUint63_eq_ok.mp hposition
    obtain ⟨hcanonical, rfl⟩ := parseRfc3339Millis_eq_ok.mp hreceived
    obtain ⟨-, -, rfl⟩ := parsePositiveUint63_eq_ok.mp hceiling
    obtain ⟨hrouted, rfl⟩ := (parseProjections_eq_ok parseRecipientProjection_eq_ok).mp hroutes
    obtain ⟨hrostered, rfl⟩ := (parseProjections_eq_ok parseMlsRosterProjection_eq_ok).mp hroster
    obtain ⟨-, rfl⟩ := checkUint63_eq_ok.mp hcount
    obtain ⟨rfl, -⟩ := checkFanoutRows_eq_ok hrows
    exact ⟨hconversation, hmembership, ⟨hpositive, hbound⟩, hcanonical, Nat.not_lt.mp hcap,
      hrouted, hrostered, hrows, hdigest, rfl⟩
  · intro derived
    have hceiling := derived.routes.ceiling
    have hcount : (recipientsOf input).length ≤ uint63Max :=
      (length_recipientsOf_le input).trans (derived.routes.bounded.1.trans hceiling.2)
    rw [derived.plan]
    refine bind_ok.mpr ⟨_, derived.conversation, ?_⟩
    refine bind_ok.mpr ⟨_, derived.membership, ?_⟩
    refine bind_ok.mpr ⟨_, parsePositiveUint63_eq_ok.mpr
      ⟨derived.position.1, derived.position.2, rfl⟩, ?_⟩
    refine bind_ok.mpr ⟨_, parseRfc3339Millis_eq_ok.mpr ⟨derived.receivedAt, rfl⟩, ?_⟩
    refine bind_ok.mpr ⟨_, parsePositiveUint63_eq_ok.mpr
      ⟨hceiling.1, hceiling.2, rfl⟩, ?_⟩
    refine guard_ok.mpr ⟨Nat.not_lt.mpr derived.ceiling, ?_⟩
    refine bind_ok.mpr ⟨_, (parseProjections_eq_ok parseRecipientProjection_eq_ok).mpr
      ⟨derived.routes, rfl⟩, ?_⟩
    refine bind_ok.mpr ⟨_, (parseProjections_eq_ok parseMlsRosterProjection_eq_ok).mpr
      ⟨derived.roster, rfl⟩, ?_⟩
    refine bind_ok.mpr ⟨_, derived.rows, ?_⟩
    refine bind_ok.mpr ⟨_, checkUint63_eq_ok.mpr ⟨hcount, rfl⟩, ?_⟩
    exact bind_ok.mpr ⟨_, derived.digest, rfl⟩

end

section

variable {H : HashFunction} {input : FanoutInput} {plan : ApplicationAppendFanoutPlan}
  {route : ApplicationAppendRecipientProjection}

/-- The append is delivered to the installation of the routing row: it is in the MLS roster
under the same identity, had joined and was not removed before the position, and its
credential is active and not expired. -/
structure Delivers (input : FanoutInput) (route : ApplicationAppendRecipientProjection) :
    Prop where
  member : ∃ member ∈ input.mlsRosterProjections, sameRecipientIdentity route member = true
  joined : route.joinedPosition ≤ input.position
  present : ∀ removed ∈ route.removedPosition, input.position ≤ removed
  installation : route.installationState = .active
  credential : route.credentialState = .active
  unexpired : dateParse input.authoritativeReceivedAt < dateParse route.credentialExpiresAt

theorem mem_sortedRoutes :
    route ∈ sortedRoutes input ↔ route ∈ input.recipientProjections :=
  List.mem_insertionSort _

theorem mem_sortedRoster {member : ApplicationAppendMlsRosterProjection} :
    member ∈ sortedRoster input ↔ member ∈ input.mlsRosterProjections :=
  List.mem_insertionSort _

theorem receives_iff (received : isRfc3339Millis input.authoritativeReceivedAt = true)
    (expires : isRfc3339Millis route.credentialExpiresAt = true) :
    receives (sortedRoster input) input.position input.authoritativeReceivedAt route = true ↔
      Delivers input route := by
  unfold receives
  rw [Bool.and_eq_true, List.any_eq_true, decide_eq_true_eq, lt_iff_dateParse_lt received expires]
  constructor
  · rintro ⟨⟨member, hmember, hsame⟩, hjoined, hpresent, hinstallation, hcredential, hexpires⟩
    exact ⟨⟨member, mem_sortedRoster.mp hmember, (Bool.and_eq_true _ _ ▸ hsame).2⟩, hjoined,
      hpresent, hinstallation, hcredential, hexpires⟩
  · rintro ⟨⟨member, hmember, hsame⟩, hjoined, hpresent, hinstallation, hcredential, hexpires⟩
    refine ⟨⟨member, mem_sortedRoster.mpr hmember, ?_⟩, hjoined, hpresent, hinstallation,
      hcredential, hexpires⟩
    have hid : route.installationId = member.installationId := by
      have := of_decide_eq_true hsame
      exact this.2.2.2.1
    rw [hsame, Bool.and_true, decide_eq_true_eq, hid]

theorem mem_recipientsOf (derived : Derived H input plan) {id : String} :
    id ∈ recipientsOf input ↔
      ∃ route ∈ input.recipientProjections, route.installationId = id ∧ Delivers input route := by
  unfold recipientsOf
  rw [List.mem_insertionSort, List.mem_map]
  constructor
  · rintro ⟨route, hroute, rfl⟩
    obtain ⟨hsorted, hreceives⟩ := List.mem_filter.mp hroute
    have hmember := mem_sortedRoutes.mp hsorted
    have expires := (derived.routes.valid route hmember).expires
    exact ⟨route, hmember, rfl, (receives_iff derived.receivedAt expires).mp hreceives⟩
  · rintro ⟨route, hmember, rfl, hdelivers⟩
    have expires := (derived.routes.valid route hmember).expires
    exact ⟨route, List.mem_filter.mpr ⟨mem_sortedRoutes.mpr hmember,
      (receives_iff derived.receivedAt expires).mpr hdelivers⟩, rfl⟩

theorem recipientsOf_increasing (derived : Derived H input plan) :
    (recipientsOf input).Pairwise (· < ·) := by
  have hsorted : (recipientsOf input).Pairwise (· ≤ ·) := List.pairwise_insertionSort _ _
  have hdistinct : (recipientsOf input).Nodup := by
    refine (List.perm_insertionSort _ _).nodup_iff.mpr ?_
    have hroutes : ((sortedRoutes input).map fun route => route.installationId).Nodup :=
      ((List.perm_insertionSort _ _).map _).nodup_iff.mpr derived.routes.installations
    exact hroutes.sublist (List.filter_sublist.map _)
  exact (hsorted.and hdistinct).imp fun h => lt_of_le_of_ne h.1 h.2

theorem Derived.perm (derived : Derived H input plan)
    {rosters : List ApplicationAppendMlsRosterProjection}
    {routes : List ApplicationAppendRecipientProjection}
    (hrosters : input.mlsRosterProjections.Perm rosters)
    (hroutes : input.recipientProjections.Perm routes) :
    Derived H { input with
      mlsRosterProjections := rosters
      recipientProjections := routes } plan := by
  have sameRoutes : sortedRoutes { input with
      mlsRosterProjections := rosters
      recipientProjections := routes } = sortedRoutes input :=
    (insertionSort_eq_of_perm derived.routes.installations hroutes).symm
  have sameRoster : sortedRoster { input with
      mlsRosterProjections := rosters
      recipientProjections := routes } = sortedRoster input :=
    (insertionSort_eq_of_perm derived.roster.installations hrosters).symm
  have samePlan : undigestedPlan { input with
      mlsRosterProjections := rosters
      recipientProjections := routes } = undigestedPlan input := by
    simp only [undigestedPlan, recipientsOf, sameRoutes, sameRoster]
  refine ⟨derived.conversation, derived.membership, derived.position, derived.receivedAt,
    derived.ceiling, derived.routes.perm hroutes, derived.roster.perm hrosters, ?_, ?_, ?_⟩
  · rw [sameRoutes, sameRoster]
    exact derived.rows
  · rw [samePlan]
    exact derived.digest
  · rw [samePlan]
    exact derived.plan

end

section

variable {H : HashFunction} {input : FanoutInput} {plan : ApplicationAppendFanoutPlan}

theorem recipientsOf_uuids {maximum : Nat}
    (routes : Projected RecipientRowValid (·.installationId) (·.credentialId) maximum
      input.recipientProjections) :
    ∀ id ∈ recipientsOf input, isUuidV4 id = true := by
  intro id hid
  unfold recipientsOf at hid
  rw [List.mem_insertionSort, List.mem_map] at hid
  obtain ⟨route, hroute, rfl⟩ := hid
  exact (routes.valid route (mem_sortedRoutes.mp (List.mem_of_mem_filter hroute))).installationId

theorem parsePlan_of_derived (derived : Derived H input plan) :
    parseApplicationAppendFanoutPlan H plan input.recipientInstallationsMax = .ok plan := by
  have hceiling := derived.routes.ceiling
  have hlength := length_recipientsOf_le input
  have hincreasing := recipientsOf_increasing derived
  have huuids := recipientsOf_uuids derived.routes
  have hids : ∀ (label : Nat → String), parseEach (fun id index => parseUuidV4 id (label index))
      (recipientsOf input) 0 = .ok (recipientsOf input) := fun label =>
    (parseEach_eq_ok fun id index parsed => parseUuidV4_eq_ok).mpr ⟨huuids, rfl⟩
  have hchecks := (checked_eq_ok.mp derived.conversation).1
  simp only [List.forall_mem_cons, pass_conversationId, pass_positive, pass_uint63,
    pass_hash] at hchecks
  obtain ⟨-, hconversationId, -, -, hgeneration, -, -, -, -, -, -, -, hrosterVersion, hrosterHash,
    hsetVersion, hsetHash, -⟩ := hchecks
  have hdigest : plan.planDigest.length = 32 := by
    obtain ⟨_, -, h⟩ := bind_ok.mp derived.digest
    rw [← Except.ok.inj h]
    exact H.length_digest _
  have hplan := derived.plan
  have hrecipients : plan.recipientInstallationIds = recipientsOf input := by
    rw [hplan]
    rfl
  have hcount : plan.recipientCount = (recipientsOf input).length := by
    rw [hplan]
    rfl
  unfold parseApplicationAppendFanoutPlan
  refine bind_ok.mpr ⟨_, parsePositiveUint63_eq_ok.mpr
    ⟨hceiling.1, hceiling.2, rfl⟩, ?_⟩
  rw [hrecipients]
  refine guard_ok.mpr ⟨?_, ?_⟩
  · rw [not_or, Nat.not_lt, Nat.not_lt]
    exact ⟨hlength.trans derived.routes.bounded.1, hlength.trans derived.routes.bounded.2⟩
  refine bind_ok.mpr ⟨_, hids _, ?_⟩
  refine guard_ok.mpr ⟨?_, ?_⟩
  · rw [not_or, not_not, not_not]
    exact ⟨hincreasing.imp ne_of_lt, List.isChain_iff_pairwise.mpr hincreasing⟩
  refine bind_ok.mpr ⟨plan, checked_eq_ok.mpr ⟨?_, rfl⟩, ?_⟩
  · have hbound : (recipientsOf input).length ≤ uint63Max :=
      hlength.trans (derived.routes.bounded.1.trans hceiling.2)
    rw [hplan]
    simp only [List.forall_mem_cons, pass_conversationId, pass_positive, pass_uint63, pass_hash]
    exact ⟨hconversationId, hgeneration, hrosterVersion, hrosterHash, hsetVersion, hsetHash,
      derived.position, hbound, hdigest, fun _ h => absurd h List.not_mem_nil⟩
  refine bind_ok.mpr ⟨plan.planDigest, ?_, ?_⟩
  · rw [hplan]
    exact derived.digest
  · rw [if_neg]
    rw [not_or, not_not, not_not]
    exact ⟨hcount, rfl⟩

/-- A plan that can be derived is the plan of its rows in any order; its recipients increase
strictly and are the installations that are delivered to; and it is parsed back unchanged. -/
theorem fanout_plan_determined (derived : deriveApplicationAppendFanoutPlan H input = .ok plan) :
    (∀ rosters routes, input.mlsRosterProjections.Perm rosters →
      input.recipientProjections.Perm routes →
      deriveApplicationAppendFanoutPlan H { input with
        mlsRosterProjections := rosters
        recipientProjections := routes } = .ok plan) ∧
    plan.recipientInstallationIds.Pairwise (· < ·) ∧
    (∀ id, id ∈ plan.recipientInstallationIds ↔
      ∃ route ∈ input.recipientProjections, route.installationId = id ∧ Delivers input route) ∧
    parseApplicationAppendFanoutPlan H plan input.recipientInstallationsMax = .ok plan := by
  have accepted := derive_eq_ok.mp derived
  have hrecipients : plan.recipientInstallationIds = recipientsOf input := by
    rw [accepted.plan]
    rfl
  rw [hrecipients]
  refine ⟨?_, recipientsOf_increasing accepted, fun _ => mem_recipientsOf accepted,
    parsePlan_of_derived accepted⟩
  intro rosters routes hrosters hroutes
  exact derive_eq_ok.mpr (accepted.perm hrosters hroutes)

end

section

def sampleMember : ApplicationAppendMlsRosterProjection :=
  ⟨sampleSender.conversationId, 1, 2, "55555555-5555-4555-8555-555555555555",
    "66666666-6666-4666-8666-666666666666", "88888888-8888-4888-8888-888888888888",
    sampleHash32 12⟩

def sampleRoster : List ApplicationAppendMlsRosterProjection :=
  [sampleMember, ⟨sampleSender.conversationId, 1, 2, sampleSender.accountId,
    sampleSender.installationId, sampleCredential, sampleHash32 11⟩]

def sampleRoutes : List ApplicationAppendRecipientProjection :=
  [⟨sampleSender.conversationId, 1, 2, sampleMember.accountId, sampleMember.installationId,
      sampleMember.credentialId, sampleMember.credentialFingerprint, 1, .active,
      sampleSender.validUntil, 4, none, .active⟩,
    ⟨sampleSender.conversationId, 1, 2, sampleSender.accountId, sampleSender.installationId,
      sampleCredential, sampleHash32 11, 1, .active, sampleSender.validUntil, 1, none, .active⟩]

def sampleFanout : FanoutInput where
  conversation := { sampleConversation sampleHash sampleSender with
    rosterHash := rosterDigest sampleHash sampleRoster
    recipientSetHash := recipientSetDigest sampleHash sampleRoutes }
  senderMembership := sampleMembership sampleSender
  position := 6
  authoritativeReceivedAt := "2024-03-01T12:00:30.000Z"
  recipientInstallationsMax := 10
  mlsRosterProjections := sampleRoster
  recipientProjections := sampleRoutes

theorem sampleFanout_derives : ∃ plan,
    deriveApplicationAppendFanoutPlan sampleHash sampleFanout = .ok plan :=
  exists_ok (by decide +kernel)

/-- The plan of two members, in either order of their rows. -/
theorem fanout_plan_determined_pair : ∃ plan,
    deriveApplicationAppendFanoutPlan sampleHash sampleFanout = .ok plan ∧
    deriveApplicationAppendFanoutPlan sampleHash { sampleFanout with
      mlsRosterProjections := sampleRoster
      recipientProjections := sampleRoutes.reverse } = .ok plan ∧
    parseApplicationAppendFanoutPlan sampleHash plan 10 = .ok plan := by
  obtain ⟨plan, derived⟩ := sampleFanout_derives
  obtain ⟨hperm, -, -, hparsed⟩ := fanout_plan_determined derived
  exact ⟨plan, derived, hperm _ _ (List.Perm.refl _) (List.reverse_perm _).symm, hparsed⟩

end

end JbChat.Delivery.FanoutPlans
