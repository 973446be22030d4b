/- source: src/production/storage/postgresDeliveryStore.ts, src/production/delivery/service.ts
   digest: What a call on the append lane leaves in the tables, and where its envelope stands. -/

import JbChat.Delivery.FanoutPlans
import JbChat.Store.MembershipRefinement
import JbChat.Store.Preparation

set_option autoImplicit false

namespace JbChat.Store.AppendEffects

open Foundation.HashTrace
open Foundation.Transaction Foundation.FencedLoop Delivery.Instants Delivery.Snapshot
open Delivery.QuotaRules Delivery.SnapshotParse Delivery.SnapshotDigest Delivery.Fanout
open Delivery.FanoutPlans Delivery.PendingExpiry
open Commands Evidence Documents Intents Tables Store.Authority AppendStore Preparation
open MembershipRefinement

section

variable {H : HashFunction} {value pending : PendingApplicationAppendIntent}

theorem overlay_conversation {snapshot overlaid : LockedApplicationAppendSnapshot}
    {proof : PolicyHeadProofEvidence}
    (h : refreshLockedApplicationAppendAuthorizationSnapshot H snapshot proof = .ok overlaid) :
    overlaid.conversation = snapshot.conversation ∧ overlaid.usage = snapshot.usage := by
  obtain ⟨parsed, hparsed, h1⟩ := bind_ok.mp h
  obtain ⟨evidence, -, h2⟩ := bind_ok.mp h1
  constructor
  · rw [(parseSnapshot_eq_ok.mp h2).2, (parseSnapshot_eq_ok.mp hparsed).2]
  · rw [(parseSnapshot_eq_ok.mp h2).2, (parseSnapshot_eq_ok.mp hparsed).2]

theorem derivePlan_position {input : FanoutInput} {plan : ApplicationAppendFanoutPlan}
    (h : deriveApplicationAppendFanoutPlan H input = .ok plan) :
    input.position = input.conversation.lastPosition + 1 :=
  (checkFanoutRows_eq_ok (derive_eq_ok.mp h).rows).2.position

/-- The envelope of an intent belongs to its command and comes right behind the snapshot. -/
structure InPlace (H : HashFunction) (pending : PendingApplicationAppendIntent) : Prop where
  persisted : ∃ value, parseLockedApplicationAppendSnapshot H value =
    .ok pending.persistedSnapshot
  persistedDigest : computeLockedApplicationAppendSnapshotDigest H pending.persistedSnapshot =
    .ok pending.expectedSnapshotDigest
  prior : pending.priorSnapshot.conversation = pending.persistedSnapshot.conversation
  active : pending.priorSnapshot.conversation.state = .active
  conversationId : pending.envelope.conversationId = pending.admissionCommand.conversationId
  priorId : pending.priorSnapshot.conversation.conversationId = pending.envelope.conversationId
  envelopeId : pending.envelope.envelopeId =
    pending.admissionCommand.semanticIdentity.append.envelopeId
  epoch : pending.envelope.epoch = pending.priorSnapshot.conversation.epoch
  position : pending.envelope.position = pending.priorSnapshot.conversation.lastPosition + 1
  next : pending.commitProjection.conversation = { pending.priorSnapshot.conversation with
    lastPosition := pending.priorSnapshot.conversation.lastPosition + 1
    currentLogHeadHash := pending.envelope.headHash }
  counted : ∃ count bytes attachments,
    pending.commitProjection.usage = { pending.persistedSnapshot.usage with
      envelopeCount := count
      envelopeBytes := bytes
      attachmentBytes := attachments }

theorem conversationRefusal_eq_none {conversation : LockedConversationState}
    {expectation : ApplicationAppendExpectation}
    (h : conversationRefusal conversation expectation = none) :
    conversation.state = .active ∧
      expectation.conversationId = conversation.conversationId := by
  unfold conversationRefusal at h
  dsimp only at h
  split_ifs at h with hstate hetag hsame
  push Not at hstate hsame
  exact ⟨hstate, hsame.2.1⟩

section

variable {prior : LockedApplicationAppendSnapshot} {expectation : ApplicationAppendExpectation}
  {receivedAt : String} {headHash : Bytes} {decision : AllowedAppend}
  {prepared projection : LockedApplicationAppendCommitProjection}

theorem transition_of_decision
    (hvalue : ∃ original, parseLockedApplicationAppendSnapshot H original = .ok prior)
    (allowed : evaluateLockedApplicationAppend H prior expectation receivedAt = .allowed decision)
    (h : validateLockedApplicationAppendStateTransition H prior expectation receivedAt headHash
      prepared = .ok projection) :
    projection.conversation = { prior.conversation with
      lastPosition := decision.nextPosition
      currentLogHeadHash := headHash } ∧
    projection.usage = decision.nextUsage := by
  obtain ⟨original, horiginal⟩ := hvalue
  obtain ⟨again, hagain, h1⟩ := bind_ok.mp h
  obtain rfl : again = prior := by
    rw [parseSnapshot_idem horiginal] at hagain
    exact (Except.ok.inj hagain).symm
  obtain ⟨sent, hsent, h2⟩ := bind_ok.mp h1
  obtain rfl := (checked_eq_ok.mp hsent).2
  obtain ⟨at_, hat, h3⟩ := bind_ok.mp h2
  obtain ⟨-, rfl⟩ := parseRfc3339Millis_eq_ok.mp hat
  obtain ⟨head, hhead, h4⟩ := bind_ok.mp h3
  obtain rfl := (checkHash32_eq_ok.mp hhead).2
  obtain ⟨-, h5⟩ := guard_ok.mp h4
  obtain ⟨other, hother, h6⟩ := bind_ok.mp h5
  obtain rfl : other = decision := by
    have hsame := allowedAppend_eq_ok.mp hother
    rw [allowed] at hsame
    exact (LockedApplicationAppendDecision.allowed.inj hsame).symm
  obtain ⟨expected, hexpected, h7⟩ := bind_ok.mp h6
  obtain ⟨conversation, -, h8⟩ := bind_ok.mp h7
  obtain ⟨usage, -, h9⟩ := bind_ok.mp h8
  obtain ⟨reservations, -, h10⟩ := bind_ok.mp h9
  obtain ⟨hexact, h11⟩ := guard_ok.mp h10
  cases h11
  push Not at hexact
  exact ⟨by rw [hexact.1, (checked_eq_ok.mp hexpected).2], hexact.2.1⟩

theorem projection_of_transition
    (hvalue : ∃ original, parseLockedApplicationAppendSnapshot H original = .ok prior)
    (allowed : evaluateLockedApplicationAppend H prior expectation receivedAt = .allowed decision)
    (h : validateLockedApplicationAppendStateTransition H prior expectation receivedAt headHash
      prepared = .ok projection) :
    projection.conversation = { prior.conversation with
      lastPosition := prior.conversation.lastPosition + 1
      currentLogHeadHash := headHash } ∧
    ∃ count bytes attachments, projection.usage = { prior.usage with
      envelopeCount := count
      envelopeBytes := bytes
      attachmentBytes := attachments } := by
  obtain ⟨hconversation, husage⟩ := transition_of_decision hvalue allowed h
  obtain ⟨original, horiginal⟩ := hvalue
  have passes := evaluate_eq_allowed_iff.mp allowed
  have hposition : decision.nextPosition = prior.conversation.lastPosition + 1 :=
    (nextUsage_parses (parseSnapshot_eq_ok.mp (parseSnapshot_idem horiginal)).1.usage
      passes.usage).1
  rw [hposition] at hconversation
  rw [husage]
  exact ⟨hconversation, _, _, _, nextUsage_counts passes.usage⟩

end

theorem inPlace_of_parsed (h : parsePendingApplicationAppendIntent H value = .ok pending) :
    InPlace H pending := by
  obtain ⟨parts, post, hparts, hbindings, htransition, rfl⟩ := parsePending_stages h
  obtain ⟨-, h1⟩ := refuse_bind_eq_ok.mp hbindings
  obtain ⟨-, h2⟩ := refuse_bind_eq_ok.mp h1
  obtain ⟨-, -, h3⟩ := bind_ok.mp h2
  obtain ⟨-, -, h4⟩ := bind_ok.mp h3
  obtain ⟨⟨⟩, hmatches, h5⟩ := bind_ok.mp h4
  obtain ⟨hexpectation, h6⟩ := refuse_bind_eq_ok.mp h5
  obtain ⟨expiresAt, -, h7⟩ := bind_ok.mp h6
  obtain ⟨-, h8⟩ := refuse_bind_eq_ok.mp h7
  obtain ⟨plan, hplan, -⟩ := bind_ok.mp h8
  have hposition := derivePlan_position hplan
  have hmatches := refuse_eq_ok.mp hmatches
  push Not at hmatches
  rw [not_not] at hexpectation
  obtain ⟨decision, hdecision, -⟩ := bind_ok.mp htransition
  have allowed := allowedAppend_eq_ok.mp hdecision
  have passes := evaluate_eq_allowed_iff.mp allowed
  have hauthority := passes.authority
  unfold authorityRefusal at hauthority
  rw [Option.orElse_eq_none] at hauthority
  obtain ⟨hactive, hsame⟩ := conversationRefusal_eq_none hauthority.1
  obtain ⟨hnext, hcounted⟩ := projection_of_transition ⟨_, hparts.prior⟩ allowed
    (parseIntentTransition_eq_ok hparts htransition).projection
  obtain ⟨hprior, husage⟩ := overlay_conversation hparts.overlay
  rw [hexpectation] at hsame
  rw [husage] at hcounted
  exact
    { persisted := ⟨_, hparts.persisted⟩
      persistedDigest := hparts.persistedDigest
      prior := hprior
      active := hactive
      conversationId := hmatches.1
      priorId := hsame.symm.trans hmatches.1.symm
      envelopeId := hmatches.2.1
      epoch := hmatches.2.2.2.2.1
      position := hposition
      next := hnext
      counted := hcounted }

end

section

variable {H : HashFunction} {checks : DocumentChecks} {db : DeliveryDb} {conversationId : String}
  {sender : Option String} {clock : CallClock} {input : FinalizeApplicationAppendInput}

theorem graphRow_eq_ok {α : Type} {component : String} {rows : List α} {row : α} :
    graphRow component rows = .ok row ↔ rows = [row] := by
  rw [← onlyRow_eq_some]
  unfold graphRow
  cases onlyRow rows with
  | none => exact ⟨fun h => (by cases h), fun h => (by cases h)⟩
  | some found => rw [Except.ok.injEq, Option.some.injEq]

/-- The snapshot of a lane is the parsed state of its one conversation row, under its digest. -/
structure Authoritative (H : HashFunction) (db : DeliveryDb) (conversationId : String)
    (authority : AuthorityRow) : Prop where
  row : ∃ row, (db.conversations.filter fun row =>
      decide (row.conversationId = conversationId)) = [row] ∧
    authority.snapshot.conversation = row.toLockedConversationState
  usage : (db.usage.filter fun row => decide (row.conversationId = conversationId)) =
    [authority.snapshot.usage]
  parsed : ∃ value, parseLockedApplicationAppendSnapshot H value = .ok authority.snapshot
  digest : computeLockedApplicationAppendSnapshotDigest H authority.snapshot =
    .ok authority.snapshotDigest

theorem reconstruct_eq_ok {rebuilt : RebuiltAuthority}
    (h : reconstructAuthoritySnapshot H db conversationId sender = .ok rebuilt) :
    (∃ row, (db.conversations.filter fun row =>
        decide (row.conversationId = conversationId)) = [row] ∧
      rebuilt.snapshot.conversation = row.toLockedConversationState) ∧
    (db.usage.filter fun row => decide (row.conversationId = conversationId)) =
      [rebuilt.snapshot.usage] ∧
    (∃ value, parseLockedApplicationAppendSnapshot H value = .ok rebuilt.snapshot) ∧
    computeLockedApplicationAppendSnapshotDigest H rebuilt.snapshot =
      .ok rebuilt.snapshotDigest := by
  obtain ⟨rows, hrows, h1⟩ := bind_ok.mp h
  obtain ⟨quotas, -, h2⟩ := bind_ok.mp h1
  obtain ⟨roster, -, h3⟩ := bind_ok.mp h2
  obtain ⟨recipients, -, h4⟩ := bind_ok.mp h3
  obtain ⟨snapshot, hsnapshot, h5⟩ := bind_ok.mp h4
  obtain ⟨digest, hdigest, h6⟩ := bind_ok.mp h5
  cases h6
  suffices hread : (∃ row, (db.conversations.filter fun row =>
        decide (row.conversationId = conversationId)) = [row] ∧
      snapshot.conversation = row.toLockedConversationState) ∧
      (db.usage.filter fun row => decide (row.conversationId = conversationId)) =
        [snapshot.usage] from ⟨hread.1, hread.2, ⟨_, hsnapshot⟩, hdigest⟩
  obtain ⟨row, hrow, h7⟩ := bind_ok.mp hrows
  obtain ⟨sendGrant, -, h8⟩ := bind_ok.mp h7
  obtain ⟨member, -, h9⟩ := bind_ok.mp h8
  obtain ⟨membership, -, h10⟩ := bind_ok.mp h9
  obtain ⟨policyHead, -, h11⟩ := bind_ok.mp h10
  obtain ⟨usage, husage, h12⟩ := bind_ok.mp h11
  obtain ⟨installationHash, -, h13⟩ := bind_ok.mp h12
  obtain ⟨accountHash, -, h14⟩ := bind_ok.mp h13
  obtain ⟨-, h15⟩ := guard_ok.mp h14
  cases h15
  refine ⟨⟨row, graphRow_eq_ok.mp hrow, ?_⟩, (graphRow_eq_ok.mp husage).trans ?_⟩
  · rw [(parseSnapshot_eq_ok.mp hsnapshot).2]
    rfl
  · rw [(parseSnapshot_eq_ok.mp hsnapshot).2]
    rfl

theorem loadAuthority_eq_ok {authority : AuthorityRow}
    (h : loadAuthority H db conversationId sender = .ok (some authority)) :
    Authoritative H db conversationId authority := by
  unfold loadAuthority at h
  split at h
  · cases h
  · obtain ⟨rebuilt, hrebuilt, h⟩ := bind_ok.mp h
    obtain ⟨-, h⟩ := guard_ok.mp h
    cases h
    obtain ⟨hrow, husage, hparsed, hdigest⟩ := reconstruct_eq_ok hrebuilt
    exact ⟨hrow, husage, hparsed, hdigest⟩

/-- What a finalization has read when it gets to its quota loop. -/
structure Finalizable (H : HashFunction) (clock : CallClock)
    (input : FinalizeApplicationAppendInput) (db : DeliveryDb) (admission : FinalizeAdmission) :
    Prop where
  command : parseAtomicApplicationAppendCommand H input.command = .ok input.command
  pending : parsePendingApplicationAppendIntent H input.pendingIntent = .ok admission.pending
  authority : Authoritative H db admission.pending.envelope.conversationId admission.authority
  notAccepted : lookupAcceptedReplay H db input.command clock = .ok none
  located : ∃ found reservedAt,
    loadPending H db admission.pending.envelope.conversationId = .ok (some (found, reservedAt)) ∧
      found.intentDigest = admission.pending.intentDigest
  digest : admission.authority.snapshotDigest = admission.pending.expectedSnapshotDigest
  signed : admission.signedEnvelope = ⟨admission.pending.envelope, input.signature⟩

theorem readFinalization_eq_ok {pending : PendingApplicationAppendIntent}
    {context : FinalizeContext}
    (h : readFinalization H checks clock input pending db = .ok (.inr context)) :
    loadAuthority H db pending.envelope.conversationId (some (senderOf pending)) =
        .ok (some context.authority) ∧
      lookupAcceptedReplay H db input.command clock = .ok none ∧
      (∃ found reservedAt,
        loadPending H db pending.envelope.conversationId = .ok (some (found, reservedAt)) ∧
          found.intentDigest = pending.intentDigest) ∧
      context.authority.snapshotDigest = pending.expectedSnapshotDigest ∧
      context.signedEnvelope = ⟨pending.envelope, input.signature⟩ := by
  unfold readFinalization at h
  obtain ⟨authority, hauthority, h1⟩ := bind_ok.mp h
  obtain ⟨accepted, haccepted, h2⟩ := bind_ok.mp h1
  cases accepted with
  | some result => cases h2
  | none =>
    dsimp only at h2
    obtain ⟨located, hlocated, h3⟩ := bind_ok.mp h2
    split at h3
    · obtain ⟨result, -, h4⟩ := bind_ok.mp h3
      cases h4
    · rename_i hsame
      rw [not_not] at hsame
      obtain ⟨⟨found, reservedAt⟩, rfl, hfound⟩ := Option.map_eq_some_iff.mp hsame
      cases authority with
      | none => cases h3
      | some authority =>
        dsimp only at h3
        obtain ⟨inputFence, -, h4⟩ := bind_ok.mp h3
        obtain ⟨plan, -, h5⟩ := bind_ok.mp h4
        obtain ⟨intentDigest, -, h6⟩ := bind_ok.mp h5
        split at h6
        · cases h6
        · obtain ⟨pendingExpiresAt, -, h7⟩ := bind_ok.mp h6
          split at h7
          · cases h7
          · obtain ⟨signature, hsignature, h8⟩ := bind_ok.mp h7
            obtain ⟨⟨⟩, -, h9⟩ := bind_ok.mp h8
            split at h9
            · cases h9
            · obtain ⟨⟨⟩, -, h10⟩ := bind_ok.mp h9
              obtain ⟨⟨⟩, -, h11⟩ := bind_ok.mp h10
              obtain ⟨⟨⟩, -, h12⟩ := bind_ok.mp h11
              split at h12
              · cases h12
              · rename_i hfence
                push Not at hfence
                split at h12
                · cases h12
                · cases h12
                  obtain ⟨-, hsame⟩ := guard_ok.mp hsignature
                  cases hsame
                  exact ⟨hauthority, haccepted, ⟨found, reservedAt, hlocated, hfound⟩, hfence.1,
                    rfl⟩

theorem admitFinalization_eq_ok {invocation : DeliveryInvocationContext}
    {admission : FinalizeAdmission}
    (h : admitFinalization H checks clock input invocation db = .ok (.inr admission)) :
    Finalizable H clock input db admission := by
  unfold admitFinalization at h
  split at h
  · cases h
  · obtain ⟨command, hcommand, h1⟩ := bind_ok.mp h
    obtain ⟨pending, hpending, h2⟩ := bind_ok.mp h1
    obtain ⟨reading, hreading, h3⟩ := bind_ok.mp h2
    cases reading with
    | inl result => cases h3
    | inr context =>
      obtain ⟨quotas, -, h4⟩ := bind_ok.mp h3
      cases h4
      obtain ⟨hauthority, haccepted, hlocated, hdigest, hsigned⟩ :=
        readFinalization_eq_ok hreading
      have hcommand := (checked_eq_ok.mp hcommand)
      exact ⟨checked_eq_ok.mpr ⟨hcommand.1, rfl⟩, hpending, loadAuthority_eq_ok hauthority,
        haccepted, hlocated, hdigest, hsigned⟩

end

section

variable {H : HashFunction} {checks : DocumentChecks} {db middle written final : DeliveryDb}
  {observedAt conversationId : String} {turns : List QuotaTurn} {position : Nat}
  {envelope : StoredApplicationEnvelope} {acceptance : StoredAcceptance} {clock : CallClock}
  {input : FinalizeApplicationAppendInput} {admitted : FinalizeAdmission}

structure LogKept (db after : DeliveryDb) : Prop where
  conversations : after.conversations = db.conversations
  membershipIntents : after.membershipIntents = db.membershipIntents
  admission : after.admission = db.admission
  envelopes : after.envelopes = db.envelopes
  acceptances : after.acceptances = db.acceptances
  httpIdempotency : after.httpIdempotency = db.httpIdempotency
  members : memberTables after = memberTables db

theorem LogKept.refl (db : DeliveryDb) : LogKept db db := ⟨rfl, rfl, rfl, rfl, rfl, rfl, rfl⟩

theorem LogKept.trans (first : LogKept db middle) (second : LogKept middle final) :
    LogKept db final :=
  ⟨second.conversations.trans first.conversations,
    second.membershipIntents.trans first.membershipIntents,
    second.admission.trans first.admission, second.envelopes.trans first.envelopes,
    second.acceptances.trans first.acceptances,
    second.httpIdempotency.trans first.httpIdempotency, second.members.trans first.members⟩

/-- Statements around a log entry: they write neither the log nor the lane. -/
structure Beside (db after : DeliveryDb) : Prop extends LogKept db after where
  pendings : after.pendings = db.pendings

theorem Beside.refl (db : DeliveryDb) : Beside db db := ⟨LogKept.refl db, rfl⟩

theorem Beside.trans (first : Beside db middle) (second : Beside middle final) :
    Beside db final :=
  ⟨first.toLogKept.trans second.toLogKept, second.pendings.trans first.pendings⟩

theorem takeTurn_eq_some {turn : QuotaTurn} {written : DeliveryDb} :
    takeTurn observedAt turn db = .ok (some written) ↔ ∃ write counters, turn.write = some write ∧
      updateCounter write db.quotaCounters = .ok (some counters) ∧
      written = { db with
        quotaCounters := counters
        quotaReservations := turn.resolve observedAt db.quotaReservations } := by
  unfold takeTurn
  cases turn.write with
  | none => simp
  | some write =>
    constructor
    · intro h
      obtain ⟨result, hresult, h1⟩ := bind_ok.mp h
      obtain ⟨counters, rfl, rfl⟩ := Option.map_eq_some_iff.mp (Except.ok.inj h1)
      exact ⟨write, counters, rfl, hresult, rfl⟩
    · rintro ⟨_, counters, hwrite, hresult, rfl⟩
      cases hwrite
      exact bind_ok.mpr ⟨some counters, hresult, rfl⟩

theorem took_frame (htook : Took (takeTurn observedAt) db turns final) :
    final = { db with
      quotaCounters := final.quotaCounters
      quotaReservations := final.quotaReservations } := by
  induction htook with
  | nil => rfl
  | cons hfirst _ ih =>
    obtain ⟨write, counters, -, -, rfl⟩ := takeTurn_eq_some.mp hfirst
    exact ih

theorem quotaLoop_beside {completed : Bool}
    (h : quotaLoop observedAt turns db = .ok (completed, final)) : Beside db final := by
  have htook : ∃ taken, Took (takeTurn observedAt) db taken final := by
    cases completed with
    | true => exact ⟨turns, fencedLoop_eq_true.mp h⟩
    | false =>
      obtain ⟨taken, item, rest, -, htook, -⟩ := fencedLoop_eq_false.mp h
      exact ⟨taken, htook⟩
  obtain ⟨taken, htook⟩ := htook
  rw [took_frame htook]
  exact ⟨⟨rfl, rfl, rfl, rfl, rfl, rfl, rfl⟩, rfl⟩

theorem bindAttachments_beside {attachmentIds : List String} {ordinal : Nat}
    (h : bindAttachments conversationId position attachmentIds ordinal db = .ok final) :
    Beside db final := by
  induction attachmentIds generalizing ordinal db with
  | nil =>
    obtain rfl := Except.ok.inj h
    exact Beside.refl db
  | cons attachmentId others ih =>
    obtain ⟨-, h⟩ := guard_ok.mp h
    obtain ⟨rows, -, h⟩ := bind_ok.mp h
    refine Beside.trans ?_ (ih h)
    exact ⟨⟨rfl, rfl, rfl, rfl, rfl, rfl, rfl⟩, rfl⟩

theorem fanOut_beside {installationIds : List String}
    (h : fanOut envelope observedAt installationIds db = .ok final) : Beside db final := by
  induction installationIds generalizing db with
  | nil =>
    obtain rfl := Except.ok.inj h
    exact Beside.refl db
  | cons installationId others ih =>
    obtain ⟨⟨position, counters⟩, -, h⟩ := bind_ok.mp h
    obtain ⟨-, h⟩ := guard_ok.mp h
    obtain ⟨entries, -, h⟩ := bind_ok.mp h
    refine Beside.trans ?_ (ih h)
    exact ⟨⟨rfl, rfl, rfl, rfl, rfl, rfl, rfl⟩, rfl⟩

theorem refresh_beside {u : Unit}
    (h : refreshCustodySnapshotDigest H conversationId db = .ok (u, final)) : Beside db final := by
  obtain ⟨fences, custody, rfl⟩ := refreshCustodySnapshotDigest_writes h
  exact ⟨⟨rfl, rfl, rfl, rfl, rfl, rfl, rfl⟩, rfl⟩

theorem insertUnique_eq_ok {α κ : Type} [DecidableEq κ] {constraint : String} {key : α → κ}
    {row : α} {rows after : List α} (h : insertUnique constraint key row rows = .ok after) :
    (∀ other ∈ rows, key other ≠ key row) ∧ after = rows ++ [row] := by
  unfold insertUnique at h
  obtain ⟨hfresh, h⟩ := guard_ok.mp h
  refine ⟨?_, (Except.ok.inj h).symm⟩
  intro other hother hsame
  exact hfresh (List.any_eq_true.mpr ⟨other, hother, decide_eq_true hsame⟩)

def acceptanceRow (pending : PendingApplicationAppendIntent) (acceptance : StoredAcceptance)
    (observedAt : String) : AcceptanceRow where
  realmId := pending.admissionCommand.realmId
  conversationId := acceptance.envelope.conversationId
  envelopeId := acceptance.envelope.envelopeId
  position := acceptance.envelope.position
  intentDigest := pending.intentDigest
  admissionCommandDigest := pending.admissionCommandDigest
  semanticIdentityDigest := pending.semanticIdentityDigest
  acceptanceCanonical := acceptance
  finalizedAt := observedAt

theorem insertAcceptance_eq_ok {pending : PendingApplicationAppendIntent}
    (h : insertAcceptance pending acceptance observedAt db = .ok final) :
    (∀ other ∈ db.acceptances, (other.realmId, other.conversationId, other.envelopeId) ≠
      (pending.admissionCommand.realmId, acceptance.envelope.conversationId,
        acceptance.envelope.envelopeId)) ∧
    final = { db with
      acceptances := db.acceptances ++ [acceptanceRow pending acceptance observedAt] } := by
  obtain ⟨-, h⟩ := guard_ok.mp h
  obtain ⟨rows, hrows, h⟩ := bind_ok.mp h
  obtain ⟨hfresh, rfl⟩ := insertUnique_eq_ok hrows
  exact ⟨hfresh, (Except.ok.inj h).symm⟩

theorem insertPageEnd_beside {next : LockedApplicationAppendSnapshot}
    (h : insertPageEnd next position observedAt db = .ok final) :
    Beside db final := by
  obtain ⟨rows, -, h⟩ := bind_ok.mp h
  cases h
  exact ⟨⟨rfl, rfl, rfl, rfl, rfl, rfl, rfl⟩, rfl⟩

theorem insertEnvelope_fresh {row : EnvelopeRow} (h : insertEnvelope row db = .ok written) :
    ∀ other ∈ db.envelopes, (other.conversationId, other.envelopeId) ≠
      (row.conversationId, row.envelopeId) := by
  unfold insertEnvelope at h
  obtain ⟨-, h⟩ := guard_ok.mp h
  obtain ⟨hfresh, -⟩ := guard_ok.mp h
  intro other hother hsame
  obtain ⟨hconversation, henvelope⟩ := Prod.mk.inj hsame
  exact hfresh (List.any_eq_true.mpr ⟨other, hother,
    decide_eq_true ⟨hconversation, .inr (.inl henvelope)⟩⟩)

/-- What a finalization that ran to its end has left in the log and on the lane. -/
structure Appended (H : HashFunction) (checks : DocumentChecks) (clock : CallClock)
    (input : FinalizeApplicationAppendInput) (admitted : FinalizeAdmission)
    (acceptance : StoredAcceptance) (same : Bool) (db final : DeliveryDb) : Prop where
  conversations : final.conversations = (advanceConversation admitted.signedEnvelope
    admitted.pending.commitProjection.conversation clock.observedAt db).conversations
  membershipIntents : final.membershipIntents = db.membershipIntents
  admission : final.admission = db.admission
  memberships : final.memberships = db.memberships
  usage : final.usage = (advanceUsage admitted.signedEnvelope.conversationId
    admitted.pending.commitProjection.usage db).usage
  limited : parseLockedConversationUsage admitted.pending.commitProjection.usage =
    .ok admitted.pending.commitProjection.usage
  envelopes : final.envelopes = db.envelopes ++ [envelopeRow admitted.signedEnvelope]
  unstored : ∀ other ∈ db.envelopes, (other.conversationId, other.envelopeId) ≠
    (admitted.signedEnvelope.conversationId, admitted.signedEnvelope.envelopeId)
  built : buildAcceptance checks input admitted clock.observedAt = .ok acceptance
  acceptances : final.acceptances =
    db.acceptances ++ [acceptanceRow admitted.pending acceptance clock.observedAt]
  unaccepted : ∀ other ∈ db.acceptances, (other.realmId, other.conversationId, other.envelopeId) ≠
    (admitted.pending.admissionCommand.realmId, acceptance.envelope.conversationId,
      acceptance.envelope.envelopeId)
  compared : applicationEnvelopeSemanticallyEqual H
    admitted.pending.admissionCommand.semanticIdentity input.command.semanticIdentity = .ok same
  httpIdempotency : final.httpIdempotency = (insertIdempotency H
    admitted.pending.admissionCommand.realmId admitted.signedEnvelope clock.observedAt
    (acceptedCommands input admitted.pending same) db).httpIdempotency
  pendings : final.pendings =
    (deletePending admitted.signedEnvelope.conversationId db).pendings

theorem insertIdempotency_congr {realmId : String} {commands : List AtomicApplicationAppendCommand}
    (h : middle.httpIdempotency = db.httpIdempotency) :
    (insertIdempotency H realmId envelope observedAt commands middle).httpIdempotency =
      (insertIdempotency H realmId envelope observedAt commands db).httpIdempotency := by
  unfold insertIdempotency
  rw [h]

theorem recordAcceptance_appended {outcome : Outcome}
    (h : recordAcceptance H checks clock input admitted db = .ok (outcome, final)) :
    ∃ acceptance same replay, Appended H checks clock input admitted acceptance same db final ∧
      outcome.result = acceptedResultFor H input.command acceptance replay clock.observedAt := by
  obtain ⟨-, next, acceptance, logged, bound, delivered, accepted, paged, fenced, same, replay,
    writes, hsame, hresult, rfl⟩ := recordAcceptance_eq_ok h
  refine ⟨acceptance, same, replay, ?_, hresult⟩
  have hfresh := insertEnvelope_fresh writes.envelope
  have hlogged := insertEnvelope_eq_ok writes.envelope
  obtain ⟨hunaccepted, haccepted⟩ := insertAcceptance_eq_ok writes.acceptance
  have delivers : Beside logged delivered :=
    (bindAttachments_beside writes.attachments).trans (fanOut_beside writes.fanout)
  have closes : Beside accepted fenced := by
    refine (insertPageEnd_beside writes.pageEnd).trans (Beside.trans ?_ (refresh_beside writes.fences))
    exact ⟨⟨rfl, rfl, rfl, rfl, rfl, rfl, rfl⟩, rfl⟩
  have hnext : next.conversation = admitted.pending.commitProjection.conversation := by
    rw [(parseSnapshot_eq_ok.mp writes.parsed).2]
    rfl
  have hnextUsage : next.usage = admitted.pending.commitProjection.usage := by
    rw [(parseSnapshot_eq_ok.mp writes.parsed).2]
    rfl
  rw [haccepted] at closes
  rw [hlogged] at delivers
  rw [hnext] at delivers
  exact
    { conversations := closes.conversations.trans delivers.conversations
      membershipIntents := closes.membershipIntents.trans delivers.membershipIntents
      admission := closes.admission.trans delivers.admission
      memberships := (congrArg MemberTables.memberships closes.members).trans
        (congrArg MemberTables.memberships delivers.members)
      usage := by
        have hdelivered : delivered.usage = db.usage :=
          congrArg MemberTables.usage delivers.members
        refine (congrArg MemberTables.usage closes.members).trans ?_
        dsimp only [memberTables, insertOutboxEvent, advanceUsage]
        rw [hdelivered, hnextUsage]
      limited := (parseSnapshot_eq_ok.mp writes.parsed).1.usage
      envelopes := closes.envelopes.trans delivers.envelopes
      unstored := hfresh
      built := writes.built
      acceptances := by
        refine closes.acceptances.trans ?_
        dsimp only [insertOutboxEvent, advanceUsage]
        rw [delivers.acceptances]
        rfl
      unaccepted := by
        have hsame : delivered.acceptances = db.acceptances := delivers.acceptances
        intro other hother
        exact hunaccepted other (hsame ▸ hother)
      compared := hsame
      httpIdempotency := insertIdempotency_congr
        (closes.httpIdempotency.trans delivers.httpIdempotency)
      pendings := by
        have hpendings : fenced.pendings = db.pendings := closes.pendings.trans delivers.pendings
        dsimp only [deletePending, insertIdempotency]
        rw [hpendings] }

theorem Appended.of_beside {same : Bool} (beside : Beside db middle)
    (appended : Appended H checks clock input admitted acceptance same middle final) :
    Appended H checks clock input admitted acceptance same db final where
  conversations := by
    rw [appended.conversations]
    unfold advanceConversation
    rw [beside.conversations]
  membershipIntents := appended.membershipIntents.trans beside.membershipIntents
  admission := appended.admission.trans beside.admission
  memberships := appended.memberships.trans (congrArg MemberTables.memberships beside.members)
  usage := by
    rw [appended.usage]
    unfold advanceUsage
    dsimp only
    rw [show middle.usage = db.usage from congrArg MemberTables.usage beside.members]
  limited := appended.limited
  envelopes := by rw [appended.envelopes, beside.envelopes]
  unstored := beside.envelopes ▸ appended.unstored
  built := appended.built
  acceptances := by rw [appended.acceptances, beside.acceptances]
  unaccepted := beside.acceptances ▸ appended.unaccepted
  compared := appended.compared
  httpIdempotency :=
    appended.httpIdempotency.trans (insertIdempotency_congr beside.httpIdempotency)
  pendings := by
    rw [appended.pendings]
    unfold deletePending
    rw [beside.pendings]

end

section

variable {H : HashFunction} {checks : DocumentChecks} {db final : DeliveryDb} {outcome : Outcome}
  {clock : CallClock} {invocation : DeliveryInvocationContext}

theorem finalize_eq_ok {input : FinalizeApplicationAppendInput}
    (h : finalizeApplicationAppendAtomically H checks clock input invocation db =
      .ok (outcome, final)) :
    (admitFinalization H checks clock input invocation db = .ok (.inl outcome.result) ∧
        final = db) ∨
      (outcome.result = .retry ∧ Beside db final ∧ ∃ admitted,
        admitFinalization H checks clock input invocation db = .ok (.inr admitted)) ∨
      ∃ admitted acceptance same replay,
        admitFinalization H checks clock input invocation db = .ok (.inr admitted) ∧
        Appended H checks clock input admitted acceptance same db final ∧
        outcome.result = acceptedResultFor H input.command acceptance replay clock.observedAt := by
  unfold finalizeApplicationAppendAtomically at h
  rw [Tx.get_bind] at h
  obtain ⟨reading, hreading, h1⟩ := Tx.lift_bind_eq_ok.mp h
  cases reading with
  | inl result =>
    obtain ⟨rfl, rfl⟩ := Tx.pure_eq_ok.mp h1
    exact Or.inl ⟨hreading, rfl⟩
  | inr admitted =>
    obtain ⟨completed, looped, hloop, h2⟩ := Tx.bind_eq_ok.mp h1
    have beside := quotaLoop_beside hloop
    cases completed with
    | false =>
      obtain ⟨rfl, rfl⟩ := Tx.pure_eq_ok.mp h2
      exact Or.inr (Or.inl ⟨rfl, beside, admitted, hreading⟩)
    | true =>
      obtain ⟨acceptance, same, replay, appended, hresult⟩ := recordAcceptance_appended h2
      exact Or.inr (Or.inr ⟨admitted, acceptance, same, replay, hreading,
        appended.of_beside beside, hresult⟩)

structure Fences (observedAt : String) (pending : PendingApplicationAppendIntent)
    (row : PendingRow) : Prop where
  conversationId : row.conversationId = pending.envelope.conversationId
  pending : row.pendingCanonical = pending
  reservedAt : row.reservedAt = observedAt

theorem insertPending_eq_ok {command : AtomicApplicationAppendCommand}
    {pending : PendingApplicationAppendIntent} {observedAt : String}
    (h : insertPending H command pending observedAt db = .ok final) :
    ∃ row, Fences observedAt pending row ∧
      (∀ other ∈ db.pendings, other.conversationId ≠ row.conversationId) ∧
      final = { db with pendings := db.pendings ++ [row] } := by
  obtain ⟨-, h⟩ := guard_ok.mp h
  obtain ⟨-, h⟩ := guard_ok.mp h
  obtain ⟨rows, hrows, h⟩ := bind_ok.mp h
  obtain ⟨hfresh, rfl⟩ := insertUnique_eq_ok hrows
  exact ⟨_, ⟨rfl, rfl, rfl⟩, hfresh, (Except.ok.inj h).symm⟩

theorem reserve_eq_ok {input : AtomicApplicationAppendReservation}
    {prepareUnsigned : ReserveTransactionContext → PreparedValue}
    (h : reserveApplicationAppendAtomically H clock input invocation prepareUnsigned db =
      .ok (outcome, final)) :
    (∃ lanes, admitReservation H clock input invocation prepareUnsigned db =
          .ok (.stopped outcome.result lanes) ∧ Beside db final) ∨
      (outcome.result = .retry ∧ Beside db final ∧ ∃ pending lanes,
        admitReservation H clock input invocation prepareUnsigned db =
          .ok (.admitted pending lanes)) ∨
      ∃ pending lanes row, admitReservation H clock input invocation prepareUnsigned db =
          .ok (.admitted pending lanes) ∧
        LogKept db final ∧ Fences clock.observedAt pending row ∧
        (∀ other ∈ db.pendings, other.conversationId ≠ row.conversationId) ∧
        final.pendings = db.pendings ++ [row] ∧
        outcome.result = pendingResultFor H input.command pending .none clock.observedAt
          clock.observedAt := by
  unfold reserveApplicationAppendAtomically at h
  rw [Tx.get_bind] at h
  obtain ⟨admission, hadmission, h1⟩ := Tx.lift_bind_eq_ok.mp h
  cases admission with
  | stopped result lanes =>
    dsimp only at h1
    rw [Tx.modify_bind] at h1
    obtain ⟨rfl, rfl⟩ := Tx.pure_eq_ok.mp h1
    exact Or.inl ⟨lanes, hadmission, ⟨rfl, rfl, rfl, rfl, rfl, rfl, rfl⟩, rfl⟩
  | admitted pending lanes =>
    dsimp only at h1
    rw [Tx.modify_bind] at h1
    obtain ⟨completed, looped, hloop, h2⟩ := Tx.bind_eq_ok.mp h1
    have beside : Beside db looped := by
      refine Beside.trans ?_ (quotaLoop_beside hloop)
      exact ⟨⟨rfl, rfl, rfl, rfl, rfl, rfl, rfl⟩, rfl⟩
    cases completed with
    | false =>
      obtain ⟨rfl, rfl⟩ := Tx.pure_eq_ok.mp h2
      exact Or.inr (Or.inl ⟨rfl, beside, pending, lanes, hadmission⟩)
    | true =>
      obtain ⟨-, hresult, inserted, rows, hinserted, -, rfl⟩ := recordReservation_eq_ok h2
      obtain ⟨row, fences, hfresh, rfl⟩ := insertPending_eq_ok hinserted
      refine Or.inr (Or.inr ⟨pending, lanes, row, hadmission, ?_, fences, ?_, ?_, hresult⟩)
      · exact beside.toLogKept.trans ⟨rfl, rfl, rfl, rfl, rfl, rfl, rfl⟩
      · exact beside.pendings ▸ hfresh
      · dsimp only
        rw [beside.pendings]

theorem retire_eq_ok {input : RetireExpiredApplicationAppendInput}
    (h : retireExpiredApplicationAppendAtomically H checks clock input invocation db =
      .ok (outcome, final)) :
    (admitRetirement H checks clock input invocation db = .ok (.inl outcome.result) ∧
        final = db) ∨
      (outcome.result = .unavailable .malformedDependencyResponse ∧ Beside db final) ∨
      ∃ intentDigest conversationId, LogKept db final ∧
        final.pendings = (deletePending conversationId db).pendings ∧
        outcome.result = retiredResultFor H input.command intentDigest clock.observedAt
          clock.observedAt := by
  unfold retireExpiredApplicationAppendAtomically at h
  rw [Tx.get_bind] at h
  obtain ⟨reading, hreading, h1⟩ := Tx.lift_bind_eq_ok.mp h
  cases reading with
  | inl result =>
    obtain ⟨rfl, rfl⟩ := Tx.pure_eq_ok.mp h1
    exact Or.inl ⟨hreading, rfl⟩
  | inr admission =>
    obtain ⟨completed, looped, hloop, h2⟩ := Tx.bind_eq_ok.mp h1
    have beside := quotaLoop_beside hloop
    cases completed with
    | false =>
      obtain ⟨rfl, rfl⟩ := Tx.pure_eq_ok.mp h2
      exact Or.inr (Or.inl ⟨rfl, beside⟩)
    | true =>
      obtain ⟨snapshot, -, h3⟩ := Tx.lift_bind_eq_ok.mp h2
      rw [Tx.modify_bind] at h3
      obtain ⟨retired, hretired, h4⟩ := runStatement_bind_eq_ok.mp h3
      obtain ⟨⟨⟩, fenced, hfenced, h5⟩ := Tx.bind_eq_ok.mp h4
      obtain ⟨rfl, rfl⟩ := Tx.pure_eq_ok.mp h5
      obtain ⟨rows, -, hretired⟩ := bind_ok.mp hretired
      cases hretired
      have refreshed := refresh_beside hfenced
      refine Or.inr (Or.inr ⟨_, admission.pending.envelope.conversationId, ?_, ?_, rfl⟩)
      · refine beside.toLogKept.trans (LogKept.trans ?_ refreshed.toLogKept)
        exact ⟨rfl, rfl, rfl, rfl, rfl, rfl, rfl⟩
      · refine refreshed.pendings.trans ?_
        dsimp only [deletePending]
        rw [beside.pendings]

end

end JbChat.Store.AppendEffects
