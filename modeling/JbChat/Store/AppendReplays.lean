/- source: src/production/storage/postgresDeliveryStore.ts, src/production/delivery/service.ts
   digest: Where the calls of the append lane stop, and what they have looked up by then. -/

import JbChat.Store.AppendEffects
import JbChat.Store.AppendRequests

set_option autoImplicit false

namespace JbChat.Store.AppendReplays

open Foundation.HashTrace Foundation.Transaction Delivery.QuotaRules
open Delivery.SnapshotParse Commands Documents Intents Tables AppendStore AppendRequests Preparation

section

/-- `(realm_id, conversation_id, envelope_id)` -/
structure EnvelopeKey where
  realmId : String
  conversationId : String
  envelopeId : String

def keyOf (command : AtomicApplicationAppendCommand) : EnvelopeKey :=
  ⟨command.realmId, command.conversationId, command.semanticIdentity.append.envelopeId⟩

def acceptanceKey (row : AcceptanceRow) : EnvelopeKey :=
  ⟨row.realmId, row.conversationId, row.envelopeId⟩

def idempotencyKey (row : HttpIdempotencyRow) : EnvelopeKey :=
  ⟨row.realmId, row.conversationId, row.envelopeId⟩

def admittedBy (row : AcceptanceRow) : AtomicApplicationAppendCommand :=
  row.acceptanceCanonical.acceptedIntent.admissionCommand

variable {H : HashFunction}

theorem semanticallyEqual_eq_ok {left right : ApplicationEnvelopeSemanticIdentity} {same : Bool}
    (h : applicationEnvelopeSemanticallyEqual H left right = .ok same) :
    same = decide (left = right) := by
  obtain ⟨first, hfirst, h1⟩ := bind_ok.mp h
  obtain ⟨second, hsecond, h2⟩ := bind_ok.mp h1
  obtain rfl := (checked_eq_ok.mp hfirst).2
  obtain rfl := (checked_eq_ok.mp hsecond).2
  exact (Except.ok.inj h2).symm

theorem command_of_parsed {value pending : PendingApplicationAppendIntent}
    (h : parsePendingApplicationAppendIntent H value = .ok pending) :
    pending.admissionCommand = value.admissionCommand := by
  obtain ⟨parts, post, hparts, -, -, rfl⟩ := parsePending_stages h
  exact hparts.command

theorem loadPending_eq_ok {db : DeliveryDb} {conversationId : String}
    {located : Option (PendingApplicationAppendIntent × String)}
    (h : loadPending H db conversationId = .ok located) :
    (located = none ∧ ∀ row ∈ db.pendings, row.conversationId ≠ conversationId) ∨
      ∃ row ∈ db.pendings, row.conversationId = conversationId ∧ ∃ pending,
        parsePendingApplicationAppendIntent H row.pendingCanonical = .ok pending ∧
        located = some (pending, row.reservedAt) := by
  unfold loadPending at h
  split at h
  · rename_i hnone
    exact .inl ⟨(Except.ok.inj h).symm, fun row hrow hsame =>
      List.find?_eq_none.mp hnone row hrow (decide_eq_true hsame)⟩
  · rename_i row hfound
    have hselected := List.find?_some hfound
    obtain ⟨pending, hpending, hloaded⟩ := bind_ok.mp h
    exact .inr ⟨row, List.mem_of_find?_eq_some hfound, of_decide_eq_true hselected, pending,
      hpending, (Except.ok.inj hloaded).symm⟩

theorem semanticDigest_of_parsed {value pending : PendingApplicationAppendIntent}
    (h : parsePendingApplicationAppendIntent H value = .ok pending) :
    pending.semanticIdentityDigest = computeApplicationEnvelopeSemanticIdentityDigest H
        pending.admissionCommand.semanticIdentity ∧
      pending.admissionCommandDigest.length = 32 := by
  obtain ⟨parts, post, hparts, -, -, rfl⟩ := parsePending_stages h
  obtain ⟨command, hcommand, h1⟩ := bind_ok.mp hparts.digests
  obtain ⟨digest, hdigest, h2⟩ := bind_ok.mp h1
  obtain ⟨-, h3⟩ := refuse_bind_eq_ok.mp h2
  obtain ⟨identityDigest, -, h4⟩ := bind_ok.mp h3
  have hidentity := refuse_eq_ok.mp h4
  rw [not_not, (checked_eq_ok.mp hcommand).2] at hidentity
  dsimp only
  rw [hparts.semanticIdentityDigest, hparts.command, hparts.commandDigest]
  exact ⟨hidentity, (checkHash32_eq_ok.mp hdigest).1⟩

end

section

variable {H : HashFunction} {db : DeliveryDb} {clock : CallClock}
  {command : AtomicApplicationAppendCommand}

/-- The results that no record of the lane stands behind. -/
def Recordless : AppendResult → Prop
  | .accepted .. | .pending .. | .blockedByPending .. => False
  | _ => True

/-- How a call answers that looks for replays first. -/
inductive Replayed (H : HashFunction) (db : DeliveryDb) (command : AtomicApplicationAppendCommand)
    (clock : CallClock) (invocation : DeliveryInvocationContext) : AppendResult → Prop where
  | late (dead : invocationIsLive clock invocation = false) :
      Replayed H db command clock invocation (.unavailable .timeout)
  | accepted {result : AppendResult} (found : lookupAcceptedReplay H db command clock =
      .ok (some result)) : Replayed H db command clock invocation result
  | pending {result : AppendResult} (missed : lookupAcceptedReplay H db command clock = .ok none)
      (found : lookupPendingReplay H db command clock.observedAt = .ok (some result)) :
      Replayed H db command clock invocation result
  | fresh {result : AppendResult} (missed : lookupAcceptedReplay H db command clock = .ok none)
      (free : lookupPendingReplay H db command clock.observedAt = .ok none)
      (plain : Recordless result) : Replayed H db command clock invocation result

theorem readPreflight_replayed {invocation : DeliveryInvocationContext} {result : AppendResult}
    (h : readPreflight H clock command invocation db = .ok (.inl result)) :
    Replayed H db command clock invocation result := by
  unfold readPreflight at h
  split at h
  · next dead =>
    cases h
    exact .late (eq_false_of_ne_true dead)
  · obtain ⟨parsed, -, h1⟩ := bind_ok.mp h
    obtain ⟨accepted, haccepted, h2⟩ := bind_ok.mp h1
    cases accepted with
    | some other =>
      cases h2
      exact .accepted haccepted
    | none =>
      obtain ⟨replay, hreplay, h3⟩ := bind_ok.mp h2
      cases replay with
      | some other =>
        cases h3
        exact .pending haccepted hreplay
      | none =>
        obtain ⟨authority, -, h4⟩ := bind_ok.mp h3
        cases authority with
        | none =>
          cases h4
          exact .fresh haccepted hreplay trivial
        | some authority =>
          dsimp only at h4
          split at h4
          · cases h4
            exact .fresh haccepted hreplay trivial
          · split at h4
            · cases h4
            · cases h4
              exact .fresh haccepted hreplay trivial

end

section

variable {H : HashFunction} {db : DeliveryDb} {clock : CallClock}
  {input : AtomicApplicationAppendReservation} {invocation : DeliveryInvocationContext}
  {request : PreparationRequest} {context : ReserveTransactionContext}
  {pending : PendingApplicationAppendIntent}

theorem prepareUnsigned_command
    (h : prepareUnsignedApplicationAppend H request context = .ok (.ready pending)) :
    pending.admissionCommand = request.reservation.command := by
  obtain ⟨parsed, -, h1⟩ := bind_ok.mp h
  cases hclock : request.clockNow with
  | error reasonCode =>
    rw [hclock] at h1
    cases h1
  | ok completedAt =>
    rw [hclock] at h1
    dsimp only at h1
    unfold prepareIntent at h1
    dsimp only at h1
    split at h1
    · cases h1
    · obtain ⟨authorizationDigest, -, h2⟩ := bind_ok.mp h1
      obtain ⟨snapshotDigest, -, h3⟩ := bind_ok.mp h2
      split at h3
      · cases h3
      · split at h3
        · cases h3
        · obtain ⟨expectation, -, h4⟩ := bind_ok.mp h3
          split at h4
          · cases h4
          · obtain ⟨⟨⟩, -, h5⟩ := bind_ok.mp h4
            obtain ⟨proof, -, h6⟩ := bind_ok.mp h5
            obtain ⟨⟨⟩, -, h7⟩ := bind_ok.mp h6
            obtain ⟨envelope, -, h8⟩ := bind_ok.mp h7
            split at h8
            · cases h8
            · obtain ⟨finished, hfinished, h9⟩ := bind_ok.mp h8
              obtain rfl := PreparedApplicationAppend.ready.inj (Except.ok.inj h9)
              obtain ⟨reservations, -, h10⟩ := bind_ok.mp hfinished
              obtain ⟨projection, -, h11⟩ := bind_ok.mp h10
              obtain ⟨quotas, -, h12⟩ := bind_ok.mp h11
              obtain ⟨value, hvalue, h13⟩ := bind_ok.mp h12
              rw [command_of_parsed h13]
              obtain ⟨digest, -, h14⟩ := bind_ok.mp hvalue
              obtain ⟨intentDigest, -, h15⟩ := bind_ok.mp h14
              cases h15
              rfl

theorem parsePrepared_command
    (h : parsePreparedApplicationAppend H (preparing H request context) = .ok (.ready pending)) :
    pending.admissionCommand = request.reservation.command ∧
      ∃ value, parsePendingApplicationAppendIntent H value = .ok pending := by
  unfold preparing at h
  split at h
  · rename_i prepared hprepared
    cases prepared with
    | unavailable reasonCode => cases h
    | rejected reasonCode => cases h
    | ready value =>
      obtain ⟨parsed, hparsed, h1⟩ := bind_ok.mp h
      obtain rfl := PreparedApplicationAppend.ready.inj (Except.ok.inj h1)
      exact ⟨(command_of_parsed hparsed).trans (prepareUnsigned_command hprepared), value, hparsed⟩
  · cases h

theorem readReservation_replayed {reading : AppendResult ⊕ ReserveContext}
    (h : readReservation H clock input invocation db = .ok reading) :
    match reading with
    | .inl result => Replayed H db input.command clock invocation result
    | .inr _ => lookupAcceptedReplay H db input.command clock = .ok none ∧
        lookupPendingReplay H db input.command clock.observedAt = .ok none := by
  unfold readReservation at h
  split at h
  · next dead =>
    cases h
    exact .late (eq_false_of_ne_true dead)
  · obtain ⟨parsed, -, h1⟩ := bind_ok.mp h
    obtain ⟨startedAt, -, h2⟩ := bind_ok.mp h1
    obtain ⟨authority, -, h3⟩ := bind_ok.mp h2
    obtain ⟨accepted, haccepted, h4⟩ := bind_ok.mp h3
    cases accepted with
    | some result =>
      cases h4
      exact .accepted haccepted
    | none =>
      obtain ⟨replay, hreplay, h5⟩ := bind_ok.mp h4
      cases replay with
      | some result =>
        cases h5
        exact .pending haccepted hreplay
      | none =>
        have stops {result : AppendResult} (plain : Recordless result) :
            Replayed H db input.command clock invocation result := .fresh haccepted hreplay plain
        cases authority with
        | none =>
          cases h5
          exact stops trivial
        | some authority =>
          dsimp only at h5
          split at h5
          · cases h5
            exact stops trivial
          · obtain ⟨expectedDigest, -, h6⟩ := bind_ok.mp h5
            split at h6
            · cases h6
              exact stops trivial
            · split at h6
              · cases h6
                exact stops trivial
              · split at h6
                · obtain ⟨wire, -, h7⟩ := bind_ok.mp h6
                  obtain ⟨policy, -, h8⟩ := bind_ok.mp h7
                  obtain ⟨overlaid, -, h9⟩ := bind_ok.mp h8
                  obtain ⟨expected, -, h10⟩ := bind_ok.mp h9
                  obtain ⟨digest, -, h11⟩ := bind_ok.mp h10
                  split at h11
                  · cases h11
                    exact stops trivial
                  · cases h11
                    exact ⟨haccepted, hreplay⟩
                · cases h6
                  exact stops trivial

theorem admitReservation_replayed {admission : ReserveAdmission}
    (h : admitReservation H clock request.reservation invocation (preparing H request) db =
      .ok admission) :
    match admission with
    | .stopped result _ => Replayed H db request.reservation.command clock invocation result
    | .admitted pending _ =>
      lookupAcceptedReplay H db request.reservation.command clock = .ok none ∧
      lookupPendingReplay H db request.reservation.command clock.observedAt = .ok none ∧
      pending.admissionCommand = request.reservation.command ∧
      ∃ value, parsePendingApplicationAppendIntent H value = .ok pending := by
  obtain ⟨reading, hreading, h1⟩ := bind_ok.mp h
  have replayed := readReservation_replayed hreading
  cases reading with
  | inl result =>
    cases h1
    exact replayed
  | inr context =>
    obtain ⟨missed, free⟩ := replayed
    obtain ⟨⟨generation, advanced⟩, -, h2⟩ := bind_ok.mp h1
    obtain ⟨fence, -, h3⟩ := bind_ok.mp h2
    obtain ⟨prepared, hprepared, h4⟩ := bind_ok.mp h3
    cases prepared with
    | unavailable reasonCode =>
      cases h4
      exact .fresh missed free trivial
    | rejected reasonCode =>
      cases h4
      exact .fresh missed free trivial
    | ready pending =>
      dsimp only at h4
      split at h4
      · cases h4
        exact ⟨missed, free, parsePrepared_command hprepared⟩
      · cases h4

end

section

variable {H : HashFunction} {checks : DocumentChecks} {db : DeliveryDb} {clock : CallClock}
  {input : FinalizeApplicationAppendInput} {invocation : DeliveryInvocationContext}
  {result : AppendResult}

/-- How a finalization stops before its quota loop. -/
inductive Halted (H : HashFunction) (db : DeliveryDb) (command : AtomicApplicationAppendCommand)
    (value : PendingApplicationAppendIntent) (clock : CallClock)
    (invocation : DeliveryInvocationContext) : AppendResult → Prop where
  | late (dead : invocationIsLive clock invocation = false) :
      Halted H db command value clock invocation (.unavailable .timeout)
  | accepted {result : AppendResult} (found : lookupAcceptedReplay H db command clock =
      .ok (some result)) : Halted H db command value clock invocation result
  | detached {row : AcceptanceRow} {replay : ReplayKind}
      (missed : lookupAcceptedReplay H db command clock = .ok none)
      (stored : row ∈ db.acceptances) (key : acceptanceKey row = keyOf value.admissionCommand) :
      Halted H db command value clock invocation
        (acceptedResultFor H command row.acceptanceCanonical replay clock.observedAt)
  | stale (missed : lookupAcceptedReplay H db command clock = .ok none) :
      Halted H db command value clock invocation .retry
  | stopped {result : AppendResult} {pending found : PendingApplicationAppendIntent}
      {reservedAt : String} (missed : lookupAcceptedReplay H db command clock = .ok none)
      (parsed : parsePendingApplicationAppendIntent H value = .ok pending)
      (located : loadPending H db pending.envelope.conversationId = .ok (some (found, reservedAt)))
      (same : found.intentDigest = pending.intentDigest) (plain : Recordless result) :
      Halted H db command value clock invocation result

theorem detachedResult_halted {command : AtomicApplicationAppendCommand}
    {value pending : PendingApplicationAppendIntent}
    (missed : lookupAcceptedReplay H db command clock = .ok none)
    (hcommand : pending.admissionCommand = value.admissionCommand)
    (h : detachedResult H db command pending clock.observedAt = .ok result) :
    Halted H db command value clock invocation result := by
  unfold detachedResult at h
  dsimp only at h
  split at h
  · rename_i acceptance hsome
    obtain ⟨row, hfound, rfl⟩ := Option.map_eq_some_iff.mp hsome
    have hselected := List.find?_some hfound
    obtain ⟨realmId, conversationId, envelopeId⟩ := of_decide_eq_true hselected
    split at h
    · obtain ⟨replay, -, h1⟩ := bind_ok.mp h
      cases h1
      refine .detached missed (List.mem_of_find?_eq_some hfound) ?_
      rw [← hcommand]
      unfold acceptanceKey keyOf
      rw [realmId, conversationId, envelopeId]
    · cases h
      exact .stale missed
  · cases h
    exact .stale missed

theorem admitFinalization_halted
    (h : admitFinalization H checks clock input invocation db = .ok (.inl result)) :
    Halted H db input.command input.pendingIntent clock invocation result := by
  unfold admitFinalization at h
  split at h
  · next dead =>
    cases h
    exact .late (eq_false_of_ne_true dead)
  · obtain ⟨command, -, h1⟩ := bind_ok.mp h
    obtain ⟨pending, hpending, h2⟩ := bind_ok.mp h1
    obtain ⟨reading, hreading, h3⟩ := bind_ok.mp h2
    cases reading with
    | inr context =>
      obtain ⟨quotas, -, h4⟩ := bind_ok.mp h3
      cases h4
    | inl other =>
      cases h3
      unfold readFinalization at hreading
      obtain ⟨authority, -, h4⟩ := bind_ok.mp hreading
      obtain ⟨accepted, haccepted, h5⟩ := bind_ok.mp h4
      cases accepted with
      | some found =>
        cases h5
        exact .accepted haccepted
      | none =>
        dsimp only at h5
        obtain ⟨located, hlocated, h6⟩ := bind_ok.mp h5
        split at h6
        · obtain ⟨detached, hdetached, h7⟩ := bind_ok.mp h6
          cases h7
          exact detachedResult_halted haccepted (command_of_parsed hpending) hdetached
        · rename_i hsame
          rw [not_not] at hsame
          obtain ⟨⟨found, reservedAt⟩, rfl, hfound⟩ := Option.map_eq_some_iff.mp hsame
          have stops {result : AppendResult} (plain : Recordless result) :
              Halted H db input.command input.pendingIntent clock invocation result :=
            .stopped haccepted hpending hlocated hfound plain
          cases authority with
          | none =>
            cases h6
            exact stops trivial
          | some authority =>
            dsimp only at h6
            obtain ⟨inputFence, -, h7⟩ := bind_ok.mp h6
            obtain ⟨plan, -, h8⟩ := bind_ok.mp h7
            obtain ⟨intentDigest, -, h9⟩ := bind_ok.mp h8
            split at h9
            · cases h9
              exact stops trivial
            · obtain ⟨pendingExpiresAt, -, h10⟩ := bind_ok.mp h9
              split at h10
              · cases h10
                exact stops trivial
              · obtain ⟨signature, -, h11⟩ := bind_ok.mp h10
                obtain ⟨⟨⟩, -, h12⟩ := bind_ok.mp h11
                split at h12
                · cases h12
                  exact stops trivial
                · obtain ⟨⟨⟩, -, h13⟩ := bind_ok.mp h12
                  obtain ⟨⟨⟩, -, h14⟩ := bind_ok.mp h13
                  obtain ⟨⟨⟩, -, h15⟩ := bind_ok.mp h14
                  split at h15
                  · cases h15
                    exact stops trivial
                  · split at h15
                    · cases h15
                      exact stops trivial
                    · cases h15

end

end JbChat.Store.AppendReplays
