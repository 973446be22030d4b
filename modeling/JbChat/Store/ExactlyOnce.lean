/- source: src/production/storage/postgresDeliveryStore.ts, src/production/delivery/service.ts
   digest: Interleaved attempts of clients store each envelope once and agree on where it stands. -/

import JbChat.Store.ClientExchange
import JbChat.Store.MembershipSafety

set_option autoImplicit false

namespace JbChat.Store.ExactlyOnce

open Foundation.HashTrace Foundation.Transaction Foundation.LengthPrefix Delivery.ValueObjects
open Delivery.Hashes Commands Documents Intents Tables AppendStore AppendRequests AppendReplays
open AppendEffects Preparation ClientExchange MembershipSafety Delivery.EnvelopeLog

section

variable (H : HashFunction) {found : Option AppendResult} {held : Held}

def contentDigest (command : AtomicApplicationAppendCommand) : Bytes :=
  computeApplicationEnvelopeSemanticIdentityDigest H command.semanticIdentity

def StoredOther (db : DeliveryDb) (command : AtomicApplicationAppendCommand) : Prop :=
  ∃ row ∈ db.acceptances, acceptanceKey row = keyOf command ∧
    contentDigest H (admittedBy row) ≠ contentDigest H command

def PendingOther (db : DeliveryDb) (command : AtomicApplicationAppendCommand) : Prop :=
  ∃ row ∈ db.pendings, keyOf row.pendingCanonical.admissionCommand = keyOf command ∧
    contentDigest H row.pendingCanonical.admissionCommand ≠ contentDigest H command

/-- The answer to a call that came too late. -/
def Late (live : Bool) (result : AppendResult) : Prop :=
  live = false ∧ result = .unavailable .timeout

variable {H} {readBody : BodyReader} {checks : DocumentChecks} {attempts : List Attempt}
  {db after : DeliveryDb} {clock : CallClock} {invocation : DeliveryInvocationContext}
  {command : AtomicApplicationAppendCommand}

theorem acceptedReplay_storedOther (kept : Kept H readBody attempts db)
    (safe : ¬ Collision H (attempts.flatMap (Attempt.hashed H readBody)))
    (issued : Issued H readBody attempts command) (other : StoredOther H db command)
    (h : lookupAcceptedReplay H db command clock = .ok found) :
    found = some .conflict := by
  obtain ⟨row, hrow, hkey, hdigest⟩ := other
  rcases acceptedReplay_sound kept safe issued h with
    ⟨-, hnone⟩ | hconflict | ⟨stored, hstored, replay, same, -⟩
  · exact absurd hkey (hnone row hrow)
  · exact hconflict
  · obtain rfl := row_of_key kept.acceptances hrow hstored (hkey.trans
      (same.key.symm.trans (kept.stored stored hstored).1.symm))
    exact absurd (congrArg (computeApplicationEnvelopeSemanticIdentityDigest H) same.identity)
      hdigest

theorem lane_of_key (kept : Kept H readBody attempts db) {row other : PendingRow}
    (hrow : row ∈ db.pendings) (hother : other ∈ db.pendings)
    (same : row.pendingCanonical.admissionCommand.conversationId =
      other.pendingCanonical.admissionCommand.conversationId) : row = other :=
  row_of_key kept.lanes hrow hother ((kept.fencing row hrow).conversationId.trans
    (same.trans (kept.fencing other hother).conversationId.symm))

theorem acceptedReplay_pendingOther (kept : Kept H readBody attempts db)
    (safe : ¬ Collision H (attempts.flatMap (Attempt.hashed H readBody)))
    (issued : Issued H readBody attempts command) (other : PendingOther H db command)
    (h : lookupAcceptedReplay H db command clock = .ok found) :
    found = none ∨ found = some .conflict := by
  obtain ⟨row, hrow, hkey, -⟩ := other
  rcases acceptedReplay_sound kept safe issued h with
    ⟨hnone, -⟩ | hconflict | ⟨stored, hstored, replay, same, -⟩
  · exact .inl hnone
  · exact .inr hconflict
  · exact absurd ((kept.stored stored hstored).1.trans (same.key.trans hkey.symm))
      ((kept.fencing row hrow).unaccepted stored hstored)

theorem pendingReplay_pendingOther (kept : Kept H readBody attempts db)
    (safe : ¬ Collision H (attempts.flatMap (Attempt.hashed H readBody)))
    (issued : Issued H readBody attempts command) (other : PendingOther H db command)
    {observedAt : String}
    (h : lookupPendingReplay H db command observedAt = .ok found) : found = some .conflict := by
  obtain ⟨row, hrow, hkey, hdigest⟩ := other
  obtain ⟨-, hconversation, henvelope⟩ := EnvelopeKey.mk.inj hkey
  rcases pendingReplay_sound kept safe issued h with
    ⟨-, hnone⟩ | hconflict | ⟨located, hlocated, pending, -, ⟨replay, same, -⟩ | ⟨blocking, -⟩⟩
  · exact absurd hkey (hnone row hrow)
  · exact hconflict
  · obtain rfl := lane_of_key kept hrow hlocated
      (hconversation.trans (EnvelopeKey.mk.inj same.key).2.1.symm)
    exact absurd (congrArg (computeApplicationEnvelopeSemanticIdentityDigest H) same.identity)
      hdigest
  · obtain rfl := lane_of_key kept hrow hlocated
      (hconversation.trans blocking.conversationId.symm)
    exact absurd henvelope blocking.envelopeId

theorem replayed_unlike (kept : Kept H readBody attempts db)
    (safe : ¬ Collision H (attempts.flatMap (Attempt.hashed H readBody)))
    (issued : Issued H readBody attempts command)
    (other : StoredOther H db command ∨ PendingOther H db command) {result : AppendResult}
    (replayed : Replayed H db command clock invocation result) :
    result = .conflict ∨ Late (invocationIsLive clock invocation) result := by
  have missing (missed : lookupAcceptedReplay H db command clock = .ok none)
      {found : Option AppendResult}
      (h : lookupPendingReplay H db command clock.observedAt = .ok found) :
      found = some .conflict := by
    rcases other with stored | pending
    · cases acceptedReplay_storedOther kept safe issued stored missed
    · exact pendingReplay_pendingOther kept safe issued pending h
  cases replayed with
  | late dead => exact .inr ⟨dead, rfl⟩
  | accepted found =>
    rcases other with stored | pending
    · exact .inl (Option.some.inj (acceptedReplay_storedOther kept safe issued stored found))
    · rcases acceptedReplay_pendingOther kept safe issued pending found with hnone | hconflict
      · cases hnone
      · exact .inl (Option.some.inj hconflict)
  | pending missed found => exact .inl (Option.some.inj (missing missed found))
  | fresh missed free plain => cases missing missed free

theorem contentDigest_of_intent {value another pending found : PendingApplicationAppendIntent}
    (parsed : parsePendingApplicationAppendIntent H value = .ok pending)
    (parsed' : parsePendingApplicationAppendIntent H another = .ok found)
    (safe : ¬ Collision H (intentHashed H value ++ intentHashed H another))
    (same : found.intentDigest = pending.intentDigest) :
    contentDigest H another.admissionCommand = contentDigest H value.admissionCommand := by
  have digested {value pending : PendingApplicationAppendIntent}
      (parsed : parsePendingApplicationAppendIntent H value = .ok pending) :
      ∃ reservationSetDigest, intentHashed H value = [intentInput H pending reservationSetDigest] ∧
        pending.intentDigest = H.digest (intentInput H pending reservationSetDigest) := by
    unfold intentHashed
    rw [parsed]
    obtain ⟨parts, post, hparts, -, htransition, rfl⟩ := parsePending_stages parsed
    have hdigest := (parseIntentTransition_eq_ok hparts htransition).digest
    obtain ⟨reservationSetDigest, hset, hdigest⟩ := bind_ok.mp hdigest
    dsimp only
    rw [hset]
    exact ⟨reservationSetDigest, rfl, (Except.ok.inj hdigest).symm⟩
  obtain ⟨set, hashed, digest⟩ := digested parsed
  obtain ⟨set', hashed', digest'⟩ := digested parsed'
  rw [hashed, hashed'] at safe
  have input := input_eq_of_digest_eq safe (List.mem_cons_of_mem _ List.mem_cons_self)
    List.mem_cons_self (digest'.symm.trans (same.trans digest))
  obtain ⟨identity, size⟩ := semanticDigest_of_parsed parsed
  obtain ⟨identity', size'⟩ := semanticDigest_of_parsed parsed'
  simp only [intentInput, List.flatten_cons, List.flatten_nil, List.append_nil] at input
  have fields := List.append_cancel_left input
  simp only [lengthPrefixed, List.flatMap_cons] at fields
  obtain ⟨-, fields⟩ := lengthPrefix_append_injective (sized_hash size') (sized_hash size) fields
  have hashSized (command : AtomicApplicationAppendCommand) :
      (computeApplicationEnvelopeSemanticIdentityDigest H command.semanticIdentity).length = 32 :=
    H.length_digest _
  obtain ⟨semantic, -⟩ := lengthPrefix_append_injective
    (sized_hash (identity' ▸ hashSized found.admissionCommand))
    (sized_hash (identity ▸ hashSized pending.admissionCommand)) fields
  unfold contentDigest
  rw [← command_of_parsed parsed, ← command_of_parsed parsed', ← identity, ← identity', semantic]

theorem located_unlike (kept : Kept H readBody attempts db)
    (content : SameContent held.command held.pending.admissionCommand) (safe : ∀ row ∈ db.pendings,
      ¬ Collision H (intentHashed H held.pending ++ intentHashed H row.pendingCanonical))
    (other : PendingOther H db held.command) {pending found : PendingApplicationAppendIntent}
    {reservedAt : String}
    (parsed : parsePendingApplicationAppendIntent H held.pending = .ok pending)
    (located : loadPending H db pending.envelope.conversationId = .ok (some (found, reservedAt)))
    (same : found.intentDigest = pending.intentDigest) : False := by
  obtain ⟨row, hrow, hkey, hdigest⟩ := other
  rcases loadPending_eq_ok located with
    ⟨hnone, -⟩ | ⟨fencing, hfencing, hconversation, again, hagain, hfound⟩
  · cases hnone
  · cases hfound
    have hlane : row.pendingCanonical.admissionCommand.conversationId =
        fencing.pendingCanonical.admissionCommand.conversationId := by
      rw [← (kept.fencing fencing hfencing).conversationId, hconversation,
        (inPlace_of_parsed parsed).conversationId, command_of_parsed parsed]
      exact (EnvelopeKey.mk.inj (hkey.trans content.key.symm)).2.1
    obtain rfl := lane_of_key kept hrow hfencing hlane
    refine hdigest ((contentDigest_of_intent parsed hagain (safe row hrow) same).trans ?_)
    unfold contentDigest
    rw [content.identity]

/-- A finalization for an attempt's own envelope does not accept it over other content. -/
theorem finalize_unlike (kept : Kept H readBody attempts db)
    (safe : ¬ Collision H (attempts.flatMap (Attempt.hashed H readBody)))
    (taken : TakenUp H readBody attempts held) (own : held.own = true)
    (told_apart : ∀ row ∈ db.pendings,
      ¬ Collision H (intentHashed H held.pending ++ intentHashed H row.pendingCanonical))
    {input : FinalizeApplicationAppendInput} (hcommand : input.command = held.command)
    (hpending : input.pendingIntent = held.pending) {outcome : Outcome}
    (h : finalizeApplicationAppendAtomically H checks clock input invocation db =
      .ok (outcome, after)) :
    (StoredOther H db held.command →
      outcome.result = .conflict ∨ Late (invocationIsLive clock invocation) outcome.result) ∧
    (PendingOther H db held.command → outcome.result = .conflict ∨
      Late (invocationIsLive clock invocation) outcome.result ∨ outcome.result = .retry) := by
  have content : SameContent held.command held.pending.admissionCommand := by
    rcases taken.concerns with content | ⟨drains, -⟩
    · exact content
    · rw [own] at drains
      cases drains
  have unmissed {clock : CallClock} (stored : StoredOther H db held.command)
      (missed : lookupAcceptedReplay H db held.command clock = .ok none) : False := by
    cases acceptedReplay_storedOther kept safe taken.issued stored missed
  rcases finalize_eq_ok h with ⟨hhalted, -⟩ | ⟨hretry, -, admitted, hadmitted⟩ |
    ⟨admitted, acceptance, same, replay, hadmitted, -, -⟩
  · have halted := admitFinalization_halted hhalted
    rw [hcommand, hpending] at halted
    generalize outcome.result = result at halted ⊢
    constructor
    · intro stored
      cases halted with
      | late dead => exact .inr ⟨dead, rfl⟩
      | accepted found =>
        exact .inl (Option.some.inj
          (acceptedReplay_storedOther kept safe taken.issued stored found))
      | detached missed _ _ | stale missed | stopped missed _ _ _ _ =>
          exact (unmissed stored missed).elim
    · intro pending
      cases halted with
      | late dead => exact .inr (.inl ⟨dead, rfl⟩)
      | accepted found =>
        rcases acceptedReplay_pendingOther kept safe taken.issued pending found with
          hnone | hconflict
        · cases hnone
        · exact .inl (Option.some.inj hconflict)
      | @detached row _ _ stored key =>
        obtain ⟨fencing, hfencing, hkey, -⟩ := pending
        exact absurd (key.trans (content.key.trans hkey.symm))
          ((kept.fencing fencing hfencing).unaccepted row stored)
      | stale missed => exact .inr (.inr rfl)
      | stopped _ parsed located same _ =>
        exact (located_unlike kept content told_apart pending parsed located same).elim
  · have missed := (admitFinalization_eq_ok hadmitted).notAccepted
    rw [hcommand] at missed
    exact ⟨fun stored => (unmissed stored missed).elim, fun _ => .inr (.inr hretry)⟩
  · have finalizable := admitFinalization_eq_ok hadmitted
    have missed := finalizable.notAccepted
    rw [hcommand] at missed
    have parsed := finalizable.pending
    rw [hpending] at parsed
    obtain ⟨found, reservedAt, located, same⟩ := finalizable.located
    exact ⟨fun stored => (unmissed stored missed).elim, fun pending =>
      (located_unlike kept content told_apart pending parsed located same).elim⟩

end

section

variable {H : HashFunction} {readBody : BodyReader} {checks : DocumentChecks} {start : Exchange}
  {answer : Answer}

theorem opened_sound {db : DeliveryDb} (unused : Unused db) : Sound H readBody (opened db) := by
  refine ⟨⟨unused.envelopes, ?_, ?_, ?_, ?_, ?_⟩, ?_, ?_, ?_⟩ <;> unfold opened <;> dsimp only
  · exact unused.acceptances ▸ List.nodup_nil
  · exact unused.acceptances ▸ List.forall_mem_nil _
  · exact unused.pendings ▸ List.nodup_nil
  · exact unused.pendings ▸ List.forall_mem_nil _
  · exact unused.httpIdempotency ▸ List.forall_mem_nil _
  · exact unused.pendings ▸ List.forall_mem_nil _
  · exact List.forall_mem_nil _
  · exact List.forall_mem_nil _

theorem exchanged_append (start : Exchange) (calls : List ClientCall) (last : ClientCall) :
    exchanged H readBody checks start (calls ++ [last]) =
      last.step H readBody checks (exchanged H readBody checks start calls) := by
  unfold exchanged
  rw [List.foldl_append, List.foldl_cons, List.foldl_nil]

theorem hashed_step (exchange : Exchange) (call : ClientCall) :
    exchange.hashed H readBody ⊆ (call.step H readBody checks exchange).hashed H readBody := by
  intro bytes hbytes
  unfold Exchange.hashed ClientCall.step at *
  dsimp only
  rw [List.flatMap_append, List.flatMap_append]
  rcases List.mem_append.mp hbytes with hattempt | hheld
  · exact List.mem_append_left _ (List.mem_append_left _ hattempt)
  · exact List.mem_append_right _ (List.mem_append_left _ hheld)

theorem attempts_hashed (exchange : Exchange) (call : ClientCall) :
    (exchange.attempts ++ call.attempt.toList).flatMap (Attempt.hashed H readBody) ⊆
      (call.step H readBody checks exchange).hashed H readBody :=
  List.subset_append_left _ _

theorem exchanged_sound (begun : Begun H readBody start) (calls : List ClientCall)
    (safe : ¬ Collision H ((exchanged H readBody checks start calls).hashed H readBody)) :
    Sound H readBody (exchanged H readBody checks start calls) := by
  induction calls using List.reverseRecOn with
  | nil =>
    obtain ⟨db, unused, rfl⟩ | sound := begun
    · exact opened_sound unused
    · exact sound
  | append_singleton calls last ih =>
    rw [exchanged_append] at safe ⊢
    have before := ih fun collision => safe (collision.mono (hashed_step _ last))
    exact before.step last fun collision => safe (collision.mono (attempts_hashed _ last))

theorem settled_eq_some {command : AtomicApplicationAppendCommand} {own : Bool} {call : AppendCall}
    {db : DeliveryDb} (h : answer ∈ (settled command own (call.run H checks db)).1) :
    ∃ outcome written, call.transaction H checks db = .ok (outcome, written) ∧
      answer = ⟨command, own, outcome.result⟩ := by
  rcases sqlBegin_cases (call.transaction H checks) db with
    ⟨outcome, written, htx, hrun⟩ | ⟨e, -, hrun⟩
  · simp only [AppendCall.run, settled, hrun, Except.toOption, Option.map_some,
      Option.mem_def, Option.some.injEq] at h
    exact ⟨outcome, written, htx, h.symm⟩
  · simp only [AppendCall.run, settled, hrun, Except.toOption] at h
    cases h

/-- The next answer about an attempt's own envelope accepts it over no other content. -/
theorem unlike_of_sound {exchange : Exchange} (sound : Sound H readBody exchange)
    (call : ClientCall)
    (safe : ¬ Collision H ((call.step H readBody checks exchange).hashed H readBody))
    (hanswer : answer ∈ (call.perform H readBody checks exchange).1) (own : answer.own = true) :
    (StoredOther H exchange.db answer.command →
      answer.result = .conflict ∨ Late call.isLive answer.result) ∧
    (PendingOther H exchange.db answer.command → answer.result = .conflict ∨
      Late call.isLive answer.result ∨ call.attempt = none ∧ answer.result = .retry) := by
  have made : ¬ Collision H ((exchange.attempts ++ call.attempt.toList).flatMap
      (Attempt.hashed H readBody)) :=
    fun collision => safe (collision.mono (attempts_hashed exchange call))
  have kept : Kept H readBody (exchange.attempts ++ call.attempt.toList) exchange.db :=
    sound.kept.mono (List.subset_append_left _ _)
  have asked {attempt : Attempt} {command : AtomicApplicationAppendCommand} {clock : CallClock}
      {invocation : DeliveryInvocationContext} {result : AppendResult}
      (hattempt : call.attempt = some attempt)
      (hcommand : attempt.command H readBody = .ok command)
      (replayed : Replayed H exchange.db command clock invocation result) :
      (StoredOther H exchange.db command →
        result = .conflict ∨ Late (invocationIsLive clock invocation) result) ∧
      (PendingOther H exchange.db command → result = .conflict ∨
        Late (invocationIsLive clock invocation) result ∨
        call.attempt = none ∧ result = .retry) := by
    have issued : Issued H readBody (exchange.attempts ++ call.attempt.toList) command :=
      ⟨attempt, List.mem_append_right _ (by rw [hattempt]; exact List.mem_singleton.mpr rfl),
        hcommand⟩
    refine ⟨fun stored => replayed_unlike kept made issued (.inl stored) replayed, fun pending => ?_⟩
    rcases replayed_unlike kept made issued (.inr pending) replayed with hconflict | hlate
    · exact .inl hconflict
    · exact .inr (.inl hlate)
  cases call with
  | preflight clock attempt invocation =>
    unfold ClientCall.perform at hanswer
    dsimp only at hanswer
    split at hanswer
    · cases hanswer
    · rename_i command hcommand
      split at hanswer
      · rename_i result hresult
        cases hanswer
        exact asked rfl hcommand (readPreflight_replayed hresult)
      · cases hanswer
  | reserve clock attempt request invocation =>
    unfold ClientCall.perform at hanswer
    dsimp only at hanswer
    split at hanswer
    · cases hanswer
    · rename_i command hcommand
      obtain ⟨outcome, written, htx, rfl⟩ := settled_eq_some hanswer
      have unasked {pending : PendingApplicationAppendIntent} {lanes : List SequenceRow}
          (hadmitted : admitReservation H clock (requestFor command request).reservation invocation
            (preparing H (requestFor command request)) exchange.db =
              .ok (.admitted pending lanes)) :
          ¬ (StoredOther H exchange.db command ∨ PendingOther H exchange.db command) := by
        obtain ⟨missed, free, -⟩ := admitReservation_replayed hadmitted
        have passed : Replayed H exchange.db command clock invocation .retry :=
          .fresh missed free trivial
        rintro (stored | pending)
        · rcases (asked rfl hcommand passed).1 stored with h | ⟨-, h⟩ <;> cases h
        · rcases (asked rfl hcommand passed).2 pending with h | ⟨-, h⟩ | ⟨h, -⟩ <;> cases h
      rcases reserve_eq_ok htx with ⟨lanes, hstopped, -⟩ | ⟨-, -, pending, lanes, hadmitted⟩ |
        ⟨pending, lanes, row, hadmitted, -⟩
      · exact asked rfl hcommand (admitReservation_replayed hstopped)
      · exact ⟨fun stored => (unasked hadmitted (.inl stored)).elim,
          fun pending => (unasked hadmitted (.inr pending)).elim⟩
      · exact ⟨fun stored => (unasked hadmitted (.inl stored)).elim,
          fun pending => (unasked hadmitted (.inr pending)).elim⟩
  | finalize clock index input invocation =>
    unfold ClientCall.perform at hanswer
    dsimp only at hanswer
    split at hanswer
    · cases hanswer
    · rename_i held hheld
      obtain ⟨outcome, written, htx, rfl⟩ := settled_eq_some hanswer
      have hmem := List.mem_of_getElem? hheld
      have told_apart : ∀ row ∈ exchange.db.pendings,
          ¬ Collision H (intentHashed H held.pending ++ intentHashed H row.pendingCanonical) := by
        intro row hrow collision
        obtain ⟨fencing, hfencing, hpending⟩ := sound.fenced row hrow
        refine safe (collision.mono fun bytes hbytes => hashed_step _ _ ?_)
        rw [← hpending] at hbytes
        refine List.mem_append_right _ ?_
        rcases List.mem_append.mp hbytes with hbytes | hbytes
        · exact List.mem_flatMap.mpr ⟨held, hmem, hbytes⟩
        · exact List.mem_flatMap.mpr ⟨fencing, hfencing, hbytes⟩
      obtain ⟨stored, pending⟩ := finalize_unlike kept made
        ((sound.takenUp held hmem).mono (List.subset_append_left _ _)) own told_apart rfl rfl htx
      refine ⟨stored, fun other => ?_⟩
      rcases pending other with hconflict | hlate | hretry
      · exact .inl hconflict
      · exact .inr (.inl hlate)
      · exact .inr (.inr ⟨rfl, hretry⟩)
  | retire clock index input invocation =>
    unfold ClientCall.perform at hanswer
    dsimp only at hanswer
    split at hanswer <;> cases hanswer

/-- Interleaved attempts store each envelope once, agree on where it stands, hand out their own
content only, and hear of other content as a conflict, unless they are late. A finalization may
also be sent back when its lane has gone to other content. -/
theorem append_exactly_once (begun : Begun H readBody start) (calls : List ClientCall)
    (last : ClientCall)
    (safe : ¬ Collision H ((exchanged H readBody checks start (calls ++ [last])).hashed
      H readBody)) :
    let before := exchanged H readBody checks start calls
    let after := exchanged H readBody checks start (calls ++ [last])
    (after.db.envelopes.map fun row => (row.conversationId, row.envelopeId)).Nodup ∧
    (after.db.acceptances.map acceptanceKey).Nodup ∧
    (∀ row ∈ after.db.acceptances, acceptanceKey row = keyOf (admittedBy row) ∧
      envelopeRow row.acceptanceCanonical.envelope ∈ after.db.envelopes) ∧
    (∀ first ∈ after.answers, ∀ second ∈ after.answers,
      ∀ one ∈ first.acceptance, ∀ other ∈ second.acceptance,
        keyOf one.acceptedIntent.admissionCommand = keyOf other.acceptedIntent.admissionCommand →
        one.envelope.position = other.envelope.position ∧
          one.envelope.headHash = other.envelope.headHash) ∧
    (∀ answer ∈ after.answers, answer.own = true → ∀ admitted ∈ answer.admitted,
      SameContent answer.command admitted) ∧
    (∀ answer ∈ (last.perform H readBody checks before).1, answer.own = true →
      (StoredOther H before.db answer.command →
        answer.result = .conflict ∨ Late last.isLive answer.result) ∧
      (PendingOther H before.db answer.command → answer.result = .conflict ∨
        Late last.isLive answer.result ∨ last.attempt = none ∧ answer.result = .retry)) := by
  intro before after
  have sound := exchanged_sound begun (calls ++ [last]) safe
  refine ⟨sound.kept.envelopes, sound.kept.acceptances, sound.kept.stored, ?_, ?_, ?_⟩
  · intro first hfirst second hsecond one hone other hother same
    obtain ⟨row, hrow, rfl⟩ := sound.acceptance_stored hfirst hone
    obtain ⟨row', hrow', rfl⟩ := sound.acceptance_stored hsecond hother
    obtain rfl := row_of_key sound.kept.acceptances hrow hrow'
      ((sound.kept.stored row hrow).1.trans (same.trans (sound.kept.stored row' hrow').1.symm))
    exact ⟨rfl, rfl⟩
  · exact fun answer hanswer own admitted hadmitted => sound.admitted_same hanswer own hadmitted
  · intro answer hanswer own
    rw [exchanged_append] at safe
    have prior : Sound H readBody before := exchanged_sound begun calls
      fun collision => safe (collision.mono (hashed_step before last))
    exact unlike_of_sound prior last safe hanswer own

end

section

variable (H : HashFunction)

def storedEnvelope : StoredApplicationEnvelope where
  conversationId := "00000000-0000-4000-8000-0000000000c1"
  position := 5
  envelopeId := "00000000-0000-4000-8000-0000000000e1"
  envelopeBytes := [7]
  envelopeSha256 := computeEnvelopeSha256 H [7]
  epoch := 1
  rosterVersion := 1
  sender := sampleSender
  receivedAt := "2026-08-14T16:19:00.000Z"
  leafHash := List.replicate 32 5
  previousHeadHash := List.replicate 32 6
  headHash := List.replicate 32 7
  logSigningKeyId := "log-1"
  logCheckpointDigest := List.replicate 32 8
  logHeadSignature := List.replicate 64 1

/-- The key of the attempt that was accepted. -/
def firstKey : String := "0190a0a0-0000-7000-8000-000000000001"

def laterKey : String := "0190a0a0-0000-7000-8000-000000000002"

theorem firstKey_valid : isUuidV7 firstKey = true := rfl

theorem laterKey_valid : isUuidV7 laterKey = true := rfl

def storedRow : AcceptanceRow where
  realmId := "realm"
  conversationId := (storedEnvelope H).conversationId
  envelopeId := (storedEnvelope H).envelopeId
  position := 5
  intentDigest := List.replicate 32 9
  admissionCommandDigest := computeAtomicApplicationAppendCommandDigest H
    (sampleCommand H 7 firstKey)
  semanticIdentityDigest := contentDigest H (sampleCommand H 7 firstKey)
  acceptanceCanonical :=
    { acceptedIntent := ⟨sampleCommand H 7 firstKey, List.replicate 32 9, ""⟩
      envelope := storedEnvelope H
      signatureEvidence := ⟨"2026-08-14T16:19:00.000Z", ""⟩
      signerFenceEvidence := ⟨"2026-08-14T16:19:00.000Z", ""⟩
      fanoutEvidence := ""
      finalizedAt := "2026-08-14T16:19:00.000Z" }
  finalizedAt := "2026-08-14T16:19:00.000Z"

def sampleAttempt (byte : UInt8) (key : String) : Attempt :=
  ⟨sampleTrust H, sampleRequest byte key⟩

/-- One envelope is stored, and its idempotency key has been forgotten. -/
def stored : Exchange :=
  ⟨{ sampleDb with
      acceptances := [storedRow H]
      envelopes := [envelopeRow (storedEnvelope H)] }, [sampleAttempt H 7 firstKey], [], []⟩

/-- An attempt at the stored envelope, with one byte of content. -/
def sampleCall (byte : UInt8) (key : String) (aborted : Bool) : ClientCall :=
  .preflight ⟨"2026-08-14T16:20:00.000Z", "2026-08-14T16:20:00.000Z", "2026-08-14T16:20:00.000Z",
    []⟩ (sampleAttempt H byte key) ⟨"2026-08-14T16:20:05.000Z", aborted⟩

variable {H} {checks : DocumentChecks} {byte : UInt8} {key : String}

theorem stored_sound : Sound H (sampleReader H) (stored H) where
  kept :=
    { envelopes := List.nodup_singleton _
      acceptances := List.nodup_singleton _
      stored := List.forall_mem_singleton.mpr ⟨rfl, List.mem_singleton_self _⟩
      lanes := List.nodup_nil
      fencing := List.forall_mem_nil _
      backed := List.forall_mem_nil _ }
  fenced := List.forall_mem_nil _
  takenUp := List.forall_mem_nil _
  told := List.forall_mem_nil _

theorem lookup_stored (byte : UInt8) (key : String) (clock : CallClock) :
    lookupAcceptedReplay H (stored H).db (sampleCommand H byte key) clock =
      .ok (some (if sampleIdentity H 7 = sampleIdentity H byte then
        acceptedResultFor H (sampleCommand H byte key) (storedRow H).acceptanceCanonical .envelope
          clock.observedAt
      else .conflict)) := by
  have missed : httpReplayRows H (stored H).db (sampleCommand H byte key) clock.lookedUpAt = [] :=
    rfl
  have found : loadAcceptanceBySemanticIdentity (stored H).db (sampleCommand H byte key).realmId
      (sampleCommand H byte key).semanticIdentity.conversationId
      (sampleCommand H byte key).semanticIdentity.append.envelopeId =
        some (storedRow H).acceptanceCanonical :=
    rfl
  have compared : applicationEnvelopeSemanticallyEqual H (sampleIdentity H 7)
      (sampleIdentity H byte) = .ok (decide (sampleIdentity H 7 = sampleIdentity H byte)) :=
    bind_ok.mpr ⟨_, sampleIdentity_parses H, bind_ok.mpr ⟨_, sampleIdentity_parses H, rfl⟩⟩
  unfold lookupAcceptedReplay
  rw [missed]
  dsimp only
  rw [found]
  refine bind_ok.mpr ⟨_, compared, ?_⟩
  simp only [decide_eq_true_eq]

/-- The answer of the stored row to a later attempt. -/
def storedResult (H : HashFunction) (byte : UInt8) (key : String) : AppendResult :=
  if sampleIdentity H 7 = sampleIdentity H byte then
    acceptedResultFor H (sampleCommand H byte key) (storedRow H).acceptanceCanonical .envelope
      "2026-08-14T16:20:00.000Z"
  else .conflict

theorem perform_sampleCall (exchange : Exchange) (hkey : isUuidV7 key = true)
    (hdb : exchange.db = (stored H).db) :
    (sampleCall H byte key false).perform H (sampleReader H) checks exchange =
      (some ⟨sampleCommand H byte key, true, storedResult H byte key⟩, exchange.db) := by
  have hcommand : (sampleAttempt H byte key).command H (sampleReader H) =
      .ok (sampleCommand H byte key) := sampleCommand_of_request H hkey
  have hread : readPreflight H ⟨"2026-08-14T16:20:00.000Z", "2026-08-14T16:20:00.000Z",
      "2026-08-14T16:20:00.000Z", []⟩ (sampleCommand H byte key) ⟨"2026-08-14T16:20:05.000Z", false⟩
      exchange.db = .ok (.inl (storedResult H byte key)) := by
    unfold readPreflight
    rw [if_neg (by decide +kernel), hdb]
    refine bind_ok.mpr ⟨_, sampleCommand_parses H hkey, ?_⟩
    exact bind_ok.mpr ⟨_, lookup_stored byte key _, rfl⟩
  unfold ClientCall.perform sampleCall
  dsimp only
  rw [hcommand]
  dsimp only
  rw [hread]

theorem step_sampleCall (exchange : Exchange) (hkey : isUuidV7 key = true)
    (hdb : exchange.db = (stored H).db) :
    (sampleCall H byte key false).step H (sampleReader H) checks exchange =
      { exchange with
        attempts := exchange.attempts ++ [sampleAttempt H byte key]
        answers := exchange.answers ++
          [⟨sampleCommand H byte key, true, storedResult H byte key⟩] } := by
  have quiet : takenUp ⟨sampleCommand H byte key, true, storedResult H byte key⟩ = [] := by
    unfold takenUp storedResult
    split_ifs <;> rfl
  unfold ClientCall.step
  rw [perform_sampleCall exchange hkey hdb]
  dsimp only [Option.toList_some]
  rw [List.flatMap_singleton, quiet, List.append_nil]
  rfl

theorem exchanged_sampleCall (exchange : Exchange) (calls : List ClientCall)
    (hkey : isUuidV7 key = true) (hdb : exchange.db = (stored H).db) :
    exchanged H (sampleReader H) checks exchange (sampleCall H byte key false :: calls) =
      exchanged H (sampleReader H) checks { exchange with
        attempts := exchange.attempts ++ [sampleAttempt H byte key]
        answers := exchange.answers ++
          [⟨sampleCommand H byte key, true, storedResult H byte key⟩] } calls := by
  unfold exchanged
  rw [List.foldl_cons, step_sampleCall exchange hkey hdb]

theorem hashed_sampleAttempt (hkey : isUuidV7 key = true) :
    Attempt.hashed H (sampleReader H) (sampleAttempt H byte key) =
      [commitmentInput (sampleRequest byte firstKey).request,
        utf8 (httpIdempotencyScopeKey (sampleCommand H 7 key))] := by
  have hcommand : (sampleAttempt H byte key).command H (sampleReader H) =
      .ok (sampleCommand H byte key) := sampleCommand_of_request H hkey
  unfold Attempt.hashed
  rw [hcommand]
  rfl

def lenientChecks : DocumentChecks :=
  ⟨fun _ _ => .ok (), fun _ _ => .ok (), fun _ _ => .ok (), fun _ _ => .ok (), fun _ _ => .ok (),
    fun _ _ => .ok (), fun _ _ => .ok "", fun _ _ => .ok ""⟩

/-- A hash of the sum of the bytes. -/
def summingHash : HashFunction where
  digest input :=
    let sum := (input.map UInt8.toNat).sum
    sum.toUInt8 :: (sum / 256).toUInt8 :: List.replicate 30 1
  length_digest _ := by simp

def sampleInputs : List Bytes :=
  [commitmentInput (sampleRequest 7 firstKey).request,
    utf8 (httpIdempotencyScopeKey (sampleCommand summingHash 7 firstKey)),
    utf8 (httpIdempotencyScopeKey (sampleCommand summingHash 7 laterKey)),
    commitmentInput (sampleRequest 8 firstKey).request]

theorem sampleInputs_safe : ¬ Collision summingHash sampleInputs := by
  have apart : (sampleInputs.map summingHash.digest).Nodup := by decide +kernel
  rintro ⟨one, hone, other, hother, hne, same⟩
  exact hne (List.inj_on_of_nodup_map apart hone hother same)

theorem stored_other : StoredOther summingHash (stored summingHash).db
    (sampleCommand summingHash 8 firstKey) :=
  ⟨_, List.mem_singleton_self _, rfl, by decide +kernel⟩

/-- A retry of the stored envelope, and what comes after it. -/
def retried (calls : List ClientCall) : Exchange :=
  exchanged summingHash (sampleReader summingHash) lenientChecks (stored summingHash)
    (sampleCall summingHash 7 laterKey false :: calls)

def otherCall (aborted : Bool) : ClientCall := sampleCall summingHash 8 firstKey aborted

theorem retried_db : (retried []).db = (stored summingHash).db := by
  unfold retried
  rw [exchanged_sampleCall (stored summingHash) [] laterKey_valid rfl]
  rfl

theorem retried_safe :
    ¬ Collision summingHash ((retried [otherCall false]).hashed summingHash
      (sampleReader summingHash)) := by
  have made : (retried [otherCall false]).attempts = [sampleAttempt summingHash 7 firstKey,
      sampleAttempt summingHash 7 laterKey, sampleAttempt summingHash 8 firstKey] :=
    congrArg Exchange.attempts ((exchanged_sampleCall (stored summingHash) _ laterKey_valid rfl).trans
      (exchanged_sampleCall _ [] firstKey_valid rfl))
  have idle : (retried [otherCall false]).held = [] :=
    congrArg Exchange.held ((exchanged_sampleCall (stored summingHash) _ laterKey_valid rfl).trans
      (exchanged_sampleCall _ [] firstKey_valid rfl))
  refine fun collision => sampleInputs_safe (collision.mono ?_)
  unfold Exchange.hashed
  rw [made, idle]
  simp only [List.flatMap_cons, List.flatMap_nil, List.append_nil, hashed_sampleAttempt firstKey_valid,
    hashed_sampleAttempt laterKey_valid, List.cons_append, List.nil_append, List.cons_subset,
    List.nil_subset, and_true]
  exact ⟨.head _, .tail _ (.head _), .head _, .tail _ (.tail _ (.head _)),
    .tail _ (.tail _ (.tail _ (.head _))), .tail _ (.head _)⟩

/-- An attempt at other content under the first key hears of a conflict, also after a retry has been
answered with the stored envelope. -/
theorem append_exactly_once_stored :
    ∃ answer ∈ ((otherCall false).perform summingHash (sampleReader summingHash) lenientChecks
      (retried [])).1, StoredOther summingHash (retried []).db answer.command ∧
        answer.result = .conflict := by
  have answered : ((otherCall false).perform summingHash (sampleReader summingHash) lenientChecks
      (retried [])).1 = some ⟨sampleCommand summingHash 8 firstKey, true,
        storedResult summingHash 8 firstKey⟩ :=
    congrArg Prod.fst (perform_sampleCall (retried []) firstKey_valid retried_db)
  have other : StoredOther summingHash (retried []).db (sampleCommand summingHash 8 firstKey) := by
    rw [retried_db]
    exact stored_other
  refine ⟨_, answered, other, ?_⟩
  obtain ⟨-, -, -, -, -, unlike⟩ := append_exactly_once (.inr stored_sound)
    [sampleCall summingHash 7 laterKey false] (otherCall false) retried_safe
  obtain ⟨hstored, -⟩ := unlike _ answered rfl
  rcases hstored other with hconflict | ⟨dead, -⟩
  · exact hconflict
  · exact absurd dead (by decide +kernel)

/-- An attempt at other content is answered with a timeout once it has been aborted. -/
theorem aborted_attempt_hears_no_conflict :
    Begun summingHash (sampleReader summingHash) (stored summingHash) ∧
      StoredOther summingHash (stored summingHash).db (sampleCommand summingHash 8 firstKey) ∧
      ((otherCall true).perform summingHash (sampleReader summingHash) lenientChecks
        (stored summingHash)).1 =
          some ⟨sampleCommand summingHash 8 firstKey, true, .unavailable .timeout⟩ := by
  have hcommand : (sampleAttempt summingHash 8 firstKey).command summingHash
      (sampleReader summingHash) = .ok (sampleCommand summingHash 8 firstKey) :=
    sampleCommand_of_request summingHash firstKey_valid
  refine ⟨.inr stored_sound, stored_other, ?_⟩
  unfold ClientCall.perform otherCall sampleCall
  dsimp only
  rw [hcommand]
  rfl

end

end JbChat.Store.ExactlyOnce
