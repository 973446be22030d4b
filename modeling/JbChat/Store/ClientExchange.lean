/- source: src/production/delivery/service.ts, src/production/storage/postgresDeliveryStore.ts
   digest: Interleaved attempts of clients on the append lane, and what each call keeps of it. -/

import JbChat.Store.AppendReplays

/-!
An attempt goes on with the intent that its preflight or its reservation was answered with,
also when that intent belongs to another attempt. Retries are further attempts.
-/

set_option autoImplicit false

namespace JbChat.Store.ClientExchange

open Foundation.HashTrace Foundation.Transaction Foundation.LengthPrefix Delivery.ValueObjects
open Delivery.Hashes Commands Documents Intents Tables AppendStore AppendRequests AppendReplays
open AppendEffects Preparation

section

variable (H : HashFunction) (readBody : BodyReader) (checks : DocumentChecks)

/-- One request, and the release that its service runs. -/
structure Attempt where
  trustContext : ApplicationEnvelopeDeliveryTrustContext
  request : AppendApplicationEnvelopeRequest

def Attempt.command (attempt : Attempt) : Except Failure AtomicApplicationAppendCommand :=
  commandOf H readBody attempt.trustContext attempt.request

/-- An intent that an attempt goes on with: its own, or one that blocks the lane. -/
structure Held where
  command : AtomicApplicationAppendCommand
  own : Bool
  pending : PendingApplicationAppendIntent

/-- What a call resolved to for an attempt, about its own envelope or about a blocking one. -/
structure Answer where
  command : AtomicApplicationAppendCommand
  own : Bool
  result : AppendResult

structure Exchange where
  db : DeliveryDb
  attempts : List Attempt
  held : List Held
  answers : List Answer

/-- A call of a service. A finalization or a retirement names the intent it goes on with. -/
inductive ClientCall where
  | preflight (clock : CallClock) (attempt : Attempt) (invocation : DeliveryInvocationContext)
  | reserve (clock : CallClock) (attempt : Attempt) (request : PreparationRequest)
      (invocation : DeliveryInvocationContext)
  | finalize (clock : CallClock) (index : Nat) (input : FinalizeApplicationAppendInput)
      (invocation : DeliveryInvocationContext)
  | retire (clock : CallClock) (index : Nat) (input : RetireExpiredApplicationAppendInput)
      (invocation : DeliveryInvocationContext)

def ClientCall.attempt : ClientCall → Option Attempt
  | .preflight _ attempt _ => some attempt
  | .reserve _ attempt _ _ => some attempt
  | _ => none

/-- The invocation of the call has not been aborted, and its deadline has not passed. -/
def ClientCall.isLive : ClientCall → Bool
  | .preflight clock _ invocation | .reserve clock _ _ invocation | .finalize clock _ _ invocation
  | .retire clock _ _ invocation => invocationIsLive clock invocation

def requestFor (command : AtomicApplicationAppendCommand) (request : PreparationRequest) :
    PreparationRequest :=
  { request with reservation := { request.reservation with command := command } }

/-- The answer to a call, unless it was thrown. -/
def settled (command : AtomicApplicationAppendCommand) (own : Bool)
    (ran : Except Failure Outcome × DeliveryDb) : Option Answer × DeliveryDb :=
  (ran.1.toOption.map fun outcome => ⟨command, own, outcome.result⟩, ran.2)

/-- What a call resolves to, and the database after it. A retirement answers no attempt. -/
def ClientCall.perform (call : ClientCall) (exchange : Exchange) : Option Answer × DeliveryDb :=
  match call with
  | .preflight clock attempt invocation =>
    match attempt.command H readBody with
    | .error _ => (none, exchange.db)
    | .ok command =>
      match readPreflight H clock command invocation exchange.db with
      | .ok (.inl result) => (some ⟨command, true, result⟩, exchange.db)
      | _ => (none, exchange.db)
  | .reserve clock attempt request invocation =>
    match attempt.command H readBody with
    | .error _ => (none, exchange.db)
    | .ok command =>
      let request := requestFor command request
      settled command true (AppendCall.run H checks
        (.reserve clock request.reservation invocation (preparing H request)) exchange.db)
  | .finalize clock index input invocation =>
    match exchange.held[index]? with
    | none => (none, exchange.db)
    | some held =>
      settled held.command held.own (AppendCall.run H checks (.finalize clock
        { input with command := held.command, pendingIntent := held.pending } invocation)
        exchange.db)
  | .retire clock index input invocation =>
    match exchange.held[index]? with
    | none => (none, exchange.db)
    | some held =>
      (none, (AppendCall.run H checks (.retire clock
        { input with command := held.command, pendingIntent := held.pending } invocation)
        exchange.db).2)

/-- The intent that an attempt goes on with after its answer. -/
def takenUp (answer : Answer) : List Held :=
  match answer.result with
  | .pending _ _ pending _ _ => [⟨answer.command, true, pending⟩]
  | .blockedByPending _ pending _ _ => [⟨answer.command, false, pending⟩]
  | _ => []

def ClientCall.step (call : ClientCall) (exchange : Exchange) : Exchange :=
  let answer := (call.perform H readBody checks exchange).1.toList
  { db := (call.perform H readBody checks exchange).2
    attempts := exchange.attempts ++ call.attempt.toList
    held := exchange.held ++ answer.flatMap takenUp
    answers := exchange.answers ++ answer }

def opened (db : DeliveryDb) : Exchange := ⟨db, [], [], []⟩

/-- The exchange after the calls, in their order. -/
def exchanged (start : Exchange) (calls : List ClientCall) : Exchange :=
  calls.foldl (fun exchange call => call.step H readBody checks exchange) start

def Attempt.hashed (attempt : Attempt) : List Bytes :=
  match attempt.command H readBody with
  | .ok command => [commitmentInput attempt.request.request, utf8 (httpIdempotencyScopeKey command)]
  | .error _ => []

def intentInput (pending : PendingApplicationAppendIntent) (reservationSetDigest : Bytes) : Bytes :=
  [utf8 pendingIntentDigestDomain,
    lengthPrefixed [pending.admissionCommandDigest, pending.semanticIdentityDigest,
      pending.preparationDigest, reservationSetDigest, pending.fanoutPlan.planDigest,
      utf8 pending.reservationFence.generation.repr, fenceTokenHashOf H pending.reservationFence,
      utf8 pending.pendingExpiresAt]].flatten

/-- What an intent is told apart by, when it is accepted as one. -/
def intentHashed (value : PendingApplicationAppendIntent) : List Bytes :=
  match parsePendingApplicationAppendIntent H value with
  | .error _ => []
  | .ok pending =>
    match computeApplicationAppendQuotaReservationSetDigest H
        pending.commitProjection.quotaCapacityReservations with
    | .ok reservationSetDigest => [intentInput H pending reservationSetDigest]
    | .error _ => []

/-- The byte strings among which no two may share a digest. -/
def Exchange.hashed (exchange : Exchange) : List Bytes :=
  exchange.attempts.flatMap (Attempt.hashed H readBody) ++
    exchange.held.flatMap fun held => intentHashed H held.pending

end

section

/-- No append has been made yet. -/
structure Unused (db : DeliveryDb) : Prop where
  acceptances : db.acceptances = []
  pendings : db.pendings = []
  httpIdempotency : db.httpIdempotency = []
  envelopes : (db.envelopes.map fun row => (row.conversationId, row.envelopeId)).Nodup

variable (H : HashFunction) (readBody : BodyReader)

/-- The command of a request that was made. -/
def Issued (attempts : List Attempt) (command : AtomicApplicationAppendCommand) : Prop :=
  ∃ attempt ∈ attempts, attempt.command H readBody = .ok command

/-- The admitted command names the envelope and the content of the other one. -/
structure SameContent (command admitted : AtomicApplicationAppendCommand) : Prop where
  key : keyOf admitted = keyOf command
  identity : admitted.semanticIdentity = command.semanticIdentity

structure OtherEnvelope (command admitted : AtomicApplicationAppendCommand) : Prop where
  realmId : admitted.realmId = command.realmId
  conversationId : admitted.conversationId = command.conversationId
  envelopeId : admitted.semanticIdentity.append.envelopeId ≠
    command.semanticIdentity.append.envelopeId

/-- Only an attempt that drains the lane is told of an envelope that is not its own. -/
def Concerns (own : Bool) (command admitted : AtomicApplicationAppendCommand) : Prop :=
  SameContent command admitted ∨ own = false ∧ OtherEnvelope command admitted

structure Backed (attempts : List Attempt) (acceptances : List AcceptanceRow)
    (row : HttpIdempotencyRow) : Prop where
  command : ∃ command, Issued H readBody attempts command ∧
    row.httpScopeHash = httpScopeHash H command ∧
    row.requestCommitment = command.requestCommitment ∧ idempotencyKey row = keyOf command ∧
    ∃ stored ∈ acceptances, SameContent command (admittedBy stored)

/-- A lane is fenced by an intent of a request, for an envelope that is not accepted. -/
structure Fencing (attempts : List Attempt) (acceptances : List AcceptanceRow) (row : PendingRow) :
    Prop where
  conversationId : row.conversationId = row.pendingCanonical.admissionCommand.conversationId
  issued : Issued H readBody attempts row.pendingCanonical.admissionCommand
  unaccepted : ∀ stored ∈ acceptances,
    acceptanceKey stored ≠ keyOf row.pendingCanonical.admissionCommand

/-- What the tables of the lane hold of the attempts. -/
structure Kept (attempts : List Attempt) (db : DeliveryDb) : Prop where
  envelopes : (db.envelopes.map fun row => (row.conversationId, row.envelopeId)).Nodup
  acceptances : (db.acceptances.map acceptanceKey).Nodup
  stored : ∀ row ∈ db.acceptances, acceptanceKey row = keyOf (admittedBy row) ∧
    envelopeRow row.acceptanceCanonical.envelope ∈ db.envelopes
  lanes : (db.pendings.map PendingRow.conversationId).Nodup
  fencing : ∀ row ∈ db.pendings, Fencing H readBody attempts db.acceptances row
  backed : ∀ row ∈ db.httpIdempotency, Backed H readBody attempts db.acceptances row

/-- An answer tells of what is stored or pending. -/
def Told (attempts : List Attempt) (db : DeliveryDb) (answer : Answer) : Prop :=
  match answer.result with
  | .accepted _ _ acceptance _ => ∃ row ∈ db.acceptances, row.acceptanceCanonical = acceptance ∧
      Concerns answer.own answer.command (admittedBy row)
  | .pending _ _ pending _ _ => Issued H readBody attempts pending.admissionCommand ∧
      SameContent answer.command pending.admissionCommand
  | .blockedByPending _ pending _ _ => Issued H readBody attempts pending.admissionCommand ∧
      OtherEnvelope answer.command pending.admissionCommand
  | _ => True

/-- An attempt goes on with an intent that concerns it. -/
structure TakenUp (attempts : List Attempt) (held : Held) : Prop where
  issued : Issued H readBody attempts held.command
  admitted : Issued H readBody attempts held.pending.admissionCommand
  concerns : Concerns held.own held.command held.pending.admissionCommand

/-- What every interleaving keeps. -/
structure Sound (exchange : Exchange) : Prop where
  kept : Kept H readBody exchange.attempts exchange.db
  fenced : ∀ row ∈ exchange.db.pendings, ∃ held ∈ exchange.held,
    held.pending = row.pendingCanonical
  takenUp : ∀ held ∈ exchange.held, TakenUp H readBody exchange.attempts held
  told : ∀ answer ∈ exchange.answers, Told H readBody exchange.attempts exchange.db answer

/-- No append has been made, or the attempts so far have left what every interleaving keeps. -/
def Begun (start : Exchange) : Prop :=
  (∃ db, Unused db ∧ start = opened db) ∨ Sound H readBody start

end

section

variable {H : HashFunction} {readBody : BodyReader} {attempts more : List Attempt}
  {db : DeliveryDb} {clock : CallClock} {command other : AtomicApplicationAppendCommand}
  {found : Option AppendResult}

theorem Issued.mono (sub : attempts ⊆ more) (issued : Issued H readBody attempts command) :
    Issued H readBody more command := by
  obtain ⟨attempt, hattempt, hcommand⟩ := issued
  exact ⟨attempt, sub hattempt, hcommand⟩

theorem Kept.mono (sub : attempts ⊆ more) (kept : Kept H readBody attempts db) :
    Kept H readBody more db where
  envelopes := kept.envelopes
  acceptances := kept.acceptances
  stored := kept.stored
  lanes := kept.lanes
  fencing := fun row hrow => ⟨(kept.fencing row hrow).conversationId,
    (kept.fencing row hrow).issued.mono sub, (kept.fencing row hrow).unaccepted⟩
  backed := by
    intro row hrow
    obtain ⟨command, issued, facts⟩ := (kept.backed row hrow).command
    exact ⟨command, issued.mono sub, facts⟩

theorem sameContent_of_commitment (safe : ¬ Collision H (attempts.flatMap (Attempt.hashed H readBody)))
    (issued : Issued H readBody attempts command) (issued' : Issued H readBody attempts other)
    (scope : httpIdempotencyScopeKey command = httpIdempotencyScopeKey other)
    (commitment : command.requestCommitment = other.requestCommitment) :
    SameContent command other := by
  obtain ⟨attempt, hattempt, hcommand⟩ := issued
  obtain ⟨another, hanother, hother⟩ := issued'
  have hsub : [commitmentInput attempt.request.request, commitmentInput another.request.request] ⊆
      attempts.flatMap (Attempt.hashed H readBody) := by
    have mem {attempt : Attempt} {command : AtomicApplicationAppendCommand}
        (hattempt : attempt ∈ attempts) (hcommand : attempt.command H readBody = .ok command) :
        commitmentInput attempt.request.request ∈
          attempts.flatMap (Attempt.hashed H readBody) := by
      refine List.mem_flatMap.mpr ⟨attempt, hattempt, ?_⟩
      unfold Attempt.hashed
      rw [hcommand]
      exact List.mem_cons_self
    simp only [List.cons_subset, List.nil_subset, and_true]
    exact ⟨mem hattempt hcommand, mem hanother hother⟩
  obtain ⟨realmId, identity⟩ := sameRequest_of_commitment (commandOf_eq_ok hcommand)
    (commandOf_eq_ok hother) (fun collision => safe (collision.mono hsub)) scope commitment
  refine ⟨?_, identity.symm⟩
  unfold keyOf AtomicApplicationAppendCommand.conversationId
  rw [realmId, identity]

theorem scopeKey_of_hash (safe : ¬ Collision H (attempts.flatMap (Attempt.hashed H readBody)))
    (issued : Issued H readBody attempts command) (issued' : Issued H readBody attempts other)
    (same : httpScopeHash H command = httpScopeHash H other) :
    httpIdempotencyScopeKey command = httpIdempotencyScopeKey other := by
  have mem {command : AtomicApplicationAppendCommand} (issued : Issued H readBody attempts command) :
      utf8 (httpIdempotencyScopeKey command) ∈ attempts.flatMap (Attempt.hashed H readBody) := by
    obtain ⟨attempt, hattempt, hcommand⟩ := issued
    refine List.mem_flatMap.mpr ⟨attempt, hattempt, ?_⟩
    unfold Attempt.hashed
    rw [hcommand]
    exact List.mem_cons_of_mem _ List.mem_cons_self
  simp only [httpScopeHash, sha256Bytes, List.flatten_cons, List.flatten_nil,
    List.append_nil] at same
  exact utf8_injective (input_eq_of_digest_eq safe (mem issued) (mem issued') same)

theorem row_of_key {α κ : Type} {key : α → κ} {rows : List α} (nodup : (rows.map key).Nodup)
    {first second : α} (hfirst : first ∈ rows) (hsecond : second ∈ rows)
    (same : key first = key second) : first = second :=
  List.inj_on_of_nodup_map nodup hfirst hsecond same

/-- The lookup of an accepted envelope finds nothing, a conflict, or what the command agrees. -/
theorem acceptedReplay_sound (kept : Kept H readBody attempts db)
    (safe : ¬ Collision H (attempts.flatMap (Attempt.hashed H readBody)))
    (issued : Issued H readBody attempts command)
    (h : lookupAcceptedReplay H db command clock = .ok found) :
    (found = none ∧ ∀ row ∈ db.acceptances, acceptanceKey row ≠ keyOf command) ∨
      found = some .conflict ∨
      ∃ row ∈ db.acceptances, ∃ replay, SameContent command (admittedBy row) ∧
        found = some (acceptedResultFor H command row.acceptanceCanonical replay
          clock.observedAt) := by
  unfold lookupAcceptedReplay at h
  split at h
  · rename_i row acceptance others hrows
    have hmem : (row, acceptance) ∈ httpReplayRows H db command clock.lookedUpAt :=
      hrows ▸ List.mem_cons_self
    obtain ⟨again, hrow, hjoined⟩ := List.mem_flatMap.mp hmem
    obtain ⟨joined, hacceptance, hpair⟩ := List.mem_map.mp hjoined
    obtain ⟨rfl, rfl⟩ := Prod.mk.inj hpair
    obtain ⟨hrow, hscope⟩ := List.mem_filter.mp hrow
    obtain ⟨hacceptance, hkey⟩ := List.mem_filter.mp hacceptance
    have hscope := of_decide_eq_true hscope
    have hkey := of_decide_eq_true hkey
    split at h
    · exact .inr (.inl (Except.ok.inj h).symm)
    · rename_i hcommitment
      rw [not_not] at hcommitment
      obtain ⟨other, issued', hash, commitment, named, stored, hstored, agrees⟩ :=
        (kept.backed again hrow).command
      have scope := scopeKey_of_hash safe issued issued' (hscope.1.symm.trans hash)
      have same := sameContent_of_commitment safe issued issued' scope
        (hcommitment.symm.trans commitment)
      obtain rfl : stored = joined := by
        refine row_of_key kept.acceptances hstored hacceptance ?_
        rw [(kept.stored stored hstored).1, agrees.key, ← named]
        exact (EnvelopeKey.mk.injEq .. ▸ hkey : acceptanceKey joined = idempotencyKey again).symm
      refine .inr (.inr ⟨stored, hstored, .http, ⟨agrees.key.trans same.key,
        agrees.identity.trans same.identity⟩, (Except.ok.inj h).symm⟩)
  · dsimp only at h
    unfold loadAcceptanceBySemanticIdentity at h
    split at h
    · rename_i hnone
      refine .inl ⟨(Except.ok.inj h).symm, ?_⟩
      intro row hrow hkey
      obtain ⟨realmId, conversationId, envelopeId⟩ := EnvelopeKey.mk.inj hkey
      have hmissing := List.find?_eq_none.mp (Option.map_eq_none_iff.mp hnone) row hrow
      exact hmissing (decide_eq_true ⟨realmId, conversationId, envelopeId⟩)
    · rename_i acceptance hsome
      obtain ⟨row, hfound, rfl⟩ := Option.map_eq_some_iff.mp hsome
      have hrow := List.mem_of_find?_eq_some hfound
      have hkey : acceptanceKey row = keyOf command := by
        have hselected := List.find?_some hfound
        obtain ⟨realmId, conversationId, envelopeId⟩ := of_decide_eq_true hselected
        unfold acceptanceKey keyOf
        rw [realmId, conversationId, envelopeId]
        rfl
      obtain ⟨same, hsame, h1⟩ := bind_ok.mp h
      have hsame := semanticallyEqual_eq_ok hsame
      cases h1
      cases same with
      | false => exact .inr (.inl rfl)
      | true =>
        refine .inr (.inr ⟨row, hrow, .envelope, ⟨?_, of_decide_eq_true hsame.symm⟩, rfl⟩)
        rw [← (kept.stored row hrow).1, hkey]

theorem pendingReplay_sound (kept : Kept H readBody attempts db)
    (safe : ¬ Collision H (attempts.flatMap (Attempt.hashed H readBody)))
    (issued : Issued H readBody attempts command) {observedAt : String}
    (h : lookupPendingReplay H db command observedAt = .ok found) :
    (found = none ∧ ∀ row ∈ db.pendings,
        keyOf row.pendingCanonical.admissionCommand ≠ keyOf command) ∨
      found = some .conflict ∨
      ∃ row ∈ db.pendings, ∃ pending,
        parsePendingApplicationAppendIntent H row.pendingCanonical = .ok pending ∧
        ((∃ replay, SameContent command row.pendingCanonical.admissionCommand ∧
            found = some (pendingResultFor H command pending replay row.reservedAt observedAt)) ∨
          OtherEnvelope command row.pendingCanonical.admissionCommand ∧
            found = some (blockedByPendingResultFor H command pending row.reservedAt
              observedAt)) := by
  have lane {row : PendingRow} (hrow : row ∈ db.pendings)
      (hkey : keyOf row.pendingCanonical.admissionCommand = keyOf command) :
      row.conversationId = command.conversationId :=
    (kept.fencing row hrow).conversationId.trans (EnvelopeKey.mk.inj hkey).2.1
  obtain ⟨located, hlocated, h1⟩ := bind_ok.mp h
  rcases loadPending_eq_ok hlocated with
    ⟨rfl, hfree⟩ | ⟨row, hrow, hconversation, pending, hpending, rfl⟩
  · exact .inl ⟨(Except.ok.inj h1).symm, fun row hrow hkey => hfree row hrow (lane hrow hkey)⟩
  · have hcommand := command_of_parsed hpending
    have fencing := kept.fencing row hrow
    dsimp only at h1
    rw [hcommand] at h1
    split at h1
    · rename_i hscope
      split at h1
      · exact .inr (.inl (Except.ok.inj h1).symm)
      · rename_i hcommitment
        rw [not_not] at hcommitment
        have same := sameContent_of_commitment safe issued fencing.issued hscope.symm
          hcommitment.symm
        exact .inr (.inr ⟨row, hrow, pending, hpending,
          .inl ⟨.http, same, (Except.ok.inj h1).symm⟩⟩)
    · split at h1
      · rename_i hkey
        obtain ⟨same, hsame, h2⟩ := bind_ok.mp h1
        have hsame := semanticallyEqual_eq_ok hsame
        cases h2
        cases same with
        | false => exact .inr (.inl rfl)
        | true =>
          refine .inr (.inr ⟨row, hrow, pending, hpending,
            .inl ⟨.envelope, ⟨?_, of_decide_eq_true hsame.symm⟩, rfl⟩⟩)
          unfold keyOf
          rw [hkey.1, hkey.2.1, hkey.2.2]
      · rename_i hkey
        split at h1
        · rename_i hconversations
          refine .inr (.inr ⟨row, hrow, pending, hpending,
            .inr ⟨⟨hconversations.1, hconversations.2, ?_⟩, (Except.ok.inj h1).symm⟩⟩)
          exact fun henvelope => hkey ⟨hconversations.1, hconversations.2, henvelope⟩
        · rename_i hrealm
          refine .inl ⟨(Except.ok.inj h1).symm, fun other hother hother' => ?_⟩
          obtain rfl := row_of_key kept.lanes hother hrow
            ((lane hother hother').trans hconversation.symm)
          exact hrealm ⟨(EnvelopeKey.mk.inj hother').1, (EnvelopeKey.mk.inj hother').2.1⟩

theorem told_of_replayed (kept : Kept H readBody attempts db)
    (safe : ¬ Collision H (attempts.flatMap (Attempt.hashed H readBody)))
    (issued : Issued H readBody attempts command) {invocation : DeliveryInvocationContext}
    {result : AppendResult} (replayed : Replayed H db command clock invocation result) :
    Told H readBody attempts db ⟨command, true, result⟩ := by
  cases replayed with
  | late _ => trivial
  | accepted found =>
    rcases acceptedReplay_sound kept safe issued found with
      ⟨hnone, -⟩ | hconflict | ⟨row, hrow, replay, same, hresult⟩
    · cases hnone
    · cases hconflict
      trivial
    · cases hresult
      exact ⟨row, hrow, rfl, .inl same⟩
  | pending missed found =>
    rcases pendingReplay_sound kept safe issued found with
      ⟨hnone, -⟩ | hconflict | ⟨row, hrow, pending, hpending, ⟨replay, same, hresult⟩ |
        ⟨other, hresult⟩⟩
    · cases hnone
    · cases hconflict
      trivial
    · cases hresult
      refine ⟨?_, ?_⟩
      · rw [command_of_parsed hpending]
        exact (kept.fencing row hrow).issued
      · rw [command_of_parsed hpending]
        exact same
    · cases hresult
      refine ⟨?_, ?_⟩
      · rw [command_of_parsed hpending]
        exact (kept.fencing row hrow).issued
      · rw [command_of_parsed hpending]
        exact other
  | fresh missed free plain =>
    cases result <;> trivial

end

section

variable {H : HashFunction} {readBody : BodyReader} {checks : DocumentChecks}
  {attempts more : List Attempt} {db after : DeliveryDb} {observedAt : String}
  {row : HttpIdempotencyRow}

theorem Kept.of_logKept (kept : Kept H readBody attempts db) (log : LogKept db after)
    (lanes : (after.pendings.map PendingRow.conversationId).Nodup)
    (fencing : ∀ row ∈ after.pendings, Fencing H readBody attempts db.acceptances row) :
    Kept H readBody attempts after where
  envelopes := log.envelopes ▸ kept.envelopes
  acceptances := log.acceptances ▸ kept.acceptances
  stored := by
    rw [log.acceptances, log.envelopes]
    exact kept.stored
  lanes := lanes
  fencing := by
    rw [log.acceptances]
    exact fencing
  backed := by
    rw [log.acceptances, log.httpIdempotency]
    exact kept.backed

theorem Kept.of_beside (kept : Kept H readBody attempts db) (beside : Beside db after) :
    Kept H readBody attempts after :=
  kept.of_logKept beside.toLogKept (beside.pendings ▸ kept.lanes)
    (beside.pendings ▸ kept.fencing)

theorem Kept.fence (kept : Kept H readBody attempts db) (log : LogKept db after)
    {pending : PendingApplicationAppendIntent} {row : PendingRow}
    (fences : Fences observedAt pending row)
    (free : ∀ other ∈ db.pendings, other.conversationId ≠ row.conversationId)
    (added : after.pendings = db.pendings ++ [row])
    (parsed : ∃ value, parsePendingApplicationAppendIntent H value = .ok pending)
    (issued : Issued H readBody attempts pending.admissionCommand)
    (unaccepted : ∀ stored ∈ db.acceptances, acceptanceKey stored ≠ keyOf pending.admissionCommand) :
    Kept H readBody attempts after := by
  obtain ⟨value, hparsed⟩ := parsed
  refine kept.of_logKept log ?_ ?_
  · rw [added, List.map_append, List.nodup_append]
    refine ⟨kept.lanes, List.nodup_singleton _, ?_⟩
    intro conversationId hconversation other hother
    obtain ⟨before, hbefore, rfl⟩ := List.mem_map.mp hconversation
    rw [List.map_singleton, List.mem_singleton] at hother
    exact hother ▸ free before hbefore
  · rw [added, List.forall_mem_append]
    refine ⟨kept.fencing, ?_⟩
    rw [List.forall_mem_singleton]
    refine ⟨?_, ?_, ?_⟩ <;> rw [fences.pending]
    · exact fences.conversationId.trans (inPlace_of_parsed hparsed).conversationId
    · exact issued
    · exact unaccepted

theorem Kept.free (kept : Kept H readBody attempts db) (log : LogKept db after)
    {conversationId : String} (freed : after.pendings = (deletePending conversationId db).pendings) :
    Kept H readBody attempts after := by
  refine kept.of_logKept log ?_ ?_
  · rw [freed]
    exact kept.lanes.sublist (List.filter_sublist.map _)
  · rw [freed]
    exact fun row hrow => kept.fencing row (List.mem_of_mem_filter hrow)

theorem insertMissing_mem {α κ : Type} [DecidableEq κ] {key : α → κ} {row other : α}
    {rows : List α} (h : other ∈ insertMissing key row rows) : other ∈ rows ∨ other = row := by
  unfold insertMissing at h
  split at h
  · exact .inl h
  · rw [List.mem_append, List.mem_singleton] at h
    exact h

theorem idempotency_mem {realmId : String} {envelope : StoredApplicationEnvelope}
    {commands : List AtomicApplicationAppendCommand}
    (h : row ∈ (insertIdempotency H realmId envelope observedAt commands db).httpIdempotency) :
    row ∈ db.httpIdempotency ∨ ∃ command ∈ commands, row = ⟨httpScopeHash H command,
      command.requestCommitment, realmId, envelope.conversationId, envelope.envelopeId,
      idempotencyExpiry observedAt⟩ := by
  unfold insertIdempotency at h
  dsimp only at h
  generalize db.httpIdempotency = rows at h ⊢
  induction commands generalizing rows with
  | nil => exact .inl h
  | cons command commands ih =>
    rw [List.foldl_cons] at h
    rcases ih _ h with hbefore | ⟨other, hother, rfl⟩
    · rcases insertMissing_mem hbefore with hbefore | rfl
      · exact .inl hbefore
      · exact .inr ⟨command, List.mem_cons_self, rfl⟩
    · exact .inr ⟨other, List.mem_cons_of_mem _ hother, rfl⟩

theorem Backed.grow {acceptances added : List AcceptanceRow}
    (backed : Backed H readBody attempts acceptances row) :
    Backed H readBody attempts (acceptances ++ added) row := by
  obtain ⟨command, issued, hash, commitment, key, stored, hstored, same⟩ := backed.command
  exact ⟨command, issued, hash, commitment, key, stored, List.mem_append_left _ hstored, same⟩

/-- An acceptance stores what its intent was admitted for, and frees its lane. -/
theorem Kept.append (kept : Kept H readBody attempts db) {clock : CallClock}
    {input : FinalizeApplicationAppendInput} {admitted : FinalizeAdmission}
    {acceptance : StoredAcceptance} {same : Bool}
    (finalizable : Finalizable H clock input db admitted)
    (appended : Appended H checks clock input admitted acceptance same db after)
    (issued : Issued H readBody attempts input.command)
    (admission : Issued H readBody attempts admitted.pending.admissionCommand)
    (realmId : admitted.pending.admissionCommand.realmId = input.command.realmId) :
    Kept H readBody attempts after := by
  have place := inPlace_of_parsed finalizable.pending
  obtain ⟨unread, fanoutEvidence, hacceptance⟩ : ∃ unread fanoutEvidence, acceptance =
      ⟨⟨admitted.pending.admissionCommand, admitted.pending.intentDigest, unread⟩,
        admitted.signedEnvelope, input.verifiedSignatureEvidence,
        input.verifiedSignerFenceEvidence, fanoutEvidence, clock.observedAt⟩ := by
    obtain ⟨unread, -, h1⟩ := bind_ok.mp appended.built
    obtain ⟨fanoutEvidence, -, h2⟩ := bind_ok.mp h1
    exact ⟨unread, fanoutEvidence, (Except.ok.inj h2).symm⟩
  have henvelope : acceptance.envelope = admitted.signedEnvelope := by rw [hacceptance]
  have hadmitted : admittedBy (acceptanceRow admitted.pending acceptance clock.observedAt) =
      admitted.pending.admissionCommand := by
    unfold admittedBy acceptanceRow
    rw [hacceptance]
  have hconversation : admitted.signedEnvelope.conversationId =
      admitted.pending.admissionCommand.conversationId := by
    rw [finalizable.signed]
    exact place.conversationId
  have hid : admitted.signedEnvelope.envelopeId =
      admitted.pending.admissionCommand.semanticIdentity.append.envelopeId := by
    rw [finalizable.signed]
    exact place.envelopeId
  have hkey : acceptanceKey (acceptanceRow admitted.pending acceptance clock.observedAt) =
      keyOf admitted.pending.admissionCommand := by
    unfold acceptanceKey acceptanceRow keyOf
    rw [henvelope, hconversation, hid]
  refine ⟨?_, ?_, ?_, ?_, ?_, ?_⟩
  · rw [appended.envelopes, List.map_append, List.nodup_append]
    refine ⟨kept.envelopes, List.nodup_singleton _, ?_⟩
    intro key hmem other hother
    obtain ⟨row, hrow, rfl⟩ := List.mem_map.mp hmem
    rw [List.map_singleton, List.mem_singleton] at hother
    exact hother ▸ appended.unstored row hrow
  · rw [appended.acceptances, List.map_append, List.nodup_append]
    refine ⟨kept.acceptances, List.nodup_singleton _, ?_⟩
    intro key hmem other hother
    obtain ⟨row, hrow, rfl⟩ := List.mem_map.mp hmem
    rw [List.map_singleton, List.mem_singleton] at hother
    rw [hother]
    intro hsame
    obtain ⟨realm, conversation, envelope⟩ := EnvelopeKey.mk.inj hsame
    exact appended.unaccepted row hrow (by rw [realm, conversation, envelope]; rfl)
  · rw [appended.acceptances, appended.envelopes, List.forall_mem_append]
    refine ⟨fun row hrow => ⟨(kept.stored row hrow).1,
      List.mem_append_left _ (kept.stored row hrow).2⟩, ?_⟩
    rw [List.forall_mem_singleton, hadmitted]
    refine ⟨hkey, List.mem_append_right _ (List.mem_singleton.mpr ?_)⟩
    exact congrArg envelopeRow henvelope
  · rw [appended.pendings]
    exact kept.lanes.sublist (List.filter_sublist.map _)
  · rw [appended.pendings, appended.acceptances]
    intro row hrow
    obtain ⟨hbefore, hother⟩ := List.mem_filter.mp hrow
    have fencing := kept.fencing row hbefore
    refine ⟨fencing.conversationId, fencing.issued, ?_⟩
    rw [List.forall_mem_append, List.forall_mem_singleton, hkey]
    refine ⟨fencing.unaccepted, fun hsame => ?_⟩
    have hlane := (EnvelopeKey.mk.inj hsame).2.1
    rw [← hconversation, ← fencing.conversationId] at hlane
    exact (of_decide_eq_true hother) hlane.symm
  · intro row hrow
    rw [appended.httpIdempotency] at hrow
    rw [appended.acceptances]
    rcases idempotency_mem hrow with hbefore | ⟨command, hcommand, rfl⟩
    · exact (kept.backed row hbefore).grow
    · have content : SameContent command admitted.pending.admissionCommand ∧
          Issued H readBody attempts command := by
        unfold acceptedCommands at hcommand
        cases hsame : same with
        | false =>
          rw [hsame, if_neg Bool.false_ne_true, List.mem_singleton] at hcommand
          rw [hcommand]
          exact ⟨⟨rfl, rfl⟩, admission⟩
        | true =>
          rw [hsame, if_pos rfl, List.mem_cons, List.mem_singleton] at hcommand
          rcases hcommand with rfl | rfl
          · exact ⟨⟨rfl, rfl⟩, admission⟩
          · have hidentity := semanticallyEqual_eq_ok appended.compared
            rw [hsame] at hidentity
            have hidentity := of_decide_eq_true hidentity.symm
            refine ⟨⟨?_, hidentity⟩, issued⟩
            unfold keyOf AtomicApplicationAppendCommand.conversationId
            rw [realmId, hidentity]
      refine ⟨command, content.2, rfl, rfl, ?_, _, List.mem_append_right _
        (List.mem_singleton.mpr rfl), hadmitted ▸ content.1⟩
      rw [← content.1.key]
      unfold idempotencyKey keyOf
      rw [hconversation, hid]

end

section

variable {H : HashFunction} {readBody : BodyReader} {checks : DocumentChecks}
  {attempts more : List Attempt} {exchange : Exchange} {db after : DeliveryDb} {answer : Answer}
  {clock : CallClock} {invocation : DeliveryInvocationContext} {result : AppendResult} {held : Held}

/-- What one call does to a sound exchange. -/
structure Performed (H : HashFunction) (readBody : BodyReader) (attempts : List Attempt)
    (db after : DeliveryDb) (answer : Option Answer) : Prop where
  kept : Kept H readBody attempts after
  grown : db.acceptances ⊆ after.acceptances
  fenced : ∀ row ∈ after.pendings, row ∈ db.pendings ∨
    ∃ held ∈ answer.toList.flatMap takenUp, held.pending = row.pendingCanonical
  issued : ∀ told ∈ answer, Issued H readBody attempts told.command
  told : ∀ told ∈ answer, Told H readBody attempts after told

theorem Performed.read (kept : Kept H readBody attempts db)
    (issued : Issued H readBody attempts answer.command)
    (told : Told H readBody attempts db answer) :
    Performed H readBody attempts db db (some answer) where
  kept := kept
  grown := List.Subset.refl _
  fenced := fun row hrow => .inl hrow
  issued := by rintro _ ⟨⟩; exact issued
  told := by rintro _ ⟨⟩; exact told

theorem Performed.silent (kept : Kept H readBody attempts after)
    (grown : db.acceptances ⊆ after.acceptances)
    (fenced : ∀ row ∈ after.pendings, row ∈ db.pendings) :
    Performed H readBody attempts db after none where
  kept := kept
  grown := grown
  fenced := fun row hrow => .inl (fenced row hrow)
  issued := by rintro _ ⟨⟩
  told := by rintro _ ⟨⟩

theorem Performed.thrown (kept : Kept H readBody attempts db) :
    Performed H readBody attempts db db none :=
  .silent kept (List.Subset.refl _) fun _ hrow => hrow

theorem Performed.beside (kept : Kept H readBody attempts db) (beside : Beside db after)
    (issued : Issued H readBody attempts answer.command)
    (told : Told H readBody attempts db answer) :
    Performed H readBody attempts db after (some answer) where
  kept := kept.of_beside beside
  grown := beside.acceptances ▸ List.Subset.refl _
  fenced := fun row hrow => .inl (beside.pendings ▸ hrow)
  issued := by rintro _ ⟨⟩; exact issued
  told := by
    rintro _ ⟨⟩
    unfold Told at told ⊢
    rw [beside.acceptances]
    exact told

theorem Told.mono (sub : attempts ⊆ more) (grown : db.acceptances ⊆ after.acceptances)
    (told : Told H readBody attempts db answer) :
    Told H readBody more after answer := by
  unfold Told at told ⊢
  split
  · obtain ⟨row, hrow, facts⟩ := by simpa only [*] using told
    exact ⟨row, grown hrow, facts⟩
  · have told := by simpa only [*] using told
    exact ⟨told.1.mono sub, told.2⟩
  · have told := by simpa only [*] using told
    exact ⟨told.1.mono sub, told.2⟩
  · trivial

theorem reserve_performed (kept : Kept H readBody attempts db)
    (safe : ¬ Collision H (attempts.flatMap (Attempt.hashed H readBody)))
    (request : PreparationRequest)
    (issued : Issued H readBody attempts request.reservation.command) :
    let ran := settled request.reservation.command true (AppendCall.run H checks
      (.reserve clock request.reservation invocation (preparing H request)) db)
    Performed H readBody attempts db ran.2 ran.1 := by
  rcases sqlBegin_cases (AppendCall.transaction H checks
      (.reserve clock request.reservation invocation (preparing H request))) db with
    ⟨outcome, written, htx, hrun⟩ | ⟨e, -, hrun⟩
  · simp only [AppendCall.run, settled, hrun, Except.toOption, Option.map_some]
    rcases reserve_eq_ok htx with ⟨lanes, hstopped, beside⟩ | ⟨hretry, beside, -⟩ |
      ⟨pending, lanes, row, hadmitted, log, fences, free, added, hresult⟩
    · exact .beside kept beside issued
        (told_of_replayed kept safe issued (admitReservation_replayed hstopped))
    · exact .beside kept beside issued (by rw [hretry]; trivial)
    · obtain ⟨missed, -, hcommand, parsed⟩ := admitReservation_replayed hadmitted
      have unaccepted : ∀ stored ∈ db.acceptances,
          acceptanceKey stored ≠ keyOf pending.admissionCommand := by
        rcases acceptedReplay_sound kept safe issued missed with
          ⟨-, hnone⟩ | hconflict | ⟨row, hrow, replay, same, hresult⟩
        · exact hcommand ▸ hnone
        · cases hconflict
        · cases hresult
      rw [hresult]
      refine ⟨kept.fence log fences free added parsed (hcommand ▸ issued) unaccepted, ?_, ?_, ?_, ?_⟩
      · exact log.acceptances ▸ List.Subset.refl _
      · rw [added, List.forall_mem_append, List.forall_mem_singleton]
        refine ⟨fun other hother => .inl hother, .inr ?_⟩
        exact ⟨⟨request.reservation.command, true, pending⟩, List.mem_singleton.mpr rfl,
          fences.pending.symm⟩
      · rintro _ ⟨⟩
        exact issued
      · rintro _ ⟨⟩
        exact ⟨hcommand ▸ issued, by rw [hcommand], by rw [hcommand]⟩
  · simp only [AppendCall.run, settled, hrun]
    exact .thrown kept

theorem preflight_performed (kept : Kept H readBody attempts db)
    (safe : ¬ Collision H (attempts.flatMap (Attempt.hashed H readBody)))
    {command : AtomicApplicationAppendCommand} (issued : Issued H readBody attempts command)
    (h : readPreflight H clock command invocation db = .ok (.inl result)) :
    Performed H readBody attempts db db (some ⟨command, true, result⟩) :=
  .read kept issued (told_of_replayed kept safe issued (readPreflight_replayed h))

theorem told_of_halted (kept : Kept H readBody attempts db)
    (safe : ¬ Collision H (attempts.flatMap (Attempt.hashed H readBody)))
    (taken : TakenUp H readBody attempts held)
    (halted : Halted H db held.command held.pending clock invocation result) :
    Told H readBody attempts db ⟨held.command, held.own, result⟩ := by
  have unaccepted {clock : CallClock}
      (missed : lookupAcceptedReplay H db held.command clock = .ok none) :
      ∀ row ∈ db.acceptances, acceptanceKey row ≠ keyOf held.command := by
    rcases acceptedReplay_sound kept safe taken.issued missed with
      ⟨-, hnone⟩ | hconflict | ⟨row, hrow, replay, same, hresult⟩
    · exact hnone
    · cases hconflict
    · cases hresult
  cases halted with
  | late _ => trivial
  | accepted found =>
    rcases acceptedReplay_sound kept safe taken.issued found with
      ⟨hnone, -⟩ | hconflict | ⟨row, hrow, replay, same, hresult⟩
    · cases hnone
    · cases hconflict
      trivial
    · cases hresult
      exact ⟨row, hrow, rfl, .inl same⟩
  | @detached row replay missed stored key =>
    refine ⟨row, stored, rfl, ?_⟩
    rcases taken.concerns with same | ⟨drains, other⟩
    · exact absurd (key.trans same.key) (unaccepted missed row stored)
    · have admitted := (kept.stored row stored).1.symm.trans key
      obtain ⟨realmId, conversationId, envelopeId⟩ := EnvelopeKey.mk.inj admitted
      exact .inr ⟨drains, ⟨realmId.trans other.realmId, conversationId.trans other.conversationId,
        envelopeId ▸ other.envelopeId⟩⟩
  | stale missed => trivial
  | stopped missed parsed located same plain => cases result <;> trivial

theorem finalize_performed (kept : Kept H readBody attempts db)
    (safe : ¬ Collision H (attempts.flatMap (Attempt.hashed H readBody)))
    {input : FinalizeApplicationAppendInput} (taken : TakenUp H readBody attempts held)
    (hcommand : input.command = held.command) (hpending : input.pendingIntent = held.pending) :
    let ran := settled held.command held.own (AppendCall.run H checks
      (.finalize clock input invocation) db)
    Performed H readBody attempts db ran.2 ran.1 := by
  rcases sqlBegin_cases (AppendCall.transaction H checks (.finalize clock input invocation)) db with
    ⟨outcome, written, htx, hrun⟩ | ⟨e, -, hrun⟩
  · simp only [AppendCall.run, settled, hrun, Except.toOption, Option.map_some]
    rcases finalize_eq_ok htx with ⟨hhalted, rfl⟩ | ⟨hretry, beside, -⟩ |
      ⟨admitted, acceptance, same, replay, hadmitted, appended, hresult⟩
    · have halted := admitFinalization_halted hhalted
      rw [hcommand, hpending] at halted
      exact .read kept taken.issued (told_of_halted kept safe taken halted)
    · exact .beside kept beside taken.issued (by rw [hretry]; trivial)
    · have finalizable := admitFinalization_eq_ok hadmitted
      have hadmission : admitted.pending.admissionCommand = held.pending.admissionCommand := by
        rw [command_of_parsed finalizable.pending, hpending]
      have realmId : admitted.pending.admissionCommand.realmId = input.command.realmId := by
        rw [hadmission, hcommand]
        rcases taken.concerns with content | ⟨-, other⟩
        · exact (EnvelopeKey.mk.inj content.key).1
        · exact other.realmId
      have stored := kept.append finalizable appended (hcommand ▸ taken.issued)
        (hadmission ▸ taken.admitted) realmId
      have grown : db.acceptances ⊆ written.acceptances := by
        rw [appended.acceptances]
        exact List.subset_append_left _ _
      refine ⟨stored, grown, ?_, ?_, ?_⟩
      · intro row hrow
        rw [appended.pendings] at hrow
        exact .inl (List.mem_of_mem_filter hrow)
      · rintro _ ⟨⟩
        exact taken.issued
      · rintro _ ⟨⟩
        rw [hresult]
        refine ⟨acceptanceRow admitted.pending acceptance clock.observedAt, ?_, rfl, ?_⟩
        · rw [appended.acceptances]
          exact List.mem_append_right _ (List.mem_singleton.mpr rfl)
        · have hadmitted : admittedBy (acceptanceRow admitted.pending acceptance
              clock.observedAt) = held.pending.admissionCommand := by
            obtain ⟨unread, -, h1⟩ := bind_ok.mp appended.built
            obtain ⟨fanoutEvidence, -, h2⟩ := bind_ok.mp h1
            cases h2
            exact hadmission
          rw [hadmitted]
          exact taken.concerns
  · simp only [AppendCall.run, settled, hrun]
    exact .thrown kept

theorem retire_performed (kept : Kept H readBody attempts db)
    {input : RetireExpiredApplicationAppendInput} :
    Performed H readBody attempts db
      (AppendCall.run H checks (.retire clock input invocation) db).2 none := by
  rcases sqlBegin_cases (AppendCall.transaction H checks (.retire clock input invocation)) db with
    ⟨outcome, written, htx, hrun⟩ | ⟨e, -, hrun⟩
  · simp only [AppendCall.run, hrun]
    rcases retire_eq_ok htx with ⟨-, rfl⟩ | ⟨-, beside⟩ |
      ⟨intentDigest, conversationId, log, freed, -⟩
    · exact .thrown kept
    · exact .silent (kept.of_beside beside) (beside.acceptances ▸ List.Subset.refl _)
        fun row hrow => beside.pendings ▸ hrow
    · refine .silent (kept.free log freed) (log.acceptances ▸ List.Subset.refl _) ?_
      intro row hrow
      rw [freed] at hrow
      exact List.mem_of_mem_filter hrow
  · simp only [AppendCall.run, hrun]
    exact .thrown kept

theorem TakenUp.mono (sub : attempts ⊆ more)
    (taken : TakenUp H readBody attempts held) : TakenUp H readBody more held :=
  ⟨taken.issued.mono sub, taken.admitted.mono sub, taken.concerns⟩

theorem performed (checks : DocumentChecks) (sound : Sound H readBody exchange) (call : ClientCall)
    (safe : ¬ Collision H ((exchange.attempts ++ call.attempt.toList).flatMap
      (Attempt.hashed H readBody))) :
    Performed H readBody (exchange.attempts ++ call.attempt.toList) exchange.db
      (call.perform H readBody checks exchange).2
      (call.perform H readBody checks exchange).1 := by
  have kept : Kept H readBody (exchange.attempts ++ call.attempt.toList) exchange.db :=
    sound.kept.mono (List.subset_append_left _ _)
  have made {attempt : Attempt} {command : AtomicApplicationAppendCommand}
      (hattempt : call.attempt = some attempt) (hcommand : attempt.command H readBody = .ok command) :
      Issued H readBody (exchange.attempts ++ call.attempt.toList) command :=
    ⟨attempt, List.mem_append_right _ (by rw [hattempt]; exact List.mem_singleton.mpr rfl), hcommand⟩
  have taken {index : Nat} {held : Held} (hheld : exchange.held[index]? = some held) :
      TakenUp H readBody (exchange.attempts ++ call.attempt.toList) held :=
    (sound.takenUp held (List.mem_of_getElem? hheld)).mono (List.subset_append_left _ _)
  cases call with
  | preflight clock attempt invocation =>
    unfold ClientCall.perform
    dsimp only
    split
    · exact .thrown kept
    · rename_i command hcommand
      split
      · rename_i result hresult
        exact preflight_performed kept safe (made rfl hcommand) hresult
      · exact .thrown kept
  | reserve clock attempt request invocation =>
    unfold ClientCall.perform
    dsimp only
    split
    · exact .thrown kept
    · rename_i command hcommand
      exact reserve_performed kept safe (requestFor command request) (made rfl hcommand)
  | finalize clock index input invocation =>
    unfold ClientCall.perform
    dsimp only
    split
    · exact .thrown kept
    · rename_i held hheld
      exact finalize_performed kept safe (taken hheld) rfl rfl
  | retire clock index input invocation =>
    unfold ClientCall.perform
    dsimp only
    split
    · exact .thrown kept
    · exact retire_performed kept

theorem Sound.step (sound : Sound H readBody exchange) (call : ClientCall)
    (safe : ¬ Collision H ((exchange.attempts ++ call.attempt.toList).flatMap
      (Attempt.hashed H readBody))) :
    Sound H readBody (call.step H readBody checks exchange) := by
  have done := performed checks sound call safe
  have sub : exchange.attempts ⊆ exchange.attempts ++ call.attempt.toList :=
    List.subset_append_left _ _
  refine ⟨done.kept, ?_, ?_, ?_⟩
  · intro row hrow
    rcases done.fenced row hrow with hbefore | ⟨held, hheld, hpending⟩
    · obtain ⟨held, hheld, hpending⟩ := sound.fenced row hbefore
      exact ⟨held, List.mem_append_left _ hheld, hpending⟩
    · exact ⟨held, List.mem_append_right _ hheld, hpending⟩
  · refine List.forall_mem_append.mpr ⟨fun held hheld => (sound.takenUp held hheld).mono sub, ?_⟩
    intro held hheld
    obtain ⟨answer, hanswer, htaken⟩ := List.mem_flatMap.mp hheld
    have hanswer := Option.mem_toList.mp hanswer
    have issued := done.issued answer hanswer
    have told := done.told answer hanswer
    unfold ClientExchange.takenUp at htaken
    unfold Told at told
    split at htaken
    · rename_i hresult
      rw [hresult] at told
      obtain rfl := List.mem_singleton.mp htaken
      exact ⟨issued, told.1, .inl told.2⟩
    · rename_i hresult
      rw [hresult] at told
      obtain rfl := List.mem_singleton.mp htaken
      exact ⟨issued, told.1, .inr ⟨rfl, told.2⟩⟩
    · cases htaken
  · refine List.forall_mem_append.mpr
      ⟨fun answer hanswer => (sound.told answer hanswer).mono sub done.grown, ?_⟩
    exact fun answer hanswer => done.told answer (Option.mem_toList.mp hanswer)

/-- The acceptance that an answer hands out. -/
def Answer.acceptance (answer : Answer) : Option StoredAcceptance :=
  match answer.result with
  | .accepted _ _ acceptance _ => some acceptance
  | _ => none

/-- The command whose acceptance or intent an answer hands out. -/
def Answer.admitted (answer : Answer) : Option AtomicApplicationAppendCommand :=
  match answer.result with
  | .accepted _ _ acceptance _ => some acceptance.acceptedIntent.admissionCommand
  | .pending _ _ pending _ _ => some pending.admissionCommand
  | _ => none

theorem Sound.acceptance_stored {exchange : Exchange} (sound : Sound H readBody exchange)
    (hanswer : answer ∈ exchange.answers) {acceptance : StoredAcceptance}
    (h : answer.acceptance = some acceptance) :
    ∃ row ∈ exchange.db.acceptances, row.acceptanceCanonical = acceptance := by
  have told := sound.told answer hanswer
  unfold Answer.acceptance at h
  unfold Told at told
  split at h
  · rename_i hresult
    rw [hresult] at told
    obtain ⟨row, hrow, hsame, -⟩ := told
    exact ⟨row, hrow, hsame.trans (Option.some.inj h)⟩
  · cases h

theorem Sound.admitted_same {exchange : Exchange} (sound : Sound H readBody exchange)
    (hanswer : answer ∈ exchange.answers) (own : answer.own = true)
    {admitted : AtomicApplicationAppendCommand} (h : answer.admitted = some admitted) :
    SameContent answer.command admitted := by
  have told := sound.told answer hanswer
  unfold Answer.admitted at h
  unfold Told at told
  split at h
  · rename_i hresult
    rw [hresult] at told
    cases h
    obtain ⟨row, -, rfl, content | ⟨drains, -⟩⟩ := told
    · exact content
    · rw [own] at drains
      cases drains
  · rename_i hresult
    rw [hresult] at told
    cases h
    exact told.2
  · cases h

end

end JbChat.Store.ClientExchange
