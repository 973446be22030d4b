/- source: src/production/delivery/state.ts, appendPersistence.ts
   digest: Interleaved reservations, finalizations and releases conserve the quota counters. -/

import JbChat.Delivery.QuotaLedger

set_option autoImplicit false

namespace JbChat.Delivery.QuotaConservation

open Foundation.HashTrace Foundation.LengthPrefix Foundation.Transaction
open ValueObjects Hashes Instants Snapshot Quota QuotaRules QuotaLedger

variable {H : HashFunction}

/-- The counters of five rows with the reservation sets that are live and those consumed. -/
structure QuotaState where
  quotas : List LockedQuotaCounter
  live : List (List ApplicationAppendQuotaCapacityReservation)
  consumed : List (List ApplicationAppendQuotaCapacityReservation)

/-- A reservation, a finalization or a release, each on the current counters. -/
inductive QuotaStep (H : HashFunction) : QuotaState → QuotaState → Prop where
  | reserve {s : QuotaState} {snapshot : LockedApplicationAppendSnapshot}
      {expectation : ApplicationAppendExpectation} {now : String} {append : AllowedAppend}
      {digest : Bytes} {generation : Nat} {tokenHash : Bytes}
      {reservations : List ApplicationAppendQuotaCapacityReservation}
      (current : snapshot.quotas = s.quotas)
      (allowed : evaluateLockedApplicationAppend H snapshot expectation now = .allowed append)
      (bound : bindApplicationAppendQuotaCapacityReservations H append.quotaCapacityDeltas digest
        generation tokenHash = .ok reservations) :
      QuotaStep H s ⟨append.postReservationQuotas, s.live ++ [reservations], s.consumed⟩
  | convert {s : QuotaState} {input : QuotaConversionInput} {mode : ConversionMode}
      {conversion : QuotaConversion}
      {before after : List (List ApplicationAppendQuotaCapacityReservation)}
      (current : input.currentQuotas = s.quotas)
      (live : s.live = before ++ input.currentCapacityReservations :: after)
      (accepted : validateQuotaCapacityConversion H input mode = .ok conversion) :
      QuotaStep H s ⟨conversion.quotas, before ++ after,
        if mode = .finalize then s.consumed ++ [input.currentCapacityReservations]
        else s.consumed⟩

/-- Any number of steps. -/
def QuotaRun (H : HashFunction) : QuotaState → QuotaState → Prop :=
  Relation.ReflTransGen (QuotaStep H)

abbrev operationsOf (reservation : ApplicationAppendQuotaCapacityReservation) : Nat :=
  reservation.reservationOperationCount

abbrev bytesOf (reservation : ApplicationAppendQuotaCapacityReservation) : Nat :=
  reservation.reservationByteCount

/-- The reservation was made on this row, at an earlier version of it. -/
structure MadeOn (quota : LockedQuotaCounter)
    (reservation : ApplicationAppendQuotaCapacityReservation) : Prop where
  scopeHash : reservation.scopeHash = quota.scopeHash
  quotaName : reservation.quotaName = quota.quotaName
  windowStartedAt : reservation.windowStartedAt = quota.windowStartedAt
  windowSeconds : reservation.windowSeconds = quota.windowSeconds
  rowVersion : reservation.rowVersionAfter ≤ quota.rowVersion

/-- A reservation set that one pending append holds on the rows. -/
structure LiveSet (H : HashFunction) (quotas : List LockedQuotaCounter)
    (reservations : List ApplicationAppendQuotaCapacityReservation) : Prop where
  bound : ∀ reservation ∈ reservations, BoundReservation H reservation
  scopes : (reservations.map fun reservation => reservation.scope) = quotaScopes
  owned : ∃ digest generation tokenHash, ∀ reservation ∈ reservations,
    OwnedBy digest generation tokenHash reservation
  made : ∀ reservation ∈ reservations, ∀ quota ∈ quotas, reservation.scope = quota.scope →
    MadeOn quota reservation

structure Ledger (H : HashFunction) (initial : List LockedQuotaCounter) (s : QuotaState) :
    Prop where
  counters : Counters s.quotas
  live : ∀ reservations ∈ s.live, LiveSet H s.quotas reservations
  reservedOperations : ∀ quota ∈ s.quotas,
    quota.reservedOperationCount = capacityAt operationsOf quota.scope s.live.flatten
  reservedBytes : ∀ quota ∈ s.quotas,
    quota.reservedByteCount = capacityAt bytesOf quota.scope s.live.flatten
  spent : ∀ quota ∈ s.quotas, ∃ start ∈ initial, start.scope = quota.scope ∧
    start.operationLimit = quota.operationLimit ∧ start.byteLimit = quota.byteLimit ∧
    quota.operationCount =
      start.operationCount + capacityAt operationsOf quota.scope s.consumed.flatten ∧
    quota.byteCount = start.byteCount + capacityAt bytesOf quota.scope s.consumed.flatten

theorem Ledger.start {initial : List LockedQuotaCounter} (counters : Counters initial)
    (unreserved : ∀ quota ∈ initial,
      quota.reservedOperationCount = 0 ∧ quota.reservedByteCount = 0) :
    Ledger H initial ⟨initial, [], []⟩ where
  counters := counters
  live _ hmem := absurd hmem List.not_mem_nil
  reservedOperations quota hquota := (unreserved quota hquota).1
  reservedBytes quota hquota := (unreserved quota hquota).2
  spent quota hquota := ⟨quota, hquota, rfl, rfl, rfl, rfl, rfl⟩

section

variable {totalChargedBytes : Nat} {digest : Bytes} {generation : Nat} {tokenHash : Bytes}
  {quotas : List LockedQuotaCounter} {reservations : List ApplicationAppendQuotaCapacityReservation}

/-- The reservation that is bound for a row. -/
def reservationOf (H : HashFunction) (digest : Bytes) (generation : Nat) (tokenHash : Bytes)
    (totalChargedBytes : Nat) (quota : LockedQuotaCounter) :
    ApplicationAppendQuotaCapacityReservation :=
  bindReservation H digest generation tokenHash (deltaOf totalChargedBytes quota)

theorem MadeOn.mono {quota later : LockedQuotaCounter}
    {reservation : ApplicationAppendQuotaCapacityReservation} (made : MadeOn quota reservation)
    (hhash : later.scopeHash = quota.scopeHash) (hname : later.quotaName = quota.quotaName)
    (hstart : later.windowStartedAt = quota.windowStartedAt)
    (hseconds : later.windowSeconds = quota.windowSeconds)
    (hversion : quota.rowVersion ≤ later.rowVersion) : MadeOn later reservation :=
  ⟨made.scopeHash.trans hhash.symm, made.quotaName.trans hname.symm,
    made.windowStartedAt.trans hstart.symm, made.windowSeconds.trans hseconds.symm,
    made.rowVersion.trans hversion⟩

theorem counters_reservedBy (counters : Counters quotas)
    (room : ∀ quota ∈ quotas, HasRoom totalChargedBytes quota) :
    Counters (quotas.map (reservedBy totalChargedBytes)) := by
  constructor
  · intro after hafter
    obtain ⟨quota, hquota, rfl⟩ := List.mem_map.mp hafter
    have valid := counters.valid quota hquota
    have hroom := room quota hquota
    exact ⟨valid.scopeHash, valid.quotaName, valid.windowStartedAt, valid.windowSeconds,
      hroom.rowVersion, valid.operationLimit, valid.byteLimit, hroom.operations, hroom.bytes⟩
  · rw [List.map_map, ← counters.scopes]
    rfl

theorem LiveSet.mono (set : LiveSet H quotas reservations)
    {move : LockedQuotaCounter → LockedQuotaCounter}
    (scope : ∀ quota, (move quota).scope = quota.scope)
    (forward : ∀ quota ∈ quotas, ∀ reservation, MadeOn quota reservation →
      MadeOn (move quota) reservation) :
    LiveSet H (quotas.map move) reservations := by
  refine ⟨set.bound, set.scopes, set.owned, ?_⟩
  intro reservation hmem later hlater hscope
  obtain ⟨quota, hquota, rfl⟩ := List.mem_map.mp hlater
  rw [scope] at hscope
  exact forward quota hquota reservation (set.made reservation hmem quota hquota hscope)

theorem liveSet_reserved (counters : Counters quotas) (hreservations : reservations =
      quotas.map (reservationOf H digest generation tokenHash totalChargedBytes))
    (bound : ∀ reservation ∈ reservations, BoundReservation H reservation) :
    LiveSet H (quotas.map (reservedBy totalChargedBytes)) reservations := by
  have hnodup : (quotas.map LockedQuotaCounter.scope).Nodup := by
    rw [counters.scopes]
    exact quotaScopes_nodup
  refine ⟨bound, ?_, ⟨digest, generation, tokenHash, ?_⟩, ?_⟩
  · rw [hreservations, List.map_map, ← counters.scopes]
    rfl
  · intro reservation hmem
    rw [hreservations] at hmem
    obtain ⟨quota, -, rfl⟩ := List.mem_map.mp hmem
    exact ⟨rfl, rfl, rfl, rfl⟩
  · intro reservation hmem later hlater hscope
    rw [hreservations] at hmem
    obtain ⟨quota, hquota, rfl⟩ := List.mem_map.mp hmem
    obtain ⟨other, hother, rfl⟩ := List.mem_map.mp hlater
    obtain rfl : quota = other := List.inj_on_of_nodup_map hnodup hquota hother hscope
    exact ⟨rfl, rfl, rfl, rfl, Nat.le_refl _⟩

theorem Ledger.reserve {initial : List LockedQuotaCounter} {s : QuotaState}
    (ledger : Ledger H initial s) (room : ∀ quota ∈ s.quotas, HasRoom totalChargedBytes quota)
    (hreservations : reservations =
      s.quotas.map (reservationOf H digest generation tokenHash totalChargedBytes))
    (bound : ∀ reservation ∈ reservations, BoundReservation H reservation) :
    Ledger H initial ⟨s.quotas.map (reservedBy totalChargedBytes), s.live ++ [reservations],
      s.consumed⟩ := by
  have hnew := liveSet_reserved ledger.counters hreservations bound
  have hshare : ∀ (amount : ApplicationAppendQuotaCapacityReservation → Nat),
      ∀ quota ∈ s.quotas, capacityAt amount quota.scope reservations =
        amount (reservationOf H digest generation tokenHash totalChargedBytes quota) := by
    intro amount quota hquota
    refine capacityAt_of_mem hnew.scopes ?_ rfl
    rw [hreservations]
    exact List.mem_map_of_mem hquota
  refine ⟨counters_reservedBy ledger.counters room, ?_, ?_, ?_, ?_⟩
  · intro set hset
    rcases List.mem_append.mp hset with hold | hsingle
    · exact (ledger.live set hold).mono (fun _ => rfl)
        fun quota _ reservation made => made.mono rfl rfl rfl rfl (Nat.le_succ _)
    · rw [List.mem_singleton.mp hsingle]
      exact hnew
  · intro after hafter
    obtain ⟨quota, hquota, rfl⟩ := List.mem_map.mp hafter
    rw [capacityAt_flatten_append]
    change quota.reservedOperationCount + 1 = capacityAt operationsOf quota.scope _ +
      capacityAt operationsOf quota.scope _
    rw [hshare operationsOf quota hquota, ← ledger.reservedOperations quota hquota]
    rfl
  · intro after hafter
    obtain ⟨quota, hquota, rfl⟩ := List.mem_map.mp hafter
    rw [capacityAt_flatten_append]
    change quota.reservedByteCount + totalChargedBytes = capacityAt bytesOf quota.scope _ +
      capacityAt bytesOf quota.scope _
    rw [hshare bytesOf quota hquota, ← ledger.reservedBytes quota hquota]
    rfl
  · intro after hafter
    obtain ⟨quota, hquota, rfl⟩ := List.mem_map.mp hafter
    exact ledger.spent quota hquota

end

section

variable {mode : ConversionMode} {reservations : List ApplicationAppendQuotaCapacityReservation}

theorem capacityAt_consumed (amount : ApplicationAppendQuotaCapacityReservation → Nat)
    (scope : QuotaScope) (consumed : List (List ApplicationAppendQuotaCapacityReservation)) :
    capacityAt amount scope
        (if mode = .finalize then consumed ++ [reservations] else consumed).flatten =
      capacityAt amount scope consumed.flatten +
        if mode = .finalize then capacityAt amount scope reservations else 0 := by
  split_ifs
  · exact capacityAt_flatten_append consumed reservations
  · rfl

theorem Ledger.convert {initial : List LockedQuotaCounter} {s : QuotaState}
    (ledger : Ledger H initial s)
    {before after : List (List ApplicationAppendQuotaCapacityReservation)}
    (live : s.live = before ++ reservations :: after)
    (counters : Counters (s.quotas.map (convertedBy mode reservations))) :
    Ledger H initial ⟨s.quotas.map (convertedBy mode reservations), before ++ after,
      if mode = .finalize then s.consumed ++ [reservations] else s.consumed⟩ := by
  have hothers : ∀ set ∈ before ++ after, set ∈ s.live := by
    intro set hset
    rw [live]
    rcases List.mem_append.mp hset with h | h
    · exact List.mem_append_left _ h
    · exact List.mem_append_right _ (List.mem_cons_of_mem _ h)
  refine ⟨counters, ?_, ?_, ?_, ?_⟩
  · intro set hset
    exact (ledger.live set (hothers set hset)).mono (fun _ => rfl)
      fun quota _ reservation made => made.mono rfl rfl rfl rfl (Nat.le_succ _)
  · intro row hrow
    obtain ⟨quota, hquota, rfl⟩ := List.mem_map.mp hrow
    have hreserved := ledger.reservedOperations quota hquota
    rw [live, capacityAt_flatten_split] at hreserved
    change quota.reservedOperationCount - capacityAt operationsOf quota.scope reservations =
      capacityAt operationsOf quota.scope (before ++ after).flatten
    omega
  · intro row hrow
    obtain ⟨quota, hquota, rfl⟩ := List.mem_map.mp hrow
    have hreserved := ledger.reservedBytes quota hquota
    rw [live, capacityAt_flatten_split] at hreserved
    change quota.reservedByteCount - capacityAt bytesOf quota.scope reservations =
      capacityAt bytesOf quota.scope (before ++ after).flatten
    omega
  · intro row hrow
    obtain ⟨quota, hquota, rfl⟩ := List.mem_map.mp hrow
    obtain ⟨start, hstart, hscope, hoperationLimit, hbyteLimit, hoperations, hbytes⟩ :=
      ledger.spent quota hquota
    refine ⟨start, hstart, hscope, hoperationLimit, hbyteLimit, ?_, ?_⟩
    · rw [capacityAt_consumed, ← Nat.add_assoc]
      exact congrArg (· + _) hoperations
    · rw [capacityAt_consumed, ← Nat.add_assoc]
      exact congrArg (· + _) hbytes

end

theorem Ledger.step {initial : List LockedQuotaCounter} {s s' : QuotaState}
    (ledger : Ledger H initial s) (h : QuotaStep H s s') : Ledger H initial s' := by
  cases h with
  | reserve current allowed bound =>
    obtain ⟨totalChargedBytes, hroom, hdeltas, hquotas⟩ := evaluate_eq_allowed allowed
    rw [current] at hroom hdeltas hquotas
    have hscopes : (s.quotas.map (deltaOf totalChargedBytes)).map
        ApplicationAppendQuotaCapacityDelta.scope = quotaScopes := by
      rw [List.map_map, ← ledger.counters.scopes]
      rfl
    rw [hdeltas] at bound
    obtain ⟨-, -, -, -, hreservations⟩ := (bindReservations_eq_ok hscopes).mp bound
    rw [List.map_map] at hreservations
    rw [hquotas]
    exact ledger.reserve hroom hreservations (bound_of_bindReservations hscopes bound)
  | @convert input mode conversion before after current live accepted =>
    have hmem : input.currentCapacityReservations ∈ s.live := by
      rw [live]
      exact List.mem_append_right _ List.mem_cons_self
    obtain ⟨-, hcounters, hquotas⟩ := validate_eq_ok (current ▸ ledger.counters)
      (ledger.live _ hmem).scopes accepted
    rw [current] at hquotas
    rw [hquotas] at hcounters ⊢
    exact ledger.convert live hcounters

theorem Ledger.run {initial : List LockedQuotaCounter} {s s' : QuotaState}
    (ledger : Ledger H initial s) (h : QuotaRun H s s') : Ledger H initial s' := by
  induction h with
  | refl => exact ledger
  | tail _ hstep ih => exact ih.step hstep

section

variable {reservations : List ApplicationAppendQuotaCapacityReservation}

def idInput (reservation : ApplicationAppendQuotaCapacityReservation) : Bytes :=
  (quotaReservationIdInput reservation.pendingPreparationDigest reservation.fenceGeneration
    reservation.fenceTokenHash reservation.toApplicationAppendQuotaCapacityDelta).flatten

def ZeroId (H : HashFunction) (reservations : List ApplicationAppendQuotaCapacityReservation) :
    Prop :=
  ∃ reservation ∈ reservations, H.digest (idInput reservation) = List.replicate 32 0

private theorem scopeText_length (scope : QuotaScope) : scope.text.toList.length ≤ 1024 := by
  cases scope <;> decide

private theorem scopeText_injective {a b : QuotaScope} (h : a.text = b.text) : a = b := by
  revert h
  cases a <;> cases b <;> decide

private theorem idFields_sized {reservation : ApplicationAppendQuotaCapacityReservation}
    (bound : BoundReservation H reservation) :
    ∀ field ∈ [reservation.pendingPreparationDigest, utf8 reservation.fenceGeneration.repr,
      reservation.fenceTokenHash, utf8 reservation.scope.text, reservation.scopeHash,
      utf8 reservation.quotaName, utf8 reservation.windowStartedAt,
      utf8 reservation.windowSeconds.repr, utf8 reservation.reservationOperationCount.repr,
      utf8 reservation.reservationByteCount.repr, utf8 reservation.rowVersionBefore.repr,
      utf8 reservation.rowVersionAfter.repr], Sized field := by
  have delta := bound.delta
  have hversion := delta.rowVersion
  have hversionBound := delta.rowVersionBound
  have hstart := isRfc3339Millis_length delta.windowStartedAt
  simp only [List.forall_mem_cons]
  refine ⟨sized_hash bound.digest, sized_repr bound.generation.2, sized_hash bound.token.1,
    sized_utf8 (scopeText_length _), sized_hash delta.scopeHash, sized_keyId delta.quotaName,
    sized_utf8 (by omega), sized_repr delta.windowSeconds.2, sized_repr ?_, sized_repr delta.bytes,
    sized_repr (by omega), sized_repr hversionBound, fun _ h => absurd h List.not_mem_nil⟩
  rw [delta.operations]
  decide

theorem scope_eq_of_idInput {a b : ApplicationAppendQuotaCapacityReservation}
    (ha : BoundReservation H a) (hb : BoundReservation H b) (h : idInput a = idInput b) :
    a.scope = b.scope := by
  have hfields := domain_fields_injective (idFields_sized ha) (idFields_sized hb) h
  simp only [List.cons.injEq] at hfields
  exact scopeText_injective (utf8_injective hfields.2.2.2.1)

theorem LiveSet.usable {quotas : List LockedQuotaCounter}
    (set : LiveSet H quotas reservations) (safe : ¬ Collision H (reservations.map idInput))
    (nonZero : ¬ ZeroId H reservations) : Reservations H reservations := by
  have hid : ∀ reservation ∈ reservations,
      reservation.reservationId = H.digest (idInput reservation) :=
    fun reservation hmem => (set.bound reservation hmem).id
  have hnodup : (reservations.map fun reservation => reservation.scope).Nodup := by
    rw [set.scopes]
    exact quotaScopes_nodup
  refine ⟨set.bound, set.scopes, ?_, ?_⟩
  · intro reservation hmem hzero
    rw [hid reservation hmem] at hzero
    exact nonZero ⟨reservation, hmem, hzero⟩
  · refine (List.nodup_map_iff_inj_on hnodup.of_map).mpr ?_
    intro a ha b hb hsame
    rw [hid a ha, hid b hb] at hsame
    have hinput := input_eq_of_digest_eq safe (List.mem_map_of_mem ha) (List.mem_map_of_mem hb)
      hsame
    exact List.inj_on_of_nodup_map hnodup ha hb
      (scope_eq_of_idInput (set.bound a ha) (set.bound b hb) hinput)

end

/-- The set can be converted on the counters with the input that the adapters build. -/
def CanConvert (H : HashFunction) (quotas : List LockedQuotaCounter)
    (reservations : List ApplicationAppendQuotaCapacityReservation) (mode : ConversionMode) : Prop :=
  ∃ digest generation tokenHash input conversion,
    quotaConversionInput ⟨quotas, reservations, digest, generation, tokenHash⟩ mode = .ok input ∧
      input.currentQuotas = quotas ∧ input.currentCapacityReservations = reservations ∧
      validateQuotaCapacityConversion H input mode = .ok conversion

theorem Ledger.heldBy {initial : List LockedQuotaCounter} {s : QuotaState}
    (ledger : Ledger H initial s)
    {reservations : List ApplicationAppendQuotaCapacityReservation} (hset : reservations ∈ s.live)
    {reservation : ApplicationAppendQuotaCapacityReservation} (hmem : reservation ∈ reservations)
    {quota : LockedQuotaCounter} (hquota : quota ∈ s.quotas)
    (hscope : reservation.scope = quota.scope) : HeldBy quota reservation := by
  have set := ledger.live reservations hset
  have made := set.made reservation hmem quota hquota hscope
  have hoperations := capacityAt_le_flatten operationsOf quota.scope hset
  have hbytes := capacityAt_le_flatten bytesOf quota.scope hset
  rw [capacityAt_of_mem set.scopes hmem hscope, ← ledger.reservedOperations quota hquota]
    at hoperations
  rw [capacityAt_of_mem set.scopes hmem hscope, ← ledger.reservedBytes quota hquota] at hbytes
  exact ⟨made.scopeHash, made.quotaName, made.windowStartedAt, made.windowSeconds, made.rowVersion,
    hoperations, hbytes⟩

theorem Ledger.canConvert {initial : List LockedQuotaCounter} {s : QuotaState}
    (ledger : Ledger H initial s) (versions : ∀ quota ∈ s.quotas, quota.rowVersion < uint63Max)
    {reservations : List ApplicationAppendQuotaCapacityReservation} (hset : reservations ∈ s.live)
    (safe : ¬ Collision H (reservations.map idInput)) (nonZero : ¬ ZeroId H reservations)
    (mode : ConversionMode) : CanConvert H s.quotas reservations mode := by
  have set := ledger.live reservations hset
  obtain ⟨digest, generation, tokenHash, howned⟩ := set.owned
  have hconvertible : ∀ quota ∈ s.quotas, Convertible reservations quota :=
    fun quota hquota => ⟨versions quota hquota,
      fun reservation hmem hscope => ledger.heldBy hset hmem hquota hscope⟩
  obtain ⟨input, hinput, haccepted⟩ := validate_accepts ledger.counters
    (set.usable safe nonZero) howned hconvertible mode
  refine ⟨digest, generation, tokenHash, input, _, hinput, ?_, ?_, haccepted⟩
  · obtain ⟨prepared, -, hbuilt⟩ := bind_ok.mp hinput
    rw [← Except.ok.inj hbuilt]
  · obtain ⟨prepared, -, hbuilt⟩ := bind_ok.mp hinput
    rw [← Except.ok.inj hbuilt]

/-- In every reached state the counters are the initial ones plus what was consumed, the
reserved counts are what is live, nothing exceeds its limit, and every live set can still be
finalized and released. -/
theorem quota_conserved (H : HashFunction) {initial : List LockedQuotaCounter}
    (value : List LockedQuotaCounter)
    (parsed : parseLockedQuotaCounters value = .ok initial)
    (unreserved : ∀ quota ∈ initial,
      quota.reservedOperationCount = 0 ∧ quota.reservedByteCount = 0)
    {s : QuotaState} (run : QuotaRun H ⟨initial, [], []⟩ s) :
    s.quotas.map LockedQuotaCounter.scope = quotaScopes ∧
    (∀ quota ∈ s.quotas,
      quota.reservedOperationCount = capacityAt operationsOf quota.scope s.live.flatten ∧
      quota.reservedByteCount = capacityAt bytesOf quota.scope s.live.flatten ∧
      quota.operationCount + quota.reservedOperationCount ≤ quota.operationLimit ∧
      quota.byteCount + quota.reservedByteCount ≤ quota.byteLimit ∧
      ∀ start ∈ initial, start.scope = quota.scope →
        quota.operationCount =
          start.operationCount + capacityAt operationsOf quota.scope s.consumed.flatten ∧
        quota.byteCount = start.byteCount + capacityAt bytesOf quota.scope s.consumed.flatten ∧
        quota.operationLimit = start.operationLimit ∧ quota.byteLimit = start.byteLimit) ∧
    ((∀ quota ∈ s.quotas, quota.rowVersion < uint63Max) →
      ∀ reservations ∈ s.live,
        (∀ mode, CanConvert H s.quotas reservations mode) ∨
          Collision H (reservations.map idInput) ∨ ZeroId H reservations) := by
  have counters := parseLockedQuotaCounters_eq_ok parsed
  have ledger := Ledger.run (Ledger.start counters unreserved) run
  have hnodup : (initial.map LockedQuotaCounter.scope).Nodup := by
    rw [counters.scopes]
    exact quotaScopes_nodup
  refine ⟨ledger.counters.scopes, ?_, ?_⟩
  · intro quota hquota
    have valid := ledger.counters.valid quota hquota
    refine ⟨ledger.reservedOperations quota hquota, ledger.reservedBytes quota hquota,
      valid.operations, valid.bytes, ?_⟩
    intro start hstart hscope
    obtain ⟨other, hother, hsame, hoperationLimit, hbyteLimit, hoperations, hbytes⟩ :=
      ledger.spent quota hquota
    obtain rfl : other = start :=
      List.inj_on_of_nodup_map hnodup hother hstart (hsame.trans hscope.symm)
    exact ⟨hoperations, hbytes, hoperationLimit.symm, hbyteLimit.symm⟩
  · intro versions reservations hset
    by_cases safe : Collision H (reservations.map idInput)
    · exact Or.inr (Or.inl safe)
    · by_cases nonZero : ZeroId H reservations
      · exact Or.inr (Or.inr nonZero)
      · exact Or.inl (ledger.canConvert versions hset safe nonZero)

def sampleHash : HashFunction where
  digest input :=
    UInt8.ofNat (input.foldl (fun acc byte => acc * 3 + byte.toNat) 0 % 251) ::
      List.replicate 31 1
  length_digest _ := by simp

def sampleNow : String := "2024-03-01T12:00:30.000Z"

def sampleDigest (byte : UInt8) : Bytes := List.replicate 32 byte

def sampleQuota (scope : QuotaScope) : LockedQuotaCounter :=
  ⟨scope, sampleDigest 1, "append", "2024-03-01T12:00:00.000Z", 3600, 2, 300, 0, 0, 9, 10, 1000⟩

def sampleConversation : LockedConversationState :=
  ⟨"realm", "conversation", "project", "tenant", .community, 1, "profile", sampleDigest 2,
    sampleDigest 3, sampleDigest 4, sampleDigest 5, .active, "\"e3-r2\"", 3, 2, sampleDigest 6, 2,
    sampleDigest 7, sampleDigest 8, 5, sampleDigest 9, 4, sampleDigest 10⟩

def sampleMembership : LockedSenderMembership :=
  ⟨"conversation", "account", "installation", "credential", sampleDigest 11, 1, .active, .active,
    "2024-04-01T00:00:00.000Z", 1, none⟩

def sampleGrant : LockedConversationSendGrant :=
  let unsealed : LockedConversationSendGrant :=
    ⟨"conversation", "installation", "credential", .community, 1, .member, "role",
      sampleDigest 12, "account", "installation", "2024-01-01T00:00:00.000Z",
      "2024-04-01T00:00:00.000Z", .active, 1, 4, sampleDigest 10, "2024-04-01T00:00:00.000Z",
      [], sampleDigest 13⟩
  { unsealed with
    grantEvidenceDigest := computeConversationSendGrantEvidenceDigest sampleHash unsealed }

def samplePolicyHead : LockedWitnessedPolicyHead :=
  ⟨"head", "conversation", 4, sampleDigest 10, 5, sampleDigest 9, 5, sampleDigest 9, 3, 2,
    sampleDigest 8, 1, sampleDigest 14, "signer", sampleDigest 15, sampleDigest 16,
    sampleDigest 17, sampleDigest 18, "2024-03-01T12:00:00.000Z", "2024-03-01T12:00:00.000Z",
    "2024-03-01T13:00:00.000Z", .verified, some "checkpoint", some (sampleDigest 10), 0,
    sampleDigest 19, sampleDigest 20, sampleGrant.grantEvidenceDigest, sampleDigest 13,
    sampleDigest 4, 3, sampleDigest 21, "prior", sampleDigest 22⟩

def sampleUsage : LockedConversationUsage := ⟨"conversation", 5, 500, 0, 100, 10000, 10000⟩

def sampleSnapshot : LockedApplicationAppendSnapshot :=
  ⟨sampleConversation, sampleMembership, samplePolicyHead, sampleGrant, 0, sampleUsage,
    quotaScopes.map fun scope =>
      ⟨scope, sampleDigest 1, "append", "2024-03-01T12:00:00.000Z", 3600, 10, 1000⟩,
    quotaScopes.map sampleQuota⟩

def sampleExpectation : ApplicationAppendExpectation :=
  ⟨"realm", "conversation", "account", "installation", "credential", sampleDigest 11, 1,
    "profile", sampleDigest 2, sampleDigest 4, "project", "tenant", sampleDigest 5,
    "\"e3-r2\"", 3, 2, sampleDigest 8, "head", 4, sampleDigest 10, 5, sampleDigest 9, 100, 20⟩

def sampleReservations : List ApplicationAppendQuotaCapacityReservation :=
  sampleSnapshot.quotas.map
    (reservationOf sampleHash (sampleDigest 23) 1 (sampleDigest 24) 120)

private theorem sample_counters : Counters sampleSnapshot.quotas := by
  refine ⟨?_, rfl⟩
  intro quota hquota
  obtain ⟨scope, -, rfl⟩ := List.mem_map.mp hquota
  have hname : isSigningKeyId "append" = true := rfl
  have hstart : isRfc3339Millis "2024-03-01T12:00:00.000Z" = true := rfl
  constructor <;> simp [sampleQuota, sampleDigest, uint63Max, hname, hstart]

private theorem sample_deltas :
    ∀ delta ∈ sampleSnapshot.quotas.map (deltaOf 120), ValidDelta delta := by
  intro delta hdelta
  obtain ⟨quota, hquota, rfl⟩ := List.mem_map.mp hdelta
  obtain ⟨scope, -, rfl⟩ := List.mem_map.mp hquota
  have valid := sample_counters.valid _ hquota
  refine ⟨rfl, rfl, ?_, valid.scopeHash, valid.quotaName, valid.windowStartedAt,
    valid.windowSeconds, ?_⟩ <;> simp [deltaOf, sampleQuota, uint63Max]

/-- One reservation on rows that had none. -/
theorem quota_conserved_reserved :
    CanConvert sampleHash (sampleSnapshot.quotas.map (reservedBy 120)) sampleReservations
        .finalize ∧
      CanConvert sampleHash (sampleSnapshot.quotas.map (reservedBy 120)) sampleReservations
        .release := by
  have allowed : evaluateLockedApplicationAppend sampleHash sampleSnapshot sampleExpectation
      sampleNow = .allowed ⟨6, ⟨"conversation", 6, 600, 20, 100, 10000, 10000⟩,
        sampleSnapshot.quotas.map (deltaOf 120), sampleSnapshot.quotas.map (reservedBy 120)⟩ := by
    decide +kernel
  have bound : bindApplicationAppendQuotaCapacityReservations sampleHash
      (sampleSnapshot.quotas.map (deltaOf 120)) (sampleDigest 23) 1 (sampleDigest 24) =
        .ok sampleReservations :=
    (bindReservations_eq_ok rfl).mpr ⟨sample_deltas, rfl, by decide, by decide, rfl⟩
  have run : QuotaRun sampleHash ⟨sampleSnapshot.quotas, [], []⟩
      ⟨sampleSnapshot.quotas.map (reservedBy 120), [sampleReservations], []⟩ :=
    Relation.ReflTransGen.single (.reserve rfl allowed bound)
  obtain ⟨-, -, hconvert⟩ := quota_conserved sampleHash sampleSnapshot.quotas
    (parseLockedQuotaCounters_of_counters sample_counters) (by decide) run
  rcases hconvert (by decide +kernel) sampleReservations List.mem_cons_self with h | h | h
  · exact ⟨h .finalize, h .release⟩
  · exact absurd h (by decide +kernel)
  · exact absurd h (by unfold ZeroId; decide +kernel)

end JbChat.Delivery.QuotaConservation
