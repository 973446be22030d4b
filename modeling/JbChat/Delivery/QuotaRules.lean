/- source: src/production/delivery/state.ts
   digest: What the quota parsers accept and what one reservation or conversion does to a row. -/

import JbChat.Delivery.Quota
import JbChat.Foundation.GapFree

set_option autoImplicit false

namespace JbChat.Delivery.QuotaRules

open Foundation Foundation.GapFree Foundation.HashTrace Foundation.Transaction
open ValueObjects Instants Snapshot Quota

section

variable {label : String}

theorem checkUint63_eq_ok {value parsed : Nat} :
    checkUint63 value label = .ok parsed ↔ value ≤ uint63Max ∧ parsed = value := by
  constructor
  · intro h
    obtain ⟨hrepr, hbound⟩ := parseUint63String_eq_ok h
    have hsame : value = parsed := repr_injective hrepr
    exact ⟨hsame ▸ hbound, hsame.symm⟩
  · rintro ⟨hbound, rfl⟩
    exact parseUint63String_repr hbound label

theorem parsePositiveUint63_eq_ok {value parsed : Nat} :
    parsePositiveUint63 value label = .ok parsed ↔
      1 ≤ value ∧ value ≤ uint63Max ∧ parsed = value := by
  unfold parsePositiveUint63
  rw [bind_ok]
  constructor
  · rintro ⟨inner, hinner, h⟩
    obtain ⟨hbound, rfl⟩ := checkUint63_eq_ok.mp hinner
    split_ifs at h with hzero
    exact ⟨Nat.pos_of_ne_zero hzero, hbound, (Except.ok.inj h).symm⟩
  · rintro ⟨hpositive, hbound, rfl⟩
    refine ⟨parsed, checkUint63_eq_ok.mpr ⟨hbound, rfl⟩, ?_⟩
    rw [if_neg (by omega)]

theorem checkHash32_eq_ok {value parsed : Bytes} :
    checkHash32 value label = .ok parsed ↔ value.length = 32 ∧ parsed = value := by
  constructor
  · intro h
    obtain ⟨hlength, htext⟩ := decodeHash32_eq_ok h
    have hsame := Base64Url.encode_injective htext
    exact ⟨hsame ▸ hlength, hsame⟩
  · rintro ⟨hlength, rfl⟩
    have hparse := parseHash32_encode hlength label
    rw [parseHash32] at hparse
    unfold checkHash32 decodeHash32
    rw [hparse]
    change Except.ok _ = _
    rw [Base64Url.decode_encode]

theorem parseNonZeroHash32_eq_ok {value parsed : Bytes} :
    parseNonZeroHash32 value label = .ok parsed ↔
      value.length = 32 ∧ value ≠ List.replicate 32 0 ∧ parsed = value := by
  unfold parseNonZeroHash32
  rw [bind_ok]
  constructor
  · rintro ⟨inner, hinner, h⟩
    obtain ⟨hlength, rfl⟩ := checkHash32_eq_ok.mp hinner
    split_ifs at h with hzero
    exact ⟨hlength, hzero, (Except.ok.inj h).symm⟩
  · rintro ⟨hlength, hzero, rfl⟩
    refine ⟨parsed, checkHash32_eq_ok.mpr ⟨hlength, rfl⟩, ?_⟩
    rw [if_neg hzero]

theorem parseQuotaName_eq_ok {value parsed : String} :
    parseQuotaName value label = .ok parsed ↔ isSigningKeyId value = true ∧ parsed = value := by
  unfold parseQuotaName
  split_ifs with h
  · simp [h, eq_comm]
  · simp [h]

end

section

variable {α : Type} {P : α → Prop} {scope : α → QuotaScope} {rows parsed : List α}

theorem parseEach_eq_ok {parse : α → Nat → Except Failure α}
    (spec : ∀ entry index parsed, parse entry index = .ok parsed ↔ P entry ∧ parsed = entry)
    {index : Nat} : parseEach parse rows index = .ok parsed ↔
      (∀ row ∈ rows, P row) ∧ parsed = rows := by
  induction rows generalizing parsed index with
  | nil => simp [parseEach, eq_comm]
  | cons row rows ih =>
    unfold parseEach
    simp only [bind_ok, spec, ih, List.forall_mem_cons]
    constructor
    · rintro ⟨_, ⟨hrow, rfl⟩, _, ⟨hrows, rfl⟩, h⟩
      exact ⟨⟨hrow, hrows⟩, (Except.ok.inj h).symm⟩
    · rintro ⟨⟨hrow, hrows⟩, rfl⟩
      exact ⟨row, ⟨hrow, rfl⟩, rows, ⟨hrows, rfl⟩, rfl⟩

theorem quotaScopes_nodup : quotaScopes.Nodup := by decide

theorem mem_quotaScopes (s : QuotaScope) : s ∈ quotaScopes := by
  cases s <;> decide

theorem keyed_scope (scopes : rows.map scope = quotaScopes) {row : α} (hrow : row ∈ rows) :
    keyed scope (scope row) rows = [row] := by
  have hnodup : (rows.map scope).Nodup := by
    rw [scopes]
    exact quotaScopes_nodup
  exact keyed_of_nodup hnodup hrow

theorem find_scope (scopes : rows.map scope = quotaScopes) {row : α} (hrow : row ∈ rows) :
    (rows.find? fun other => decide (scope other = scope row)) = some row := by
  rw [← List.head?_filter]
  change (keyed scope (scope row) rows).head? = _
  rw [keyed_scope scopes hrow]
  rfl

theorem exists_scope (scopes : rows.map scope = quotaScopes) (s : QuotaScope) :
    ∃ row ∈ rows, scope row = s := by
  have hmem : s ∈ rows.map scope := by
    rw [scopes]
    exact mem_quotaScopes s
  exact List.mem_map.mp hmem

theorem orderByScope_of_ordered (scopes : rows.map scope = quotaScopes) (message : String) :
    orderByScope scope rows message = .ok rows := by
  unfold orderByScope
  rw [if_neg]
  · congr 1
    rw [← scopes, List.filterMap_map]
    have hself : ∀ row ∈ rows, ((fun s => rows.find? fun other => decide (scope other = s)) ∘
        scope) row = some row := fun row hrow => find_scope scopes hrow
    rw [List.filterMap_congr hself]
    exact List.filterMap_some
  · rw [List.any_eq_true]
    rintro ⟨s, -, hs⟩
    obtain ⟨row, hrow, rfl⟩ := exists_scope scopes s
    have hlength := of_decide_eq_true hs
    change (keyed scope (scope row) rows).length ≠ 1 at hlength
    rw [keyed_scope scopes hrow] at hlength
    exact hlength rfl

theorem orderByScope_eq_ok {message : String} (h : orderByScope scope rows message = .ok parsed) :
    parsed.map scope = quotaScopes ∧ ∀ row, row ∈ parsed ↔ row ∈ rows := by
  unfold orderByScope at h
  split_ifs at h with hany
  cases h
  rw [List.any_eq_true] at hany
  push Not at hany
  have hone : ∀ s, ∃ row, (rows.filter fun row => decide (scope row = s)) = [row] := by
    intro s
    have hlength := hany s (mem_quotaScopes s)
    rw [ne_eq, decide_eq_true_eq, not_not] at hlength
    exact List.length_eq_one_iff.mp hlength
  have hfound : ∀ s, ∃ row, rows.find? (fun row => decide (scope row = s)) = some row := by
    intro s
    obtain ⟨row, hrow⟩ := hone s
    refine ⟨row, ?_⟩
    rw [← List.head?_filter, hrow]
    rfl
  constructor
  · have hmap : ∀ scopes : List QuotaScope,
        (scopes.filterMap fun s => rows.find? fun row => decide (scope row = s)).map scope =
          scopes := by
      intro scopes
      induction scopes with
      | nil => rfl
      | cons s scopes ih =>
        obtain ⟨row, hrow⟩ := hfound s
        rw [List.filterMap_cons]
        simp only [hrow, List.map_cons]
        rw [ih]
        have hscope : scope row = s := by simpa using List.find?_some hrow
        rw [hscope]
    exact hmap quotaScopes
  · intro row
    constructor
    · intro hrow
      obtain ⟨s, -, hs⟩ := List.mem_filterMap.mp hrow
      exact List.mem_of_find?_eq_some hs
    · intro hrow
      obtain ⟨only, honly⟩ := hone (scope row)
      have hself : row ∈ rows.filter fun other => decide (scope other = scope row) :=
        List.mem_filter.mpr ⟨hrow, by simp⟩
      rw [honly, List.mem_singleton] at hself
      refine List.mem_filterMap.mpr ⟨scope row, mem_quotaScopes _, ?_⟩
      rw [← List.head?_filter, honly, hself]
      rfl

end

/-- The facts that a parsed counter row carries. -/
structure ValidCounter (quota : LockedQuotaCounter) : Prop where
  scopeHash : quota.scopeHash.length = 32
  quotaName : isSigningKeyId quota.quotaName = true
  windowStartedAt : isRfc3339Millis quota.windowStartedAt = true
  windowSeconds : 1 ≤ quota.windowSeconds ∧ quota.windowSeconds ≤ uint63Max
  rowVersion : quota.rowVersion ≤ uint63Max
  operationLimit : quota.operationLimit ≤ uint63Max
  byteLimit : quota.byteLimit ≤ uint63Max
  operations : quota.operationCount + quota.reservedOperationCount ≤ quota.operationLimit
  bytes : quota.byteCount + quota.reservedByteCount ≤ quota.byteLimit

theorem parseLockedQuotaCounter_eq_ok (quota : LockedQuotaCounter) (index : Nat)
    (parsed : LockedQuotaCounter) :
    parseLockedQuotaCounter quota index = .ok parsed ↔ ValidCounter quota ∧ parsed = quota := by
  unfold parseLockedQuotaCounter
  simp only [bind_ok, checkHash32_eq_ok, parseQuotaName_eq_ok, parseRfc3339Millis_eq_ok,
    parsePositiveUint63_eq_ok, checkUint63_eq_ok]
  constructor
  · rintro ⟨_, ⟨hhash, rfl⟩, _, ⟨hname, rfl⟩, _, ⟨hstart, rfl⟩, _, ⟨hpositive, hwindow, rfl⟩,
      _, ⟨-, rfl⟩, _, ⟨-, rfl⟩, _, ⟨-, rfl⟩, _, ⟨-, rfl⟩, _, ⟨hversion, rfl⟩,
      _, ⟨hoperationLimit, rfl⟩, _, ⟨hbyteLimit, rfl⟩, h⟩
    split_ifs at h with hlimit
    push Not at hlimit
    exact ⟨⟨hhash, hname, hstart, ⟨hpositive, hwindow⟩, hversion, hoperationLimit, hbyteLimit,
      hlimit.1, hlimit.2⟩, (Except.ok.inj h).symm⟩
  · rintro ⟨valid, rfl⟩
    have hoperations := valid.operations
    have hbytes := valid.bytes
    have hoperationLimit := valid.operationLimit
    have hbyteLimit := valid.byteLimit
    refine ⟨_, ⟨valid.scopeHash, rfl⟩, _, ⟨valid.quotaName, rfl⟩, _, ⟨valid.windowStartedAt, rfl⟩,
      _, ⟨valid.windowSeconds.1, valid.windowSeconds.2, rfl⟩, _, ⟨by omega, rfl⟩, _,
      ⟨by omega, rfl⟩, _, ⟨by omega, rfl⟩, _, ⟨by omega, rfl⟩, _, ⟨valid.rowVersion, rfl⟩, _,
      ⟨hoperationLimit, rfl⟩, _, ⟨hbyteLimit, rfl⟩, ?_⟩
    rw [if_neg (by omega)]

structure Counters (quotas : List LockedQuotaCounter) : Prop where
  valid : ∀ quota ∈ quotas, ValidCounter quota
  scopes : quotas.map LockedQuotaCounter.scope = quotaScopes

theorem parseLockedQuotaCounters_of_counters {quotas : List LockedQuotaCounter}
    (counters : Counters quotas) : parseLockedQuotaCounters quotas = .ok quotas := by
  have hlength : quotas.length = quotaScopes.length := by
    rw [← counters.scopes, List.length_map]
  unfold parseLockedQuotaCounters
  rw [if_neg (not_not.mpr hlength), bind_ok]
  exact ⟨quotas, (parseEach_eq_ok parseLockedQuotaCounter_eq_ok).mpr ⟨counters.valid, rfl⟩,
    orderByScope_of_ordered counters.scopes _⟩

theorem parseLockedQuotaCounters_eq_ok {value quotas : List LockedQuotaCounter}
    (h : parseLockedQuotaCounters value = .ok quotas) : Counters quotas := by
  unfold parseLockedQuotaCounters at h
  split_ifs at h
  obtain ⟨parsed, hparsed, horder⟩ := bind_ok.mp h
  obtain ⟨hvalid, rfl⟩ := (parseEach_eq_ok parseLockedQuotaCounter_eq_ok).mp hparsed
  obtain ⟨hscopes, hmem⟩ := orderByScope_eq_ok horder
  exact ⟨fun quota hquota => hvalid quota ((hmem quota).mp hquota), hscopes⟩

/-- The facts that a parsed delta carries. -/
structure ValidDelta (delta : ApplicationAppendQuotaCapacityDelta) : Prop where
  operations : delta.reservationOperationCount = 1
  rowVersion : delta.rowVersionAfter = delta.rowVersionBefore + 1
  rowVersionBound : delta.rowVersionAfter ≤ uint63Max
  scopeHash : delta.scopeHash.length = 32
  quotaName : isSigningKeyId delta.quotaName = true
  windowStartedAt : isRfc3339Millis delta.windowStartedAt = true
  windowSeconds : 1 ≤ delta.windowSeconds ∧ delta.windowSeconds ≤ uint63Max
  bytes : delta.reservationByteCount ≤ uint63Max

theorem addUint63_eq_some {value : Nat} {increment : Int} {result : Nat} :
    addUint63 value increment = some result ↔
      (value : Int) + increment = result ∧ result ≤ uint63Max := by
  unfold addUint63
  dsimp only
  split_ifs with h
  · constructor
    · intro hnone
      cases hnone
    · rintro ⟨hsum, hbound⟩
      omega
  · rw [Option.some.injEq]
    constructor
    · rintro rfl
      omega
    · rintro ⟨hsum, -⟩
      rw [hsum]
      rfl

theorem parseQuotaCapacityDeltaRecord_eq_ok (delta : ApplicationAppendQuotaCapacityDelta)
    (index : Nat) (parsed : ApplicationAppendQuotaCapacityDelta) :
    parseQuotaCapacityDeltaRecord delta index = .ok parsed ↔
      ValidDelta delta ∧ parsed = delta := by
  unfold parseQuotaCapacityDeltaRecord
  simp only [bind_ok, checkUint63_eq_ok]
  constructor
  · rintro ⟨_, ⟨hbefore, rfl⟩, _, ⟨hafter, rfl⟩, h⟩
    split_ifs at h with hfence
    push Not at hfence
    simp only [bind_ok, checkHash32_eq_ok, parseQuotaName_eq_ok,
      parseRfc3339Millis_eq_ok, parsePositiveUint63_eq_ok, checkUint63_eq_ok] at h
    obtain ⟨_, ⟨hhash, rfl⟩, _, ⟨hname, rfl⟩, _, ⟨hstart, rfl⟩, _, ⟨hpositive, hwindow, rfl⟩,
      _, ⟨hbytes, rfl⟩, h⟩ := h
    have hnext := (addUint63_eq_some.mp hfence.2).1
    refine ⟨⟨hfence.1, by omega, hafter, hhash, hname, hstart, ⟨hpositive, hwindow⟩, hbytes⟩, ?_⟩
    rw [← Except.ok.inj h, ← hfence.1]
  · rintro ⟨valid, rfl⟩
    have hafter := valid.rowVersion
    have hbound := valid.rowVersionBound
    refine ⟨_, ⟨by omega, rfl⟩, _, ⟨hbound, rfl⟩, ?_⟩
    rw [if_neg]
    · simp only [bind_ok, checkHash32_eq_ok, parseQuotaName_eq_ok,
        parseRfc3339Millis_eq_ok, parsePositiveUint63_eq_ok, checkUint63_eq_ok]
      refine ⟨_, ⟨valid.scopeHash, rfl⟩, _, ⟨valid.quotaName, rfl⟩, _,
        ⟨valid.windowStartedAt, rfl⟩, _, ⟨valid.windowSeconds.1, valid.windowSeconds.2, rfl⟩, _,
        ⟨valid.bytes, rfl⟩, ?_⟩
      rw [← valid.operations]
    · rintro (hone | hnext)
      · exact hone valid.operations
      · exact hnext (addUint63_eq_some.mpr ⟨by omega, hbound⟩)

section

variable {H : HashFunction} {reservations : List ApplicationAppendQuotaCapacityReservation}
  {deltas : List ApplicationAppendQuotaCapacityDelta} {digest tokenHash : Bytes} {generation : Nat}

/-- The facts that a parsed reservation carries, apart from its ID not being zero. -/
structure BoundReservation (H : HashFunction)
    (reservation : ApplicationAppendQuotaCapacityReservation) : Prop where
  delta : ValidDelta reservation.toApplicationAppendQuotaCapacityDelta
  digest : reservation.pendingPreparationDigest.length = 32
  generation : 1 ≤ reservation.fenceGeneration ∧ reservation.fenceGeneration ≤ uint63Max
  token : reservation.fenceTokenHash.length = 32 ∧
    reservation.fenceTokenHash ≠ List.replicate 32 0
  id : reservation.reservationId = computeApplicationAppendQuotaReservationId H
    reservation.pendingPreparationDigest reservation.fenceGeneration reservation.fenceTokenHash
    reservation.toApplicationAppendQuotaCapacityDelta

theorem parseReservation_eq_ok (reservation : ApplicationAppendQuotaCapacityReservation)
    (index : Nat) (parsed : ApplicationAppendQuotaCapacityReservation) :
    parseReservation H reservation index = .ok parsed ↔
      (BoundReservation H reservation ∧ reservation.reservationId ≠ List.replicate 32 0) ∧
        parsed = reservation := by
  unfold parseReservation
  simp only [bind_ok, parseQuotaCapacityDeltaRecord_eq_ok, checkHash32_eq_ok,
    parsePositiveUint63_eq_ok, parseNonZeroHash32_eq_ok]
  constructor
  · rintro ⟨_, ⟨hdelta, rfl⟩, _, ⟨hdigest, rfl⟩, _, ⟨hpositive, hgeneration, rfl⟩, _,
      ⟨htoken, htokenZero, rfl⟩, _, ⟨-, hzero, rfl⟩, h⟩
    split_ifs at h with hid
    exact ⟨⟨⟨hdelta, hdigest, ⟨hpositive, hgeneration⟩, ⟨htoken, htokenZero⟩, not_not.mp hid⟩,
      hzero⟩, (Except.ok.inj h).symm⟩
  · rintro ⟨⟨bound, hzero⟩, rfl⟩
    have hsize : parsed.reservationId.length = 32 := by
      rw [bound.id]
      exact H.length_digest _
    refine ⟨_, ⟨bound.delta, rfl⟩, _, ⟨bound.digest, rfl⟩, _, ⟨bound.generation.1,
      bound.generation.2, rfl⟩, _, ⟨bound.token.1, bound.token.2, rfl⟩, _, ⟨hsize, hzero, rfl⟩, ?_⟩
    rw [if_neg (not_not.mpr bound.id)]

/-- Reservations with one scope each, whose IDs are usable. -/
structure Reservations (H : HashFunction)
    (reservations : List ApplicationAppendQuotaCapacityReservation) : Prop where
  bound : ∀ reservation ∈ reservations, BoundReservation H reservation
  scopes : (reservations.map fun reservation => reservation.scope) = quotaScopes
  nonZero : ∀ reservation ∈ reservations, reservation.reservationId ≠ List.replicate 32 0
  distinct : (reservations.map fun reservation => reservation.reservationId).Nodup

theorem parseReservations_of_reservations (h : Reservations H reservations) :
    parseApplicationAppendQuotaCapacityReservations H reservations = .ok reservations := by
  have hlength : reservations.length = quotaScopes.length := by
    rw [← h.scopes, List.length_map]
  unfold parseApplicationAppendQuotaCapacityReservations
  rw [if_neg (not_not.mpr hlength), bind_ok]
  refine ⟨reservations, (parseEach_eq_ok parseReservation_eq_ok).mpr
    ⟨fun reservation hmem => ⟨h.bound reservation hmem, h.nonZero reservation hmem⟩, rfl⟩, ?_⟩
  rw [bind_ok]
  refine ⟨reservations, orderByScope_of_ordered h.scopes _, ?_⟩
  rw [if_neg (not_not.mpr h.distinct)]

theorem parseReservations_eq_ok {value parsed : List ApplicationAppendQuotaCapacityReservation}
    (scopes : (value.map fun reservation => reservation.scope) = quotaScopes)
    (h : parseApplicationAppendQuotaCapacityReservations H value = .ok parsed) :
    parsed = value := by
  unfold parseApplicationAppendQuotaCapacityReservations at h
  split_ifs at h
  obtain ⟨rows, hrows, hchecked⟩ := bind_ok.mp h
  obtain ⟨-, rfl⟩ := (parseEach_eq_ok parseReservation_eq_ok).mp hrows
  obtain ⟨ordered, horder, hdistinct⟩ := bind_ok.mp hchecked
  rw [orderByScope_of_ordered scopes] at horder
  cases horder
  split_ifs at hdistinct
  exact (Except.ok.inj hdistinct).symm

theorem parseDeltas_eq_ok {parsed : List ApplicationAppendQuotaCapacityDelta}
    (scopes : deltas.map ApplicationAppendQuotaCapacityDelta.scope = quotaScopes) :
    parseApplicationAppendQuotaCapacityDeltas deltas = .ok parsed ↔
      (∀ delta ∈ deltas, ValidDelta delta) ∧ parsed = deltas := by
  have hlength : deltas.length = quotaScopes.length := by
    rw [← scopes, List.length_map]
  unfold parseApplicationAppendQuotaCapacityDeltas
  rw [if_neg (not_not.mpr hlength)]
  simp only [bind_ok, parseEach_eq_ok parseQuotaCapacityDeltaRecord_eq_ok]
  constructor
  · rintro ⟨_, ⟨hvalid, rfl⟩, horder⟩
    rw [orderByScope_of_ordered scopes] at horder
    exact ⟨hvalid, (Except.ok.inj horder).symm⟩
  · rintro ⟨hvalid, rfl⟩
    exact ⟨_, ⟨hvalid, rfl⟩, orderByScope_of_ordered scopes _⟩

theorem bindReservations_eq_ok
    (scopes : deltas.map ApplicationAppendQuotaCapacityDelta.scope = quotaScopes) :
    bindApplicationAppendQuotaCapacityReservations H deltas digest generation tokenHash =
        .ok reservations ↔
      (∀ delta ∈ deltas, ValidDelta delta) ∧ digest.length = 32 ∧
        (1 ≤ generation ∧ generation ≤ uint63Max) ∧
        (tokenHash.length = 32 ∧ tokenHash ≠ List.replicate 32 0) ∧
        reservations = deltas.map (bindReservation H digest generation tokenHash) := by
  unfold bindApplicationAppendQuotaCapacityReservations
  simp only [bind_ok, parseDeltas_eq_ok scopes, checkHash32_eq_ok,
    parsePositiveUint63_eq_ok, parseNonZeroHash32_eq_ok]
  constructor
  · rintro ⟨_, ⟨hvalid, rfl⟩, _, ⟨hdigest, rfl⟩, _, ⟨hpositive, hgeneration, rfl⟩, _,
      ⟨htoken, hzero, rfl⟩, h⟩
    exact ⟨hvalid, hdigest, ⟨hpositive, hgeneration⟩, ⟨htoken, hzero⟩, (Except.ok.inj h).symm⟩
  · rintro ⟨hvalid, hdigest, ⟨hpositive, hgeneration⟩, ⟨htoken, hzero⟩, rfl⟩
    exact ⟨_, ⟨hvalid, rfl⟩, _, ⟨hdigest, rfl⟩, _, ⟨hpositive, hgeneration, rfl⟩, _,
      ⟨htoken, hzero, rfl⟩, rfl⟩

theorem bound_of_bindReservations
    (scopes : deltas.map ApplicationAppendQuotaCapacityDelta.scope = quotaScopes)
    (h : bindApplicationAppendQuotaCapacityReservations H deltas digest generation tokenHash =
      .ok reservations) :
    ∀ reservation ∈ reservations, BoundReservation H reservation := by
  obtain ⟨hvalid, hdigest, hgeneration, htoken, rfl⟩ := (bindReservations_eq_ok scopes).mp h
  intro reservation hmem
  obtain ⟨delta, hdelta, rfl⟩ := List.mem_map.mp hmem
  exact ⟨hvalid delta hdelta, hdigest, hgeneration, htoken, rfl⟩

end

section

variable {mode : ConversionMode}

def deltaOf (totalChargedBytes : Nat) (quota : LockedQuotaCounter) :
    ApplicationAppendQuotaCapacityDelta :=
  ⟨quota.scope, quota.scopeHash, quota.quotaName, quota.windowStartedAt, quota.windowSeconds, 1,
    totalChargedBytes, quota.rowVersion, quota.rowVersion + 1⟩

/-- The row with one more reservation. -/
def reservedBy (totalChargedBytes : Nat) (quota : LockedQuotaCounter) : LockedQuotaCounter :=
  { quota with
    reservedOperationCount := quota.reservedOperationCount + 1
    reservedByteCount := quota.reservedByteCount + totalChargedBytes
    rowVersion := quota.rowVersion + 1 }

/-- The row has room for one more reservation. -/
structure HasRoom (totalChargedBytes : Nat) (quota : LockedQuotaCounter) : Prop where
  operations : quota.operationCount + (quota.reservedOperationCount + 1) ≤ quota.operationLimit
  bytes : quota.byteCount + (quota.reservedByteCount + totalChargedBytes) ≤ quota.byteLimit
  rowVersion : quota.rowVersion + 1 ≤ uint63Max

variable {bindings : List ExpectedAppendQuotaIdentity} {totalChargedBytes : Nat} {now : String}

theorem reserveQuota_eq_ok {quota reserved : LockedQuotaCounter}
    {delta : ApplicationAppendQuotaCapacityDelta}
    (h : reserveQuota bindings totalChargedBytes now quota = .ok (delta, reserved)) :
    HasRoom totalChargedBytes quota ∧ delta = deltaOf totalChargedBytes quota ∧
      reserved = reservedBy totalChargedBytes quota := by
  unfold reserveQuota at h
  split_ifs at h
  split at h
  · rename_i _ _ reservedOperations reservedBytes version _ _ hoperations hbytes hversion
    obtain ⟨hoperations, -⟩ := addUint63_eq_some.mp hoperations
    obtain ⟨hbytes, -⟩ := addUint63_eq_some.mp hbytes
    obtain ⟨hversion, hbound⟩ := addUint63_eq_some.mp hversion
    obtain rfl : reservedOperations = quota.reservedOperationCount + 1 := by omega
    obtain rfl : reservedBytes = quota.reservedByteCount + totalChargedBytes := by omega
    obtain rfl : version = quota.rowVersion + 1 := by omega
    split_ifs at h with hlimit
    push Not at hlimit
    cases h
    exact ⟨⟨hlimit.1, hlimit.2, hbound⟩, rfl, rfl⟩
  · cases h

theorem reserveQuotas_eq_ok {quotas reserved : List LockedQuotaCounter}
    {deltas : List ApplicationAppendQuotaCapacityDelta}
    (h : reserveQuotas bindings totalChargedBytes now quotas = .ok (deltas, reserved)) :
    (∀ quota ∈ quotas, HasRoom totalChargedBytes quota) ∧
      deltas = quotas.map (deltaOf totalChargedBytes) ∧
      reserved = quotas.map (reservedBy totalChargedBytes) := by
  induction quotas generalizing deltas reserved with
  | nil =>
    cases h
    exact ⟨fun _ hmem => absurd hmem List.not_mem_nil, rfl, rfl⟩
  | cons quota quotas ih =>
    unfold reserveQuotas at h
    obtain ⟨⟨delta, first⟩, hfirst, h⟩ := bind_ok.mp h
    obtain ⟨⟨others, rest⟩, hrest, h⟩ := bind_ok.mp h
    obtain ⟨hroom, rfl, rfl⟩ := reserveQuota_eq_ok hfirst
    obtain ⟨hrooms, rfl, rfl⟩ := ih hrest
    cases h
    exact ⟨List.forall_mem_cons.mpr ⟨hroom, hrooms⟩, rfl, rfl⟩

theorem reserveQuotas_of_room {quotas : List LockedQuotaCounter}
    (valid : ∀ quota ∈ quotas, ValidCounter quota)
    (bound : ∀ quota ∈ quotas, quotaIsBound bindings now quota = true)
    (room : ∀ quota ∈ quotas, HasRoom totalChargedBytes quota) :
    reserveQuotas bindings totalChargedBytes now quotas =
      .ok (quotas.map (deltaOf totalChargedBytes), quotas.map (reservedBy totalChargedBytes)) := by
  induction quotas with
  | nil => rfl
  | cons quota quotas ih =>
    simp only [List.forall_mem_cons] at valid bound room
    have first : reserveQuota bindings totalChargedBytes now quota =
        .ok (deltaOf totalChargedBytes quota, reservedBy totalChargedBytes quota) := by
      have hoperations := room.1.operations
      have hbytes := room.1.bytes
      have hversion := room.1.rowVersion
      have hoperationLimit := valid.1.operationLimit
      have hbyteLimit := valid.1.byteLimit
      have next {value : Nat} (h : value + 1 ≤ uint63Max) :
          addUint63 value 1 = some (value + 1) :=
        addUint63_eq_some.mpr ⟨by omega, h⟩
      have charged {value : Nat} (h : value + totalChargedBytes ≤ uint63Max) :
          addUint63 value totalChargedBytes = some (value + totalChargedBytes) :=
        addUint63_eq_some.mpr ⟨by omega, h⟩
      unfold reserveQuota
      rw [if_neg (not_not.mpr bound.1), next (by omega), charged (by omega), next (by omega),
        charged (by omega), next hversion]
      dsimp only
      rw [if_neg (by omega)]
      rfl
    rw [reserveQuotas, first, List.map_cons, List.map_cons]
    exact bind_ok.mpr ⟨_, rfl, bind_ok.mpr
      ⟨_, ih valid.2 bound.2 room.2, rfl⟩⟩

theorem evaluate_eq_allowed {H : HashFunction} {snapshot : LockedApplicationAppendSnapshot}
    {expectation : ApplicationAppendExpectation} {append : AllowedAppend}
    (h : evaluateLockedApplicationAppend H snapshot expectation now = .allowed append) :
    ∃ totalChargedBytes, (∀ quota ∈ snapshot.quotas, HasRoom totalChargedBytes quota) ∧
      append.quotaCapacityDeltas = snapshot.quotas.map (deltaOf totalChargedBytes) ∧
      append.postReservationQuotas = snapshot.quotas.map (reservedBy totalChargedBytes) := by
  unfold evaluateLockedApplicationAppend at h
  split at h
  · cases h
  · dsimp only at h
    split at h
    · cases h
    · split at h
      · cases h
      · rename_i hreserve
        obtain ⟨hroom, hdeltas, hquotas⟩ := reserveQuotas_eq_ok hreserve
        obtain rfl := LockedApplicationAppendDecision.allowed.inj h
        exact ⟨_, hroom, hdeltas, hquotas⟩

structure HeldBy (quota : LockedQuotaCounter)
    (reservation : ApplicationAppendQuotaCapacityReservation) : Prop where
  scopeHash : reservation.scopeHash = quota.scopeHash
  quotaName : reservation.quotaName = quota.quotaName
  windowStartedAt : reservation.windowStartedAt = quota.windowStartedAt
  windowSeconds : reservation.windowSeconds = quota.windowSeconds
  rowVersion : reservation.rowVersionAfter ≤ quota.rowVersion
  operations : reservation.reservationOperationCount ≤ quota.reservedOperationCount
  bytes : reservation.reservationByteCount ≤ quota.reservedByteCount

/-- The row after its reservation was consumed or released. -/
def converted (mode : ConversionMode) (operations bytes : Nat) (quota : LockedQuotaCounter) :
    LockedQuotaCounter :=
  { quota with
    operationCount := quota.operationCount + if mode = .finalize then operations else 0
    byteCount := quota.byteCount + if mode = .finalize then bytes else 0
    reservedOperationCount := quota.reservedOperationCount - operations
    reservedByteCount := quota.reservedByteCount - bytes
    rowVersion := quota.rowVersion + 1 }

private theorem convertCount_eq {count reservation : Nat} (h : count + reservation ≤ uint63Max) :
    convertCount mode count reservation =
      some (count + if mode = .finalize then reservation else 0) := by
  cases mode with
  | finalize => exact addUint63_eq_some.mpr ⟨by simp, by simpa using h⟩
  | release => rfl

private theorem ite_le_self (mode : ConversionMode) (amount : Nat) :
    (if mode = .finalize then amount else 0) ≤ amount := by
  split_ifs
  · exact Nat.le_refl amount
  · exact Nat.zero_le amount

/-- A row converts exactly when it holds the reservation and its version can still move;
no other guard can fail on a valid row. -/
theorem convertRow_eq_ok {quota after : LockedQuotaCounter}
    {reservation : ApplicationAppendQuotaCapacityReservation} (valid : ValidCounter quota) :
    convertRow mode quota reservation = .ok after ↔
      HeldBy quota reservation ∧ quota.rowVersion < uint63Max ∧
        after = converted mode reservation.reservationOperationCount
          reservation.reservationByteCount quota := by
  have hoperations := valid.operations
  have hbytes := valid.bytes
  have hoperationLimit := valid.operationLimit
  have hbyteLimit := valid.byteLimit
  unfold convertRow
  split_ifs with hrow
  · constructor
    · intro h
      cases h
    · rintro ⟨held, -, -⟩
      rcases hrow with h | h | h | h | h | h | h
      · exact absurd held.scopeHash h
      · exact absurd held.quotaName h
      · exact absurd held.windowStartedAt h
      · exact absurd held.windowSeconds h
      · exact absurd held.rowVersion (Nat.not_le.mpr h)
      · exact absurd held.operations (Nat.not_le.mpr h)
      · exact absurd held.bytes (Nat.not_le.mpr h)
  · push Not at hrow
    obtain ⟨hhash, hname, hstart, hseconds, hversion, hheldOperations, hheldBytes⟩ := hrow
    have held : HeldBy quota reservation :=
      ⟨hhash, hname, hstart, hseconds, hversion, hheldOperations, hheldBytes⟩
    have hreserved : subtractUint63 quota.reservedOperationCount
        reservation.reservationOperationCount =
          some (quota.reservedOperationCount - reservation.reservationOperationCount) :=
      addUint63_eq_some.mpr ⟨by omega, by omega⟩
    have hreservedBytes : subtractUint63 quota.reservedByteCount
        reservation.reservationByteCount =
          some (quota.reservedByteCount - reservation.reservationByteCount) :=
      addUint63_eq_some.mpr ⟨by omega, by omega⟩
    have hcount : convertCount mode quota.operationCount reservation.reservationOperationCount =
        some (quota.operationCount +
          if mode = .finalize then reservation.reservationOperationCount else 0) :=
      convertCount_eq (by omega)
    have hbyteCount : convertCount mode quota.byteCount reservation.reservationByteCount =
        some (quota.byteCount +
          if mode = .finalize then reservation.reservationByteCount else 0) :=
      convertCount_eq (by omega)
    rw [hreserved, hreservedBytes, hcount, hbyteCount]
    have hadded := ite_le_self mode reservation.reservationOperationCount
    have haddedBytes := ite_le_self mode reservation.reservationByteCount
    by_cases hmax : quota.rowVersion < uint63Max
    · have hnext : addUint63 quota.rowVersion 1 = some (quota.rowVersion + 1) :=
        addUint63_eq_some.mpr ⟨by omega, by omega⟩
      rw [hnext]
      dsimp only
      rw [if_neg (by omega)]
      constructor
      · intro h
        exact ⟨held, hmax, (Except.ok.inj h).symm⟩
      · rintro ⟨-, -, rfl⟩
        rfl
    · have hnone : addUint63 quota.rowVersion 1 = none := by
        unfold addUint63
        dsimp only
        rw [if_pos (Or.inr (by omega))]
      rw [hnone]
      constructor
      · intro h
        cases h
      · rintro ⟨-, hlt, -⟩
        exact absurd hlt hmax

end

end JbChat.Delivery.QuotaRules
