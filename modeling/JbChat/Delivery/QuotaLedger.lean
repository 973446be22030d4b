/- source: src/production/delivery/state.ts, appendPersistence.ts
   digest: What a whole quota conversion does, and when it is accepted. -/

import JbChat.Delivery.QuotaRules

set_option autoImplicit false

namespace JbChat.Delivery.QuotaLedger

open Foundation.GapFree Foundation.HashTrace Foundation.Transaction
open ValueObjects Snapshot Quota QuotaRules

section

variable {amount : ApplicationAppendQuotaCapacityReservation → Nat} {scope : QuotaScope}
  {reservations : List ApplicationAppendQuotaCapacityReservation}

def capacityAt (amount : ApplicationAppendQuotaCapacityReservation → Nat) (scope : QuotaScope)
    (reservations : List ApplicationAppendQuotaCapacityReservation) : Nat :=
  ((keyed (fun reservation => reservation.scope) scope reservations).map amount).sum

theorem capacityAt_append (xs ys : List ApplicationAppendQuotaCapacityReservation) :
    capacityAt amount scope (xs ++ ys) = capacityAt amount scope xs + capacityAt amount scope ys := by
  unfold capacityAt keyed
  rw [List.filter_append, List.map_append, List.sum_append]

theorem capacityAt_flatten_append (sets : List (List ApplicationAppendQuotaCapacityReservation))
    (reservations : List ApplicationAppendQuotaCapacityReservation) :
    capacityAt amount scope (sets ++ [reservations]).flatten =
      capacityAt amount scope sets.flatten + capacityAt amount scope reservations := by
  rw [List.flatten_append, List.flatten_singleton, capacityAt_append]

theorem capacityAt_flatten_split (before after : List (List ApplicationAppendQuotaCapacityReservation))
    (reservations : List ApplicationAppendQuotaCapacityReservation) :
    capacityAt amount scope (before ++ reservations :: after).flatten =
      capacityAt amount scope (before ++ after).flatten + capacityAt amount scope reservations := by
  rw [List.flatten_append, List.flatten_cons, List.flatten_append, capacityAt_append,
    capacityAt_append, capacityAt_append]
  omega

theorem capacityAt_le_flatten (amount : ApplicationAppendQuotaCapacityReservation → Nat)
    (scope : QuotaScope) {sets : List (List ApplicationAppendQuotaCapacityReservation)}
    (hmem : reservations ∈ sets) :
    capacityAt amount scope reservations ≤ capacityAt amount scope sets.flatten := by
  obtain ⟨before, after, rfl⟩ := List.append_of_mem hmem
  rw [capacityAt_flatten_split]
  exact Nat.le_add_left _ _

theorem capacityAt_of_mem
    (scopes : (reservations.map fun reservation => reservation.scope) = quotaScopes)
    {reservation : ApplicationAppendQuotaCapacityReservation} (hmem : reservation ∈ reservations)
    (hscope : reservation.scope = scope) :
    capacityAt amount scope reservations = amount reservation := by
  unfold capacityAt
  rw [← hscope, keyed_scope scopes hmem]
  simp

end

section

variable {H : HashFunction} {mode : ConversionMode}
  {reservations : List ApplicationAppendQuotaCapacityReservation}
  {reservation : ApplicationAppendQuotaCapacityReservation} {quota : LockedQuotaCounter}
  {quotas : List LockedQuotaCounter} {digest tokenHash : Bytes} {generation : Nat}

/-- The row after the reservation of its scope was consumed or released. -/
def convertedBy (mode : ConversionMode)
    (reservations : List ApplicationAppendQuotaCapacityReservation) (quota : LockedQuotaCounter) :
    LockedQuotaCounter :=
  converted mode
    (capacityAt (fun reservation => reservation.reservationOperationCount) quota.scope reservations)
    (capacityAt (fun reservation => reservation.reservationByteCount) quota.scope reservations) quota

/-- The row holds its reservation and its version can still move. -/
def Convertible (reservations : List ApplicationAppendQuotaCapacityReservation)
    (quota : LockedQuotaCounter) : Prop :=
  quota.rowVersion < uint63Max ∧
    ∀ reservation ∈ reservations, reservation.scope = quota.scope → HeldBy quota reservation

theorem convertedBy_of_mem
    (scopes : (reservations.map fun reservation => reservation.scope) = quotaScopes)
    (hmem : reservation ∈ reservations) (hscope : reservation.scope = quota.scope) :
    convertedBy mode reservations quota = converted mode reservation.reservationOperationCount
      reservation.reservationByteCount quota := by
  unfold convertedBy
  rw [capacityAt_of_mem scopes hmem hscope, capacityAt_of_mem scopes hmem hscope]

theorem convertRows_eq_ok
    (scopes : (reservations.map fun reservation => reservation.scope) = quotaScopes)
    {after : List LockedQuotaCounter} (valid : ∀ quota ∈ quotas, ValidCounter quota) :
    convertRows mode reservations quotas = .ok after ↔
      (∀ quota ∈ quotas, Convertible reservations quota) ∧
        after = quotas.map (convertedBy mode reservations) := by
  induction quotas generalizing after with
  | nil => simp [convertRows, eq_comm]
  | cons quota quotas ih =>
    obtain ⟨hvalid, hvalids⟩ := List.forall_mem_cons.mp valid
    obtain ⟨reservation, hmem, hscope⟩ := exists_scope scopes quota.scope
    have hfind : (reservations.find? fun other => decide (other.scope = quota.scope)) =
        some reservation := by
      rw [← hscope]
      exact find_scope scopes hmem
    have hunique : ∀ other ∈ reservations, other.scope = quota.scope → other = reservation := by
      intro other hother hsame
      have hfound := find_scope scopes hother
      rw [hsame, hfind] at hfound
      exact (Option.some.inj hfound).symm
    unfold convertRows
    simp only [hfind, bind_ok, convertRow_eq_ok hvalid, ih hvalids,
      List.forall_mem_cons, List.map_cons]
    rw [convertedBy_of_mem scopes hmem hscope]
    constructor
    · rintro ⟨_, ⟨hheld, hversion, rfl⟩, _, ⟨hrest, rfl⟩, h⟩
      refine ⟨⟨⟨hversion, ?_⟩, hrest⟩, (Except.ok.inj h).symm⟩
      intro other hother hsame
      rw [hunique other hother hsame]
      exact hheld
    · rintro ⟨⟨⟨hversion, hheld⟩, hrest⟩, rfl⟩
      exact ⟨_, ⟨hheld reservation hmem hscope, hversion, rfl⟩, _, ⟨hrest, rfl⟩, rfl⟩

structure OwnedBy (digest : Bytes) (generation : Nat) (tokenHash : Bytes)
    (reservation : ApplicationAppendQuotaCapacityReservation) : Prop where
  state : reservation.state = .live
  digest : reservation.pendingPreparationDigest = digest
  generation : reservation.fenceGeneration = generation
  token : reservation.fenceTokenHash = tokenHash

theorem any_not_owned_iff :
    ((reservations.any fun reservation => decide (reservation.state ≠ .live ∨
      reservation.pendingPreparationDigest ≠ digest ∨ reservation.fenceGeneration ≠ generation ∨
      reservation.fenceTokenHash ≠ tokenHash)) = true) ↔
        ¬ ∀ reservation ∈ reservations, OwnedBy digest generation tokenHash reservation := by
  rw [List.any_eq_true, not_forall]
  simp only [decide_eq_true_eq]
  constructor
  · rintro ⟨reservation, hmem, hother⟩
    refine ⟨reservation, fun howned => ?_⟩
    rcases hother with h | h | h | h
    · exact h (howned hmem).state
    · exact h (howned hmem).digest
    · exact h (howned hmem).generation
    · exact h (howned hmem).token
  · rintro ⟨reservation, hnot⟩
    push Not at hnot
    obtain ⟨hmem, hnot⟩ := hnot
    refine ⟨reservation, hmem, ?_⟩
    by_contra hall
    push Not at hall
    exact hnot ⟨hall.1, hall.2.1, hall.2.2.1, hall.2.2.2⟩

theorem validate_eq_ok {input : QuotaConversionInput} {conversion : QuotaConversion}
    (counters : Counters input.currentQuotas)
    (scopes : (input.currentCapacityReservations.map fun reservation => reservation.scope) =
      quotaScopes)
    (h : validateQuotaCapacityConversion H input mode = .ok conversion) :
    (∀ quota ∈ input.currentQuotas, Convertible input.currentCapacityReservations quota) ∧
      Counters conversion.quotas ∧
      conversion.quotas =
        input.currentQuotas.map (convertedBy mode input.currentCapacityReservations) := by
  unfold validateQuotaCapacityConversion at h
  rw [parseLockedQuotaCounters_of_counters counters] at h
  change (parseApplicationAppendQuotaCapacityReservations H input.currentCapacityReservations >>=
    _) = _ at h
  obtain ⟨parsed, hparsed, h⟩ := bind_ok.mp h
  obtain rfl := parseReservations_eq_ok scopes hparsed
  obtain ⟨_, -, h⟩ := bind_ok.mp h
  obtain ⟨_, -, h⟩ := bind_ok.mp h
  obtain ⟨_, -, h⟩ := bind_ok.mp h
  split_ifs at h
  obtain ⟨expected, hexpected, h⟩ := bind_ok.mp h
  obtain ⟨prepared, hprepared, h⟩ := bind_ok.mp h
  obtain ⟨terminal, -, h⟩ := bind_ok.mp h
  obtain ⟨hconvertible, rfl⟩ := (convertRows_eq_ok scopes counters.valid).mp hexpected
  dsimp only at h
  split_ifs at h with hsame hterminal
  cases h
  exact ⟨hconvertible, parseLockedQuotaCounters_eq_ok hprepared, not_not.mp hsame⟩

theorem validCounter_converted (valid : ValidCounter quota) {operations bytes : Nat}
    (hoperations : operations ≤ quota.reservedOperationCount)
    (hbytes : bytes ≤ quota.reservedByteCount) (hversion : quota.rowVersion < uint63Max) :
    ValidCounter (converted mode operations bytes quota) := by
  have hspent := valid.operations
  have hspentBytes := valid.bytes
  refine ⟨valid.scopeHash, valid.quotaName, valid.windowStartedAt, valid.windowSeconds, hversion,
    valid.operationLimit, valid.byteLimit, ?_, ?_⟩
  · change (quota.operationCount + if mode = .finalize then operations else 0) +
      (quota.reservedOperationCount - operations) ≤ quota.operationLimit
    split_ifs <;> omega
  · change (quota.byteCount + if mode = .finalize then bytes else 0) +
      (quota.reservedByteCount - bytes) ≤ quota.byteLimit
    split_ifs <;> omega

theorem counters_convertedBy (counters : Counters quotas)
    (scopes : (reservations.map fun reservation => reservation.scope) = quotaScopes)
    (convertible : ∀ quota ∈ quotas, Convertible reservations quota) :
    Counters (quotas.map (convertedBy mode reservations)) := by
  constructor
  · intro after hafter
    obtain ⟨quota, hquota, rfl⟩ := List.mem_map.mp hafter
    obtain ⟨hversion, hheld⟩ := convertible quota hquota
    obtain ⟨reservation, hmem, hscope⟩ := exists_scope scopes quota.scope
    have held := hheld reservation hmem hscope
    rw [convertedBy_of_mem scopes hmem hscope]
    exact validCounter_converted (counters.valid quota hquota) held.operations held.bytes hversion
  · rw [List.map_map, ← counters.scopes]
    rfl

private theorem uint63FromBigInt_natCast {value : Nat} (h : value ≤ uint63Max) :
    uint63FromBigInt (value : Int) = .ok value := by
  unfold uint63FromBigInt
  rw [if_neg (by omega)]
  rfl

private theorem prepareCount_eq {count reservation : Nat} (h : count + reservation ≤ uint63Max) :
    prepareCount mode count reservation =
      .ok (count + if mode = .finalize then reservation else 0) := by
  cases mode with
  | finalize => exact uint63FromBigInt_natCast h
  | release => rfl

theorem prepareRow_of_held (valid : ValidCounter quota) (held : HeldBy quota reservation)
    (hversion : quota.rowVersion < uint63Max) :
    prepareRow mode reservation quota = .ok (converted mode reservation.reservationOperationCount
      reservation.reservationByteCount quota) := by
  have hoperations := valid.operations
  have hbytes := valid.bytes
  have hoperationLimit := valid.operationLimit
  have hbyteLimit := valid.byteLimit
  have hheldOperations := held.operations
  have hheldBytes := held.bytes
  unfold prepareRow
  rw [prepareCount_eq (by omega), prepareCount_eq (by omega),
    ← Nat.cast_sub hheldOperations, ← Nat.cast_sub hheldBytes, ← Nat.cast_succ,
    uint63FromBigInt_natCast (by omega), uint63FromBigInt_natCast (by omega),
    uint63FromBigInt_natCast hversion]
  rfl

theorem prepareRows_of_convertible
    (scopes : (reservations.map fun reservation => reservation.scope) = quotaScopes)
    (valid : ∀ quota ∈ quotas, ValidCounter quota)
    (convertible : ∀ quota ∈ quotas, Convertible reservations quota) :
    prepareRows mode reservations quotas = .ok (quotas.map (convertedBy mode reservations)) := by
  induction quotas with
  | nil => rfl
  | cons quota quotas ih =>
    obtain ⟨hvalid, hvalids⟩ := List.forall_mem_cons.mp valid
    obtain ⟨⟨hversion, hheld⟩, hrest⟩ := List.forall_mem_cons.mp convertible
    obtain ⟨reservation, hmem, hscope⟩ := exists_scope scopes quota.scope
    have hfind : (reservations.find? fun other => decide (other.scope = quota.scope)) =
        some reservation := by
      rw [← hscope]
      exact find_scope scopes hmem
    unfold prepareRows
    simp only [hfind]
    rw [prepareRow_of_held hvalid (hheld reservation hmem hscope) hversion, ih hvalids hrest,
      List.map_cons, convertedBy_of_mem scopes hmem hscope]
    rfl

def terminated (mode : ConversionMode)
    (reservations : List ApplicationAppendQuotaCapacityReservation) :
    List ApplicationAppendQuotaCapacityReservation :=
  reservations.map fun reservation => { reservation with state := mode.terminalState }

theorem reservations_terminated (usable : Reservations H reservations) :
    Reservations H (terminated mode reservations) := by
  unfold terminated
  refine ⟨?_, ?_, ?_, ?_⟩
  · intro reservation hmem
    obtain ⟨live, hlive, rfl⟩ := List.mem_map.mp hmem
    have bound := usable.bound live hlive
    exact ⟨bound.delta, bound.digest, bound.generation, bound.token, bound.id⟩
  · rw [List.map_map]
    exact usable.scopes
  · intro reservation hmem
    obtain ⟨live, hlive, rfl⟩ := List.mem_map.mp hmem
    exact usable.nonZero live hlive
  · rw [List.map_map]
    exact usable.distinct

theorem validate_accepts (counters : Counters quotas) (usable : Reservations H reservations)
    (owned : ∀ reservation ∈ reservations, OwnedBy digest generation tokenHash reservation)
    (convertible : ∀ quota ∈ quotas, Convertible reservations quota) (mode : ConversionMode) :
    ∃ input, quotaConversionInput ⟨quotas, reservations, digest, generation, tokenHash⟩ mode =
        .ok input ∧ validateQuotaCapacityConversion H input mode =
          .ok ⟨quotas.map (convertedBy mode reservations), terminated mode reservations⟩ := by
  have scopes := usable.scopes
  refine ⟨⟨quotas, reservations, digest, generation, tokenHash,
    quotas.map (convertedBy mode reservations), terminated mode reservations⟩, ?_, ?_⟩
  · unfold quotaConversionInput
    dsimp only
    rw [prepareRows_of_convertible scopes counters.valid convertible]
    rfl
  · obtain ⟨reservation, hmem, -⟩ := exists_scope scopes .tenant
    have bound := usable.bound reservation hmem
    have howned := owned reservation hmem
    have hdigest := bound.digest
    have hgeneration := bound.generation
    have htoken := bound.token
    rw [howned.digest] at hdigest
    rw [howned.generation] at hgeneration
    rw [howned.token] at htoken
    unfold validateQuotaCapacityConversion
    simp only [bind_ok, checkHash32_eq_ok, parsePositiveUint63_eq_ok,
      parseNonZeroHash32_eq_ok]
    refine ⟨_, parseLockedQuotaCounters_of_counters counters, _,
      parseReservations_of_reservations usable, _, ⟨hdigest, rfl⟩, _,
      ⟨hgeneration.1, hgeneration.2, rfl⟩, _, ⟨htoken.1, htoken.2, rfl⟩, ?_⟩
    rw [if_neg fun hany => any_not_owned_iff.mp hany owned]
    simp only [bind_ok]
    refine ⟨_, (convertRows_eq_ok scopes counters.valid).mpr ⟨convertible, rfl⟩, _,
      parseLockedQuotaCounters_of_counters (counters_convertedBy counters scopes convertible), _,
      parseReservations_of_reservations (reservations_terminated usable), ?_⟩
    unfold terminated
    rw [if_neg (not_not.mpr rfl), if_neg (not_not.mpr rfl)]

end

end JbChat.Delivery.QuotaLedger
